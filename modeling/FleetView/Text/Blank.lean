/-
This file says which characters count as blank and what it means for a text to
be blank. Names, keys and reasons that consist of blanks only are treated as
missing throughout the library, so the rule is stated once, here.
-/

namespace FleetView.Text

/-- The characters of Unicode's White_Space property. -/
def isBlank (char : Char) : Bool :=
  let code := char.toNat
  (0x09 ≤ code && code ≤ 0x0D) || code == 0x20 || code == 0x85 || code == 0xA0 ||
    code == 0x1680 || (0x2000 ≤ code && code ≤ 0x200A) || code == 0x2028 || code == 0x2029 ||
    code == 0x202F || code == 0x205F || code == 0x3000

/-- A text without a single character that can be seen. -/
def Blank (text : String) : Prop := ∀ char ∈ text.toList, isBlank char = true

instance (text : String) : Decidable (Blank text) :=
  List.decidableBAll (fun char => isBlank char = true) text.toList

/-- Drops the characters of the class from both ends. -/
def trimBoth (drops : Char → Bool) (chars : List Char) : List Char :=
  ((chars.dropWhile drops).reverse.dropWhile drops).reverse

/-- Drops the blanks at both ends. -/
def trim (text : String) : String := String.ofList (trimBoth isBlank text.toList)

/-- Upper case ASCII letters become lower case, every other character stays. -/
def lowerAscii (text : String) : String := String.ofList (text.toList.map Char.toLower)

/-- Cuts at every occurrence of the mark; there is always at least one part. -/
def splitOn (mark : Char) : List Char → List (List Char)
  | [] => [[]]
  | char :: rest =>
    if char = mark then [] :: splitOn mark rest
    else match splitOn mark rest with
      | [] => [[char]]
      | part :: parts => (char :: part) :: parts

/-- Puts the mark between the parts. -/
def joinWith (mark : String) : List String → String
  | [] => ""
  | [part] => part
  | part :: parts => part ++ mark ++ joinWith mark parts

end FleetView.Text
