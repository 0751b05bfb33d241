/-
This file says where the password of a URL stands. In a text under one of the schemes of
the web it is what follows the first colon behind the slashes, as far as the last mark in
front of the host. Another text may be put in its place, marks and all, as long as the part
in front of the path does not end in it; what is read is the same URL with another password.
-/

import FleetView.Proofs.Userinfo

namespace FleetView.Url

/-! ### Cutting in front of the host -/

/-- Nothing in front of a character of another kind is dropped behind it. -/
theorem takeWhile_append_cons {stays : Char → Bool} {mark : Char} (stops : stays mark = false)
    (front rest : List Char) :
    (front ++ mark :: rest).takeWhile stays = front.takeWhile stays := by
  rw [List.takeWhile_append, List.takeWhile_cons_of_neg (Bool.eq_false_iff.mp stops),
    List.append_nil]
  split
  · rename_i whole
    exact ((List.takeWhile_prefix stays).eq_of_length whole).symm
  · rfl

theorem cutBefore_append {stops : Char → Bool} {front : List Char}
    (free : ∀ char ∈ front, stops char = false) (rest : List Char) :
    cutBefore stops (front ++ rest) =
      (front ++ (cutBefore stops rest).1, (cutBefore stops rest).2) := by
  have stays : ∀ char ∈ front, (!stops char) = true :=
    fun char member => congrArg (!·) (free char member)
  rw [cutBefore, List.takeWhile_append_of_pos stays, List.dropWhile_append_of_pos stays]
  rfl

theorem dropWhile_append_cons {drops : Char → Bool} {mark : Char} (stops : drops mark = false)
    (front rest : List Char) :
    (front ++ mark :: rest).dropWhile drops = front.dropWhile drops ++ mark :: rest := by
  rw [List.dropWhile_append, List.dropWhile_cons_of_neg (Bool.eq_false_iff.mp stops)]
  split
  · rename_i empty
    rw [List.isEmpty_iff.mp empty, List.nil_append]
  · rfl

/-- The last mark ends what stands in front of the host. -/
theorem cutUserinfo_append (kind : SchemeKind) (behind : List Char) :
    ∃ more rest, ∀ front : List Char, (∀ char ∈ front, endsAuthority kind char = false) →
      cutUserinfo kind (front ++ '@' :: behind) = (some (front ++ more), rest) := by
  have mark : endsAuthority kind '@' = false := by cases kind <;> rfl
  obtain ⟨within, beyond, cut⟩ : ∃ within beyond, cutBefore (endsAuthority kind) ('@' :: behind) =
      ('@' :: within, beyond) :=
    ⟨_, _, cutBefore_append (List.forall_mem_singleton.mpr mark) behind⟩
  obtain ⟨host, named⟩ : ∃ host, (within.reverse.takeWhile (· ≠ '@')).reverse = host := ⟨_, rfl⟩
  refine ⟨('@' :: within).take (within.length - host.length), host ++ beyond, fun front free => ?_⟩
  have reversed : (front ++ '@' :: within).reverse = within.reverse ++ '@' :: front.reverse := by
    simp only [List.reverse_append, List.reverse_cons, List.append_assoc, List.singleton_append]
  have short : host.length ≤ within.length := by
    rw [← named, List.length_reverse]
    exact (List.takeWhile_prefix _).length_le.trans_eq List.length_reverse
  have length : (front ++ '@' :: within).length = front.length + 1 + within.length := by
    simp only [List.length_append, List.length_cons]
    omega
  have left : front.length + 1 + within.length - host.length - 1 =
      front.length + (within.length - host.length) := by
    omega
  rw [cutUserinfo, cutBefore_append free, cut]
  dsimp only
  rw [reversed, takeWhile_append_cons (by decide), named, length, if_neg (by omega), left,
    List.take_length_add_append]

theorem readUserinfo_username (name one other : List Char) :
    (readUserinfo (name ++ ':' :: one)).1 = (readUserinfo (name ++ ':' :: other)).1 := by
  simp only [readUserinfo, cutBefore]
  rw [takeWhile_append_cons rfl, takeWhile_append_cons rfl]

/-- Under the schemes of the web, what is read behind the slashes depends on the password for
nothing but the password. -/
theorem readAuthority_alike {scheme : String} (web : SchemeKind.of scheme = .web)
    {name one other : List Char}
    (free : ∀ char ∈ name ++ ':' :: one, endsAuthority .web char = false)
    (otherFree : ∀ char ∈ name ++ ':' :: other, endsAuthority .web char = false)
    (behind : List Char) :
    (readAuthority scheme (name ++ ':' :: one ++ '@' :: behind)).map withoutPassword =
      (readAuthority scheme (name ++ ':' :: other ++ '@' :: behind)).map withoutPassword := by
  obtain ⟨more, rest, cut⟩ := cutUserinfo_append .web behind
  have filled : ∀ password (emptied : Prop),
      ¬ (some (name ++ ':' :: password ++ more) = some [] ∧ emptied) := by
    intro password emptied both
    simp at both
  have named := readUserinfo_username name (one ++ more) (other ++ more)
  rw [← List.cons_append, ← List.cons_append, ← List.append_assoc, ← List.append_assoc] at named
  unfold readAuthority
  rw [web]
  dsimp only
  rw [cut _ free, cut _ otherFree]
  dsimp only
  rw [if_neg (filled one _), if_neg (filled other _), Option.getD_some, Option.getD_some]
  generalize readUserinfo (name ++ ':' :: one ++ more) = read at named
  generalize readUserinfo (name ++ ':' :: other ++ more) = otherRead at named
  obtain ⟨username, password⟩ := read
  obtain ⟨otherUsername, otherPassword⟩ := otherRead
  obtain rfl : username = otherUsername := named
  obtain ⟨host, behindHost⟩ := cutHost .web false rest
  dsimp only
  have special : SchemeKind.web.isSpecial = true := rfl
  rw [if_pos special, if_pos special]
  by_cases missing : host = []
  · rw [if_pos missing, if_pos missing]
    split <;> rfl
  · rw [if_neg missing, if_neg missing]
    cases Host.parse host with
    | error flaw => split <;> rfl
    | ok host =>
      split
      · rename_i port
        cases readPort none port with
        | error flaw => rfl
        | ok read => rfl
      · rfl

/-! ### Whole texts -/

/-- What is dropped behind a character that stays does not depend on what is in front of it. -/
theorem trimBoth_append {drops : Char → Bool} {first mark : Char} (stays : drops first = false)
    (stops : drops mark = false) (behind : List Char) :
    ∃ rest, ∀ front, Text.trimBoth drops (first :: front ++ mark :: behind) =
      first :: front ++ mark :: rest := by
  refine ⟨(behind.reverse.dropWhile drops).reverse, fun front => ?_⟩
  have reversed : (first :: front ++ mark :: behind).reverse =
      behind.reverse ++ mark :: (first :: front).reverse := by
    rw [List.reverse_append, List.reverse_cons, List.append_assoc, List.singleton_append]
  rw [Text.trimBoth, List.cons_append, List.dropWhile_cons_of_neg (Bool.eq_false_iff.mp stays),
    ← List.cons_append, reversed, dropWhile_append_cons stops, List.reverse_append,
    List.reverse_cons, List.reverse_reverse, List.append_assoc, List.singleton_append]

/-- A text of the web is read behind its scheme and the slashes. -/
theorem parse_of_web {scheme : String} (web : scheme = "http" ∨ scheme = "https") {text : String}
    {shown : List Char}
    (trimmed : Text.trimBoth atEnds text.toList = scheme.toList ++ ':' :: '/' :: '/' :: shown) :
    parse text = readAuthority scheme ((unbroken shown).dropWhile (isSlash .web)) := by
  rcases web with rfl | rfl
  · unfold parse
    rw [trimmed, show "http".toList = ['h', 't', 't', 'p'] from rfl]
    rfl
  · unfold parse
    rw [trimmed, show "https".toList = ['h', 't', 't', 'p', 's'] from rfl]
    rfl

theorem not_isSlash {kind : SchemeKind} {char : Char} (within : endsAuthority kind char = false) :
    ¬ isSlash kind char = true := by
  simp only [endsAuthority, Bool.or_eq_false_iff] at within
  rw [isSlash, within.1.1, within.2]
  decide

/-- Whether a text can stand in front of the path: nothing in it ends that part. -/
def Fits (text : String) : Prop := text.toList.any (endsAuthority .web) = false

theorem Fits.not_endsAuthority {text : String} (fits : Fits text) {char : Char}
    (member : char ∈ text.toList) : endsAuthority .web char = false :=
  Bool.eq_false_iff.mpr (List.any_eq_false.mp fits char member)

/-- Name and password are read behind the slashes as they stand in the text, without breaks. -/
theorem parse_eq_readAuthority {scheme : String} (web : scheme = "http" ∨ scheme = "https")
    (behind : String) :
    ∃ rest, ∀ name password : String, Fits name →
      parse (scheme ++ "://" ++ (name ++ ":" ++ password ++ "@" ++ behind)) =
        readAuthority scheme
          (unbroken name.toList ++ ':' :: unbroken password.toList ++ '@' :: rest) := by
  obtain ⟨tail, starts⟩ : ∃ tail, scheme.toList = 'h' :: tail := by
    rcases web with rfl | rfl <;> exact ⟨_, rfl⟩
  have stays : atEnds 'h' = false ∧ atEnds '@' = false := by decide
  obtain ⟨rest, trimmed⟩ := trimBoth_append stays.1 stays.2 behind.toList
  refine ⟨unbroken rest, fun name password free => ?_⟩
  have chars : (scheme ++ "://" ++ (name ++ ":" ++ password ++ "@" ++ behind)).toList =
      'h' :: (tail ++ ':' :: '/' :: '/' :: (name.toList ++ ':' :: password.toList)) ++
        '@' :: behind.toList := by
    simp [starts]
  have kept : (unbroken name.toList).dropWhile (isSlash .web) = unbroken name.toList := by
    cases shown : unbroken name.toList with
    | nil => rfl
    | cons char more =>
      have there : char ∈ unbroken name.toList := shown ▸ List.mem_cons_self
      exact List.dropWhile_cons_of_neg (not_isSlash (free.not_endsAuthority (List.mem_of_mem_filter there)))
  have shown : unbroken (name.toList ++ ':' :: password.toList ++ '@' :: rest) =
      unbroken name.toList ++ ':' :: unbroken password.toList ++ '@' :: unbroken rest := by
    simp only [unbroken, List.filter_append]
    rfl
  have trimmedText : Text.trimBoth atEnds
      (scheme ++ "://" ++ (name ++ ":" ++ password ++ "@" ++ behind)).toList =
        scheme.toList ++ ':' :: '/' :: '/' ::
          (name.toList ++ ':' :: password.toList ++ '@' :: rest) := by
    rw [chars, trimmed, starts]
    simp only [List.cons_append, List.append_assoc]
  rw [parse_of_web web trimmedText, shown, dropWhile_append_cons rfl, dropWhile_append_cons rfl,
    kept]

/-- Texts of the web that differ in the password only are read as the same URL but for the
password. -/
theorem parse_alike {scheme : String} (web : scheme = "http" ∨ scheme = "https")
    {name one other : String} (nameFree : Fits name) (free : Fits one) (otherFree : Fits other)
    (behind : String) :
    (parse (scheme ++ "://" ++ (name ++ ":" ++ one ++ "@" ++ behind))).map withoutPassword =
      (parse (scheme ++ "://" ++ (name ++ ":" ++ other ++ "@" ++ behind))).map withoutPassword := by
  obtain ⟨rest, read⟩ := parse_eq_readAuthority web behind
  have within : ∀ {password : String}, Fits password →
      ∀ char ∈ unbroken name.toList ++ ':' :: unbroken password.toList,
        endsAuthority .web char = false := by
    intro password free char member
    rcases List.mem_append.mp member with there | there
    · exact nameFree.not_endsAuthority (List.mem_of_mem_filter there)
    · rcases List.mem_cons.mp there with rfl | there
      · rfl
      · exact free.not_endsAuthority (List.mem_of_mem_filter there)
  rw [read name one nameFree, read name other nameFree]
  exact readAuthority_alike (schemeKind_of_web web) (within free) (within otherFree) rest

/-! ### Addresses -/

/-- The URL of the web that a text is. -/
def web? (text : String) : Option Url :=
  (parse text).toOption.filter fun url => url.scheme = "http" ∨ url.scheme = "https"

theorem web?_eq_some_iff {text : String} {url : Url} :
    web? text = some url ↔ parse text = .ok url ∧ (url.scheme = "http" ∨ url.scheme = "https") := by
  rw [web?, Option.filter_eq_some_iff, decide_eq_true_eq, and_congr_left_iff]
  intro _
  cases parse text with
  | error flaw => exact iff_of_false nofun nofun
  | ok other => rw [Except.toOption, Option.some.injEq, Except.ok.injEq]

/-- A URL is one of the web with its password or without. -/
theorem map_withoutPassword_web? (text : String) :
    (web? text).map withoutPassword = ((parse text).map withoutPassword).toOption.filter fun url =>
      url.scheme = "http" ∨ url.scheme = "https" := by
  rw [web?]
  cases parse text with
  | error flaw => rfl
  | ok url =>
    show (Option.filter _ (some url)).map _ = Option.filter _ (some url.withoutPassword)
    rw [Option.filter_some, Option.filter_some]
    exact apply_ite (Option.map withoutPassword) _ _ _

/-- Whether addresses are the same but for the passwords in them: if the one is a URL of the web,
so is the other, and they differ in the password only. -/
def SameButPassword (one other : String) : Prop :=
  (web? one).map withoutPassword = (web? other).map withoutPassword

/-- Putting another password into a text makes no other difference. -/
theorem sameButPassword {scheme : String} (web : scheme = "http" ∨ scheme = "https")
    {name one other : String} (nameFree : Fits name) (free : Fits one) (otherFree : Fits other)
    (behind : String) :
    SameButPassword (scheme ++ "://" ++ (name ++ ":" ++ one ++ "@" ++ behind))
      (scheme ++ "://" ++ (name ++ ":" ++ other ++ "@" ++ behind)) := by
  rw [SameButPassword, map_withoutPassword_web?, map_withoutPassword_web?,
    parse_alike web nameFree free otherFree behind]

end FleetView.Url
