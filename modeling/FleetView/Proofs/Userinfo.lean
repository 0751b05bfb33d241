/-
This file is about the password that a URL can have in front of its host. What is read as
a name or a password is encoded, so no mark and no line end is left in it. The part in
front of the host therefore ends at its only mark, and it can be told from the text of the
URL: of two URLs that differ in their passwords only, the texts differ in their first line,
and in nothing but the password. In particular the texts have as many lines as each other.
-/

import FleetView.Proofs.Paths
import FleetView.Proofs.Tables

namespace FleetView

namespace Percent

/-- What is encoded is not left in a text, unless encoding brings it in. -/
theorem not_mem_encode {set : Char → Bool} {char : Char} (hidden : set char = true)
    (other : char ≠ '%') (digit : char.isAlphanum = false) (text : List Char) :
    char ∉ encode set text := by
  have digits : ∀ value, value < 16 → (hexDigit value).isAlphanum = true := by decide
  intro member
  obtain ⟨shown, -, there⟩ := List.mem_flatMap.mp member
  unfold encodeChar at there
  split at there
  · obtain ⟨byte, -, within⟩ := List.mem_flatMap.mp there
    have small := byte.toNat_lt
    simp only [encodeByte, List.mem_cons, List.not_mem_nil, or_false] at within
    rcases within with same | same | same
    · exact other same
    · rw [same, digits _ (by omega)] at digit
      cases digit
    · rw [same, digits _ (by omega)] at digit
      cases digit
  · rename_i plain
    rw [← List.mem_singleton.mp there, hidden, Bool.true_or] at plain
    exact plain rfl

end Percent

namespace Authority

/-- Whether a character stands neither in the name nor in the password. -/
structure Lacks (authority : Authority) (char : Char) : Prop where
  username : char ∉ authority.username.toList
  password : ∀ password, authority.password = some password → char ∉ password.toList

/-- A name and a password as they are written one behind the other. -/
def signed (authority : Authority) : String :=
  authority.username ++ Url.marked ":" authority.password

theorem userinfo_eq (authority : Authority) :
    authority.userinfo =
      if authority.username = "" ∧ authority.password = none then "" else authority.signed ++ "@" :=
  rfl

variable {one other : Authority}

theorem Lacks.not_mem_signed {char : Char} (lacks : one.Lacks char) (unlike : char ≠ ':') :
    char ∉ one.signed.toList := by
  rw [signed, String.toList_append, List.mem_append, not_or]
  refine ⟨lacks.username, ?_⟩
  cases held : one.password with
  | none => exact List.not_mem_nil
  | some password =>
    rw [Url.marked, String.toList_append, List.mem_append, not_or]
    exact ⟨fun found => unlike (List.mem_singleton.mp found), lacks.password password held⟩

theorem Lacks.not_mem_userinfo {char : Char} (lacks : one.Lacks char) (unlike : char ≠ ':')
    (unmarked : char ≠ '@') : char ∉ one.userinfo.toList := by
  rw [userinfo_eq]
  split
  · exact List.not_mem_nil
  · rw [String.toList_append, List.mem_append, not_or]
    exact ⟨lacks.not_mem_signed unlike, fun found => unmarked (List.mem_singleton.mp found)⟩

/-- There is one mark where there is a name or a password. -/
theorem Lacks.count_userinfo (lacks : one.Lacks '@') :
    one.userinfo.toList.count '@' = if one.username = "" ∧ one.password = none then 0 else 1 := by
  rw [userinfo_eq]
  split
  · rfl
  · rw [String.toList_append, List.count_append,
      List.count_eq_zero.mpr (lacks.not_mem_signed (by decide))]
    rfl

/-- Behind the same name, different passwords look different. -/
theorem password_of_signed_eq (named : one.username = other.username)
    (same : one.signed = other.signed) : one.password = other.password := by
  rw [signed, signed, named, String.append_right_inj] at same
  cases held : one.password with
  | none =>
    cases otherHeld : other.password with
    | none => rfl
    | some password =>
      rw [held, otherHeld] at same
      exact absurd (String.append_eq_empty_iff.mp same.symm).1 (by decide)
  | some password =>
    cases otherHeld : other.password with
    | none =>
      rw [held, otherHeld] at same
      exact absurd (String.append_eq_empty_iff.mp same).1 (by decide)
    | some otherPassword =>
      rw [held, otherHeld] at same
      exact congrArg some ((String.append_right_inj _).mp same)

/-- They do so in front of the same text, whatever spaces are behind it. -/
theorem password_of_append_eq (named : one.username = other.username) (lacks : one.Lacks '@')
    (otherLacks : other.Lacks '@') {behind : List Char} {few many : Nat}
    (same : one.userinfo.toList ++ (behind ++ List.replicate few ' ') =
      other.userinfo.toList ++ (behind ++ List.replicate many ' ')) :
    one.password = other.password := by
  have counts := congrArg (List.count '@') same
  have blank : ∀ spaces, (List.replicate spaces ' ').count '@' = 0 := fun spaces =>
    List.count_eq_zero.mpr fun found => absurd (List.eq_of_mem_replicate found) (by decide)
  rw [List.count_append, List.count_append, List.count_append, List.count_append, blank, blank,
    Nat.add_right_cancel_iff, lacks.count_userinfo, otherLacks.count_userinfo] at counts
  rw [userinfo_eq, userinfo_eq] at same
  by_cases absent : one.username = "" ∧ one.password = none
  · by_cases otherAbsent : other.username = "" ∧ other.password = none
    · rw [absent.2, otherAbsent.2]
    · rw [if_pos absent, if_neg otherAbsent] at counts
      cases counts
  · by_cases otherAbsent : other.username = "" ∧ other.password = none
    · rw [if_neg absent, if_pos otherAbsent] at counts
      cases counts
    · rw [if_neg absent, if_neg otherAbsent, String.toList_append, String.toList_append,
        List.append_assoc, List.append_assoc] at same
      have cut : ∀ {authority : Authority}, authority.Lacks '@' → ∀ rest,
          (authority.signed.toList ++ ("@".toList ++ rest)).splitOn '@' =
            authority.signed.toList :: rest.splitOn '@' := fun lacks rest =>
        List.splitOn_append_cons_self_of_not_mem (lacks.not_mem_signed (by decide)) rest
      have parts := congrArg (List.splitOn '@') same
      rw [cut lacks, cut otherLacks] at parts
      exact password_of_signed_eq named (String.toList_inj.mp (List.cons.inj parts).1)

end Authority

namespace Url

/-- The password that a URL carries, as it is written in it. -/
def password? (url : Url) : Option String := url.authority.bind (·.password)

/-- The same URL without its password. -/
def withoutPassword (url : Url) : Url :=
  { url with authority := url.authority.map fun authority => { authority with password := none } }

/-! ### What is read -/

/-- Whether a character stands neither in the name nor in the password of a URL. -/
def Lacks (url : Url) (char : Char) : Prop :=
  ∀ authority, url.authority = some authority → authority.Lacks char

theorem readUserinfo_lacks {char : Char} (hidden : Percent.userinfo char = true)
    (other : char ≠ '%') (digit : char.isAlphanum = false) (text : List Char) (host : Option Host)
    (port : Option Nat) :
    Authority.Lacks ⟨(readUserinfo text).1, (readUserinfo text).2, host, port⟩ char := by
  have free : ∀ part, char ∉ (String.ofList (Percent.encode Percent.userinfo part)).toList :=
    fun part => String.toList_ofList ▸ Percent.not_mem_encode hidden other digit part
  unfold readUserinfo
  refine ⟨free _, fun password held => ?_⟩
  dsimp only at held
  split at held
  · exact Option.some.inj held ▸ free _
  · cases held

/-- What is encoded in a name and a password is not found in those that have been read. -/
theorem parse_lacks {char : Char} (hidden : Percent.userinfo char = true) (other : char ≠ '%')
    (digit : char.isAlphanum = false) {text : String} {url : Url} (parsed : parse text = .ok url) :
    url.Lacks char := by
  intro authority held
  cases finished_of_parse parsed with
  | placed scheme userinfo =>
    rw [← Option.some.inj held]
    exact readUserinfo_lacks hidden other digit userinfo _ _
  | file =>
    rw [← Option.some.inj held]
    exact ⟨List.not_mem_nil, fun _ password => by cases password⟩
  | rooted | whole => cases (held : (none : Option Authority) = some authority)

/-! ### Texts that differ in a password -/

/-- Whether the front of a URL can be read off its text: it is written in one line, and its only
mark is the one behind name and password. -/
structure Clear (url : Url) : Prop where
  scheme : '\n' ∉ url.scheme.toList
  unbroken : url.Lacks '\n'
  unmarked : url.Lacks '@'

theorem clear_of_parse {text : String} {url : Url} (parsed : parse text = .ok url)
    (web : url.scheme = "http" ∨ url.scheme = "https") : url.Clear where
  scheme := by rcases web with http | https <;> simp_all
  unbroken := parse_lacks rfl (by decide) rfl parsed
  unmarked := parse_lacks rfl (by decide) rfl parsed

/-- What stands in the text of a URL behind name and password. -/
def behindUserinfo (url : Url) (authority : Authority) : String :=
  authority.place ++ url.path.text ++ marked "?" url.query ++ marked "#" url.fragment

section

variable {one other : Url}

/-- URLs that differ in their passwords only have an authority in which they do. -/
theorem eq_or_exists_of_withoutPassword_eq (same : one.withoutPassword = other.withoutPassword) :
    one = other ∨ ∃ authority password, one.authority = some authority ∧
      other = { one with authority := some { authority with password } } := by
  obtain ⟨scheme, authority, path, query, fragment⟩ := one
  obtain ⟨otherScheme, otherAuthority, otherPath, otherQuery, otherFragment⟩ := other
  obtain ⟨rfl, authorities, rfl, rfl, rfl⟩ := Url.mk.inj same
  cases authority with
  | none =>
    cases otherAuthority with
    | none => exact Or.inl rfl
    | some otherAuthority => cases authorities
  | some authority =>
    cases otherAuthority with
    | none => cases authorities
    | some otherAuthority =>
      obtain ⟨username, password, host, port⟩ := authority
      obtain ⟨otherUsername, otherPassword, otherHost, otherPort⟩ := otherAuthority
      obtain ⟨rfl, -, rfl, rfl⟩ := Authority.mk.inj (Option.some.inj authorities)
      exact Or.inr ⟨_, otherPassword, rfl, rfl⟩

theorem eq_of_password?_eq (same : one.withoutPassword = other.withoutPassword)
    (password : one.password? = other.password?) : one = other := by
  rcases eq_or_exists_of_withoutPassword_eq same with rfl | ⟨authority, held, present, rfl⟩
  · rfl
  · rw [password?, present] at password
    obtain rfl : authority.password = held := password
    exact (congrArg (fun authority => { one with authority }) present.symm).symm

theorem text_of_authority {authority : Authority} (present : one.authority = some authority) :
    one.text = one.scheme ++ "://" ++ (authority.userinfo ++ one.behindUserinfo authority) := by
  simp only [text, present, behindUserinfo, Authority.text, String.append_assoc]
  rfl

theorem Clear.cellLines_text (clear : one.Clear) {authority : Authority}
    (present : one.authority = some authority) {line : List Char} {lines : List (List Char)}
    (cut : Text.cellLines (one.behindUserinfo authority) = line :: lines) :
    Text.cellLines one.text =
      ((one.scheme ++ "://").toList ++ (authority.userinfo.toList ++ line)) :: lines := by
  have front : '\n' ∉ (one.scheme ++ "://").toList := by
    rw [String.toList_append, List.mem_append, not_or]
    exact ⟨clear.scheme, by decide⟩
  have userinfo := (clear.unbroken authority present).not_mem_userinfo (by decide) (by decide)
  rw [Text.cellLines, text_of_authority present, String.toList_append,
    String.toList_append (s := authority.userinfo)]
  exact Text.splitOn_append front (Text.splitOn_append userinfo cut)

/-- URLs that differ in their passwords only have as many lines, and they are the same where the
first line looks the same. -/
theorem Clear.alike (clear : one.Clear) (otherClear : other.Clear)
    (same : one.withoutPassword = other.withoutPassword) :
    (Text.cellLines one.text).length = (Text.cellLines other.text).length ∧
      (Text.LooksLike (Text.firstLine one.text) (Text.firstLine other.text) → one = other) := by
  rcases eq_or_exists_of_withoutPassword_eq same with rfl | ⟨authority, password, present, rfl⟩
  · exact ⟨rfl, fun _ => rfl⟩
  obtain ⟨line, lines, cut⟩ :=
    Text.exists_splitOn_eq_cons '\n' (one.behindUserinfo authority).toList
  have shown := clear.cellLines_text present cut
  have otherShown := otherClear.cellLines_text rfl cut
  refine ⟨by rw [shown, otherShown, List.length_cons, List.length_cons], fun look => ?_⟩
  rw [Text.firstLine, Text.firstLine, shown, otherShown, List.getD_cons_zero,
    List.getD_cons_zero] at look
  obtain ⟨few, many, alike⟩ := look
  simp only [List.append_assoc, List.append_cancel_left_eq] at alike
  have otherUnmarked := otherClear.unmarked _ rfl
  obtain rfl : authority.password = password :=
    Authority.password_of_append_eq (by rfl) (clear.unmarked authority present) otherUnmarked alike
  exact (congrArg (fun authority => { one with authority }) present.symm).symm

end

end Url

end FleetView
