/-
This file says what becomes of the path of a URL when segments are put behind it. A
segment is encoded so that it stays one and can be read back, unless it is a step along
the path, which is left out, or holds characters that URLs pass over. Segments that are
none of this lead to a path of their own. A path can only be gone down if it is cut into
segments, as it is whenever a URL of the web has been read.
-/

import FleetView.Proofs.Encoding

namespace FleetView

/-! ### Results -/

/-- Whatever a computation comes to, if it comes to anything, has a property. -/
def Ensures {ε α : Type} (holds : α → Prop) (result : Except ε α) : Prop :=
  ∀ value, result = .ok value → holds value

section

variable {ε α β : Type} {holds : α → Prop}

theorem ensures_error {flaw : ε} : Ensures holds (.error flaw) := nofun

theorem ensures_ok {value : α} (held : holds value) : Ensures holds (.ok value : Except ε α) :=
  fun _ same => Except.ok.inj same ▸ held

theorem ensures_bind {first : Except ε β} {next : β → Except ε α}
    (each : ∀ value, Ensures holds (next value)) : Ensures holds (first >>= next) := by
  cases first with
  | error flaw => exact ensures_error
  | ok value => exact each value

theorem ensures_ite {condition : Prop} [Decidable condition] {first second : Except ε α}
    (firstHeld : Ensures holds first) (secondHeld : Ensures holds second) :
    Ensures holds (if condition then first else second) := by
  split
  · exact firstHeld
  · exact secondHeld

end

namespace Url

/-! ### Going down -/

/-- Whether a text can be a segment of a path: it is no step along the path, and no character of
it is passed over. -/
def Plain (segment : String) : Prop :=
  segment ≠ "." ∧ segment ≠ ".." ∧ segment.toList.any isBreak = false

instance : DecidablePred Plain := fun segment =>
  inferInstanceAs (Decidable (segment ≠ "." ∧ segment ≠ ".." ∧
    segment.toList.any isBreak = false))

/-- What a segment of a path looks like under the schemes of the web. -/
def written (segment : String) : String :=
  String.ofList (Percent.encode Percent.specialSegment segment.toList)

/-- The segments of a base that stay in front of what is put behind it: an empty one at the end is
dropped, and an empty one that is left alone counts as none. -/
def front (parts : List String) : List String :=
  if withoutEmptyEnd parts = [""] then [] else withoutEmptyEnd parts

theorem decodeText?_written (segment : String) :
    Percent.decodeText? (written segment) = some segment := by
  rw [written, Percent.decodeText?_encode rfl, String.ofList_toList]

theorem unbroken_eq_self {text : List Char} (unbreaking : text.any isBreak = false) :
    unbroken text = text := by
  refine List.filter_eq_self.mpr fun char member => ?_
  rw [Bool.not_eq_true', Bool.eq_false_iff]
  exact List.any_eq_false.mp unbreaking char member

/-- However a dot is written, it is read as one. -/
theorem decodeText?_of_isSingleDot {segment : String} (dot : isSingleDot segment = true) :
    Percent.decodeText? segment = some "." := by
  have listed := of_decide_eq_true dot
  simp only [List.mem_cons, List.not_mem_nil, or_false] at listed
  rcases listed with rfl | rfl | rfl <;> decide +kernel

theorem decodeText?_of_isDoubleDot {segment : String} (dots : isDoubleDot segment = true) :
    Percent.decodeText? segment = some ".." := by
  have listed := of_decide_eq_true dots
  simp only [List.mem_cons, List.not_mem_nil, or_false] at listed
  rcases listed with rfl | rfl | rfl | rfl | rfl | rfl | rfl | rfl | rfl <;> decide +kernel

/-- Under the schemes of the web, whatever is no dots is put at the end. -/
theorem place_of_not_dots {set : Char → Bool} {text : List Char}
    (single : isSingleDot (String.ofList (Percent.encode set (unbroken text))) = false)
    (double : isDoubleDot (String.ofList (Percent.encode set (unbroken text))) = false)
    (parts : List String) :
    place .web set parts text false =
      parts ++ [String.ofList (Percent.encode set (unbroken text))] := by
  have notFile : ¬ (SchemeKind.web = .file ∧ parts = []) := fun found => nomatch found.1
  simp only [place, single, double, notFile, decide_false, Bool.false_and, Bool.false_eq_true,
    if_false]

/-- A plain segment is put behind the others as it is written. -/
theorem extend_of_plain {segment : String} (plain : Plain segment) (parts : List String) :
    extend .web parts segment = (if parts = [""] then [] else parts) ++ [written segment] := by
  obtain ⟨notDot, notDots, unbreaking⟩ := plain
  have read := decodeText?_written segment
  have single : isSingleDot (written segment) = false := by
    refine Bool.eq_false_iff.mpr fun dot => notDot ?_
    exact Option.some.inj (read.symm.trans (decodeText?_of_isSingleDot dot))
  have double : isDoubleDot (written segment) = false := by
    refine Bool.eq_false_iff.mpr fun dots => notDots ?_
    exact Option.some.inj (read.symm.trans (decodeText?_of_isDoubleDot dots))
  rw [written, ← unbroken_eq_self unbreaking] at single double
  rw [extend, if_neg (not_or.mpr ⟨notDot, notDots⟩)]
  show place .web Percent.specialSegment _ segment.toList false = _
  rw [place_of_not_dots single double, unbroken_eq_self unbreaking, written]

/-- Plain segments are put behind a path one after the other, once there is something in it. -/
theorem foldl_extend_of_plain {segments : List String}
    (plain : ∀ segment ∈ segments, Plain segment) {parts : List String}
    (filled : ∃ part ∈ parts, part ≠ "") :
    segments.foldl (extend .web) parts = parts ++ segments.map written := by
  induction segments generalizing parts with
  | nil => exact (List.append_nil _).symm
  | cons segment rest inductionHypothesis =>
    obtain ⟨part, member, shown⟩ := filled
    have notRoot : parts ≠ [""] := by
      rintro rfl
      exact shown (List.mem_singleton.mp member)
    rw [List.foldl_cons, extend_of_plain (plain segment List.mem_cons_self), if_neg notRoot,
      inductionHypothesis (fun other behind => plain other (List.mem_cons_of_mem _ behind))
        ⟨part, List.mem_append_left _ member, shown⟩,
      List.append_assoc, List.singleton_append, List.map_cons]

/-- From a base of the web, a collection and plain names lead to the URL that has them behind its
path, and is the base otherwise. -/
theorem descend_of_plain {url : Url} {parts : List String} (web : SchemeKind.of url.scheme = .web)
    (path : url.path = .segments parts) {collection : String} {names : List String}
    (plain : ∀ segment ∈ collection :: names, Plain segment) (shown : written collection ≠ "") :
    url.descend (collection :: names) =
      .ok { url with path := .segments (front parts ++ (collection :: names).map written) } := by
  unfold descend
  rw [path, web]
  dsimp only
  rw [List.foldl_cons, extend_of_plain (plain collection List.mem_cons_self),
    foldl_extend_of_plain (fun name member => plain name (List.mem_cons_of_mem _ member))
      ⟨_, List.mem_append_right _ (List.mem_singleton_self _), shown⟩,
    List.append_assoc, List.singleton_append, List.map_cons, front]

theorem schemeKind_of_web {scheme : String} (web : scheme = "http" ∨ scheme = "https") :
    SchemeKind.of scheme = .web := by
  rcases web with rfl | rfl <;> rfl

/-! ### What is read -/

theorem readPathStart_segments (kind : SchemeKind) (text : List Char) :
    ∃ parts, (readPathStart kind text).1 = .segments parts := by
  unfold readPathStart
  dsimp only
  split <;> exact ⟨_, rfl⟩

/-- What a URL that has been read is put together from. -/
inductive Finished : Url → Prop
  /-- Behind two slashes stand a name and a password, a host and a port. -/
  | placed (scheme : String) (userinfo : List Char) (host : Option Host) (port : Option Nat)
      (parts : List String) (rest : List Char) :
    Finished (finish scheme
      (some ⟨(readUserinfo userinfo).1, (readUserinfo userinfo).2, host, port⟩)
      (.segments parts) rest)
  | file (host : Option Host) (parts : List String) (rest : List Char) :
    Finished (finishFile host parts rest)
  | rooted (scheme : String) (parts : List String) (rest : List Char) :
    Finished (finish scheme none (.segments parts) rest)
  | whole (scheme : String) (other : SchemeKind.of scheme = .other) (path : String)
      (rest : List Char) : Finished (finish scheme none (.whole path) rest)

theorem finished_readAuthority (scheme : String) (text : List Char) :
    Ensures Finished (readAuthority scheme text) := by
  unfold readAuthority
  extract_lets kind
  split
  rename_i userinfo behind _
  extract_lets emptied
  refine ensures_ite ensures_error ?_
  split
  rename_i username password read
  obtain ⟨rfl, rfl⟩ := Prod.mk.inj read
  split
  extract_lets behindHost
  have hostRead : ∀ host, Ensures Finished (behindHost host) := by
    intro host
    dsimp -zeta only [behindHost]
    extract_lets behindPort
    have portRead : ∀ port, Ensures Finished (behindPort port) := by
      intro port
      refine ensures_ite ensures_error (ensures_ok ?_)
      obtain ⟨parts, same⟩ := readPathStart_segments kind port.2
      rw [same]
      exact .placed _ _ _ _ _ _
    split
    · exact ensures_ite (ensures_bind portRead) (ensures_bind portRead)
    · exact ensures_bind portRead
  exact ensures_ite (ensures_ite (ensures_bind hostRead) (ensures_bind hostRead))
    (ensures_bind hostRead)

theorem finished_readFileUrl (text : List Char) : Ensures Finished (readFileUrl text) := by
  unfold readFileUrl
  dsimp only
  split
  · exact ensures_ok (.file _ _ _)
  · refine ensures_ite (ensures_ok (.file _ _ _)) (ensures_bind fun host => ?_)
    cases host <;> exact ensures_ok (.file _ _ _)

theorem finished_of_parse {text : String} {url : Url} (parsed : parse text = .ok url) :
    Finished url := by
  have read : Ensures Finished (parse text) := by
    refine ensures_bind fun scheme => ?_
    unfold readRest
    split
    · exact finished_readFileUrl _
    · exact finished_readAuthority _ _
    · exact finished_readAuthority _ _
    · exact ensures_ok (.rooted _ _ _)
    · rename_i other _ _
      exact ensures_ok (.whole _ other _ _)
  exact read url parsed

/-- Whether the path of a URL is cut into segments. -/
def HasSegments (url : Url) : Prop := ∃ parts, url.path = .segments parts

/-- Under the schemes of the web and of files, the path of a URL is cut into segments. -/
theorem parse_hasSegments {text : String} {url : Url} (parsed : parse text = .ok url)
    (special : SchemeKind.of url.scheme ≠ .other) : url.HasSegments := by
  cases finished_of_parse parsed with
  | placed | file | rooted => exact ⟨_, rfl⟩
  | whole scheme other => exact absurd other special

end Url

end FleetView
