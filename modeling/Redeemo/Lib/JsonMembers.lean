import Mathlib.Data.List.Dedup
import Redeemo.Lib.JsonText

/-! The members of an object, as its text has them.

    A string of the text stands between two quotes, and the rest goes on as if it were not there
    (`tokens_string`). The machine's stack is as high as brackets are open (`depth_next`), so the names of the
    outermost object's members are the strings that are read at the height of one and stand before a colon
    (`colon_iff_memberName`). -/

namespace Records
open Bytes (hexValue)

/-! ### Strings within a text -/

/-- The mode is within a string. -/
def Mode.InString : Mode → Prop
  | .string _ | .escape _ | .unicode .. => True
  | _ => False

theorem Mode.InString.read {m m' : Mode} {c : Char} (h : m.read c = some m') : m'.InString := by
  cases m with
  | string us =>
    rw [Mode.read] at h
    split_ifs at h <;> cases h <;> trivial
  | escape us =>
    rw [Mode.read] at h
    split_ifs at h
    · cases h
      trivial
    · obtain ⟨u, -, rfl⟩ := Option.map_eq_some_iff.mp h
      trivial
  | unicode us n value =>
    obtain ⟨d, -, rfl⟩ := Option.map_eq_some_iff.mp h
    split_ifs <;> trivial
  | between => cases h
  | word w => cases h

/-- A character within a string closes it, or is read. -/
theorem tokens_inString {m : Mode} (hm : m.InString) {c : Char} {cs : List Char} {ts : List Token}
    (h : tokens m (c :: cs) = some ts) :
    (∃ us ts', m = .string us ∧ c = '"' ∧ tokens .between cs = some ts' ∧ ts = .string us :: ts') ∨
      ∃ m', m.read c = some m' ∧ tokens m' cs = some ts := by
  cases m with
  | string us =>
    rw [tokens] at h
    split_ifs at h with hquote
    · obtain ⟨ts', hts, rfl⟩ := Option.map_eq_some_iff.mp h
      exact .inl ⟨us, ts', rfl, hquote, hts, rfl⟩
    · split at h
      · exact .inr ⟨_, ‹_›, h⟩
      · cases h
  | escape us =>
    rw [tokens] at h
    · split at h
      · exact .inr ⟨_, ‹_›, h⟩
      · cases h
    all_goals simp
  | unicode us n value =>
    rw [tokens] at h
    · split at h
      · exact .inr ⟨_, ‹_›, h⟩
      · cases h
    all_goals simp
  | between => cases hm
  | word w => cases hm

/-- Within a string the text is characters of the string, the quote that closes it, and the rest. -/
theorem tokens_string {cs : List Char} {ts : List Token} {m : Mode} (hm : m.InString) (h : tokens m cs = some ts) :
    ∃ written us rest ts', cs = written ++ '"' :: rest ∧ written.foldlM Mode.read m = some (.string us) ∧
      tokens .between rest = some ts' ∧ ts = .string us :: ts' := by
  induction cs generalizing m with
  | nil => cases m <;> cases hm <;> cases h
  | cons c cs ih =>
    rcases tokens_inString hm h with ⟨us, ts', rfl, rfl, hts, rfl⟩ | ⟨m', hread, hm'⟩
    · exact ⟨[], us, cs, ts', rfl, rfl, hts, rfl⟩
    · obtain ⟨written, us, rest, ts', rfl, hwritten, hts, rfl⟩ := ih (Mode.InString.read hread) hm'
      refine ⟨c :: written, us, rest, ts', rfl, ?_, hts, rfl⟩
      rw [List.foldlM_cons, hread]
      exact hwritten

/-! ### Between strings -/

theorem tokens_between {c : Char} {cs : List Char} {ts : List Token} (h : tokens .between (c :: cs) = some ts) :
    (isJsonSpace c = true ∧ tokens .between cs = some ts) ∨ (c = '"' ∧ tokens (.string []) cs = some ts) ∨
      (∃ t ts', punctuation c = some t ∧ tokens .between cs = some ts' ∧ ts = t :: ts') ∨
      (isJsonSpace c = false ∧ c ≠ '"' ∧ punctuation c = none ∧ tokens (.word [c]) cs = some ts) := by
  rw [tokens] at h
  split_ifs at h with hspace hquote
  · exact .inl ⟨hspace, h⟩
  · exact .inr (.inl ⟨hquote, h⟩)
  · split at h
    · obtain ⟨ts', hts, rfl⟩ := Option.map_eq_some_iff.mp h
      exact .inr (.inr (.inl ⟨_, ts', ‹_›, hts, rfl⟩))
    · exact .inr (.inr (.inr ⟨Bool.eq_false_iff.mpr hspace, hquote, ‹_›, h⟩))

/-- A word goes on, or stands before a space or a mark. -/
theorem tokens_word {w : List Char} {c : Char} {cs : List Char} {ts : List Token}
    (h : tokens (.word w) (c :: cs) = some ts) :
    (∃ v ts', isJsonSpace c = true ∧ wordOf w = some v ∧ tokens .between cs = some ts' ∧ ts = .value v :: ts') ∨
      (∃ v t ts', punctuation c = some t ∧ wordOf w = some v ∧ tokens .between cs = some ts' ∧
        ts = .value v :: t :: ts') ∨
      (isJsonSpace c = false ∧ c ≠ '"' ∧ punctuation c = none ∧ tokens (.word (w ++ [c])) cs = some ts) := by
  rw [tokens] at h
  split_ifs at h with hspace hquote
  · obtain ⟨v, hv, h⟩ := Option.bind_eq_some_iff.mp h
    obtain ⟨ts', hts, h⟩ := Option.bind_eq_some_iff.mp h
    cases h
    exact .inl ⟨v, ts', hspace, hv, hts, rfl⟩
  · split at h
    · obtain ⟨v, hv, h⟩ := Option.bind_eq_some_iff.mp h
      obtain ⟨ts', hts, h⟩ := Option.bind_eq_some_iff.mp h
      cases h
      exact .inr (.inl ⟨v, _, ts', ‹_›, hv, hts, rfl⟩)
    · exact .inr (.inr ⟨Bool.eq_false_iff.mpr hspace, hquote, ‹_›, h⟩)

theorem head_word {w cs : List Char} {ts : List Token} (h : tokens (.word w) cs = some ts) :
    ∃ w' v ts', wordOf w' = some v ∧ ts = .value v :: ts' := by
  induction cs generalizing w with
  | nil =>
    obtain ⟨v, hv, rfl⟩ := Option.map_eq_some_iff.mp h
    exact ⟨w, v, [], hv, rfl⟩
  | cons c cs ih =>
    rcases tokens_word h with ⟨v, ts', -, hv, -, rfl⟩ | ⟨v, t, ts', -, hv, -, rfl⟩ | ⟨-, -, -, h⟩
    · exact ⟨w, v, ts', hv, rfl⟩
    · exact ⟨w, v, t :: ts', hv, rfl⟩
    · exact ih h

/-- A value that comes first is that of a word. -/
theorem wordOf_of_value {cs : List Char} {v : Json} {ts : List Token} (h : tokens .between cs = some (.value v :: ts)) :
    ∃ w, wordOf w = some v := by
  induction cs with
  | nil => cases h
  | cons c cs ih =>
    rcases tokens_between h with ⟨-, h⟩ | ⟨-, h⟩ | ⟨t, ts', ht, -, heq⟩ | ⟨-, -, -, h⟩
    · exact ih h
    · obtain ⟨written, us, rest, ts', -, -, -, heq⟩ := tokens_string (m := .string []) trivial h
      cases heq
    · cases heq
      unfold punctuation at ht
      split at ht <;> cases ht
    · obtain ⟨w, v', ts', hw, heq⟩ := head_word h
      cases heq
      exact ⟨w, hw⟩

/-- A number or a literal is no object. -/
theorem wordOf_ne_object {w : List Char} {r : Record} : wordOf w ≠ some (.object r) := by
  rw [wordOf]
  split_ifs <;> simp

theorem punctuation_eq_colon {c : Char} : punctuation c = some .colon ↔ c = ':' := by
  constructor
  · intro h
    unfold punctuation at h
    split at h <;> cases h
    rfl
  · rintro rfl
    rfl

theorem isJsonSpace_of_punctuation {c : Char} {t : Token} (h : punctuation c = some t) : isJsonSpace c = false := by
  unfold punctuation at h
  split at h <;> first | rfl | cases h

/-- The first character that is no space is a colon where the first token is one. -/
theorem colon_ahead {cs : List Char} {ts : List Token} (h : tokens .between cs = some ts) :
    (cs.dropWhile isJsonSpace).head? = some ':' ↔ ts.head? = some .colon := by
  induction cs with
  | nil =>
    cases h
    simp
  | cons c cs ih =>
    rcases tokens_between h with ⟨hspace, h⟩ | ⟨rfl, h⟩ | ⟨t, ts', ht, -, rfl⟩ | ⟨hspace, hquote, hmark, h⟩
    · rw [List.dropWhile_cons_of_pos hspace]
      exact ih h
    · obtain ⟨written, us, rest, ts', -, -, -, rfl⟩ := tokens_string (m := .string []) trivial h
      simp [isJsonSpace]
    · rw [List.dropWhile_cons_of_neg (by simp [isJsonSpace_of_punctuation ht]), List.head?_cons, List.head?_cons,
        Option.some.injEq, Option.some.injEq, ← punctuation_eq_colon, ht, Option.some.injEq]
    · obtain ⟨w', v, ts', -, rfl⟩ := head_word h
      rw [List.dropWhile_cons_of_neg (by simp [hspace]), List.head?_cons, List.head?_cons, Option.some.injEq,
        Option.some.injEq, ← punctuation_eq_colon, hmark]
      simp

/-! ### The stack -/

/-- How many arrays and objects are open. -/
def Reading.depth : Reading → ℕ
  | .value fs => fs.length
  | .items fs | .members fs | .key _ fs | .colon _ _ fs | .inArray _ fs | .inObject _ fs => fs.length + 1
  | .ended _ => 0

/-- What the token adds to the depth. -/
def Token.nesting : Token → ℤ
  | .lbrace | .lbracket => 1
  | .rbrace | .rbracket => -1
  | _ => 0

namespace Reading

variable (fs : List Frame)

@[simp] theorem depth_value : (value fs).depth = fs.length := rfl
@[simp] theorem depth_items : (items fs).depth = fs.length + 1 := rfl
@[simp] theorem depth_members : (members fs).depth = fs.length + 1 := rfl
@[simp] theorem depth_key (before : Record) : (key before fs).depth = fs.length + 1 := rfl
@[simp] theorem depth_colon (before : Record) (k : String) : (colon before k fs).depth = fs.length + 1 := rfl
@[simp] theorem depth_inArray (before : List Json) : (inArray before fs).depth = fs.length + 1 := rfl
@[simp] theorem depth_inObject (before : Record) : (inObject before fs).depth = fs.length + 1 := rfl

@[simp] theorem depth_complete (v : Json) : (complete v fs).depth = fs.length := by
  cases fs with
  | nil => rfl
  | cons f fs => cases f <;> rfl

end Reading

theorem depth_beginValue {fs : List Frame} {t : Token} {r : Reading} (h : beginValue fs t = some r) :
    (r.depth : ℤ) = fs.length + t.nesting := by
  cases t <;> cases h <;> simp [Token.nesting]

theorem depth_beginItems {fs : List Frame} {t : Token} {r : Reading} (h : beginValue (.items [] :: fs) t = some r) :
    (r.depth : ℤ) = (Reading.items fs).depth + t.nesting :=
  depth_beginValue h

theorem depth_next {r r' : Reading} {t : Token} (h : r.next t = some r') : (r'.depth : ℤ) = r.depth + t.nesting := by
  cases r with
  | value fs => exact depth_beginValue h
  | items fs =>
    cases t with
    | rbracket =>
      cases h
      simp [Token.nesting]
    | _ => exact depth_beginItems h
  | members fs => cases t <;> cases h <;> simp [Token.nesting]
  | key before fs =>
    cases t <;> cases h
    simp [Token.nesting]
  | colon before k fs =>
    cases t <;> cases h
    simp [Token.nesting]
  | inArray before fs => cases t <;> cases h <;> simp [Token.nesting]
  | inObject before fs => cases t <;> cases h <;> simp [Token.nesting]
  | ended v => cases h

/-! ### What the outermost value is -/

/-- Whether the outermost frame is an object's; `whole` tells of the value that has no frame. -/
def outermost : List Frame → Bool → Bool
  | [], whole => whole
  | .items _ :: fs, _ => outermost fs false
  | .member .. :: fs, _ => outermost fs true

/-- Whether what is read will be an object; `none` before the first token, and of what is neither object nor array. -/
def Reading.isObject : Reading → Option Bool
  | .value [] => none
  | .value fs | .members fs | .key _ fs | .colon _ _ fs | .inObject _ fs => some (outermost fs true)
  | .items fs | .inArray _ fs => some (outermost fs false)
  | .ended (.object _) => some true
  | .ended (.array _) => some false
  | .ended _ => none

theorem isObject_complete {v : Json} {fs : List Frame} {b : Bool} (hfs : fs ≠ [] → outermost fs true = b)
    (hv : fs = [] → (Reading.ended v).isObject = some b) : (complete v fs).isObject = some b := by
  cases fs with
  | nil => exact hv rfl
  | cons f fs =>
    have h := hfs (List.cons_ne_nil f fs)
    cases f <;> exact congrArg some h

theorem outermost_eq {fs : List Frame} (h : fs ≠ []) (a b : Bool) : outermost fs a = outermost fs b := by
  cases fs with
  | nil => exact absurd rfl h
  | cons f fs => cases f <;> rfl

theorem isObject_next {r r' : Reading} {t : Token} {b : Bool} (h : r.next t = some r') (hb : r.isObject = some b) :
    r'.isObject = some b := by
  cases r with
  | value fs =>
    cases fs with
    | nil => cases hb
    | cons f fs =>
      have hout : outermost (f :: fs) true = b := Option.some.inj hb
      cases t <;> cases h
      · exact congrArg some hout
      · exact congrArg some ((outermost_eq (List.cons_ne_nil f fs) _ _).trans hout)
      · exact isObject_complete (fun _ => hout) fun h => absurd h (List.cons_ne_nil f fs)
      · exact isObject_complete (fun _ => hout) fun h => absurd h (List.cons_ne_nil f fs)
  | items fs =>
    have hout : outermost fs false = b := Option.some.inj hb
    cases t <;> cases h
    case items.rbracket.refl =>
      refine isObject_complete (fun hfs => (outermost_eq hfs _ _).trans hout) ?_
      rintro rfl
      exact congrArg some hout
    all_goals exact congrArg some hout
  | members fs =>
    have hout : outermost fs true = b := Option.some.inj hb
    cases t <;> cases h
    · refine isObject_complete (fun _ => hout) ?_
      rintro rfl
      exact congrArg some hout
    · exact congrArg some hout
  | key before fs =>
    cases t <;> cases h
    exact hb
  | colon before k fs =>
    cases t <;> cases h
    exact hb
  | inArray before fs =>
    have hout : outermost fs false = b := Option.some.inj hb
    cases t <;> cases h
    · refine isObject_complete (fun hfs => (outermost_eq hfs _ _).trans hout) ?_
      rintro rfl
      exact congrArg some hout
    · exact congrArg some hout
  | inObject before fs =>
    have hout : outermost fs true = b := Option.some.inj hb
    cases t <;> cases h
    · refine isObject_complete (fun _ => hout) ?_
      rintro rfl
      exact congrArg some hout
    · exact congrArg some hout
  | ended v => cases h

theorem isObject_foldlM {r r' : Reading} {ts : List Token} {b : Bool} (h : ts.foldlM Reading.next r = some r')
    (hb : r.isObject = some b) : r'.isObject = some b := by
  induction ts generalizing r with
  | nil =>
    cases h
    exact hb
  | cons t ts ih =>
    obtain ⟨r₁, hnext, h⟩ := Option.bind_eq_some_iff.mp h
    exact ih h (isObject_next hnext hb)

/-- The tokens of an object begin with a brace. -/
theorem tokens_object {s : String} {parsed : Record} (h : Json.parse s = some (.object parsed)) :
    ∃ ts, tokens .between s.toList = some (.lbrace :: ts) ∧
      ts.foldlM Reading.next (.members []) = some (.ended (.object parsed)) := by
  obtain ⟨ts, hts, h⟩ := Option.bind_eq_some_iff.mp h
  obtain ⟨r, hr, h⟩ := Option.bind_eq_some_iff.mp h
  split at h
  · cases h
    cases ts with
    | nil => cases hr
    | cons t ts =>
      obtain ⟨r, hnext, hrest⟩ := Option.bind_eq_some_iff.mp hr
      have hscalar (v : Json) (hv : r = .ended v) : v = .object parsed := by
        subst hv
        cases ts with
        | nil =>
          cases hrest
          rfl
        | cons t ts => cases hrest
      cases t <;> cases hnext
      · exact ⟨ts, hts, hrest⟩
      · cases isObject_foldlM hrest (b := false) rfl
      · cases hscalar _ rfl
      · obtain ⟨w, hw⟩ := wordOf_of_value hts
        exact absurd (hscalar _ rfl ▸ hw) wordOf_ne_object
  · cases h

/-! ### Names of the outermost object -/

/-- What comes is the name of a member of the outermost object. -/
def Reading.AwaitsName : Reading → Bool
  | .members [] | .key _ [] => true
  | _ => false

/-- The name that the token is, of a member of the outermost object. -/
def Reading.memberName (r : Reading) : Token → Option (List ℕ)
  | .string us => if r.AwaitsName then some us else none
  | _ => none

def memberNames : Reading → List Token → List (List ℕ)
  | _, [] => []
  | r, t :: ts =>
    match r.next t with
    | some r' => (r.memberName t).toList ++ memberNames r' ts
    | none => []

theorem memberName_of_punctuation {c : Char} {t : Token} (h : punctuation c = some t) (r : Reading) :
    r.memberName t = none := by
  unfold punctuation at h
  split at h <;> cases h <;> rfl

theorem memberNames_cons {r r' : Reading} {t : Token} (h : r.next t = some r') (ts : List Token) :
    memberNames r (t :: ts) = (r.memberName t).toList ++ memberNames r' ts := by
  rw [memberNames, h]

/-- No colon comes after a value. -/
theorem next_complete_colon (v : Json) (fs : List Frame) : (complete v fs).next .colon = none := by
  cases fs with
  | nil => rfl
  | cons f fs => cases f <;> rfl

/-- A string is a member's name at the depth of one and before a colon. -/
theorem colon_iff_memberName {r r' : Reading} {us : List ℕ} {ts : List Token} {v : Json}
    (h : r.next (.string us) = some r') (hts : ts.foldlM Reading.next r' = some (.ended v)) :
    r.depth = 1 ∧ ts.head? = some .colon ↔ r.memberName (.string us) = some us := by
  have hvalue (w : Json) (fs : List Frame) (hr : r' = complete w fs) : ts.head? ≠ some .colon := by
    rintro hcolon
    obtain ⟨ts', rfl⟩ := List.head?_eq_some_iff.mp hcolon
    rw [List.foldlM_cons, hr, next_complete_colon] at hts
    cases hts
  have hcolon (before : Record) (k : String) (fs : List Frame) (hr : r' = .colon before k fs) :
      ts.head? = some .colon := by
    subst hr
    cases ts with
    | nil => cases hts
    | cons t ts =>
      rw [List.foldlM_cons] at hts
      cases t <;> first | rfl | cases hts
  cases r with
  | value fs =>
    cases h
    exact iff_of_false (fun h => hvalue _ _ rfl h.2) (by simp [Reading.memberName, Reading.AwaitsName])
  | items fs =>
    cases h
    exact iff_of_false (fun h => hvalue _ (.items [] :: fs) rfl h.2) (by simp [Reading.memberName, Reading.AwaitsName])
  | members fs =>
    cases h
    rw [and_iff_left (hcolon _ _ _ rfl)]
    cases fs <;> simp [Reading.memberName, Reading.AwaitsName]
  | key before fs =>
    cases h
    rw [and_iff_left (hcolon _ _ _ rfl)]
    cases fs <;> simp [Reading.memberName, Reading.AwaitsName]
  | colon before k fs => cases h
  | inArray before fs => cases h
  | inObject before fs => cases h
  | ended v => cases h

/-- The names of the members of an object as they are written, one after the other, by their code units. -/
def topLevelNames (s : String) : List (List ℕ) := memberNames (.value []) ((tokens .between s.toList).getD [])

/-! ### The outermost object as it is read -/

end Records
