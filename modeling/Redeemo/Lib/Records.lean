import Mathlib.Data.Rat.Defs

/-! JSON values, and the plain objects among them.

    An object is the list of its entries in the order in which the keys were written; the first entry of a
    key counts. -/

namespace Records

inductive Json
  | null
  | bool (b : Bool)
  | number (q : ℚ)
  | string (s : String)
  | array (items : List Json)
  | object (entries : List (String × Json))

abbrev Record := List (String × Json)

namespace Record

def get (key : String) (r : Record) : Option Json := r.lookup key

def keys (r : Record) : List String := r.map Prod.fst

/-- `delete`, of each of the keys. -/
def without (dropped : List String) (r : Record) : Record := r.filter fun e => e.1 ∉ dropped

/-- `{ ...r, ...s }`: a key of `r` keeps its place. -/
def spread (r s : Record) : Record :=
  r.map (fun e => (e.1, (s.get e.1).getD e.2)) ++ s.filter fun e => e.1 ∉ r.keys

/-- The string under a key. -/
def text (key : String) (r : Record) : Option String :=
  match r.get key with
  | some (.string s) => some s
  | _ => none

/-- The object under a key. -/
def child (key : String) (r : Record) : Option Record :=
  match r.get key with
  | some (.object entries) => some entries
  | _ => none

/-- The number under a key. -/
def num (key : String) (r : Record) : Option ℚ :=
  match r.get key with
  | some (.number q) => some q
  | _ => none

theorem get_cons {key : String} {e : String × Json} {r : Record} :
    get key (e :: r) = if key = e.1 then some e.2 else get key r := by
  rw [get, get, List.lookup_cons]
  by_cases hk : key = e.1
  · rw [if_pos hk, beq_iff_eq.mpr hk]
  · rw [if_neg hk, beq_eq_false_iff_ne.mpr hk]

theorem get_append {key : String} {r s : Record} : get key (r ++ s) = (r.get key).or (s.get key) :=
  List.lookup_append

theorem get_eq_none_iff {key : String} {r : Record} : r.get key = none ↔ key ∉ r.keys := by
  rw [get, List.lookup_eq_none_iff, keys, List.mem_map]
  constructor
  · rintro h ⟨e, he, rfl⟩
    exact absurd (h e he) (by simp)
  · intro h e he
    exact bne_iff_ne.mpr fun hk => h ⟨e, he, hk.symm⟩

theorem get_filter {p : String → Prop} [DecidablePred p] {key : String} (r : Record) :
    get key (r.filter fun e => p e.1) = if p key then r.get key else none := by
  induction r with
  | nil => exact (ite_self none).symm
  | cons e r ih =>
    by_cases hp : p e.1
    · rw [List.filter_cons_of_pos (by simpa using hp), get_cons, get_cons, ih]
      by_cases hk : key = e.1
      · subst hk
        rw [if_pos rfl, if_pos rfl, if_pos hp]
      · rw [if_neg hk, if_neg hk]
    · rw [List.filter_cons_of_neg (by simpa using hp), ih, get_cons]
      by_cases hk : key = e.1
      · subst hk
        rw [if_neg hp, if_neg hp]
      · rw [if_neg hk]

theorem get_without {dropped : List String} {key : String} (r : Record) :
    (r.without dropped).get key = if key ∈ dropped then none else r.get key := by
  rw [without, get_filter (p := fun k => k ∉ dropped), ite_not]

theorem get_map {key : String} (f : String → Json → Json) (r : Record) :
    get key (r.map fun e => (e.1, f e.1 e.2)) = (r.get key).map (f key) := by
  induction r with
  | nil => rfl
  | cons e r ih =>
    rw [List.map_cons, get_cons, get_cons, ih]
    by_cases hk : key = e.1
    · subst hk
      rw [if_pos rfl, if_pos rfl, Option.map_some]
    · rw [if_neg hk, if_neg hk]

theorem text_congr {key : String} {r s : Record} (h : r.get key = s.get key) : r.text key = s.text key := by
  rw [text, text, h]

theorem child_congr {key : String} {r s : Record} (h : r.get key = s.get key) : r.child key = s.child key := by
  rw [child, child, h]

theorem num_congr {key : String} {r s : Record} (h : r.get key = s.get key) : r.num key = s.num key := by
  rw [num, num, h]

/-- What is written over a key counts. -/
theorem get_spread {key : String} (r s : Record) : (r.spread s).get key = (s.get key).or (r.get key) := by
  rw [spread, get_append, get_map fun k v => (s.get k).getD v, get_filter (p := fun k => k ∉ r.keys)]
  cases hr : r.get key with
  | none =>
    rw [if_pos (get_eq_none_iff.mp hr)]
    cases s.get key with
    | none => rfl
    | some w => rfl
  | some v =>
    cases s.get key with
    | none => rfl
    | some w => rfl

theorem mem_keys_spread {key : String} {r s : Record} : key ∈ (r.spread s).keys ↔ key ∈ r.keys ∨ key ∈ s.keys := by
  rw [← not_iff_not, ← get_eq_none_iff, get_spread, Option.or_eq_none_iff, get_eq_none_iff, get_eq_none_iff, not_or,
    and_comm]

end Record

/-- `String.prototype.trim` takes these off. -/
def isWhiteSpace (c : Char) : Bool :=
  let n := c.toNat
  (9 ≤ n ∧ n ≤ 13) ∨ n = 0x20 ∨ n = 0xA0 ∨ n = 0x1680 ∨ (0x2000 ≤ n ∧ n ≤ 0x200A) ∨ n = 0x2028 ∨ n = 0x2029 ∨
    n = 0x202F ∨ n = 0x205F ∨ n = 0x3000 ∨ n = 0xFEFF

def trim (s : String) : String :=
  String.ofList (((s.toList.dropWhile isWhiteSpace).reverse.dropWhile isWhiteSpace).reverse)

/-- Nothing is left of the text when it is trimmed. -/
def isBlank (s : String) : Bool := s.toList.all isWhiteSpace

end Records
