import Mathlib.Logic.Basic
import Mathlib.Logic.Function.Basic
import Mathlib.Tactic.Common

/-! A record under READ COMMITTED isolation.

    A transaction that updates the record holds it until it ends: it goes on with a value of its own,
    which a commit makes the committed one and a rollback drops. The others read the committed value
    meanwhile, and wait before they write. An update with a condition that the record does not meet
    writes nothing and waits for nobody. A table is a family of such records, one for each key. -/

namespace ReadCommitted

structure Cell (ι σ : Type*) where
  committed : σ
  /-- The transaction that has updated the record, with the record as it sees it. -/
  held : Option (ι × σ)

namespace Cell

variable {ι σ : Type*}

/-- Transaction `i` has not updated the record. -/
def Free (c : Cell ι σ) (i : ι) : Prop := ∀ w, c.held ≠ some (i, w)

variable {c c' : Cell ι σ} {i j : ι} {w x : σ}

/-! ### One transaction and the others -/

/-- A step of transaction `i` on the record: it leaves the record, goes on with a value of its own,
    drops that value, or commits one. -/
inductive Moves (i : ι) (c : Cell ι σ) : Cell ι σ → Prop
  | stay : Moves i c c
  | write (x : σ) (h : ∀ j w, c.held = some (j, w) → j = i) :
    Moves i c { c with held := some (i, x) }
  | finish (x : σ) (h : ∀ j w, c.held = some (j, w) → j = i) : Moves i c ⟨x, none⟩

/-- What one transaction holds, no other changes. -/
theorem Moves.held_of_ne (h : Moves i c c') (hne : i ≠ j) (hw : c.held = some (j, w)) : c' = c := by
  cases h with
  | stay => rfl
  | write x hx => exact absurd (hx j w hw).symm hne
  | finish x hx => exact absurd (hx j w hw).symm hne

theorem Moves.free_of_ne (h : Moves i c c') (hne : i ≠ j) (hf : c.Free j) : c'.Free j := by
  cases h with
  | stay => exact hf
  | write x hx =>
    intro w hw
    cases hw
    exact hne rfl
  | finish x hx =>
    intro w hw
    cases hw

theorem free_of_held_none (h : c.held = none) : c.Free i := by
  intro w hw
  rw [h] at hw
  cases hw

theorem held_unique (hw : c.held = some (i, w)) : ∀ j x, c.held = some (j, x) → j = i := by
  intro j x hj
  rw [hw] at hj
  cases hj
  rfl

/-! ### Statements -/

variable [DecidableEq ι]

/-- What a statement of transaction `i` reads. -/
def read (c : Cell ι σ) (i : ι) : σ :=
  match c.held with
  | some (j, w) => if j = i then w else c.committed
  | none => c.committed

/-- Transaction `i` updates the record; `none` while another holds it. -/
def write (c : Cell ι σ) (i : ι) (x : σ) : Option (Cell ι σ) :=
  match c.held with
  | some (j, _) => if j = i then some { c with held := some (i, x) } else none
  | none => some { c with held := some (i, x) }

/-- An update where the record meets a condition, and whether it does. -/
def updateWhere (c : Cell ι σ) (i : ι) (hit : σ → Prop) [DecidablePred hit] (f : σ → σ) :
    Option (Cell ι σ × Bool) :=
  if hit (c.read i) then (c.write i (f (c.read i))).map fun c' => (c', true) else some (c, false)

def commit (c : Cell ι σ) (i : ι) : Cell ι σ :=
  match c.held with
  | some (j, w) => if j = i then ⟨w, none⟩ else c
  | none => c

def rollback (c : Cell ι σ) (i : ι) : Cell ι σ :=
  match c.held with
  | some (j, _) => if j = i then { c with held := none } else c
  | none => c

theorem read_of_held (h : c.held = some (i, w)) : c.read i = w := by simp [read, h]

theorem read_of_free (h : c.Free i) : c.read i = c.committed := by
  rw [read]
  split
  · next j w hw =>
    split_ifs with hji
    · exact absurd (hji ▸ hw) (h w)
    · rfl
  · rfl

theorem commit_of_held (h : c.held = some (i, w)) : c.commit i = ⟨w, none⟩ := by simp [commit, h]

theorem commit_of_free (h : c.Free i) : c.commit i = c := by
  rw [commit]
  split
  · next j w hw =>
    split_ifs with hji
    · exact absurd (hji ▸ hw) (h w)
    · rfl
  · rfl

theorem rollback_of_held (h : c.held = some (i, w)) : c.rollback i = { c with held := none } := by
  simp [rollback, h]

theorem rollback_of_free (h : c.Free i) : c.rollback i = c := by
  rw [rollback]
  split
  · next j w hw =>
    split_ifs with hji
    · exact absurd (hji ▸ hw) (h w)
    · rfl
  · rfl

/-- Nobody else holds a record that is written. -/
theorem write_eq_some : c.write i x = some c' ↔
    (∀ j w, c.held = some (j, w) → j = i) ∧ c' = { c with held := some (i, x) } := by
  rw [write]
  split
  · next j w hw =>
    split_ifs with hji
    · rw [Option.some.injEq]
      constructor
      · rintro rfl
        refine ⟨fun j' w' h' => ?_, rfl⟩
        rw [hw] at h'
        cases h'
        exact hji
      · rintro ⟨-, rfl⟩
        rfl
    · constructor
      · rintro ⟨⟩
      · rintro ⟨h, -⟩
        exact absurd (h j w hw) hji
  · next hn =>
    rw [Option.some.injEq]
    constructor
    · rintro rfl
      refine ⟨fun j' w' h' => ?_, rfl⟩
      rw [hn] at h'
      cases h'
    · rintro ⟨-, rfl⟩
      rfl

theorem updateWhere_cases {hit : σ → Prop} [DecidablePred hit] {f : σ → σ} {b : Bool}
    (h : c.updateWhere i hit f = some (c', b)) :
    (b = true ∧ hit (c.read i) ∧ (∀ j w, c.held = some (j, w) → j = i) ∧
      c' = { c with held := some (i, f (c.read i)) }) ∨
    (b = false ∧ ¬ hit (c.read i) ∧ c' = c) := by
  rw [updateWhere] at h
  split_ifs at h with hp
  · obtain ⟨d, hd, he⟩ := Option.map_eq_some_iff.mp h
    cases he
    obtain ⟨hj, rfl⟩ := write_eq_some.mp hd
    exact .inl ⟨rfl, hp, hj, rfl⟩
  · cases h
    exact .inr ⟨rfl, hp, rfl⟩

theorem moves_rollback : Moves i c (c.rollback i) := by
  by_cases h : c.Free i
  · rw [rollback_of_free h]
    exact .stay
  · simp only [Free, not_forall, not_not] at h
    obtain ⟨w, hw⟩ := h
    rw [rollback_of_held hw]
    exact .finish _ (held_unique hw)

/-- Dropping the copy leaves the transaction without the record. -/
theorem free_rollback : (c.rollback i).Free i ∧ (c.rollback i).committed = c.committed := by
  by_cases hf : c.Free i
  · rw [rollback_of_free hf]
    exact ⟨hf, rfl⟩
  · simp only [Free, not_forall, not_not] at hf
    obtain ⟨w, hw⟩ := hf
    rw [rollback_of_held hw]
    exact ⟨free_of_held_none rfl, rfl⟩

/-! ### What a transaction has made of the record so far -/

/-- Transaction `i` has not updated the record, or holds what it makes of the committed one. -/
def Holds (c : Cell ι σ) (i : ι) : Option (σ → σ) → Prop
  | none => c.Free i
  | some f => c.held = some (i, f c.committed)

variable {done : Option (σ → σ)} {f : σ → σ}

omit [DecidableEq ι] in
/-- Another transaction's step leaves it with that. -/
theorem Holds.frame (hm : Moves i c c') (hne : i ≠ j) (h : c.Holds j done) : c'.Holds j done := by
  cases done with
  | none => exact hm.free_of_ne hne h
  | some f =>
    rw [hm.held_of_ne hne h]
    exact h

theorem Holds.read (h : c.Holds i done) : c.read i = (done.getD id) c.committed := by
  cases done with
  | none => exact read_of_free h
  | some f => exact read_of_held h

/-- A write goes on from there. -/
theorem Holds.write (h : c.Holds i done) (hw : c.write i (f (c.read i)) = some c') :
    Moves i c c' ∧ c'.committed = c.committed ∧ c'.Holds i (some (f ∘ done.getD id)) := by
  obtain ⟨hheld, rfl⟩ := write_eq_some.mp hw
  refine ⟨.write _ hheld, rfl, ?_⟩
  rw [h.read]
  rfl

theorem Holds.commit (h : c.Holds i done) :
    Moves i c (c.commit i) ∧ (c.commit i).committed = (done.getD id) c.committed ∧ (c.commit i).Free i := by
  cases done with
  | none =>
    rw [commit_of_free h]
    exact ⟨.stay, rfl, h⟩
  | some f =>
    rw [commit_of_held h]
    exact ⟨.finish _ (held_unique h), rfl, free_of_held_none rfl⟩

end Cell

/-! ### Tables -/

/-- A table: every key has its cell, with no row in it before the insertion and after the deletion. -/
structure Table (ι κ σ : Type*) where
  cell : κ → Cell ι (Option σ)

namespace Table

variable {ι κ σ : Type*} {t t' : Table ι κ σ} {i j : ι} {k : κ} {done done' : κ → Option (Option σ → Option σ)}
  {f : Option σ → Option σ}

/-- The committed rows. -/
def rows (t : Table ι κ σ) (k : κ) : Option σ := (t.cell k).committed

/-- A step of transaction `i`, on any of the rows. -/
def Moves (i : ι) (t t' : Table ι κ σ) : Prop := ∀ k, Cell.Moves i (t.cell k) (t'.cell k)

/-- What transaction `i` has made of each row so far. -/
def Holds (t : Table ι κ σ) (i : ι) (done : κ → Option (Option σ → Option σ)) : Prop := ∀ k, (t.cell k).Holds i (done k)

theorem Holds.frame (hm : t.Moves i t') (hne : i ≠ j) (h : t.Holds j done) : t'.Holds j done :=
  fun k => (h k).frame (hm k) hne

theorem Moves.refl : t.Moves i t := fun _ => .stay

variable [DecidableEq ι]

def read (t : Table ι κ σ) (i : ι) (k : κ) : Option σ := (t.cell k).read i

def commit (t : Table ι κ σ) (i : ι) : Table ι κ σ := ⟨fun k => (t.cell k).commit i⟩

def rollback (t : Table ι κ σ) (i : ι) : Table ι κ σ := ⟨fun k => (t.cell k).rollback i⟩

/-- The transaction updates the row of one key; `none` while another holds it. -/
def write [DecidableEq κ] (t : Table ι κ σ) (i : ι) (k : κ) (f : Option σ → Option σ) : Option (Table ι κ σ) :=
  ((t.cell k).write i (f (t.read i k))).map fun c => ⟨Function.update t.cell k c⟩

/-- A row that the transaction has not written reads as committed. -/
theorem Holds.read_of_none (h : t.Holds i done) (hk : done k = none) : t.read i k = t.rows k := by
  have hfree := h k
  rw [hk] at hfree
  exact Cell.read_of_free hfree

theorem Holds.write [DecidableEq κ] (h : t.Holds i done) (hw : t.write i k f = some t')
    (hk : done' k = some (f ∘ (done k).getD id)) (hrest : ∀ l, l ≠ k → done' l = done l) :
    t.Moves i t' ∧ t'.rows = t.rows ∧ t'.Holds i done' := by
  obtain ⟨c, hc, rfl⟩ := Option.map_eq_some_iff.mp hw
  obtain ⟨hmoves, hcommitted, hholds⟩ := (h k).write hc
  refine ⟨fun l => ?_, funext fun l => ?_, fun l => ?_⟩ <;> dsimp only [rows] <;>
    rcases eq_or_ne l k with rfl | hl
  · rw [Function.update_self]
    exact hmoves
  · rw [Function.update_of_ne hl]
    exact .stay
  · rw [Function.update_self]
    exact hcommitted
  · rw [Function.update_of_ne hl]
  · rw [Function.update_self, hk]
    exact hholds
  · rw [Function.update_of_ne hl, hrest l hl]
    exact h l

/-- A commit makes of each row what the transaction has made of it. -/
theorem Holds.commit (h : t.Holds i done) : t.Moves i (t.commit i) ∧
    (∀ k, (t.commit i).rows k = (done k).getD id (t.rows k)) ∧ (t.commit i).Holds i fun _ => none :=
  ⟨fun k => (h k).commit.1, fun k => (h k).commit.2.1, fun k => (h k).commit.2.2⟩

/-- A transaction that writes nothing but one row. -/
theorem Holds.writeRow [DecidableEq κ] (h : t.Holds i fun _ => none) (hw : t.write i k f = some t') :
    t.Moves i t' ∧ t'.rows = t.rows ∧ t'.Holds i (Function.update (fun _ => none) k (some f)) :=
  h.write hw (Function.update_self ..) fun _ hl => Function.update_of_ne hl ..

theorem Holds.commitRow [DecidableEq κ] (h : t.Holds i (Function.update (fun _ => none) k (some f))) :
    t.Moves i (t.commit i) ∧ (t.commit i).rows = Function.update t.rows k (f (t.rows k)) ∧
      (t.commit i).Holds i fun _ => none := by
  obtain ⟨hmoves, hrows, hfree⟩ := h.commit
  refine ⟨hmoves, funext fun l => ?_, hfree⟩
  rw [hrows]
  rcases eq_or_ne l k with rfl | hl
  · rw [Function.update_self, Function.update_self]
    rfl
  · rw [Function.update_of_ne hl, Function.update_of_ne hl]
    rfl

theorem holds_rollback : t.Moves i (t.rollback i) ∧ (t.rollback i).rows = t.rows ∧
    (t.rollback i).Holds i fun _ => none :=
  ⟨fun _ => Cell.moves_rollback, funext fun _ => Cell.free_rollback.2, fun _ => Cell.free_rollback.1⟩

/-! ### New keys -/

/-- A row under a new key, committed by itself. -/
def insert [DecidableEq κ] (t : Table ι κ σ) (k : κ) (row : σ) : Table ι κ σ :=
  ⟨Function.update t.cell k ⟨some row, none⟩⟩

section
variable [DecidableEq κ] {row : σ} {l : κ}

omit [DecidableEq ι] in
@[simp] theorem cell_insert_self : (t.insert k row).cell k = ⟨some row, none⟩ := Function.update_self ..

omit [DecidableEq ι] in
theorem cell_insert_of_ne (hl : l ≠ k) : (t.insert k row).cell l = t.cell l := Function.update_of_ne hl ..

omit [DecidableEq ι] in
theorem rows_insert : (t.insert k row).rows = Function.update t.rows k (some row) := by
  funext l
  rcases eq_or_ne l k with rfl | hl
  · rw [Function.update_self, rows, cell_insert_self]
  · rw [Function.update_of_ne hl, rows, cell_insert_of_ne hl, rows]

omit [DecidableEq ι] in
theorem insert_moves (hk : t.cell k = ⟨none, none⟩) : t.Moves i (t.insert k row) := by
  intro l
  rcases eq_or_ne l k with rfl | hl
  · rw [cell_insert_self, hk]
    refine .finish _ fun j w hw => ?_
    cases hw
  · rw [cell_insert_of_ne hl]
    exact .stay

omit [DecidableEq ι] in
theorem Holds.insert (h : t.Holds i done) (hk : done k = none) : (t.insert k row).Holds i done := by
  intro l
  rcases eq_or_ne l k with rfl | hl
  · rw [hk, cell_insert_self]
    exact Cell.free_of_held_none rfl
  · rw [cell_insert_of_ne hl]
    exact h l

end

/-- No key from `n` on has been used. -/
def FreshFrom (t : Table ι ℕ σ) (n : ℕ) : Prop := ∀ k, n ≤ k → t.cell k = ⟨none, none⟩

variable {u u' : Table ι ℕ σ} {n m : ℕ}

omit [DecidableEq ι] in
theorem FreshFrom.row (h : u.FreshFrom n) (hm : n ≤ m) : u.rows m = none := by
  rw [rows, h m hm]

omit [DecidableEq ι] in
/-- A row that is there has an old key. -/
theorem FreshFrom.lt (h : u.FreshFrom n) (hm : u.rows m ≠ none) : m < n := by
  by_contra hle
  exact hm (h.row (Nat.le_of_not_lt hle))

omit [DecidableEq ι] in
theorem FreshFrom.insert {row : σ} (h : u.FreshFrom n) : (u.insert n row).FreshFrom (n + 1) := by
  intro k hk
  rw [cell_insert_of_ne (Nat.ne_of_gt hk)]
  exact h k (Nat.le_of_succ_le hk)

theorem FreshFrom.write {f : Option σ → Option σ} (h : u.FreshFrom n)
    (hw : u.write i m f = some u') {k : ℕ} (hnm : n ≤ k)
    (hm : m < k) : u'.FreshFrom k := by
  obtain ⟨c, -, rfl⟩ := Option.map_eq_some_iff.mp hw
  intro l hl
  dsimp only
  rw [Function.update_of_ne (Nat.ne_of_gt (Nat.lt_of_lt_of_le hm hl))]
  exact h l (Nat.le_trans hnm hl)

theorem FreshFrom.commit (h : u.FreshFrom n) : (u.commit i).FreshFrom n := by
  intro k hk
  rw [Table.commit]
  dsimp only
  rw [h k hk]
  rfl

theorem FreshFrom.rollback (h : u.FreshFrom n) : (u.rollback i).FreshFrom n := by
  intro k hk
  rw [Table.rollback]
  dsimp only
  rw [h k hk]
  rfl

end Table

end ReadCommitted
