import Mathlib.Data.List.Nodup
import Mathlib.Data.List.Sort

/-! Stable sorting by a comparator.

    A list without repetitions is given by the order of its pairs (`eq_of_pairs`), and a stable sort keeps a pair in order
    exactly if the comparator allows it (`pair_mergeSort_iff`). How far a sorted list depends on the order it was given
    is how far it shows ties: up to `k` it does not if no element with fewer than `k` before it ties with another
    (`take_mergeSort_congr`), and the element moved to the front comes before all those it ties with (`getElem?_mergeSort_cons`). -/

namespace Sorting
open List

variable {α β : Type*} {cmp cmp' : α → α → Ordering} {l l' : List α} {a b : α} {k : ℕ}

/-! ### Pairs -/

theorem pair_or (ha : a ∈ l) (hb : b ∈ l) (hne : a ≠ b) : [a, b] <+ l ∨ [b, a] <+ l := by
  induction l with
  | nil => cases ha
  | cons c l ih =>
    rcases mem_cons.mp ha with rfl | ha'
    · exact .inl (cons_sublist_cons.mpr (singleton_sublist.mpr (mem_of_ne_of_mem hne.symm hb)))
    · rcases mem_cons.mp hb with rfl | hb
      · exact .inr (cons_sublist_cons.mpr (singleton_sublist.mpr ha'))
      · rcases ih ha' hb with h | h
        · exact .inl (h.cons c)
        · exact .inr (h.cons c)

theorem pair_asymm (hd : l.Nodup) (h : [a, b] <+ l) : ¬ [b, a] <+ l := by
  induction l with
  | nil => cases h
  | cons c l ih =>
    obtain ⟨hc, hd⟩ := nodup_cons.mp hd
    intro h'
    cases h with
    | cons _ h =>
      cases h' with
      | cons _ h' => exact ih hd h h'
      | cons_cons _ h' => exact hc (h.subset (by simp))
    | cons_cons _ h =>
      cases h' with
      | cons _ h' => exact hc (h'.subset (by simp))
      | cons_cons _ h' => exact hc (singleton_sublist.mp h')

theorem mem_of_pair (h : [a, b] <+ l) : a ∈ l ∧ b ∈ l :=
  ⟨h.subset mem_cons_self, h.subset (mem_cons_of_mem _ mem_cons_self)⟩

theorem ne_of_pair (hd : l.Nodup) (h : [a, b] <+ l) : a ≠ b := by
  have hab := hd.sublist h
  simp only [nodup_cons, mem_singleton] at hab
  exact hab.1

/-- Two arrangements of a list are the same if they have the same of its pairs in order. -/
theorem eq_of_pairs {l₀ : List α} (hd : l₀.Nodup) (hl : l.Perm l₀) (hl' : l'.Perm l₀)
    (h : ∀ a b, [a, b] <+ l₀ → ([a, b] <+ l ↔ [a, b] <+ l')) : l = l' := by
  have hdl : l.Nodup := hl.nodup_iff.mpr hd
  have hdl' : l'.Nodup := hl'.nodup_iff.mpr hd
  have hin : l.Pairwise fun a b => [a, b] <+ l := pairwise_of_forall_sublist fun h => h
  have hin' : l'.Pairwise fun a b => [a, b] <+ l := by
    refine pairwise_of_forall_sublist fun {a b} hab => ?_
    obtain ⟨ha, hb⟩ := mem_of_pair hab
    have hne := ne_of_pair hdl' hab
    rcases pair_or (hl'.subset ha) (hl'.subset hb) hne with h₀ | h₀
    · exact (h a b h₀).mpr hab
    · by_contra hno
      have hba := (pair_or (hl.symm.subset (hl'.subset ha)) (hl.symm.subset (hl'.subset hb)) hne).resolve_left hno
      exact pair_asymm hdl' hab ((h b a h₀).mp hba)
  exact Perm.eq_of_pairwise (fun a b _ _ hab hba => absurd hba (pair_asymm hdl hab)) hin hin' (hl.trans hl'.symm)

theorem pair_filter {p : α → Bool} : [a, b] <+ l.filter p ↔ [a, b] <+ l ∧ p a = true ∧ p b = true := by
  constructor
  · intro h
    obtain ⟨ha, hb⟩ := mem_of_pair h
    exact ⟨h.trans filter_sublist, (mem_filter.mp ha).2, (mem_filter.mp hb).2⟩
  · rintro ⟨h, ha, hb⟩
    have hf := h.filter p
    rwa [filter_cons_of_pos ha, filter_cons_of_pos hb, filter_nil] at hf

theorem pair_append : [a, b] <+ l ++ l' ↔ [a, b] <+ l ∨ [a, b] <+ l' ∨ a ∈ l ∧ b ∈ l' := by
  constructor
  · intro h
    obtain ⟨s, t, hst, hs, ht⟩ := sublist_append_iff.mp h
    cases s with
    | nil =>
      obtain rfl : [a, b] = t := by simpa using hst
      exact .inr (.inl ht)
    | cons c s =>
      cases s with
      | nil =>
        obtain ⟨rfl, rfl⟩ : a = c ∧ [b] = t := by simpa using hst
        exact .inr (.inr ⟨singleton_sublist.mp hs, singleton_sublist.mp ht⟩)
      | cons d s =>
        obtain ⟨rfl, rfl, rfl, rfl⟩ : a = c ∧ b = d ∧ s = [] ∧ t = [] := by simpa using hst
        exact .inl hs
  · rintro (h | h | ⟨ha, hb⟩)
    · exact h.trans (sublist_append_left _ _)
    · exact h.trans (sublist_append_right _ _)
    · exact (singleton_sublist.mpr ha).append (singleton_sublist.mpr hb)

/-! ### Comparators -/

theorem transCmp_on (cmp : α → α → Ordering) (f : β → α) [Std.TransCmp cmp] : Std.TransCmp fun a b => cmp (f a) (f b) where
  eq_swap := Std.OrientedCmp.eq_swap
  isLE_trans := Std.TransCmp.isLE_trans

theorem transCmp_then [Std.TransCmp cmp] [Std.TransCmp cmp'] : Std.TransCmp fun a b => (cmp a b).then (cmp' a b) :=
  inferInstanceAs (Std.TransCmp (compareLex cmp cmp'))

/-- Those with a property come first. -/
def ahead (p : α → Bool) (cmp cmp' : α → α → Ordering) (a b : α) : Ordering :=
  if p a then if p b then cmp a b else .lt else if p b then .gt else cmp' a b

instance transCmp_ahead {p : α → Bool} [Std.TransCmp cmp] [Std.TransCmp cmp'] : Std.TransCmp (ahead p cmp cmp') where
  eq_swap {a b} := by
    cases ha : p a <;> cases hb : p b <;> simp [ahead, ha, hb]
    · exact Std.OrientedCmp.eq_swap
    · exact Std.OrientedCmp.eq_swap
  isLE_trans {a b c} hab hbc := by
    cases ha : p a <;> cases hb : p b <;> cases hc : p c <;> simp [ahead, ha, hb, hc] at hab hbc ⊢
    · exact Std.TransCmp.isLE_trans hab hbc
    · exact Std.TransCmp.isLE_trans hab hbc

theorem transCmp_eq : Std.TransCmp fun _ _ : α => Ordering.eq where
  eq_swap := rfl
  isLE_trans _ _ := rfl

/-! ### Sorted lists -/

theorem orderedInsert_append {r : α → α → Prop} [DecidableRel r] (h : ∀ b ∈ l, ¬ r a b) (h' : ∀ b ∈ l', r a b) :
    (l ++ l').orderedInsert r a = l ++ a :: l' := by
  induction l with
  | nil =>
    cases l' with
    | nil => rfl
    | cons b l' => exact orderedInsert_cons_of_le r l' (h' b mem_cons_self)
  | cons b l ih =>
    rw [cons_append, orderedInsert_of_not_le r _ (h b mem_cons_self), ih fun c hc => h c (mem_cons_of_mem _ hc)]
    rfl

section
variable [Std.TransCmp cmp] [Std.TransCmp cmp']

variable (cmp) in
theorem le_trans (a b c : α) (hab : decide (cmp a b ≠ .gt) = true) (hbc : decide (cmp b c ≠ .gt) = true) :
    decide (cmp a c ≠ .gt) = true := by
  simp only [decide_eq_true_eq, ← Ordering.isLE_iff_ne_gt] at *
  exact Std.TransCmp.isLE_trans hab hbc

theorem le_total (a b : α) : (decide (cmp a b ≠ .gt) || decide (cmp b a ≠ .gt)) = true := by
  rw [Bool.or_eq_true, decide_eq_true_eq, decide_eq_true_eq]
  by_contra! h
  exact Std.OrientedCmp.not_gt_of_gt h.1 h.2

variable (cmp) in
theorem pairwise_mergeSort (l : List α) : (l.mergeSort fun a b => cmp a b ≠ .gt).Pairwise fun a b => cmp a b ≠ .gt := by
  have h := List.pairwise_mergeSort (le_trans cmp) le_total l
  exact h.imp fun hab => of_decide_eq_true hab

omit [Std.TransCmp cmp'] in
/-- Both sorts are stable. -/
theorem insertionSort_eq_mergeSort {r : α → α → Prop} [DecidableRel r] (h : ∀ a b, r a b ↔ cmp a b ≠ .gt) (l : List α) :
    l.insertionSort r = l.mergeSort fun a b => cmp a b ≠ .gt := by
  induction l with
  | nil => simp
  | cons a l ih =>
    obtain ⟨l₁, l₂, hcons, hrest, hlt⟩ := mergeSort_cons (le_trans cmp) le_total a l
    have hs := pairwise_mergeSort cmp (a :: l)
    rw [hcons, pairwise_append] at hs
    rw [insertionSort_cons, ih, hcons, hrest]
    refine orderedInsert_append (fun b hb => ?_) fun b hb => (h a b).mpr (rel_of_pairwise_cons hs.2.1 hb)
    rw [h]
    simpa using hlt b hb

/-- A pair stays in order unless it is the wrong way round. -/
theorem pair_mergeSort_iff (h : [a, b] <+ l) : [a, b] <+ (l.mergeSort fun a b => cmp a b ≠ .gt) ↔ cmp a b ≠ .gt := by
  constructor
  · intro hs
    exact (pairwise_mergeSort cmp l).forall_sublist hs
  · intro hle
    exact pair_sublist_mergeSort (le_trans cmp) le_total (decide_eq_true hle) h

/-- What stands in order afterwards: the smaller before the larger, and those that tie as they stood. -/
theorem pair_mergeSort (hd : l.Nodup) : [a, b] <+ (l.mergeSort fun a b => cmp a b ≠ .gt) ↔
    a ∈ l ∧ b ∈ l ∧ (cmp a b = .lt ∨ cmp a b = .eq ∧ [a, b] <+ l) := by
  have hds : (l.mergeSort fun a b => cmp a b ≠ .gt).Nodup := (mergeSort_perm ..).nodup_iff.mpr hd
  constructor
  · intro h
    obtain ⟨ha, hb⟩ := mem_of_pair h
    rw [mem_mergeSort] at ha hb
    refine ⟨ha, hb, ?_⟩
    rcases pair_or ha hb (ne_of_pair hds h) with hab | hba
    · have hle := (pair_mergeSort_iff hab).mp h
      cases hc : cmp a b with
      | lt => exact .inl rfl
      | eq => exact .inr ⟨rfl, hab⟩
      | gt => exact absurd hc hle
    · by_cases hle : cmp b a = .gt
      · exact .inl (Std.OrientedCmp.gt_iff_lt.mp hle)
      · exact absurd ((pair_mergeSort_iff hba).mpr hle) (pair_asymm hds h)
  · rintro ⟨ha, hb, hlt | ⟨heq, hab⟩⟩
    · have hne : a ≠ b := by
        rintro rfl
        have hself : cmp a a = .eq := Std.ReflCmp.compare_self
        rw [hself] at hlt
        cases hlt
      have hgt := Std.OrientedCmp.gt_of_lt hlt
      refine (pair_or (mem_mergeSort.mpr ha) (mem_mergeSort.mpr hb) hne).resolve_right fun h => ?_
      exact (pairwise_mergeSort cmp l).forall_sublist h hgt
    · exact (pair_mergeSort_iff hab).mpr (by rw [heq]; decide)

omit [Std.TransCmp cmp] in
/-- Where nothing is the wrong way round, nothing moves. -/
theorem mergeSort_eq_self (l : List α) (h : ∀ a ∈ l, ∀ b ∈ l, cmp a b ≠ .gt) :
    (l.mergeSort fun a b => cmp a b ≠ .gt) = l :=
  mergeSort_of_pairwise (pairwise_of_forall_mem_list fun a ha b hb => decide_eq_true (h a ha b hb))

variable (cmp) in
/-- To sort the part with a property and append the rest is to sort by a comparator, too. -/
theorem mergeSort_filter_append (p : α → Bool) (hd : l.Nodup) :
    ((l.filter p).mergeSort fun a b => cmp a b ≠ .gt) ++ l.filter (fun a => !p a) =
      l.mergeSort fun a b => ahead p cmp (fun _ _ => .eq) a b ≠ .gt := by
  have : Std.TransCmp fun _ _ : α => Ordering.eq := transCmp_eq
  refine eq_of_pairs hd (((mergeSort_perm ..).append_right _).trans (filter_append_perm p l)) (mergeSort_perm ..)
    fun a b hab => ?_
  obtain ⟨ha, hb⟩ := mem_of_pair hab
  rw [pair_mergeSort_iff hab, pair_append, pair_filter, mem_mergeSort, mem_filter, mem_filter]
  have hsorted : [a, b] <+ ((l.filter p).mergeSort fun a b => cmp a b ≠ .gt) ↔
      (p a = true ∧ p b = true) ∧ cmp a b ≠ .gt := by
    constructor
    · intro h
      obtain ⟨hpa, hpb⟩ := mem_of_pair h
      rw [mem_mergeSort, mem_filter] at hpa hpb
      exact ⟨⟨hpa.2, hpb.2⟩, (pair_mergeSort_iff (pair_filter.mpr ⟨hab, hpa.2, hpb.2⟩)).mp h⟩
    · rintro ⟨⟨hpa, hpb⟩, hle⟩
      exact (pair_mergeSort_iff (pair_filter.mpr ⟨hab, hpa, hpb⟩)).mpr hle
  rw [hsorted]
  cases hpa : p a <;> cases hpb : p b <;> simp [ahead, hpa, hpb, hab, ha, hb]

/-- Without ties the order that was given does not matter. -/
theorem mergeSort_eq_of_perm (hl : l.Perm l') (h : ∀ a ∈ l, ∀ b ∈ l, cmp a b = .eq → a = b) :
    (l.mergeSort fun a b => cmp a b ≠ .gt) = l'.mergeSort fun a b => cmp a b ≠ .gt := by
  refine Perm.eq_of_pairwise ?_ (pairwise_mergeSort cmp l) (pairwise_mergeSort cmp l')
    (((mergeSort_perm ..).trans hl).trans (mergeSort_perm ..).symm)
  intro a b ha hb hab hba
  exact h a (mem_mergeSort.mp ha) b (hl.symm.subset (mem_mergeSort.mp hb))
    (Std.OrientedCmp.isLE_antisymm (Ordering.isLE_iff_ne_gt.mpr hab) (Ordering.isLE_iff_ne_gt.mpr hba))

/-! ### Ties -/

variable (cmp) in
/-- How many elements come before one, wherever they stood. -/
def before (l : List α) (a : α) : ℕ := l.countP fun b => cmp b a = .lt

omit [Std.TransCmp cmp] in
theorem before_perm (hl : l.Perm l') : before cmp l a = before cmp l' a := hl.countP_eq _

/-- Without ties the first `k` of a sorted list are those with fewer than `k` before them. -/
theorem mem_take_of_sorted (hs : l.Pairwise fun a b => cmp a b ≠ .gt) (h : ∀ a ∈ l, ∀ b ∈ l, cmp a b = .eq → a = b) :
    a ∈ l.take k ↔ a ∈ l ∧ before cmp l a < k := by
  induction l generalizing k with
  | nil => simp
  | cons b l ih =>
    obtain ⟨hmin, hs⟩ := pairwise_cons.mp hs
    cases k with
    | zero => simp
    | succ k =>
      rw [take_succ_cons, mem_cons, mem_cons, ih hs fun c hc d hd => h c (mem_cons_of_mem _ hc) d (mem_cons_of_mem _ hd)]
      by_cases hab : a = b
      · subst hab
        have hself : cmp a a = .eq := Std.ReflCmp.compare_self
        have hfirst : before cmp (a :: l) a = 0 := by
          refine countP_eq_zero.mpr fun c hc => ?_
          rw [decide_eq_true_eq]
          rcases mem_cons.mp hc with rfl | hc
          · simp [hself]
          · exact Std.OrientedCmp.not_lt_of_isLE (Ordering.isLE_iff_ne_gt.mpr (hmin c hc))
        simp [hfirst]
      · simp only [hab, false_or]
        refine and_congr_right fun ha => ?_
        have hlt : cmp b a = .lt := by
          cases hba : cmp b a with
          | lt => rfl
          | eq => exact absurd (h b mem_cons_self a (mem_cons_of_mem _ ha) hba).symm hab
          | gt => exact absurd hba (hmin a ha)
        rw [before, before, countP_cons_of_pos (by simp [hlt])]
        exact Nat.succ_lt_succ_iff.symm

theorem mem_take_mergeSort (h : ∀ a ∈ l, ∀ b ∈ l, cmp a b = .eq → a = b) :
    a ∈ (l.mergeSort fun a b => cmp a b ≠ .gt).take k ↔ a ∈ l ∧ before cmp l a < k := by
  rw [mem_take_of_sorted (pairwise_mergeSort cmp l) fun a ha b hb => h a (mem_mergeSort.mp ha) b (mem_mergeSort.mp hb),
    mem_mergeSort, before_perm (mergeSort_perm l _)]

omit [Std.TransCmp cmp] in
/-- What is left out does not show among the first `k` exactly if none of those is left out. -/
theorem take_filter_eq_iff {p : α → Bool} : (l.filter p).take k = l.take k ↔ ∀ a ∈ l.take k, p a = true := by
  constructor
  · intro h a ha
    rw [← h] at ha
    exact (mem_filter.mp (take_subset _ _ ha)).2
  · intro h
    conv_lhs => rw [← take_append_drop k l, filter_append, filter_eq_self.mpr h]
    rcases Nat.lt_or_ge l.length k with hlt | hge
    · rw [drop_of_length_le (Nat.le_of_lt hlt), filter_nil, append_nil, take_take, Nat.min_self]
    · rw [take_append_of_le_length (by rw [length_take, Nat.min_eq_left hge]), take_take, Nat.min_self]

/-- Without ties a filter and a sort may change places. -/
theorem mergeSort_filter {p : α → Bool} (h : ∀ a ∈ l, ∀ b ∈ l, cmp a b = .eq → a = b) :
    ((l.filter p).mergeSort fun a b => cmp a b ≠ .gt) = (l.mergeSort fun a b => cmp a b ≠ .gt).filter p := by
  refine Perm.eq_of_pairwise ?_ (pairwise_mergeSort cmp _) ((pairwise_mergeSort cmp l).filter p)
    ((mergeSort_perm ..).trans ((mergeSort_perm l _).symm.filter p))
  intro a b ha hb hab hba
  exact h a (mem_of_mem_filter (mem_mergeSort.mp ha)) b (mem_mergeSort.mp (mem_of_mem_filter hb))
    (Std.OrientedCmp.isLE_antisymm (Ordering.isLE_iff_ne_gt.mpr hab) (Ordering.isLE_iff_ne_gt.mpr hba))

/-- Up to `k`, two sorted arrangements agree while no element with fewer than `k` before it ties with another. -/
theorem take_eq_of_sorted (hl : l.Perm l') (hs : l.Pairwise fun a b => cmp a b ≠ .gt)
    (hs' : l'.Pairwise fun a b => cmp a b ≠ .gt)
    (h : ∀ a ∈ l, before cmp l a < k → ∀ b ∈ l, cmp a b = .eq → a = b) : l.take k = l'.take k := by
  induction k generalizing l l' with
  | zero => rfl
  | succ k ih =>
    cases l with
    | nil => rw [hl.symm.eq_nil]
    | cons a l =>
      cases l' with
      | nil => cases hl.eq_nil
      | cons a' l' =>
        obtain ⟨hmin, hs⟩ := pairwise_cons.mp hs
        obtain ⟨hmin', htail'⟩ := pairwise_cons.mp hs'
        have hself : cmp a a = .eq := Std.ReflCmp.compare_self
        have hfirst : before cmp (a :: l) a = 0 := by
          refine countP_eq_zero.mpr fun b hb => ?_
          rw [decide_eq_true_eq]
          rcases mem_cons.mp hb with rfl | hb
          · simp [hself]
          · exact Std.OrientedCmp.not_lt_of_isLE (Ordering.isLE_iff_ne_gt.mpr (hmin b hb))
        -- The two heads are minimal, so they tie.
        have heq : a = a' := by
          rcases mem_cons.mp (hl.symm.subset mem_cons_self : a' ∈ a :: l) with he | ha'
          · exact he.symm
          · rcases mem_cons.mp (hl.subset mem_cons_self : a ∈ a' :: l') with he | ha
            · exact he
            · have hle := Ordering.isLE_iff_ne_gt.mpr (hmin a' ha')
              have hge := Ordering.isLE_iff_ne_gt.mpr (hmin' a ha)
              exact h a mem_cons_self (hfirst ▸ Nat.succ_pos k) a' (mem_cons_of_mem _ ha')
                (Std.OrientedCmp.isLE_antisymm hle hge)
        subst heq
        rw [take_succ_cons, take_succ_cons, ih hl.cons_inv hs htail' fun c hc hlt b hb => ?_]
        refine h c (mem_cons_of_mem _ hc) ?_ b (mem_cons_of_mem _ hb)
        have hle : before cmp (a :: l) c ≤ before cmp l c + 1 := by
          rw [before, countP_cons, before]
          split_ifs <;> omega
        omega

theorem take_mergeSort_congr (hl : l.Perm l') (h : ∀ a ∈ l, before cmp l a < k → ∀ b ∈ l, cmp a b = .eq → a = b) :
    (l.mergeSort fun a b => cmp a b ≠ .gt).take k = (l'.mergeSort fun a b => cmp a b ≠ .gt).take k := by
  have hp := mergeSort_perm l fun a b => cmp a b ≠ .gt
  refine take_eq_of_sorted ((hp.trans hl).trans (mergeSort_perm ..).symm) (pairwise_mergeSort cmp l)
    (pairwise_mergeSort cmp l') fun a ha hlt b hb => ?_
  rw [before_perm hp] at hlt
  exact h a (mem_mergeSort.mp ha) hlt b (mem_mergeSort.mp hb)

/-- The element at the front comes right after those that are smaller. -/
theorem getElem?_mergeSort_cons (a : α) (l : List α) :
    ((a :: l).mergeSort fun a b => cmp a b ≠ .gt)[before cmp (a :: l) a]? = some a := by
  obtain ⟨l₁, l₂, hcons, hrest, hlt⟩ := mergeSort_cons (le_trans cmp) le_total a l
  have hp := mergeSort_perm (a :: l) fun a b => cmp a b ≠ .gt
  have hs := pairwise_mergeSort cmp (a :: l)
  rw [hcons] at hp hs
  have hself : cmp a a = .eq := Std.ReflCmp.compare_self
  have hbefore : before cmp (a :: l) a = l₁.length := by
    rw [← before_perm hp, before, countP_append, countP_cons_of_neg (by simp [hself]),
      countP_eq_length.mpr, countP_eq_zero.mpr, Nat.add_zero]
    · intro b hb
      have hle := rel_of_pairwise_cons (pairwise_append.mp hs).2.1 hb
      rw [decide_eq_true_eq]
      exact Std.OrientedCmp.not_lt_of_isLE (Ordering.isLE_iff_ne_gt.mpr hle)
    · intro b hb
      have hgt := hlt b hb
      simp only [Bool.not_eq_true', decide_eq_false_iff_not, not_not] at hgt
      exact decide_eq_true (Std.OrientedCmp.lt_of_gt hgt)
  rw [hcons, hbefore, getElem?_append_right (Nat.le_refl _), Nat.sub_self]
  rfl

end

end Sorting
