import Mathlib.Data.List.Flatten
import Mathlib.Data.List.Range
import Redeemo.Lib.Sorting

/-! Lists read page by page, each page by a query of its own.

    A query sorts the rows it finds by `q`, and leaves those that tie as it found them; a further sort by `r` comes
    before the page is cut out (`sortThenSlice`) or after it (`sliceThenSort`). Pages are lossless if together they are
    the list that one query gives. Sorted first, they are exactly if no two rows tie in both orders
    (`lossless_sortThenSlice_iff`); sorted last, only if, besides, the rows that tie for the query share a page and no
    row of an earlier page belongs after one of a later page (`lossless_sliceThenSort_iff`). -/

namespace Paging
open List Sorting

variable {α β σ τ ι : Type*}

/-! ### Pages -/

def sortBy (cmp : α → α → Ordering) (l : List α) : List α := l.mergeSort fun a b => cmp a b ≠ .gt

/-- Page `n`, from 0, of size `k`. -/
def slice (k n : ℕ) (l : List α) : List α := (l.drop (n * k)).take k

/-- However each query finds the rows, the pages are what one query gives, and that is each row once. -/
def Lossless (found : σ → Prop) (page : σ → ℕ → ℕ → List β) (key : β → ι) (keys : List ι) (k : ℕ) : Prop :=
  ∀ scan : ℕ → σ, (∀ n, found (scan n)) → ∀ whole, found whole → ∀ K, keys.length ≤ K → ∀ N, keys.length ≤ N * k →
    ((range N).flatMap fun n => page (scan n) k n) = page whole K 0 ∧ ((page whole K 0).map key).Perm keys

variable {q r : α → α → Ordering} {rows l l' : List α} {a b : α} {i k n : ℕ}

theorem sortBy_perm (cmp : α → α → Ordering) (l : List α) : (sortBy cmp l).Perm l := mergeSort_perm ..

theorem map_sortBy (cmp : β → β → Ordering) (f : α → β) (l : List α) :
    (sortBy (fun a b => cmp (f a) (f b)) l).map f = sortBy cmp (l.map f) := map_mergeSort fun _ _ _ _ => rfl

theorem map_slice (f : α → β) (k n : ℕ) (l : List α) : (slice k n l).map f = slice k n (l.map f) := by
  rw [slice, map_take, map_drop, slice]

theorem flatMap_slice (k N : ℕ) (l : List α) : ((range N).flatMap fun n => slice k n l) = l.take (N * k) := by
  induction N with
  | zero => simp
  | succ N ih => rw [range_succ, flatMap_append, ih, flatMap_singleton, slice, ← take_add, Nat.succ_mul]

theorem slice_zero (h : l.length ≤ k) : slice k 0 l = l := by
  rw [slice, Nat.zero_mul, drop_zero, take_of_length_le h]

theorem mem_slice (hk : 0 < k) : a ∈ slice k n l ↔ ∃ i, l[i]? = some a ∧ i / k = n := by
  rw [slice, mem_iff_getElem?]
  constructor
  · rintro ⟨j, hj⟩
    rw [getElem?_take] at hj
    split_ifs at hj with hlt
    rw [getElem?_drop] at hj
    refine ⟨n * k + j, hj, ?_⟩
    rw [Nat.mul_comm, Nat.mul_add_div hk, Nat.div_eq_of_lt hlt, Nat.add_zero]
  · rintro ⟨i, hi, rfl⟩
    refine ⟨i % k, ?_⟩
    rw [getElem?_take, if_pos (Nat.mod_lt i hk), getElem?_drop, Nat.mul_comm, Nat.div_add_mod]
    exact hi

/-! ### What a query finds -/

/-- A query finds its rows in any order, whatever else it goes by. -/
theorem lossless_scans {found : σ → Prop} {found' : τ → Prop} {rowsOf : σ → τ}
    (hfound : ∀ t, found' t ↔ ∃ s, found s ∧ rowsOf s = t) (page : τ → ℕ → ℕ → List β) (key : β → ι) (keys : List ι) :
    Lossless found (fun s => page (rowsOf s)) key keys k ↔ Lossless found' page key keys k := by
  constructor
  · intro h scan hscan whole hwhole K hK N hN
    choose s hs using fun n => (hfound (scan n)).mp (hscan n)
    obtain ⟨w, hw, rfl⟩ := (hfound whole).mp hwhole
    have hpages := h s (fun n => (hs n).1) w hw K hK N hN
    simpa only [(hs _).2] using hpages
  · intro h scan hscan whole hwhole K hK N hN
    exact h (fun n => rowsOf (scan n)) (fun n => (hfound _).mpr ⟨_, hscan n, rfl⟩) (rowsOf whole)
      ((hfound _).mpr ⟨_, hwhole, rfl⟩) K hK N hN

/-- The rows that a filter leaves may be found in any order. -/
theorem perm_filterMap_iff {g : α → Option β} {table : List α} (t : List β) :
    t.Perm (table.filterMap g) ↔ ∃ s : List α, s.Perm table ∧ s.filterMap g = t := by
  constructor
  · intro h
    generalize hl : table.filterMap g = l at h
    replace h := h.symm
    induction h generalizing table with
    | nil => exact ⟨table, Perm.refl _, hl⟩
    | cons b _ ih =>
      obtain ⟨s₁, a, s₂, rfl, hnone, ha, hrest⟩ := filterMap_eq_cons_iff.mp hl
      obtain ⟨s, hs, hst⟩ := ih hrest
      refine ⟨s₁ ++ a :: s, (hs.cons a).append_left s₁, ?_⟩
      rw [filterMap_append, filterMap_eq_nil_iff.mpr hnone, filterMap_cons_some ha, hst, nil_append]
    | swap b c l =>
      obtain ⟨s₁, a, s₂, rfl, hnone, ha, hrest⟩ := filterMap_eq_cons_iff.mp hl
      obtain ⟨s₃, a', s₄, rfl, hnone', ha', hrest'⟩ := filterMap_eq_cons_iff.mp hrest
      refine ⟨a' :: a :: (s₁ ++ (s₃ ++ s₄)), ?_, ?_⟩
      · have hfront : (a' :: (s₁ ++ a :: s₃ ++ s₄)).Perm (s₁ ++ a :: s₃ ++ a' :: s₄) := perm_middle.symm
        rw [append_assoc, cons_append, append_assoc, cons_append] at hfront
        exact (perm_middle.symm.cons a').trans hfront
      · rw [filterMap_cons_some ha', filterMap_cons_some ha, filterMap_append, filterMap_append,
          filterMap_eq_nil_iff.mpr hnone, filterMap_eq_nil_iff.mpr hnone', hrest', nil_append, nil_append]
    | trans _ _ ih₁ ih₂ =>
      obtain ⟨s, hs, hst⟩ := ih₁ hl
      obtain ⟨s', hs', hst'⟩ := ih₂ hst
      exact ⟨s', hs'.trans hs, hst'⟩
  · rintro ⟨s, hs, rfl⟩
    exact hs.filterMap g

theorem perm_filter_iff {p : α → Bool} {table : List α} (t : List α) :
    t.Perm (table.filter p) ↔ ∃ s : List α, s.Perm table ∧ s.filter p = t := by
  rw [← filterMap_eq_filter, perm_filterMap_iff]

theorem map_inj_on {f : α → β} (hf : ∀ a ∈ rows, ∀ b ∈ rows, f a = f b → a = b) (hl : ∀ a ∈ l, a ∈ rows)
    (hl' : ∀ a ∈ l', a ∈ rows) (h : l.map f = l'.map f) : l = l' := by
  induction l generalizing l' with
  | nil => exact (map_eq_nil_iff.mp h.symm).symm
  | cons a l ih =>
    cases l' with
    | nil => cases h
    | cons b l' =>
      obtain ⟨hab, htail⟩ := cons_eq_cons.mp h
      rw [hf a (hl a mem_cons_self) b (hl' b mem_cons_self) hab,
        ih (fun c hc => hl c (mem_cons_of_mem _ hc)) (fun c hc => hl' c (mem_cons_of_mem _ hc)) htail]

/-- Rows are shown under keys of their own. -/
theorem lossless_map (hd : rows.Nodup) {found : σ → Prop} {page : σ → ℕ → ℕ → List α} {f : α → β} {key : β → ι}
    (hf : ∀ a ∈ rows, ∀ b ∈ rows, key (f a) = key (f b) → a = b)
    (hpage : ∀ s, found s → ∀ k n, ∀ a ∈ page s k n, a ∈ rows) :
    Lossless found (fun s k n => (page s k n).map f) key (rows.map fun a => key (f a)) k ↔
      Lossless found page id rows k := by
  simp only [Lossless, length_map, ← map_flatMap, map_map, map_id]
  refine forall_congr' fun scan => forall_congr' fun hscan => forall_congr' fun whole => forall_congr' fun hwhole =>
    forall_congr' fun K => forall_congr' fun hK => forall_congr' fun N => forall_congr' fun hN => ?_
  have hpages : ∀ a ∈ (range N).flatMap fun n => page (scan n) k n, a ∈ rows := by
    intro a ha
    obtain ⟨n, _, ha⟩ := mem_flatMap.mp ha
    exact hpage _ (hscan n) _ _ a ha
  have hwholePage := hpage whole hwhole K 0
  constructor
  · rintro ⟨heq, hperm⟩
    refine ⟨map_inj_on (fun a ha b hb hab => hf a ha b hb (congrArg key hab)) hpages hwholePage heq, ?_⟩
    have hkeys := hperm.symm.nodup_iff.mp (hd.map_on fun a ha b hb => hf a ha b hb)
    refine (perm_ext_iff_of_nodup hkeys.of_map hd).mpr fun a => ⟨hwholePage a, fun ha => ?_⟩
    obtain ⟨b, hb, hab⟩ := mem_map.mp (hperm.symm.subset (mem_map_of_mem ha))
    exact hf b (hwholePage b hb) a ha hab ▸ hb
  · rintro ⟨heq, hperm⟩
    exact ⟨congrArg _ heq, hperm.map _⟩

/-- What an operation shows is what becomes of its rows. -/
theorem lossless_rows (hd : rows.Nodup) {found : σ → Prop} (rowsOf : σ → List α) (f : α → β) {key : β → ι}
    {page : σ → ℕ → ℕ → List β} {page' : List α → ℕ → ℕ → List α}
    (hfound : ∀ t : List α, t.Perm rows ↔ ∃ s, found s ∧ rowsOf s = t)
    (hf : ∀ a ∈ rows, ∀ b ∈ rows, key (f a) = key (f b) → a = b)
    (hpage : ∀ s, found s → ∀ k n, page s k n = (page' (rowsOf s) k n).map f)
    (hmem : ∀ l : List α, ∀ k n, ∀ a ∈ page' l k n, a ∈ l) :
    Lossless found page key (rows.map fun a => key (f a)) k ↔
      Lossless (fun l => l.Perm rows) page' id rows k := by
  rw [← lossless_map hd hf fun s hs k n a ha => hs.subset (hmem s k n a ha), ← lossless_scans hfound]
  constructor
  · intro h scan hscan whole hwhole K hK N hN
    simpa only [hpage _ (hscan _), hpage _ hwhole] using h scan hscan whole hwhole K hK N hN
  · intro h scan hscan whole hwhole K hK N hN
    simpa only [hpage _ (hscan _), hpage _ hwhole] using h scan hscan whole hwhole K hK N hN

theorem mem_of_slice (h : a ∈ slice k n l) : a ∈ l := drop_subset _ _ (take_subset _ _ h)

/-! ### Positions -/

theorem split_at (h : l[i]? = some a) : l.take i ++ a :: l.drop (i + 1) = l := by
  obtain ⟨hi, rfl⟩ := List.getElem?_eq_some_iff.mp h
  rw [← drop_eq_getElem_cons, take_append_drop]

section
variable [Std.TransCmp q] [Std.TransCmp r]

variable (q) in
/-- How many elements do not come after one, itself among them. -/
def upTo (l : List α) (a : α) : ℕ := l.countP fun b => q b a ≠ .gt

omit [Std.TransCmp q] in
theorem upTo_perm (h : l.Perm l') : upTo q l a = upTo q l' a := h.countP_eq _

omit [Std.TransCmp r] in
/-- In a sorted list an element stands after all that are smaller, and before all that are greater. -/
theorem position_of_sorted (hs : l.Pairwise fun a b => q a b ≠ .gt) (h : l[i]? = some a) :
    before q l a ≤ i ∧ i < upTo q l a := by
  have hi : i < l.length := (List.getElem?_eq_some_iff.mp h).1
  have hsplit := split_at h
  have hlen : (l.take i).length = i := length_take_of_le (Nat.le_of_lt hi)
  have hself : q a a = .eq := Std.ReflCmp.compare_self
  rw [← hsplit, pairwise_append] at hs
  have hlate : ∀ b ∈ l.drop (i + 1), ¬ q b a = .lt := fun b hb =>
    Std.OrientedCmp.not_lt_of_isLE (Ordering.isLE_iff_ne_gt.mpr (rel_of_pairwise_cons hs.2.1 hb))
  have hearly : ∀ b ∈ l.take i, q b a ≠ .gt := fun b hb => hs.2.2 b hb a mem_cons_self
  constructor
  · have hnone : (a :: l.drop (i + 1)).countP (fun b => q b a = .lt) = 0 := by
      refine countP_eq_zero.mpr fun b hb => ?_
      rcases mem_cons.mp hb with rfl | hb
      · simp [hself]
      · simpa using hlate b hb
    rw [before, ← hsplit, countP_append, hnone, Nat.add_zero]
    exact (countP_le_length).trans (Nat.le_of_eq hlen)
  · have hall : (l.take i).countP (fun b => q b a ≠ .gt) = i := by
      rw [countP_eq_length.mpr fun b hb => decide_eq_true (hearly b hb), hlen]
    rw [upTo, ← hsplit, countP_append, hall, countP_cons_of_pos (by simp [hself])]
    omega

variable (q) in
omit [Std.TransCmp r] in
/-- Found last, an element stands after all those it ties with. -/
theorem getElem?_sortBy_last (hd : (l ++ [a]).Nodup) : (sortBy q (l ++ [a]))[upTo q (l ++ [a]) a - 1]? = some a := by
  have hp := sortBy_perm q (l ++ [a])
  have hs : (sortBy q (l ++ [a])).Pairwise fun a b => q a b ≠ .gt := pairwise_mergeSort q _
  have hpair : ∀ b, [a, b] <+ sortBy q (l ++ [a]) → q b a = .gt := by
    intro b hab
    rcases ((pair_mergeSort hd).mp hab).2.2 with hlt | ⟨_, hfound⟩
    · exact Std.OrientedCmp.gt_of_lt hlt
    · rcases mem_append.mp (mem_of_pair hfound).2 with hb | hb
      · have hba : [b, a] <+ l ++ [a] := (singleton_sublist.mpr hb).append (Sublist.refl [a])
        exact absurd hba (pair_asymm hd hfound)
      · exact absurd (mem_singleton.mp hb).symm (ne_of_pair hd hfound)
  rw [← upTo_perm hp]
  have ha := hp.symm.subset (mem_append_right l (mem_singleton_self a))
  generalize sortBy q (l ++ [a]) = s at hs hpair ha
  obtain ⟨i, hi⟩ := mem_iff_getElem?.mp ha
  have hpos := (position_of_sorted hs hi).2
  have hnone : (s.drop (i + 1)).countP (fun b => q b a ≠ .gt) = 0 := by
    refine countP_eq_zero.mpr fun b hb => ?_
    have hab : [a, b] <+ s := by
      rw [← split_at hi]
      exact (cons_sublist_cons.mpr (singleton_sublist.mpr hb)).trans (sublist_append_right _ _)
    simpa using hpair b hab
  have hcount : upTo q s a ≤ i + 1 := by
    rw [upTo, ← take_append_drop (i + 1) s, countP_append, hnone, Nat.add_zero]
    exact (countP_le_length).trans (length_take_le _ _)
  rw [show upTo q s a - 1 = i by omega, hi]

/-! ### Sorting again -/

variable (q r) in
/-- The order that is left when the rows sorted by `q` are sorted by `r`. -/
def resorted (a b : α) : Ordering := (r a b).then (q a b)

variable (q r) in
/-- No two rows tie in both orders. -/
def Untied (rows : List α) : Prop := ∀ a ∈ rows, ∀ b ∈ rows, r a b = .eq → q a b = .eq → a = b

omit [Std.TransCmp q] in
theorem pairwise_resort (hd : l.Nodup) (hs : l.Pairwise fun a b => q a b ≠ .gt) :
    (sortBy r l).Pairwise fun a b => resorted q r a b ≠ .gt := by
  refine pairwise_of_forall_sublist fun {a b} hab => ?_
  rcases ((pair_mergeSort hd).mp hab).2.2 with hlt | ⟨heq, hfound⟩
  · simp [resorted, hlt]
  · simpa [resorted, heq] using hs.forall_sublist hfound

/-- Without ties the order is given by the comparators alone. -/
theorem eq_of_resorted (hu : Untied q r rows) (hl : l.Perm rows) (hl' : l'.Perm rows)
    (hs : l.Pairwise fun a b => resorted q r a b ≠ .gt) (hs' : l'.Pairwise fun a b => resorted q r a b ≠ .gt) :
    l = l' := by
  refine Perm.eq_of_pairwise (fun a b ha hb hab hba => ?_) hs hs' (hl.trans hl'.symm)
  have htrans : Std.TransCmp fun a b => (r a b).then (q a b) := transCmp_then
  have : Std.TransCmp (resorted q r) := htrans
  have htie : resorted q r a b = .eq :=
    Std.OrientedCmp.isLE_antisymm (Ordering.isLE_iff_ne_gt.mpr hab) (Ordering.isLE_iff_ne_gt.mpr hba)
  obtain ⟨hr, hq⟩ := Ordering.then_eq_eq.mp htie
  exact hu a (hl.subset ha) b (hl'.subset hb) hr hq

omit [Std.TransCmp r] in
theorem sortBy_sorted (l : List α) : (sortBy q l).Pairwise fun a b => q a b ≠ .gt := pairwise_mergeSort q l

theorem resort_sorted (hd : l.Nodup) : (sortBy r (sortBy q l)).Pairwise fun a b => resorted q r a b ≠ .gt :=
  pairwise_resort ((sortBy_perm q l).nodup_iff.mpr hd) (sortBy_sorted l)

omit [Std.TransCmp q] [Std.TransCmp r] in
theorem resort_perm (l : List α) : (sortBy r (sortBy q l)).Perm l := (sortBy_perm r _).trans (sortBy_perm q l)

/-- Two rows that tie come out as they were found. -/
theorem resort_pair (hd : l.Nodup) (hr : r a b = .eq) (hq : q a b = .eq) (h : [a, b] <+ l) :
    [a, b] <+ sortBy r (sortBy q l) := by
  have hds : (sortBy q l).Nodup := (sortBy_perm q l).nodup_iff.mpr hd
  obtain ⟨ha, hb⟩ := mem_of_pair h
  have hfound := (pair_mergeSort hd).mpr ⟨ha, hb, .inr ⟨hq, h⟩⟩
  exact (pair_mergeSort hds).mpr ⟨(sortBy_perm q l).symm.subset ha, (sortBy_perm q l).symm.subset hb, .inr ⟨hr, hfound⟩⟩

omit [Std.TransCmp q] [Std.TransCmp r] in
theorem exists_front (ha : a ∈ rows) : ∃ rest, (a :: rest).Perm rows := by
  obtain ⟨s, t, rfl⟩ := append_of_mem ha
  exact ⟨s ++ t, perm_middle.symm⟩

/-- If every order of the rows leads to one list then no rows tie. -/
theorem untied_of_const (hd : rows.Nodup)
    (h : ∀ l l', l.Perm rows → l'.Perm rows → sortBy r (sortBy q l) = sortBy r (sortBy q l')) : Untied q r rows := by
  intro a ha b hb hr hq
  by_contra hne
  obtain ⟨rest, hrest⟩ : ∃ rest, (a :: b :: rest).Perm rows := by
    obtain ⟨l₁, hl₁⟩ := exists_front ha
    have hb₁ : b ∈ l₁ := (mem_cons.mp (hl₁.symm.subset hb)).resolve_left (Ne.symm hne)
    obtain ⟨l₂, hl₂⟩ := exists_front hb₁
    exact ⟨l₂, (hl₂.cons a).trans hl₁⟩
  have hswap : (b :: a :: rest).Perm rows := (Perm.swap a b rest).trans hrest
  have hab := resort_pair (l := a :: b :: rest) (hrest.nodup_iff.mpr hd) hr hq (by simp)
  have hba := resort_pair (l := b :: a :: rest) (hswap.nodup_iff.mpr hd) (Std.OrientedCmp.eq_symm hr)
    (Std.OrientedCmp.eq_symm hq) (by simp)
  rw [h _ _ hrest hswap] at hab
  exact pair_asymm (((resort_perm _).trans hswap).nodup_iff.mpr hd) hab hba

/-! ### Sorted before the page is cut out -/

variable (q r) in
def sortThenSlice (l : List α) (k n : ℕ) : List α := slice k n (sortBy r (sortBy q l))

omit [Std.TransCmp q] [Std.TransCmp r] in
/-- Pages cut out of a sorted list lose nothing exactly if every query sorts alike. -/
theorem lossless_slice_iff {found : σ → Prop} {list : σ → List β} {key : β → ι} {keys : List ι}
    (hkeys : ∀ s, found s → ((list s).map key).Perm keys) (hk : 0 < k) :
    Lossless found (fun s k n => slice k n (list s)) key keys k ↔ ∀ s s', found s → found s' → list s = list s' := by
  have hlen : ∀ s, found s → (list s).length = keys.length := fun s hs => by
    rw [← (hkeys s hs).length_eq, length_map]
  constructor
  · intro h s s' hs hs'
    have hN : keys.length ≤ keys.length * k := Nat.le_mul_of_pos_right _ hk
    have hpages := (h (fun _ => s) (fun _ => hs) s' hs' keys.length (Nat.le_refl _) keys.length hN).1
    dsimp only at hpages
    rwa [flatMap_slice, take_of_length_le ((hlen s hs).trans_le hN), slice_zero (hlen s' hs').le] at hpages
  · intro h scan hscan whole hwhole K hK N hN
    have hall : ∀ n, list (scan n) = list whole := fun n => h _ _ (hscan n) hwhole
    simp only [hall]
    rw [flatMap_slice, take_of_length_le ((hlen whole hwhole).trans_le hN), slice_zero ((hlen whole hwhole).trans_le hK)]
    exact ⟨rfl, hkeys whole hwhole⟩

theorem const_iff_untied (hd : rows.Nodup) :
    (∀ l l', l.Perm rows → l'.Perm rows → sortBy r (sortBy q l) = sortBy r (sortBy q l')) ↔ Untied q r rows := by
  refine ⟨untied_of_const hd, fun hu l l' hl hl' => ?_⟩
  exact eq_of_resorted hu ((resort_perm l).trans hl) ((resort_perm l').trans hl') (resort_sorted (hl.nodup_iff.mpr hd))
    (resort_sorted (hl'.nodup_iff.mpr hd))

theorem lossless_sortThenSlice_iff (hd : rows.Nodup) (hk : 0 < k) :
    Lossless (fun l => l.Perm rows) (sortThenSlice q r) id rows k ↔ Untied q r rows := by
  rw [← const_iff_untied hd]
  refine lossless_slice_iff (fun l hl => ?_) hk
  rw [map_id]
  exact (resort_perm l).trans hl

/-! ### Sorted after the page is cut out -/

variable (q r) in
def sliceThenSort (l : List α) (k n : ℕ) : List α := sortBy r (slice k n (sortBy q l))

omit [Std.TransCmp q] [Std.TransCmp r] in
theorem mem_of_sliceThenSort (l : List α) (k n : ℕ) (a : α) (h : a ∈ sliceThenSort q r l k n) : a ∈ l :=
  (sortBy_perm q l).subset (mem_of_slice ((sortBy_perm r _).subset h))

omit [Std.TransCmp q] [Std.TransCmp r] in
theorem mem_of_sortThenSlice (l : List α) (k n : ℕ) (a : α) (h : a ∈ sortThenSlice q r l k n) : a ∈ l :=
  (sortBy_perm q l).subset ((sortBy_perm r _).subset (mem_of_slice h))

variable (q) in
/-- The first page that a row can come on. -/
def pageOf (rows : List α) (k : ℕ) (a : α) : ℕ := before q rows a / k

variable (q) in
/-- No group of rows that tie for the query begins on one page and ends on another. -/
def Unbroken (rows : List α) (k : ℕ) : Prop := ∀ a ∈ rows, (upTo q rows a - 1) / k = pageOf q rows k a

variable (q r) in
/-- No row belongs after one that is on a later page. -/
def Aligned (rows : List α) (k : ℕ) : Prop :=
  ∀ a ∈ rows, ∀ b ∈ rows, pageOf q rows k a < pageOf q rows k b → r a b ≠ .gt

omit [Std.TransCmp r] in
theorem pageOf_le_pageOf (hs : l.Perm rows) (h : (sortBy q l)[i]? = some a) :
    pageOf q rows k a ≤ i / k ∧ i / k ≤ (upTo q rows a - 1) / k := by
  have hpos := position_of_sorted (sortBy_sorted l) h
  rw [before_perm ((sortBy_perm q l).trans hs), upTo_perm ((sortBy_perm q l).trans hs)] at hpos
  exact ⟨Nat.div_le_div_right hpos.1, Nat.div_le_div_right (by omega)⟩

omit [Std.TransCmp r] in
/-- While groups do not break, a page holds the rows that begin on it. -/
theorem mem_slice_sortBy (hk : 0 < k) (hb : Unbroken q rows k) (hl : l.Perm rows) :
    a ∈ slice k n (sortBy q l) ↔ a ∈ rows ∧ pageOf q rows k a = n := by
  have hp := (sortBy_perm q l).trans hl
  rw [mem_slice hk]
  constructor
  · rintro ⟨i, hi, rfl⟩
    have ha := hp.subset (mem_of_getElem? hi)
    obtain ⟨hle, hge⟩ := pageOf_le_pageOf (k := k) hl hi
    rw [hb a ha] at hge
    exact ⟨ha, Nat.le_antisymm hle hge⟩
  · rintro ⟨ha, rfl⟩
    obtain ⟨i, hi⟩ := mem_iff_getElem?.mp (hp.symm.subset ha)
    obtain ⟨hle, hge⟩ := pageOf_le_pageOf (k := k) hl hi
    rw [hb a ha] at hge
    exact ⟨i, hi, Nat.le_antisymm hge hle⟩

omit [Std.TransCmp r] in
theorem before_mono (h : q b a ≠ .gt) : before q rows b ≤ before q rows a := by
  refine countP_mono_left fun c _ hc => ?_
  rw [decide_eq_true_eq] at hc ⊢
  exact Std.TransCmp.lt_of_lt_of_isLE hc (Ordering.isLE_iff_ne_gt.mpr h)

omit [Std.TransCmp r] in
theorem lt_of_pageOf (h : pageOf q rows k a < pageOf q rows k b) : q a b = .lt := by
  refine Std.OrientedCmp.lt_of_gt ?_
  by_contra hba
  exact absurd h (Nat.not_lt.mpr (Nat.div_le_div_right (before_mono hba)))

omit [Std.TransCmp q] [Std.TransCmp r] in
theorem nodup_slice_sortBy (hd : l.Nodup) : (slice k n (sortBy q l)).Nodup :=
  (((sortBy_perm q l).nodup_iff.mpr hd).sublist (drop_sublist _ _)).sublist (take_sublist _ _)

omit [Std.TransCmp q] [Std.TransCmp r] in
theorem mem_sliceThenSort : a ∈ sliceThenSort q r l k n ↔ a ∈ slice k n (sortBy q l) := (sortBy_perm r _).mem_iff

/-- Where the condition holds, the pages of queries that found the rows in any order are the sorted rows. -/
theorem pages_sorted (hd : rows.Nodup) (hk : 0 < k) (hb : Unbroken q rows k) (ha : Aligned q r rows k)
    {scan : ℕ → List α} (hscan : ∀ n, (scan n).Perm rows) {N : ℕ} (hN : rows.length ≤ N * k) :
    ((range N).flatMap fun n => sliceThenSort q r (scan n) k n).Perm rows ∧
      ((range N).flatMap fun n => sliceThenSort q r (scan n) k n).Pairwise fun a b => resorted q r a b ≠ .gt := by
  have hmem : ∀ n a, a ∈ sliceThenSort q r (scan n) k n ↔ a ∈ rows ∧ pageOf q rows k a = n := fun n a =>
    mem_sliceThenSort.trans (mem_slice_sortBy hk hb (hscan n))
  have hds : ∀ n, (scan n).Nodup := fun n => (hscan n).nodup_iff.mpr hd
  constructor
  · refine (perm_ext_iff_of_nodup (nodup_flatMap.mpr ⟨fun n _ => ?_, ?_⟩) hd).mpr fun a => ?_
    · exact (sortBy_perm r _).nodup_iff.mpr (nodup_slice_sortBy (hds n))
    · refine (nodup_range).imp fun {m n} hmn => disjoint_left.mpr fun a hm hn => ?_
      exact hmn (((hmem m a).mp hm).2.symm.trans ((hmem n a).mp hn).2)
    · rw [mem_flatMap]
      constructor
      · rintro ⟨n, _, han⟩
        exact ((hmem n a).mp han).1
      · intro ha'
        refine ⟨pageOf q rows k a, mem_range.mpr ?_, (hmem _ a).mpr ⟨ha', rfl⟩⟩
        have hself : q a a = .eq := Std.ReflCmp.compare_self
        have hlt : before q rows a < rows.length := by
          refine Nat.lt_of_le_of_ne countP_le_length fun heq => ?_
          have hall := countP_eq_length.mp heq a ha'
          simp [hself] at hall
        exact Nat.div_lt_of_lt_mul (by rw [Nat.mul_comm]; omega)
  · refine pairwise_flatMap.mpr ⟨fun n _ => ?_, ?_⟩
    · refine pairwise_resort (nodup_slice_sortBy (hds n)) ?_
      exact ((sortBy_sorted (scan n)).sublist (drop_sublist _ _)).sublist (take_sublist _ _)
    · refine (pairwise_lt_range).imp fun {m n} hmn a hm b hn => ?_
      obtain ⟨ha', hma⟩ := (hmem m a).mp hm
      obtain ⟨hb', hnb⟩ := (hmem n b).mp hn
      have hpage : pageOf q rows k a < pageOf q rows k b := by omega
      have hr := ha a ha' b hb' hpage
      rw [resorted, lt_of_pageOf hpage]
      cases hrab : r a b with
      | lt => decide
      | eq => decide
      | gt => exact absurd hrab hr

theorem lossless_of_aligned (hd : rows.Nodup) (hk : 0 < k) (hu : Untied q r rows) (hb : Unbroken q rows k)
    (ha : Aligned q r rows k) : Lossless (fun l => l.Perm rows) (sliceThenSort q r) id rows k := by
  intro scan hscan whole hwhole K hK N hN
  have hlen := ((sortBy_perm q whole).trans hwhole).length_eq
  obtain ⟨hperm, hsorted⟩ := pages_sorted hd hk hb ha hscan hN
  rw [sliceThenSort, slice_zero (hlen.trans_le hK), map_id]
  refine ⟨eq_of_resorted hu hperm ((resort_perm whole).trans hwhole) hsorted ?_, (resort_perm whole).trans hwhole⟩
  exact resort_sorted (hwhole.nodup_iff.mpr hd)

omit [Std.TransCmp r] in
/-- A row can come on the first of its pages, and on the last. -/
theorem exists_scans (hd : rows.Nodup) (hk : 0 < k) (ha : a ∈ rows) :
    (∃ l : List α, l.Perm rows ∧ a ∈ sliceThenSort q r l k (pageOf q rows k a)) ∧
      ∃ l : List α, l.Perm rows ∧ a ∈ sliceThenSort q r l k ((upTo q rows a - 1) / k) := by
  obtain ⟨rest, hrest⟩ := exists_front ha
  have hlast : (rest ++ [a]).Perm rows := (perm_append_singleton a rest).trans hrest
  refine ⟨⟨a :: rest, hrest, ?_⟩, rest ++ [a], hlast, ?_⟩
  · refine mem_sliceThenSort.mpr ((mem_slice hk).mpr ⟨before q rows a, ?_, rfl⟩)
    rw [← before_perm hrest]
    exact getElem?_mergeSort_cons a rest
  · refine mem_sliceThenSort.mpr ((mem_slice hk).mpr ⟨upTo q rows a - 1, ?_, rfl⟩)
    rw [← upTo_perm hlast]
    exact getElem?_sortBy_last q (hlast.nodup_iff.mpr hd)

omit [Std.TransCmp q] [Std.TransCmp r] in
/-- What stands on two pages stands in the order of the pages. -/
theorem pair_flatMap {f : ℕ → List α} {m n N : ℕ} (hmn : m < n) (hn : n < N) (ha : a ∈ f m) (hb : b ∈ f n) :
    [a, b] <+ (range N).flatMap f := by
  have hpair : [m, n] <+ range N := by
    refine (pair_or (mem_range.mpr (hmn.trans hn)) (mem_range.mpr hn) (Nat.ne_of_lt hmn)).resolve_right fun h => ?_
    exact absurd (pairwise_lt_range.forall_sublist h) (Nat.not_lt_of_gt hmn)
  have hflat : [m, n].flatMap f <+ (range N).flatMap f := hpair.flatMap f
  refine Sublist.trans ?_ hflat
  simpa using (singleton_sublist.mpr ha).append (singleton_sublist.mpr hb)

theorem aligned_of_lossless (hd : rows.Nodup) (hk : 0 < k)
    (h : Lossless (fun l => l.Perm rows) (sliceThenSort q r) id rows k) :
    Untied q r rows ∧ Unbroken q rows k ∧ Aligned q r rows k := by
  have hN : rows.length ≤ rows.length * k := Nat.le_mul_of_pos_right _ hk
  have hpages : ∀ scan : ℕ → List α, (∀ n, (scan n).Perm rows) → ∀ l, l.Perm rows →
      ((range rows.length).flatMap fun n => sliceThenSort q r (scan n) k n) = sortBy r (sortBy q l) := by
    intro scan hscan l hl
    have hone := (h scan hscan l hl rows.length (Nat.le_refl _) rows.length hN).1
    rwa [sliceThenSort, slice_zero ((sortBy_perm q l).trans hl).length_eq.le] at hone
  have hlast : ∀ a ∈ rows, (upTo q rows a - 1) / k < rows.length := fun a ha => by
    have hle : upTo q rows a ≤ rows.length := countP_le_length
    have hpos : 0 < rows.length := length_pos_of_mem ha
    exact (Nat.div_le_self _ _).trans_lt (by omega)
  have hfirst : ∀ a ∈ rows, pageOf q rows k a ≤ (upTo q rows a - 1) / k := fun a ha => by
    obtain ⟨rest, hrest⟩ := exists_front ha
    have hat : (sortBy q (a :: rest))[before q (a :: rest) a]? = some a := getElem?_mergeSort_cons a rest
    obtain ⟨hle, hge⟩ := pageOf_le_pageOf (k := k) hrest hat
    exact hle.trans hge
  -- Two rows on pages of their own are listed in the order of the pages.
  have hpair : ∀ a m b n, m < n → n < rows.length →
      (∃ l : List α, l.Perm rows ∧ a ∈ sliceThenSort q r l k m) →
      (∃ l : List α, l.Perm rows ∧ b ∈ sliceThenSort q r l k n) → [a, b] <+ sortBy r (sortBy q rows) := by
    rintro a m b n hmn hn ⟨l, hl, ha⟩ ⟨l', hl', hb⟩
    rw [← hpages (fun i => if i = m then l else l') (fun i => by split_ifs <;> assumption) rows (Perm.refl _)]
    exact pair_flatMap hmn hn (by simpa using ha) (by simpa [Nat.ne_of_gt hmn] using hb)
  refine ⟨untied_of_const hd fun l l' hl hl' => ?_, fun a ha => ?_, fun a ha b hb hab => ?_⟩
  · exact (hpages (fun _ => l) (fun _ => hl) l hl).symm.trans (hpages (fun _ => l) (fun _ => hl) l' hl')
  · refine Nat.le_antisymm (Nat.le_of_not_lt fun hlt => ?_) (hfirst a ha)
    obtain ⟨hfront, hback⟩ := exists_scans (q := q) (r := r) hd hk ha
    have htwice := hpair a _ a _ hlt (hlast a ha) hfront hback
    exact ne_of_pair ((resort_perm rows).nodup_iff.mpr hd) htwice rfl
  · have hlisted := hpair a _ b _ hab ((hfirst b hb).trans_lt (hlast b hb)) (exists_scans hd hk ha).1
      (exists_scans hd hk hb).1
    rcases ((pair_mergeSort ((sortBy_perm q rows).nodup_iff.mpr hd)).mp hlisted).2.2 with hlt | ⟨heq, _⟩
    · simp [hlt]
    · simp [heq]

theorem lossless_sliceThenSort_iff (hd : rows.Nodup) (hk : 0 < k) :
    Lossless (fun l => l.Perm rows) (sliceThenSort q r) id rows k ↔
      Untied q r rows ∧ Unbroken q rows k ∧ Aligned q r rows k := by
  constructor
  · exact aligned_of_lossless hd hk
  · rintro ⟨hu, hb, ha⟩
    exact lossless_of_aligned hd hk hu hb ha

end

end Paging
