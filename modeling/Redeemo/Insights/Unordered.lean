import Redeemo.Insights.VoucherAnalytics

/-! What the order of the groups decides, in queries that name none: nothing, but for the busiest of the cells that are
    equally busy. -/

namespace Redeemo.Insights
open Bags

variable {db db' : Database}

/-! ### Groups -/

theorem perm_countedGroups {α κ : Type} [LinearOrder κ] (key : α → κ) (s : Multiset α) :
    (countedGroups db key s).Perm (countedGroups db' key s) := by
  refine List.Perm.map _ (Multiset.coe_eq_coe.mp ?_)
  rw [db.order.coe_list, db'.order.coe_list]

theorem nodup_countedGroups {α κ : Type} [LinearOrder κ] (key : α → κ) (s : Multiset α) :
    ((countedGroups db key s).map Prod.fst).Nodup := by
  rw [countedGroups, List.map_map]
  exact (List.map_id _).symm ▸ nodup_of_coe (db.order.coe_list _)

theorem mem_countedGroups {α κ : Type} [LinearOrder κ] {key : α → κ} {s : Multiset α} {row : κ × ℕ}
    (h : row ∈ countedGroups db key s) : row.2 = Multiset.card (members key s row.1) := by
  obtain ⟨k, -, rfl⟩ := List.mem_map.mp h
  rfl

/-- Rows with the same key are the same row. -/
theorem eq_of_key {κ : Type} {rows : List (κ × ℕ)} (hn : (rows.map Prod.fst).Nodup) {x y : κ × ℕ} (hx : x ∈ rows)
    (hy : y ∈ rows) (h : x.1 = y.1) : x = y := List.inj_on_of_nodup_map hn hx hy h

/-! ### Shares by type -/

theorem get?_foldl_addCount (t7 : MerchantVoucherType) (rows : List (VoucherType × ℕ))
    (map : InsertionMap MerchantVoucherType ℕ) : (rows.foldl addCount map).get? t7 =
      (rows.filter fun row => dbTypeToType7 row.1 = t7).foldl (fun n row => some (n.getD 0 + row.2)) (map.get? t7) := by
  induction rows generalizing map with
  | nil => rfl
  | cons row rest ih =>
    rw [List.foldl_cons, ih, addCount, InsertionMap.get?_set]
    by_cases h : dbTypeToType7 row.1 = t7
    · rw [List.filter_cons_of_pos (by simpa using h), List.foldl_cons, if_pos h.symm, h]
    · rw [List.filter_cons_of_neg (by simpa using h), if_neg (Ne.symm h)]

theorem get?_addCount_perm {rows rows' : List (VoucherType × ℕ)} (h : rows.Perm rows') (t7 : MerchantVoucherType) :
    (rows.foldl addCount .empty).get? t7 = (rows'.foldl addCount .empty).get? t7 := by
  rw [get?_foldl_addCount, get?_foldl_addCount]
  refine (h.filter _).foldl_eq' (fun x _ y _ n => ?_) _
  simp only [Option.getD_some]
  rw [add_right_comm]

theorem typeLabel_injective {a b : MerchantVoucherType} (h : typeLabel a = typeLabel b) : a = b := by
  cases a <;> cases b <;> first | rfl | exact absurd h (by decide)

instance : Std.Total byTypeOrder := ⟨fun _ _ => le_total _ _⟩

instance : IsTrans TypeShare byTypeOrder := ⟨fun _ _ _ => le_trans⟩

theorem byType_perm {rows rows' : List (VoucherType × ℕ)} (h : rows.Perm rows') : byType rows = byType rows' := by
  have htotal : (rows.map Prod.snd).sum = (rows'.map Prod.snd).sum := (h.map _).sum_eq
  have hentries := InsertionMap.perm_entries (get?_addCount_perm h)
  rw [byType, byType, htotal]
  -- The order is total on shares of one total, for a type has one.
  refine List.Perm.eq_of_pairwise ?_ (List.pairwise_insertionSort _ _) (List.pairwise_insertionSort _ _)
    ((List.perm_insertionSort _ _).trans ((hentries.map _).trans (List.perm_insertionSort _ _).symm))
  intro a b ha hb hab hba
  have hkey := le_antisymm hab hba
  obtain ⟨e, -, rfl⟩ := List.mem_map.mp ((List.mem_insertionSort _).mp ha)
  obtain ⟨e', -, rfl⟩ := List.mem_map.mp ((List.mem_insertionSort _).mp hb)
  obtain ⟨hlogged, hlabel⟩ := Prod.mk.inj (toLex.injective hkey)
  obtain rfl : e = e' := Prod.ext (typeLabel_injective hlabel) (OrderDual.toDual_inj.mp hlogged)
  rfl

/-! ### Slots -/

theorem fillSlots_perm {rows rows' : List (ℤ × ℕ)} (h : rows.Perm rows') (hn : (rows.map Prod.fst).Nodup)
    (counts : List ℕ) : fillSlots rows counts = fillSlots rows' counts := by
  refine h.foldl_eq' (fun x hx y hy counts => ?_) counts
  by_cases hxy : x.1 = y.1
  · rw [eq_of_key hn hx hy hxy]
  · by_cases hxin : 0 ≤ x.1 ∧ x.1 < (counts.length : ℤ)
    · by_cases hyin : 0 ≤ y.1 ∧ y.1 < (counts.length : ℤ)
      · simp only [if_pos hxin, if_pos hyin, List.length_set]
        exact List.set_comm _ _ (by omega)
      · simp only [if_pos hxin, if_neg hyin, List.length_set]
    · by_cases hyin : 0 ≤ y.1 ∧ y.1 < (counts.length : ℤ)
      · simp only [if_neg hxin, if_pos hyin, List.length_set]
      · simp only [if_neg hxin, if_neg hyin]

theorem fillSlots_countedGroups {α : Type} (key : α → ℤ) (s : Multiset α) (counts : List ℕ) :
    fillSlots (countedGroups db key s) counts = fillSlots (countedGroups db' key s) counts :=
  fillSlots_perm (perm_countedGroups key s) (nodup_countedGroups key s) counts

/-! ### Cells -/

def OutOfGrid (cell : ℤ ×ₗ ℤ) : Prop :=
  (ofLex cell).1 < 0 ∨ DOW_COUNT ≤ (ofLex cell).1 ∨ (ofLex cell).2 < 0 ∨ DAYPART_COUNT ≤ (ofLex cell).2

instance (cell : ℤ ×ₗ ℤ) : Decidable (OutOfGrid cell) := inferInstanceAs (Decidable ((ofLex cell).1 < 0 ∨
  DOW_COUNT ≤ (ofLex cell).1 ∨ (ofLex cell).2 < 0 ∨ DAYPART_COUNT ≤ (ofLex cell).2))

def setCell (counts : ℤ → ℤ → ℕ) (row : (ℤ ×ₗ ℤ) × ℕ) : ℤ → ℤ → ℕ :=
  if OutOfGrid row.1 then counts
  else fun d p => if d = (ofLex row.1).1 ∧ p = (ofLex row.1).2 then row.2 else counts d p

def markPeak (g : Cells) (row : (ℤ ×ₗ ℤ) × ℕ) : Option (ℤ × ℤ) :=
  if g.peakCount < row.2 then some (ofLex row.1) else g.peakCell

def raisePeak (peak : ℕ) (row : (ℤ ×ₗ ℤ) × ℕ) : ℕ := if OutOfGrid row.1 then peak else max peak row.2

theorem countCell_eq (g : Cells) (row : (ℤ ×ₗ ℤ) × ℕ) : countCell g row = if OutOfGrid row.1 then g else
    ⟨setCell g.counts row, raisePeak g.peakCount row, markPeak g row⟩ := by
  rw [countCell]
  by_cases h : OutOfGrid row.1
  · exact (if_pos h).trans (if_pos h).symm
  · rw [setCell, raisePeak, if_neg h, if_neg h, if_neg h]
    exact if_neg h

theorem counts_foldl (rows : List ((ℤ ×ₗ ℤ) × ℕ)) (g : Cells) :
    (rows.foldl countCell g).counts = rows.foldl setCell g.counts := by
  induction rows generalizing g with
  | nil => rfl
  | cons row rest ih =>
    rw [List.foldl_cons, ih, List.foldl_cons, countCell_eq]
    split_ifs with h
    · rw [setCell, if_pos h]
    · rfl

theorem peakCount_foldl (rows : List ((ℤ ×ₗ ℤ) × ℕ)) (g : Cells) :
    (rows.foldl countCell g).peakCount = rows.foldl raisePeak g.peakCount := by
  induction rows generalizing g with
  | nil => rfl
  | cons row rest ih =>
    rw [List.foldl_cons, ih, List.foldl_cons, countCell_eq]
    split_ifs with h
    · rw [raisePeak, if_pos h]
    · rfl

/-- The cell that is named has the peak count. -/
def PeakOf (all : List ((ℤ ×ₗ ℤ) × ℕ)) (g : Cells) : Prop :=
  (g.peakCell = none ∧ g.peakCount = 0) ∨
    0 < g.peakCount ∧ ∃ row ∈ all, g.peakCell = some (ofLex row.1) ∧ row.2 = g.peakCount

theorem PeakOf.countCell {all : List ((ℤ ×ₗ ℤ) × ℕ)} {g : Cells} (h : PeakOf all g) {row : (ℤ ×ₗ ℤ) × ℕ}
    (hrow : row ∈ all) : PeakOf all (countCell g row) := by
  rw [countCell_eq]
  split_ifs with hout
  · exact h
  · by_cases hlt : g.peakCount < row.2
    · have hpeak : raisePeak g.peakCount row = row.2 := (if_neg hout).trans (max_eq_right hlt.le)
      rw [hpeak, markPeak, if_pos hlt]
      exact .inr ⟨Nat.zero_lt_of_lt hlt, row, hrow, rfl, rfl⟩
    · have hpeak : raisePeak g.peakCount row = g.peakCount := (if_neg hout).trans (max_eq_left (not_lt.mp hlt))
      rw [hpeak, markPeak, if_neg hlt]
      exact h

theorem PeakOf.foldl {all rows : List ((ℤ ×ₗ ℤ) × ℕ)} {g : Cells} (hsub : ∀ row ∈ rows, row ∈ all) (h : PeakOf all g) :
    PeakOf all (rows.foldl Insights.countCell g) := by
  induction rows generalizing g with
  | nil => exact h
  | cons row rest ih =>
    exact ih (fun r hr => hsub r (List.mem_cons_of_mem _ hr)) (h.countCell (hsub row List.mem_cons_self))

theorem setCell_foldl_perm {rows rows' : List ((ℤ ×ₗ ℤ) × ℕ)} (h : rows.Perm rows') (hn : (rows.map Prod.fst).Nodup)
    (counts : ℤ → ℤ → ℕ) : rows.foldl setCell counts = rows'.foldl setCell counts := by
  refine h.foldl_eq' (fun x hx y hy counts => ?_) counts
  by_cases hxy : x.1 = y.1
  · rw [eq_of_key hn hx hy hxy]
  · have hne (d p : ℤ) : ¬ ((d = (ofLex x.1).1 ∧ p = (ofLex x.1).2) ∧ d = (ofLex y.1).1 ∧ p = (ofLex y.1).2) := by
      rintro ⟨⟨rfl, rfl⟩, h1, h2⟩
      exact hxy (ofLex.injective (Prod.ext h1 h2))
    simp only [setCell]
    split_ifs
    · rfl
    · rfl
    · rfl
    · funext d p
      by_cases hx' : d = (ofLex x.1).1 ∧ p = (ofLex x.1).2
      · have hy' : ¬ (d = (ofLex y.1).1 ∧ p = (ofLex y.1).2) := fun hy' => hne d p ⟨hx', hy'⟩
        simp only [if_neg hy', if_pos hx']
      · simp only [if_neg hx']

theorem raisePeak_foldl_perm {rows rows' : List ((ℤ ×ₗ ℤ) × ℕ)} (h : rows.Perm rows') (peak : ℕ) :
    rows.foldl raisePeak peak = rows'.foldl raisePeak peak := by
  refine h.foldl_eq' (fun x _ y _ peak => ?_) peak
  simp only [raisePeak]
  split_ifs
  · rfl
  · rfl
  · rfl
  · exact max_right_comm _ _ _

/-- The redemptions of a cell. -/
def cellCount (s : Multiset Redemption) (cell : ℤ × ℤ) : ℕ := Multiset.card (members cellKey s (toLex cell))

/-- The same bands, and the same busiest cell or two that are equally busy. -/
def BusyAlike (s : Multiset Redemption) (b b' : BusyTimesResult) : Prop :=
  b.grid = b'.grid ∧
    (b.busiest = b'.busiest ∨ ∃ c ∈ b.busiest, ∃ c' ∈ b'.busiest, cellCount s c = cellCount s c')

theorem busyAlike (db db' : Database) (minPeak : Option ℕ) (s : Multiset Redemption) :
    BusyAlike s (busyTimes minPeak (countedGroups db cellKey s)) (busyTimes minPeak (countedGroups db' cellKey s)) := by
  have hperm : (countedGroups db cellKey s).Perm (countedGroups db' cellKey s) := perm_countedGroups cellKey s
  have hnodup : ((countedGroups db cellKey s).map Prod.fst).Nodup := nodup_countedGroups cellKey s
  obtain ⟨g, hg⟩ : ∃ g, g = (countedGroups db cellKey s).foldl countCell ⟨fun _ _ => 0, 0, none⟩ := ⟨_, rfl⟩
  obtain ⟨g', hg'⟩ : ∃ g, g = (countedGroups db' cellKey s).foldl countCell ⟨fun _ _ => 0, 0, none⟩ := ⟨_, rfl⟩
  have hcounts : g.counts = g'.counts := by
    rw [hg, hg', counts_foldl, counts_foldl, setCell_foldl_perm hperm hnodup]
  have hpeak : g.peakCount = g'.peakCount := by
    rw [hg, hg', peakCount_foldl, peakCount_foldl, raisePeak_foldl_perm hperm]
  have hcell : PeakOf (countedGroups db cellKey s) g := hg ▸ PeakOf.foldl (fun _ h => h) (.inl ⟨rfl, rfl⟩)
  have hcell' : PeakOf (countedGroups db' cellKey s) g' := hg' ▸ PeakOf.foldl (fun _ h => h) (.inl ⟨rfl, rfl⟩)
  rw [busyTimes, busyTimes, ← hg, ← hg']
  refine ⟨?_, ?_⟩
  · dsimp only
    rw [hcounts, hpeak]
  · dsimp only
    rw [← hpeak]
    split_ifs
    · rcases hcell with ⟨hn, h0⟩ | ⟨hpos, row, hrow, hc, hcount⟩
      · rcases hcell' with ⟨hn', -⟩ | ⟨hpos', -⟩
        · exact .inl (hn.trans hn'.symm)
        · omega
      · rcases hcell' with ⟨-, h0'⟩ | ⟨-, row', hrow', hc', hcount'⟩
        · omega
        · refine .inr ⟨_, hc, _, hc', ?_⟩
          rw [cellCount, cellCount, toLex_ofLex, toLex_ofLex, ← mem_countedGroups hrow, ← mem_countedGroups hrow',
            hcount, hcount', hpeak]
    · exact .inl rfl

end Redeemo.Insights
