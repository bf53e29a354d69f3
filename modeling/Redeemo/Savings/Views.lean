import Mathlib.Algebra.BigOperators.Group.List.Basic
import Mathlib.Data.List.TakeWhile
import Mathlib.Tactic.IntervalCases
import Redeemo.Savings.Service

/-! The views of a customer's savings agree with each other.

    Each is measured by the redemptions of a calendar month, `monthRows`: a window contains the instants of its month
    (`contains_iff`), and the label it is given reads back as its bounds (`monthBounds_label`). -/

namespace Redeemo.Savings
open Calendar Dates WallTime

variable (redemptions : List VoucherRedemption) (userId : String)

/-! ### Months -/

def MonthWindow.Contains (w : MonthWindow) (t : ℤ) : Prop := w.start ≤ t ∧ t < w.end

def monthLabel (k : ℤ) : String := toString (k / 12) ++ "-" ++ padStart (toString (k % 12 + 1))

theorem monthOf_monthStart_mul (k : ℤ) : monthOf (day (monthStart k * msPerDay)) = k := by
  rw [day_mul, monthOf_eq_iff]
  exact ⟨le_refl _, monthStart_lt_succ k⟩

theorem dateUTC_month {k m : ℤ} (h : 1200 ≤ k) : dateUTC (k / 12) m 1 = monthStart (12 * (k / 12) + m) * msPerDay := by
  rw [dateUTC, fullYear_of_le (by omega), sub_self, add_zero]

theorem monthOf_now (now : ℕ) : 23640 ≤ monthOf (day now) := by
  have hday : 0 ≤ day now := by
    simp only [day, msPerDay]
    omega
  have h0 : monthOf 0 = 23640 := by decide
  exact h0 ▸ monthOf_mono hday

theorem monthWindow_eq (now : ℕ) {i : ℤ} (hi : i ≤ 11) : monthWindow now (-i) =
    ⟨monthLabel (monthOf (day now) - i), monthStart (monthOf (day now) - i) * msPerDay,
      monthStart (monthOf (day now) - i + 1) * msPerDay⟩ := by
  have hnow := monthOf_now now
  have hd : dateUTC (getUTCFullYear now) (getUTCMonth now + -i) 1 = monthStart (monthOf (day now) - i) * msPerDay := by
    rw [getUTCFullYear, dateUTC_month (by omega), getUTCMonth]
    congr 2
    omega
  simp only [monthWindow, hd]
  generalize hk : monthOf (day now) - i = k
  have hk0 : 1200 ≤ k := by omega
  rw [getUTCFullYear, getUTCMonth, monthOf_monthStart_mul, dateUTC_month hk0, dateUTC_month hk0, ← add_assoc,
    Int.mul_ediv_add_emod]
  rfl

theorem contains_iff (k t : ℤ) :
    monthStart k * msPerDay ≤ t ∧ t < monthStart (k + 1) * msPerDay ↔ monthOf (day t) = k := by
  rw [monthOf_eq_iff, day, Int.le_ediv_iff_mul_le (by decide), Int.ediv_lt_iff_lt_mul (by decide)]

/-! ### Labels -/

theorem digitsValue_eq (cs : List Char) (h : ∀ c ∈ cs, c.isDigit = true) (n : ℕ) :
    cs.foldl (fun n c => 10 * n + ((c.toNat : ℤ) - 48)) (n : ℤ) = Nat.ofDigitChars 10 cs n := by
  induction cs generalizing n with
  | nil => simp
  | cons c cs ih =>
    have hc := ((isDigit_iff c).mp (h c List.mem_cons_self)).1
    have hn : (10 * (n : ℤ) + ((c.toNat : ℤ) - 48)) = ((10 * n + (c.toNat - 48) : ℕ) : ℤ) := by omega
    rw [List.foldl_cons, hn, ih (fun d hd => h d (List.mem_cons_of_mem _ hd)), Nat.ofDigitChars_cons]
    rfl

theorem parseInt_repr (n : ℕ) : parseInt n.repr.toList = some (n : ℤ) := by
  have hdigits : ∀ c ∈ Nat.toDigits 10 n, c.isDigit = true := fun c hc =>
    Nat.isDigit_of_mem_toDigits (by decide) (by decide) hc
  have hvalue := digitsValue_eq (Nat.toDigits 10 n) hdigits 0
  rw [Nat.ofDigitChars_ten_toDigits] at hvalue
  rw [Nat.toList_repr, parseInt, List.takeWhile_eq_self_iff.mpr hdigits]
  cases hd : Nat.toDigits 10 n with
  | nil => exact absurd hd Nat.toDigits_ne_nil
  | cons d ds =>
    rw [hd] at hvalue
    exact congrArg some hvalue

theorem toString_nonneg {n : ℤ} (h : 0 ≤ n) : toString n = n.toNat.repr := by
  obtain ⟨m, rfl⟩ := Int.eq_ofNat_of_zero_le h
  rfl

/-- A month is written in two digits. -/
theorem padStart_month {m : ℤ} (h1 : 1 ≤ m) (h12 : m ≤ 12) :
    parseInt (padStart (toString m)).toList = some m ∧ '-' ∉ (padStart (toString m)).toList := by
  interval_cases m <;> decide

theorem monthBounds_label {k : ℤ} (h : 1200 ≤ k) :
    monthBounds (monthLabel k) = some (monthStart k * msPerDay, monthStart (k + 1) * msPerDay) := by
  obtain ⟨hmonth, hdash⟩ := padStart_month (m := k % 12 + 1) (by omega) (by omega)
  have hyear : '-' ∉ (toString (k / 12)).toList := by
    rw [toString_nonneg (by omega), Nat.toList_repr]
    intro hmem
    exact absurd (Nat.isDigit_of_mem_toDigits (by decide) (by decide) hmem) (by decide)
  have hsplit : (monthLabel k).toList.splitOn '-' =
      [(toString (k / 12)).toList, (padStart (toString (k % 12 + 1))).toList] := by
    have hjoin : (monthLabel k).toList =
        ['-'].intercalate [(toString (k / 12)).toList, (padStart (toString (k % 12 + 1))).toList] := by
      simp [monthLabel, List.intercalate, List.intersperse]
    rw [hjoin, List.splitOn_intercalate '-' (by simpa using ⟨hyear, hdash⟩) (by simp)]
  have hparse : parseInt (toString (k / 12)).toList = some (k / 12) := by
    rw [toString_nonneg (by omega), parseInt_repr, Int.toNat_of_nonneg (by omega)]
  simp only [monthBounds, hsplit, List.getElem?_cons_zero, List.getElem?_cons_succ, hparse, hmonth, Option.bind_eq_bind,
    Option.bind_some, Option.pure_def, dateUTC_month h, add_sub_cancel_right, ← add_assoc, Int.mul_ediv_add_emod]

theorem monthLabel_ne (k : ℤ) : monthLabel k ≠ "" := by
  intro h
  have hlen := congrArg (fun s => s.toList.length) h
  simp [monthLabel] at hlen

/-! ### Totals -/

/-- Each row under its own branch, and each branch once. -/
structure Partitions (rows : List VoucherRedemption) (entries : List BranchSaving) : Prop where
  distinct : (entries.map BranchSaving.branchId).Nodup
  covers : ∀ r ∈ rows, r.branch.id ∈ entries.map BranchSaving.branchId
  saving : ∀ e ∈ entries, e.saving = sumSaving (rows.filter fun r => r.branch.id = e.branchId)
  count : ∀ e ∈ entries, e.count = rows.countP fun r => r.branch.id = e.branchId

/-- What is reported of the rows: their total and number, a partition by branch that adds up to both, and by
    category what the rows with a category add up to. -/
structure Reports (rows : List VoucherRedemption) (saving : ℚ) (count : ℕ) (branches : List BranchSaving)
    (categories : List CategorySaving) : Prop where
  saving_eq : saving = sumSaving rows
  count_eq : count = rows.length
  branches_partition : Partitions rows branches
  branches_saving : (branches.map BranchSaving.saving).sum = saving
  branches_count : (branches.map BranchSaving.count).sum = count
  categories_saving : (categories.map CategorySaving.saving).sum =
    sumSaving (rows.filter fun r => r.voucher.merchant.primaryCategory.isSome)

theorem byBranch_perm (rows : List VoucherRedemption) :
    (byBranch rows).Perm ((byBranchMap rows).entries.map Prod.snd) := List.mergeSort_perm ..

/-- The entry of a branch is kept under the branch's id. -/
theorem branchId_of_entry {rows : List VoucherRedemption} {e : String × BranchSaving}
    (h : e ∈ (byBranchMap rows).entries) : e.2.branchId = e.1 := by
  refine InsertionMap.entries_foldl_tally _ startBranch addBranch (P := fun k b => b.branchId = k) (fun _ => rfl)
    (fun _ _ _ hb => hb) rows .empty ?_ e.1 e.2 ((InsertionMap.mem_entries_iff _).mp h)
  intro k v hv
  cases hv

theorem branchIds_eq (rows : List VoucherRedemption) :
    ((byBranchMap rows).entries.map Prod.snd).map BranchSaving.branchId = (byBranchMap rows).entries.map Prod.fst := by
  rw [List.map_map]
  exact List.map_congr_left fun e he => branchId_of_entry he

theorem byBranch_partitions (rows : List VoucherRedemption) : Partitions rows (byBranch rows) := by
  have hids := (byBranch_perm rows).map BranchSaving.branchId
  rw [branchIds_eq] at hids
  have hentry : ∀ b ∈ byBranch rows, (byBranchMap rows).get? b.branchId = some b := by
    intro b hb
    obtain ⟨e, he, rfl⟩ := List.mem_map.mp ((byBranch_perm rows).mem_iff.mp hb)
    rw [branchId_of_entry he]
    exact (InsertionMap.mem_entries_iff _).mp he
  constructor
  case distinct => exact hids.nodup_iff.mpr (byBranchMap rows).nodup
  case covers =>
    intro r hr
    exact hids.mem_iff.mpr ((InsertionMap.mem_keys_foldl_tally _ _ _ rows .empty _).mpr (.inr ⟨r, hr, rfl⟩))
  case saving =>
    intro b hb
    have hget := InsertionMap.get_foldl_tally (fun r : VoucherRedemption => r.branch.id) startBranch addBranch
      (f := BranchSaving.saving) (fun _ => rfl) (fun _ _ => rfl) rows .empty b.branchId
    rw [← byBranchMap, hentry b hb] at hget
    exact hget.trans (zero_add _)
  case count =>
    intro b hb
    have hget := InsertionMap.get_foldl_tally (fun r : VoucherRedemption => r.branch.id) startBranch addBranch
      (f := BranchSaving.count) (w := fun _ => 1) (fun _ => rfl) (fun _ _ => rfl) rows .empty b.branchId
    rw [← byBranchMap, hentry b hb] at hget
    rw [List.countP_eq_length_filter]
    simpa using hget

theorem byBranch_saving (rows : List VoucherRedemption) :
    ((byBranch rows).map BranchSaving.saving).sum = sumSaving rows := by
  rw [((byBranch_perm rows).map _).sum_eq, List.map_map]
  exact (InsertionMap.sum_foldl_tally _ _ _ (f := BranchSaving.saving) (fun _ => rfl) (fun _ _ => rfl) rows .empty).trans
    (zero_add _)

theorem byBranch_count (rows : List VoucherRedemption) :
    ((byBranch rows).map BranchSaving.count).sum = rows.length := by
  rw [((byBranch_perm rows).map _).sum_eq, List.map_map]
  refine (InsertionMap.sum_foldl_tally _ _ _ (f := BranchSaving.count) (w := fun _ => 1) (fun _ => rfl) (fun _ _ => rfl)
    rows .empty).trans ?_
  simp [InsertionMap.empty]

theorem sum_categorised (rows : List VoucherRedemption) :
    ((categorised rows).map fun r => r.2.estimatedSaving).sum =
      sumSaving (rows.filter fun r => r.voucher.merchant.primaryCategory.isSome) := by
  induction rows with
  | nil => rfl
  | cons r rows ih =>
    simp only [categorised, sumSaving] at ih ⊢
    cases hcat : r.voucher.merchant.primaryCategory with
    | none => simp [hcat, ih]
    | some cat => simp [hcat, ih]

theorem byCategory_saving (rows : List VoucherRedemption) : ((byCategory rows).map CategorySaving.saving).sum =
    sumSaving (rows.filter fun r => r.voucher.merchant.primaryCategory.isSome) := by
  rw [byCategory, ((List.mergeSort_perm ..).map _).sum_eq, List.map_map, ← sum_categorised]
  exact (InsertionMap.sum_foldl_tally _ _ _ (f := CategorySaving.saving) (w := fun r => r.2.estimatedSaving)
    (fun _ => rfl) (fun _ _ => rfl) (categorised rows) .empty).trans (zero_add _)

theorem reports (rows : List VoucherRedemption) :
    Reports rows (sumSaving rows) rows.length (byBranch rows) (byCategory rows) where
  saving_eq := rfl
  count_eq := rfl
  branches_partition := byBranch_partitions rows
  branches_saving := byBranch_saving rows
  branches_count := byBranch_count rows
  categories_saving := byCategory_saving rows

/-! ### Agreement -/

/-- The user's redemptions of a calendar month. -/
def monthRows (k : ℤ) : List VoucherRedemption :=
  redemptions.filter fun r => r.userId = userId ∧ monthOf (day r.redeemedAt) = k

theorem inRange_month (k : ℤ) :
    inRange redemptions userId (monthStart k * msPerDay) (monthStart (k + 1) * msPerDay) = monthRows redemptions userId k := by
  refine List.filter_congr fun r _ => decide_eq_decide.mpr ?_
  rw [contains_iff]

/-- The windows are the last twelve calendar months, each ending where the one before it in the list starts. -/
structure TilesLastTwelve (now : ℤ) (ws : List MonthWindow) : Prop where
  length_eq : ws.length = 12
  contains : ∀ (i : ℕ) w, ws[i]? = some w → ∀ t, w.Contains t ↔ monthOf (day t) = monthOf (day now) - i
  adjacent : ∀ (i : ℕ) w w', ws[i]? = some w → ws[i + 1]? = some w' → w'.end = w.start

theorem windows_get {now : ℕ} {i : ℕ} {w : MonthWindow} (h : (windows now)[i]? = some w) :
    w = ⟨monthLabel (monthOf (day now) - i), monthStart (monthOf (day now) - i) * msPerDay,
      monthStart (monthOf (day now) - i + 1) * msPerDay⟩ := by
  simp only [windows, List.getElem?_map, Option.map_eq_some_iff, List.getElem?_eq_some_iff, List.length_range,
    List.getElem_range] at h
  obtain ⟨_, ⟨hi, rfl⟩, rfl⟩ := h
  exact monthWindow_eq now (by omega)

theorem windows_tile (now : ℕ) : TilesLastTwelve now (windows now) where
  length_eq := by simp [windows]
  contains := by
    intro i w hw t
    rw [windows_get hw]
    exact contains_iff _ t
  adjacent := by
    intro i w w' hw hw'
    rw [windows_get hw, windows_get hw']
    simp only [Nat.cast_add, Nat.cast_one]
    congr 2
    omega

theorem getMonthlyDetail_label {k : ℤ} (h : 1200 ≤ k) : getMonthlyDetail redemptions userId (monthLabel k) =
    some ⟨sumSaving (monthRows redemptions userId k), (monthRows redemptions userId k).length,
      byBranch (monthRows redemptions userId k), byCategory (monthRows redemptions userId k)⟩ := by
  rw [getMonthlyDetail, monthBounds_label h, Option.map_some, inRange_month]

theorem redemptionsWhere_label {k : ℤ} (h : 1200 ≤ k) : redemptionsWhere userId (some (monthLabel k)) =
    some fun r : VoucherRedemption => decide (r.userId = userId ∧ monthOf (day r.redeemedAt) = k) := by
  rw [redemptionsWhere, Option.filter_some_pos (by simpa using monthLabel_ne k)]
  simp only [monthBounds_label h, Option.map_some, contains_iff]

/-- The summary, the detail of each of its months and the month's redemptions tell the same of every month. -/
theorem views_agree (now : ℕ) :
    TilesLastTwelve now (windows now) ∧
    Reports (monthRows redemptions userId (monthOf (day now)))
      (getSavingsSummary redemptions userId now).thisMonthSaving
      (getSavingsSummary redemptions userId now).thisMonthRedemptionCount
      (getSavingsSummary redemptions userId now).byBranch (getSavingsSummary redemptions userId now).byCategory ∧
    ((getSavingsSummary redemptions userId now).monthlyBreakdown.map MonthSaving.month = (windows now).map MonthWindow.label) ∧
    ∀ (i : ℕ) m, (getSavingsSummary redemptions userId now).monthlyBreakdown[i]? = some m →
      (∃ d, getMonthlyDetail redemptions userId m.month = some d ∧ d.totalSaving = m.saving ∧ d.redemptionCount = m.count ∧
        Reports (monthRows redemptions userId (monthOf (day now) - i)) d.totalSaving d.redemptionCount d.byBranch
          d.byCategory) ∧
      ∀ limit offset, ∃ page, getSavingsRedemptions redemptions userId limit offset (some m.month) = some page ∧
        page.total = m.count := by
  have hnow := monthOf_now now
  refine ⟨windows_tile now, ?_, ?_, ?_⟩
  · have hthis := monthWindow_eq now (i := 0) (by decide)
    rw [neg_zero, sub_zero] at hthis
    simp only [getSavingsSummary, hthis, inRange_month]
    exact reports _
  · simp only [getSavingsSummary, List.map_map]
    rfl
  · intro i m hm
    simp only [getSavingsSummary, List.getElem?_map, Option.map_eq_some_iff] at hm
    obtain ⟨w, hw, rfl⟩ := hm
    have hi : i < 12 := by
      have hlt := (List.getElem?_eq_some_iff.mp hw).1
      rwa [(windows_tile now).length_eq] at hlt
    have hk : 1200 ≤ monthOf (day now) - i := by omega
    rw [windows_get hw]
    simp only [monthSaving, inRange_month]
    refine ⟨⟨_, getMonthlyDetail_label redemptions userId hk, rfl, rfl, reports _⟩, fun limit offset => ?_⟩
    rw [getSavingsRedemptions, redemptionsWhere_label userId hk, Option.map_some]
    exact ⟨_, rfl, rfl⟩

end Redeemo.Savings
