import Redeemo.Insights.Routes

/-! The figures reconcile: paths that count the same rows in groups of their own come to the same sums. -/

namespace Redeemo.Insights
open Bags Calendar Dates Fallible London

variable {env : Env} {db : Database} {ctx : MerchantContext} {filters : InsightsFilters}

/-! ### Trend -/

theorem londonMonth_eq (t : ℤ) : monthOf (day (londonWall t)) = londonMonth t := rfl

/-- The month that a label shows. -/
def labelMonth (label : MonthLabel) : ℤ := 12 * label.year + (label.month - 1)

theorem labelMonth_bucket (t : ℤ) : labelMonth (monthLabel (monthBucket t)) = londonMonth t := by
  have hm := year_month (monthBucket t)
  rw [monthBucket, day_mul, londonMonth_eq, monthOf_monthStart] at hm
  rw [labelMonth, monthLabel, monthBucket, londonMonth_eq]
  dsimp only
  rw [add_sub_cancel_right, hm]

/-- Buckets with the same label are the same. -/
theorem monthBucket_eq_of_label {t u : ℤ} (h : monthLabel (monthBucket t) = monthLabel (monthBucket u)) :
    monthBucket t = monthBucket u := by
  have hmonth := congrArg labelMonth h
  rw [labelMonth_bucket, labelMonth_bucket] at hmonth
  rw [monthBucket, monthBucket, londonMonth_eq, londonMonth_eq, hmonth]

def monthKey (r : Redemption) : ℤ := monthBucket r.redeemedAt

theorem trendMonths_eq (s : Multiset Redemption) : trendMonths s = (ascending monthKey s).map fun bucket =>
    ⟨monthLabel bucket, Multiset.card (members monthKey s bucket),
      (members monthKey s bucket).countP fun r => r.isValidated = true⟩ := rfl

theorem trendMonths_logged (s : Multiset Redemption) :
    ((trendMonths s).map TrendMonth.logged).sum = Multiset.card s := by
  rw [trendMonths_eq, List.map_map]
  exact sum_card_of_coe (coe_ascending monthKey s)

theorem trendMonths_confirmed (s : Multiset Redemption) :
    ((trendMonths s).map TrendMonth.confirmed).sum = s.countP fun r => r.isValidated = true := by
  rw [trendMonths_eq, List.map_map]
  exact sum_countP_of_coe (coe_ascending monthKey s) _

/-- The label under which a redemption is counted. -/
def labelOf (r : Redemption) : MonthLabel := monthLabel (monthKey r)

theorem mem_trendMonths {s : Multiset Redemption} {m : TrendMonth} (h : m ∈ trendMonths s) :
    ∃ r ∈ s, labelOf r = m.monthStartLondon ∧
      m.logged = Multiset.card (s.filter fun r => labelOf r = m.monthStartLondon) := by
  rw [trendMonths_eq] at h
  obtain ⟨bucket, hbucket, rfl⟩ := List.mem_map.mp h
  obtain ⟨r, hr, rfl⟩ := (mem_of_coe (coe_ascending monthKey s)).mp hbucket
  refine ⟨r, hr, rfl, ?_⟩
  dsimp only
  congr 1
  refine Multiset.filter_congr fun r' _ => ?_
  constructor
  · intro heq
    rw [labelOf, heq]
  · exact monthBucket_eq_of_label

theorem trendMonths_nodup (s : Multiset Redemption) : ((trendMonths s).map TrendMonth.monthStartLondon).Nodup := by
  rw [trendMonths_eq, List.map_map]
  refine List.Nodup.map_on ?_ (nodup_of_coe (coe_ascending monthKey s))
  intro a ha b hb hab
  obtain ⟨r, -, rfl⟩ := (mem_of_coe (coe_ascending monthKey s)).mp ha
  obtain ⟨r', -, rfl⟩ := (mem_of_coe (coe_ascending monthKey s)).mp hb
  exact monthBucket_eq_of_label hab

/-- Of the months of a trend, one has the redemption. -/
theorem existsUnique_month {s : Multiset Redemption} {r : Redemption} (h : r ∈ s) :
    ∃! m, m ∈ trendMonths s ∧ m.monthStartLondon = labelOf r := by
  have hbucket : monthKey r ∈ ascending monthKey s := (mem_of_coe (coe_ascending monthKey s)).mpr ⟨r, h, rfl⟩
  have hmem := List.mem_map_of_mem (f := fun bucket => (⟨monthLabel bucket, Multiset.card (members monthKey s bucket),
    (members monthKey s bucket).countP fun r => r.isValidated = true⟩ : TrendMonth)) hbucket
  refine ⟨_, ⟨hmem, rfl⟩, ?_⟩
  rintro m ⟨hm, hlabel⟩
  exact List.inj_on_of_nodup_map (trendMonths_nodup s) hm hmem hlabel

/-! ### Vouchers, branches, customers -/

theorem sum_foldl_addCount (typeRows : List (VoucherType × ℕ)) (map : InsertionMap MerchantVoucherType ℕ) :
    ((typeRows.foldl addCount map).entries.map Prod.snd).sum =
      (map.entries.map Prod.snd).sum + (typeRows.map Prod.snd).sum :=
  InsertionMap.sum_foldl_tally (fun row : VoucherType × ℕ => dbTypeToType7 row.1) (fun _ => 0) (fun n row => n + row.2)
    (f := id) (w := Prod.snd) (fun _ => rfl) (fun _ _ => rfl) typeRows map

theorem byType_logged (typeRows : List (VoucherType × ℕ)) :
    ((byType typeRows).map TypeShare.logged).sum = (typeRows.map Prod.snd).sum := by
  have hperm := (List.perm_insertionSort byTypeOrder ((typeRows.foldl addCount .empty).entries.map fun e =>
    ⟨e.1, e.2, sharePct e.2 (typeRows.map Prod.snd).sum⟩)).map TypeShare.logged
  have hsum := sum_foldl_addCount typeRows .empty
  rw [byType, hperm.sum_eq, List.map_map]
  exact hsum.trans (zero_add _)

theorem sum_countedGroups {α κ : Type} [LinearOrder κ] (key : α → κ) (s : Multiset α) :
    ((countedGroups db key s).map Prod.snd).sum = Multiset.card s := by
  rw [countedGroups, List.map_map]
  exact sum_card_of_coe (db.order.coe_list _)

theorem branchRows_logged (rows : Multiset Row) :
    ((branchRows rows).map BranchRow.logged).sum = Multiset.card rows := by
  rw [branchRows, List.map_map, ← sum_card_of_coe (coe_ranking branchKey rows)]
  congr 1
  refine List.map_congr_left fun k _ => ?_
  exact Multiset.card_map _ _

theorem countP_map_r (rows : Multiset Row) : ((rows.map Row.r).countP fun r => r.isValidated = true) =
    rows.countP fun row => row.r.isValidated = true := by
  rw [Multiset.countP_map, Multiset.countP_eq_card_filter]

theorem branchRows_confirmed (rows : Multiset Row) :
    ((branchRows rows).map BranchRow.confirmed).sum = (rows.map Row.r).countP fun r => r.isValidated = true := by
  rw [branchRows, List.map_map, countP_map_r, ← sum_countP_of_coe (coe_ranking branchKey rows)]
  congr 1
  refine List.map_congr_left fun k _ => ?_
  exact countP_map_r _

theorem redemptionsOf_eq (rows : Multiset VoucherRow) : redemptionsOf rows = (rows.map VoucherRow.toRow).map Row.r := by
  rw [redemptionsOf, Multiset.map_map]
  rfl

theorem returningCohortCount_le (startUtc : Option ℤ) (endUtc : ℤ) :
    returningCohortCount env db ctx filters startUtc endUtc ≤
      distinctCohortCount env db ctx filters startUtc endUtc := by
  cases startUtc with
  | none => exact Nat.zero_le _
  | some start => exact Multiset.card_le_card (Multiset.filter_le _ _)

/-! ### The figures of a period -/

/-- The redemptions of the period, which each path counts. -/
def periodRedemptions (env : Env) (db : Database) (ctx : MerchantContext) (filters : InsightsFilters)
    (w : PeriodWindow) : Multiset Redemption := redemptionsOf (windowRows env db ctx filters w.startUtc w.endUtc)

theorem mem_period {w : PeriodWindow} {r : Redemption} (h : r ∈ periodRedemptions env db ctx filters w) :
    windowSql w.startUtc w.endUtc r.redeemedAt := by
  obtain ⟨row, hrow, rfl⟩ := Multiset.mem_map.mp h
  exact (Multiset.mem_filter.mp hrow).2.2.1

/-- Months, types and branches add up to the totals of the overview, and so does what is validated. -/
structure Reconciled (s : Multiset Redemption) (w : PeriodWindow) (overview : OverviewResult) (trend : List TrendMonth)
    (vouchers : VouchersResult) (branches : List BranchRow) (validation : ValidationResult) : Prop where
  logged : overview.redemptionActivity.logged = Multiset.card s
  logged_trend : overview.redemptionActivity.logged = (trend.map TrendMonth.logged).sum
  logged_types : overview.redemptionActivity.logged = (vouchers.byType.map TypeShare.logged).sum
  logged_branches : overview.redemptionActivity.logged = (branches.map BranchRow.logged).sum
  logged_validation : overview.redemptionActivity.logged = validation.logged
  confirmed_trend : overview.redemptionActivity.confirmed = (trend.map TrendMonth.confirmed).sum
  confirmed_branches : overview.redemptionActivity.confirmed = (branches.map BranchRow.confirmed).sum
  confirmed_validation : overview.redemptionActivity.confirmed = validation.confirmed
  awaiting : 0 ≤ overview.redemptionActivity.awaiting ∧
    overview.redemptionActivity.confirmed + overview.redemptionActivity.awaiting = overview.redemptionActivity.logged
  awaiting_validation : 0 ≤ validation.awaiting ∧ validation.confirmed + validation.awaiting = validation.logged
  /-- One month has the redemption, and a month counts those it has. -/
  month : ∀ r ∈ s, ∃! m, m ∈ trend ∧ m.monthStartLondon = labelOf r
  counted : ∀ m ∈ trend, m.logged = Multiset.card (s.filter fun r => labelOf r = m.monthStartLondon)
  inside : ∀ m ∈ trend, Inside w (labelMonth m.monthStartLondon)

theorem awaiting_of_totals (s : Multiset Redemption) : 0 ≤ ((totals s).logged - (totals s).confirmed : ℤ) ∧
    ((totals s).confirmed : ℤ) + ((totals s).logged - (totals s).confirmed) = (totals s).logged := by
  have hle : (totals s).confirmed ≤ (totals s).logged := Multiset.countP_le_card _ _
  omega

theorem reconciled_of_window (env : Env) (db : Database) (ctx : MerchantContext) (filters : InsightsFilters)
    (h0 : 0 ≤ filters.now) {w : PeriodWindow} {c : Option (ℤ × ℤ)}
    (hw : periodWindow filters.period filters.now filters.custom = .ok w)
    (hc : resolveComparisonWindow filters.period filters.now filters.custom = .ok c) :
    ∃ overview trend vouchers branches validation, getOverview env db ctx filters = .ok overview ∧
      getTrend env db ctx filters = .ok trend ∧ getVouchers env db ctx filters = .ok vouchers ∧
      getBranches env db ctx filters = .ok branches ∧ getValidation env db ctx filters = .ok validation ∧
      Reconciled (periodRedemptions env db ctx filters w) w overview trend vouchers branches validation ∧
      (behaviouralGateOpen env → ∃ n, getNewVsReturning env db ctx filters = .ok (some n) ∧
        n.newCount + n.returningCount = n.total ∧ n.total = overview.distinctCustomers.logged) := by
  simp only [getOverview, getTrend, getVouchers, getBranches, getValidation, getNewVsReturning, hw, hc, ok_bind]
  refine ⟨_, _, _, _, _, rfl, rfl, rfl, rfl, rfl, ?_, ?_⟩
  · refine
      { logged := rfl
        logged_trend := (trendMonths_logged _).symm
        logged_types := ?_
        logged_branches := ?_
        logged_validation := rfl
        confirmed_trend := (trendMonths_confirmed _).symm
        confirmed_branches := ?_
        confirmed_validation := rfl
        awaiting := awaiting_of_totals _
        awaiting_validation := awaiting_of_totals _
        month := fun r hr => existsUnique_month hr
        counted := ?_
        inside := ?_ }
    · exact ((byType_logged _).trans ((sum_countedGroups _ _).trans (Multiset.card_map _ _).symm)).symm
    · exact ((branchRows_logged _).trans ((Multiset.card_map _ _).trans (Multiset.card_map _ _).symm)).symm
    · exact ((branchRows_confirmed _).trans (congrArg _ (redemptionsOf_eq _).symm)).symm
    · intro m hm
      obtain ⟨r, -, -, hlogged⟩ := mem_trendMonths hm
      exact hlogged
    · intro m hm
      obtain ⟨r, hr, hlabel, -⟩ := mem_trendMonths hm
      obtain ⟨hstart, hend⟩ := mem_period hr
      rw [← hlabel, labelOf, monthKey, labelMonth_bucket]
      exact inside_of_mem h0 hw hstart hend
  · intro hgate
    refine ⟨_, if_neg (not_not.mpr hgate), ?_, rfl⟩
    exact Nat.sub_add_cancel (returningCohortCount_le _ _)

/-- For every caller, every query that passes the schema and every clock reading. -/
theorem figures_reconcile (env : Env) (db : Database) (ctx : MerchantContext) {q p : Query} (h : filterSchema q = .ok p)
    (now : ℕ) : ∃ w overview trend vouchers branches validation,
      periodWindow p.period now (customRange p) = .ok w ∧ getOverview env db ctx (toFilters p now) = .ok overview ∧
      getTrend env db ctx (toFilters p now) = .ok trend ∧ getVouchers env db ctx (toFilters p now) = .ok vouchers ∧
      getBranches env db ctx (toFilters p now) = .ok branches ∧
      getValidation env db ctx (toFilters p now) = .ok validation ∧
      Reconciled (periodRedemptions env db ctx (toFilters p now) w) w overview trend vouchers branches validation ∧
      (behaviouralGateOpen env → ∃ n, getNewVsReturning env db ctx (toFilters p now) = .ok (some n) ∧
        n.newCount + n.returningCount = n.total ∧ n.total = overview.distinctCustomers.logged) := by
  obtain ⟨w, hw, c, hc⟩ := periodWindow_admitted h now
  obtain ⟨overview, trend, vouchers, branches, validation, hall⟩ :=
    reconciled_of_window env db ctx (toFilters p now) (Int.natCast_nonneg now) hw hc
  exact ⟨w, overview, trend, vouchers, branches, validation, hw, hall⟩

/-! ### One redemption in June -/

def openGate : Env := ⟨none, none, none, some "1", none, none⟩

def owner : MerchantContext := ⟨"merchant", .OWNER, true, []⟩

/-- 15 June 2026, noon UTC. -/
def lunchtime : Redemption :=
  ⟨"r1", "ann", "voucher", "branch", some .PIN, true, 5, dateUTC 2026 5 15 + 43200000, false⟩

def oneRedemption : Database where
  redemptions := {lunchtime}
  branch _ := some ⟨"merchant", "High Street", false⟩
  merchant _ := some ⟨.ACTIVE, false⟩
  user _ := some ⟨.ACTIVE, "ann@example.com"⟩
  voucher _ := some ⟨"merchant", .BOGO, "Two for one", none, none⟩
  order := Order.ascending

def lastMonth : Query := ⟨.last_month, none, none, none, none⟩

/-- 10 July 2026. -/
def tenthOfJuly : ℕ := 1783641600000

def june : PeriodWindow := ⟨some 1780268400000, 1782860400000, some (1777590000000, 1780268400000), .last_month⟩

theorem periodWindow_june : periodWindow .last_month tenthOfJuly none = .ok june := by decide +kernel

theorem figures_reconcile_june : ∃ overview trend, getOverview openGate oneRedemption owner
      (toFilters lastMonth tenthOfJuly) = .ok overview ∧
    getTrend openGate oneRedemption owner (toFilters lastMonth tenthOfJuly) = .ok trend ∧
    overview.redemptionActivity.logged = 1 ∧ (trend.map TrendMonth.logged).sum = 1 := by
  have hq : filterSchema lastMonth = .ok lastMonth := rfl
  obtain ⟨w, overview, trend, _, _, _, hw, ho, ht, -, -, -, hr, -⟩ :=
    figures_reconcile openGate oneRedemption owner hq tenthOfJuly
  obtain rfl : june = w := Except.ok.inj (periodWindow_june.symm.trans hw)
  have hlogged : overview.redemptionActivity.logged = 1 := hr.logged.trans (by decide)
  exact ⟨overview, trend, ho, ht, hlogged, hr.logged_trend.symm.trans hlogged⟩

end Redeemo.Insights
