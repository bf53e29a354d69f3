import Redeemo.Insights.Figures
import Redeemo.Insights.Unordered

/-! What a caller learns from the insights: nothing about redemptions outside the caller's branches.

    Each path reads the database through the eligible rows of its scope (`seen`, `seenRows`), and these come from the
    records in the caller's branches (`seen_eq`, `seenRows_eq`). A branch that is not the caller's has none. -/

namespace Redeemo.Insights
open Bags Dates

variable {env : Env} {db db' : Database} {ctx : MerchantContext} {filters : InsightsFilters}

/-! ### The caller's records -/

/-- A branch of the caller's merchant, and one the caller may see. -/
def InScope (ctx : MerchantContext) (branchId : String) (b : Branch) : Prop :=
  b.merchantId = ctx.merchantId ∧ (ctx.allBranches = true ∨ branchId ∈ ctx.allowedBranchIds)

instance (ctx : MerchantContext) (branchId : String) (b : Branch) : Decidable (InScope ctx branchId b) :=
  inferInstanceAs (Decidable
    (b.merchantId = ctx.merchantId ∧ (ctx.allBranches = true ∨ branchId ∈ ctx.allowedBranchIds)))

/-- A redemption with its branch, merchant, user and voucher. -/
structure Record where
  r : Redemption
  b : Branch
  m : Option Merchant
  u : Option User
  v : Option Voucher
  deriving DecidableEq

def Database.recordIn (db : Database) (ctx : MerchantContext) (r : Redemption) : Option Record :=
  (db.branch r.branchId).bind fun b =>
    if InScope ctx r.branchId b then
      some ⟨r, b, db.merchant b.merchantId, db.user r.userId, db.voucher r.voucherId⟩
    else none

/-- The records at the caller's branches. -/
def view (ctx : MerchantContext) (db : Database) : Multiset Record := db.redemptions.filterMap (db.recordIn ctx)

def Record.row (x : Record) : Option Row := do
  let m ← x.m
  let u ← x.u
  return ⟨x.r, x.b, m, u⟩

def Record.voucherRow (x : Record) : Option VoucherRow := x.row.bind fun row => x.v.map (VoucherRow.mk row)

/-! ### The scope -/

theorem scope_iff {branchId : String} : buildBranchScopeSql (insightsScope ctx) branchId ↔
    ctx.allBranches = true ∨ branchId ∈ ctx.allowedBranchIds := by
  rw [buildBranchScopeSql, insightsScope]
  by_cases h : ctx.allBranches = true <;> simp [h]

/-- A client narrows the scope, and never widens it. -/
theorem scope_of_effective {asked : Option String} {branchId : String}
    (h : buildBranchScopeSql (effectiveScope ctx asked) branchId) :
    buildBranchScopeSql (insightsScope ctx) branchId := by
  cases asked with
  | none => exact h
  | some id =>
    rw [effectiveScope] at h
    split_ifs at h with hid
    · exact h
    · cases hs : insightsScope ctx with
      | none => exact nofun
      | some ids =>
        rw [hs] at h
        dsimp only at h
        by_cases hmem : id ∈ ids
        · rw [if_pos hmem] at h
          rintro _ ⟨⟩
          rwa [List.mem_singleton.mp (h _ rfl)]
        · rw [if_neg hmem] at h
          exact absurd (h _ rfl) List.not_mem_nil

theorem inScope_of_where {asked includeTest : Option String} {row : Row}
    (h : EligibilityWhere ctx.merchantId (effectiveScope ctx asked) includeTest row) :
    InScope ctx row.r.branchId row.b := ⟨h.tenant, scope_iff.mp (scope_of_effective h.scope)⟩

/-! ### What the paths read -/

/-- The eligible rows of a caller who asks for a branch, or for none. -/
def seen (env : Env) (db : Database) (ctx : MerchantContext) (asked : Option String) : Multiset VoucherRow :=
  db.voucherRows.filter fun row =>
    EligibilityWhere ctx.merchantId (effectiveScope ctx asked) (demoIncludeMerchantId env ctx.merchantId) row.toRow

def seenRows (env : Env) (db : Database) (ctx : MerchantContext) : Multiset Row :=
  db.rows.filter fun row =>
    EligibilityWhere ctx.merchantId (insightsScope ctx) (demoIncludeMerchantId env ctx.merchantId) row

theorem eligibleFrom_eq (asked : Option String) (startUtc : Option ℤ) (endUtc : ℤ) (type : Option MerchantVoucherType) :
    eligibleFrom db ctx.merchantId (effectiveScope ctx asked) startUtc endUtc type
      (demoIncludeMerchantId env ctx.merchantId) = (seen env db ctx asked).filter fun row =>
        windowSql startUtc endUtc row.r.redeemedAt ∧ voucherTypeSql type row.v.type := by
  rw [eligibleFrom, seen, Multiset.filter_filter]
  exact Multiset.filter_congr fun _ _ => and_comm

theorem eligibleEver_eq (asked : Option String) (type : Option MerchantVoucherType) :
    eligibleEver db ctx.merchantId (effectiveScope ctx asked) type (demoIncludeMerchantId env ctx.merchantId) =
      (seen env db ctx asked).filter fun row => voucherTypeSql type row.v.type := by
  rw [eligibleEver, seen, Multiset.filter_filter]
  exact Multiset.filter_congr fun _ _ => and_comm

theorem eligibleVoucherFrom_eq (voucherId : String) :
    eligibleVoucherFrom db ctx.merchantId (insightsScope ctx) voucherId (demoIncludeMerchantId env ctx.merchantId) =
      (seenRows env db ctx).filter fun row => row.r.voucherId = voucherId := by
  rw [eligibleVoucherFrom, seenRows, Multiset.filter_filter]
  exact Multiset.filter_congr fun _ _ => and_comm

section
variable (h : seen env db ctx filters.branchId = seen env db' ctx filters.branchId)
include h

theorem windowRows_congr (startUtc : Option ℤ) (endUtc : ℤ) :
    windowRows env db ctx filters startUtc endUtc = windowRows env db' ctx filters startUtc endUtc := by
  rw [windowRows, windowRows, eligibleFrom_eq, eligibleFrom_eq, h]

theorem distinctCohortCount_congr (startUtc : Option ℤ) (endUtc : ℤ) :
    distinctCohortCount env db ctx filters startUtc endUtc =
      distinctCohortCount env db' ctx filters startUtc endUtc := by
  rw [distinctCohortCount, distinctCohortCount, windowRows_congr h]

theorem returningCohortCount_congr (startUtc : Option ℤ) (endUtc : ℤ) :
    returningCohortCount env db ctx filters startUtc endUtc =
      returningCohortCount env db' ctx filters startUtc endUtc := by
  cases startUtc with
  | none => rfl
  | some start =>
    simp only [returningCohortCount]
    rw [windowRows_congr h, eligibleFrom_eq, eligibleFrom_eq, h]

end

/-- All the paths with filters but the busy times answer the same. -/
structure SameFigures (env : Env) (db db' : Database) (ctx : MerchantContext) (filters : InsightsFilters) (cap : ℕ) :
    Prop where
  overview : getOverview env db ctx filters = getOverview env db' ctx filters
  trend : getTrend env db ctx filters = getTrend env db' ctx filters
  vouchers : getVouchers env db ctx filters = getVouchers env db' ctx filters
  branches : getBranches env db ctx filters = getBranches env db' ctx filters
  validation : getValidation env db ctx filters = getValidation env db' ctx filters
  newVsReturning : getNewVsReturning env db ctx filters = getNewVsReturning env db' ctx filters
  repeatRate : getRepeatRate env db ctx filters = getRepeatRate env db' ctx filters
  insightsExport : getInsightsExport env db ctx filters cap = getInsightsExport env db' ctx filters cap

theorem sameFigures_of_seen (h : seen env db ctx filters.branchId = seen env db' ctx filters.branchId) (cap : ℕ) :
    SameFigures env db db' ctx filters cap where
  overview := by
    simp only [getOverview, windowRows_congr h, eligibleEver_eq, h]
  trend := by
    simp only [getTrend, windowRows_congr h]
  vouchers := by
    have htypes (rows : Multiset VoucherRow) : byType (countedGroups db (fun row => row.v.type) rows) =
        byType (countedGroups db' (fun row => row.v.type) rows) := byType_perm (perm_countedGroups _ _)
    simp only [getVouchers, windowRows_congr h, htypes]
  branches := by
    simp only [getBranches, windowRows_congr h]
  validation := by
    simp only [getValidation, windowRows_congr h]
  newVsReturning := by
    simp only [getNewVsReturning, distinctCohortCount_congr h, returningCohortCount_congr h]
  repeatRate := by
    simp only [getRepeatRate, distinctCohortCount_congr h, returningCohortCount_congr h]
  insightsExport := by
    simp only [getInsightsExport, windowRows_congr h]

/-- Busy times of two databases: the same, or two busiest cells that are equally busy. -/
def SameBusyTimes (env : Env) (db db' : Database) (ctx : MerchantContext) (filters : InsightsFilters) : Prop :=
  (∃ e, getBusyTimes env db ctx filters = .error e ∧ getBusyTimes env db' ctx filters = .error e) ∨
    ∃ w b b', periodWindow filters.period filters.now filters.custom = .ok w ∧
      getBusyTimes env db ctx filters = .ok b ∧ getBusyTimes env db' ctx filters = .ok b' ∧
      BusyAlike (redemptionsOf (windowRows env db ctx filters w.startUtc w.endUtc)) b b'

theorem sameBusyTimes_of_seen (h : seen env db ctx filters.branchId = seen env db' ctx filters.branchId) :
    SameBusyTimes env db db' ctx filters := by
  cases hw : periodWindow filters.period filters.now filters.custom with
  | error e =>
    refine .inl ⟨e, ?_, ?_⟩
    · rw [getBusyTimes, hw]
      rfl
    · rw [getBusyTimes, hw]
      rfl
  | ok w =>
    refine .inr ⟨w, _, _, hw, ?_, ?_, busyAlike db db' (busyPeakMinCount env) _⟩
    · rw [getBusyTimes, hw]
      rfl
    · rw [getBusyTimes, hw, windowRows_congr h]
      rfl

/-- Where the groups come in the same order, so do the busy times. -/
theorem busyTimes_congr (h : seen env db ctx filters.branchId = seen env db' ctx filters.branchId)
    (horder : db.order = db'.order) : getBusyTimes env db ctx filters = getBusyTimes env db' ctx filters := by
  simp only [getBusyTimes, windowRows_congr h, countedGroups, horder]

/-- The voucher and the merchant are read themselves. -/
structure SameVoucher (db db' : Database) (ctx : MerchantContext) (voucherId : String) : Prop where
  voucher : db.voucher voucherId = db'.voucher voucherId
  status : (db.merchant ctx.merchantId).map Merchant.status = (db'.merchant ctx.merchantId).map Merchant.status

theorem voucherAnalytics_congr (h : seenRows env db ctx = seenRows env db' ctx) {voucherId : String}
    (hv : SameVoucher db db' ctx voucherId) (now : ℤ) :
    getVoucherAnalytics env db ctx voucherId now = getVoucherAnalytics env db' ctx voucherId now := by
  have hwhen (s : Multiset Redemption) :
      whenUsed (busyPeakMinCount env) (countedGroups db dowKey s) (countedGroups db daypartKey s) =
        whenUsed (busyPeakMinCount env) (countedGroups db' dowKey s) (countedGroups db' daypartKey s) := by
    rw [whenUsed, whenUsed, fillSlots_countedGroups dowKey, fillSlots_countedGroups daypartKey]
  simp only [getVoucherAnalytics, eligibleVoucherFrom_eq, h, assertMerchantActive, findVoucher, hv.voucher, hv.status,
    hwhen]

/-! ### Isolation -/

/-- The rows of the caller's records are the caller's rows. -/
theorem row_recordIn (r : Redemption) : (db.recordIn ctx r).bind Record.row =
    (db.row r).filter fun row => InScope ctx row.r.branchId row.b := by
  rw [Database.recordIn, Database.row]
  cases db.branch r.branchId with
  | none => rfl
  | some b =>
    by_cases hscope : InScope ctx r.branchId b
    · cases hm : db.merchant b.merchantId with
      | none => simp [hscope, hm, Record.row]
      | some m => cases hu : db.user r.userId <;> simp [hscope, hm, Record.row, Option.filter_some]
    · cases hm : db.merchant b.merchantId with
      | none => simp [hscope, hm]
      | some m => cases hu : db.user r.userId <;> simp [hscope, hm, Option.filter_some]

theorem recordIn_spec {r : Redemption} {x : Record} (h : db.recordIn ctx r = some x) :
    x.r = r ∧ x.v = db.voucher r.voucherId := by
  obtain ⟨b, -, hx⟩ := Option.bind_eq_some_iff.mp h
  split_ifs at hx
  cases hx
  exact ⟨rfl, rfl⟩

theorem Record.row_r {x : Record} {row : Row} (h : x.row = some row) : row.r = x.r := by
  obtain ⟨m, -, h⟩ := Option.bind_eq_some_iff.mp h
  obtain ⟨u, -, h⟩ := Option.bind_eq_some_iff.mp h
  cases h
  rfl

theorem voucherRow_recordIn (r : Redemption) : (db.recordIn ctx r).bind Record.voucherRow =
    ((db.recordIn ctx r).bind Record.row).bind fun row => (db.voucher row.r.voucherId).map (VoucherRow.mk row) := by
  cases hrec : db.recordIn ctx r with
  | none => rfl
  | some x =>
    obtain ⟨hr, hv⟩ := recordIn_spec hrec
    rw [Option.bind_some, Option.bind_some, Record.voucherRow]
    cases hrow : x.row with
    | none => rfl
    | some row =>
      rw [Option.bind_some, Option.bind_some, Record.row_r hrow, hr, hv]

theorem rows_inScope : (db.rows.filter fun row => InScope ctx row.r.branchId row.b) =
    (view ctx db).filterMap Record.row := by
  rw [Database.rows, view, Multiset.filter_filterMap, Multiset.filterMap_filterMap]
  congr 1
  funext r
  exact (row_recordIn r).symm

theorem voucherRows_inScope : (db.voucherRows.filter fun row => InScope ctx row.r.branchId row.b) =
    (view ctx db).filterMap Record.voucherRow := by
  have hview : (view ctx db).filterMap Record.voucherRow = ((view ctx db).filterMap Record.row).filterMap
      fun row => (db.voucher row.r.voucherId).map (VoucherRow.mk row) := by
    rw [view, Multiset.filterMap_filterMap, Multiset.filterMap_filterMap, Multiset.filterMap_filterMap]
    congr 1
    funext r
    exact (voucherRow_recordIn r).trans (Option.bind_assoc _ _ _)
  rw [hview, ← rows_inScope, Multiset.filterMap_filter, Database.voucherRows, Multiset.filter_filterMap]
  congr 1
  funext row
  cases db.voucher row.r.voucherId with
  | none => simp
  | some v => simp only [Option.map_some, Option.filter_some, decide_eq_true_eq]

theorem seen_eq (asked : Option String) : seen env db ctx asked =
    ((view ctx db).filterMap Record.voucherRow).filter fun row => EligibilityWhere ctx.merchantId
      (effectiveScope ctx asked) (demoIncludeMerchantId env ctx.merchantId) row.toRow := by
  rw [seen, ← voucherRows_inScope, Multiset.filter_filter]
  exact Multiset.filter_congr fun _ _ => ⟨fun h => ⟨h, inScope_of_where h⟩, fun h => h.1⟩

theorem seenRows_eq : seenRows env db ctx = ((view ctx db).filterMap Record.row).filter fun row =>
    EligibilityWhere ctx.merchantId (insightsScope ctx) (demoIncludeMerchantId env ctx.merchantId) row := by
  rw [seenRows, ← rows_inScope, Multiset.filter_filter]
  have hscope {row : Row} (h : EligibilityWhere ctx.merchantId (insightsScope ctx)
      (demoIncludeMerchantId env ctx.merchantId) row) : InScope ctx row.r.branchId row.b :=
    ⟨h.tenant, scope_iff.mp h.scope⟩
  exact Multiset.filter_congr fun _ _ => ⟨fun h => ⟨h, hscope h⟩, fun h => h.1⟩

/-! ### A branch that is not the caller's -/

def Database.empty (order : Order) : Database := ⟨0, fun _ => none, fun _ => none, fun _ => none, fun _ => none, order⟩

/-- No branch of the caller's has the id. -/
def OutOfScope (ctx : MerchantContext) (db : Database) (branchId : String) : Prop :=
  ∀ b ∈ db.branch branchId, ¬ InScope ctx branchId b

theorem row_spec {r : Redemption} {row : Row} (h : db.row r = some row) :
    row.r = r ∧ db.branch r.branchId = some row.b ∧ db.merchant row.b.merchantId = some row.m := by
  obtain ⟨b, hb, h⟩ := Option.bind_eq_some_iff.mp h
  obtain ⟨m, hm, h⟩ := Option.bind_eq_some_iff.mp h
  obtain ⟨u, -, h⟩ := Option.bind_eq_some_iff.mp h
  cases h
  exact ⟨rfl, hb, hm⟩

theorem effectiveScope_singleton {asked id : String} (hne : asked ≠ "")
    (h : buildBranchScopeSql (effectiveScope ctx (some asked)) id) : id = asked := by
  rw [effectiveScope, if_neg hne] at h
  cases hs : insightsScope ctx with
  | none =>
    rw [hs] at h
    exact List.mem_singleton.mp (h _ rfl)
  | some ids =>
    rw [hs] at h
    dsimp only at h
    split_ifs at h
    · exact List.mem_singleton.mp (h _ rfl)
    · exact absurd (h _ rfl) List.not_mem_nil

theorem seen_outOfScope {asked : String} (hne : asked ≠ "") (h : OutOfScope ctx db asked) :
    seen env db ctx (some asked) = 0 := by
  refine Multiset.filter_eq_nil.mpr fun row hrow hwhere => ?_
  obtain ⟨base, hbase, hv⟩ := (Multiset.mem_filterMap _ _).mp hrow
  obtain ⟨v, -, rfl⟩ := Option.map_eq_some_iff.mp hv
  obtain ⟨r, -, hr⟩ := (Multiset.mem_filterMap _ _).mp hbase
  obtain ⟨rfl, hbranch, -⟩ := row_spec hr
  have hid : base.r.branchId = asked := effectiveScope_singleton hne hwhere.scope
  have hscope : InScope ctx base.r.branchId base.b := inScope_of_where hwhere
  rw [hid] at hbranch hscope
  exact h _ hbranch hscope

theorem seen_empty (order : Order) (asked : Option String) : seen env (Database.empty order) ctx asked = 0 := rfl

/-! ### Test rows -/

/-- Test data throughout, or none: the redemption, its branch and its merchant. -/
def TestDataIs (db : Database) (flag : Bool) (r : Redemption) : Prop :=
  r.isTestData = flag ∧ ∀ b ∈ db.branch r.branchId, b.isTestData = flag ∧
    ∀ m ∈ db.merchant b.merchantId, m.isTestData = flag

instance (db : Database) (flag : Bool) : DecidablePred (TestDataIs db flag) := fun r =>
  inferInstanceAs (Decidable (r.isTestData = flag ∧ ∀ b ∈ db.branch r.branchId, b.isTestData = flag ∧
    ∀ m ∈ db.merchant b.merchantId, m.isTestData = flag))

/-- Without the redemptions of the other kind. -/
def Database.only (db : Database) (flag : Bool) : Database :=
  { db with redemptions := db.redemptions.filter (TestDataIs db flag) }

theorem testDataIs_of_where {merchantId : String} {scope : InsightsBranchScope} {includeTest : Option String}
    {r : Redemption} {row : Row} (hr : db.row r = some row) (h : EligibilityWhere merchantId scope includeTest row) :
    TestDataIs db (testDataValue merchantId includeTest) r := by
  obtain ⟨rfl, hb, hm⟩ := row_spec hr
  refine ⟨h.redemption, fun b hb' => ?_⟩
  cases hb.symm.trans hb'
  refine ⟨h.branch, fun m hm' => ?_⟩
  cases hm.symm.trans hm'
  exact h.merchant

/-- Which kind a merchant's insights count. -/
def countedKind (env : Env) (ctx : MerchantContext) : Bool :=
  testDataValue ctx.merchantId (demoIncludeMerchantId env ctx.merchantId)

theorem seenRows_only : seenRows env (db.only (countedKind env ctx)) ctx = seenRows env db ctx :=
  filter_filterMap_of_imp (fun _ _ hr h => testDataIs_of_where hr h) _

theorem seen_only (asked : Option String) :
    seen env (db.only (countedKind env ctx)) ctx asked = seen env db ctx asked := by
  have himp (r : Redemption) (row : VoucherRow) (hrow : row ∈ (db.row r).bind fun row =>
      (db.voucher row.r.voucherId).map (VoucherRow.mk row)) (h : EligibilityWhere ctx.merchantId
        (effectiveScope ctx asked) (demoIncludeMerchantId env ctx.merchantId) row.toRow) :
      TestDataIs db (countedKind env ctx) r := by
    obtain ⟨base, hbase, hv⟩ := Option.bind_eq_some_iff.mp hrow
    obtain ⟨v, -, rfl⟩ := Option.map_eq_some_iff.mp hv
    exact testDataIs_of_where hbase h
  rw [seen, seen, Database.voucherRows, Database.voucherRows, Database.rows, Database.rows,
    Multiset.filterMap_filterMap, Multiset.filterMap_filterMap]
  exact filter_filterMap_of_imp himp _

/-! ### The law -/

theorem busyTimes_empty (h : seen env db ctx filters.branchId = 0) (order : Order) :
    getBusyTimes env db ctx filters = getBusyTimes env (Database.empty order) ctx filters := by
  have hnone (db : Database) : countedGroups db cellKey 0 = [] := by
    have hlist : db.order.list (keys cellKey 0) = [] := by
      rw [← Multiset.coe_eq_zero, db.order.coe_list]
      rfl
    rw [countedGroups, hlist, List.map_nil]
  have hrows (db : Database) (hdb : seen env db ctx filters.branchId = 0) (startUtc : Option ℤ) (endUtc : ℤ) :
      redemptionsOf (windowRows env db ctx filters startUtc endUtc) = 0 := by
    rw [windowRows, eligibleFrom_eq, hdb]
    rfl
  simp only [getBusyTimes, hrows db h, hrows (Database.empty order) (seen_empty order _), hnone]

/-- The three laws: what is not in the caller's branches is not seen, a branch that is not the caller's shows nothing,
    and test rows are never counted with others. -/
theorem insights_isolated (env : Env) (ctx : MerchantContext) (filters : InsightsFilters) (cap : ℕ) (voucherId : String)
    (now : ℤ) (db db' : Database) :
    (view ctx db = view ctx db' → SameFigures env db db' ctx filters cap ∧ SameBusyTimes env db db' ctx filters ∧
      (SameVoucher db db' ctx voucherId →
        getVoucherAnalytics env db ctx voucherId now = getVoucherAnalytics env db' ctx voucherId now)) ∧
    (∀ asked, filters.branchId = some asked → asked ≠ "" → OutOfScope ctx db asked → ∀ order,
      SameFigures env db (Database.empty order) ctx filters cap ∧
        getBusyTimes env db ctx filters = getBusyTimes env (Database.empty order) ctx filters) ∧
    ∃ flag, SameFigures env db (db.only flag) ctx filters cap ∧
      getBusyTimes env db ctx filters = getBusyTimes env (db.only flag) ctx filters ∧
      getVoucherAnalytics env db ctx voucherId now = getVoucherAnalytics env (db.only flag) ctx voucherId now := by
  refine ⟨fun h => ?_, fun asked hasked hne hout order => ?_, countedKind env ctx, ?_, ?_, ?_⟩
  · have hseen : seen env db ctx filters.branchId = seen env db' ctx filters.branchId := by rw [seen_eq, seen_eq, h]
    have hrows : seenRows env db ctx = seenRows env db' ctx := by rw [seenRows_eq, seenRows_eq, h]
    exact ⟨sameFigures_of_seen hseen cap, sameBusyTimes_of_seen hseen, fun hv => voucherAnalytics_congr hrows hv now⟩
  · have hseen : seen env db ctx filters.branchId = 0 := hasked ▸ seen_outOfScope hne hout
    exact ⟨sameFigures_of_seen (hseen.trans (seen_empty order _).symm) cap, busyTimes_empty hseen order⟩
  · exact sameFigures_of_seen (seen_only _).symm cap
  · exact busyTimes_congr (seen_only _).symm rfl
  · exact voucherAnalytics_congr seenRows_only.symm ⟨rfl, rfl⟩ now

/-! ### What is seen -/

def manager : MerchantContext := ⟨"merchant", .BRANCH_MANAGER, false, ["branch"]⟩

def allTime (branchId : Option String) : InsightsFilters := ⟨.all, none, branchId, none, tenthOfJuly⟩

/-- A second redemption, at a branch that is not the manager's. -/
def withSibling : Database :=
  { oneRedemption with redemptions := {lunchtime, { lunchtime with id := "r2", branchId := "sibling" }} }

theorem insights_isolated_sibling : SameFigures openGate oneRedemption withSibling manager (allTime none) 50 ∧
    SameBusyTimes openGate oneRedemption withSibling manager (allTime none) ∧
    SameFigures openGate withSibling (Database.empty Order.ascending) manager (allTime (some "sibling")) 50 := by
  have hview : view manager oneRedemption = view manager withSibling := rfl
  have hout : OutOfScope manager withSibling "sibling" := by
    rintro b ⟨⟩
    decide
  obtain ⟨hsame, -⟩ := insights_isolated openGate manager (allTime none) 50 "voucher" 0 oneRedemption withSibling
  obtain ⟨-, hnone, -⟩ :=
    insights_isolated openGate manager (allTime (some "sibling")) 50 "voucher" 0 withSibling oneRedemption
  exact ⟨(hsame hview).1, (hsame hview).2.1, (hnone "sibling" rfl (by decide) hout Order.ascending).1⟩

def namePeaks : Env := ⟨none, none, none, none, some "1", none⟩

/-- The next day. -/
def dayAfter : Redemption := { lunchtime with id := "r2", redeemedAt := dateUTC 2026 5 16 + 43200000 }

/-- Two days that are equally busy. -/
def tied (order : Order) : Database := { oneRedemption with redemptions := {lunchtime, dayAfter}, order := order }

/-- Lunch on a Monday and on a Tuesday. -/
def monday : ℤ ×ₗ ℤ := toLex (0, 2)

def tuesday : ℤ ×ₗ ℤ := toLex (1, 2)

theorem getBusyTimes_tied (order : Order) : getBusyTimes namePeaks (tied order) owner (allTime none) =
    .ok (busyTimes (some 1) ((order.list {monday, tuesday}).map fun cell =>
      (cell, cellCount {lunchtime, dayAfter} (ofLex cell)))) := rfl

/-- No redemptions, and a voucher approved at some time. -/
def unused (approvedAt : ℤ) : Database :=
  { oneRedemption with
    redemptions := 0
    voucher := fun _ => some ⟨"merchant", .BOGO, "Two for one", some approvedAt, none⟩ }

theorem insights_not_isolated :
    (OutOfScope manager oneRedemption "" ∧ getOverview openGate oneRedemption manager (allTime (some "")) ≠
      getOverview openGate (Database.empty Order.ascending) manager (allTime (some ""))) ∧
    (view owner (tied Order.ascending) = view owner (tied Order.descending) ∧
      getBusyTimes namePeaks (tied Order.ascending) owner (allTime none) ≠
        getBusyTimes namePeaks (tied Order.descending) owner (allTime none)) ∧
    view owner (unused 0) = view owner (unused 1) ∧ getVoucherAnalytics openGate (unused 0) owner "voucher" 2 ≠
      getVoucherAnalytics openGate (unused 1) owner "voucher" 2 := by
  refine ⟨⟨?_, fun h => ?_⟩, ⟨rfl, fun h => ?_⟩, rfl, fun h => ?_⟩
  · rintro b ⟨⟩
    decide
  · have hlogged := congrArg (fun x => x.toOption.map fun o => o.redemptionActivity.logged) h
    exact absurd hlogged (by decide)
  · have hasc : Order.ascending.list {monday, tuesday} = [monday, tuesday] := sort_pair _ (by decide)
    have hdesc : Order.descending.list {monday, tuesday} = [tuesday, monday] := by
      rw [Multiset.pair_comm]
      exact sort_pair _ (by decide)
    rw [getBusyTimes_tied, getBusyTimes_tied, hasc, hdesc] at h
    have hbusiest := congrArg (fun x => x.toOption.map BusyTimesResult.busiest) h
    exact absurd hbusiest (by decide)
  · have hlive := congrArg (fun x => x.toOption.map fun a => a.lifecycle.liveSince) h
    exact absurd hlive (by decide)

end Redeemo.Insights
