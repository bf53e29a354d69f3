import Redeemo.Lib.Paging
import Redeemo.Lib.Rows
import Redeemo.Redemption.Claims
import Redeemo.Redemption.RegisterRows
import Redeemo.Redemption.Verify
import Redeemo.Shared.CsvExports

/-! The merchant's redemption register: the list, the lookup by code and the rows of the export.

    The list and the export go by the merchant of the branch, the lookup by the merchant of the voucher. What
    `createRedemption` stores has one merchant for both, and nothing that happens to a redemption later changes
    that (`Sound`). -/

namespace Redeemo.Redemptions
open Redemption Fallible Runs Rows Paging
open Verify (Verification Included verifyChecks findByCode validated)
open CsvExports (EXPORT_CAP)

/-! ### The tables -/

/-- A redemption with its id. -/
structure Row where
  id : String
  isTestData : Bool
  redemption : VoucherRedemption
  deriving DecidableEq

structure VoucherCopy where
  title : String
  description : Option String
  terms : Option String

/-- What is shown beside a redemption, by id. -/
structure Details where
  voucher : String → VoucherCopy
  branchName : String → String
  user : String → PersonName
  branchUser : String → PersonName

structure Db where
  catalog : Catalog
  details : Details
  rows : List Row
  cycleStates : String × String → Option CycleState
  redis : Limiter.Store

def Db.tables (db : Db) : Tables := ⟨db.rows.map Row.redemption, db.cycleStates⟩

def Db.world (db : Db) : World := ⟨db.tables, db.redis⟩

def Db.voucherMerchant (db : Db) (r : Row) : Option String :=
  (db.catalog.voucher r.redemption.voucherId).map Voucher.merchantId

def Db.branchMerchant (db : Db) (r : Row) : Option String :=
  (db.catalog.branch r.redemption.branchId).map Branch.merchantId

/-- The foreign keys of the row. -/
def Db.Refers (db : Db) (r : Row) : Prop :=
  (db.catalog.voucher r.redemption.voucherId).isSome = true ∧ (db.catalog.branch r.redemption.branchId).isSome = true

instance (db : Db) : DecidablePred db.Refers := fun _ => inferInstanceAs (Decidable (_ ∧ _))

/-- `ROW_SELECT`. -/
def Db.select (db : Db) (r : Row) : Option SelectedRow := do
  let voucher ← db.catalog.voucher r.redemption.voucherId
  let _ ← db.catalog.branch r.redemption.branchId
  let copy := db.details.voucher r.redemption.voucherId
  return {
    id := r.id
    redemptionCode := r.redemption.redemptionCode
    redeemedAt := r.redemption.redeemedAt
    isValidated := r.redemption.isValidated
    validatedAt := r.redemption.validatedAt
    validationMethod := r.redemption.validationMethod
    estimatedSaving := r.redemption.estimatedSaving
    voucher := ⟨r.redemption.voucherId, copy.title, voucher.type, copy.description, copy.terms⟩
    branch := ⟨r.redemption.branchId, db.details.branchName r.redemption.branchId⟩
    user := some (db.details.user r.redemption.userId)
    validatedBy := r.redemption.validatedById.map db.details.branchUser }

/-! ### The queries -/

inductive StatusFilter
  | awaiting | validated
  deriving DecidableEq, Repr

inductive RedemptionSort
  | recent | saving
  deriving DecidableEq, Repr

structure RedemptionFilters where
  branchId : Option String
  status : Option StatusFilter
  fromDate : Option ℤ
  toDate : Option ℤ
  voucherType : Option VoucherType
  voucherId : Option String
  code : Option String
  sort : Option RedemptionSort
  /-- None where all branches are allowed. -/
  allowedBranchIds : Option (List String)

/-- An empty parameter is not given. -/
def given (s : Option String) : Option String := s.filter fun s => s ≠ ""

/-- `where.branchId`. -/
def branchIdWhere (f : RedemptionFilters) (branchId : String) : Bool :=
  match f.allowedBranchIds, given f.branchId with
  | none, none => true
  | none, some id => branchId = id
  | some allowed, some id => if id ∈ allowed then branchId = id else branchId ∈ ([] : List String)
  | some allowed, none => branchId ∈ allowed

def statusWhere (f : RedemptionFilters) (isValidated : Bool) : Bool :=
  match f.status with
  | none => true
  | some .awaiting => isValidated = false
  | some .validated => isValidated = true

section
-- `contains` is the database's comparison of a title with a text, case aside.
variable (x : Texts) (contains : String → String → Bool)
variable (db : Db) (merchantId : String) (f : RedemptionFilters)

/-- `where.OR`. -/
def searchWhere (term : String) (r : Row) : Bool :=
  (normalizeRedemptionCode term).toList.isPrefixOf r.redemption.redemptionCode.toList ||
    contains (db.details.voucher r.redemption.voucherId).title term

def buildRedemptionWhere (r : Row) : Bool :=
  db.branchMerchant r = some merchantId && !r.isTestData && branchIdWhere f r.redemption.branchId &&
    (given f.voucherId).all (fun id => r.redemption.voucherId = id) && statusWhere f r.redemption.isValidated &&
    f.fromDate.all (fun t => t ≤ r.redemption.redeemedAt) && f.toDate.all (fun t => r.redemption.redeemedAt ≤ t) &&
    f.voucherType.all (fun type => (db.catalog.voucher r.redemption.voucherId).any fun v => v.type = type) &&
    (given f.code).all (fun term => searchWhere contains db term r)

/-- Newest first, and at last by id. -/
def recentFirst (a b : Row) : Ordering :=
  (compare b.redemption.redeemedAt a.redemption.redeemedAt).then (compare b.id a.id)

def buildRedemptionOrderBy (sort : Option RedemptionSort) (a b : Row) : Ordering :=
  match sort with
  | some .saving => (compare b.redemption.estimatedSaving a.redemption.estimatedSaving).then (recentFirst a b)
  | _ => recentFirst a b

/-- The rows in order, of a query that finds the table in the order `found`. -/
def findMany (found : List Row) : List Row :=
  sortBy (buildRedemptionOrderBy f.sort) (found.filter (buildRedemptionWhere contains db merchantId f))

def rowsOf (rows : List Row) : List MerchantRedemptionRow :=
  (rows.filterMap db.select).map (toMerchantRedemptionRow x)

structure RegisterPage where
  items : List MerchantRedemptionRow
  total : ℕ
  limit : ℕ
  offset : ℕ

def listMerchantRedemptions (found : List Row) (limit offset : ℕ) : RegisterPage where
  items := rowsOf x db (((findMany contains db merchantId f found).drop offset).take limit)
  total := (found.filter (buildRedemptionWhere contains db merchantId f)).length
  limit := limit
  offset := offset

structure ExportRows where
  rows : List MerchantRedemptionRow
  truncated : Bool

def getMerchantRedemptionsForExport (found : List Row) : ExportRows :=
  let rows := (findMany contains db merchantId f found).take (EXPORT_CAP + 1)
  ⟨rowsOf x db (rows.take EXPORT_CAP), EXPORT_CAP < rows.length⟩

end

def lookupMerchantRedemptionByCode (x : Texts) (db : Db) (merchantId rawCode : String)
    (allowedBranchIds : Option (List String)) : Except AppError MerchantRedemptionRow := do
  let code := normalizeRedemptionCode rawCode
  let r ← orReject (db.rows.find? fun r => r.redemption.redemptionCode = code) .REDEMPTION_NOT_FOUND
  let selected ← orReject (db.select r) .REDEMPTION_NOT_FOUND
  rejectIf (db.voucherMerchant r ≠ some merchantId) .REDEMPTION_NOT_FOUND
  rejectIf (∃ allowed ∈ allowedBranchIds, r.redemption.branchId ∉ allowed) .REDEMPTION_NOT_FOUND
  return toMerchantRedemptionRow x selected

/-! ### What happens to the tables -/

/-- What the verification reads with the redemption. -/
def Db.included (db : Db) (row : VoucherRedemption) : Option Included := do
  let voucher ← db.catalog.voucher row.voucherId
  let branch ← db.catalog.branch row.branchId
  return ⟨voucher.merchantId, voucher.merchantStatus, branch.isActive⟩

def validateRow (call : Verification) (now : ℤ) (r : Row) : Row :=
  { r with redemption := validated call now r.redemption }

def verifyRedemption (db : Db) (call : Verification) (now : ℤ) : Except AppError Db := do
  let row ← orReject (findByCode db.tables call.code) .REDEMPTION_NOT_FOUND
  let inc ← orReject (db.included row) .REDEMPTION_NOT_FOUND
  verifyChecks row inc call
  let rows := updateMany (fun r => r.redemption.redemptionCode = call.code) (validateRow call now) db.rows
  return { db with rows := rows }

inductive Operation
  /-- With the id and the code that are drawn. -/
  | createRedemption (id redemptionCode userId : String) (data : Request) (now : ℕ)
  | verifyRedemption (call : Verification) (now : ℤ)
  /-- A row of a seed or a QA script. -/
  | addTestData (id : String) (redemption : VoucherRedemption)
  /-- Anything that happens to vouchers, branches and people. -/
  | edit (catalog : Catalog) (details : Details)

/-- A redemption's voucher and branch are not deleted, and never go to another merchant. -/
def Keeps (db : Db) (catalog : Catalog) : Prop :=
  ∀ r ∈ db.rows, (catalog.voucher r.redemption.voucherId).map Voucher.merchantId = db.voucherMerchant r ∧
    (catalog.branch r.redemption.branchId).map Branch.merchantId = db.branchMerchant r

instance (db : Db) (catalog : Catalog) : Decidable (Keeps db catalog) :=
  inferInstanceAs (Decidable (∀ r ∈ db.rows, _ ∧ _))

def Db.isFresh (db : Db) (r : Row) : Prop :=
  ∀ s ∈ db.rows, s.id ≠ r.id ∧ s.redemption.redemptionCode ≠ r.redemption.redemptionCode

instance (db : Db) : DecidablePred db.isFresh := fun _ => inferInstanceAs (Decidable (∀ s ∈ db.rows, _ ∧ _))

def created (db : Db) (id : String) : Except Failure VoucherRedemption × World → Db
  | (.ok redemption, w) =>
    { db with rows := ⟨id, false, redemption⟩ :: db.rows, cycleStates := w.tables.cycleStates, redis := w.redis }
  | (.error _, w) => { db with cycleStates := w.tables.cycleStates, redis := w.redis }

/-- A call from start to end; the ids that are drawn are new. -/
def step (decrypt : String → Except DecryptFault String) (db : Db) : Operation → Option Db
  | .createRedemption id redemptionCode userId data now =>
    if ∃ r ∈ db.rows, r.id = id then none
    else some (created db id
      (Redemption.createRedemption db.catalog decrypt redemptionCode userId data now db.world))
  | .verifyRedemption call now => some ((verifyRedemption db call now).toOption.getD db)
  | .addTestData id redemption =>
    let r : Row := ⟨id, true, redemption⟩
    if db.isFresh r ∧ db.Refers r then some { db with rows := r :: db.rows } else none
  | .edit catalog details =>
    if Keeps db catalog then some { db with catalog := catalog, details := details } else none

/-! ### What holds of them -/

/-- Ids and codes are unique, references are kept, and a redemption's voucher and branch are of one merchant. -/
structure Sound (db : Db) : Prop where
  ids : Keyed Row.id db.rows
  codes : Keyed (fun r => r.redemption.redemptionCode) db.rows
  refers : ∀ r ∈ db.rows, db.Refers r
  owned : ∀ r ∈ db.rows, r.isTestData = false → db.branchMerchant r = db.voucherMerchant r

variable {decrypt : String → Except DecryptFault String} {db db' : Db} {r : Row}

/-- The rows that are stored are those that `createRedemption` stores. -/
theorem created_tables (db : Db) (decrypt : String → Except DecryptFault String) (id redemptionCode userId : String)
    (data : Request) (now : ℕ) :
    (created db id (Redemption.createRedemption db.catalog decrypt redemptionCode userId data now db.world)).tables =
      (Redemption.createRedemption db.catalog decrypt redemptionCode userId data now db.world).2.tables := by
  have hrows := createRedemption_redemptions db.catalog decrypt redemptionCode userId data now db.world
  generalize Redemption.createRedemption db.catalog decrypt redemptionCode userId data now db.world = result at hrows ⊢
  obtain ⟨⟨e⟩ | ⟨redemption⟩, w⟩ := result
  · rw [show w.tables = ⟨w.tables.redemptions, w.tables.cycleStates⟩ from rfl, hrows]
    rfl
  · rw [show w.tables = ⟨w.tables.redemptions, w.tables.cycleStates⟩ from rfl, hrows]
    rfl

theorem created_keeps (db : Db) (id : String) (result : Except Failure VoucherRedemption × World) :
    (created db id result).catalog = db.catalog ∧ (created db id result).details = db.details := by
  obtain ⟨⟨e⟩ | ⟨redemption⟩, w⟩ := result
  · exact ⟨rfl, rfl⟩
  · exact ⟨rfl, rfl⟩

theorem verifyRedemption_tables {call : Verification} {now : ℤ} (h : verifyRedemption db call now = .ok db') :
    db'.tables = Verify.update db.tables call now := by
  obtain ⟨_, -, h⟩ := bind_ok_iff.mp h
  obtain ⟨_, -, h⟩ := bind_ok_iff.mp h
  obtain ⟨_, -, h⟩ := bind_ok_iff.mp h
  cases h
  simp only [Db.tables, Verify.update, updateMany, List.map_map]
  congr 1
  refine List.map_congr_left fun r _ => ?_
  simp only [Function.comp_apply]
  split_ifs
  · rfl
  · rfl

/-- A voucher can be redeemed at a branch of its own merchant only. -/
theorem eligibility_owned {cat : Catalog} {t : Tables} {userId voucherId branchId : String} {now : ℤ} {el : Eligible}
    (h : eligibility cat t userId voucherId branchId now = .ok el) :
    ∃ voucher branch, cat.voucher voucherId = some voucher ∧ cat.branch branchId = some branch ∧
      branch.merchantId = voucher.merchantId := by
  simp only [eligibility, bind_ok_iff, orElse_ok] at h
  obtain ⟨voucher, hv, -, -, -, -, -, -, branch, hb, -, -, _, hown, -⟩ := h
  refine ⟨voucher, branch, hv, hb, ?_⟩
  rw [Redemption.require] at hown
  split_ifs at hown with h
  exact h

/-- What a call that succeeds returns. -/
theorem createRedemption_returns (cat : Catalog) (decrypt : String → Except DecryptFault String)
    (redemptionCode userId : String) (data : Request) (now : ℕ) (w : World) (redemption : VoucherRedemption)
    (h : (Redemption.createRedemption cat decrypt redemptionCode userId data now w).1 = .ok redemption) :
    ∃ el, eligibility cat w.tables userId data.voucherId data.branchId now = .ok el ∧
      redemption = redemptionData (userId, data.voucherId) el.timeLimitedWindowStartsAt
        ⟨now, data.branchId, redemptionCode, el.voucher.estimatedSaving⟩ ∧ ¬ CodeTaken w.tables redemptionCode := by
  rw [Redemption.createRedemption] at h
  cases hel : eligibility cat w.tables userId data.voucherId data.branchId now with
  | error e =>
    rw [hel] at h
    cases h
  | ok el =>
    rw [hel] at h
    dsimp only at h
    rw [redeemWithPin] at h
    split at h
    · cases h
    · cases h
    · rw [redeemAdmitted] at h
      dsimp only at h
      split at h
      · cases h
      · cases h
      · split at h
        · cases h
        · next t ht =>
          cases h
          refine ⟨el, rfl, rfl, fun htaken => ?_⟩
          obtain ⟨e, he, -⟩ := claim_rejected
            (c := ⟨now, data.branchId, redemptionCode, el.voucher.estimatedSaving⟩) (eligibility_ok hel).guard
            (.inl htaken)
          cases ht.symm.trans he

/-! ### Every step keeps it -/

theorem Sound.cons (h : Sound db) (hfresh : db.isFresh r) (hrefers : db.Refers r)
    (howned : r.isTestData = false → db.branchMerchant r = db.voucherMerchant r) :
    Sound { db with rows := r :: db.rows } where
  ids := List.nodup_cons.mpr ⟨fun hmem => by
    obtain ⟨s, hs, he⟩ := List.mem_map.mp hmem
    exact (hfresh s hs).1 he, h.ids⟩
  codes := List.nodup_cons.mpr ⟨fun hmem => by
    obtain ⟨s, hs, he⟩ := List.mem_map.mp hmem
    exact (hfresh s hs).2 he, h.codes⟩
  refers := List.forall_mem_cons.mpr ⟨hrefers, h.refers⟩
  owned := List.forall_mem_cons.mpr ⟨howned, h.owned⟩

/-- Only the catalog and the rows matter. -/
theorem Sound.congr (h : Sound db) (hcatalog : db'.catalog = db.catalog) (hrows : db'.rows = db.rows) : Sound db' := by
  obtain ⟨catalog, details, rows, cycleStates, redis⟩ := db
  obtain ⟨catalog', details', rows', cycleStates', redis'⟩ := db'
  cases hcatalog
  cases hrows
  exact ⟨h.ids, h.codes, h.refers, h.owned⟩

theorem Sound.created {id redemptionCode userId : String} {data : Request} {now : ℕ} (h : Sound db)
    (hid : ¬ ∃ r ∈ db.rows, r.id = id) :
    Sound (created db id
      (Redemption.createRedemption db.catalog decrypt redemptionCode userId data now db.world)) := by
  have hreturns := createRedemption_returns db.catalog decrypt redemptionCode userId data now db.world
  generalize Redemption.createRedemption db.catalog decrypt redemptionCode userId data now db.world = result at hreturns
  obtain ⟨⟨e⟩ | ⟨redemption⟩, w⟩ := result
  · exact h.congr rfl rfl
  · obtain ⟨el, hel, hr, hcode⟩ := hreturns _ rfl
    obtain ⟨voucher, branch, hv, hb, hown⟩ := eligibility_owned hel
    subst hr
    refine (h.cons (r := ⟨id, false, _⟩) (fun s hs => ⟨fun he => hid ⟨s, hs, he⟩, fun he => hcode ?_⟩) ⟨?_, ?_⟩
      fun _ => ?_).congr rfl rfl
    · exact ⟨s.redemption, List.mem_map_of_mem hs, he⟩
    · simp only [redemptionData, hv, Option.isSome_some]
    · simp only [redemptionData, hb, Option.isSome_some]
    · simp only [Db.branchMerchant, Db.voucherMerchant, redemptionData, hv, hb, Option.map_some, hown]

theorem Sound.verified {call : Verification} {now : ℤ} (h : Sound db)
    (hdb' : verifyRedemption db call now = .ok db') : Sound db' := by
  obtain ⟨_, -, hdb'⟩ := bind_ok_iff.mp hdb'
  obtain ⟨_, -, hdb'⟩ := bind_ok_iff.mp hdb'
  obtain ⟨_, -, hdb'⟩ := bind_ok_iff.mp hdb'
  cases hdb'
  refine ⟨h.ids.updateMany fun _ => rfl, h.codes.updateMany fun _ => rfl, forall_updateMany.mpr fun r hr => ?_,
    forall_updateMany.mpr fun r hr => ?_⟩
  · exact ⟨fun _ => h.refers r hr, fun _ => h.refers r hr⟩
  · exact ⟨fun _ => h.owned r hr, fun _ => h.owned r hr⟩

theorem Sound.edited {catalog : Catalog} {details : Details} (h : Sound db) (hkeeps : Keeps db catalog) :
    Sound { db with catalog := catalog, details := details } where
  ids := h.ids
  codes := h.codes
  refers r hr := by
    obtain ⟨hv, hb⟩ := hkeeps r hr
    obtain ⟨hv', hb'⟩ := h.refers r hr
    rw [Db.voucherMerchant] at hv
    rw [Db.branchMerchant] at hb
    rw [← Option.isSome_map (f := Voucher.merchantId), ← hv, Option.isSome_map] at hv'
    rw [← Option.isSome_map (f := Branch.merchantId), ← hb, Option.isSome_map] at hb'
    exact ⟨hv', hb'⟩
  owned r hr hreal := by
    obtain ⟨hv, hb⟩ := hkeeps r hr
    exact hb.trans ((h.owned r hr hreal).trans hv.symm)

theorem sound_step (decrypt : String → Except DecryptFault String) (db : Db) (operation : Operation) (db' : Db)
    (h : Sound db) (hstep : step decrypt db operation = some db') : Sound db' := by
  cases operation with
  | createRedemption id redemptionCode userId data now =>
    rw [step] at hstep
    split_ifs at hstep with hid
    cases hstep
    exact h.created hid
  | verifyRedemption call now =>
    rw [step, Option.some.injEq] at hstep
    subst hstep
    cases hv : verifyRedemption db call now with
    | error e => exact h
    | ok db' => exact h.verified hv
  | addTestData id redemption =>
    dsimp only [step] at hstep
    split_ifs at hstep with hok
    cases hstep
    refine h.cons hok.1 hok.2 fun hreal => ?_
    cases hreal
  | edit catalog details =>
    rw [step] at hstep
    split_ifs at hstep with hkeeps
    cases hstep
    exact h.edited hkeeps

/-- CORRECT: whatever is redeemed, validated and edited, the tables stay sound. -/
theorem sound_run {db₀ : Db} {as : List Operation} (hstart : db₀.rows = []) (hrun : run (step decrypt) db₀ as = some db) :
    Sound db := by
  have hempty : Sound db₀ := by
    refine ⟨?_, ?_, ?_, ?_⟩
    · rw [Keyed, hstart]
      exact List.nodup_nil
    · rw [Keyed, hstart]
      exact List.nodup_nil
    · rw [hstart]
      exact List.forall_mem_nil _
    · rw [hstart]
      exact List.forall_mem_nil _
  exact run_invariant (sound_step decrypt) hempty hrun

end Redeemo.Redemptions
