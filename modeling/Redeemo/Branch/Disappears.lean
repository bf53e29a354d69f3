import Redeemo.Branch.Deletion
import Redeemo.Branch.ReviewQueue
import Redeemo.Discovery.LosesNothing
import Redeemo.Discovery.MerchantPage
import Redeemo.Favourites.Promises
import Redeemo.Redemption.Claims

/-! Which branches customers go on seeing.

    Every reader leaves out the branches that await approval, and takes it that a layer before it leaves out those with a
    `deletedAt`; none does. `getCustomerMerchant` lists the inactive branches too, so a branch of an ACTIVE merchant goes on
    being listed once it is deleted or closed. -/

namespace Redeemo.BranchLifecycle
open Fallible Rows Runs
open Discovery (getCustomerMerchant getCustomerMerchantBranches searchBranches)
open Redemption (createRedemption)

/-! ### The customer's tables -/

/-- What the customer's tables hold besides the columns of the lifecycle. -/
structure Elsewhere where
  /-- An id, as it is written. -/
  text : ℕ → String
  text_injective : Function.Injective text
  merchantColumns : ℕ → Discovery.Merchant
  branchColumns : ℕ → Discovery.Branch
  redemptionPin : ℕ → Option String
  /-- The order in which the database returns the branches. -/
  order : List Discovery.Branch → List Discovery.Branch
  order_perm : ∀ rows, (order rows).Perm rows
  tables : Discovery.Database
  catalog : Redemption.Catalog
  shop : VoucherScreens.Shop
  redemptions : Redemption.Tables

namespace Elsewhere
variable (o : Elsewhere) (db : Db)

def merchantRow (m : Merchant) : Discovery.Merchant :=
  { o.merchantColumns m.id with id := o.text m.id, status := m.status }

def branchRow (b : Branch) : Discovery.Branch :=
  { o.branchColumns b.id with
    id := o.text b.id
    merchantId := o.text b.merchantId
    isMainBranch := b.isMainBranch
    isActive := b.isActive
    deletedAt := b.deletedAt
    lifecycleStatus := b.lifecycleStatus
    locationConfidence := b.locationConfidence }

def database : Discovery.Database :=
  { o.tables with
    merchants := db.accounts.merchants.map o.merchantRow
    branches := o.order (db.branches.map o.branchRow) }

def findMerchant (id : String) : Option Merchant := db.accounts.merchants.find? fun m => o.text m.id = id

def cat : Redemption.Catalog :=
  { o.catalog with
    voucher := fun id => do
      let voucher ← o.catalog.voucher id
      let merchant ← o.findMerchant db voucher.merchantId
      return { voucher with merchantStatus := merchant.status }
    branch := fun id => (db.branches.find? fun b => o.text b.id = id).map fun b =>
      ⟨o.text b.merchantId, b.isActive, b.lifecycleStatus, o.redemptionPin b.id⟩ }

def vouchers : VoucherScreens.Shop :=
  { o.shop with
    cat := o.cat db
    merchants := fun id => (o.findMerchant db id).map fun m => ⟨m.status, (o.merchantColumns m.id).isTestData⟩ }

/-- No answer to a customer shows the branch, and no redemption is made at it. -/
structure Hides (id : String) : Prop where
  page : ∀ env now merchantId userId opts page,
    getCustomerMerchant env (o.database db) (o.vouchers db) o.redemptions now merchantId userId opts = .ok page →
      (∀ b ∈ page.branches, b.id ≠ id) ∧ (∀ b ∈ page.selectedBranch, b.card.id ≠ id) ∧
        ∀ b ∈ page.nearestBranch, b.id ≠ id
  selector : ∀ merchantId branches, getCustomerMerchantBranches (o.database db) merchantId = .ok branches →
    ∀ b ∈ branches, b.id ≠ id
  search : ∀ env now params response, searchBranches env (o.database db) now params = .ok response →
    ∀ t ∈ response.branches, t.id ≠ id
  redemption : ∀ decrypt redemptionCode userId data now w r w',
    createRedemption (o.cat db) decrypt redemptionCode userId data now w = (.ok r, w') → data.branchId ≠ id

end Elsewhere

/-- Deleted, closed, or not approved yet. -/
def Branch.Gone (b : Branch) : Prop :=
  b.Deleted ∨ b.lifecycleStatus = .PENDING_CREATE ∨ b.lifecycleStatus = .CLOSED

/-- Whatever else the tables hold, customers see no branch that is gone. -/
def Disappears (db : Db) : Prop := ∀ o : Elsewhere, ∀ b ∈ db.branches, b.Gone → o.Hides db (o.text b.id)

/-- A deleted branch of an ACTIVE merchant, past its approval. -/
def Branch.Lingers (accounts : Accounts) (b : Branch) : Prop :=
  b.Deleted ∧ b.lifecycleStatus ≠ .PENDING_CREATE ∧ accounts.HasStatus b.merchantId .ACTIVE

namespace Elsewhere

/-- The branch has been approved, and its merchant is ACTIVE. -/
def Shows (o : Elsewhere) (db : Db) (id : String) : Prop :=
  ∃ b ∈ db.branches, o.text b.id = id ∧ b.lifecycleStatus ≠ .PENDING_CREATE ∧
    db.accounts.HasStatus b.merchantId .ACTIVE

variable {o : Elsewhere} {db : Db}

theorem mem_branches {row : Discovery.Branch} :
    row ∈ (o.database db).branches ↔ ∃ b ∈ db.branches, o.branchRow b = row :=
  (o.order_perm _).mem_iff.trans List.mem_map

theorem keyed_database (hk : db.Keyed) : (o.database db).Keyed := by
  refine ⟨?_⟩
  have hids : (db.branches.map o.branchRow).map Discovery.Branch.id = (db.branches.map Branch.id).map o.text := by
    rw [List.map_map, List.map_map]
    rfl
  have hnodup : ((db.branches.map o.branchRow).map Discovery.Branch.id).Nodup := by
    rw [hids]
    exact hk.branchKeys.map o.text_injective
  exact ((o.order_perm _).map _).nodup_iff.mpr hnodup

theorem findMerchant_text (id : ℕ) : o.findMerchant db (o.text id) = db.accounts.findMerchant id := by
  have hsame : ∀ m : Merchant, decide (o.text m.id = o.text id) = decide (m.id = id) :=
    fun m => decide_eq_decide.mpr o.text_injective.eq_iff
  simp only [findMerchant, Accounts.findMerchant, hsame]

/-- The query finds the merchant with the id. -/
theorem find_merchantRow {p : Discovery.Merchant → Prop} [DecidablePred p] {id : ℕ}
    (hp : ∀ m, p (o.merchantRow m) ↔ m.id = id) :
    ((o.database db).merchants.find? fun m => p m) = (db.accounts.findMerchant id).map o.merchantRow := by
  have hsame : ((fun m => decide (p m)) ∘ o.merchantRow) = fun m => decide (m.id = id) :=
    funext fun m => decide_eq_decide.mpr (hp m)
  rw [Accounts.findMerchant, ← hsame]
  exact List.find?_map

theorem hasStatus_of_find {row : Discovery.Merchant} {id : ℕ}
    (h : (db.accounts.findMerchant id).map o.merchantRow = some row) : db.accounts.HasStatus id row.status := by
  obtain ⟨m, hm, rfl⟩ := Option.map_eq_some_iff.mp h
  rw [Accounts.HasStatus, hm]
  rfl

/-- Of the merchants that are no test data, only one has the id. -/
theorem available_iff {id : ℕ} {merchantId : String} (hid : o.text id = merchantId)
    (htest : (o.merchantColumns id).isTestData = false) (m : Merchant) :
    (o.merchantRow m).id = merchantId ∧ (o.merchantRow m).isTestData = false ↔ m.id = id := by
  constructor
  · rintro ⟨hrow, -⟩
    exact o.text_injective (hrow.trans hid.symm)
  · intro hm
    rw [merchantRow, hm]
    exact ⟨hid, htest⟩

/-- The available merchants are ACTIVE. -/
theorem findAvailable_hasStatus {merchantId : String} {row : Discovery.Merchant} {b : Branch}
    (h : Discovery.findAvailable (o.database db) merchantId = .ok row) (hb : o.text b.merchantId = row.id) :
    db.accounts.HasStatus b.merchantId .ACTIVE := by
  simp only [Discovery.findAvailable, bind_ok_iff, Redemption.orElse_ok, Favourites.require_eq_ok, pure_eq_ok] at h
  obtain ⟨found, hfound, -, hactive, rfl⟩ := h
  have hwhere := List.find?_some hfound
  obtain ⟨hid, htest⟩ := of_decide_eq_true hwhere
  obtain ⟨m, -, rfl⟩ := List.mem_map.mp (List.mem_of_find?_eq_some hfound)
  have hm : b.merchantId = m.id := o.text_injective hb
  rw [find_merchantRow (available_iff hid htest)] at hfound
  rw [hm, ← hactive]
  exact hasStatus_of_find hfound

theorem merchantOf_branchRow (b : Branch) :
    Discovery.merchantOf (o.database db) (o.branchRow b) = (db.accounts.findMerchant b.merchantId).map o.merchantRow :=
  find_merchantRow fun _ => o.text_injective.eq_iff

/-! ### What a reader shows -/

theorem pageBranches_shows {merchantId : String} {m : Discovery.Merchant} {row : Discovery.Branch}
    (hm : Discovery.findAvailable (o.database db) merchantId = .ok m)
    (h : row ∈ Discovery.pageBranches (o.database db) m) : o.Shows db row.id := by
  rw [Discovery.pageBranches, Discovery.mem_sort, List.mem_filter] at h
  obtain ⟨hrow, hwhere⟩ := h
  obtain ⟨hmerchant, -, hpending⟩ := of_decide_eq_true hwhere
  obtain ⟨b, hb, rfl⟩ := mem_branches.mp hrow
  exact ⟨b, hb, rfl, hpending, findAvailable_hasStatus hm hmerchant⟩

theorem mem_of_nearestOf {env : Discovery.Platform} {opts : Discovery.PageOptions} {active : List Discovery.Branch}
    {row : Discovery.Branch} (h : Discovery.nearestOf env opts active = some row) : row ∈ active := by
  rw [Discovery.nearestOf] at h
  split at h
  · exact List.mem_of_find?_eq_some h
  · exact List.mem_of_head? h

theorem page_shows {env : Discovery.Platform} {now : ℤ} {merchantId : String} {userId : Option String}
    {opts : Discovery.PageOptions} {page : Discovery.MerchantPage} {id : String}
    (h : getCustomerMerchant env (o.database db) (o.vouchers db) o.redemptions now merchantId userId opts = .ok page) :
    ((∃ b ∈ page.branches, b.id = id) → o.Shows db id) ∧ ((∃ b ∈ page.selectedBranch, b.card.id = id) → o.Shows db id) ∧
      ((∃ b ∈ page.nearestBranch, b.id = id) → o.Shows db id) := by
  simp only [getCustomerMerchant, bind_ok_iff, pure_eq_ok] at h
  obtain ⟨m, hm, vouchers, -, rfl⟩ := h
  refine ⟨?_, ?_, ?_⟩
  · rintro ⟨card, hcard, rfl⟩
    obtain ⟨row, hrow, rfl⟩ := List.mem_map.mp hcard
    exact pageBranches_shows hm hrow
  · rintro ⟨selected, hselected, rfl⟩
    obtain ⟨row, hrow, rfl⟩ := Option.map_eq_some_iff.mp hselected
    obtain ⟨resolvedId, -, hfind⟩ := Option.bind_eq_some_iff.mp hrow
    exact pageBranches_shows hm (List.mem_of_find?_eq_some hfind)
  · rintro ⟨nearest, hnearest, rfl⟩
    obtain ⟨row, hrow, rfl⟩ := Option.map_eq_some_iff.mp hnearest
    exact pageBranches_shows hm (List.mem_of_mem_filter (mem_of_nearestOf hrow))

theorem selector_shows {merchantId : String} {branches : List Discovery.SelectorBranch} {b : Discovery.SelectorBranch}
    (h : getCustomerMerchantBranches (o.database db) merchantId = .ok branches) (hb : b ∈ branches) :
    o.Shows db b.id := by
  simp only [getCustomerMerchantBranches, bind_ok_iff, pure_eq_ok] at h
  obtain ⟨m, hm, rfl⟩ := h
  obtain ⟨row, hrow, rfl⟩ := List.mem_map.mp hb
  rw [Discovery.mem_sort, Discovery.tileBranches, List.mem_filter] at hrow
  obtain ⟨hrow, hwhere⟩ := hrow
  obtain ⟨hmerchant, -, -, hpending⟩ := of_decide_eq_true hwhere
  obtain ⟨branch, hbranch, rfl⟩ := mem_branches.mp hrow
  exact ⟨branch, hbranch, rfl, hpending, findAvailable_hasStatus hm hmerchant⟩

theorem search_shows {env : Discovery.Platform} {now : ℤ} {params : Discovery.SearchParams}
    {response : Discovery.SearchResponse} {t : Discovery.BranchTile} (hk : db.Keyed)
    (h : searchBranches env (o.database db) now params = .ok response) (ht : t ∈ response.branches) :
    o.Shows db t.id := by
  simp only [searchBranches, bind_ok_iff, pure_eq_ok] at h
  obtain ⟨-, -, rfl⟩ := h
  obtain ⟨c, hc, hid⟩ := Discovery.candidate_of_mem_tiles (keyed_database hk)
    (fun i hi => List.mem_of_mem_drop (List.mem_of_mem_take hi)) ht
  obtain ⟨hrow, hm, -, -, hpending, hactive, -⟩ := Discovery.mem_candidateBranches hc
  obtain ⟨b, hb, hbrow⟩ := mem_branches.mp hrow
  rw [← hbrow, merchantOf_branchRow] at hm
  rw [← hbrow] at hid hpending
  refine ⟨b, hb, hid, hpending, ?_⟩
  rw [← hactive]
  exact hasStatus_of_find hm

theorem redemption_shows {decrypt : String → Except Redemption.DecryptFault String} {redemptionCode userId : String}
    {data : Redemption.Request} {now : ℕ} {w w' : Redemption.World} {r : Redemption.VoucherRedemption}
    (h : createRedemption (o.cat db) decrypt redemptionCode userId data now w = (.ok r, w')) :
    o.Shows db data.branchId := by
  obtain ⟨el, hel⟩ : ∃ el, Redemption.eligibility (o.cat db) w.tables userId data.voucherId data.branchId now = .ok el := by
    rw [createRedemption] at h
    split at h
    · cases h
    · exact ⟨_, ‹_›⟩
  simp only [Redemption.eligibility, bind_ok_iff, Redemption.orElse_ok, Favourites.require_eq_ok] at hel
  obtain ⟨voucher, hvoucher, -, ⟨-, -, hactive⟩, -, -, -, -, branch, hbranch, -, ⟨-, hpending⟩, -, hmerchant, -⟩ := hel
  obtain ⟨b, hfind, rfl⟩ := Option.map_eq_some_iff.mp hbranch
  obtain ⟨stored, -, hjoined⟩ := Option.bind_eq_some_iff.mp hvoucher
  obtain ⟨m, hm, hjoined⟩ := Option.bind_eq_some_iff.mp hjoined
  cases hjoined
  have hid := List.find?_some hfind
  refine ⟨b, List.mem_of_find?_eq_some hfind, of_decide_eq_true hid, hpending, ?_⟩
  have hm : o.findMerchant db (o.text b.merchantId) = some m := (congrArg (o.findMerchant db) hmerchant).trans hm
  rw [findMerchant_text] at hm
  rw [Accounts.HasStatus, hm]
  exact congrArg some hactive

/-- Each of the readers shows approved branches of ACTIVE merchants only. -/
theorem hides_of_not_shows (hk : db.Keyed) {id : String} (h : ¬ o.Shows db id) : o.Hides db id where
  page _ _ _ _ _ _ hpage :=
    ⟨fun b hb hid => h ((page_shows hpage).1 ⟨b, hb, hid⟩), fun b hb hid => h ((page_shows hpage).2.1 ⟨b, hb, hid⟩),
      fun b hb hid => h ((page_shows hpage).2.2 ⟨b, hb, hid⟩)⟩
  selector _ _ hbranches _ hb hid := h (hid ▸ selector_shows hbranches hb)
  search _ _ _ _ hresponse _ ht hid := h (hid ▸ search_shows hk hresponse ht)
  redemption _ _ _ _ _ _ _ _ hr hid := h (hid ▸ redemption_shows hr)

/-! ### What the page lists -/

/-- Unless they are test data, the page lists every approved branch of an ACTIVE merchant, whatever its `deletedAt`. -/
theorem listed {b : Branch} {m : Merchant} (hb : b ∈ db.branches) (hm : db.accounts.findMerchant b.merchantId = some m)
    (hactive : m.status = .ACTIVE) (hpending : b.lifecycleStatus ≠ .PENDING_CREATE)
    (hmerchantTest : (o.merchantColumns m.id).isTestData = false) (hbranchTest : (o.branchColumns b.id).isTestData = false)
    (env : Discovery.Platform) {now : ℤ} {userId : Option String} (opts : Discovery.PageOptions)
    {cards : List VoucherScreens.VoucherCard} (hcards : VoucherScreens.getCustomerMerchantVouchers (o.vouchers db)
      o.redemptions (Discovery.truthy userId) now (o.text b.merchantId) = .ok cards) :
    ∃ page, getCustomerMerchant env (o.database db) (o.vouchers db) o.redemptions now (o.text b.merchantId) userId opts =
      .ok page ∧ ∃ card ∈ page.branches, card.id = o.text b.id := by
  have hid : m.id = b.merchantId := by simpa using List.find?_some hm
  rw [hid] at hmerchantTest
  have havailable : Discovery.findAvailable (o.database db) (o.text b.merchantId) = .ok (o.merchantRow m) := by
    simp only [Discovery.findAvailable, bind_ok_iff, Redemption.orElse_ok, Favourites.require_eq_ok, pure_eq_ok]
    refine ⟨o.merchantRow m, ?_, (), hactive, rfl⟩
    rw [find_merchantRow (available_iff rfl hmerchantTest), hm]
    rfl
  refine ⟨Discovery.merchantPage env (o.database db) now userId opts (o.merchantRow m) cards, ?_, ?_⟩
  · simp only [getCustomerMerchant, bind_ok_iff, pure_eq_ok]
    exact ⟨_, havailable, cards, hcards, rfl⟩
  · refine ⟨Discovery.pageBranch env (o.database db) now userId opts (o.branchRow b), List.mem_map_of_mem ?_, rfl⟩
    rw [Discovery.pageBranches, Discovery.mem_sort, List.mem_filter]
    exact ⟨mem_branches.mpr ⟨b, hb, rfl⟩, decide_eq_true ⟨congrArg o.text hid.symm, hbranchTest, hpending⟩⟩

end Elsewhere

/-- Tables with no voucher in them, and nothing that is test data. -/
def anyTables : Elsewhere where
  text n := String.ofList (List.replicate n 'I')
  text_injective m n h := by
    simpa using congrArg String.length h
  merchantColumns _ := Discovery.chippy
  branchColumns _ := Discovery.branchAt "" 0
  redemptionPin _ := none
  order rows := rows
  order_perm _ := .refl _
  tables := Discovery.atSea
  catalog := ⟨fun _ => none, fun _ => none, fun _ => none, fun _ => none⟩
  shop := ⟨⟨fun _ => none, fun _ => none, fun _ => none, fun _ => none⟩, fun _ => none, [], fun _ => false, []⟩
  redemptions := ⟨[], fun _ => none⟩

/-- The branches that linger are those that customers go on seeing. -/
theorem disappears_iff {db : Db} (hq : QueueOk db) :
    Disappears db ↔ ∀ b ∈ db.branches, ¬ b.Lingers db.accounts := by
  constructor
  · rintro h b hb ⟨hdeleted, hpending, hactive⟩
    obtain ⟨m, hm, hstatus⟩ := Option.map_eq_some_iff.mp hactive
    have hmerchant : (anyTables.vouchers db).merchants (anyTables.text b.merchantId) = some ⟨m.status, false⟩ := by
      change (anyTables.findMerchant db (anyTables.text b.merchantId)).map _ = _
      rw [Elsewhere.findMerchant_text, hm]
      rfl
    have hcards : VoucherScreens.getCustomerMerchantVouchers (anyTables.vouchers db) anyTables.redemptions
        (Discovery.truthy none) 0 (anyTables.text b.merchantId) = .ok [] := by
      simp only [VoucherScreens.getCustomerMerchantVouchers, bind_ok_iff, Redemption.orElse_ok, Favourites.require_eq_ok]
      refine ⟨⟨m.status, false⟩, ?_, (), hstatus, rfl⟩
      rw [hmerchant]
      rfl
    obtain ⟨page, hpage, card, hcard, hid⟩ :=
      Elsewhere.listed hb hm hstatus hpending rfl rfl Discovery.meridian ⟨none, none, none⟩ hcards
    exact ((h anyTables b hb (.inl hdeleted)).page _ _ _ _ _ _ hpage).1 card hcard hid
  · intro h o b hb hgone
    refine Elsewhere.hides_of_not_shows hq.keyed ?_
    rintro ⟨shown, hshown, hid, hpending, hactive⟩
    cases hq.keyed.branchKeys.eq hshown hb (o.text_injective hid)
    refine h b hb ⟨?_, hpending, hactive⟩
    rcases hgone with hdeleted | hcreate | hclosed
    · exact hdeleted
    · exact absurd hcreate hpending
    · exact (hq.closed hb hclosed).deletedAt

/-! ### Steps -/

/-- What lets the decision on a pending approval through: it is there, and so is its branch. -/
structure Decides (db : Db) (type : ApprovalType) (approvalId : ℕ) (approval : AdminApproval) (branch : Branch) : Prop where
  found : db.findApproval approvalId = some approval
  type : approval.type = type
  pending : approval.status = .PENDING
  branch : db.findBranch approval.referenceId = some branch

/-- What goes through and leaves a branch of an ACTIVE merchant in sight: the deletion of an approved one, the approval of
    a close, and that of a creation whose branch has been deleted meanwhile. -/
inductive Uncovers (db : Db) : Request → Prop
  | delete {adminId branchId merchantId : ℕ} {branch : Branch}
      (howner : resolveAdminMerchant db.accounts adminId = .ok merchantId)
      (hdeletable : Deletable db merchantId branchId branch) (hpending : branch.lifecycleStatus ≠ .PENDING_CREATE)
      (hactive : db.accounts.HasStatus branch.merchantId .ACTIVE) : Uncovers db (.softDeleteBranch adminId branchId)
  | close {approvalId adminId : ℕ} {approval : AdminApproval} {branch : Branch}
      (hdecides : Decides db .BRANCH_CLOSE approvalId approval branch) (hmain : branch.isMainBranch = false)
      (hlast : 1 < db.activeBranchCount branch.merchantId) (hactive : db.accounts.HasStatus branch.merchantId .ACTIVE) :
      Uncovers db (.approveBranchLifecycle approvalId adminId)
  | create {approvalId adminId : ℕ} {approval : AdminApproval} {branch : Branch}
      (hdecides : Decides db .BRANCH_CREATE approvalId approval branch) (hconfirmed : isBranchLocationConfirmed branch)
      (hdeleted : branch.Deleted) (hactive : db.accounts.HasStatus branch.merchantId .ACTIVE) :
      Uncovers db (.approveBranchLifecycle approvalId adminId)

section
variable {out : Outside} {db db' : Db} {request : Request}

theorem Branch.lingers_congr {accounts accounts' : Accounts} (h : accounts'.merchants = accounts.merchants) (b : Branch) :
    b.Lingers accounts' ↔ b.Lingers accounts := by
  rw [Branch.Lingers, Branch.Lingers, Accounts.HasStatus, Accounts.HasStatus, Accounts.findMerchant, Accounts.findMerchant, h]

/-- What the branch of a pending close, or creation, is like. -/
theorem Decides.lifecycleStatus {approvalId : ℕ} {approval : AdminApproval} {branch : Branch} {type : ApprovalType}
    (hq : QueueOk db) (h : Decides db type approvalId approval branch) :
    (type = .BRANCH_CLOSE → branch.lifecycleStatus = .PENDING_CLOSE) ∧
      (type = .BRANCH_CREATE → branch.lifecycleStatus = .PENDING_CREATE) := by
  obtain ⟨hb, hid⟩ := hq.keyed.findBranch_iff.mp h.branch
  have hagrees := hq.agrees approval (hq.keyed.findApproval_iff.mp h.found).1
  constructor
  · intro htype
    have hhas := hagrees.closePending (h.type.trans htype) h.pending
    rw [← hid] at hhas
    exact (hq.has_iff hb).mp hhas
  · intro htype
    have hhas := hagrees.createPending (h.type.trans htype) h.pending
    rw [← hid] at hhas
    exact (hq.has_iff hb).mp hhas

theorem Decides.close_ok {approvalId adminId : ℕ} {approval : AdminApproval} {branch : Branch} (hq : QueueOk db)
    (h : Decides db .BRANCH_CLOSE approvalId approval branch) (hmain : branch.isMainBranch = false)
    (hlast : 1 < db.activeBranchCount branch.merchantId) : ∃ db', exec out db (.approveBranchLifecycle approvalId adminId) =
      .ok db' ∧ CloseApproved out db approval branch adminId db' := by
  have hclosing := (h.lifecycleStatus hq).1 rfl
  have hclose : ∃ db', approveClose out db approval adminId = .ok (db', false) ∧
      CloseApproved out db approval branch adminId db' := by
    refine ⟨_, ?_, h.branch, hclosing, hmain, fun _ => hlast, rfl⟩
    simp only [approveClose, bind_ok_iff, orReject_eq_ok]
    refine ⟨branch, h.branch, ?_⟩
    rw [if_neg (not_not.mpr hclosing)]
    simp only [bind_ok_iff, rejectIf_eq_ok, assertNotLastActive_eq_ok, pure_eq_ok]
    exact ⟨(), by simp [hmain], (), fun _ => hlast, trivial⟩
  obtain ⟨db', hclose, hwritten⟩ := hclose
  have happrove : approveBranchLifecycle out db approvalId adminId = .ok (db', false) := by
    simp only [approveBranchLifecycle, bind_ok_iff, orReject_eq_ok]
    refine ⟨approval, h.found, .close, branchLifecycleKindOf_close.mpr h.type, ?_⟩
    rw [if_neg (not_not.mpr h.pending)]
    exact hclose
  refine ⟨db', ?_, hwritten⟩
  rw [exec, happrove]
  rfl

theorem approveCreate_confirmed {approval : AdminApproval} {adminId : ℕ} {done : Bool}
    (h : approveCreate out db approval adminId = .ok (db', done)) (branch : Branch)
    (hbranch : db.findBranch approval.referenceId = some branch) : isBranchLocationConfirmed branch := by
  simp only [approveCreate, bind_ok_iff, orReject_eq_ok, rejectIf_eq_ok, not_not] at h
  obtain ⟨found, hfound, -, hconfirmed, -⟩ := h
  cases hbranch.symm.trans hfound
  exact hconfirmed

theorem Decides.create_ok {approvalId adminId : ℕ} {approval : AdminApproval} {branch : Branch} (hq : QueueOk db)
    (h : Decides db .BRANCH_CREATE approvalId approval branch) (hconfirmed : isBranchLocationConfirmed branch) :
    ∃ db', exec out db (.approveBranchLifecycle approvalId adminId) = .ok db' ∧
      CreateApproved out db approval branch adminId db' := by
  have hwaiting := (h.lifecycleStatus hq).2 rfl
  have hcreate : ∃ db', approveCreate out db approval adminId = .ok (db', false) ∧
      CreateApproved out db approval branch adminId db' := by
    refine ⟨_, ?_, h.branch, hwaiting, rfl⟩
    simp only [approveCreate, bind_ok_iff, orReject_eq_ok, rejectIf_eq_ok]
    refine ⟨branch, h.branch, (), not_not.mpr hconfirmed, ?_⟩
    rw [if_neg (not_not.mpr hwaiting)]
    rfl
  obtain ⟨db', hcreate, hwritten⟩ := hcreate
  have happrove : approveBranchLifecycle out db approvalId adminId = .ok (db', false) := by
    simp only [approveBranchLifecycle, bind_ok_iff, orReject_eq_ok]
    refine ⟨approval, h.found, .create, branchLifecycleKindOf_create.mpr h.type, ?_⟩
    rw [if_neg (not_not.mpr h.pending)]
    exact hcreate
  refine ⟨db', ?_, hwritten⟩
  rw [exec, happrove]
  rfl

/-- A row that is written lingers afterwards. -/
theorem lingers_of_written {id : ℕ} {f : Branch → Branch} {branch : Branch} (hb : branch ∈ db.branches)
    (hid : branch.id = id) (hlingers : (f branch).Lingers db.accounts) :
    ∃ b ∈ (db.updateBranchRow id f).branches, b.Lingers db.accounts :=
  ⟨f branch, mem_updateMany_of_pos hb hid, hlingers⟩

theorem Uncovers.lingers (out : Outside) (hq : QueueOk db) (h : Uncovers db request) :
    ∃ db', exec out db request = .ok db' ∧ ∃ b ∈ db'.branches, b.Lingers db'.accounts := by
  cases h with
  | delete howner hdeletable hpending hactive =>
    obtain ⟨hb, hid, -⟩ := hq.keyed.findOwned_iff.mp hdeletable.found
    refine ⟨_, softDeleteBranch_ok_iff.mpr ⟨_, _, howner, hdeletable, rfl⟩, ?_⟩
    exact lingers_of_written hb hid ⟨rfl, hpending, hactive⟩
  | close hdecides hmain hlast hactive =>
    obtain ⟨hb, -⟩ := hq.keyed.findBranch_iff.mp hdecides.branch
    obtain ⟨db', hok, happroved⟩ := hdecides.close_ok hq hmain hlast
    refine ⟨db', hok, ?_⟩
    rw [happroved.written]
    have hclosed : BranchLifecycleStatus.CLOSED ≠ .PENDING_CREATE := by decide
    exact lingers_of_written (f := Branch.close out.now) hb rfl ⟨rfl, hclosed, hactive⟩
  | create hdecides hconfirmed hdeleted hactive =>
    obtain ⟨hb, -⟩ := hq.keyed.findBranch_iff.mp hdecides.branch
    obtain ⟨db', hok, happroved⟩ := hdecides.create_ok hq hconfirmed
    refine ⟨db', hok, ?_⟩
    rw [happroved.written]
    have hlive : BranchLifecycleStatus.LIVE ≠ .PENDING_CREATE := by decide
    exact lingers_of_written (f := Branch.goLive) hb rfl ⟨hdeleted, hlive, hactive⟩

/-! What does not uncover a branch leaves none in sight. -/

theorem updateBranchRow_covered {id : ℕ} {f : Branch → Branch} (hi : ∀ b ∈ db.branches, ¬ b.Lingers db.accounts)
    (hf : ∀ b ∈ db.branches, b.id = id → ¬ (f b).Lingers db.accounts) :
    ∀ b ∈ (db.updateBranchRow id f).branches, ¬ b.Lingers db.accounts :=
  forall_updateMany.mpr fun b hb => ⟨fun hid => hf b hb hid, fun _ => hi b hb⟩

theorem insertBranch_covered {row : ℕ → Branch} (hi : ∀ b ∈ db.branches, ¬ b.Lingers db.accounts)
    (hrow : (row db.nextId).deletedAt = none) : ∀ b ∈ (db.insertBranch row).branches, ¬ b.Lingers db.accounts := by
  intro b hb
  rcases List.mem_append.mp hb with hb | hb
  · exact hi b hb
  · rw [List.mem_singleton.mp hb]
    rintro ⟨hdeleted, -⟩
    simp [Branch.Deleted, hrow] at hdeleted

/-- The row of a branch that is not deleted does not linger, whatever its status becomes. -/
theorem owned_covered {branchId merchantId : ℕ} {branch : Branch} {f : Branch → Branch} (hq : QueueOk db)
    (hi : ∀ b ∈ db.branches, ¬ b.Lingers db.accounts) (hfound : db.findOwned branchId merchantId = some branch)
    (hf : ∀ b, (f b).deletedAt = b.deletedAt) :
    ∀ b ∈ (db.updateBranchRow branchId f).branches, ¬ b.Lingers db.accounts := by
  obtain ⟨hbranch, hid, -, hnone⟩ := hq.keyed.findOwned_iff.mp hfound
  refine updateBranchRow_covered hi fun b hb hbid => ?_
  rw [hq.keyed.branchKeys.eq hb hbranch (hbid.trans hid.symm)]
  rintro ⟨hdeleted, -⟩
  simp [Branch.Deleted, hf, hnone] at hdeleted

theorem exec_covered (hq : QueueOk db) (hi : ∀ b ∈ db.branches, ¬ b.Lingers db.accounts) (hno : ¬ Uncovers db request)
    (h : exec out db request = .ok db') : ∀ b ∈ db'.branches, ¬ b.Lingers db.accounts := by
  cases request with
  | createBranch adminId data suggestion =>
    obtain ⟨merchantId, created, -, ⟨-, rfl⟩ | ⟨-, comment, rfl⟩⟩ := createBranch_ok h
    · exact insertBranch_covered hi rfl
    · exact insertBranch_covered hi rfl
  | updateBranch r =>
    obtain ⟨ctx, branch, -, ⟨main, safe, -, rfl⟩ | hstaged | rfl⟩ := updateBranch_ok h
    · intro b' hb'
      rw [patched_branches] at hb'
      obtain ⟨b, hb, rfl⟩ := List.mem_map.mp hb'
      have hsame := (patchRow_spec r ctx main safe b).same
      rw [Branch.Lingers, Branch.Deleted, hsame.deletedAt, hsame.lifecycleStatus, hsame.merchantId]
      exact hi b hb
    · obtain ⟨row, comment, rfl⟩ := hstaged.rows
      exact hi
    · exact hi
  | cancelPendingCreate adminId branchId =>
    obtain ⟨merchantId, branch, -, rfl⟩ := cancelPendingCreate_ok_iff.mp h
    exact fun b hb => hi b (List.mem_of_mem_filter hb)
  | requestBranchClose adminId branchId reason =>
    obtain ⟨merchantId, branch, comment, hfound, -, -, rfl⟩ := requestBranchClose_ok h
    exact owned_covered hq hi hfound fun _ => rfl
  | withdrawBranchClose adminId branchId =>
    obtain ⟨merchantId, branch, hfound, -, rfl⟩ := withdrawBranchClose_ok h
    exact owned_covered hq hi hfound fun _ => rfl
  | softDeleteBranch adminId branchId =>
    obtain ⟨merchantId, branch, howner, hdeletable, rfl⟩ := softDeleteBranch_ok_iff.mp h
    obtain ⟨hbranch, hid, -⟩ := hq.keyed.findOwned_iff.mp hdeletable.found
    refine updateBranchRow_covered hi fun b hb hbid => ?_
    rw [hq.keyed.branchKeys.eq hb hbranch (hbid.trans hid.symm)]
    rintro ⟨-, hpending, hactive⟩
    exact hno (.delete howner hdeletable hpending hactive)
  | approveBranchLifecycle approvalId adminId =>
    obtain ⟨done, h⟩ := exec_approve_ok h
    obtain ⟨approval, hfound, ⟨-, rfl, -⟩ | ⟨hpending, ⟨htype, h⟩ | ⟨htype, h⟩⟩⟩ := approveBranchLifecycle_ok h
    · exact hi
    · have hconfirmed := approveCreate_confirmed h
      obtain ⟨branch, hbranch, ⟨-, rfl⟩ | ⟨happroved, -⟩⟩ := approveCreate_ok h
      · exact hi
      · obtain ⟨hmem, -⟩ := hq.keyed.findBranch_iff.mp hbranch
        rw [happroved.written]
        refine updateBranchRow_covered hi fun b hb hbid => ?_
        rw [hq.keyed.branchKeys.eq hb hmem hbid]
        rintro ⟨hdeleted, -, hactive⟩
        exact hno (.create ⟨hfound, htype, hpending, hbranch⟩ (hconfirmed branch hbranch) hdeleted hactive)
    · obtain ⟨branch, hbranch, ⟨-, rfl⟩ | ⟨happroved, -⟩⟩ := approveClose_ok h
      · exact hi
      · obtain ⟨hmem, -⟩ := hq.keyed.findBranch_iff.mp hbranch
        rw [happroved.written]
        refine updateBranchRow_covered hi fun b hb hbid => ?_
        rw [hq.keyed.branchKeys.eq hb hmem hbid]
        rintro ⟨-, -, hactive⟩
        exact hno (.close ⟨hfound, htype, hpending, hbranch⟩ happroved.notMain (happroved.notLast hactive) hactive)
  | rejectBranchLifecycle approvalId adminId reason =>
    obtain ⟨approval, branch, hfound, hpending, hbranch, ⟨-, rfl⟩ | ⟨htype, rfl⟩⟩ := rejectBranchLifecycle_ok h
    · exact hi
    · obtain ⟨hmem, -⟩ := hq.keyed.findBranch_iff.mp hbranch
      have hdecides : Decides db .BRANCH_CLOSE approvalId approval branch := ⟨hfound, htype, hpending, hbranch⟩
      refine updateBranchRow_covered hi fun b hb hbid => ?_
      rw [hq.keyed.branchKeys.eq hb hmem hbid]
      rintro ⟨hdeleted, -, hactive⟩
      refine hi branch hmem ⟨hdeleted, ?_, hactive⟩
      rw [(hdecides.lifecycleStatus hq).1 rfl]
      exact fun hcreate => by cases hcreate
  | confirmBranchLocation branchId latitude longitude =>
    obtain ⟨data, -, rfl⟩ := confirmBranchLocation_ok h
    exact updateBranchRow_covered hi fun b hb _ => hi b hb

/-- One request leaves no branch in sight exactly when it does not uncover one. -/
theorem disappears_step {a : Outside × Request} (hq : QueueOk db) (hi : Disappears db) (h : step db a = some db') :
    Disappears db' ↔ ¬ Uncovers db a.2 := by
  rw [disappears_iff (step_queueOk hq h)]
  rw [disappears_iff hq] at hi
  constructor
  · intro hcovered huncovers
    obtain ⟨t, ht, b, hb, hlingers⟩ := huncovers.lingers a.1 hq
    cases Option.some.inj (h.symm.trans (step_of_ok ht))
    exact hcovered b hb hlingers
  · intro hno b hb
    rcases step_eq_some h with h | rfl
    · rw [Branch.lingers_congr (exec_merchants h)]
      exact exec_covered hq hi hno h b hb
    · exact hi b hb

end

/-- CORRECT: no branch that is gone is in sight throughout a run exactly when none of its requests uncovers one. -/
theorem gone_branches_disappear_iff {db : Db} {as : List (Outside × Request)} (hq : QueueOk db) (hi : Disappears db) :
    Throughout step Disappears db as ↔ Along step (fun db a => ¬ Uncovers db a.2) db as :=
  throughout_iff_along step_total (fun _ _ _ hq h => step_queueOk hq h) (fun _ _ _ hq hi h => disappears_step hq hi h) hq hi

theorem oneOwner_queueOk (status : MerchantStatus) (onboardingStep : OnboardingStep) :
    QueueOk (oneOwner status onboardingStep) := .of_empty (oneOwner_keyed _ _) rfl rfl

theorem oneOwner_disappears (status : MerchantStatus) (onboardingStep : OnboardingStep) :
    Disappears (oneOwner status onboardingStep) :=
  (disappears_iff (oneOwner_queueOk _ _)).mpr fun _ hb => absurd hb List.not_mem_nil

/-- The second branch waits for its approval. -/
theorem gone_branches_disappear_iff_staged : Throughout step Disappears (oneOwner .ACTIVE .LIVE) stagedSecond := by
  refine (gone_branches_disappear_iff (oneOwner_queueOk _ _) (oneOwner_disappears _ _)).mpr ?_
  refine ⟨fun h => ?_, fun _ _ => ⟨fun h => ?_, fun _ _ => ⟨fun h => ?_, fun _ _ => trivial⟩⟩⟩
  · cases h
  · cases h
  · cases h

/-- The second branch is approved, and then closed. -/
def closedSecond : List (Outside × Request) :=
  stagedSecond ++ [(anywhere, .approveBranchLifecycle 12 5), (anywhere, .requestBranchClose 1 11 "moving"),
    (anywhere, .approveBranchLifecycle 13 5)]

/-- The closed branch is still on its merchant's page. -/
theorem closed_branch_listed : ¬ Throughout step Disappears (oneOwner .ACTIVE .LIVE) closedSecond := by
  have hlingers : (run step (oneOwner .ACTIVE .LIVE) closedSecond).map (fun db =>
      decide (∃ b ∈ db.branches, (b.Deleted ∧ b.lifecycleStatus = .CLOSED) ∧ db.accounts.HasStatus b.merchantId .ACTIVE)) =
        some true := by decide +kernel
  obtain ⟨db, hrun, hb⟩ := Option.map_eq_some_iff.mp hlingers
  obtain ⟨b, hb, ⟨hdeleted, hclosed⟩, hactive⟩ := of_decide_eq_true hb
  intro h
  have hq : QueueOk db := run_invariant (fun _ _ _ hq h => step_queueOk hq h) (oneOwner_queueOk _ _) hrun
  have hcovered := (disappears_iff hq).mp (h closedSecond [] db (List.append_nil _).symm hrun)
  refine hcovered b hb ⟨hdeleted, ?_, hactive⟩
  rw [hclosed]
  decide

end Redeemo.BranchLifecycle
