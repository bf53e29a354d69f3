import Redeemo.Branch.Lifecycle
import Redeemo.Shared.LocationTrust

/-! Where the coordinates of a branch come from.

    The server resolves the centroid of a postcode and the place that a candidate token stands for; the
    merchant drops a pin. A confirmed location is one that the server has checked against a centroid. What
    a body may not do is set the coordinates, or a postcode that is not resolved: the sensitive fields of a
    PATCH and of an edit request let both through. -/

namespace Redeemo.BranchPins
open Fallible Rows Runs LocationTrust BranchLifecycle

/-! ### The operations -/

/-- What a request learns from outside: a postcode that resolves gives all the location fields. -/
structure Server where
  now : ℤ
  resolvePostcode : String → Except AppError (Column → Value)
  accepts : BranchData → Bool

/-- A coordinate that is a number. -/
def coordinate : Option Value → Option Value
  | some (.number text) => some (.number text)
  | _ => none

def Server.outside (geo : Geography Value) (server : Server) : Outside where
  now := server.now
  resolvePostcode postcode := (server.resolvePostcode postcode).map fun snapshot c => some (snapshot c)
  crossCheckGoogleLocation s postcode located :=
    match crossCheckGoogleLocation geo s.latitude s.longitude s.postcode postcode (coordinate (located .latitude))
        (coordinate (located .longitude)) with
    | .ok _ => true
    | .error _ => false
  accepts := server.accepts

/-- The text of a column that holds one. -/
def textOf : Value → String
  | .string s => s
  | _ => ""

def confirmPin (latitude longitude : Value) : BranchData where
  columns := ((Patch.empty.set .latitude latitude).set .longitude longitude).set .googlePlaceId .null
  isActive := none
  locationConfidence := some .MERCHANT_CONFIRMED

def reviewPin : BranchData := ⟨Patch.empty, none, some .NEEDS_REVIEW⟩

/-- What a dropped pin writes: itself within the radius, and nothing but a mark for review outside of it. -/
def droppedPin (geo : Geography Value) (snapshot : Column → Value) (latitude longitude : Value) : BranchData :=
  match pinWithinPostcodeArea geo latitude longitude (coordinate (some (snapshot .latitude)))
      (coordinate (some (snapshot .longitude))) with
  | .ok _ => confirmPin latitude longitude
  | .error _ => reviewPin

def dropBranchPin (geo : Geography Value) (server : Server) (db : Db) (adminId branchId : ℕ)
    (latitude longitude : Value) : Except Failure Db := do
  let merchantId ← appResult (resolveAdminMerchant db.accounts adminId)
  let branch ← resolveBranch db branchId merchantId
  rejectIf (branch.locationConfidence ≠ .POSTCODE_CENTROID ∧ branch.locationConfidence ≠ .NEEDS_REVIEW)
    (.app .BRANCH_LOCATION_ALREADY_CONFIRMED)
  let snapshot ← appResult (server.resolvePostcode (textOf (branch.columns .postcode)))
  writeBranch (server.outside geo) db branchId (droppedPin geo snapshot latitude longitude)

/-- The columns that the approval of an edit writes. -/
def APPLIED_FIELDS : List Column := SENSITIVE_FIELDS ++ LOCATION_FIELDS

/-- A suggestion is applied to a freshly resolved postcode only. -/
def applyLocationTrust (out : Outside) (applied : BranchData) (suggestion : Option BranchLocationSuggestion) :
    BranchData :=
  match suggestion, applied.columns .postcode with
  | some s, some (.string postcode) =>
    if isNumber (some s.latitude) = true ∧ isNumber (some s.longitude) = true ∧ s.placeId ≠ "" ∧
        applied.locationConfidence = some .POSTCODE_CENTROID ∧ isNumber (applied.columns .latitude) = true ∧
        isNumber (applied.columns .longitude) = true then
      applySuggestion out s postcode applied
    else applied
  | _, _ => applied

/-- What the approval of an edit writes to the branch. -/
def appliedData (out : Outside) (edit : BranchPendingEdit) : BranchData :=
  applyLocationTrust out ⟨edit.proposedChanges.columns.pick APPLIED_FIELDS, none,
    edit.proposedChanges.locationConfidence⟩ edit.locationSuggestion

def findEdit (db : Db) (id : ℕ) : Option BranchPendingEdit := db.pendingEdits.find? fun e => e.id = id

/-- `approveEdit`, of a branch's edit; the photos are not among these columns. -/
def approveEdit (out : Outside) (db : Db) (approvalId adminId : ℕ) : Except Failure Db := do
  let approval ← orReject (db.findApproval approvalId) (.app .APPROVAL_NOT_FOUND)
  rejectIf (approval.type ≠ .BRANCH_IDENTITY_EDIT ∨ approval.status ≠ .PENDING) (.app .APPROVAL_NOT_ACTIONABLE)
  let edit ← orReject (findEdit db approval.referenceId) (.app .PENDING_EDIT_NOT_FOUND)
  rejectIf (edit.status ≠ .PENDING) (.app .PENDING_EDIT_NOT_ACTIONABLE)
  let _ ← orReject (db.findBranch edit.branchId) (.app .BRANCH_NOT_FOUND)
  let applied := appliedData out edit
  rejectIf (applied.columns.Has APPLIED_FIELDS ∧ out.accepts applied = false) .invalidValue
  let written := db.updateBranchRow edit.branchId applied.apply
  return { written with
    pendingEdits := updateMany (fun e => e.id = edit.id) (fun e => { e with status := .APPROVED }) db.pendingEdits
    approvals := updateMany (fun r => r.id = approvalId) (AdminApproval.decide .APPROVED none adminId out.now)
      db.approvals }

/-! ### Runs -/

inductive Request
  | createBranch (adminId : ℕ) (data : Patch) (suggestion : Option BranchLocationSuggestion)
  | updateBranch (r : PatchRequest)
  | createBranchEditRequest (adminId branchId : ℕ) (proposedChanges : Patch) (includesPhotos : Bool)
      (suggestion : Option BranchLocationSuggestion)
  | approveEdit (approvalId adminId : ℕ)
  | dropBranchPin (adminId branchId : ℕ) (latitude longitude : Value)
  /-- Other operations change the merchants and their members. -/
  | changeAccounts (accounts : Accounts)

/-- The Google place of a request, as the server has resolved it. -/
def Request.suggestion : Request → Option BranchLocationSuggestion
  | .createBranch _ _ suggestion => suggestion
  | .updateBranch r => r.suggestion
  | .createBranchEditRequest _ _ _ _ suggestion => suggestion
  | _ => none

structure Event where
  server : Server
  request : Request

def perform (geo : Geography Value) (db : Db) (e : Event) : Except Failure Db :=
  match e.request with
  | .createBranch adminId data suggestion => createBranch (e.server.outside geo) db adminId data suggestion
  | .updateBranch r => updateBranch (e.server.outside geo) db r
  | .createBranchEditRequest adminId branchId proposedChanges includesPhotos suggestion =>
    createBranchEditRequest (e.server.outside geo) db adminId branchId proposedChanges includesPhotos suggestion
  | .approveEdit approvalId adminId => approveEdit (e.server.outside geo) db approvalId adminId
  | .dropBranchPin adminId branchId latitude longitude =>
    dropBranchPin geo e.server db adminId branchId latitude longitude
  | .changeAccounts accounts => .ok { db with accounts := accounts }

/-- The tables, and the requests that have been let through. -/
structure State where
  db : Db
  history : List Event

/-- A request that throws leaves the tables as they were. -/
def step (geo : Geography Value) (s : State) (e : Event) : Option State :=
  match perform geo s.db e with
  | .ok db => some ⟨db, e :: s.history⟩
  | .error _ => some s

def opened (accounts : Accounts) : State := ⟨⟨accounts, [], [], [], [], 0⟩, []⟩

/-! ### Where coordinates come from -/

section
variable (geo : Geography Value) (history : List Event)

/-- The server has resolved the postcode to the centroid. -/
def ResolvedTo (postcode : String) (latitude longitude : Value) : Prop :=
  ∃ e ∈ history, ∃ snapshot, e.server.resolvePostcode postcode = .ok snapshot ∧ snapshot .latitude = latitude ∧
    snapshot .longitude = longitude

/-- The server has resolved a Google place to the coordinates. -/
def FromGoogle (latitude longitude : Value) : Prop :=
  ∃ e ∈ history, ∃ s ∈ e.request.suggestion, s.latitude = latitude ∧ s.longitude = longitude

/-- The pin has been dropped, within the radius of a centroid. -/
def Pinned (latitude longitude : Value) : Prop :=
  (∃ e ∈ history, ∃ adminId branchId, e.request = .dropBranchPin adminId branchId latitude longitude) ∧
    ∃ postcode clat clng, ResolvedTo history postcode clat clng ∧
      Near geo latitude longitude (coordinate (some clat)) (coordinate (some clng))

/-- The coordinates of a branch are the server's or a pin's, and those of a confirmed one have been checked
    against a centroid of its postcode. -/
structure Located (b : Branch) : Prop where
  sourced : FromGoogle history (b.columns .latitude) (b.columns .longitude) ∨
    Pinned geo history (b.columns .latitude) (b.columns .longitude) ∨
    ∃ postcode, ResolvedTo history postcode (b.columns .latitude) (b.columns .longitude)
  trusted : b.locationConfidence = .ADDRESS_GEOCODED ∨ b.locationConfidence = .MERCHANT_CONFIRMED →
    (FromGoogle history (b.columns .latitude) (b.columns .longitude) ∨
      Pinned geo history (b.columns .latitude) (b.columns .longitude)) ∧
    ∃ clat clng, ResolvedTo history (textOf (b.columns .postcode)) clat clng ∧
      Near geo (b.columns .latitude) (b.columns .longitude) (coordinate (some clat)) (coordinate (some clng))

end

/-- A body or an edit sets the postcode or the coordinates, and no postcode that is resolved. -/
def Unresolved (data : Patch) : Prop :=
  nonBlank (data .postcode) = none ∧ data.Has [.postcode, .latitude, .longitude]

/-- An update that writes such a body at once, or the approval of such an edit. -/
def Careless (s : State) (e : Event) : Prop :=
  match e.request with
  | .updateBranch r => r.data.isMainBranch ≠ some true ∧ Unresolved r.data.columns ∧
      ∃ ctx lifecycle, resolveMerchantContext s.db.accounts r.adminId = .ok ctx ∧
        s.db.accounts.findMerchant ctx.merchantId = some lifecycle ∧ isDraftWindow lifecycle
  | .approveEdit approvalId _ => ∃ approval edit, s.db.findApproval approvalId = some approval ∧
      findEdit s.db approval.referenceId = some edit ∧ Unresolved edit.proposedChanges.columns
  | _ => False

section
variable {geo : Geography Value} {history : List Event} {e : Event} {b b' : Branch} {data data' : BranchData}
  {postcode : String} {lat lng : Value}

theorem ResolvedTo.cons (h : ResolvedTo history postcode lat lng) : ResolvedTo (e :: history) postcode lat lng := by
  obtain ⟨f, hf, hsnapshot⟩ := h
  exact ⟨f, List.mem_cons_of_mem _ hf, hsnapshot⟩

theorem FromGoogle.cons (h : FromGoogle history lat lng) : FromGoogle (e :: history) lat lng := by
  obtain ⟨f, hf, hs⟩ := h
  exact ⟨f, List.mem_cons_of_mem _ hf, hs⟩

theorem Pinned.cons (h : Pinned geo history lat lng) : Pinned geo (e :: history) lat lng := by
  obtain ⟨⟨f, hf, hpin⟩, postcode, clat, clng, hres, hnear⟩ := h
  exact ⟨⟨f, List.mem_cons_of_mem _ hf, hpin⟩, postcode, clat, clng, hres.cons, hnear⟩

/-- What the server has found out stays found out. -/
theorem Located.cons (h : Located geo history b) : Located geo (e :: history) b where
  sourced := by
    rcases h.sourced with hgoogle | hpin | ⟨postcode, hres⟩
    · exact .inl hgoogle.cons
    · exact .inr (.inl hpin.cons)
    · exact .inr (.inr ⟨postcode, hres.cons⟩)
  trusted htier := by
    obtain ⟨horigin, clat, clng, hres, hnear⟩ := h.trusted htier
    exact ⟨horigin.imp FromGoogle.cons Pinned.cons, clat, clng, hres.cons, hnear⟩

theorem Located.congr (h : Located geo history b) (hcolumns : b'.columns = b.columns)
    (hconfidence : b'.locationConfidence = b.locationConfidence) : Located geo history b' := by
  constructor
  · rw [hcolumns]
    exact h.sourced
  · rw [hcolumns, hconfidence]
    exact h.trusted

/-! ### What is written -/

/-- The coordinates are the postcode's centroid, or a Google place that has been checked against it. -/
inductive Placed (geo : Geography Value) (history : List Event) (postcode : String) (data : BranchData) : Prop
  | anchored (clat clng : Value) (hlat : data.columns .latitude = some clat)
    (hlng : data.columns .longitude = some clng)
    (hres : ResolvedTo history postcode clat clng)
    (hconfidence : data.locationConfidence = some .POSTCODE_CENTROID ∨ data.locationConfidence = some .NEEDS_REVIEW)
  | geocoded (lat lng clat clng : Value) (hlat : data.columns .latitude = some lat)
    (hlng : data.columns .longitude = some lng) (hgoogle : FromGoogle history lat lng)
    (hres : ResolvedTo history postcode clat clng)
    (hnear : Near geo lat lng (coordinate (some clat)) (coordinate (some clng)))
    (hconfidence : data.locationConfidence = some .ADDRESS_GEOCODED)

/-- The postcode and its place are written together, or neither is. -/
inductive Written (geo : Geography Value) (history : List Event) (data : BranchData) : Prop
  | elsewhere (hcolumns : ¬ data.columns.Has [.postcode, .latitude, .longitude])
    (hconfidence : data.locationConfidence = none)
  | placed (postcode : String) (hpostcode : data.columns .postcode = some (.string postcode))
    (hplaced : Placed geo history postcode data)

theorem Placed.congr (h : Placed geo history postcode data)
    (hlat : data'.columns .latitude = data.columns .latitude)
    (hlng : data'.columns .longitude = data.columns .longitude)
    (hconfidence : data'.locationConfidence = data.locationConfidence) : Placed geo history postcode data' := by
  cases h with
  | anchored clat clng hlat' hlng' hres hconfidence' =>
    exact .anchored clat clng (hlat.trans hlat') (hlng.trans hlng') hres (hconfidence ▸ hconfidence')
  | geocoded lat lng clat clng hlat' hlng' hgoogle hres hnear hconfidence' =>
    exact .geocoded lat lng clat clng (hlat.trans hlat') (hlng.trans hlng') hgoogle hres hnear
      (hconfidence.trans hconfidence')

theorem Placed.cons (h : Placed geo history postcode data) : Placed geo (e :: history) postcode data := by
  cases h with
  | anchored clat clng hlat hlng hres hconfidence => exact .anchored clat clng hlat hlng hres.cons hconfidence
  | geocoded lat lng clat clng hlat hlng hgoogle hres hnear hconfidence =>
    exact .geocoded lat lng clat clng hlat hlng hgoogle.cons hres.cons hnear hconfidence

theorem Written.cons (h : Written geo history data) : Written geo (e :: history) data := by
  cases h with
  | elsewhere hcolumns hconfidence => exact .elsewhere hcolumns hconfidence
  | placed postcode hpostcode hplaced => exact .placed postcode hpostcode hplaced.cons

/-- A row with what is placed is located. -/
theorem Placed.located (h : Placed geo history postcode data)
    (hpostcode : data.columns .postcode = some (.string postcode))
    (hcolumns : ∀ c v, data.columns c = some v → b.columns c = v)
    (hconfidence : ∀ v, data.locationConfidence = some v → b.locationConfidence = v) : Located geo history b := by
  cases h with
  | anchored clat clng hlat hlng hres hcentroid =>
    constructor
    · rw [hcolumns _ _ hlat, hcolumns _ _ hlng]
      exact .inr (.inr ⟨postcode, hres⟩)
    · intro htier
      rcases hcentroid with hcentroid | hcentroid <;> rw [hconfidence _ hcentroid] at htier <;>
        rcases htier with htier | htier <;> cases htier
  | geocoded lat lng clat clng hlat hlng hgoogle hres hnear hgeocoded =>
    constructor
    · rw [hcolumns _ _ hlat, hcolumns _ _ hlng]
      exact .inl hgoogle
    · intro _
      rw [hcolumns _ _ hlat, hcolumns _ _ hlng, hcolumns _ _ hpostcode]
      exact ⟨.inl hgoogle, clat, clng, hres, hnear⟩

theorem columns_of_elsewhere (h : ¬ data.columns.Has [.postcode, .latitude, .longitude]) {c : Column}
    (hc : c ∈ [Column.postcode, .latitude, .longitude]) : data.columns c = none := by
  by_contra hne
  exact h ⟨c, hc, Option.isSome_iff_ne_none.mpr hne⟩

theorem Written.apply (h : Written geo history data) (hb : Located geo history b) :
    Located geo history (data.apply b) := by
  cases h with
  | elsewhere hcolumns hconfidence =>
    have hkept : ∀ c ∈ [Column.postcode, .latitude, .longitude], (data.apply b).columns c = b.columns c := by
      intro c hc
      dsimp only [BranchData.apply]
      rw [columns_of_elsewhere hcolumns hc, Option.getD_none]
    have hlat := hkept .latitude (by decide)
    have hlng := hkept .longitude (by decide)
    have hconfidence' : (data.apply b).locationConfidence = b.locationConfidence := by
      rw [BranchData.apply, hconfidence, Option.getD_none]
    constructor
    · rw [hlat, hlng]
      exact hb.sourced
    · rw [hlat, hlng, hkept .postcode (by decide), hconfidence']
      exact hb.trusted
  | placed postcode hpostcode hplaced =>
    refine hplaced.located hpostcode (fun c v hv => ?_) fun v hv => ?_
    · simp only [BranchData.apply, hv, Option.getD_some]
    · simp only [BranchData.apply, hv, Option.getD_some]

theorem nonBlank_some {v : Option Value} (h : nonBlank v = some postcode) : v = some (.string postcode) := by
  unfold nonBlank at h
  split at h
  · split_ifs at h
    cases h
    rfl
  · cases h

/-! ### What a postcode resolves to -/

variable {server : Server} {request : Request}

/-- The location fields of a resolved postcode. -/
theorem resolveBranchLocationFields_ok {fields : BranchData}
    (h : resolveBranchLocationFields (server.outside geo) postcode = .ok fields) :
    ∃ snapshot, server.resolvePostcode postcode = .ok snapshot ∧
      fields = ⟨fun c => if c ∈ LOCATION_FIELDS then some (snapshot c) else none, none, some .POSTCODE_CENTROID⟩ := by
  simp only [resolveBranchLocationFields, bind_ok_iff, appResult_eq_ok, pure_eq_ok] at h
  obtain ⟨resolved, hresolved, rfl⟩ := h
  dsimp only [Server.outside] at hresolved
  cases hsnapshot : server.resolvePostcode postcode with
  | error e =>
    rw [hsnapshot] at hresolved
    cases hresolved
  | ok snapshot =>
    rw [hsnapshot] at hresolved
    cases hresolved
    exact ⟨snapshot, rfl, rfl⟩

theorem resolve_placed {fields : BranchData}
    (h : resolveBranchLocationFields (server.outside geo) postcode = .ok fields) :
    Placed geo (⟨server, request⟩ :: history) postcode fields := by
  obtain ⟨snapshot, hsnapshot, rfl⟩ := resolveBranchLocationFields_ok h
  exact .anchored (snapshot .latitude) (snapshot .longitude) rfl rfl
    ⟨_, List.mem_cons_self .., snapshot, hsnapshot, rfl, rfl⟩ (.inl rfl)

/-- The fields that are assigned over others keep their place. -/
theorem Placed.assign {target : BranchData} (h : Placed geo history postcode data) :
    Placed geo history postcode (target.assign data) := by
  cases h with
  | anchored clat clng hlat hlng hres hconfidence =>
    refine .anchored clat clng ?_ ?_ hres ?_
    · simp only [BranchData.assign, Patch.assign, hlat, Option.some_or]
    · simp only [BranchData.assign, Patch.assign, hlng, Option.some_or]
    · exact hconfidence.imp (fun h => by simp only [BranchData.assign, h, Option.some_or])
        fun h => by simp only [BranchData.assign, h, Option.some_or]
  | geocoded lat lng clat clng hlat hlng hgoogle hres hnear hconfidence =>
    refine .geocoded lat lng clat clng ?_ ?_ hgoogle hres hnear ?_
    · simp only [BranchData.assign, Patch.assign, hlat, Option.some_or]
    · simp only [BranchData.assign, Patch.assign, hlng, Option.some_or]
    · simp only [BranchData.assign, hconfidence, Option.some_or]

/-- A suggestion takes the place of the centroid only when it lies near it. -/
theorem applySuggestion_placed {s : BranchLocationSuggestion} (h : Placed geo history postcode data)
    (hcentroid : data.locationConfidence = some .POSTCODE_CENTROID) (hs : FromGoogle history s.latitude s.longitude) :
    Placed geo history postcode (applySuggestion (server.outside geo) s postcode data) := by
  cases h with
  | geocoded lat lng clat clng hlat hlng hgoogle hres hnear hconfidence => cases hcentroid.symm.trans hconfidence
  | anchored clat clng hlat hlng hres hconfidence =>
    rw [applySuggestion]
    split_ifs with hpass
    · refine .geocoded s.latitude s.longitude clat clng ?_ ?_ hs hres ?_ rfl
      · dsimp only
        rw [Patch.set_of_ne (by decide), Patch.set_of_ne (by decide), Patch.set_self]
      · dsimp only
        rw [Patch.set_of_ne (by decide), Patch.set_self]
      · cases hcheck : crossCheckGoogleLocation geo s.latitude s.longitude s.postcode postcode
            (coordinate (some clat)) (coordinate (some clng)) with
        | ok u => exact (crossCheckGoogleLocation_ok hcheck).1
        | error reason => simp [Server.outside, hlat, hlng, hcheck] at hpass
    · exact .anchored clat clng hlat hlng hres (.inr rfl)

theorem applySuggestion_postcode {out : Outside} {s : BranchLocationSuggestion} :
    (applySuggestion out s postcode data).columns .postcode = data.columns .postcode := by
  rw [applySuggestion]
  split_ifs
  · dsimp only
    rw [Patch.set_of_ne (by decide), Patch.set_of_ne (by decide), Patch.set_of_ne (by decide)]
  · rfl

/-- Data without a place, unless it sets a postcode or coordinates that are not resolved. -/
theorem elsewhere_of_blank (hblank : nonBlank (data.columns .postcode) = none) (hno : ¬ Unresolved data.columns)
    (hconfidence : data.locationConfidence = none) : Written geo history data :=
  .elsewhere (fun hhas => hno ⟨hblank, hhas⟩) hconfidence

end

/-! ### What each request writes -/

/-- An edit keeps the place that its postcode has resolved to, and the Google place that came with it. -/
structure EditLocated (geo : Geography Value) (history : List Event) (edit : BranchPendingEdit) : Prop where
  google : ∀ s ∈ edit.locationSuggestion, FromGoogle history s.latitude s.longitude
  written : ¬ Unresolved edit.proposedChanges.columns → Written geo history edit.proposedChanges

structure Inv (geo : Geography Value) (s : State) : Prop where
  keyed : s.db.Keyed
  branches : ∀ b ∈ s.db.branches, Located geo s.history b
  edits : ∀ edit ∈ s.db.pendingEdits, EditLocated geo s.history edit

section
variable {geo : Geography Value} {s : State} {db' : Db} {e : Event} {server : Server} {request : Request}

theorem EditLocated.cons {edit : BranchPendingEdit} {history : List Event} (h : EditLocated geo history edit) :
    EditLocated geo (e :: history) edit :=
  ⟨fun s hs => (h.google s hs).cons, fun hno => (h.written hno).cons⟩

theorem google_of_suggestion {suggestion : BranchLocationSuggestion} {history : List Event}
    (h : request.suggestion = some suggestion) :
    FromGoogle (⟨server, request⟩ :: history) suggestion.latitude suggestion.longitude :=
  ⟨_, List.mem_cons_self .., suggestion, h, rfl, rfl⟩

/-- The branches and edits that were there are as they were. -/
theorem Inv.kept (h : Inv geo s) :
    (∀ b ∈ s.db.branches, Located geo (e :: s.history) b) ∧
      ∀ edit ∈ s.db.pendingEdits, EditLocated geo (e :: s.history) edit :=
  ⟨fun b hb => (h.branches b hb).cons, fun edit hedit => (h.edits edit hedit).cons⟩

theorem requiredPostcode_ok {v : Option Value} {postcode : String} (h : requiredPostcode v = .ok postcode) :
    v = some (.string postcode) := by
  unfold requiredPostcode at h
  split at h
  · split_ifs at h
    cases h
    rfl
  · cases h

/-- The row of a new branch: its location over the fields of the body. -/
theorem located_created {data : Patch} {located : BranchData} {history : List Event} {postcode : String}
    {merchantId id : ℕ} {isMainBranch stageForApproval : Bool} (h : Placed geo history postcode located)
    (hnone : located.columns .postcode = none) (hpostcode : data .postcode = some (.string postcode)) :
    Located geo history (createdBranch merchantId isMainBranch stageForApproval
      (BranchData.assign ⟨data.pick CREATE_FIELDS, none, none⟩ located) id) := by
  have hassigned : Placed geo history postcode (BranchData.assign ⟨data.pick CREATE_FIELDS, none, none⟩ located) :=
    h.assign
  refine hassigned.located ?_ (fun c v hv => ?_) fun v hv => ?_
  · simp only [BranchData.assign, Patch.assign, hnone, Option.none_or]
    exact hpostcode
  · simp only [createdBranch, hv, Option.getD_some]
  · simp only [createdBranch, hv, Option.getD_some]

theorem resolve_no_postcode {fields : BranchData} {postcode : String}
    (h : resolveBranchLocationFields (server.outside geo) postcode = .ok fields) :
    fields.columns .postcode = none ∧ fields.locationConfidence = some .POSTCODE_CENTROID := by
  obtain ⟨snapshot, -, rfl⟩ := resolveBranchLocationFields_ok h
  exact ⟨rfl, rfl⟩

theorem located_inserted (hi : Inv geo s) {b : Branch} (hb : Located geo (e :: s.history) b)
    (hrows : db'.branches = s.db.branches ++ [b]) : ∀ b ∈ db'.branches, Located geo (e :: s.history) b := by
  intro c hc
  rw [hrows] at hc
  rcases List.mem_append.mp hc with hc | hc
  · exact hi.kept.1 c hc
  · rw [List.mem_singleton.mp hc]
    exact hb

/-- A new branch is where its postcode resolves to, or at the Google place. -/
theorem createBranch_located {adminId : ℕ} {data : Patch} {suggestion : Option BranchLocationSuggestion}
    (hi : Inv geo s) (h : createBranch (server.outside geo) s.db adminId data suggestion = .ok db') :
    (∀ b ∈ db'.branches, Located geo (⟨server, .createBranch adminId data suggestion⟩ :: s.history) b) ∧
      db'.pendingEdits = s.db.pendingEdits := by
  simp only [createBranch, createBranchCore, bind_ok_iff, appResult_eq_ok, rejectIf_eq_ok, pure_eq_ok] at h
  obtain ⟨merchantId, -, postcode, hpostcode, fields, hfields, -, -, rfl⟩ := h
  have hcolumn := requiredPostcode_ok hpostcode
  obtain ⟨hnone, hcentroid⟩ := resolve_no_postcode hfields
  have hresolved : Placed geo (⟨server, .createBranch adminId data suggestion⟩ :: s.history) postcode fields :=
    resolve_placed hfields
  cases suggestion with
  | none =>
    split_ifs with hstage
    · exact ⟨located_inserted hi (located_created hresolved hnone hcolumn) rfl, rfl⟩
    · exact ⟨located_inserted hi (located_created hresolved hnone hcolumn) rfl, rfl⟩
  | some place =>
    have hplaced : Placed geo (⟨server, .createBranch adminId data (some place)⟩ :: s.history) postcode
        (applySuggestion (server.outside geo) place postcode fields) :=
      applySuggestion_placed hresolved hcentroid (google_of_suggestion rfl)
    have hpostcodeKept : (applySuggestion (server.outside geo) place postcode fields).columns .postcode = none :=
      applySuggestion_postcode.trans hnone
    split_ifs with hstage
    · exact ⟨located_inserted hi (located_created hplaced hpostcodeKept hcolumn) rfl, rfl⟩
    · exact ⟨located_inserted hi (located_created hplaced hpostcodeKept hcolumn) rfl, rfl⟩

/-- The sensitive fields of a body, as the draft window or an edit takes them. -/
theorem unresolved_pick {data : Patch} {columns : List Column} (hpostcode : .postcode ∈ columns)
    (hlat : .latitude ∈ columns) (hlng : .longitude ∈ columns) : Unresolved (data.pick columns) ↔ Unresolved data := by
  have hpick : ∀ c ∈ [Column.postcode, .latitude, .longitude], data.pick columns c = data c := by
    intro c hc
    rw [Patch.pick, if_pos]
    rcases List.mem_cons.mp hc with rfl | hc
    · exact hpostcode
    · rcases List.mem_cons.mp hc with rfl | hc
      · exact hlat
      · rw [List.mem_singleton.mp hc]
        exact hlng
  rw [Unresolved, Unresolved, hpick .postcode (by decide)]
  refine and_congr_right fun _ => ⟨?_, ?_⟩
  · rintro ⟨c, hc, hsome⟩
    exact ⟨c, hc, hpick c hc ▸ hsome⟩
  · rintro ⟨c, hc, hsome⟩
    exact ⟨c, hc, (hpick c hc).symm ▸ hsome⟩

/-- The draft window writes a place with its postcode, or neither. -/
theorem draftData_written {safe safe' : BranchData} {suggestion : Option BranchLocationSuggestion}
    (hno : ¬ Unresolved safe.columns) (hconfidence : safe.locationConfidence = none)
    (hsuggestion : request.suggestion = suggestion)
    (h : draftData (server.outside geo) safe suggestion = .ok safe') :
    Written geo (⟨server, request⟩ :: s.history) safe' := by
  rw [draftData] at h
  cases hblank : nonBlank (safe.columns .postcode) with
  | none =>
    rw [hblank] at h
    cases h
    exact elsewhere_of_blank hblank hno hconfidence
  | some postcode =>
    rw [hblank] at h
    simp only [bind_ok_iff] at h
    obtain ⟨fields, hfields, h⟩ := h
    obtain ⟨hnone, hcentroid⟩ := resolve_no_postcode hfields
    have hresolved : Placed geo (⟨server, request⟩ :: s.history) postcode fields := resolve_placed hfields
    have hplaced : Placed geo (⟨server, request⟩ :: s.history) postcode (safe.assign fields) := hresolved.assign
    have hcolumn : (safe.assign fields).columns .postcode = some (.string postcode) := by
      simp only [BranchData.assign, Patch.assign, hnone, Option.none_or]
      exact nonBlank_some hblank
    have hassigned : (safe.assign fields).locationConfidence = some .POSTCODE_CENTROID := by
      simp only [BranchData.assign, hcentroid, Option.some_or]
    cases suggestion with
    | none =>
      cases h
      exact .placed postcode hcolumn hplaced
    | some place =>
      dsimp only at h
      split_ifs at h
      · cases h
        exact .placed postcode (applySuggestion_postcode.trans hcolumn)
          (applySuggestion_placed hplaced hassigned (google_of_suggestion hsuggestion))
      · cases h
        exact .placed postcode hcolumn hplaced

theorem stagedData_written {filtered located : BranchData} (hconfidence : filtered.locationConfidence = none)
    (h : stagedData (server.outside geo) filtered = .ok located) (hno : ¬ Unresolved located.columns) :
    Written geo (⟨server, request⟩ :: s.history) located := by
  rw [stagedData] at h
  cases hblank : nonBlank (filtered.columns .postcode) with
  | none =>
    rw [hblank] at h
    cases h
    exact elsewhere_of_blank hblank hno hconfidence
  | some postcode =>
    rw [hblank] at h
    dsimp only at h
    cases hfields : resolveBranchLocationFields (server.outside geo) postcode with
    | error e =>
      rw [hfields] at h
      cases h
    | ok fields =>
      rw [hfields] at h
      cases h
      have hresolved : Placed geo (⟨server, request⟩ :: s.history) postcode fields := resolve_placed hfields
      refine .placed postcode ?_ hresolved.assign
      simp only [BranchData.assign, Patch.assign, (resolve_no_postcode hfields).1, Option.none_or]
      exact nonBlank_some hblank

/-- A new edit keeps the place of its postcode. -/
theorem createBranchEditRequest_located {adminId branchId : ℕ} {proposedChanges : Patch} {includesPhotos : Bool}
    {suggestion : Option BranchLocationSuggestion} (hi : Inv geo s) (hsuggestion : request.suggestion = suggestion)
    (h : createBranchEditRequest (server.outside geo) s.db adminId branchId proposedChanges includesPhotos suggestion =
      .ok db') : db'.branches = s.db.branches ∧
      (∀ edit ∈ db'.pendingEdits, EditLocated geo (⟨server, request⟩ :: s.history) edit) ∧ db'.Keyed := by
  simp only [createBranchEditRequest, bind_ok_iff, pure_eq_ok] at h
  obtain ⟨ctx, -, -, -, -, -, -, -, located, hlocated, -, -, rfl⟩ := h
  refine ⟨rfl, fun edit hedit => ?_, (hi.keyed.insertPendingEdit _).insertApproval (Nat.lt_succ_self _)⟩
  rcases List.mem_append.mp hedit with hedit | hedit
  · exact hi.kept.2 edit hedit
  · rw [List.mem_singleton.mp hedit]
    exact ⟨fun place hplace => google_of_suggestion (hsuggestion.trans hplace), stagedData_written rfl hlocated⟩

theorem direct_written {data : PatchBody} {history : List Event} : Written geo history data.direct := by
  refine .elsewhere ?_ rfl
  rintro ⟨c, hc, hsome⟩
  have hno : ∀ c ∈ [Column.postcode, .latitude, .longitude], c ∉ DIRECT_FIELDS := by decide
  simp only [PatchBody.direct, Patch.pick, if_neg (hno c hc)] at hsome
  cases hsome

/-- An update writes a place with its postcode, or neither, unless it is careless. -/
theorem lane_written {r : PatchRequest} {ctx : MerchantContext} {main : Bool} {safe : BranchData} {branch : Branch}
    (hlane : Lane (server.outside geo) s.db r ctx main safe) (hadmitted : Admitted s.db r ctx branch)
    (hno : ¬ Careless s ⟨server, .updateBranch r⟩) : Written geo (⟨server, .updateBranch r⟩ :: s.history) safe := by
  cases hlane with
  | main => exact direct_written
  | direct => exact direct_written
  | draft hmain hsensitive howner hmerchant hdraft hsafe hvalues =>
    have hresolved : ¬ Unresolved r.data.draft.columns := by
      rw [PatchBody.draft, unresolved_pick (by decide) (by decide) (by decide)]
      exact fun hunresolved => hno ⟨hmain, hunresolved, ctx, _, hadmitted.context, hmerchant, hdraft⟩
    exact draftData_written hresolved rfl rfl hsafe

theorem located_patched {r : PatchRequest} {ctx : MerchantContext} {main : Bool} {safe : BranchData} (hi : Inv geo s)
    (hsafe : Written geo (e :: s.history) safe) :
    ∀ b ∈ (patched s.db r ctx main safe).branches, Located geo (e :: s.history) b := by
  intro b hb
  rw [patched_branches] at hb
  obtain ⟨b₀, hb₀, rfl⟩ := List.mem_map.mp hb
  have hlocated : Located geo (e :: s.history) b₀ := hi.kept.1 b₀ hb₀
  simp only [patchRow]
  split_ifs
  · have hdemoted : Located geo (e :: s.history) { b₀ with isMainBranch := false } := hlocated.congr rfl rfl
    exact (hsafe.apply hdemoted).congr rfl rfl
  · exact hlocated.congr rfl rfl
  · exact (hsafe.apply hlocated).congr rfl rfl
  · exact hlocated

theorem patched_pendingEdits {r : PatchRequest} {ctx : MerchantContext} {main : Bool} {safe : BranchData} :
    (patched s.db r ctx main safe).pendingEdits = s.db.pendingEdits := by
  cases main <;> rfl

/-- The rows that an update by id writes. -/
theorem located_update {data : BranchData} {branchId : ℕ} (hi : Inv geo s)
    (h : ∀ b ∈ s.db.branches, b.id = branchId → Located geo (e :: s.history) (data.apply b)) :
    ∀ b ∈ (s.db.updateBranchRow branchId data.apply).branches, Located geo (e :: s.history) b :=
  forall_updateMany.mpr fun b hb => ⟨h b hb, fun _ => hi.kept.1 b hb⟩

/-- An approval writes the place of the edit's postcode, or neither, unless it is careless. -/
theorem appliedData_written {edit : BranchPendingEdit} {history : List Event} (hedit : EditLocated geo history edit)
    (hno : ¬ Unresolved edit.proposedChanges.columns) :
    Written geo history (appliedData (server.outside geo) edit) := by
  have hpicked : Written geo history
      ⟨edit.proposedChanges.columns.pick APPLIED_FIELDS, none, edit.proposedChanges.locationConfidence⟩ := by
    cases hedit.written hno with
    | elsewhere hcolumns hconfidence =>
      refine .elsewhere ?_ hconfidence
      rintro ⟨c, hc, hsome⟩
      have hmem : ∀ c ∈ [Column.postcode, .latitude, .longitude], c ∈ APPLIED_FIELDS := by decide
      refine hcolumns ⟨c, hc, ?_⟩
      simpa only [Patch.pick, if_pos (hmem c hc)] using hsome
    | placed postcode hpostcode hplaced => exact .placed postcode hpostcode (hplaced.congr rfl rfl rfl)
  rw [appliedData]
  unfold applyLocationTrust
  split
  · next _ _ place text hplace hpostcode =>
    split_ifs with hfresh
    · cases hpicked with
      | elsewhere hcolumns hconfidence => cases hfresh.2.2.2.1.symm.trans hconfidence
      | placed postcode hpostcode' hplaced =>
        cases hpostcode'.symm.trans hpostcode
        exact .placed text (applySuggestion_postcode.trans hpostcode')
          (applySuggestion_placed hplaced hfresh.2.2.2.1 (hedit.google place hplace))
    · exact hpicked
  · exact hpicked

/-- A dropped pin is taken where it lies within the radius. -/
theorem droppedPin_located {b : Branch} {snapshot : Column → Value} {adminId branchId : ℕ} {latitude longitude : Value}
    (hb : Located geo (⟨server, .dropBranchPin adminId branchId latitude longitude⟩ :: s.history) b)
    (hsnapshot : server.resolvePostcode (textOf (b.columns .postcode)) = .ok snapshot) :
    Located geo (⟨server, .dropBranchPin adminId branchId latitude longitude⟩ :: s.history)
      ((droppedPin geo snapshot latitude longitude).apply b) := by
  have hres : ResolvedTo (⟨server, .dropBranchPin adminId branchId latitude longitude⟩ :: s.history)
      (textOf (b.columns .postcode)) (snapshot .latitude) (snapshot .longitude) :=
    ⟨_, List.mem_cons_self .., snapshot, hsnapshot, rfl, rfl⟩
  rw [droppedPin, pinWithinPostcodeArea]
  cases hcheck : checkRadius geo latitude longitude (coordinate (some (snapshot .latitude)))
      (coordinate (some (snapshot .longitude))) with
  | error reason =>
    constructor
    · exact hb.sourced
    · rintro (htier | htier) <;> cases htier
  | ok u =>
    have hnear := checkRadius_ok_iff.mp hcheck
    have hlat : ((confirmPin latitude longitude).apply b).columns .latitude = latitude := by
      simp only [confirmPin, BranchData.apply]
      rw [Patch.set_of_ne (by decide), Patch.set_of_ne (by decide), Patch.set_self, Option.getD_some]
    have hlng : ((confirmPin latitude longitude).apply b).columns .longitude = longitude := by
      simp only [confirmPin, BranchData.apply]
      rw [Patch.set_of_ne (by decide), Patch.set_self, Option.getD_some]
    have hpostcode : ((confirmPin latitude longitude).apply b).columns .postcode = b.columns .postcode := by
      simp only [confirmPin, BranchData.apply]
      rw [Patch.set_of_ne (by decide), Patch.set_of_ne (by decide), Patch.set_of_ne (by decide)]
      rfl
    have hpinned : Pinned geo (⟨server, .dropBranchPin adminId branchId latitude longitude⟩ :: s.history) latitude
        longitude :=
      ⟨⟨_, List.mem_cons_self .., adminId, branchId, rfl⟩, _, _, _, hres, hnear⟩
    constructor
    · rw [hlat, hlng]
      exact .inr (.inl hpinned)
    · intro _
      rw [hlat, hlng, hpostcode]
      exact ⟨.inr hpinned, _, _, hres, hnear⟩

theorem dropBranchPin_inv {adminId branchId : ℕ} {latitude longitude : Value} (hi : Inv geo s)
    (h : dropBranchPin geo server s.db adminId branchId latitude longitude = .ok db') :
    Inv geo ⟨db', ⟨server, .dropBranchPin adminId branchId latitude longitude⟩ :: s.history⟩ := by
  simp only [dropBranchPin, resolveBranch, bind_ok_iff, appResult_eq_ok, orReject_eq_ok, rejectIf_eq_ok] at h
  obtain ⟨merchantId, -, branch, hfound, -, -, snapshot, hsnapshot, h⟩ := h
  obtain ⟨-, rfl⟩ := writeBranch_ok_iff.mp h
  obtain ⟨hbranch, hid, -⟩ := hi.keyed.findOwned_iff.mp hfound
  refine ⟨hi.keyed.updateBranchRow fun _ => rfl, located_update hi fun b hb hbid => ?_, hi.kept.2⟩
  have hsame : b = branch := hi.keyed.branchKeys.eq hb hbranch (hbid.trans hid.symm)
  subst hsame
  exact droppedPin_located (hi.kept.1 b hb) hsnapshot

theorem approveEdit_inv {approvalId adminId : ℕ} (hi : Inv geo s)
    (hno : ¬ Careless s ⟨server, .approveEdit approvalId adminId⟩)
    (h : approveEdit (server.outside geo) s.db approvalId adminId = .ok db') :
    Inv geo ⟨db', ⟨server, .approveEdit approvalId adminId⟩ :: s.history⟩ := by
  simp only [approveEdit, bind_ok_iff, orReject_eq_ok, rejectIf_eq_ok, pure_eq_ok] at h
  obtain ⟨approval, happroval, -, -, edit, hedit, -, -, -, -, -, -, rfl⟩ := h
  have hwritten : Written geo (⟨server, .approveEdit approvalId adminId⟩ :: s.history)
      (appliedData (server.outside geo) edit) :=
    appliedData_written (hi.kept.2 edit (find_some hedit).1) fun hunresolved =>
      hno ⟨approval, edit, happroval, hedit, hunresolved⟩
  refine ⟨?_, located_update hi fun b hb _ => hwritten.apply (hi.kept.1 b hb),
    forall_updateMany.mpr fun f hf => ⟨fun _ => ?_, fun _ => hi.kept.2 f hf⟩⟩
  · have hrows : (s.db.updateBranchRow edit.branchId (appliedData (server.outside geo) edit).apply).Keyed :=
      hi.keyed.updateBranchRow fun _ => rfl
    have hdecided : ((s.db.updateBranchRow edit.branchId (appliedData (server.outside geo) edit).apply).updateApproval
        approvalId (AdminApproval.decide .APPROVED none adminId server.now)).Keyed :=
      hrows.updateApproval (fun _ => rfl) fun _ => rfl
    exact ⟨hdecided.branchKeys, hdecided.approvalKeys, hdecided.branchFresh, hdecided.approvalFresh,
      hdecided.referenceFresh⟩
  · exact ⟨(hi.kept.2 f hf).google, (hi.kept.2 f hf).written⟩

/-- A request that is let through keeps the locations, unless it is careless. -/
theorem perform_inv (hi : Inv geo s) (hno : ¬ Careless s e) (h : perform geo s.db e = .ok db') :
    Inv geo ⟨db', e :: s.history⟩ := by
  obtain ⟨server, request⟩ := e
  cases request with
  | createBranch adminId data suggestion =>
    obtain ⟨hbranches, hedits⟩ := createBranch_located hi h
    have hexec : exec (server.outside geo) s.db (.createBranch adminId data suggestion) = .ok db' := h
    exact ⟨exec_keyed hi.keyed hexec, hbranches, hedits ▸ hi.kept.2⟩
  | updateBranch r =>
    obtain ⟨ctx, branch, hadmitted, ⟨main, safe, hlane, rfl⟩ | hstaged | rfl⟩ := updateBranch_ok h
    · refine ⟨patched_keyed hi.keyed, located_patched hi (lane_written hlane hadmitted hno), ?_⟩
      dsimp only
      rw [patched_pendingEdits]
      exact hi.kept.2
    · obtain ⟨hbranches, hedits, hkeyed⟩ :=
        createBranchEditRequest_located hi (rfl : (Request.updateBranch r).suggestion = r.suggestion) hstaged.staged
      exact ⟨hkeyed, hbranches ▸ hi.kept.1, hedits⟩
    · exact ⟨hi.keyed, hi.kept.1, hi.kept.2⟩
  | createBranchEditRequest adminId branchId proposedChanges includesPhotos suggestion =>
    have hsuggestion : (Request.createBranchEditRequest adminId branchId proposedChanges includesPhotos
        suggestion).suggestion = suggestion := rfl
    obtain ⟨hbranches, hedits, hkeyed⟩ := createBranchEditRequest_located hi hsuggestion h
    exact ⟨hkeyed, hbranches ▸ hi.kept.1, hedits⟩
  | approveEdit approvalId adminId => exact approveEdit_inv hi hno h
  | dropBranchPin adminId branchId latitude longitude => exact dropBranchPin_inv hi h
  | changeAccounts accounts =>
    cases h
    exact ⟨⟨hi.keyed.branchKeys, hi.keyed.approvalKeys, hi.keyed.branchFresh, hi.keyed.approvalFresh,
      hi.keyed.referenceFresh⟩, hi.kept.1, hi.kept.2⟩

theorem step_inv {s' : State} (hi : Inv geo s) (hno : ¬ Careless s e) (h : step geo s e = some s') : Inv geo s' := by
  rw [step] at h
  cases hperform : perform geo s.db e with
  | ok db =>
    rw [hperform] at h
    cases h
    exact perform_inv hi hno hperform
  | error failure =>
    rw [hperform] at h
    cases h
    exact hi

theorem opened_inv (accounts : Accounts) : Inv geo (opened accounts) where
  keyed := {
    branchKeys := List.nodup_nil
    approvalKeys := List.nodup_nil
    branchFresh := List.forall_mem_nil _
    approvalFresh := List.forall_mem_nil _
    referenceFresh := List.forall_mem_nil _ }
  branches := List.forall_mem_nil _
  edits := List.forall_mem_nil _

/-- CORRECT: in every run in which no body sets coordinates, or a postcode that is not resolved, the coordinates
    of every branch are the server's or a pin's within the radius, and a confirmed location lies near a centroid
    that its postcode has resolved to. -/
theorem locations_trusted {accounts : Accounts} {es : List Event}
    (h : Along (step geo) (fun s e => ¬ Careless s e) (opened accounts) es) :
    Throughout (step geo) (fun s => ∀ b ∈ s.db.branches, Located geo s.history b) (opened accounts) es := by
  have hinv : Throughout (step geo) (Inv geo) (opened accounts) es :=
    throughout_of_along (fun _ _ _ hi hno hstep => step_inv hi hno hstep) h (opened_inv accounts)
  exact fun xs ys s' he hr => (hinv xs ys s' he hr).branches

/-- The history holds requests of the run. -/
theorem history_subset {es : List Event} {t s' : State} (h : run (step geo) t es = some s') :
    ∀ f ∈ s'.history, f ∈ t.history ∨ f ∈ es := by
  induction es generalizing t with
  | nil =>
    cases h
    exact fun f hf => .inl hf
  | cons e es ih =>
    obtain ⟨u, hu, hr⟩ := run_cons_eq_some.mp h
    intro f hf
    rcases ih hr f hf with hf | hf
    · rw [step] at hu
      cases hperform : perform geo t.db e with
      | ok db =>
        rw [hperform] at hu
        cases hu
        exact (List.mem_cons.mp hf).elim (fun h => .inr (h ▸ List.mem_cons_self ..)) .inl
      | error failure =>
        rw [hperform] at hu
        cases hu
        exact .inl hf
    · exact .inr (List.mem_cons_of_mem _ hf)

end

/-! ### A branch in the sea -/

/-- Westminster is far from everywhere else. -/
def westminster : Geography Value :=
  ⟨fun lat lng lat' lng' => if lat = lat' ∧ lng = lng' then 0 else 5700000, id⟩

def postcodesIo : Server where
  now := 0
  resolvePostcode _ := .ok fun
    | .latitude => .number "51.5"
    | .longitude => .number "-0.1"
    | _ => .null
  accepts _ := true

def owner : Accounts := (oneOwner .REGISTERED .REGISTERED).accounts

def highStreetPlace : BranchLocationSuggestion := ⟨"place", .number "51.5", .number "-0.1", some "SW1A 1AA"⟩

def coordinates (latitude longitude : String) : Patch :=
  (Patch.empty.set .latitude (.number latitude)).set .longitude (.number longitude)

/-- A postcode is resolved again whatever coordinates come with it, and a pin is dropped on it. -/
def resolvedEdits : List Event :=
  [⟨postcodesIo, .createBranch 1 highStreet none⟩,
    ⟨postcodesIo, .updateBranch ⟨1, 0, ⟨(coordinates "0" "0").set .postcode (.string "SW1A 2AA"), none, none⟩, none⟩⟩,
    ⟨postcodesIo, .dropBranchPin 1 0 (.number "51.5") (.number "-0.1")⟩]

theorem resolvedEdits_trusted : Throughout (step westminster) (fun s => ∀ b ∈ s.db.branches,
    Located westminster s.history b) (opened owner) resolvedEdits :=
  locations_trusted ⟨id, fun _ _ => ⟨fun h => absurd h.2.1.1 (by decide), fun _ _ => ⟨id, fun _ _ => trivial⟩⟩⟩

/-- The owner of a merchant that is being set up sends coordinates for a geocoded branch. -/
def coordinatesSent : List Event :=
  [⟨postcodesIo, .createBranch 1 highStreet (some highStreetPlace)⟩,
    ⟨postcodesIo, .updateBranch ⟨1, 0, ⟨coordinates "0" "0", none, none⟩, none⟩⟩]

theorem run_coordinatesSent : ((run (step westminster) (opened owner) coordinatesSent).map fun s =>
    s.db.branches.map fun b => (b.locationConfidence, b.columns .latitude, b.columns .longitude)) =
    some [(.ADDRESS_GEOCODED, .number "0", .number "0")] := by
  decide +kernel

/-- They are stored, and the branch still counts as geocoded. -/
theorem coordinates_stored : ∃ s, run (step westminster) (opened owner) coordinatesSent = some s ∧
    ¬ ∀ b ∈ s.db.branches, Located westminster s.history b := by
  obtain ⟨s, hrun, hs⟩ := Option.map_eq_some_iff.mp run_coordinatesSent
  obtain ⟨b, hb, hrow⟩ := List.map_eq_singleton_iff.mp hs
  refine ⟨s, hrun, fun hlocated => ?_⟩
  obtain ⟨-, hlat, -⟩ : _ ∧ _ ∧ _ := by simpa only [Prod.mk.injEq] using hrow
  have hhistory : ∀ f ∈ s.history, f ∈ coordinatesSent :=
    fun f hf => (history_subset hrun f hf).resolve_left List.not_mem_nil
  have hsourced := (hlocated b (hb ▸ List.mem_singleton_self b)).sourced
  rw [hlat] at hsourced
  rcases hsourced with ⟨f, hf, place, hplace, heq, -⟩ | ⟨⟨f, hf, adminId, branchId, hpin⟩, -⟩ |
      ⟨postcode, f, hf, snapshot, hsnapshot, heq, -⟩
  · rcases List.mem_cons.mp (hhistory f hf) with rfl | hf
    · cases hplace
      revert heq
      decide
    · rw [List.mem_singleton.mp hf] at hplace
      cases hplace
  · rcases List.mem_cons.mp (hhistory f hf) with rfl | hf
    · cases hpin
    · rw [List.mem_singleton.mp hf] at hpin
      cases hpin
  · have hserver : f.server = postcodesIo := by
      rcases List.mem_cons.mp (hhistory f hf) with rfl | hf
      · rfl
      · rw [List.mem_singleton.mp hf]
    rw [hserver] at hsnapshot
    cases hsnapshot
    revert heq
    decide

end Redeemo.BranchPins
