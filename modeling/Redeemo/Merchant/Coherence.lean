import Redeemo.Merchant.OnboardingReview

/-! A merchant's application and its approval, over any number of review rounds without suspensions.

    The approval row and the merchant's `onboardingStep` are written together and tell the same story. A
    resubmission opens the same row again: the claim, the comment and the date of the decision go, and the
    admin who decided stays, so that they can be told. -/

namespace Redeemo.OnboardingReview
open Fallible Rows Runs Vouchers Onboarding
open Activation (Db Failure)

variable {Bag : Type}

/-! ### What the records say -/

def onboardings (db : Db Bag) (merchantId : ℕ) : List AdminApproval :=
  db.approvals.filter fun r => OnboardingOf merchantId r

def AtStep (db : Db Bag) (merchantId : ℕ) (step : OnboardingStep) : Prop :=
  ∃ merchant, db.findMerchant merchantId = some merchant ∧ merchant.onboardingStep = step

/-- The approvals of a merchant's application, and the step that it is at. -/
structure Coherent (db : Db Bag) (merchantId : ℕ) : Prop where
  one : (onboardings db merchantId).length ≤ 1
  submitted : (∃ r ∈ onboardings db merchantId, r.status = .PENDING ∧ r.claimedById = none) ↔
    AtStep db merchantId .SUBMITTED
  underReview : (∃ r ∈ onboardings db merchantId, r.status = .PENDING ∧ r.claimedById ≠ none) ↔
    AtStep db merchantId .UNDER_REVIEW
  needsChanges : (∃ r ∈ onboardings db merchantId, r.status = .CHANGES_REQUESTED) ↔
    AtStep db merchantId .NEEDS_CHANGES
  rejected : (∃ r ∈ onboardings db merchantId, r.status = .REJECTED) ↔ AtStep db merchantId .REJECTED
  live : (∃ r ∈ onboardings db merchantId, r.status = .APPROVED) ↔ AtStep db merchantId .LIVE

/-- The stages of an application, each with its rows. -/
inductive Agree : List AdminApproval → OnboardingMerchant → Prop
  | registered {m : OnboardingMerchant} (hs : m.status = .REGISTERED) (hstep : m.onboardingStep = .REGISTERED) :
    Agree [] m
  | submitted {r : AdminApproval} {m : OnboardingMerchant} (hr : r.status = .PENDING)
    (hclaim : r.claimedById = none) (hs : m.status = .PENDING_APPROVAL) (hstep : m.onboardingStep = .SUBMITTED) :
    Agree [r] m
  | underReview {r : AdminApproval} {m : OnboardingMerchant} (hr : r.status = .PENDING)
    (hclaim : r.claimedById ≠ none) (hs : m.status = .PENDING_APPROVAL)
    (hstep : m.onboardingStep = .UNDER_REVIEW) : Agree [r] m
  | needsChanges {r : AdminApproval} {m : OnboardingMerchant} (hr : r.status = .CHANGES_REQUESTED)
    (hclaim : r.claimedById = none) (hs : m.status = .PENDING_APPROVAL)
    (hstep : m.onboardingStep = .NEEDS_CHANGES) : Agree [r] m
  | rejected {r : AdminApproval} {m : OnboardingMerchant} (hr : r.status = .REJECTED)
    (hclaim : r.claimedById = none) (hs : m.status = .INACTIVE) (hstep : m.onboardingStep = .REJECTED) :
    Agree [r] m
  | live {r : AdminApproval} {m : OnboardingMerchant} (hr : r.status = .APPROVED)
    (hclaim : r.claimedById = none) (hs : m.status = .ACTIVE) (hstep : m.onboardingStep = .LIVE) : Agree [r] m

/-- What every operation of the review preserves. -/
structure Inv (db : Db Bag) (merchantId : ℕ) : Prop where
  keyed : Keyed AdminApproval.id db.approvals
  fresh : ∀ r ∈ db.approvals, r.id < db.nextId
  agree : ∃ merchant, db.findMerchant merchantId = some merchant ∧ Agree (onboardings db merchantId) merchant

section
variable {db db' : Db Bag} {merchantId id adminId : ℕ} {now : ℤ} {r : AdminApproval} {m : OnboardingMerchant}

theorem Agree.eq_singleton {rows : List AdminApproval} (h : Agree rows m) (hr : r ∈ rows) : rows = [r] := by
  cases h with
  | registered => cases hr
  | submitted | underReview | needsChanges | rejected | live => rw [List.mem_singleton.mp hr]

/-- The stage can be read off either record. -/
theorem coherent_of_agree (hm : db.findMerchant merchantId = some m)
    (h : Agree (onboardings db merchantId) m) : Coherent db merchantId := by
  have hat : ∀ step, AtStep db merchantId step ↔ m.onboardingStep = step := by
    intro step
    constructor
    · rintro ⟨_, hfound, hstep⟩
      cases hfound.symm.trans hm
      exact hstep
    · exact fun hstep => ⟨m, hm, hstep⟩
  generalize hrows : onboardings db merchantId = rows at h
  cases h with
  | registered hs hstep => constructor <;> simp [hrows, hat, hstep]
  | submitted hr hclaim hs hstep => constructor <;> simp [hrows, hat, hstep, hr, hclaim]
  | underReview hr hclaim hs hstep => constructor <;> simp [hrows, hat, hstep, hr, hclaim]
  | needsChanges hr hclaim hs hstep => constructor <;> simp [hrows, hat, hstep, hr]
  | rejected hr hclaim hs hstep => constructor <;> simp [hrows, hat, hstep, hr]
  | live hr hclaim hs hstep => constructor <;> simp [hrows, hat, hstep, hr]

/-! ### The writes of an operation -/

theorem findMerchant_updateMerchants {p : OnboardingMerchant → Prop} [DecidablePred p]
    {f : OnboardingMerchant → OnboardingMerchant} (hf : ∀ m, (f m).id = m.id) :
    (db.updateMerchants p f).findMerchant merchantId =
      (db.findMerchant merchantId).map fun m => if p m then f m else m :=
  find_updateMany hf

/-- An approval row changes, and with it the merchant whose application it is. -/
theorem Inv.update (hi : Inv db merchantId) {p : AdminApproval → Prop} [DecidablePred p]
    {f : AdminApproval → AdminApproval} {g : OnboardingMerchant → OnboardingMerchant} (hr : r ∈ db.approvals)
    (happrovals : db'.approvals = updateMany p f db.approvals) (hnext : db'.nextId = db.nextId)
    (hp : ∀ s ∈ db.approvals, p s ↔ s = r) (hid : ∀ s, (f s).id = s.id)
    (hown : ∀ s, OnboardingOf merchantId (f s) ↔ OnboardingOf merchantId s)
    (hmerchant : db'.findMerchant merchantId = (db.findMerchant merchantId).map g)
    (hmine : OnboardingOf merchantId r → ∀ m : OnboardingMerchant, m.id = merchantId → Agree [r] m → Agree [f r] (g m))
    (hother : ¬ OnboardingOf merchantId r → ∀ m : OnboardingMerchant, m.id = merchantId → g m = m) :
    Inv db' merchantId where
  keyed := by
    rw [happrovals]
    exact hi.keyed.updateMany hid
  fresh := by
    rw [happrovals, hnext]
    exact forall_updateMany.mpr fun s hs => ⟨fun _ => (hid s).symm ▸ hi.fresh s hs, fun _ => hi.fresh s hs⟩
  agree := by
    obtain ⟨m, hm, hagree⟩ := hi.agree
    refine ⟨g m, by rw [hmerchant, hm]; rfl, ?_⟩
    have hrows : onboardings db' merchantId = updateMany p f (onboardings db merchantId) := by
      rw [onboardings, happrovals]
      exact filter_updateMany hown
    rw [hrows]
    by_cases hmem : OnboardingOf merchantId r
    · have hone := hagree.eq_singleton (List.mem_filter.mpr ⟨hr, decide_eq_true hmem⟩)
      rw [hone, updateMany, List.map_singleton, if_pos ((hp r hr).mpr rfl)]
      exact hmine hmem m (find_some hm).2 (hone ▸ hagree)
    · rw [hother hmem m (find_some hm).2, updateMany_of_forall_not]
      · exact hagree
      · intro s hs hps
        obtain ⟨hs, hown⟩ := List.mem_filter.mp hs
        rw [(hp s hs).mp hps] at hown
        exact hmem (of_decide_eq_true hown)

theorem updateReferenced_findMerchant {f : OnboardingMerchant → OnboardingMerchant} (hf : ∀ m, (f m).id = m.id)
    (h : updateReferenced db r f = .ok db') : db'.approvals = db.approvals ∧ db'.nextId = db.nextId ∧
      db'.findMerchant merchantId =
        (db.findMerchant merchantId).map fun m => if OnboardingOf m.id r then f m else m := by
  rcases updateReferenced_ok h with ⟨htype, rfl⟩ | ⟨htype, rfl⟩
  · refine ⟨rfl, rfl, ?_⟩
    rw [findMerchant_updateMerchants hf]
    congr 1
    funext m
    exact if_congr ⟨fun hid => ⟨htype, hid.symm⟩, fun hown => hown.2.symm⟩ rfl rfl
  · refine ⟨rfl, rfl, ?_⟩
    have hsame : (fun m : OnboardingMerchant => if OnboardingOf m.id r then f m else m) = id := by
      funext m
      exact if_neg fun hown => htype hown.1
    rw [hsame, Option.map_id]
    rfl

theorem Inv.referenced (hi : Inv db merchantId) {p : AdminApproval → Prop} [DecidablePred p]
    {f : AdminApproval → AdminApproval} {g : OnboardingMerchant → OnboardingMerchant} (hr : r ∈ db.approvals)
    (h : updateReferenced { db with approvals := updateMany p f db.approvals } r g = .ok db')
    (hp : ∀ s ∈ db.approvals, p s ↔ s = r) (hid : ∀ s, (f s).id = s.id) (hg : ∀ m, (g m).id = m.id)
    (hown : ∀ s, OnboardingOf merchantId (f s) ↔ OnboardingOf merchantId s)
    (hmine : ∀ m, Agree [r] m → Agree [f r] (g m)) : Inv db' merchantId := by
  obtain ⟨happrovals, hnext, hmerchant⟩ : _ ∧ _ ∧ db'.findMerchant merchantId = _ :=
    updateReferenced_findMerchant hg h
  refine hi.update hr happrovals hnext hp hid hown hmerchant ?_ ?_
  · rintro hmem m rfl hagree
    rw [if_pos hmem]
    exact hmine m hagree
  · rintro hmem m rfl
    exact if_neg hmem

theorem findApproval_iff (hi : Inv db merchantId) : db.findApproval id = some r ↔ r ∈ db.approvals ∧ r.id = id :=
  hi.keyed.find_iff fun _ hr => hr

/-- A row is the only one with its id. -/
theorem Inv.id_iff (hi : Inv db merchantId) (hr : r ∈ db.approvals) {s : AdminApproval} (hs : s ∈ db.approvals) :
    s.id = r.id ↔ s = r :=
  ⟨hi.keyed.eq hs hr, fun h => h ▸ rfl⟩

/-! ### The stages -/

theorem Agree.claim (h : Agree [r] m) (hr : r.status = .PENDING) (hclaim : r.claimedById = none) (adminId : ℕ)
    (now : ℤ) : Agree [claim adminId now r] (atStep .UNDER_REVIEW m) := by
  cases h with
  | submitted _ _ hs hstep => exact .underReview hr (Option.some_ne_none _) hs rfl
  | underReview _ hno => exact absurd hclaim hno
  | needsChanges hstatus | rejected hstatus | live hstatus => cases hr.symm.trans hstatus

theorem Agree.release (h : Agree [r] m) (hclaim : r.claimedById ≠ none) :
    Agree [release r] (atStep .SUBMITTED m) := by
  cases h with
  | underReview hr _ hs hstep => exact .submitted hr rfl hs rfl
  | submitted _ hno | needsChanges _ hno | rejected _ hno | live _ hno => exact absurd hno hclaim

/-- An application that can be decided. -/
theorem Agree.pending (h : Agree [r] m) (hr : r.status ∈ ACTIONABLE_STATUSES) : m.status = .PENDING_APPROVAL := by
  cases h with
  | submitted _ _ hs | underReview _ _ hs | needsChanges _ _ hs => exact hs
  | rejected hstatus | live hstatus =>
    rw [hstatus] at hr
    exact absurd hr (by decide)

theorem Agree.requestChanges (h : Agree [r] m) (hr : r.status ∈ ACTIONABLE_STATUSES) (comment : Option String)
    (adminId : ℕ) (now : ℤ) :
    Agree [AdminApproval.decide .CHANGES_REQUESTED comment adminId now r] (atStep .NEEDS_CHANGES m) :=
  .needsChanges rfl rfl (h.pending hr) rfl

/-! ### The operations -/

theorem claimApproval_inv (hi : Inv db merchantId) (h : claimApproval db id adminId now = .ok db') :
    Inv db' merchantId := by
  obtain ⟨r, hfound, ⟨s, hs, hclaimable⟩, h⟩ := claimApproval_ok h
  obtain ⟨hr, rfl⟩ := (findApproval_iff hi).mp hfound
  cases (hi.id_iff hr hs).mp hclaimable.1
  refine hi.referenced hr h (fun t ht => ?_) (fun _ => rfl) (fun _ => rfl) (fun _ => Iff.rfl)
    fun m hagree => hagree.claim hclaimable.2.2 hclaimable.2.1 adminId now
  constructor
  · exact fun hp => (hi.id_iff hr ht).mp hp.1
  · rintro rfl
    exact hclaimable

theorem releaseApproval_inv {adminRole : AdminRole} (hi : Inv db merchantId)
    (h : releaseApproval db id adminId adminRole = .ok db') : Inv db' merchantId := by
  obtain ⟨r, hfound, hclaimed, h⟩ := releaseApproval_ok h
  obtain ⟨hr, rfl⟩ := (findApproval_iff hi).mp hfound
  exact hi.referenced hr h (fun t ht => hi.id_iff hr ht) (fun _ => rfl) (fun _ => rfl) (fun _ => Iff.rfl)
    fun m hagree => hagree.release hclaimed

/-- `requestChanges` and `rejectApproval`. -/
theorem Inv.decided (hi : Inv db merchantId) {f : AdminApproval → AdminApproval}
    {g : OnboardingMerchant → OnboardingMerchant} (hcheck : checkUndecided db id = .ok r)
    (hid : ∀ s, (f s).id = s.id) (hg : ∀ m, (g m).id = m.id)
    (hown : ∀ s, OnboardingOf merchantId (f s) ↔ OnboardingOf merchantId s)
    (hmine : ∀ m, Agree [r] m → Agree [f r] (g m)) :
    Inv ((db.updateApproval id f).updateMerchants (fun m => m.id = r.referenceId) g) merchantId := by
  obtain ⟨hfound, htype, -, merchant, hmerchant, -⟩ := checkUndecided_ok hcheck
  obtain ⟨hr, rfl⟩ := (findApproval_iff hi).mp hfound
  refine hi.referenced hr ?_ (fun t ht => hi.id_iff hr ht) hid hg hown hmine
  rw [updateReferenced, if_pos htype]
  exact bind_ok_iff.mpr ⟨merchant, orReject_eq_ok.mpr hmerchant, rfl⟩

theorem requestChanges_inv {reason : String} (hi : Inv db merchantId)
    (h : requestChanges db id adminId reason now = .ok db') : Inv db' merchantId := by
  obtain ⟨r, hcheck, rfl⟩ := requestChanges_ok h
  exact hi.decided hcheck (fun _ => rfl) (fun _ => rfl) (fun _ => Iff.rfl)
    fun m hagree => hagree.requestChanges (checkUndecided_ok hcheck).2.2.1 _ adminId now

theorem rejectApproval_inv {reason : String} (hi : Inv db merchantId)
    (h : rejectApproval db id adminId reason now = .ok db') : Inv db' merchantId := by
  obtain ⟨r, hcheck, rfl⟩ := rejectApproval_ok h
  exact hi.decided hcheck (fun _ => rfl) (fun _ => rfl) (fun _ => Iff.rfl) fun _ _ => .rejected rfl rfl rfl rfl

theorem approveApproval_inv {alreadyLive : Bool} (hi : Inv db merchantId)
    (h : Activation.approveApproval db id adminId now = .ok (db', alreadyLive)) : Inv db' merchantId := by
  rcases approveApproval_ok h with rfl | ⟨other, r, merchant, hgates, hmerchants, happrovals, hnext⟩
  · exact hi
  have hcheck := hgates.onboarding
  simp only [checkOnboardingApproval, bind_ok_iff, orReject_eq_ok, rejectIf_eq_ok, pure_eq_ok, not_not] at hcheck
  obtain ⟨_, hfound, -, htype, rfl⟩ := hcheck
  obtain ⟨hr, rfl⟩ := (findApproval_iff hi).mp hfound
  refine hi.update hr happrovals hnext (fun t ht => hi.id_iff hr ht) (fun _ => rfl) (fun _ => Iff.rfl)
    (g := fun m => if m.id = other ∧ m.status ≠ .ACTIVE then m.goLive else m) ?_ ?_ ?_
  · rw [Activation.Db.findMerchant, hmerchants]
    exact findMerchant_updateMerchants fun _ => rfl
  · rintro hmem m rfl hagree
    have happlicant := hgates.applicant
    simp only [checkApplicant, bind_ok_iff, rejectIf_eq_ok, not_not] at happlicant
    obtain ⟨-, -, hstatus⟩ := happlicant
    have hpending := hagree.pending hstatus
    rw [if_pos ⟨hmem.2.symm.trans hgates.reference, ne_of_eq_of_ne hpending (by decide)⟩]
    exact .live rfl rfl rfl rfl
  · rintro hmem m rfl
    exact if_neg fun hm => hmem ⟨htype, hgates.reference.trans hm.1.symm⟩

theorem findMerchant_submitted {other : ℕ} :
    (db.updateMerchants (fun m => m.id = other) submitted).findMerchant merchantId =
      (db.findMerchant merchantId).map fun m => if m.id = other then submitted m else m :=
  findMerchant_updateMerchants fun _ => rfl

theorem reopenOnboarding_inv {other : ℕ} (hi : Inv db merchantId) (hr : r ∈ db.approvals)
    (hown : OnboardingOf other r) :
    Inv ((db.updateMerchants (fun m => m.id = other) submitted).updateApproval r.id reopenOnboarding) merchantId := by
  refine hi.update hr rfl rfl (fun t ht => hi.id_iff hr ht) (fun _ => rfl) (fun _ => Iff.rfl)
    findMerchant_submitted ?_ ?_
  · rintro hmem m rfl hagree
    rw [if_pos (hmem.2.symm.trans hown.2)]
    exact .submitted rfl rfl rfl rfl
  · rintro hmem m rfl
    have hne : m.id ≠ other := by
      rintro rfl
      exact hmem hown
    exact if_neg hne

theorem newOnboarding_inv {other : ℕ} (hi : Inv db merchantId) (hnew : ∀ r ∈ db.approvals, ¬ OnboardingOf other r) :
    Inv { db.updateMerchants (fun m => m.id = other) submitted with
      approvals := db.approvals ++ [newOnboarding db.nextId other], nextId := db.nextId + 1 } merchantId where
  keyed := hi.keyed.concat fun r hr => (hi.fresh r hr).ne
  fresh := by
    refine List.forall_mem_append.mpr ⟨fun r hr => Nat.lt_succ_of_lt (hi.fresh r hr), ?_⟩
    rw [List.forall_mem_singleton]
    exact Nat.lt_succ_self _
  agree := by
    obtain ⟨m, hm, hagree⟩ := hi.agree
    refine ⟨_, findMerchant_submitted.trans (congrArg _ hm), ?_⟩
    obtain rfl := (find_some hm).2
    rw [onboardings, filter_concat]
    beta_reduce
    by_cases hother : m.id = other
    · -- The first submission: the merchant has no row yet.
      subst hother
      have hempty : db.approvals.filter (fun r => OnboardingOf m.id r) = [] :=
        List.filter_eq_nil_iff.mpr fun r hr hown => hnew r hr (of_decide_eq_true hown)
      rw [if_pos rfl, if_pos ⟨rfl, rfl⟩]
      exact hempty.symm ▸ .submitted rfl rfl rfl rfl
    · rw [if_neg hother, if_neg fun hown => hother hown.2.symm]
      exact hagree

theorem submitOnboarding_inv {other : ℕ} (hi : Inv db merchantId) :
    Inv (submitOnboarding (db.updateMerchants (fun m => m.id = other) submitted) other) merchantId := by
  rw [submitOnboarding]
  split
  · next existing hexisting =>
    obtain ⟨hr, hown⟩ := find_some hexisting
    exact reopenOnboarding_inv hi hr hown
  · next hnone =>
    refine newOnboarding_inv hi fun r hr hown => ?_
    exact absurd (decide_eq_true hown) (List.find?_eq_none.mp hnone r hr)

theorem setUp_inv {setUp : SetUp Bag} (hi : Inv db merchantId) : Inv (setUp.apply db) merchantId where
  keyed := hi.keyed
  fresh := hi.fresh
  agree := by
    obtain ⟨m, hm, hagree⟩ := hi.agree
    refine ⟨{ m with contractStatus := setUp.contractStatus m.id }, ?_, ?_⟩
    · rw [Activation.Db.findMerchant, SetUp.apply, List.find?_map]
      exact congrArg _ hm
    · change Agree (onboardings db merchantId) _
      generalize onboardings db merchantId = rows at hagree ⊢
      cases hagree with
      | registered hs hstep => exact .registered hs hstep
      | submitted hr hclaim hs hstep => exact .submitted hr hclaim hs hstep
      | underReview hr hclaim hs hstep => exact .underReview hr hclaim hs hstep
      | needsChanges hr hclaim hs hstep => exact .needsChanges hr hclaim hs hstep
      | rejected hr hclaim hs hstep => exact .rejected hr hclaim hs hstep
      | live hr hclaim hs hstep => exact .live hr hclaim hs hstep

/-- Neither a suspension nor a reactivation. -/
def Action.OfReview : Action Bag → Prop
  | .suspendMerchant _ => False
  | .reactivateMerchant _ => False
  | _ => True

theorem exec_inv {a : Action Bag} (ha : a.OfReview) (hi : Inv db merchantId) (h : exec db a = some db') :
    Inv db' merchantId := by
  cases a with
  | submitForApprovalCore other =>
    obtain ⟨-, -, -, rfl⟩ := submitForApprovalCore_ok (toOption_eq_some.mp h)
    exact submitOnboarding_inv hi
  | claimApproval id adminId now => exact claimApproval_inv hi (toOption_eq_some.mp h)
  | releaseApproval id adminId adminRole => exact releaseApproval_inv hi (toOption_eq_some.mp h)
  | requestChanges id adminId reason now => exact requestChanges_inv hi (toOption_eq_some.mp h)
  | rejectApproval id adminId reason now => exact rejectApproval_inv hi (toOption_eq_some.mp h)
  | approveApproval id adminId now =>
    obtain ⟨⟨_, alreadyLive⟩, hok, rfl⟩ := Option.map_eq_some_iff.mp h
    exact approveApproval_inv hi (toOption_eq_some.mp hok)
  | setUp setUp =>
    cases h
    exact setUp_inv hi
  | suspendMerchant other => exact ha.elim
  | reactivateMerchant other => exact ha.elim

theorem step_inv {a : Action Bag} (ha : a.OfReview) (hi : Inv db merchantId) (h : step db a = some db') :
    Inv db' merchantId := by
  cases Option.some.inj h
  cases hexec : exec db a with
  | none => exact hi
  | some db' => exact exec_inv ha hi hexec

/-! ### Every run -/

/-- A merchant that has just registered, among others. -/
structure NewlyRegistered (db : Db Bag) (merchantId : ℕ) : Prop where
  keyed : Keyed AdminApproval.id db.approvals
  fresh : ∀ r ∈ db.approvals, r.id < db.nextId
  merchant : ∃ merchant, db.findMerchant merchantId = some merchant ∧ merchant.status = .REGISTERED ∧
    merchant.onboardingStep = .REGISTERED
  noApproval : onboardings db merchantId = []

theorem NewlyRegistered.inv (h : NewlyRegistered db merchantId) : Inv db merchantId := by
  obtain ⟨m, hm, hs, hstep⟩ := h.merchant
  exact ⟨h.keyed, h.fresh, m, hm, h.noApproval ▸ .registered hs hstep⟩

/-- A row that a resubmission has opened again: nothing is left of the claim, the comment and the decision
    but the admin who decided. -/
structure Reopened (r r' : AdminApproval) : Prop where
  status : r'.status = .PENDING
  claimedById : r'.claimedById = none
  claimedAt : r'.claimedAt = none
  actionedAt : r'.actionedAt = none
  comment : r'.comment = some "Merchant resubmitted for onboarding approval"
  adminUserId : r'.adminUserId = r.adminUserId

/-- A submission that is not the first opens the merchant's one row again. -/
theorem resubmission_reopens (hi : Inv db merchantId) (hstep : AtStep db merchantId .NEEDS_CHANGES)
    (h : submitForApprovalCore db merchantId = .ok db') :
    ∃ r r', onboardings db merchantId = [r] ∧ onboardings db' merchantId = [r'] ∧ Reopened r r' := by
  obtain ⟨-, -, -, rfl⟩ := submitForApprovalCore_ok h
  obtain ⟨m, hm, hagree⟩ := hi.agree
  obtain ⟨_, hfound, hneeds⟩ := hstep
  cases hfound.symm.trans hm
  obtain ⟨r, hrows⟩ : ∃ r, onboardings db merchantId = [r] := by
    generalize onboardings db merchantId = rows at hagree
    cases hagree with
    | registered _ hno => cases hneeds.symm.trans hno
    | submitted | underReview | needsChanges | rejected | live => exact ⟨_, rfl⟩
  refine ⟨r, reopenOnboarding r, hrows, ?_, ⟨rfl, rfl, rfl, rfl, rfl, rfl⟩⟩
  have hfirst : db.approvals.find? (fun r => OnboardingOf merchantId r) = some r := by
    rw [← List.head?_filter]
    exact congrArg List.head? hrows
  rw [submitOnboarding]
  split
  · next existing hexisting =>
    cases hfirst.symm.trans hexisting
    have hreopened : (updateMany (fun s => s.id = r.id) reopenOnboarding db.approvals).filter
        (fun s => OnboardingOf merchantId s) = _ := filter_updateMany fun _ => Iff.rfl
    refine hreopened.trans ?_
    rw [onboardings] at hrows
    rw [hrows, updateMany, List.map_singleton, if_pos rfl]
  · next hnone => cases hfirst.symm.trans hnone

/-- CORRECT: in every state that the review operations reach from a newly registered merchant, the merchant
    has at most one approval, the approval agrees with the onboarding step, and a resubmission leaves
    nothing of the earlier round on it but the admin who decided. -/
theorem application_coherent {as : List (Action Bag)} (hnew : NewlyRegistered db merchantId)
    (has : ∀ a ∈ as, a.OfReview) (hrun : run step db as = some db') :
    Coherent db' merchantId ∧ ∀ db'', AtStep db' merchantId .NEEDS_CHANGES →
      submitForApprovalCore db' merchantId = .ok db'' →
      ∃ r r', onboardings db' merchantId = [r] ∧ onboardings db'' merchantId = [r'] ∧ Reopened r r' := by
  have hi : Inv db' merchantId := run_invariant_along (I := fun db => Inv db merchantId)
    (fun _ a => a.OfReview) (fun _ _ _ hi ha h => step_inv ha hi h) (along_of_forall has db) hnew.inv hrun
  obtain ⟨m, hm, hagree⟩ := hi.agree
  exact ⟨coherent_of_agree hm hagree, fun db'' hstep h => resubmission_reopens hi hstep h⟩

end

/-! ### A round with changes -/

def mainBranch : BranchLifecycle.Branch where
  id := 10
  merchantId := 1
  isMainBranch := true
  isActive := true
  deletedAt := none
  lifecycleStatus := .LIVE
  closeReason := none
  locationConfidence := .MANUALLY_CONFIRMED
  columns := fun _ => .null

def flagship (id : ℕ) : Voucher Unit :=
  { VoucherReview.freeCoffee with
    id := id, merchantId := 1, isRmv := true, isMandatory := true, status := .PENDING_APPROVAL }

/-- Everything that the gates ask for. -/
def complete : SetUp Unit := ⟨[mainBranch], [flagship 11, flagship 12], fun _ => .SIGNED⟩

/-- The merchant applies, and an admin asks for changes. -/
def changesRequested : List (Action Unit) :=
  [.setUp complete, .submitForApprovalCore 1, .claimApproval 2 7 0, .requestChanges 2 7 "Add opening hours" 1]

/-- The row that the resubmission opens again still names the admin who decided. -/
theorem reviewer_left_on_reopened : ((run step registeredDb (changesRequested ++ [.submitForApprovalCore 1])).map
    fun db => (onboardings db 1).map fun r => (r.status, r.claimedById, r.actionedAt, r.adminUserId)) =
      some [(.PENDING, none, none, some 7)] := by
  decide +kernel

theorem registeredDb_new : NewlyRegistered registeredDb 1 where
  keyed := List.nodup_nil
  fresh := List.forall_mem_nil _
  merchant := ⟨_, rfl, rfl, rfl⟩
  noApproval := rfl

theorem changesRequested_ofReview : ∀ a ∈ changesRequested, a.OfReview := by
  intro a ha
  simp only [changesRequested, List.mem_cons, List.not_mem_nil, or_false] at ha
  rcases ha with rfl | rfl | rfl | rfl
  · trivial
  · trivial
  · trivial
  · trivial

theorem changesRequested_coherent : ∃ db, run step registeredDb changesRequested = some db ∧ Coherent db 1 := by
  obtain ⟨db, hdb⟩ : ∃ db, run step registeredDb changesRequested = some db := ⟨_, rfl⟩
  exact ⟨db, hdb, (application_coherent registeredDb_new changesRequested_ofReview hdb).1⟩

end Redeemo.OnboardingReview
