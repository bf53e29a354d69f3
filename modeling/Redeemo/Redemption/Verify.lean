import Redeemo.Lib.Fallible
import Redeemo.Lib.Runs
import Redeemo.Redemption.Tables

/-! Concurrent validations of redemption codes.

    `verifyRedemption` reads the redemption with its voucher and branch, checks what it has read, and
    then updates the row by its id, whatever the row says by then. Nothing keeps two calls from
    passing the checks before either of them updates; the second update validates the code again, and
    overwrites when, how and by whom the first one did. -/

namespace Redeemo.Verify
open Runs Redemption Fallible

/-! ### The call -/

inductive ActorRole
  | branch | merchant
  deriving DecidableEq, Repr

structure VerifyActor where
  role : ActorRole
  branchId : Option String
  merchantId : String
  actorId : String

structure MerchantContext where
  allBranches : Bool
  allowedBranchIds : List String

/-- The arguments of one call. The request schema lets `method` be QR_SCAN or MANUAL. -/
structure Verification where
  code : String
  method : ValidationMethod
  actor : VerifyActor
  merchantCtx : Option MerchantContext

/-- What the read includes of the redemption's voucher, merchant and branch. -/
structure Included where
  voucherMerchantId : String
  merchantStatus : MerchantStatus
  branchIsActive : Bool

def throwIf (p : Prop) [Decidable p] (e : AppError) : Except AppError Unit :=
  if p then .error e else .ok ()

/-- A merchant's tenant and scope: a code outside the scope is masked. -/
def merchantLane (row : VoucherRedemption) (inc : Included) (call : Verification) :
    Except AppError Unit :=
  match call.actor.role with
  | .branch => .ok ()
  | .merchant =>
    if inc.voucherMerchantId ≠ call.actor.merchantId then .error .MERCHANT_MISMATCH
    else match call.merchantCtx with
      | none => .error .INSUFFICIENT_PERMISSIONS
      | some merchantCtx =>
        throwIf (merchantCtx.allBranches = false ∧ row.branchId ∉ merchantCtx.allowedBranchIds)
          .REDEMPTION_NOT_FOUND

def branchLane (row : VoucherRedemption) (call : Verification) : Except AppError Unit :=
  match call.actor.role with
  | .merchant => .ok ()
  | .branch => throwIf (some row.branchId ≠ call.actor.branchId) .BRANCH_ACCESS_DENIED

/-- The checks on what has been read: a merchant's come before ALREADY_VALIDATED, a branch's after. -/
def verifyChecks (row : VoucherRedemption) (inc : Included) (call : Verification) :
    Except AppError Unit := do
  merchantLane row inc call
  throwIf (row.isValidated = true) .ALREADY_VALIDATED
  branchLane row call
  throwIf (inc.merchantStatus ≠ .ACTIVE) .MERCHANT_SUSPENDED
  throwIf (inc.branchIsActive = false) .BRANCH_UNAVAILABLE

/-- `voucherRedemption.findUnique`. -/
def findByCode (t : Tables) (code : String) : Option VoucherRedemption :=
  t.redemptions.find? fun r => r.redemptionCode = code

/-- What the update sets. -/
def validated (call : Verification) (now : ℤ) (row : VoucherRedemption) : VoucherRedemption :=
  { row with
    isValidated := true
    validatedAt := some now
    validationMethod := some call.method
    validatedById := match call.actor.role with
      | .branch => some call.actor.actorId
      | .merchant => none }

/-- `voucherRedemption.update`, by the id of the row that was read; a code never changes and is
    unique, so it stands for the id. -/
def update (t : Tables) (call : Verification) (now : ℤ) : Tables :=
  { t with redemptions := t.redemptions.map fun r =>
      if r.redemptionCode = call.code then validated call now r else r }

/-! ### Interleavings -/

inductive Phase
  | start
  /-- Let pass by the checks. -/
  | passed
  | returned (updated : VoucherRedemption)
  | failed (e : AppError)

inductive Act
  | read (inc : Included)
  | update (now : ℤ)

/-- One statement of a call. Redemptions are never deleted, so the row that was read is there to be
    updated. -/
def next (calls : ℕ → Verification) (i : ℕ) (t : Tables) (ph : Phase) (a : Act) :
    Option (Tables × Phase) :=
  match ph, a with
  | .start, .read inc =>
    match findByCode t (calls i).code with
    | none => some (t, .failed .REDEMPTION_NOT_FOUND)
    | some row =>
      match verifyChecks row inc (calls i) with
      | .ok () => some (t, .passed)
      | .error e => some (t, .failed e)
  | .passed, .update now =>
    let t := update t (calls i) now
    (findByCode t (calls i).code).map fun updated => (t, .returned updated)
  | _, _ => none

/-- No call has begun. -/
def initial (t : Tables) : Pool ℕ Tables Phase := ⟨t, fun _ => .start⟩

def Succeeded (s : Pool ℕ Tables Phase) (i : ℕ) : Prop := ∃ updated, s.proc i = .returned updated

def IsValidated (t : Tables) (code : String) : Prop :=
  ∃ row, findByCode t code = some row ∧ row.isValidated = true

/-- A code that came to be validated in the run was so by exactly one call, any other by none; and
    from then on its row has not changed. -/
structure VerifiedOnce (calls : ℕ → Verification) (code : String) (t₀ : Tables)
    (as : List (ℕ × Act)) (s : Pool ℕ Tables Phase) : Prop where
  exactlyOne : IsValidated s.store code → ¬ IsValidated t₀ code →
    ∃! i, (calls i).code = code ∧ Succeeded s i
  noneElse : ¬ IsValidated s.store code ∨ IsValidated t₀ code →
    ∀ i, (calls i).code = code → ¬ Succeeded s i
  frozen : ∀ xs ys s₁, as = xs ++ ys → run (poolStep (next calls)) (initial t₀) xs = some s₁ →
    IsValidated s₁.store code → findByCode s.store code = findByCode s₁.store code

/-- A call that updates finds the code not validated. -/
def Fresh (code : String) (calls : ℕ → Verification) (s : Pool ℕ Tables Phase) (a : ℕ × Act) : Prop :=
  ∀ now, a.2 = .update now → (calls a.1).code = code → ¬ IsValidated s.store code

/-! ### What a step does -/

variable {calls : ℕ → Verification} {code : String} {t t' t₀ : Tables} {call : Verification}
variable {s s' : Pool ℕ Tables Phase} {a : ℕ × Act}

theorem throwIf_ok {p : Prop} [Decidable p] {e : AppError} {u : Unit} :
    throwIf p e = .ok u ↔ ¬ p := by
  by_cases h : p <;> simp [throwIf, h]

/-- Whatever the lane, a code that is validated does not pass. -/
theorem not_validated_of_checks {row : VoucherRedemption} {inc : Included} {u : Unit}
    (h : verifyChecks row inc call = .ok u) : row.isValidated = false := by
  obtain ⟨-, -, h⟩ := bind_ok_iff.mp h
  obtain ⟨_, hv, -⟩ := bind_ok_iff.mp h
  exact Bool.eq_false_of_not_eq_true (throwIf_ok.mp hv)

theorem findByCode_update {now : ℤ} : findByCode (update t call now) code =
    if code = call.code then (findByCode t code).map (validated call now) else findByCode t code := by
  have hcode : ∀ r : VoucherRedemption, (if r.redemptionCode = call.code then validated call now r
      else r).redemptionCode = r.redemptionCode := by
    intro r
    split_ifs <;> rfl
  rw [findByCode, update, List.find?_map]
  have hf : (fun r : VoucherRedemption => decide (r.redemptionCode = code)) ∘
      (fun r => if r.redemptionCode = call.code then validated call now r else r)
        = fun r => decide (r.redemptionCode = code) := by
    funext r
    simp only [Function.comp, hcode]
  rw [hf, ← findByCode]
  cases hrow : findByCode t code with
  | none => simp
  | some row =>
    have hr : row.redemptionCode = code := by
      have hd := List.find?_some hrow
      exact of_decide_eq_true hd
    rw [Option.map_some, Option.map_some, hr]
    split_ifs <;> rfl

/-- A step reads, and passes a code that is not validated or fails; or it updates. -/
theorem step_cases (h : poolStep (next calls) s a = some s') :
    ((∃ inc, a.2 = .read inc) ∧ s'.store = s.store ∧ s.proc a.1 = .start ∧
      ((s'.proc = Function.update s.proc a.1 .passed ∧ ¬ IsValidated s.store (calls a.1).code) ∨
        ∃ e, s'.proc = Function.update s.proc a.1 (.failed e))) ∨
    (∃ now updated, a.2 = .update now ∧ s.proc a.1 = .passed ∧
      s'.store = update s.store (calls a.1) now ∧
      findByCode s'.store (calls a.1).code = some updated ∧
      s'.proc = Function.update s.proc a.1 (.returned updated)) := by
  obtain ⟨i, act⟩ := a
  obtain ⟨t', ph', hn, rfl⟩ := poolStep_eq_some.mp h
  dsimp only at hn ⊢
  cases hph : s.proc i with
  | start =>
    rw [hph] at hn
    cases act with
    | update now => cases hn
    | read inc =>
      left
      cases hrow : findByCode s.store (calls i).code with
      | none =>
        simp only [next, hrow] at hn
        cases hn
        exact ⟨⟨inc, rfl⟩, rfl, rfl, .inr ⟨_, rfl⟩⟩
      | some row =>
        simp only [next, hrow] at hn
        split at hn
        · next hok =>
          cases hn
          refine ⟨⟨inc, rfl⟩, rfl, rfl, .inl ⟨rfl, ?_⟩⟩
          rintro ⟨row', hrow', hv⟩
          rw [hrow] at hrow'
          cases hrow'
          rw [not_validated_of_checks hok] at hv
          cases hv
        · cases hn
          exact ⟨⟨inc, rfl⟩, rfl, rfl, .inr ⟨_, rfl⟩⟩
  | passed =>
    rw [hph] at hn
    cases act with
    | read inc => cases hn
    | update now =>
      right
      obtain ⟨updated, hup, he⟩ := Option.map_eq_some_iff.mp hn
      cases he
      exact ⟨now, updated, rfl, rfl, rfl, hup, rfl⟩
  | returned updated =>
    rw [hph] at hn
    cases hn
  | failed e =>
    rw [hph] at hn
    cases hn

/-- An update validates the code of its call, if there is such a redemption, and no other. -/
theorem isValidated_update {now : ℤ} : IsValidated (update t call now) code ↔
    IsValidated t code ∨ code = call.code ∧ (findByCode t code).isSome = true := by
  rw [IsValidated, findByCode_update, IsValidated]
  by_cases hc : code = call.code
  · cases hrow : findByCode t code with
    | none => simp [hc]
    | some row => simp [hc, validated]
  · simp [hc]

theorem findByCode_isSome_of_update {now : ℤ} {updated : VoucherRedemption}
    (h : findByCode (update t call now) call.code = some updated) :
    (findByCode t call.code).isSome = true := by
  rw [findByCode_update, if_pos rfl] at h
  obtain ⟨row, hrow, -⟩ := Option.map_eq_some_iff.mp h
  rw [hrow]
  rfl

/-- A call that has returned success stays so. -/
theorem succeeded_step (h : poolStep (next calls) s a = some s') {i : ℕ} (hi : Succeeded s i) :
    Succeeded s' i := by
  obtain ⟨updated, hu⟩ := hi
  have hne : i ≠ a.1 := by
    rintro rfl
    rcases step_cases h with ⟨-, -, hph, -⟩ | ⟨_, _, -, hph, -⟩ <;> rw [hph] at hu <;> cases hu
  refine ⟨updated, ?_⟩
  rcases step_cases h with ⟨-, -, -, ⟨hp, -⟩ | ⟨e, hp⟩⟩ | ⟨_, _, -, -, -, -, hp⟩ <;>
    rw [hp, Function.update_of_ne hne, hu]

/-- Only an update makes a call succeed. -/
theorem succeeded_of_update {i j : ℕ} {updated : VoucherRedemption}
    (hp : s'.proc = Function.update s.proc i (.returned updated)) :
    Succeeded s' j ↔ j = i ∨ Succeeded s j := by
  rw [Succeeded, hp]
  by_cases hj : j = i
  · simp [hj]
  · rw [Function.update_of_ne hj]
    simp [hj, Succeeded]

theorem succeeded_of_read {i j : ℕ} {ph : Phase} (hph : ∀ updated, ph ≠ .returned updated)
    (hstart : s.proc i = .start) (hp : s'.proc = Function.update s.proc i ph) :
    Succeeded s' j ↔ Succeeded s j := by
  rw [Succeeded, hp]
  by_cases hj : j = i
  · subst hj
    simp [Succeeded, hph, hstart]
  · rw [Function.update_of_ne hj, Succeeded]

/-! ### The invariant of every run -/

/-- A code validated from the start stays so, and lets nobody pass; any other is validated once a call
    on it has succeeded. -/
structure Valid (calls : ℕ → Verification) (code : String) (t₀ : Tables) (s : Pool ℕ Tables Phase) :
    Prop where
  before : IsValidated t₀ code → IsValidated s.store code ∧
    ∀ i, (calls i).code = code → s.proc i ≠ .passed ∧ ¬ Succeeded s i
  after : ¬ IsValidated t₀ code →
    (IsValidated s.store code ↔ ∃ i, (calls i).code = code ∧ Succeeded s i)

theorem valid_initial : Valid calls code t₀ (initial t₀) := by
  have hno : ∀ i, ¬ Succeeded (initial t₀) i := by
    rintro i ⟨updated, h⟩
    cases h
  refine ⟨fun h => ⟨h, fun i _ => ⟨?_, hno i⟩⟩, fun h => ?_⟩
  · intro hp
    cases hp
  · simp only [hno, and_false, exists_false, iff_false]
    exact h

/-- A read that passes or fails. -/
theorem valid_read (hv : Valid calls code t₀ s) {i : ℕ} {ph : Phase}
    (hph : ∀ updated, ph ≠ .returned updated) (hstart : s.proc i = .start)
    (hpass : ph = .passed → ¬ IsValidated s.store (calls i).code) (hs : s'.store = s.store)
    (hp : s'.proc = Function.update s.proc i ph) : Valid calls code t₀ s' := by
  have hsucc : ∀ j, Succeeded s' j ↔ Succeeded s j := fun j => succeeded_of_read hph hstart hp
  refine ⟨fun h => ?_, fun h => ?_⟩
  · obtain ⟨hval, hproc⟩ := hv.before h
    refine ⟨hs ▸ hval, fun j hj => ⟨?_, fun hsj => (hproc j hj).2 ((hsucc j).mp hsj)⟩⟩
    rw [hp]
    by_cases hji : j = i
    · subst hji
      rw [Function.update_self]
      intro hpassed
      exact hpass hpassed (hj ▸ hval)
    · rw [Function.update_of_ne hji]
      exact (hproc j hj).1
  · rw [hs, hv.after h]
    simp only [hsucc]

theorem valid_update (hv : Valid calls code t₀ s) {i : ℕ} {now : ℤ} {updated : VoucherRedemption}
    (hpassed : s.proc i = .passed) (hs : s'.store = update s.store (calls i) now)
    (hup : findByCode s'.store (calls i).code = some updated)
    (hp : s'.proc = Function.update s.proc i (.returned updated)) : Valid calls code t₀ s' := by
  rw [hs] at hup
  refine ⟨fun h => ?_, fun h => ?_⟩
  · obtain ⟨hval, hproc⟩ := hv.before h
    refine ⟨?_, fun j hj => ?_⟩
    · rw [hs, isValidated_update]
      exact .inl hval
    · have hji : j ≠ i := by
        rintro rfl
        exact (hproc j hj).1 hpassed
      rw [succeeded_of_update hp, hp, Function.update_of_ne hji]
      exact ⟨(hproc j hj).1, fun hor => hor.elim hji (hproc j hj).2⟩
  · rw [hs, isValidated_update, hv.after h]
    simp only [succeeded_of_update hp]
    constructor
    · rintro (⟨j, hj, hsj⟩ | ⟨rfl, -⟩)
      · exact ⟨j, hj, .inr hsj⟩
      · exact ⟨i, rfl, .inl rfl⟩
    · rintro ⟨j, hj, rfl | hsj⟩
      · subst hj
        exact .inr ⟨rfl, findByCode_isSome_of_update hup⟩
      · exact .inl ⟨j, hj, hsj⟩

theorem valid_step (hv : Valid calls code t₀ s) (h : poolStep (next calls) s a = some s') :
    Valid calls code t₀ s' := by
  rcases step_cases h with ⟨-, hs, hstart, ⟨hp, hnv⟩ | ⟨e, hp⟩⟩ | ⟨now, updated, -, hpassed, hs, hup, hp⟩
  · exact valid_read hv (by simp) hstart (fun _ => hnv) hs hp
  · exact valid_read hv (by simp) hstart (by simp) hs hp
  · exact valid_update hv hpassed hs hup hp

theorem valid_run {as : List (ℕ × Act)} (h : run (poolStep (next calls)) (initial t₀) as = some s) :
    Valid calls code t₀ s :=
  run_invariant (fun _ _ _ hv hs => valid_step hv hs) valid_initial h

/-! ### Runs whose updates are fresh -/

def AtMostOne (calls : ℕ → Verification) (code : String) (s : Pool ℕ Tables Phase) : Prop :=
  ∀ i j, (calls i).code = code → (calls j).code = code → Succeeded s i → Succeeded s j → i = j

/-- The first success on a code is the only one. -/
theorem atMostOne_step (hv : Valid calls code t₀ s) (ho : AtMostOne calls code s)
    (hf : Fresh code calls s a) (h : poolStep (next calls) s a = some s') :
    AtMostOne calls code s' := by
  rcases step_cases h with ⟨-, -, hstart, ⟨hp, -⟩ | ⟨e, hp⟩⟩ | ⟨now, updated, ha, hpassed, -, -, hp⟩
  · simp only [AtMostOne, succeeded_of_read (by simp) hstart hp]
    exact ho
  · simp only [AtMostOne, succeeded_of_read (by simp) hstart hp]
    exact ho
  · -- Before the update of `a.1` nobody has succeeded, if it is a call on the code.
    have hnone : (calls a.1).code = code → ∀ j, (calls j).code = code → ¬ Succeeded s j := by
      intro hcode j hj hsj
      have hnv := hf now ha hcode
      have h₀ : ¬ IsValidated t₀ code := fun h₀ => hnv (hv.before h₀).1
      exact hnv ((hv.after h₀).mpr ⟨j, hj, hsj⟩)
    intro i j hi hj hsi hsj
    rw [succeeded_of_update hp] at hsi hsj
    rcases hsi with rfl | hsi
    · rcases hsj with rfl | hsj
      · rfl
      · exact absurd hsj (hnone hi j hj)
    · rcases hsj with rfl | hsj
      · exact absurd hsi (hnone hj i hi)
      · exact ho i j hi hj hsi hsj

/-- A fresh update leaves a validated row as it is. -/
theorem frozen_step {row : Option VoucherRedemption}
    (hrow : IsValidated s.store code ∧ findByCode s.store code = row) (hf : Fresh code calls s a)
    (h : poolStep (next calls) s a = some s') :
    IsValidated s'.store code ∧ findByCode s'.store code = row := by
  rcases step_cases h with ⟨-, hs, -⟩ | ⟨now, updated, ha, -, hs, -⟩
  · rw [hs]
    exact hrow
  · have hcode : code ≠ (calls a.1).code := fun hcode => hf now ha hcode.symm hrow.1
    rw [hs, isValidated_update, findByCode_update, if_neg hcode]
    exact ⟨.inl hrow.1, hrow.2⟩

theorem verifiedOnce_of_fresh {as : List (ℕ × Act)}
    (hrun : run (poolStep (next calls)) (initial t₀) as = some s)
    (hf : Along (poolStep (next calls)) (Fresh code calls) (initial t₀) as) :
    VerifiedOnce calls code t₀ as s := by
  have hv : Valid calls code t₀ s := valid_run hrun
  have hinit : AtMostOne calls code (initial t₀) := by
    rintro i j - - ⟨updated, hu⟩
    cases hu
  have hone := run_invariant_along (I := fun s => Valid calls code t₀ s ∧ AtMostOne calls code s)
    (Fresh code calls) (fun s a s' hi hf h => ⟨valid_step hi.1 h, atMostOne_step hi.1 hi.2 hf h⟩)
    hf ⟨valid_initial, hinit⟩ hrun
  refine ⟨fun hval h₀ => ?_, fun hor i hi hsi => ?_, fun xs ys s₁ he hxs hval => ?_⟩
  · obtain ⟨i, hi, hsi⟩ := (hv.after h₀).mp hval
    exact ⟨i, ⟨hi, hsi⟩, fun j hj => hone.2 j i hj.1 hi hj.2 hsi⟩
  · by_cases h₀ : IsValidated t₀ code
    · exact ((hv.before h₀).2 i hi).2 hsi
    · exact hor.elim (fun hval => hval ((hv.after h₀).mpr ⟨i, hi, hsi⟩)) h₀
  · subst he
    obtain ⟨s₁', hxs', hys⟩ := run_append_eq_some.mp hrun
    rw [hxs] at hxs'
    cases hxs'
    have hfrozen := run_invariant_along (I := fun s => IsValidated s.store code ∧
      findByCode s.store code = findByCode s₁.store code) (Fresh code calls)
      (fun s a s' hi hf h => frozen_step hi hf h) (hf.of_append hxs) ⟨hval, rfl⟩ hys
    exact hfrozen.2

/-! ### Runs with a stale update -/

theorem succeeded_run {as : List (ℕ × Act)} (h : run (poolStep (next calls)) s as = some s') {i : ℕ}
    (hi : Succeeded s i) : Succeeded s' i :=
  run_invariant (fun _ _ _ hi h => succeeded_step h hi) hi h

/-- A call that updates a code which another has validated succeeds as well. -/
theorem fresh_of_verifiedOnce {as : List (ℕ × Act)}
    (hrun : run (poolStep (next calls)) (initial t₀) as = some s)
    (hv : VerifiedOnce calls code t₀ as s) :
    Along (poolStep (next calls)) (Fresh code calls) (initial t₀) as := by
  rw [along_iff]
  rintro xs ⟨i, act⟩ ys s₁ rfl hxs now rfl hcode hval
  dsimp only at hcode
  obtain ⟨s₁', hxs', hys⟩ := run_append_eq_some.mp hrun
  rw [hxs] at hxs'
  cases hxs'
  obtain ⟨s₂, h₂, hys⟩ := run_cons_eq_some.mp hys
  have hv₁ : Valid calls code t₀ s₁ := valid_run hxs
  rcases step_cases h₂ with ⟨⟨inc, hread⟩, -⟩ | ⟨_, updated, -, hpassed, -, -, hp⟩
  · cases hread
  · dsimp only at hpassed hp
    have h₀ : ¬ IsValidated t₀ code := fun h₀ => ((hv₁.before h₀).2 i hcode).1 hpassed
    obtain ⟨j, hj, hsj⟩ := (hv₁.after h₀).mp hval
    have hne : j ≠ i := by
      rintro rfl
      obtain ⟨_, hu⟩ := hsj
      rw [hpassed] at hu
      cases hu
    have hi₂ : Succeeded s₂ i := (succeeded_of_update hp).mpr (.inl rfl)
    have hj₂ : Succeeded s₂ j := (succeeded_of_update hp).mpr (.inr hsj)
    have hval' : IsValidated s.store code :=
      ((valid_run hrun).after h₀).mpr ⟨i, hcode, succeeded_run hys hi₂⟩
    obtain ⟨k, -, hk⟩ := hv.exactlyOne hval' h₀
    exact hne ((hk j ⟨hj, succeeded_run hys hj₂⟩).trans
      (hk i ⟨hcode, succeeded_run hys hi₂⟩).symm)

/-- CORRECT exactly while updates are fresh: after an interleaving of calls on any codes, a code that
    came to be validated was so by exactly one call and its row has not changed since, if and only if
    no call on it updated it once it was validated. -/
theorem verified_once_iff (calls : ℕ → Verification) (code : String) (t₀ : Tables)
    (as : List (ℕ × Act)) (s : Pool ℕ Tables Phase)
    (hrun : run (poolStep (next calls)) (initial t₀) as = some s) :
    VerifiedOnce calls code t₀ as s ↔
      Along (poolStep (next calls)) (Fresh code calls) (initial t₀) as :=
  ⟨fresh_of_verifiedOnce hrun, verifiedOnce_of_fresh hrun⟩

/-- A redemption at a counter, and the two who validate it: a member of the branch's staff, and the
    merchant's owner in the portal. -/
def counter : Tables :=
  ⟨[redemptionData ("user", "voucher") none ⟨1770282000000, "branch", "AAAA", 5⟩], fun _ => none⟩

def staffAndOwner : ℕ → Verification := fun i =>
  if i = 0 then ⟨"AAAA", .QR_SCAN, ⟨.branch, some "branch", "merchant", "staff"⟩, none⟩
  else ⟨"AAAA", .MANUAL, ⟨.merchant, none, "merchant", "owner"⟩, some ⟨true, []⟩⟩

def live : Included := ⟨"merchant", .ACTIVE, true⟩

/-- One after the other. -/
def inTurn : List (ℕ × Act) := [(0, .read live), (0, .update 1770282060000), (1, .read live)]

/-- The staff's call validates the code, the owner's fails. -/
theorem verified_once_iff_inTurn : ∃ s,
    run (poolStep (next staffAndOwner)) (initial counter) inTurn = some s ∧
      Succeeded s 0 ∧ s.proc 1 = .failed .ALREADY_VALIDATED ∧
      (VerifiedOnce staffAndOwner "AAAA" counter inTurn s ↔
        Along (poolStep (next staffAndOwner)) (Fresh "AAAA" staffAndOwner) (initial counter) inTurn) := by
  obtain ⟨s, hs, h0, h1⟩ : ∃ s,
      run (poolStep (next staffAndOwner)) (initial counter) inTurn = some s ∧
        Succeeded s 0 ∧ s.proc 1 = .failed .ALREADY_VALIDATED := ⟨_, rfl, ⟨_, rfl⟩, rfl⟩
  exact ⟨s, hs, h0, h1, verified_once_iff staffAndOwner "AAAA" counter inTurn s hs⟩

/-- Both read before either updates. -/
def together : List (ℕ × Act) :=
  [(0, .read live), (1, .read live), (0, .update 1770282060000), (1, .update 1770282061000)]

/-- Both succeed, and the owner's call wipes out the staff's. -/
theorem not_verified_once_together : ∃ s,
    run (poolStep (next staffAndOwner)) (initial counter) together = some s ∧
      Succeeded s 0 ∧ Succeeded s 1 ∧
      (findByCode s.store "AAAA").map (fun r => (r.validatedAt, r.validationMethod, r.validatedById))
        = some (some 1770282061000, some .MANUAL, none) ∧
      ¬ VerifiedOnce staffAndOwner "AAAA" counter together s := by
  obtain ⟨s, hs, h0, h1, hrow⟩ : ∃ s,
      run (poolStep (next staffAndOwner)) (initial counter) together = some s ∧
        Succeeded s 0 ∧ Succeeded s 1 ∧
        findByCode s.store "AAAA" = some (validated (staffAndOwner 1) 1770282061000
          (redemptionData ("user", "voucher") none ⟨1770282000000, "branch", "AAAA", 5⟩)) :=
    ⟨_, rfl, ⟨_, rfl⟩, ⟨_, rfl⟩, rfl⟩
  refine ⟨s, hs, h0, h1, by rw [hrow]; rfl, fun hv => ?_⟩
  have hnot : ¬ IsValidated counter "AAAA" := by
    rintro ⟨row, hrow, hval⟩
    cases hrow
    cases hval
  obtain ⟨i, -, hi⟩ := hv.exactlyOne ⟨_, hrow, rfl⟩ hnot
  have h01 : 0 = 1 := (hi 0 ⟨rfl, h0⟩).trans (hi 1 ⟨rfl, h1⟩).symm
  cases h01

end Redeemo.Verify
