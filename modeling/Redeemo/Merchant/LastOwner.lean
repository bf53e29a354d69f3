import Redeemo.Lib.ReadCommitted
import Redeemo.Merchant.Staff

/-! The last owner of a merchant, with any number of calls on its team at a time.

    A call reads who calls, the member it is about and the other owners one after the other, and then writes
    without a condition, in a transaction that holds the member's row until it ends. So the other owners that
    it has counted may be gone when it writes. -/

namespace Redeemo.LastOwner
open Fallible ReadCommitted Runs Staff

variable {ι : Type*} [DecidableEq ι]

inductive Call
  | updateMemberAccess (adminId memberId : ℕ) (parsed : Access)
  | deactivateMember (adminId memberId : ℕ)
  | removeMember (adminId memberId : ℕ)

/-- What no call writes. -/
structure World where
  merchants : List Merchant
  branches : List OwnedBranch
  /-- The ids of the memberships. -/
  ids : List ℕ

abbrev Store (ι : Type*) := Table ι ℕ Member

inductive Failure
  | app (e : AppError)
  /-- A crash, or a failed statement. -/
  | aborted
  deriving DecidableEq

/-- How far a call has come, and what it has read. -/
inductive Phase
  | start
  | owner (ctx : MerchantContext)
  | resolved (merchantId : ℕ)
  | loaded (merchantId : ℕ) (target : Member)
  | checked (target : Member)
  | written (target : Member)
  | returned
  | failed (e : Failure)

inductive Act
  | statement
  | abandon

namespace Call

def adminId : Call → ℕ
  | .updateMemberAccess adminId _ _ => adminId
  | .deactivateMember adminId _ => adminId
  | .removeMember adminId _ => adminId

def memberId : Call → ℕ
  | .updateMemberAccess _ memberId _ => memberId
  | .deactivateMember _ memberId => memberId
  | .removeMember _ memberId => memberId

/-- What is checked of the caller besides. -/
def checkCaller (ctx : MerchantContext) : Call → Except AppError Unit
  | .updateMemberAccess _ _ parsed => assertRoleElevationAllowed ctx parsed
  | _ => .ok ()

/-- What is checked of the target, with the count of the other owners. -/
def checkTarget (w : World) (members : List Member) (merchantId : ℕ) (target : Member) : Call → Except AppError Unit
  | .updateMemberAccess _ _ parsed => do
    checkDemotion members merchantId target parsed
    assertBranchesOwned w.branches merchantId parsed.wantBranchIds
  | _ => checkDeparture members merchantId target

def apply : Call → Member → Member
  | .updateMemberAccess _ _ parsed => Member.withAccess parsed
  | .deactivateMember _ _ => Member.deactivate
  | .removeMember _ _ => Member.remove

end Call

def Phase.over : Phase → Bool
  | .returned => true
  | .failed _ => true
  | _ => false

def after {σ : Type*} (x : Except AppError σ) (phase : σ → Phase) : Phase :=
  match x with
  | .ok a => phase a
  | .error e => .failed (.app e)

/-- The memberships as transaction `i` reads them. -/
def visible (w : World) (t : Store ι) (i : ι) : List Member := w.ids.filterMap (t.read i)

/-- The call's next statement. -/
def statement (w : World) (call : Call) (i : ι) (t : Store ι) : Phase → Option (Store ι × Phase)
  | .start => some (t, after (ownerCtx (accountsOf w.merchants (visible w t i)) call.adminId) .owner)
  | .owner ctx => some (t, after (do
      let merchantId ← resolveAdminMerchant (accountsOf w.merchants (visible w t i)) call.adminId
      call.checkCaller ctx
      return merchantId) .resolved)
  | .resolved merchantId => some (t, after (loadTarget (visible w t i) merchantId call.memberId) (.loaded merchantId))
  | .loaded merchantId target =>
    some (t, after (call.checkTarget w (visible w t i) merchantId target) fun _ => .checked target)
  | .checked target => (t.write i target.id (Option.map call.apply)).map fun t' => (t', .written target)
  | .written _ => some (t.commit i, .returned)
  | _ => none

def next (w : World) (calls : ι → Call) (i : ι) (t : Store ι) (phase : Phase) : Act → Option (Store ι × Phase)
  | .statement => statement w (calls i) i t phase
  | .abandon => if phase.over = true then none else some (t.rollback i, .failed .aborted)

/-- The members of a team, and no call has begun. -/
def opened (members : List Member) : Pool ι (Store ι) Phase :=
  ⟨⟨fun k => ⟨members.find? fun m => m.id = k, none⟩⟩, fun _ => .start⟩

def HasOwner (merchantId : ℕ) (t : Store ι) : Prop := ∃ k, ∃ m ∈ t.rows k, ActiveOwner merchantId m

/-- A call commits what it has written about an owner of the merchant, who is one no longer then, while a
    count of the other owners would not let it. -/
def Dethrones (w : World) (merchantId : ℕ) (call : Call) (t : Store ι) (phase : Phase) : Act → Prop
  | .statement => ∃ target, phase = .written target ∧
    (∃ m ∈ t.rows target.id, ActiveOwner merchantId m ∧ ¬ ActiveOwner merchantId (call.apply m)) ∧
    assertNotLastOwner (w.ids.filterMap t.rows) merchantId target.id = .error .LAST_OWNER_PROTECTED
  | .abandon => False

/-! ### What a step does -/

section
variable {w : World} {calls : ι → Call} {call : Call} {t t' : Store ι} {i j : ι} {phase phase' : Phase} {a : Act}
  {merchantId : ℕ}

/-- What the call has made of each row so far. -/
def pending (call : Call) : Phase → ℕ → Option (Option Member → Option Member)
  | .written target => Function.update (fun _ => none) target.id (some (Option.map call.apply))
  | _ => fun _ => none

/-- Every row is under its own id, among those of the team. -/
def Listed (w : World) (t : Store ι) : Prop := ∀ k, ∀ m ∈ t.rows k, m.id = k ∧ k ∈ w.ids

/-- The committed rows after a step. -/
def rowsAfter (call : Call) (t : Store ι) : Phase → Act → ℕ → Option Member
  | .written target, .statement => Function.update t.rows target.id ((t.rows target.id).map call.apply)
  | _, _ => t.rows

theorem apply_id (m : Member) : (call.apply m).id = m.id := by
  cases call with
  | updateMemberAccess _ _ _ | deactivateMember _ _ | removeMember _ _ => rfl

theorem pending_after {σ : Type*} {x : Except AppError σ} {f : σ → Phase}
    (hf : ∀ a, pending call (f a) = fun _ => none) :
    pending call (after x f) = fun _ => none := by
  cases x with
  | ok a => exact hf a
  | error e => rfl

/-- A step reads, writes one row, or commits. -/
theorem next_ok (hheld : t.Holds i (pending (calls i) phase)) (h : next w calls i t phase a = some (t', phase')) :
    t.Moves i t' ∧ t'.rows = rowsAfter (calls i) t phase a ∧ t'.Holds i (pending (calls i) phase') := by
  cases a with
  | abandon =>
    rw [next] at h
    split_ifs at h
    cases h
    obtain ⟨hmoves, hrows, hfree⟩ := Table.holds_rollback (t := t) (i := i)
    refine ⟨hmoves, hrows.trans ?_, hfree⟩
    cases phase with
    | _ => rfl
  | statement =>
    cases phase with
    | start =>
      cases h
      exact ⟨Table.Moves.refl, rfl, (pending_after (f := .owner) fun _ => rfl).symm ▸ hheld⟩
    | owner ctx =>
      cases h
      exact ⟨Table.Moves.refl, rfl, (pending_after (f := .resolved) fun _ => rfl).symm ▸ hheld⟩
    | resolved merchantId =>
      cases h
      exact ⟨Table.Moves.refl, rfl, (pending_after (f := .loaded merchantId) fun _ => rfl).symm ▸ hheld⟩
    | loaded merchantId target =>
      cases h
      exact ⟨Table.Moves.refl, rfl, (pending_after (f := fun _ => .checked target) fun _ => rfl).symm ▸ hheld⟩
    | checked target =>
      obtain ⟨t', hwrite, h⟩ := Option.map_eq_some_iff.mp h
      cases h
      exact hheld.writeRow hwrite
    | written target =>
      cases h
      exact hheld.commitRow
    | returned => cases h
    | failed e => cases h

omit [DecidableEq ι] in
theorem rowsAfter_eq_some {m : Member} {k : ℕ} (h : rowsAfter call t phase a k = some m) :
    ∃ m₀, t.rows k = some m₀ ∧ m₀.id = m.id := by
  unfold rowsAfter at h
  split at h
  · rename_i target
    rcases eq_or_ne k target.id with rfl | hk
    · rw [Function.update_self] at h
      obtain ⟨m₀, hm₀, rfl⟩ := Option.map_eq_some_iff.mp h
      exact ⟨m₀, hm₀, (apply_id m₀).symm⟩
    · rw [Function.update_of_ne hk] at h
      exact ⟨m, h, rfl⟩
  · exact ⟨m, h, rfl⟩

omit [DecidableEq ι] in
theorem Listed.next (hl : Listed w t) (hrows : t'.rows = rowsAfter call t phase a) : Listed w t' := by
  intro k m hm
  rw [hrows] at hm
  obtain ⟨m₀, hm₀, hid⟩ := rowsAfter_eq_some hm
  rw [← hid]
  exact hl k m₀ hm₀

omit [DecidableEq ι] in
/-- The count finds no other owner exactly if there is none. -/
theorem assertNotLastOwner_error_iff (hl : Listed w t) {memberId : ℕ} :
    assertNotLastOwner (w.ids.filterMap t.rows) merchantId memberId = .error .LAST_OWNER_PROTECTED ↔
      ∀ k, k ≠ memberId → ∀ m ∈ t.rows k, ¬ ActiveOwner merchantId m := by
  have hcount : assertNotLastOwner (w.ids.filterMap t.rows) merchantId memberId = .error .LAST_OWNER_PROTECTED ↔
      (w.ids.filterMap t.rows).countP (fun m => ActiveOwner merchantId m ∧ m.id ≠ memberId) = 0 := by
    rw [assertNotLastOwner, rejectIf]
    split_ifs with hzero
    · exact iff_of_true rfl hzero
    · exact iff_of_false (fun h => by cases h) hzero
  rw [hcount, List.countP_eq_zero]
  simp only [decide_eq_true_eq]
  constructor
  · intro h k hk m hm howner
    obtain ⟨hid, hmem⟩ := hl k m hm
    exact h m (List.mem_filterMap.mpr ⟨k, hmem, hm⟩) ⟨howner, hid ▸ hk⟩
  · rintro h m hm ⟨howner, hne⟩
    obtain ⟨k, -, hk⟩ := List.mem_filterMap.mp hm
    exact h k ((hl k m hk).1 ▸ hne) m hk howner

omit [DecidableEq ι] in
/-- A step leaves the merchant an owner exactly if it does not dethrone the last one. -/
theorem hasOwner_next (hl : Listed w t) (howner : HasOwner merchantId t) (hrows : t'.rows = rowsAfter call t phase a) :
    HasOwner merchantId t' ↔ ¬ Dethrones w merchantId call t phase a := by
  have hsame (hno : ¬ Dethrones w merchantId call t phase a) (he : rowsAfter call t phase a = t.rows) :
      HasOwner merchantId t' ↔ ¬ Dethrones w merchantId call t phase a := by
    refine iff_of_true ?_ hno
    rw [HasOwner, hrows, he]
    exact howner
  cases a with
  | abandon => exact hsame id (by cases phase <;> rfl)
  | statement =>
    cases phase with
    | written target =>
      have hself : t'.rows target.id = (t.rows target.id).map call.apply := by
        rw [hrows, rowsAfter, Function.update_self]
      have hother {k : ℕ} (hk : k ≠ target.id) : t'.rows k = t.rows k := by
        rw [hrows, rowsAfter, Function.update_of_ne hk]
      constructor
      · rintro ⟨k, m, hm, howns⟩ ⟨_, hphase, ⟨m₀, hm₀, -, hends⟩, hlast⟩
        cases hphase
        rcases eq_or_ne k target.id with rfl | hk
        · rw [hself, Option.mem_def.mp hm₀] at hm
          exact hends (Option.some.inj hm ▸ howns)
        · rw [hother hk] at hm
          exact (assertNotLastOwner_error_iff hl).mp hlast k hk m hm howns
      · intro hno
        by_contra hnone
        obtain ⟨k, m, hm, howns⟩ := howner
        have hk : k = target.id := by
          by_contra hk
          exact hnone ⟨k, m, (hother hk).symm ▸ hm, howns⟩
        subst hk
        refine hno ⟨target, rfl, ⟨m, hm, howns, fun hends => hnone ⟨target.id, call.apply m, ?_, hends⟩⟩, ?_⟩
        · rw [hself, Option.mem_def.mp hm]
          rfl
        · refine (assertNotLastOwner_error_iff hl).mpr fun k hk m' hm' howns' => ?_
          exact hnone ⟨k, m', (hother hk).symm ▸ hm', howns'⟩
    | _ => exact hsame (fun ⟨_, hphase, _⟩ => by cases hphase) rfl

/-- Every row is under its own id, and every call holds the row that it has written. -/
abbrev Inv (w : World) (calls : ι → Call) : Pool ι (Store ι) Phase → Prop :=
  PoolInv (Listed w) fun i t phase => t.Holds i (pending (calls i) phase)

theorem inv_step (s : Pool ι (Store ι) Phase) (a : ι × Act) (s' : Pool ι (Store ι) Phase) (hs : Inv w calls s)
    (h : poolStep (next w calls) s a = some s') : Inv w calls s' := by
  refine poolInv_step (fun i t phase a t' phase' hl hk h => ?_) (fun i j t phase m a t' phase' hne _ hk hkj h => ?_)
    s a s' hs h
  · obtain ⟨-, hrows, hheld⟩ := next_ok hk h
    exact ⟨hl.next hrows, hheld⟩
  · exact hkj.frame (next_ok hk h).1 hne

omit [DecidableEq ι] in
theorem inv_opened {members : List Member} (hids : w.ids = members.map fun m => m.id) :
    Inv w calls (opened members) := by
  refine ⟨fun k m hm => ?_, fun i k => Cell.free_of_held_none rfl⟩
  obtain ⟨hmem, hid⟩ := Rows.find_some hm
  exact ⟨hid, hids ▸ hid ▸ List.mem_map_of_mem hmem⟩

/-- CORRECT: throughout an interleaving of any number of calls the merchant has an ACTIVE owner, exactly if no call
    commits its write on an owner whom it would not be let, were the other owners counted then. -/
theorem owner_remains_iff {members : List Member} {as : List (ι × Act)} (hids : w.ids = members.map fun m => m.id)
    (howner : HasOwner merchantId (opened members : Pool ι (Store ι) Phase).store) :
    Throughout (poolStep (next w calls)) (fun s => HasOwner merchantId s.store) (opened members) as ↔
      Along (poolStep (next w calls)) (fun s a => ¬ Dethrones w merchantId (calls a.1) s.store (s.proc a.1) a.2)
        (opened members) as := by
  refine throughout_iff_along_of_refused (fun s a hnone hdethrones => ?_) inv_step (fun s a s' hk hi h => ?_)
    (inv_opened hids) howner
  · rw [poolStep, Option.map_eq_none_iff] at hnone
    obtain ⟨i, a⟩ := a
    cases a with
    | abandon => exact hdethrones
    | statement =>
      obtain ⟨target, hphase, -⟩ := hdethrones
      rw [next, hphase] at hnone
      cases hnone
  · obtain ⟨t', phase', hnext, rfl⟩ := poolStep_eq_some.mp h
    exact hasOwner_next hk.1 hi (next_ok (hk.2 a.1) hnext).2.1

end

/-! ### Two owners deactivate each other -/

def partners : List Member := [member 2 0 .OWNER, member 3 1 .OWNER]

def partnership : World := ⟨[⟨0, .ACTIVE, .LIVE⟩], [], [2, 3]⟩

/-- Each deactivates the other. -/
def eachOther : Bool → Call
  | false => .deactivateMember 0 3
  | true => .deactivateMember 1 2

/-- Both count the other owner before either writes. -/
def skewed : List (Bool × Act) :=
  [(false, .statement), (false, .statement), (false, .statement), (false, .statement), (true, .statement),
    (true, .statement), (true, .statement), (true, .statement), (false, .statement), (false, .statement),
    (true, .statement), (true, .statement)]

theorem both_owners_deactivated :
    HasOwner 0 (opened partners : Pool Bool (Store Bool) Phase).store ∧
      ∃ s, run (poolStep (next partnership eachOther)) (opened partners) skewed = some s ∧ ¬ HasOwner 0 s.store := by
  refine ⟨⟨2, member 2 0 .OWNER, rfl, by decide⟩, ?_⟩
  have hnone : ((run (poolStep (next partnership eachOther)) (opened partners) skewed).any fun s =>
      partnership.ids.all fun k => (s.store.rows k).all fun m => ¬ ActiveOwner 0 m) = true := by decide +kernel
  obtain ⟨s, hrun, hnone⟩ := (Option.any_eq_true _ _).mp hnone
  refine ⟨s, hrun, fun ⟨k, m, hm, howns⟩ => ?_⟩
  have hlisted : Listed partnership s.store := (run_invariant inv_step (inv_opened rfl) hrun).1
  have hk := List.all_eq_true.mp hnone k (hlisted k m hm).2
  rw [Option.mem_def.mp hm, Option.all_some, decide_eq_true_iff] at hk
  exact hk howns

theorem owner_remains_iff_skewed :
    Throughout (poolStep (next partnership eachOther)) (fun s => HasOwner 0 s.store) (opened partners) skewed ↔
      Along (poolStep (next partnership eachOther))
        (fun s a => ¬ Dethrones partnership 0 (eachOther a.1) s.store (s.proc a.1) a.2) (opened partners) skewed :=
  owner_remains_iff rfl ⟨2, member 2 0 .OWNER, rfl, by decide⟩

end Redeemo.LastOwner
