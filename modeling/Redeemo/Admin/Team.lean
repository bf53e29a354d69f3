import Redeemo.Lib.Fallible
import Redeemo.Lib.ReadCommitted
import Redeemo.Lib.Rows
import Redeemo.Lib.Runs
import Redeemo.Shared.Errors
import Redeemo.Shared.Schema

/-! The admin team: base roles, deactivation, and the last super admin.

    A transaction reads the role of its target, and where that is SUPER_ADMIN it takes the advisory lock before it
    counts the other active super admins. The lock is held until the transaction ends, so the count stays true; a
    role that was read before the lock may be out of date, but nobody becomes a super admin by these transactions. -/

namespace Redeemo.Team
open Fallible ReadCommitted Runs

def ASSIGNABLE_ROLES : List AdminRole := [.OPERATIONS, .FINANCE, .CONTENT, .SUPPORT, .FIELD]

def isAssignableRole (role : AdminRole) : Bool := role ∈ ASSIGNABLE_ROLES

/-- A role that a request may name. -/
abbrev AssignableRole := { role : AdminRole // isAssignableRole role = true }

theorem AssignableRole.ne_super (role : AssignableRole) : role.val ≠ .SUPER_ADMIN := by
  obtain ⟨role, h⟩ := role
  rintro rfl
  exact absurd h (by decide)

structure AdminUser where
  id : ℕ
  role : AdminRole
  isActive : Bool
  deriving DecidableEq

inductive Call
  | setAdminRole (actorId targetAdminId : ℕ) (role : AssignableRole)
  | deactivateAdmin (actorId targetAdminId : ℕ)

namespace Call

def actorId : Call → ℕ
  | .setAdminRole actorId _ _ => actorId
  | .deactivateAdmin actorId _ => actorId

def targetAdminId : Call → ℕ
  | .setAdminRole _ targetAdminId _ => targetAdminId
  | .deactivateAdmin _ targetAdminId => targetAdminId

/-- What is checked before the transaction. -/
def check : Call → Except AppError Unit
  | .setAdminRole _ _ _ => .ok ()
  | .deactivateAdmin actorId targetAdminId => rejectIf (actorId = targetAdminId) .ADMIN_SELF_ACTION_FORBIDDEN

def apply : Call → AdminUser → AdminUser
  | .setAdminRole _ _ role, a => { a with role := role.val }
  | .deactivateAdmin _ _, a => { a with isActive := false }

end Call

inductive AuditEvent
  | ADMIN_ROLE_CHANGED (before after : AdminRole)
  | ADMIN_ACCOUNT_DEACTIVATED (before : Bool)
  deriving DecidableEq

structure AuditRow where
  entityId : ℕ
  event : AuditEvent
  actorId : ℕ
  deriving DecidableEq

/-- The row of a call that has found `target`. -/
def auditRow (target : AdminUser) : Call → AuditRow
  | .setAdminRole actorId targetAdminId role =>
    ⟨targetAdminId, .ADMIN_ROLE_CHANGED target.role role.val, actorId⟩
  | .deactivateAdmin actorId targetAdminId =>
    ⟨targetAdminId, .ADMIN_ACCOUNT_DEACTIVATED target.isActive, actorId⟩

/-- The database. -/
structure Store (ι : Type*) where
  admins : Table ι ℕ AdminUser
  /-- The transaction that holds the advisory lock `admin:super-admin-set`. -/
  superAdminSet : Option ι
  auditLog : List AuditRow

inductive Failure
  | app (e : AppError)
  /-- A crash, or a failed statement. -/
  | aborted
  deriving DecidableEq

/-- How far a call has come, and the target as it has read it. -/
inductive Phase
  | start
  | begun
  | found (target : AdminUser)
  | locked (target : AdminUser)
  | guarded (target : AdminUser)
  | written (target : AdminUser)
  /-- The audit row is inserted. -/
  | audited (target : AdminUser)
  | returned
  | failed (e : Failure)
  deriving DecidableEq

inductive Act
  | statement
  | abandon
  deriving DecidableEq

def Phase.over : Phase → Bool
  | .returned => true
  | .failed _ => true
  | _ => false

variable {ι : Type*} [DecidableEq ι]

/-- The end of transaction `i` lets go of the lock. -/
def release (holder : Option ι) (i : ι) : Option ι := if holder = some i then none else holder

def rollback (i : ι) (s : Store ι) : Store ι :=
  { s with admins := s.admins.rollback i, superAdminSet := release s.superAdminSet i }

/-- The active super admins but for one, as transaction `i` reads them; `ids` are the ids of the accounts. -/
def otherActiveSupers (ids : List ℕ) (admins : Table ι ℕ AdminUser) (i : ι) (targetAdminId : ℕ) : ℕ :=
  (ids.filterMap (admins.read i)).countP fun a => a.role = .SUPER_ADMIN ∧ a.isActive = true ∧ a.id ≠ targetAdminId

/-- The call's next statement. -/
def statement (ids : List ℕ) (call : Call) (i : ι) (s : Store ι) : Phase → Option (Store ι × Phase)
  | .start =>
    match call.check with
    | .ok () => some (s, .begun)
    | .error e => some (s, .failed (.app e))
  | .begun =>
    match s.admins.read i call.targetAdminId with
    | some target => some (s, .found target)
    | none => some (rollback i s, .failed (.app .ADMIN_NOT_FOUND))
  | .found target =>
    if target.role ≠ .SUPER_ADMIN then some (s, .guarded target)
    else if s.superAdminSet = none then some ({ s with superAdminSet := some i }, .locked target)
    else none
  | .locked target =>
    if otherActiveSupers ids s.admins i call.targetAdminId = 0 then
      some (rollback i s, .failed (.app .LAST_SUPER_ADMIN_PROTECTED))
    else some (s, .guarded target)
  | .guarded target =>
    (s.admins.write i call.targetAdminId (Option.map call.apply)).map fun admins =>
      ({ s with admins := admins }, .written target)
  | .written target => some (s, .audited target)
  | .audited target =>
    some (⟨s.admins.commit i, release s.superAdminSet i, auditRow target call :: s.auditLog⟩, .returned)
  | .returned => none
  | .failed _ => none

def next (ids : List ℕ) (calls : ι → Call) (i : ι) (s : Store ι) (phase : Phase) : Act → Option (Store ι × Phase)
  | .statement => statement ids (calls i) i s phase
  | .abandon => if phase.over = true then none else some (rollback i s, .failed .aborted)

/-- The accounts of a team, and no call has begun. -/
def opened (admins : List AdminUser) : Pool ι (Store ι) Phase :=
  ⟨⟨⟨fun k => ⟨admins.find? fun a => a.id = k, none⟩⟩, none, []⟩, fun _ => .start⟩

def ActiveSuper (a : AdminUser) : Prop := a.role = .SUPER_ADMIN ∧ a.isActive = true

def HasSuper (t : Table ι ℕ AdminUser) : Prop := ∃ k, ∃ a ∈ t.rows k, ActiveSuper a

/-! ### What a step does -/

section
variable {ids : List ℕ} {calls : ι → Call} {call : Call} {s s' : Store ι} {t : Table ι ℕ AdminUser} {i j : ι}
  {phase phase' : Phase} {a : Act} {k : ℕ}

/-- What the call has made of each row so far. -/
def pending (call : Call) : Phase → ℕ → Option (Option AdminUser → Option AdminUser)
  | .written _ => Function.update (fun _ => none) call.targetAdminId (some (Option.map call.apply))
  | .audited _ => Function.update (fun _ => none) call.targetAdminId (some (Option.map call.apply))
  | _ => fun _ => none

/-- The committed rows after a step. -/
def rowsAfter (call : Call) (t : Table ι ℕ AdminUser) : Phase → Act → ℕ → Option AdminUser
  | .audited _, .statement =>
    Function.update t.rows call.targetAdminId ((t.rows call.targetAdminId).map call.apply)
  | _, _ => t.rows

/-- Every row is under its own id, among those of the team. -/
def Listed (ids : List ℕ) (t : Table ι ℕ AdminUser) : Prop := ∀ k, ∀ a ∈ t.rows k, a.id = k ∧ k ∈ ids

def OtherSuper (t : Table ι ℕ AdminUser) (k : ℕ) : Prop := ∃ l, l ≠ k ∧ ∃ a ∈ t.rows l, ActiveSuper a

def NotSuper (t : Table ι ℕ AdminUser) (k : ℕ) : Prop := ∀ a ∈ t.rows k, a.role ≠ .SUPER_ADMIN

/-- What a call has to rely on when it commits: the lock and another super admin, or a target that is none. -/
def Secured (call : Call) (i : ι) (s : Store ι) : Prop :=
  (s.superAdminSet = some i ∧ OtherSuper s.admins call.targetAdminId) ∨ NotSuper s.admins call.targetAdminId

/-- What is true of what a call has read. -/
def Known (call : Call) (i : ι) (s : Store ι) : Phase → Prop
  | .found target => target.role ≠ .SUPER_ADMIN → NotSuper s.admins call.targetAdminId
  | .locked _ => s.superAdminSet = some i
  | .guarded _ => Secured call i s
  | .written _ => Secured call i s
  | .audited _ => Secured call i s
  | _ => True

theorem apply_id (x : AdminUser) : (call.apply x).id = x.id := by
  cases call with
  | setAdminRole _ _ _ | deactivateAdmin _ _ => rfl

/-- No call makes a super admin. -/
theorem apply_role {x : AdminUser} (h : x.role ≠ .SUPER_ADMIN) : (call.apply x).role ≠ .SUPER_ADMIN := by
  cases call with
  | setAdminRole _ _ role => exact role.ne_super
  | deactivateAdmin _ _ => exact h

theorem rollback_ok : s.admins.Moves i (rollback i s).admins ∧ (rollback i s).admins.rows = s.admins.rows ∧
    (rollback i s).admins.Holds i (fun _ => none) := Table.holds_rollback

/-- A step reads, writes one row, or commits. -/
theorem next_ok (hheld : s.admins.Holds i (pending (calls i) phase))
    (h : next ids calls i s phase a = some (s', phase')) :
    s.admins.Moves i s'.admins ∧ s'.admins.rows = rowsAfter (calls i) s.admins phase a ∧
      s'.admins.Holds i (pending (calls i) phase') := by
  cases a with
  | abandon =>
    rw [next] at h
    split_ifs at h
    cases h
    refine ⟨rollback_ok.1, rollback_ok.2.1.trans ?_, rollback_ok.2.2⟩
    cases phase with
    | _ => rfl
  | statement =>
    cases phase with
    | start =>
      rw [next, statement] at h
      split at h <;> cases h <;> exact ⟨Table.Moves.refl, rfl, hheld⟩
    | begun =>
      rw [next, statement] at h
      split at h <;> cases h
      · exact ⟨Table.Moves.refl, rfl, hheld⟩
      · exact rollback_ok
    | found target =>
      rw [next, statement] at h
      split_ifs at h <;> cases h <;> exact ⟨Table.Moves.refl, rfl, hheld⟩
    | locked target =>
      rw [next, statement] at h
      split_ifs at h <;> cases h
      · exact rollback_ok
      · exact ⟨Table.Moves.refl, rfl, hheld⟩
    | guarded target =>
      obtain ⟨t', hwrite, h⟩ := Option.map_eq_some_iff.mp h
      cases h
      exact hheld.writeRow hwrite
    | written target =>
      cases h
      exact ⟨Table.Moves.refl, rfl, hheld⟩
    | audited target =>
      cases h
      exact hheld.commitRow
    | returned => cases h
    | failed e => cases h

omit [DecidableEq ι] in
theorem rowsAfter_eq_some {x : AdminUser} (h : rowsAfter call t phase a k = some x) :
    t.rows k = some x ∨ k = call.targetAdminId ∧ ∃ x₀, t.rows k = some x₀ ∧ x = call.apply x₀ := by
  unfold rowsAfter at h
  split at h
  · rcases eq_or_ne k call.targetAdminId with rfl | hk
    · rw [Function.update_self] at h
      obtain ⟨x₀, hx₀, rfl⟩ := Option.map_eq_some_iff.mp h
      exact .inr ⟨rfl, x₀, hx₀, rfl⟩
    · rw [Function.update_of_ne hk] at h
      exact .inl h
  · exact .inl h

omit [DecidableEq ι] in
theorem Listed.next {t' : Table ι ℕ AdminUser} (hl : Listed ids t) (hrows : t'.rows = rowsAfter call t phase a) :
    Listed ids t' := by
  intro k x hx
  rw [hrows] at hx
  rcases rowsAfter_eq_some hx with hx | ⟨-, x₀, hx₀, rfl⟩
  · exact hl k x hx
  · rw [apply_id]
    exact hl k x₀ hx₀

omit [DecidableEq ι] in
theorem NotSuper.next {t' : Table ι ℕ AdminUser} (hn : NotSuper t k) (hrows : t'.rows = rowsAfter call t phase a) :
    NotSuper t' k := by
  intro x hx
  rw [hrows] at hx
  rcases rowsAfter_eq_some hx with hx | ⟨-, x₀, hx₀, rfl⟩
  · exact hn x hx
  · exact apply_role (hn x₀ hx₀)

omit [DecidableEq ι] in
/-- A row stays as it is unless the call commits on it. -/
theorem rowsAfter_of_ne (h : (∃ target, phase = .audited target ∧ a = .statement) → k ≠ call.targetAdminId) :
    rowsAfter call t phase a k = t.rows k := by
  unfold rowsAfter
  split
  · exact Function.update_of_ne (h ⟨_, rfl, rfl⟩) ..
  · rfl

omit [DecidableEq ι] in
/-- A call that commits on a target that is no super admin leaves the super admins alone. -/
theorem OtherSuper.next {t' : Table ι ℕ AdminUser} (ho : OtherSuper t k)
    (hn : (∃ target, phase = .audited target ∧ a = .statement) → NotSuper t call.targetAdminId)
    (hrows : t'.rows = rowsAfter call t phase a) : OtherSuper t' k := by
  obtain ⟨l, hl, x, hx, hsuper⟩ := ho
  refine ⟨l, hl, x, ?_, hsuper⟩
  rw [hrows, rowsAfter_of_ne]
  · exact hx
  · rintro hcommit rfl
    exact hn hcommit x hx hsuper.1

/-! ### The lock -/

/-- A step leaves the lock, takes it, or lets go of its own. -/
theorem lock_next (h : next ids calls i s phase a = some (s', phase')) :
    s'.superAdminSet = s.superAdminSet ∨
      (s.superAdminSet = none ∧ s'.superAdminSet = some i) ∨ s'.superAdminSet = release s.superAdminSet i := by
  cases a with
  | abandon =>
    rw [next] at h
    split_ifs at h
    cases h
    exact .inr (.inr rfl)
  | statement =>
    cases phase with
    | start =>
      rw [next, statement] at h
      split at h <;> cases h <;> exact .inl rfl
    | begun =>
      rw [next, statement] at h
      split at h <;> cases h
      · exact .inl rfl
      · exact .inr (.inr rfl)
    | found target =>
      rw [next, statement] at h
      split_ifs at h with hrole hfree
      · cases h
        exact .inl rfl
      · cases h
        exact .inr (.inl ⟨hfree, rfl⟩)
    | locked target =>
      rw [next, statement] at h
      split_ifs at h <;> cases h
      · exact .inr (.inr rfl)
      · exact .inl rfl
    | guarded target =>
      obtain ⟨t', -, h⟩ := Option.map_eq_some_iff.mp h
      cases h
      exact .inl rfl
    | written target =>
      cases h
      exact .inl rfl
    | audited target =>
      cases h
      exact .inr (.inr rfl)
    | returned => cases h
    | failed e => cases h

/-- The others leave it to its holder. -/
theorem lock_frame (hne : i ≠ j) (h : next ids calls i s phase a = some (s', phase'))
    (hj : s.superAdminSet = some j) : s'.superAdminSet = some j := by
  rcases lock_next h with hsame | ⟨hnone, -⟩ | hrelease
  · exact hsame.trans hj
  · cases hnone.symm.trans hj
  · rw [hrelease, release, hj, if_neg fun he => hne (Option.some.inj he).symm]

/-! ### What a call relies on -/

theorem Secured.frame (hne : i ≠ j) (h : next ids calls i s phase a = some (s', phase'))
    (hrows : s'.admins.rows = rowsAfter (calls i) s.admins phase a) (hk : Known (calls i) i s phase)
    (hj : Secured call j s) : Secured call j s' := by
  rcases hj with ⟨hlock, hother⟩ | hnot
  · refine .inl ⟨lock_frame hne h hlock, hother.next ?_ hrows⟩
    rintro ⟨target, rfl, -⟩
    -- The lock is taken, so a call that commits meanwhile has found no super admin.
    rcases hk with ⟨hmine, -⟩ | hnot
    · exact absurd (Option.some.inj (hmine.symm.trans hlock)) hne
    · exact hnot
  · exact .inr (hnot.next hrows)

theorem Known.frame (hne : i ≠ j) (h : next ids calls i s phase a = some (s', phase'))
    (hrows : s'.admins.rows = rowsAfter (calls i) s.admins phase a) (hk : Known (calls i) i s phase)
    {other : Phase} (hj : Known call j s other) : Known call j s' other := by
  cases other with
  | found target => exact fun hrole => (hj hrole).next hrows
  | locked target => exact lock_frame hne h hj
  | guarded target => exact Secured.frame hne h hrows hk hj
  | written target => exact Secured.frame hne h hrows hk hj
  | audited target => exact Secured.frame hne h hrows hk hj
  | _ => trivial

/-- The count of a transaction that has written nothing yet. -/
theorem otherSuper_of_count (hl : Listed ids s.admins) (hheld : s.admins.Holds i (fun _ => none))
    (hcount : otherActiveSupers ids s.admins i k ≠ 0) : OtherSuper s.admins k := by
  rw [otherActiveSupers, ← Nat.pos_iff_ne_zero, List.countP_pos_iff] at hcount
  obtain ⟨x, hmem, hx⟩ := hcount
  obtain ⟨l, -, hread⟩ := List.mem_filterMap.mp hmem
  rw [hheld.read_of_none rfl] at hread
  simp only [decide_eq_true_eq] at hx
  refine ⟨l, ?_, x, hread, hx.1, hx.2.1⟩
  rw [← (hl l x hread).1]
  exact hx.2.2

theorem known_next (hl : Listed ids s.admins) (hheld : s.admins.Holds i (pending (calls i) phase))
    (hk : Known (calls i) i s phase) (h : next ids calls i s phase a = some (s', phase')) :
    Known (calls i) i s' phase' := by
  have hrows := (next_ok hheld h).2.1
  cases a with
  | abandon =>
    rw [next] at h
    split_ifs at h
    cases h
    trivial
  | statement =>
    cases phase with
    | start =>
      rw [next, statement] at h
      split at h <;> cases h <;> trivial
    | begun =>
      rw [next, statement] at h
      split at h <;> cases h
      · rename_i target hread
        intro hrole x hx
        rw [hheld.read_of_none rfl] at hread
        cases hread.symm.trans hx
        exact hrole
      · trivial
    | found target =>
      rw [next, statement] at h
      split_ifs at h with hrole hfree
      · cases h
        exact .inr (hk hrole)
      · cases h
        rfl
    | locked target =>
      rw [next, statement] at h
      split_ifs at h with hcount
      · cases h
        trivial
      · cases h
        exact .inl ⟨hk, otherSuper_of_count hl hheld hcount⟩
    | guarded target =>
      obtain ⟨t', -, h⟩ := Option.map_eq_some_iff.mp h
      cases h
      change t'.rows = s.admins.rows at hrows
      unfold Known Secured OtherSuper NotSuper
      rw [hrows]
      exact hk
    | written target =>
      cases h
      exact hk
    | audited target =>
      cases h
      trivial
    | returned => cases h
    | failed e => cases h

omit [DecidableEq ι] in
/-- A commit leaves a super admin: another one, or all of them. -/
theorem hasSuper_next (hk : Known (calls i) i s phase) (hsuper : HasSuper s.admins)
    (hrows : s'.admins.rows = rowsAfter (calls i) s.admins phase a) : HasSuper s'.admins := by
  have hkeep {k : ℕ} (hne : (∃ target, phase = .audited target ∧ a = .statement) → k ≠ (calls i).targetAdminId)
      (hx : ∃ x ∈ s.admins.rows k, ActiveSuper x) : HasSuper s'.admins := by
    refine ⟨k, ?_⟩
    rw [hrows, rowsAfter_of_ne hne]
    exact hx
  by_cases hcommit : ∃ target, phase = .audited target ∧ a = .statement
  · obtain ⟨target, rfl, -⟩ := hcommit
    rcases hk with ⟨-, l, hl, hx⟩ | hnot
    · exact hkeep (fun _ => hl) hx
    · obtain ⟨k, x, hx, hactive⟩ := hsuper
      refine hkeep ?_ ⟨x, hx, hactive⟩
      rintro - rfl
      exact hnot x hx hactive.1
  · obtain ⟨k, hx⟩ := hsuper
    exact hkeep (fun h => absurd h hcommit) hx

/-! ### Runs -/

/-- What holds of every state of every run. -/
abbrev Inv (ids : List ℕ) (calls : ι → Call) : Pool ι (Store ι) Phase → Prop :=
  PoolInv (fun s => Listed ids s.admins ∧ HasSuper s.admins) fun i s phase =>
    s.admins.Holds i (pending (calls i) phase) ∧ Known (calls i) i s phase

omit [DecidableEq ι] in
theorem inv_opened {admins : List AdminUser} (hids : ids = admins.map fun x => x.id)
    (hsuper : HasSuper (opened admins : Pool ι (Store ι) Phase).store.admins) : Inv ids calls (opened admins) := by
  refine ⟨⟨fun k x hx => ?_, hsuper⟩, fun i => ⟨fun k => Cell.free_of_held_none rfl, trivial⟩⟩
  obtain ⟨hmem, hid⟩ := Rows.find_some hx
  exact ⟨hid, hids ▸ hid ▸ List.mem_map_of_mem hmem⟩

/-- CORRECT: in every interleaving of any number of role changes and deactivations, an active super admin remains
    in every committed state, if there is one at first. -/
theorem super_admin_remains {admins : List AdminUser} {as : List (ι × Act)} {s : Pool ι (Store ι) Phase}
    (hids : ids = admins.map fun x => x.id)
    (hsuper : HasSuper (opened admins : Pool ι (Store ι) Phase).store.admins)
    (h : run (poolStep (next ids calls)) (opened admins) as = some s) : HasSuper s.store.admins := by
  have hinv : Inv ids calls s := by
    refine pool_invariant ?_ ?_ (inv_opened hids hsuper) h
    · intro i s phase a s' phase' hj hown hn
      obtain ⟨-, hrows, hheld⟩ := next_ok hown.1 hn
      exact ⟨⟨hj.1.next hrows, hasSuper_next hown.2 hj.2 hrows⟩, hheld, known_next hj.1 hown.1 hown.2 hn⟩
    · intro i j s phase other a s' phase' hne _ hown hother hn
      obtain ⟨hmoves, hrows, -⟩ := next_ok hown.1 hn
      exact ⟨hother.1.frame hmoves hne, Known.frame hne hn hrows hown.2 hother.2⟩
  exact hinv.1.2

end

/-! ### Two super admins deactivate each other -/

def supers : List AdminUser := [⟨0, .SUPER_ADMIN, true⟩, ⟨1, .SUPER_ADMIN, true⟩]

def eachOther : Bool → Call
  | false => .deactivateAdmin 0 1
  | true => .deactivateAdmin 1 0

/-- Both have read their target before either takes the lock. -/
def overlapping : List (Bool × Act) :=
  [(false, .statement), (false, .statement), (true, .statement), (true, .statement), (false, .statement),
    (false, .statement), (false, .statement), (false, .statement), (false, .statement), (true, .statement),
    (true, .statement)]

theorem overlapping_phases :
    (run (poolStep (next [0, 1] eachOther)) (opened supers) overlapping).map (fun s => (s.proc false, s.proc true)) =
      some (.returned, .failed (.app .LAST_SUPER_ADMIN_PROTECTED)) := by decide +kernel

theorem super_admin_remains_overlapping :
    ∃ s, run (poolStep (next [0, 1] eachOther)) (opened supers) overlapping = some s ∧ s.proc false = .returned ∧
      HasSuper s.store.admins := by
  obtain ⟨s, hrun, hphases⟩ := Option.map_eq_some_iff.mp overlapping_phases
  have hsuper : HasSuper (opened supers : Pool Bool (Store Bool) Phase).store.admins :=
    ⟨0, ⟨0, .SUPER_ADMIN, true⟩, rfl, rfl, rfl⟩
  exact ⟨s, hrun, congrArg Prod.fst hphases, super_admin_remains rfl hsuper hrun⟩

end Redeemo.Team
