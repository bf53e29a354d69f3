import Redeemo.Branch.OpeningHours
import Redeemo.Lib.ReadCommitted
import Redeemo.Lib.Runs

/-! Staged opening hours: `setOpeningHours`, `cancelPendingHours` and `promoteOnePendingHours`.

    Any number of calls on one branch run interleaved, one statement at a time, and any of them may be
    abandoned anywhere. Whoever changes the branch's PENDING row, or puts in a new one, holds the
    branch's entry of the partial unique index until it ends; so the staged rows and the live hours of
    a branch are one record of which a transaction has a copy of its own (`ReadCommitted.Cell`).

    The invariant says of the call that holds the record what its copy has become of the committed one
    (`copyOf`), statement by statement. -/

namespace Redeemo.PendingHours
open Runs ReadCommitted OpeningHours

inductive PendingHoursStatus
  | PENDING | PROMOTED | CANCELLED
  deriving DecidableEq, Repr

/-- A row of `BranchOpeningHoursPending`. Its id is its position in the table. -/
structure PendingRow where
  proposedHours : List OpeningHoursInput
  effectiveAt : ℤ
  status : PendingHoursStatus
  createdBy : String
  promotedAt : Option ℤ
  cancelledAt : Option ℤ
  deriving DecidableEq, Repr

/-- A branch's staged rows, in the order of their creation, and its live hours. -/
structure BranchHours where
  pending : List PendingRow
  live : List OpeningHoursInput
  deriving DecidableEq

def PROMOTION_WINDOW_MS : ℤ := 2 * 60 * 60 * 1000

/-! ### The statements -/

/-- `where: { branchId, status: 'PENDING' }`. -/
def BranchHours.HasPending (h : BranchHours) : Prop := ∃ r ∈ h.pending, r.status = .PENDING

instance : DecidablePred BranchHours.HasPending :=
  fun h => inferInstanceAs (Decidable (∃ r ∈ h.pending, r.status = .PENDING))

def cancelRow (now : ℤ) (r : PendingRow) : PendingRow :=
  if r.status = .PENDING then { r with status := .CANCELLED, cancelledAt := some now } else r

/-- `data: { status: 'CANCELLED', cancelledAt: new Date() }`. -/
def BranchHours.cancelPending (now : ℤ) (h : BranchHours) : BranchHours :=
  { h with pending := h.pending.map (cancelRow now) }

def stagedRow (hours : List OpeningHoursInput) (createdBy : String) (now : ℤ) : PendingRow :=
  { proposedHours := hours
    effectiveAt := now + PROMOTION_WINDOW_MS
    status := .PENDING
    createdBy := createdBy
    promotedAt := none
    cancelledAt := none }

def BranchHours.stage (r : PendingRow) (h : BranchHours) : BranchHours :=
  { h with pending := h.pending ++ [r] }

/-- `branchOpeningHoursPending.create`, under the partial unique index: it waits while another
    transaction holds the branch's entry, and fails where there is one. -/
def createPending (c : Cell ℕ BranchHours) (i : ℕ) (r : PendingRow) :
    Option (Cell ℕ BranchHours × Bool) :=
  (c.write i ((c.read i).stage r)).map fun c' =>
    if (c.read i).HasPending then (c.rollback i, false) else (c', true)

/-- The row is still PENDING, and due at `now`. -/
def Promotable (id : ℕ) (now : ℤ) (h : BranchHours) : Prop :=
  ∃ r ∈ h.pending[id]?, r.status = .PENDING ∧ r.effectiveAt ≤ now

instance (id : ℕ) (now : ℤ) : DecidablePred (Promotable id now) :=
  fun h => inferInstanceAs (Decidable (∃ r ∈ h.pending[id]?, r.status = .PENDING ∧ r.effectiveAt ≤ now))

/-- `data: { status: 'PROMOTED', promotedAt: now }`. -/
def BranchHours.claim (id : ℕ) (now : ℤ) (h : BranchHours) : BranchHours :=
  { h with pending := h.pending.modify id fun r =>
      { r with status := .PROMOTED, promotedAt := some now } }

/-! ### The calls -/

/-- A call, with its clock readings. `access` is what the checks of the caller and of the branch
    answer, and `staleAt` the clock of a cancelling statement. -/
inductive Call
  | setOpeningHours (access : Except AppError Unit) (hours : List OpeningHoursInput)
    (createdBy : String) (now staleAt : ℤ)
  | cancelPendingHours (access : Except AppError Unit) (now : ℤ)
  | promoteOnePendingHours (pendingId : ℕ) (now : ℤ)

inductive Failure
  | app (e : AppError)
  | PENDING_HOURS_NOT_FOUND
  /-- The partial unique index. -/
  | P2002
  /-- A crash, or a failed statement. -/
  | aborted
  deriving DecidableEq

inductive Phase
  | start
  | ready
  /-- Past the statement that cancels the earlier row, if there was one. -/
  | superseded (wrote : Bool)
  | created
  /-- Past the gates on the first read. -/
  | found
  | claimed
  | loaded (hours : List OpeningHoursInput)
  | cleared (hours : List OpeningHoursInput)
  | replaced (hours : List OpeningHoursInput)
  | returned (promoted : Bool)
  | failed (e : Failure)
  deriving DecidableEq

inductive Act
  | statement | abandon
  deriving DecidableEq

/-- A committed promotion: the row, and the clock it was promoted at. -/
structure Promotion where
  id : ℕ
  now : ℤ
  deriving DecidableEq

structure Store where
  hours : Cell ℕ BranchHours
  /-- The committed promotions, newest first. -/
  promotions : List Promotion

def Store.put (s : Store) (c : Cell ℕ BranchHours) : Store := { s with hours := c }

/-- The next statement of the call. -/
def statement (call : Call) (i : ℕ) (s : Store) (ph : Phase) : Option (Store × Phase) :=
  match call, ph with
  | .setOpeningHours access hours _ _ _, .start =>
    match validateOpeningHours hours >>= fun _ => access with
    | .ok () => some (s, .ready)
    | .error e => some (s, .failed (.app e))
  | .setOpeningHours _ _ _ _ staleAt, .ready =>
    (s.hours.updateWhere i BranchHours.HasPending (BranchHours.cancelPending staleAt)).map fun r =>
      (s.put r.1, .superseded r.2)
  | .setOpeningHours _ hours createdBy now _, .superseded _ =>
    (createPending s.hours i (stagedRow hours createdBy now)).map fun r =>
      (s.put r.1, if r.2 then .created else .failed .P2002)
  | .setOpeningHours _ _ _ _ _, .created => some (s.put (s.hours.commit i), .returned false)
  | .cancelPendingHours access _, .start =>
    match access with
    | .ok () => some (s, .ready)
    | .error e => some (s, .failed (.app e))
  | .cancelPendingHours _ now, .ready =>
    (s.hours.updateWhere i BranchHours.HasPending (BranchHours.cancelPending now)).map fun r =>
      (s.put (r.1.commit i), if r.2 then .returned false else .failed .PENDING_HOURS_NOT_FOUND)
  | .promoteOnePendingHours pendingId now, .start =>
    if Promotable pendingId now (s.hours.read i) then some (s, .found) else some (s, .returned false)
  | .promoteOnePendingHours pendingId now, .found =>
    (s.hours.updateWhere i (Promotable pendingId now) (BranchHours.claim pendingId now)).map fun r =>
      (s.put r.1, if r.2 then .claimed else .returned false)
  | .promoteOnePendingHours pendingId _, .claimed =>
    match (s.hours.read i).pending[pendingId]? with
    | none => some (s.put (s.hours.rollback i), .returned false)
    | some row => some (s, .loaded row.proposedHours)
  | .promoteOnePendingHours _ _, .loaded hours =>
    (s.hours.write i { s.hours.read i with live := [] }).map fun c => (s.put c, .cleared hours)
  | .promoteOnePendingHours _ _, .cleared hours =>
    (s.hours.write i { s.hours.read i with live := (s.hours.read i).live ++ hours }).map fun c =>
      (s.put c, .replaced hours)
  | .promoteOnePendingHours pendingId now, .replaced _ =>
    some (⟨s.hours.commit i, ⟨pendingId, now⟩ :: s.promotions⟩, .returned true)
  | _, _ => none

def Phase.over : Phase → Bool
  | .returned _ => true
  | .failed _ => true
  | _ => false

def next (calls : ℕ → Call) (i : ℕ) (s : Store) (ph : Phase) (a : Act) : Option (Store × Phase) :=
  match a with
  | .statement => statement (calls i) i s ph
  | .abandon => if ph.over then none else some (s.put (s.hours.rollback i), .failed .aborted)

/-- No row has been staged, and no call has begun. -/
def initial (live : List OpeningHoursInput) : Pool ℕ Store Phase :=
  ⟨⟨⟨⟨[], live⟩, none⟩, []⟩, fun _ => .start⟩

/-! ### What a later record keeps -/

/-- Two rows that are PENDING are one row. -/
def BranchHours.AtMostOnePending (h : BranchHours) : Prop :=
  ∀ (k l : ℕ) (r r' : PendingRow), h.pending[k]? = some r → h.pending[l]? = some r' →
    r.status = .PENDING → r'.status = .PENDING → k = l

/-- A staged row keeps its hours and its date, and once promoted or cancelled it stays as it is. -/
def Follows (h h' : BranchHours) : Prop := ∀ (id : ℕ) (r : PendingRow), h.pending[id]? = some r →
  ∃ r', h'.pending[id]? = some r' ∧ r'.proposedHours = r.proposedHours ∧
    r'.effectiveAt = r.effectiveAt ∧ (r.status ≠ .PENDING → r' = r)

variable {h h' h'' : BranchHours} {r : PendingRow} {id : ℕ} {now : ℤ}

theorem follows_refl : Follows h h := fun _ r hr => ⟨r, hr, rfl, rfl, fun _ => rfl⟩

theorem Follows.trans (h₁ : Follows h h') (h₂ : Follows h' h'') : Follows h h'' := by
  intro id r hr
  obtain ⟨r', hr', hp', he', hs'⟩ := h₁ id r hr
  obtain ⟨r'', hr'', hp'', he'', hs''⟩ := h₂ id r' hr'
  refine ⟨r'', hr'', hp''.trans hp', he''.trans he', fun hs => ?_⟩
  have hrr : r' = r := hs' hs
  rw [hs'' (hrr ▸ hs), hrr]

theorem Follows.of_pending_eq (hf : Follows h h') (he : h''.pending = h'.pending) :
    Follows h h'' := by
  intro id r hr
  rw [he]
  exact hf id r hr

theorem cancelRow_of_ne (hs : r.status ≠ .PENDING) : cancelRow now r = r := if_neg hs

theorem cancelRow_status : (cancelRow now r).status ≠ .PENDING := by
  rw [cancelRow]
  split_ifs with hs
  · simp
  · exact hs

theorem cancelRow_payload : (cancelRow now r).proposedHours = r.proposedHours ∧
    (cancelRow now r).effectiveAt = r.effectiveAt := by
  rw [cancelRow]
  split_ifs
  · exact ⟨rfl, rfl⟩
  · exact ⟨rfl, rfl⟩

theorem pending_cancelPending :
    (h.cancelPending now).pending[id]? = (h.pending[id]?).map (cancelRow now) := by
  rw [BranchHours.cancelPending, List.getElem?_map]

theorem not_hasPending_cancelPending : ¬ (h.cancelPending now).HasPending := by
  rintro ⟨r, hr, hs⟩
  obtain ⟨r', -, rfl⟩ := List.mem_map.mp hr
  exact cancelRow_status hs

theorem cancelPending_of_none (hn : ¬ h.HasPending) : h.cancelPending now = h := by
  have hmap : h.pending.map (cancelRow now) = h.pending := by
    conv_rhs => rw [← List.map_id h.pending]
    refine List.map_congr_left fun r hr => ?_
    exact cancelRow_of_ne fun hs => hn ⟨r, hr, hs⟩
  rw [BranchHours.cancelPending, hmap]

theorem follows_cancelPending : Follows h (h.cancelPending now) := by
  intro id r hr
  refine ⟨cancelRow now r, ?_, cancelRow_payload.1, cancelRow_payload.2, cancelRow_of_ne⟩
  rw [pending_cancelPending, hr]
  rfl

theorem follows_stage : Follows h (h.stage r) := by
  intro id r' hr'
  refine ⟨r', ?_, rfl, rfl, fun _ => rfl⟩
  have hlt : id < h.pending.length := (List.getElem?_eq_some_iff.mp hr').1
  rw [BranchHours.stage, List.getElem?_append_left hlt]
  exact hr'

theorem pending_claim_self (hr : h.pending[id]? = some r) : (h.claim id now).pending[id]?
    = some { r with status := .PROMOTED, promotedAt := some now } := by
  simp [BranchHours.claim, hr]

theorem pending_claim_of_ne {k : ℕ} (hk : id ≠ k) :
    (h.claim id now).pending[k]? = h.pending[k]? := by
  simp [BranchHours.claim, hk]

theorem follows_claim (hr : h.pending[id]? = some r) (hs : r.status = .PENDING) :
    Follows h (h.claim id now) := by
  intro k r' hr'
  rcases eq_or_ne id k with rfl | hk
  · rw [hr] at hr'
    cases hr'
    exact ⟨_, pending_claim_self hr, rfl, rfl, fun hn => absurd hs hn⟩
  · exact ⟨r', by rw [pending_claim_of_ne hk, hr'], rfl, rfl, fun _ => rfl⟩

/-! ### Sound records -/

/-- The live hours are those of the row promoted last, in full. -/
def LiveHours (live : List OpeningHoursInput) (h : BranchHours) : List Promotion → Prop
  | [] => h.live = live
  | p :: _ => ∃ r, h.pending[p.id]? = some r ∧ h.live = r.proposedHours

structure Sound (live : List OpeningHoursInput) (h : BranchHours) (ps : List Promotion) : Prop where
  onePending : h.AtMostOnePending
  once : (ps.map (·.id)).Nodup
  due : ∀ p ∈ ps, ∃ r, h.pending[p.id]? = some r ∧ r.status = .PROMOTED ∧
    r.promotedAt = some p.now ∧ r.effectiveAt ≤ p.now
  live : LiveHours live h ps

variable {live : List OpeningHoursInput} {ps : List Promotion} {p : Promotion}

theorem atMostOnePending_of_none (hn : ¬ h.HasPending) : h.AtMostOnePending := by
  intro k l r r' hr _ hs _
  exact absurd ⟨r, List.mem_of_getElem? hr, hs⟩ hn

theorem atMostOnePending_stage (hn : ¬ h.HasPending) : (h.stage r).AtMostOnePending := by
  -- A PENDING row can only be the new one.
  have hlast : ∀ (k : ℕ) (r' : PendingRow), (h.stage r).pending[k]? = some r' →
      r'.status = .PENDING → k = h.pending.length := by
    intro k r' hr' hs
    have hlt : k < (h.pending ++ [r]).length := (List.getElem?_eq_some_iff.mp hr').1
    rw [List.length_append, List.length_singleton] at hlt
    by_contra hk
    rw [BranchHours.stage, List.getElem?_append_left (by omega)] at hr'
    exact hn ⟨r', List.mem_of_getElem? hr', hs⟩
  intro k l r₁ r₂ h₁ h₂ hs₁ hs₂
  rw [hlast k r₁ h₁ hs₁, hlast l r₂ h₂ hs₂]

theorem atMostOnePending_claim (h₁ : h.AtMostOnePending) (hr : h.pending[id]? = some r) :
    (h.claim id now).AtMostOnePending := by
  have hkeep : ∀ (k : ℕ) (r' : PendingRow), (h.claim id now).pending[k]? = some r' →
      r'.status = .PENDING → h.pending[k]? = some r' := by
    intro k r' hr' hs
    rcases eq_or_ne id k with rfl | hk
    · rw [pending_claim_self hr] at hr'
      cases hr'
      cases hs
    · rwa [pending_claim_of_ne hk] at hr'
  intro k l r₁ r₂ h₁' h₂' hs₁ hs₂
  exact h₁ k l r₁ r₂ (hkeep k r₁ h₁' hs₁) (hkeep l r₂ h₂' hs₂) hs₁ hs₂

/-- What has been promoted stays so. -/
theorem Sound.due_of_follows (hs : Sound live h ps) (hf : Follows h h') : ∀ p ∈ ps, ∃ r,
    h'.pending[p.id]? = some r ∧ r.status = .PROMOTED ∧ r.promotedAt = some p.now ∧
      r.effectiveAt ≤ p.now := by
  intro p hp
  obtain ⟨r, hr, hst, hat, hdue⟩ := hs.due p hp
  obtain ⟨r', hr', -, -, hk⟩ := hf p.id r hr
  obtain rfl : r' = r := hk (by simp [hst])
  exact ⟨r', hr', hst, hat, hdue⟩

/-- A change of the staged rows alone. -/
theorem Sound.of_follows (hs : Sound live h ps) (hf : Follows h h') (hl : h'.live = h.live)
    (h₁ : h'.AtMostOnePending) : Sound live h' ps := by
  refine ⟨h₁, hs.once, hs.due_of_follows hf, ?_⟩
  cases ps with
  | nil => exact hl.trans hs.live
  | cons p ps =>
    obtain ⟨r, hr, hlive⟩ := hs.live
    obtain ⟨r', hr', hp, -, -⟩ := hf p.id r hr
    exact ⟨r', hr', by rw [hl, hlive, hp]⟩

theorem Sound.cancelPending (hs : Sound live h ps) : Sound live (h.cancelPending now) ps :=
  hs.of_follows follows_cancelPending rfl (atMostOnePending_of_none not_hasPending_cancelPending)

theorem Sound.stage {now : ℤ} (hs : Sound live h ps) :
    Sound live ((h.cancelPending now).stage r) ps :=
  hs.cancelPending.of_follows follows_stage rfl (atMostOnePending_stage not_hasPending_cancelPending)

/-- A due PENDING row goes live. -/
theorem Sound.promote (hs : Sound live h ps) (hr : h.pending[id]? = some r)
    (hst : r.status = .PENDING) (hdue : r.effectiveAt ≤ now) :
    Sound live { h.claim id now with live := r.proposedHours } (⟨id, now⟩ :: ps) := by
  refine ⟨atMostOnePending_claim hs.onePending hr, ?_, ?_, ?_⟩
  · -- The rows promoted before are PROMOTED, and this one was PENDING.
    rw [List.map_cons, List.nodup_cons]
    refine ⟨fun hmem => ?_, hs.once⟩
    obtain ⟨p, hp, hid⟩ := List.mem_map.mp hmem
    obtain ⟨r', hr', hst', -, -⟩ := hs.due p hp
    rw [hid, hr] at hr'
    cases hr'
    rw [hst] at hst'
    cases hst'
  · intro p hp
    rcases List.mem_cons.mp hp with rfl | hp
    · exact ⟨_, pending_claim_self hr, rfl, rfl, hdue⟩
    · exact hs.due_of_follows (follows_claim hr hst) p hp
  · exact ⟨_, pending_claim_self hr, rfl⟩

/-! ### The copy of the call that holds the record -/

/-- What a call in this phase has made of the committed record, if it has written to it. -/
def copyOf : Call → Phase → Option (BranchHours → BranchHours)
  | .setOpeningHours _ _ _ _ staleAt, .superseded true => some (BranchHours.cancelPending staleAt)
  | .setOpeningHours _ hours createdBy now staleAt, .created =>
    some fun h => (h.cancelPending staleAt).stage (stagedRow hours createdBy now)
  | .promoteOnePendingHours id now, .claimed => some (BranchHours.claim id now)
  | .promoteOnePendingHours id now, .loaded _ => some (BranchHours.claim id now)
  | .promoteOnePendingHours id now, .cleared _ => some fun h => { h.claim id now with live := [] }
  | .promoteOnePendingHours id now, .replaced hours =>
    some fun h => { h.claim id now with live := hours }
  | _, _ => none

/-- The row that a promotion has claimed was due and PENDING, and these are its hours. -/
def Grounds (h : BranchHours) : Call → Phase → Prop
  | .promoteOnePendingHours id now, ph => ∃ r, h.pending[id]? = some r ∧ r.status = .PENDING ∧
    r.effectiveAt ≤ now ∧ ∀ hours, (ph = .loaded hours ∨ ph = .cleared hours ∨ ph = .replaced hours) →
      hours = r.proposedHours
  | _, _ => True

/-- The call holds the record exactly when it has written to it. -/
def Local (call : Call) (i : ℕ) (s : Store) (ph : Phase) : Prop :=
  match copyOf call ph with
  | some f => s.hours.held = some (i, f s.hours.committed) ∧ Grounds s.hours.committed call ph
  | none => s.hours.Free i

variable {calls : ℕ → Call} {call : Call} {i j : ℕ} {s s' : Store} {ph ph' : Phase} {a : Act}

theorem local_of_none (hc : copyOf call ph = none) (hf : s.hours.Free i) : Local call i s ph := by
  rw [Local, hc]
  exact hf

theorem local_of_some {f : BranchHours → BranchHours} (hc : copyOf call ph = some f)
    (hh : s.hours.held = some (i, f s.hours.committed)) (hg : Grounds s.hours.committed call ph) :
    Local call i s ph := by
  rw [Local, hc]
  exact ⟨hh, hg⟩

/-- What a step may do to the committed record: nothing, or one of the three commits. -/
inductive Commits (s : Store) : Store → Prop
  | none (c : Cell ℕ BranchHours) (h : c.committed = s.hours.committed) : Commits s (s.put c)
  | cancel (now : ℤ) : Commits s (s.put ⟨s.hours.committed.cancelPending now, Option.none⟩)
  | stage (now : ℤ) (r : PendingRow) :
    Commits s (s.put ⟨(s.hours.committed.cancelPending now).stage r, Option.none⟩)
  | promote (id : ℕ) (now : ℤ) (r : PendingRow) (hr : s.hours.committed.pending[id]? = some r)
    (hst : r.status = .PENDING) (hdue : r.effectiveAt ≤ now) :
    Commits s ⟨⟨{ s.hours.committed.claim id now with live := r.proposedHours }, Option.none⟩,
      ⟨id, now⟩ :: s.promotions⟩

/-- What holds after a step of a call. -/
structure StepOk (call : Call) (i : ℕ) (s s' : Store) (ph' : Phase) : Prop where
  moves : Cell.Moves i s.hours s'.hours
  commits : Commits s s'
  copy : Local call i s' ph'

theorem stepOk_stay (hf : s.hours.Free i) (hc : copyOf call ph = none) :
    StepOk call i s s ph :=
  ⟨.stay, .none _ rfl, local_of_none hc hf⟩

/-- The call writes to the record, which nobody else holds. -/
theorem stepOk_write {x : BranchHours} {f : BranchHours → BranchHours}
    (hh : ∀ j w, s.hours.held = some (j, w) → j = i) (hc : copyOf call ph = some f)
    (hx : x = f s.hours.committed) (hg : Grounds s.hours.committed call ph) :
    StepOk call i s (s.put { s.hours with held := some (i, x) }) ph := by
  subst hx
  exact ⟨.write _ hh, .none _ rfl, local_of_some hc rfl hg⟩

theorem setOpeningHours_step {access : Except AppError Unit} {hours : List OpeningHoursInput}
    {createdBy : String} {now staleAt : ℤ}
    (hl : Local (.setOpeningHours access hours createdBy now staleAt) i s ph)
    (hn : statement (.setOpeningHours access hours createdBy now staleAt) i s ph = some (s', ph')) :
    StepOk (.setOpeningHours access hours createdBy now staleAt) i s s' ph' := by
  cases ph with
  | start =>
    simp only [statement] at hn
    split at hn
    · cases hn
      exact stepOk_stay hl rfl
    · cases hn
      exact stepOk_stay hl rfl
  | ready =>
    simp only [statement] at hn
    obtain ⟨⟨c, b⟩, hu, he⟩ := Option.map_eq_some_iff.mp hn
    cases he
    rcases Cell.updateWhere_cases hu with ⟨rfl, -, hh, rfl⟩ | ⟨rfl, -, rfl⟩
    · rw [Cell.read_of_free hl]
      exact stepOk_write hh rfl rfl trivial
    · exact stepOk_stay hl rfl
  | superseded wrote =>
    simp only [statement] at hn
    obtain ⟨⟨c, b⟩, hu, he⟩ := Option.map_eq_some_iff.mp hn
    cases he
    obtain ⟨c', hw, he⟩ := Option.map_eq_some_iff.mp hu
    obtain ⟨hh, rfl⟩ := Cell.write_eq_some.mp hw
    cases wrote with
    | true =>
      obtain ⟨hheld, -⟩ := hl
      rw [Cell.read_of_held hheld, if_neg not_hasPending_cancelPending] at he
      cases he
      exact stepOk_write hh rfl rfl trivial
    | false =>
      rw [Cell.read_of_free hl] at he
      split_ifs at he with hp
      · cases he
        rw [Cell.rollback_of_free hl]
        exact stepOk_stay hl rfl
      · cases he
        refine stepOk_write hh rfl ?_ trivial
        rw [cancelPending_of_none hp]
  | created =>
    simp only [statement] at hn
    cases hn
    obtain ⟨hheld, -⟩ := hl
    rw [Cell.commit_of_held hheld]
    exact ⟨.finish _ (Cell.held_unique hheld), .stage staleAt _, local_of_none rfl (Cell.free_of_held_none rfl)⟩
  | _ => cases hn

theorem cancelPendingHours_step {access : Except AppError Unit} {now : ℤ}
    (hl : Local (.cancelPendingHours access now) i s ph)
    (hn : statement (.cancelPendingHours access now) i s ph = some (s', ph')) :
    StepOk (.cancelPendingHours access now) i s s' ph' := by
  cases ph with
  | start =>
    simp only [statement] at hn
    split at hn
    · cases hn
      exact stepOk_stay hl rfl
    · cases hn
      exact stepOk_stay hl rfl
  | ready =>
    simp only [statement] at hn
    obtain ⟨⟨c, b⟩, hu, he⟩ := Option.map_eq_some_iff.mp hn
    cases he
    rcases Cell.updateWhere_cases hu with ⟨rfl, -, hh, rfl⟩ | ⟨rfl, -, rfl⟩
    · dsimp only
      rw [Cell.read_of_free hl, Cell.commit_of_held rfl]
      exact ⟨.finish _ hh, .cancel now, local_of_none rfl (Cell.free_of_held_none rfl)⟩
    · have hcommit : s.hours.commit i = s.hours := Cell.commit_of_free hl
      dsimp only
      rw [hcommit]
      exact stepOk_stay hl rfl
  | _ => cases hn

theorem promoteOnePendingHours_step {id : ℕ} {now : ℤ}
    (hl : Local (.promoteOnePendingHours id now) i s ph)
    (hn : statement (.promoteOnePendingHours id now) i s ph = some (s', ph')) :
    StepOk (.promoteOnePendingHours id now) i s s' ph' := by
  cases ph with
  | start =>
    simp only [statement] at hn
    split_ifs at hn
    · cases hn
      exact stepOk_stay hl rfl
    · cases hn
      exact stepOk_stay hl rfl
  | found =>
    simp only [statement] at hn
    obtain ⟨⟨c, b⟩, hu, he⟩ := Option.map_eq_some_iff.mp hn
    cases he
    rcases Cell.updateWhere_cases hu with ⟨rfl, ⟨r, hr, hst, hdue⟩, hh, rfl⟩ | ⟨rfl, -, rfl⟩
    · rw [Cell.read_of_free hl] at hr ⊢
      exact stepOk_write hh rfl rfl ⟨r, hr, hst, hdue, by simp⟩
    · exact stepOk_stay hl rfl
  | claimed =>
    obtain ⟨hheld, r, hr, hst, hdue, -⟩ := hl
    simp only [statement] at hn
    rw [Cell.read_of_held hheld, pending_claim_self hr] at hn
    cases hn
    refine ⟨.stay, .none _ rfl, local_of_some rfl hheld ⟨r, hr, hst, hdue, ?_⟩⟩
    simp
  | loaded hours =>
    obtain ⟨hheld, r, hr, hst, hdue, hp⟩ := hl
    simp only [statement] at hn
    obtain ⟨c, hw, he⟩ := Option.map_eq_some_iff.mp hn
    cases he
    obtain ⟨hh, rfl⟩ := Cell.write_eq_some.mp hw
    rw [Cell.read_of_held hheld]
    refine stepOk_write hh rfl rfl ⟨r, hr, hst, hdue, ?_⟩
    have := hp hours (.inl rfl)
    simp [this]
  | cleared hours =>
    obtain ⟨hheld, r, hr, hst, hdue, hp⟩ := hl
    simp only [statement] at hn
    obtain ⟨c, hw, he⟩ := Option.map_eq_some_iff.mp hn
    cases he
    obtain ⟨hh, rfl⟩ := Cell.write_eq_some.mp hw
    rw [Cell.read_of_held hheld]
    refine stepOk_write hh rfl rfl ⟨r, hr, hst, hdue, ?_⟩
    have := hp hours (.inr (.inl rfl))
    simp [this]
  | replaced hours =>
    obtain ⟨hheld, r, hr, hst, hdue, hp⟩ := hl
    simp only [statement] at hn
    cases hn
    obtain rfl : hours = r.proposedHours := hp hours (.inr (.inr rfl))
    rw [Cell.commit_of_held hheld]
    exact ⟨.finish _ (Cell.held_unique hheld), .promote id now r hr hst hdue,
      local_of_none rfl (Cell.free_of_held_none rfl)⟩
  | _ => cases hn

theorem next_step (hl : Local (calls i) i s ph) (hn : next calls i s ph a = some (s', ph')) :
    StepOk (calls i) i s s' ph' := by
  cases a with
  | abandon =>
    rw [next] at hn
    split_ifs at hn with ho
    cases hn
    refine ⟨Cell.moves_rollback, .none _ Cell.free_rollback.2, local_of_none ?_ Cell.free_rollback.1⟩
    cases calls i <;> rfl
  | statement =>
    rw [next] at hn
    cases hc : calls i with
    | setOpeningHours access hours createdBy now staleAt =>
      rw [hc] at hl hn
      exact setOpeningHours_step hl hn
    | cancelPendingHours access now =>
      rw [hc] at hl hn
      exact cancelPendingHours_step hl hn
    | promoteOnePendingHours id now =>
      rw [hc] at hl hn
      exact promoteOnePendingHours_step hl hn

/-! ### Every interleaving -/

theorem Commits.follows (hc : Commits s s') : Follows s.hours.committed s'.hours.committed := by
  cases hc with
  | none c hc =>
    exact follows_refl.of_pending_eq (congrArg BranchHours.pending hc)
  | cancel now => exact follows_cancelPending
  | stage now r => exact follows_cancelPending.trans follows_stage
  | promote id now r hr hst hdue => exact (follows_claim hr hst).of_pending_eq rfl

theorem Commits.promotions (hc : Commits s s') : s.promotions <:+ s'.promotions := by
  cases hc with
  | none c hc => exact List.suffix_rfl
  | cancel now => exact List.suffix_rfl
  | stage now r => exact List.suffix_rfl
  | promote id now r hr hst hdue => exact List.suffix_cons ..

theorem Commits.sound (hc : Commits s s') (hs : Sound live s.hours.committed s.promotions) :
    Sound live s'.hours.committed s'.promotions := by
  cases hc with
  | none c hc =>
    rw [← hc] at hs
    exact hs
  | cancel now => exact hs.cancelPending
  | stage now r => exact hs.stage
  | promote id now r hr hst hdue => exact hs.promote hr hst hdue

/-- Another call's step leaves this one with what it had. -/
theorem local_of_moves (hne : i ≠ j) (hm : Cell.Moves i s.hours s'.hours)
    (hl : Local call j s ph) : Local call j s' ph := by
  rw [Local] at hl ⊢
  split at hl
  · rw [hm.held_of_ne hne hl.1]
    exact hl
  · exact hm.free_of_ne hne hl

theorem sound_initial (live : List OpeningHoursInput) : Sound live ⟨[], live⟩ [] := by
  refine ⟨?_, List.nodup_nil, by simp, rfl⟩
  intro k l r r' hr
  simp at hr

/-- The committed record is sound, and every call holds what it has written. -/
def Invariant (live : List OpeningHoursInput) (calls : ℕ → Call) : Pool ℕ Store Phase → Prop :=
  PoolInv (fun s => Sound live s.hours.committed s.promotions) fun i s ph => Local (calls i) i s ph

theorem invariant_initial : Invariant live calls (initial live) := by
  refine ⟨sound_initial live, fun i => local_of_none ?_ (Cell.free_of_held_none rfl)⟩
  cases calls i <;> rfl

theorem invariant_own {i : ℕ} {x x' : Store} {ph ph' : Phase} {a : Act}
    (hs : Sound live x.hours.committed x.promotions) (hl : Local (calls i) i x ph)
    (hn : next calls i x ph a = some (x', ph')) :
    Sound live x'.hours.committed x'.promotions ∧ Local (calls i) i x' ph' := by
  have hok := next_step hl hn
  exact ⟨hok.commits.sound hs, hok.copy⟩

theorem invariant_step (s : Pool ℕ Store Phase) (a : ℕ × Act) (s' : Pool ℕ Store Phase)
    (hi : Invariant live calls s) (h : poolStep (next calls) s a = some s') :
    Invariant live calls s' := by
  refine poolInv_step ?_ ?_ s a s' hi h
  · intro i x ph a x' ph' hs hl hn
    exact invariant_own hs hl hn
  · intro i j x ph ph₂ a x' ph' hne _ hl hl₂ hn
    exact local_of_moves hne (next_step hl hn).moves hl₂

/-- What a run keeps: rows as `Follows` says, and the promotions already committed. -/
def Extends (s s' : Pool ℕ Store Phase) : Prop :=
  Follows s.store.hours.committed s'.store.hours.committed ∧
    s.store.promotions <:+ s'.store.promotions

theorem extends_run {s s' : Pool ℕ Store Phase} {as : List (ℕ × Act)}
    (hi : Invariant live calls s) (hrun : run (poolStep (next calls)) s as = some s') :
    Extends s s' := by
  refine run_relates (fun s => ⟨follows_refl, List.suffix_rfl⟩) ?_ ?_ hi hrun
  · intro s t u hst htu
    exact ⟨hst.1.trans htu.1, hst.2.trans htu.2⟩
  · intro s a s' hi h
    refine ⟨invariant_step s a s' hi h, ?_⟩
    obtain ⟨x, ph, hn, rfl⟩ := poolStep_eq_some.mp h
    have hc := (next_step (hi.2 a.1) hn).commits
    exact ⟨hc.follows, hc.promotions⟩

/-- CORRECT: in every interleaving of stages, cancellations and promotions of one branch, any of them
    abandoned anywhere, at most one committed row is PENDING; no row is promoted twice, or before it
    is due; the live hours are in full those of the row promoted last; and from any moment on, a row
    keeps its hours and its date, and one that has been cancelled or superseded is not promoted. -/
theorem opening_hours_promoted (calls : ℕ → Call) (live : List OpeningHoursInput)
    (as bs : List (ℕ × Act)) (s s' : Pool ℕ Store Phase)
    (hs : run (poolStep (next calls)) (initial live) as = some s)
    (hs' : run (poolStep (next calls)) s bs = some s') :
    Sound live s'.store.hours.committed s'.store.promotions ∧ Extends s s' ∧
    ∀ (id : ℕ) (r : PendingRow), s.store.hours.committed.pending[id]? = some r →
      r.status = .CANCELLED → ∀ p ∈ s'.store.promotions, p.id ≠ id := by
  have hinv : Invariant live calls s := run_invariant invariant_step invariant_initial hs
  have hsound : Sound live s'.store.hours.committed s'.store.promotions :=
    (run_invariant invariant_step hinv hs').1
  have hext : Extends s s' := extends_run hinv hs'
  refine ⟨hsound, hext, ?_⟩
  intro id r hr hst p hpm hid
  obtain ⟨r', hr', -, -, hk⟩ := hext.1 id r hr
  obtain ⟨r'', hr'', hst'', -, -⟩ := hsound.due p hpm
  rw [hid, hr', hk (by simp [hst])] at hr''
  cases hr''
  rw [hst] at hst''
  cases hst''

/-! ### A promotion and a cancellation -/

def closedSunday : List OpeningHoursInput := [⟨0, none, none, true⟩]

/-- One call stages closed Sundays, one promotes them when they are due, and one cancels. -/
def closeSundays : ℕ → Call
  | 0 => .setOpeningHours (.ok ()) closedSunday "owner" 0 0
  | 1 => .promoteOnePendingHours 0 PROMOTION_WINDOW_MS
  | _ => .cancelPendingHours (.ok ()) PROMOTION_WINDOW_MS

/-- The cancellation is checked before the promotion claims the row, and comes too late. -/
theorem opening_hours_promoted_closeSundays : ∃ s s',
    run (poolStep (next closeSundays)) (initial [])
      ([0, 0, 0, 0, 1, 2, 1, 1, 1].map fun i => (i, .statement)) = some s ∧
    run (poolStep (next closeSundays)) s ([1, 1, 2].map fun i => (i, .statement)) = some s' ∧
    s.store.hours.committed.live = [] ∧
    s'.store.hours.committed.live = closedSunday ∧
    s'.proc 2 = .failed .PENDING_HOURS_NOT_FOUND ∧
    Sound [] s'.store.hours.committed s'.store.promotions := by
  obtain ⟨s, hs, hlive⟩ : ∃ s, run (poolStep (next closeSundays)) (initial [])
      ([0, 0, 0, 0, 1, 2, 1, 1, 1].map fun i => (i, .statement)) = some s ∧
      s.store.hours.committed.live = [] := ⟨_, rfl, rfl⟩
  obtain ⟨s', hs', hlive', hproc⟩ : ∃ s', run (poolStep (next closeSundays)) s
      ([1, 1, 2].map fun i => (i, .statement)) = some s' ∧
      s'.store.hours.committed.live = closedSunday ∧
      s'.proc 2 = .failed .PENDING_HOURS_NOT_FOUND := by
    cases hs
    exact ⟨_, rfl, rfl, rfl⟩
  exact ⟨s, s', hs, hs', hlive, hlive', hproc,
    (opening_hours_promoted closeSundays [] _ _ s s' hs hs').1⟩

end Redeemo.PendingHours
