import Redeemo.Auth.Sessions

/-! What a revocation of a session promises.

    Once a call has revoked a session, the session's key is gone. Every command of the others leaves it so but one: a
    refresh that has passed its checks before stores a new token under it. -/

namespace Redeemo.AuthSessions
open Runs Expiring
open MerchantSession (StoredSession Value Redis RefreshData Delivery REFRESH_TOKEN_TTL_SECONDS validateRefreshToken)

/-- The call has deleted the session's key, or `KEYS` has not told it of the key. -/
def Past (key : String) : Phase → Prop
  | .running target _ revoked _ => target.covers key = true ∧ revoked = true
  | .found target keys _ _ revoked _ => target.covers key = true ∧ (revoked = true ∨ keys key = false)
  | _ => False

/-- The step stores a token under the session's key. -/
inductive Stores (key : String) : Phase → Event → Prop
  | store {role : Role} {data : RefreshData} {stored : StoredSession} {newRefresh createdAt : String} {d : Delivery} :
      RefreshData.key role data = key → d.executed = true →
      Stores key (.cleared role data stored) (.store newRefresh createdAt d)

/-- What is promised: the key is gone once the session is revoked. -/
def Final {ι : Type*} (key : String) (s : Pool ι Redis Phase) : Prop :=
  ∀ j, Past key (s.proc j) → s.store.get key = none

/-- What a call revokes, where that is not told by a token's key. -/
def Call.target : Call → Option Target
  | .refresh _ _ => none
  | .logoutCustomer entityId sessionId => some (.session .customer entityId sessionId)
  | .logoutBranchUser entityId sessionId => some (.session .branch entityId sessionId)
  | .logoutAdmin entityId sessionId => some (.session .admin entityId sessionId)
  | .resetPasswordCustomer _ _ => none
  | .resetPasswordAdmin _ _ => none
  | .resetBranchUserPassword branchUserId => some (.entity .branch branchUserId)
  | .deactivateBranchUser branchUserId => some (.entity .branch branchUserId)
  | .deleteAccount userId _ => some (.entity .customer userId)
  | .deactivateAdmin adminId => some (.entity .admin adminId)

/-- The call swallows the errors of its revocation. -/
def Call.Lenient (call : Call) : Prop := ∃ adminId, call = .deactivateAdmin adminId

/-- What a call that is not denied has revoked, or is still to revoke. -/
def Sure (call : Call) (target : Target) (done : Prop) (todo : List Statement) : Prop :=
  (∀ t ∈ call.target, target = t) ∧ (call.Lenient ∨ done ∨ must .revoke ∈ todo)

def Underway (call : Call) : Phase → Prop
  | .running target todo revoked .done => Sure call target (revoked = true) todo
  | .found target _ bestEffort todo revoked .done => Sure call target (revoked = true ∨ bestEffort = false) todo
  | .deleteAccount userId _ => ∀ t ∈ call.target, Target.entity .customer userId = t
  | .resetPassword _ _ => call.target = none
  | _ => True

section
variable {call : Call} {ι : Type*} [DecidableEq ι] {hash : String → String} {r r' : Redis} {phase phase' : Phase}
  {e : Event}
  {key : String} {target : Target} {todo : List Statement} {revoked bestEffort : Bool} {result : Result}
  {command : Command} {outcome : Except (Option AppError) Unit} {f : Redis → Redis} {d : Delivery}

/-! ### The key -/

theorem get_apply (hf : (f r).get key = none) (h : r.get key = none) : (d.apply f r).get key = none := by
  unfold Delivery.apply
  split_ifs
  · exact hf
  · exact h

/-- No command of a revocation brings a key back. -/
theorem get_runStatement (h : runStatement r target todo revoked result d command bestEffort = some (r', phase'))
    (hnone : r.get key = none) : r'.get key = none := by
  unfold runStatement at h
  split at h
  · cases h
  · cases h
    exact get_apply (get_del hnone) hnone
  · split at h
    · cases h
      exact get_apply (get_del hnone) hnone
    · cases h
      exact hnone

theorem get_next (h : next hash r phase e = some (r', phase')) (hstores : ¬ Stores key phase e)
    (hnone : r.get key = none) : r'.get key = none := by
  unfold next at h
  split at h
  · cases h
    exact get_advance hnone
  · cases h
    exact hnone
  · cases h
    exact hnone
  · cases h
    exact hnone
  · cases h
    exact hnone
  · split_ifs at h
    cases h
    exact hnone
  · cases h
    exact hnone
  · cases h
    exact get_apply (get_del hnone) hnone
  · -- Another session's token may be stored.
    rename_i role data stored newRefresh createdAt d
    cases h
    unfold Delivery.apply
    split_ifs with hexecuted
    · have hne : key ≠ RefreshData.key role data := by
        rintro rfl
        exact hstores (.store rfl hexecuted)
      unfold MerchantSession.set
      rw [get_setEx_of_ne hne]
      exact hnone
    · exact hnone
  · cases h
    exact hnone
  · cases h
    exact hnone
  · cases h
    exact hnone
  · cases h
    exact hnone
  · cases h
    exact hnone
  · cases h
    exact hnone
  · exact get_runStatement h hnone
  · cases h
    exact get_apply (get_delAll hnone) hnone
  · cases h

theorem get_of_stores (hstores : Stores key phase e) (h : next hash r phase e = some (r', phase')) :
    r'.get key ≠ none := by
  cases hstores with
  | @store role data stored newRefresh createdAt d hkey hexecuted =>
    cases h
    unfold Delivery.apply MerchantSession.set
    rw [if_pos hexecuted, hkey, get_setEx_self]
    exact Option.some_ne_none _

theorem not_past_of_stores (hstores : Stores key phase e) : ¬ Past key phase := by
  cases hstores with
  | store _ _ => exact id

/-! ### What makes a call past its revocation -/

theorem past_after (h : Past key (after target bestEffort todo revoked result outcome)) :
    target.covers key = true ∧ revoked = true := by
  unfold after at h
  split at h
  · exact h
  · split_ifs at h
    · exact h
    · exact h

theorem past_of_runStatement
    (h : runStatement r target todo revoked result d command bestEffort = some (r', phase')) (hpast : Past key phase') :
    (target.covers key = true ∧ revoked = true) ∨ r'.get key = none := by
  unfold runStatement at h
  split at h
  · cases h
  · cases h
    exact .inl (past_after hpast)
  · split at h
    · -- The session's key is deleted.
      cases h
      obtain ⟨hkey, hrevoked⟩ := past_after hpast
      rcases Bool.or_eq_true_iff.mp hrevoked with hrevoked | hexecuted
      · exact .inl ⟨hkey, hrevoked⟩
      · right
        rw [Target.covers, decide_eq_true_eq] at hkey
        unfold Delivery.apply
        rw [if_pos hexecuted, hkey]
        exact get_del_self
    · cases h
      split at hpast
      · obtain ⟨hkey, hrevoked | hmissed⟩ := hpast
        · exact .inl ⟨hkey, hrevoked⟩
        · exact .inr (get_of_keys hmissed hkey)
      · exact .inl (past_after hpast)

theorem not_past_preCheck {role : Role} {data : RefreshData} {found : Option Value} :
    ¬ Past key (preCheck hash role data found) := by
  unfold preCheck
  dsimp only
  split
  · split_ifs <;> exact id
  · split_ifs <;> exact id
  · split_ifs <;> exact id

theorem not_past_afterAccount {role : Role} {data : RefreshData} {stored : StoredSession} {account : Account} :
    ¬ Past key (afterAccount role data stored account) := by
  unfold afterAccount
  split
  · exact id
  · exact fun hpast => absurd hpast.2 Bool.false_ne_true

theorem not_past_afterReset {role : Role} {token : String} {found : Option Value} :
    ¬ Past key (afterReset role token found) := by
  unfold afterReset
  split
  · split_ifs
    · exact id
    · exact fun hpast => absurd hpast.2 Bool.false_ne_true
  · exact id
  · exact id

theorem not_past_afterAction {userId actionToken : String} {found : Option Value} :
    ¬ Past key (afterAction userId actionToken found) := by
  unfold afterAction
  split_ifs
  · exact fun hpast => absurd hpast.2 Bool.false_ne_true
  · exact id

/-- A call comes past its revocation by a step that leaves the key gone. -/
theorem past_of_next (h : next hash r phase e = some (r', phase')) (hpast : Past key phase') :
    Past key phase ∨ r'.get key = none := by
  unfold next at h
  split at h
  · cases h
    exact .inl hpast
  · cases h
    exact absurd hpast not_past_preCheck
  · cases h
    exact hpast.elim
  · cases h
    exact hpast.elim
  · cases h
    exact hpast.elim
  · split_ifs at h
    cases h
    exact absurd hpast not_past_afterAccount
  · cases h
    exact hpast.elim
  · cases h
    split at hpast <;> exact hpast.elim
  · cases h
    split at hpast <;> exact hpast.elim
  · cases h
    split at hpast <;> exact hpast.elim
  · cases h
    exact absurd hpast not_past_afterReset
  · cases h
    exact hpast.elim
  · cases h
    exact absurd hpast not_past_afterAction
  · cases h
    exact hpast.elim
  · cases h
    exact .inl (past_after hpast)
  · exact past_of_runStatement h hpast
  · -- The keys that were told are deleted.
    rename_i target keys bestEffort todo revoked result d
    cases h
    obtain ⟨hkey, hrevoked⟩ := past_after hpast
    rcases Bool.or_eq_true_iff.mp hrevoked with hrevoked | hexecuted
    · exact .inl ⟨hkey, .inl hrevoked⟩
    · cases hfound : keys key with
      | false => exact .inl ⟨hkey, .inr hfound⟩
      | true =>
        right
        unfold Delivery.apply
        rw [if_pos hexecuted]
        exact get_delAll_of_found hfound
  · cases h

theorem not_past_start {policy : String → Bool} {call : Call} : ¬ Past key (call.start policy) := by
  cases call with
  | refresh _ _ | deleteAccount _ _ => exact id
  | resetPasswordCustomer _ _ | resetPasswordAdmin _ _ =>
    dsimp only [Call.start, resetPassword]
    split_ifs <;> exact id
  | logoutCustomer _ _ | logoutBranchUser _ _ | logoutAdmin _ _ | resetBranchUserPassword _ | deactivateBranchUser _
  | deactivateAdmin _ => exact fun hpast => absurd hpast.2 Bool.false_ne_true

/-- A step keeps the promise exactly if it stores no token under the key of a revoked session. -/
theorem final_step {s s' : Pool ι Redis Phase} {a : ι × Event} (hs : Final key s) (h : step hash s a = some s') :
    Final key s' ↔ ¬ ((∃ j, Past key (s.proc j)) ∧ Stores key (s.proc a.1) a.2) := by
  obtain ⟨store, phase, hn, rfl⟩ := poolStep_eq_some.mp h
  constructor
  · rintro hfinal ⟨⟨j, hj⟩, hstores⟩
    have hne : j ≠ a.1 := by
      rintro rfl
      exact not_past_of_stores hstores hj
    refine get_of_stores hstores hn (hfinal j ?_)
    dsimp only
    rwa [Function.update_of_ne hne]
  · intro hno j hj
    dsimp only at hj ⊢
    have hkeep (hpast : ∃ j, Past key (s.proc j)) : store.get key = none := by
      obtain ⟨k, hk⟩ := hpast
      exact get_next hn (fun hstores => hno ⟨⟨k, hk⟩, hstores⟩) (hs k hk)
    rcases eq_or_ne j a.1 with rfl | hne
    · rw [Function.update_self] at hj
      rcases past_of_next hn hj with hpast | hnone
      · exact hkeep ⟨_, hpast⟩
      · exact hnone
    · rw [Function.update_of_ne hne] at hj
      exact hkeep ⟨j, hj⟩

/-! ### Calls that are over -/

theorem Sure.mono {done done' : Prop} {todo' : List Statement} (h : Sure call target done todo)
    (hdone : done → done' ∨ must .revoke ∈ todo') (htodo : must .revoke ∈ todo → done' ∨ must .revoke ∈ todo') :
    Sure call target done' todo' := by
  obtain ⟨htarget, hsure⟩ := h
  refine ⟨htarget, ?_⟩
  rcases hsure with hlenient | h | h
  · exact .inl hlenient
  · exact .inr (hdone h)
  · exact .inr (htodo h)

/-- A statement that fails ends the call, unless its errors are swallowed. -/
theorem underway_after (h : result = .done → outcome = .ok () ∨ bestEffort = true →
    Sure call target (revoked = true) todo) :
    Underway call (after target bestEffort todo revoked result outcome) := by
  unfold after
  split
  · cases result with
    | done => exact h rfl (.inl rfl)
    | denied _ | aborted _ => trivial
  · split_ifs with hbest
    · cases result with
      | done => exact h rfl (.inr hbest)
      | denied _ | aborted _ => trivial
    · trivial

theorem mem_of_mem_cons {s : Statement} (h : must .revoke ∈ s :: todo) (hs : s.command ≠ .revoke) :
    must .revoke ∈ todo := by
  rcases List.mem_cons.mp h with rfl | h
  · exact absurd rfl hs
  · exact h

theorem outcome_ok (h : Delivery.outcome d = .ok ()) : d.executed = true := by
  cases d with
  | delivered => rfl
  | lost executed => cases h

theorem underway_runStatement (hu : Underway call (.running target (⟨command, bestEffort⟩ :: todo) revoked result))
    (h : runStatement r target todo revoked result d command bestEffort = some (r', phase')) :
    Underway call phase' := by
  unfold runStatement at h
  split at h
  · cases h
  · cases h
    refine underway_after fun hdone _ => ?_
    subst hdone
    exact hu.mono .inl fun hmem => .inr (mem_of_mem_cons hmem (by simp))
  · split at h
    · -- The session's key is deleted, unless the error is swallowed.
      cases h
      refine underway_after fun hdone hok => ?_
      subst hdone
      refine hu.mono (fun hrevoked => .inl (by rw [hrevoked, Bool.true_or])) fun hmem => ?_
      rcases List.mem_cons.mp hmem with heq | hmem
      · cases heq
        rcases hok with hok | hbest
        · exact .inl (by rw [outcome_ok hok, Bool.or_true])
        · cases hbest
      · exact .inr hmem
    · cases h
      split
      · cases result with
        | denied _ | aborted _ => trivial
        | done =>
          refine hu.mono (fun hrevoked => .inl (.inl hrevoked)) fun hmem => ?_
          rcases List.mem_cons.mp hmem with heq | hmem
          · cases heq
            exact .inl (.inr rfl)
          · exact .inr hmem
      · refine underway_after fun hdone hok => ?_
        subst hdone
        refine hu.mono .inl fun hmem => ?_
        rcases List.mem_cons.mp hmem with heq | hmem
        · cases heq
          rcases hok with hok | hbest
          · cases hok
          · cases hbest
        · exact .inr hmem

theorem underway_next (hu : Underway call phase) (h : next hash r phase e = some (r', phase')) :
    Underway call phase' := by
  unfold next at h
  split at h
  · cases h
    exact hu
  · cases h
    unfold preCheck
    dsimp only
    split <;> split_ifs <;> trivial
  · cases h
    trivial
  · cases h
    trivial
  · cases h
    trivial
  · split_ifs at h
    cases h
    unfold afterAccount
    split <;> trivial
  · cases h
    trivial
  · cases h
    split <;> trivial
  · cases h
    split <;> trivial
  · cases h
    split <;> trivial
  · cases h
    unfold afterReset
    split
    · split_ifs
      · trivial
      · refine ⟨fun t ht => ?_, .inr (.inr (by simp [revokeAccount]))⟩
        rw [show call.target = none from hu] at ht
        cases ht
    · trivial
    · trivial
  · cases h
    trivial
  · cases h
    unfold afterAction
    split_ifs
    · exact ⟨hu, .inr (.inr (by simp [revokeAccount]))⟩
    · trivial
  · cases h
    trivial
  · cases h
    refine underway_after fun hdone _ => ?_
    subst hdone
    exact hu.mono .inl fun hmem => .inr (mem_of_mem_cons hmem (by simp))
  · exact underway_runStatement hu h
  · rename_i target keys bestEffort todo revoked result d
    cases h
    refine underway_after fun hdone hok => ?_
    subst hdone
    refine hu.mono (fun hsure => .inl ?_) .inr
    rcases hsure with hrevoked | hbest
    · rw [hrevoked, Bool.true_or]
    · rcases hok with hok | hbest'
      · rw [outcome_ok hok, Bool.or_true]
      · rw [hbest] at hbest'
        cases hbest'
  · cases h

theorem underway_start {policy : String → Bool} : Underway call (call.start policy) := by
  have hself {t : Target} : ∀ u ∈ some t, t = u := fun _ hu => Option.some.inj hu
  cases call with
  | refresh _ _ => trivial
  | deleteAccount _ _ => exact hself
  | resetPasswordCustomer _ _ | resetPasswordAdmin _ _ =>
    dsimp only [Call.start, resetPassword]
    split_ifs
    · exact rfl
    · trivial
  | logoutCustomer _ _ | logoutBranchUser _ _ | logoutAdmin _ _ => exact ⟨hself, .inr (.inr (List.mem_cons_self ..))⟩
  | resetBranchUserPassword _ | deactivateBranchUser _ => exact ⟨hself, .inr (.inr (by simp [revokeAccount]))⟩
  | deactivateAdmin adminId => exact ⟨hself, .inl ⟨adminId, rfl⟩⟩

/-- The pattern of an account matches the keys of its sessions. -/
theorem covers_session {role : Role} {entityId sessionId : String} :
    (Target.entity role entityId).covers (RedisKey.session role entityId sessionId) = true := by
  unfold Target.covers RedisKey.session MerchantSession.RedisKey.refreshToken
  rw [List.isPrefixOf_iff_prefix]
  exact ⟨sessionId.toList, String.toList_append.symm⟩

/-! ### Runs -/

/-- Any store at any time, and no call has begun. -/
def opened (policy : String → Bool) (calls : ι → Call) (r : Redis) : Pool ι Redis Phase :=
  ⟨r, fun i => (calls i).start policy⟩

theorem underway_run {policy : String → Bool} {calls : ι → Call} {as : List (ι × Event)} {s : Pool ι Redis Phase}
    (h : run (step hash) (opened policy calls r) as = some s) (i : ι) : Underway (calls i) (s.proc i) := by
  refine (pool_invariant (J := fun _ => True) (K := fun i _ phase => Underway (calls i) phase) ?_ ?_ ?_ h).2 i
  · exact fun i r phase e r' phase' _ hu hn => ⟨trivial, underway_next hu hn⟩
  · exact fun i j r phase other e r' phase' _ _ _ hu _ => hu
  · exact ⟨trivial, fun i => underway_start⟩

/-- The key of a revoked session stays gone throughout an interleaving of any number of refreshes and revocations
    exactly if no refresh stores a token under it. A logout, a reset of a password, a deletion or a deactivation that
    is done has revoked what it is to revoke, unless it is an admin's deactivation, which swallows its errors; and a
    refresh that reads the key while it is gone is refused. -/
theorem revocation_final_iff {policy : String → Bool} {calls : ι → Call} {role : Role} {entityId sessionId : String}
    {as : List (ι × Event)} :
    (Throughout (step hash) (Final (RedisKey.session role entityId sessionId)) (opened policy calls r) as ↔
      Along (step hash) (fun s a => ¬ ((∃ j, Past (RedisKey.session role entityId sessionId) (s.proc j)) ∧
        Stores (RedisKey.session role entityId sessionId) (s.proc a.1) a.2)) (opened policy calls r) as) ∧
    ∀ s, run (step hash) (opened policy calls r) as = some s →
      (∀ i target revoked, s.proc i = .running target [] revoked .done → ¬ (calls i).Lenient →
        (∀ t ∈ (calls i).target, target = t) ∧
        (target = .session role entityId sessionId ∨ target = .entity role entityId →
          Past (RedisKey.session role entityId sessionId) (s.proc i))) ∧
      ∀ i data t, s.proc i = .refresh role data → data.entityId = entityId → data.sessionId = sessionId →
        s.store.get (RedisKey.session role entityId sessionId) = none →
        step hash s (i, .command .delivered) = some t →
        t.proc i = .mistaken data ∨ t.proc i = .failed (some .REFRESH_TOKEN_INVALID) := by
  refine ⟨?_, fun s h => ⟨fun i target revoked hover hsure => ?_, fun i data t hi hentity hsession hnone ht => ?_⟩⟩
  · refine throughout_iff_along_of_refused (K := fun _ => True) (fun s a hrefused => ?_) (fun _ _ _ _ _ => trivial)
      (fun s a s' _ hs h => final_step hs h) trivial fun j hpast => absurd hpast not_past_start
    rintro ⟨-, hstores⟩
    rw [step, poolStep, Option.map_eq_none_iff] at hrefused
    obtain ⟨i, e⟩ := a
    dsimp only at hrefused hstores
    generalize s.proc i = phase at hrefused hstores
    cases hstores with
    | store _ _ => cases hrefused
  · have hunder : Underway (calls i) (.running target [] revoked .done) := hover ▸ underway_run h i
    obtain ⟨htarget, hlenient | hrevoked | hmem⟩ := hunder
    · exact absurd hlenient hsure
    · refine ⟨htarget, fun hcovers => ?_⟩
      rw [hover]
      refine ⟨?_, hrevoked⟩
      rcases hcovers with rfl | rfl
      · exact decide_eq_true rfl
      · exact covers_session
    · cases hmem
  · subst hentity hsession
    obtain ⟨store, phase, hn, rfl⟩ := poolStep_eq_some.mp ht
    rw [hi] at hn
    cases hn
    dsimp only
    rw [Function.update_self, RefreshData.key, hnone]
    unfold preCheck
    dsimp only
    split_ifs
    · exact .inl rfl
    · exact .inr rfl

end

/-! ### A logout between the two commands of a refresh -/

def device : StoredSession := ⟨"r1", "d", "ios", none, "t0"⟩

def presented : RefreshData := ⟨"r1", "s", "u"⟩

/-- One live session. -/
def live : Redis where
  entries key := if key = RedisKey.session .customer "u" "s" then some ⟨.session device, (90 : ℕ)⟩ else none
  now := 0

def refreshMeetsLogout : Bool → Call
  | false => .refresh .customer presented
  | true => .logoutCustomer "u" "s"

/-- The logout comes, and ends, when the refresh has deleted the key. -/
def lateStore : List (Bool × Event) :=
  [(false, .command .delivered), (false, .account (.customer (some .ACTIVE))), (false, .command .delivered),
    (true, .command .delivered), (true, .database (.ok ())), (true, .command .delivered),
    (false, .store "r2" "t1" .delivered), (false, .database (.ok ()))]

theorem logout_undone :
    ∃ s, run (step id) (opened (fun _ => true) refreshMeetsLogout live) lateStore = some s ∧
      s.proc false = .returned .customer presented "r2" ∧
      s.proc true = .running (.session .customer "u" "s") [] true .done ∧
      s.store.get (RedisKey.session .customer "u" "s") ≠ none ∧ ¬ Final (RedisKey.session .customer "u" "s") s := by
  have hset (r : Redis) (key : String) (value : Value) :
      (MerchantSession.set r key value REFRESH_TOKEN_TTL_SECONDS).get key ≠ none := by
    rw [MerchantSession.set, get_setEx_self]
    exact Option.some_ne_none _
  have hcovers : (Target.session .customer "u" "s").covers (RedisKey.session .customer "u" "s") = true := by
    rw [Target.covers, decide_eq_true_eq]
  refine ⟨_, rfl, rfl, rfl, hset _ (RedisKey.session .customer "u" "s") _, fun hfinal => ?_⟩
  exact hset _ (RedisKey.session .customer "u" "s") _ (hfinal true ⟨hcovers, rfl⟩)

end Redeemo.AuthSessions
