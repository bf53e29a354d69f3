import Redeemo.Merchant.Sessions

/-! A logout lasts.

    Once a logout is over for a session, its refresh-token key is gone or a tombstone outlives it (`Revoked`), and
    no step of any call undoes that (`Revoked.next`): the script refuses and deletes both keys while the tombstone
    is there, and a tombstone that has expired has outlived the key. A token is exchanged while its hash is the one
    stored, and each exchange stores the hash of a token drawn for it, so no token is exchanged twice. -/

namespace Redeemo.MerchantSession

open Runs Expiring

/-! ### Keys -/

/-- Texts that begin with different characters. -/
theorem ne_of_head {s t x y : String} {c d : Char} (hs : s.toList.head? = some c) (ht : t.toList.head? = some d)
    (hcd : c ≠ d) : s ++ x ≠ t ++ y := by
  intro h
  have hheads : (s ++ x).toList.head? = (t ++ y).toList.head? := by rw [h]
  rw [String.toList_append, String.toList_append, List.head?_append, List.head?_append, hs, ht] at hheads
  exact hcd (Option.some.inj hheads)

namespace Identity

variable {id id' : Identity}

/-- The part of a session's keys that is its own. -/
def suffix (id : Identity) : String := id.entityId ++ ":" ++ id.sessionId

theorem tokenKey_eq : id.tokenKey = "refresh:" ++ ("merchant" ++ (":" ++ id.suffix)) := by
  unfold tokenKey RedisKey.refreshToken suffix
  rw [String.append_assoc, String.append_assoc, String.append_assoc, String.append_assoc, String.append_assoc]

theorem tombstoneKey_eq : id.tombstoneKey = "session-revoked:" ++ ("merchant" ++ (":" ++ id.suffix)) := by
  unfold tombstoneKey RedisKey.sessionRevoked suffix
  rw [String.append_assoc, String.append_assoc, String.append_assoc, String.append_assoc, String.append_assoc]

/-- Sessions that share one key share the other. -/
theorem tokenKey_eq_iff : id.tokenKey = id'.tokenKey ↔ id.tombstoneKey = id'.tombstoneKey := by
  rw [tokenKey_eq, tokenKey_eq, tombstoneKey_eq, tombstoneKey_eq]
  simp only [String.append_right_inj]

theorem tokenKey_ne_tombstoneKey : id.tokenKey ≠ id'.tombstoneKey := by
  rw [tokenKey_eq, tombstoneKey_eq]
  exact ne_of_head rfl rfl (by decide)

end Identity

theorem authMerchant_ne {entityId : String} {id : Identity} :
    id.tokenKey ≠ RedisKey.authMerchant entityId ∧ id.tombstoneKey ≠ RedisKey.authMerchant entityId := by
  rw [Identity.tokenKey_eq, Identity.tombstoneKey_eq, RedisKey.authMerchant]
  exact ⟨ne_of_head rfl rfl (by decide), ne_of_head rfl rfl (by decide)⟩

/-! ### What a step writes -/

/-- The milliseconds that a refresh token and a tombstone live. -/
def lifetime : ℕ := 1000 * REFRESH_TOKEN_TTL_SECONDS

/-- Everything that a step may do to the store. -/
inductive Write (r : Redis) : Redis → Prop
  | stay : Write r r
  | tick (ms : ℕ) : Write r (r.advance ms)
  | delToken (id : Identity) : Write r (r.del id.tokenKey)
  | delCache (entityId : String) : Write r (r.del (RedisKey.authMerchant entityId))
  | mark (id : Identity) : Write r (r.setEx id.tombstoneKey (.text "1") lifetime)
  /-- The script met a tombstone. -/
  | enforce (id : Identity) : Write r ((r.del id.tokenKey).del id.tombstoneKey)
  /-- The script exchanged the token. -/
  | exchange (id : Identity) (stored new : StoredSession) : r.get id.tombstoneKey = none →
      r.get id.tokenKey = some (.session stored) → Write r (r.setEx id.tokenKey (.session new) lifetime)

/-- What the script does, by its result. -/
theorem rotate_cases (id : Identity) (expectedHash : String) (new : StoredSession) (r : Redis) :
    (∃ reason, rotateMerchantRefreshTokenAtomic id expectedHash new REFRESH_TOKEN_TTL_SECONDS r = (.refused reason, r) ∧
      r.get id.tombstoneKey = none) ∨
    (rotateMerchantRefreshTokenAtomic id expectedHash new REFRESH_TOKEN_TTL_SECONDS r =
      (.refused .revoked, (r.del id.tokenKey).del id.tombstoneKey)) ∨
    ∃ stored, r.get id.tombstoneKey = none ∧ r.get id.tokenKey = some (.session stored) ∧
      stored.tokenHash = expectedHash ∧
      rotateMerchantRefreshTokenAtomic id expectedHash new REFRESH_TOKEN_TTL_SECONDS r =
        (.ok, r.setEx id.tokenKey (.session new) lifetime) := by
  rw [rotateMerchantRefreshTokenAtomic, ROTATE_LUA]
  cases htomb : r.get id.tombstoneKey with
  | some v => exact .inr (.inl rfl)
  | none =>
    cases htoken : r.get id.tokenKey with
    | none => exact .inl ⟨_, rfl, rfl⟩
    | some v =>
      cases v with
      | text s => exact .inl ⟨_, rfl, rfl⟩
      | session stored =>
        dsimp only
        split_ifs with hne
        · exact .inl ⟨_, rfl, rfl⟩
        · exact .inr (.inr ⟨stored, rfl, rfl, not_not.mp hne, rfl⟩)

theorem write_rotate (id : Identity) (expectedHash : String) (new : StoredSession) (r : Redis) :
    Write r (rotateMerchantRefreshTokenAtomic id expectedHash new REFRESH_TOKEN_TTL_SECONDS r).2 := by
  rcases rotate_cases id expectedHash new r with ⟨reason, h, -⟩ | h | ⟨stored, htomb, htoken, -, h⟩
  · rw [h]
    exact .stay
  · rw [h]
    exact .enforce id
  · rw [h]
    exact .exchange id stored new htomb htoken

/-- A command, executed or not. -/
theorem write_apply {f : Redis → Redis} {r : Redis} (d : Delivery) (h : Write r (f r)) : Write r (d.apply f r) := by
  rw [Delivery.apply]
  split_ifs
  · exact h
  · exact .stay

variable {hash : String → String} {verify : String → Option Claims} {r r' : Redis} {phase phase' : Phase} {ev : Event}

theorem write_next (h : next hash verify r phase ev = some (r', phase')) : Write r r' := by
  unfold next at h
  split at h <;> cases h
  · exact .tick _
  · exact .stay
  · exact .stay
  · exact .stay
  · exact write_apply _ (write_rotate ..)
  · exact .stay
  · exact write_apply _ (.delToken _)
  · exact write_apply _ (.mark _)
  · exact .stay
  · exact .stay
  · exact write_apply _ (.delToken _)
  · exact write_apply _ (.delCache _)

/-! ### Sessions that are over -/

/-- A tombstone stays at least as long as the refresh-token key, if there is one at all. -/
def Revoked (r : Redis) (id : Identity) : Prop := r.Outlives id.tombstoneKey id.tokenKey

/-- No refresh token outlives a tombstone written now. -/
def Bounded (r : Redis) : Prop := ∀ id : Identity, r.Within lifetime id.tokenKey

theorem Bounded.write (hb : Bounded r) (h : Write r r') : Bounded r' := by
  intro id
  cases h with
  | stay => exact hb id
  | tick ms => exact (hb id).advance
  | delToken id' => exact (hb id).del
  | delCache entityId => exact (hb id).del
  | mark id' => exact (hb id).setEx
  | enforce id' => exact (hb id).del.del
  | exchange id' stored new _ _ => exact (hb id).setEx

/-- A session that is over stays over, whatever a step writes. -/
theorem Revoked.write {id : Identity} (hr : Revoked r id) (hb : Bounded r) (h : Write r r') : Revoked r' id := by
  cases h with
  | stay => exact hr
  | tick ms => exact hr.advance
  | delToken id' => exact hr.del Identity.tokenKey_ne_tombstoneKey.symm
  | delCache entityId => exact hr.del authMerchant_ne.2
  | mark id' =>
    by_cases hid : id.tombstoneKey = id'.tombstoneKey
    · rw [Revoked, hid]
      exact outlives_setEx (hb id) Identity.tokenKey_ne_tombstoneKey
    · exact hr.setEx hid Identity.tokenKey_ne_tombstoneKey
  | enforce id' =>
    by_cases hid : id.tokenKey = id'.tokenKey
    · refine outlives_of_none ?_
      rw [entries_del_of_ne Identity.tokenKey_ne_tombstoneKey, hid, entries_del_self]
    · exact (hr.del Identity.tokenKey_ne_tombstoneKey.symm).del fun he => hid (Identity.tokenKey_eq_iff.mpr he)
  | exchange id' stored new htomb htoken =>
    by_cases hid : id.tokenKey = id'.tokenKey
    · -- While the key is there, so is the tombstone: the script does not come to an exchange.
      obtain ⟨v, hv⟩ := Outlives.get hr (hid ▸ htoken)
      rw [Identity.tokenKey_eq_iff.mp hid, htomb] at hv
      cases hv
    · exact hr.setEx Identity.tokenKey_ne_tombstoneKey.symm hid

/-- A refresh-token key that is not there does not come back. -/
theorem gone_write {id : Identity} (hgone : r.get id.tokenKey = none) (h : Write r r') : r'.get id.tokenKey = none := by
  cases h with
  | stay => exact hgone
  | tick ms => exact get_advance hgone
  | delToken id' => exact get_del hgone
  | delCache entityId => exact get_del hgone
  | mark id' => exact (get_setEx_of_ne Identity.tokenKey_ne_tombstoneKey).trans hgone
  | enforce id' => exact get_del (get_del hgone)
  | exchange id' stored new _ htoken =>
    by_cases hid : id.tokenKey = id'.tokenKey
    · rw [← hid, hgone] at htoken
      cases htoken
    · exact (get_setEx_of_ne hid).trans hgone

/-- The script refuses a session that is over, and leaves no refresh-token key. -/
theorem rotate_revoked {id : Identity} (hr : Revoked r id) (expectedHash : String) (new : StoredSession) :
    ∃ reason, (rotateMerchantRefreshTokenAtomic id expectedHash new REFRESH_TOKEN_TTL_SECONDS r).1 = .refused reason ∧
      (rotateMerchantRefreshTokenAtomic id expectedHash new REFRESH_TOKEN_TTL_SECONDS r).2.get id.tokenKey = none := by
  rcases rotate_cases id expectedHash new r with ⟨reason, h, htomb⟩ | h | ⟨stored, htomb, htoken, -, -⟩
  · rw [h]
    refine ⟨reason, rfl, ?_⟩
    rw [Option.eq_none_iff_forall_ne_some]
    intro v hv
    obtain ⟨v', hv'⟩ := Outlives.get hr hv
    rw [htomb] at hv'
    cases hv'
  · rw [h]
    refine ⟨.revoked, rfl, get_del (get_eq_none ?_)⟩
    exact entries_del_self
  · obtain ⟨v, hv⟩ := Outlives.get hr htoken
    rw [htomb] at hv
    cases hv

/-- What a logout that has dealt with the session is going to return, or has returned. -/
def Ended (id : Identity) : Phase → Prop
  | .evicting proof _ revoke => (proof = .signed id ∨ proof = .possession id) ∧ revoke ≠ .unavailable
  | .loggedOut proof revoke => (proof = .signed id ∨ proof = .possession id) ∧ revoke ≠ .unavailable
  | _ => False

/-- The call has exchanged this token of the session. -/
def Exchanged (id : Identity) (token : String) (phase : Phase) : Prop :=
  ∃ data newRefresh, phase = .exchanged data newRefresh ∧ data.identity.tokenKey = id.tokenKey ∧
    data.refreshToken = token

theorem revoked_del (r : Redis) (id : Identity) : Revoked (r.del id.tokenKey) id := outlives_of_none entries_del_self

theorem revoked_mark (hb : Bounded r) (id : Identity) : Revoked (markRevoked id r) id :=
  outlives_setEx (hb id) Identity.tokenKey_ne_tombstoneKey

/-- A phase in which nothing is exchanged and nothing is promised about a session. -/
inductive Quiet : Phase → Prop
  | checked (data : RefreshData) (stored : StoredSession) : Quiet (.checked data stored)
  | admitted (data : RefreshData) (stored : StoredSession) : Quiet (.admitted data stored)
  | refused (data : RefreshData) (reason : RotateRefusalReason) : Quiet (.refused data reason)
  | failed (e : Option AppError) : Quiet (.failed e)
  | revoking (id : Identity) (attempt : ℕ) : Quiet (.revoking id attempt)
  | marking (id : Identity) : Quiet (.marking id)
  | possessing (id : Identity) (token : String) : Quiet (.possessing id token)
  | possessed (id : Identity) : Quiet (.possessed id)
  | unproven (revoke : MerchantLogoutRevokeOutcome) : Quiet (.loggedOut .missing revoke)
  | unavailable (proof : Proof) : Quiet (.loggedOut proof .unavailable)

theorem Quiet.not_ended {id : Identity} (h : Quiet phase) : ¬ Ended id phase := by
  intro he
  cases h with
  | unproven revoke => obtain ⟨hproof | hproof, -⟩ := he <;> cases hproof
  | unavailable proof => exact he.2 rfl
  | _ => exact he

theorem Quiet.not_exchanged {id : Identity} {token : String} (h : Quiet phase) : ¬ Exchanged id token phase := by
  rintro ⟨data, newRefresh, rfl, -, -⟩
  cases h

theorem quiet_preCheck {data : RefreshData} {found : Option Value} : Quiet (preCheck hash data found) := by
  unfold preCheck
  split
  · exact .failed _
  · split_ifs <;> exact .failed _
  · split_ifs
    · exact .checked _ _
    · exact .failed _

theorem quiet_afterMembership {data : RefreshData} {stored : StoredSession}
    {found : Except AppError (Option MerchantStatus)} : Quiet (afterMembership data stored found) := by
  unfold afterMembership
  split
  · exact .failed _
  · split_ifs
    · exact .failed _
    · exact .admitted _ _

/-- Without proof nothing is promised about any session. -/
theorem quiet_logoutWay {data : LogoutData} : Quiet (logoutWay verify data) := by
  unfold logoutWay
  split
  · exact .revoking _ _
  · split
    · exact .possessing _ _
    · exact .unproven _

theorem quiet_checkPossession {id : Identity} {token : String} {found : Option Value} :
    Quiet (checkPossession hash id token found) := by
  unfold checkPossession
  split
  · split_ifs
    · exact .possessed _
    · exact .unavailable _
  · exact .unavailable _

/-- A deletion that fails is tried again, or a tombstone is. -/
theorem quiet_retry {id : Identity} {attempt : ℕ} :
    Quiet (if attempt < REVOKE_MAX_ATTEMPTS then .revoking id (attempt + 1) else .marking id) := by
  split_ifs
  · exact .revoking _ _
  · exact .marking _

theorem ended_afterRotate {id : Identity} {data : RefreshData} {newRefresh : String} : ∀ {result : RotateResult},
    ¬ Ended id (afterRotate data newRefresh result)
  | .ok => False.elim
  | .refused _ => False.elim

/-- What a call has promised about a session holds, once it has promised it. -/
theorem ended_next (h : next hash verify r phase ev = some (r', phase')) (hb : Bounded r)
    (hk : ∀ id, Ended id phase → Revoked r id) : ∀ id, Ended id phase' → Revoked r' id := by
  intro id he
  have hw := write_next h
  unfold next at h
  split at h <;> cases h
  · exact (hk id he).write hb hw
  · exact absurd he quiet_preCheck.not_ended
  · exact he.elim
  · exact absurd he quiet_afterMembership.not_ended
  · rename_i d
    cases d with
    | delivered => exact absurd he ended_afterRotate
    | lost executed => exact he.elim
  · exact absurd he quiet_logoutWay.not_ended
  · rename_i id' attempt d
    cases d with
    | delivered =>
      obtain ⟨hproof | hproof, -⟩ := he <;> cases hproof
      exact revoked_del r id
    | lost executed => exact absurd he quiet_retry.not_ended
  · rename_i id' d
    cases d with
    | delivered =>
      obtain ⟨hproof | hproof, -⟩ := he <;> cases hproof
      exact revoked_mark hb id
    | lost executed => exact absurd rfl he.2
  · exact absurd he quiet_checkPossession.not_ended
  · exact absurd rfl he.2
  · rename_i id' d
    cases d with
    | delivered =>
      obtain ⟨hproof | hproof, -⟩ := he <;> cases hproof
      exact revoked_del r id
    | lost executed => exact absurd rfl he.2
  · exact (hk id he).write hb hw

/-! ### Tokens that are exchanged -/

/-- The hash under the refresh-token key, expired or not. -/
def storedHash (r : Redis) (id : Identity) : Option String :=
  match r.entries id.tokenKey with
  | some ⟨.session stored, _⟩ => some stored.tokenHash
  | _ => none

theorem storedHash_eq {id : Identity} {stored : StoredSession} (h : r.get id.tokenKey = some (.session stored)) :
    storedHash r id = some stored.tokenHash := by
  obtain ⟨e, he, hv, -⟩ := get_eq_some.mp h
  rw [storedHash, he]
  cases e with
  | mk value expiresAt =>
    cases hv
    rfl

theorem storedHash_of_entries {id : Identity} (h : r'.entries id.tokenKey = r.entries id.tokenKey) :
    storedHash r' id = storedHash r id := by
  rw [storedHash, storedHash, h]

theorem storedHash_of_none {id : Identity} (h : r.entries id.tokenKey = none) : storedHash r id = none := by
  rw [storedHash, h]

/-- The session's hash stays or is deleted. -/
def Calm (r r' : Redis) (id : Identity) : Prop := storedHash r' id = storedHash r id ∨ storedHash r' id = none

theorem calm_refl (r : Redis) (id : Identity) : Calm r r id := .inl rfl

theorem calm_del_token (id id' : Identity) : Calm r (r.del id'.tokenKey) id := by
  by_cases hid : id.tokenKey = id'.tokenKey
  · refine .inr (storedHash_of_none ?_)
    rw [hid, entries_del_self]
  · exact .inl (storedHash_of_entries (entries_del_of_ne hid))

theorem calm_del_cache {entityId : String} (id : Identity) : Calm r (r.del (RedisKey.authMerchant entityId)) id :=
  .inl (storedHash_of_entries (entries_del_of_ne authMerchant_ne.1))

theorem calm_mark (id id' : Identity) : Calm r (markRevoked id' r) id :=
  .inl (storedHash_of_entries (entries_setEx_of_ne Identity.tokenKey_ne_tombstoneKey))

theorem calm_enforce (id id' : Identity) : Calm r ((r.del id'.tokenKey).del id'.tombstoneKey) id := by
  have htomb : storedHash ((r.del id'.tokenKey).del id'.tombstoneKey) id = storedHash (r.del id'.tokenKey) id :=
    storedHash_of_entries (entries_del_of_ne Identity.tokenKey_ne_tombstoneKey)
  rw [Calm, htomb]
  exact calm_del_token id id'

theorem calm_apply {f : Redis → Redis} {id : Identity} (d : Delivery) (h : Calm r (f r) id) :
    Calm r (d.apply f r) id := by
  rw [Delivery.apply]
  split_ifs
  · exact h
  · exact calm_refl r id

/-- Only the exchange ends in this phase. -/
theorem exchanged_afterRotate {id : Identity} {token : String} {data : RefreshData} {newRefresh : String}
    {result : RotateResult} (h : Exchanged id token (afterRotate data newRefresh result)) :
    result = .ok ∧ data.identity.tokenKey = id.tokenKey ∧ token = data.refreshToken := by
  obtain ⟨data', newRefresh', hphase, hid, rfl⟩ := h
  cases result with
  | ok =>
    cases hphase
    exact ⟨rfl, hid, rfl⟩
  | refused reason => cases hphase

/-- The exchange of a token: the presented one was stored, the new one is. -/
theorem rotate_hash {data : RefreshData} {stored : StoredSession} {newRefresh createdAt : String} (id : Identity) :
    (Calm r (rotate hash data stored newRefresh createdAt r).2 id ∧
      ¬ ((rotate hash data stored newRefresh createdAt r).1 = .ok ∧ data.identity.tokenKey = id.tokenKey)) ∨
    storedHash r id = some (hash data.refreshToken) ∧
      storedHash (rotate hash data stored newRefresh createdAt r).2 id = some (hash newRefresh) := by
  rw [rotate]
  rcases rotate_cases data.identity (hash data.refreshToken) (replacement hash stored newRefresh createdAt) r with
    ⟨reason, h, -⟩ | h | ⟨held, -, htoken, hheld, h⟩
  · rw [h]
    exact .inl ⟨calm_refl r id, fun hok => by cases hok.1⟩
  · rw [h]
    exact .inl ⟨calm_enforce id data.identity, fun hok => by cases hok.1⟩
  · rw [h]
    by_cases hid : data.identity.tokenKey = id.tokenKey
    · rw [hid] at htoken ⊢
      refine .inr ⟨(storedHash_eq htoken).trans (congrArg some hheld), ?_⟩
      rw [storedHash, entries_setEx_self]
      rfl
    · exact .inl ⟨.inl (storedHash_of_entries (entries_setEx_of_ne (Ne.symm hid))), fun hok => hid hok.2⟩

/-- One step and the session's hash: it stays or is deleted and nothing is exchanged, or the presented token's hash
    gives way to that of the token drawn. -/
theorem next_hash (h : next hash verify r phase ev = some (r', phase')) (id : Identity) :
    (Calm r r' id ∧ ∀ token, Exchanged id token phase' → phase' = phase) ∨
    ∃ data newRefresh createdAt d, ev = .rotate newRefresh createdAt d ∧
      storedHash r id = some (hash data.refreshToken) ∧
      storedHash r' id = some (hash newRefresh) ∧ ∀ token, Exchanged id token phase' →
        token = RefreshData.refreshToken data := by
  unfold next at h
  split at h <;> cases h
  · exact .inl ⟨calm_refl r id, fun _ _ => rfl⟩
  · exact .inl ⟨calm_refl r id, fun _ hx => absurd hx quiet_preCheck.not_exchanged⟩
  · exact .inl ⟨calm_refl r id, fun _ hx => absurd hx (Quiet.failed _).not_exchanged⟩
  · exact .inl ⟨calm_refl r id, fun _ hx => absurd hx quiet_afterMembership.not_exchanged⟩
  · rename_i data stored newRefresh createdAt d
    rcases rotate_hash id with ⟨hcalm, hno⟩ | ⟨hold, hnew⟩
    · refine .inl ⟨calm_apply d hcalm, ?_⟩
      intro token hx
      cases d with
      | delivered =>
        obtain ⟨hok, hid, -⟩ := exchanged_afterRotate hx
        exact absurd ⟨hok, hid⟩ hno
      | lost executed => exact absurd hx (Quiet.failed _).not_exchanged
    · cases d with
      | delivered =>
        refine .inr ⟨data, newRefresh, createdAt, .delivered, rfl, hold, hnew, ?_⟩
        intro token hx
        exact (exchanged_afterRotate hx).2.2
      | lost executed =>
        cases executed with
        | true => exact .inr ⟨data, newRefresh, createdAt, _, rfl, hold, hnew, fun _ hx =>
          absurd hx (Quiet.failed _).not_exchanged⟩
        | false => exact .inl ⟨calm_refl r id, fun _ hx => absurd hx (Quiet.failed _).not_exchanged⟩
  · exact .inl ⟨calm_refl r id, fun _ hx => absurd hx quiet_logoutWay.not_exchanged⟩
  · rename_i id' attempt d
    refine .inl ⟨calm_apply d (calm_del_token id id'), ?_⟩
    intro token hx
    cases d with
    | delivered => obtain ⟨_, _, hphase, -⟩ := hx; cases hphase
    | lost executed => exact absurd hx quiet_retry.not_exchanged
  · rename_i id' d
    refine .inl ⟨calm_apply d (calm_mark id id'), ?_⟩
    rintro token ⟨_, _, hphase, -⟩
    cases d <;> cases hphase
  · exact .inl ⟨calm_refl r id, fun _ hx => absurd hx quiet_checkPossession.not_exchanged⟩
  · exact .inl ⟨calm_refl r id, fun _ hx => absurd hx (Quiet.unavailable _).not_exchanged⟩
  · rename_i id' d
    refine .inl ⟨calm_apply d (calm_del_token id id'), ?_⟩
    rintro token ⟨_, _, hphase, -⟩
    cases d <;> cases hphase
  · rename_i proof entityId revoke d
    refine .inl ⟨calm_apply d (calm_del_cache id), ?_⟩
    rintro token ⟨_, _, hphase, -⟩
    cases hphase

/-! ### Runs -/

section Runs

variable {ι : Type*} {s t : Calls ι} {as : List (ι × Event)}

/-- No call has begun, and no refresh token lives longer than one that is stored now. -/
structure Begun (s : Calls ι) : Prop where
  bounded : Bounded s.store
  calls : ∀ i, (∃ data, s.proc i = .refresh data) ∨ ∃ data, s.proc i = .logout data

/-- What holds of every state of every run. -/
def Kept (s : Calls ι) : Prop := PoolInv Bounded (fun (_ : ι) r phase => ∀ id, Ended id phase → Revoked r id) s

theorem Begun.kept (h : Begun s) : Kept s := by
  refine ⟨h.bounded, ?_⟩
  intro i id he
  rcases h.calls i with ⟨data, hi⟩ | ⟨data, hi⟩
  · rw [hi] at he
    exact he.elim
  · rw [hi] at he
    exact he.elim

/-- The hash of the token that an action draws. -/
def drawn (hash : String → String) : ι × Event → Option String
  | (_, .rotate newRefresh _ _) => some (hash newRefresh)
  | _ => none

/-- Tokens are 64 random bytes, hashed by SHA-256: the hashes of those drawn in a run differ from one another and
    from the session's at its start. -/
def FreshDraws (hash : String → String) (id : Identity) (s : Calls ι) (as : List (ι × Event)) : Prop :=
  ((storedHash s.store id).toList ++ as.filterMap (drawn hash)).Nodup

/-- No token that was exchanged is stored, or is going to be; and each was exchanged by one call. -/
structure Spent (hash : String → String) (id : Identity) (s : Calls ι) (rest : List (ι × Event)) : Prop where
  fresh : FreshDraws hash id s rest
  spent : ∀ j token, Exchanged id token (s.proc j) →
    hash token ∉ (storedHash s.store id).toList ++ rest.filterMap (drawn hash)
  once : ∀ j k token, Exchanged id token (s.proc j) → Exchanged id token (s.proc k) → j = k

theorem Begun.spent {id : Identity} (h : Begun s) (hfresh : FreshDraws hash id s as) : Spent hash id s as := by
  have hnone : ∀ i token, ¬ Exchanged id token (s.proc i) := by
    rintro i token ⟨data, newRefresh, hphase, -, -⟩
    rcases h.calls i with ⟨_, hi⟩ | ⟨_, hi⟩
    · cases hi.symm.trans hphase
    · cases hi.symm.trans hphase
  exact ⟨hfresh, fun j token hx => absurd hx (hnone j token), fun j k token hx => absurd hx (hnone j token)⟩

/-- Nothing is exchanged: the calls that have exchanged a token are the same, and there is less to meet. -/
theorem Spent.calm {id : Identity} {a : ι × Event} {rest : List (ι × Event)} (h : Spent hash id s (a :: rest))
    (hcalm : Calm s.store t.store id)
    (hproc : ∀ j token, Exchanged id token (t.proc j) → Exchanged id token (s.proc j)) : Spent hash id t rest := by
  have hdraws : (rest.filterMap (drawn hash)).Sublist ((a :: rest).filterMap (drawn hash)) :=
    (List.sublist_cons_self a rest).filterMap _
  have hless : ((storedHash t.store id).toList ++ rest.filterMap (drawn hash)).Sublist
      ((storedHash s.store id).toList ++ (a :: rest).filterMap (drawn hash)) := by
    rcases hcalm with hkeep | hgone
    · rw [hkeep]
      exact (List.Sublist.refl _).append hdraws
    · rw [hgone]
      exact (List.nil_sublist _).append hdraws
  refine ⟨List.Nodup.sublist hless h.fresh, ?_, ?_⟩
  · intro j token hx hmem
    exact h.spent j token (hproc j token hx) (hless.subset hmem)
  · intro j k token hj hk
    exact h.once j k token (hproc j token hj) (hproc k token hk)

/-- The presented token's hash goes, that of the token drawn comes. -/
theorem Spent.exchange {id : Identity} {i : ι} {presented newRefresh createdAt : String} {d : Delivery}
    {rest : List (ι × Event)} (h : Spent hash id s ((i, .rotate newRefresh createdAt d) :: rest))
    (hold : storedHash s.store id = some (hash presented)) (hnew : storedHash t.store id = some (hash newRefresh))
    (hproc : ∀ j token, Exchanged id token (t.proc j) → Exchanged id token (s.proc j) ∨ j = i ∧ token = presented) :
    Spent hash id t rest := by
  have hlist : (storedHash s.store id).toList ++
      ((i, Event.rotate newRefresh createdAt d) :: rest).filterMap (drawn hash) =
      hash presented :: ((storedHash t.store id).toList ++ rest.filterMap (drawn hash)) := by
    rw [hold, hnew]
    rfl
  have hfresh := h.fresh
  rw [FreshDraws, hlist, List.nodup_cons] at hfresh
  have hspent : ∀ j token, Exchanged id token (s.proc j) → token ≠ presented ∧
      hash token ∉ (storedHash t.store id).toList ++ rest.filterMap (drawn hash) := by
    intro j token hx
    have hnot := h.spent j token hx
    rw [hlist, List.mem_cons, not_or] at hnot
    exact ⟨fun he => hnot.1 (congrArg hash he), hnot.2⟩
  refine ⟨hfresh.2, ?_, ?_⟩
  · intro j token hx
    rcases hproc j token hx with hbefore | ⟨-, hnow⟩
    · exact (hspent j token hbefore).2
    · rw [hnow]
      exact hfresh.1
  · intro j k token hj hk
    rcases hproc j token hj with hj' | ⟨hji, hj'⟩
    · rcases hproc k token hk with hk' | ⟨-, hk'⟩
      · exact h.once j k token hj' hk'
      · exact absurd hk' (hspent j token hj').1
    · rcases hproc k token hk with hk' | ⟨hki, -⟩
      · exact absurd hj' (hspent k token hk').1
      · exact hji.trans hki.symm

variable [DecidableEq ι]

theorem Kept.run (hk : Kept s) (h : run (step hash verify) s as = some t) : Kept t := by
  refine pool_invariant ?_ ?_ hk h
  · intro i r phase ev r' phase' hb hown hn
    exact ⟨hb.write (write_next hn), ended_next hn hb hown⟩
  · intro i j r phase other ev r' phase' _ hb _ hother hn id he
    exact (hother id he).write hb (write_next hn)

/-- A session that is over stays over, and its refresh-token key stays gone. -/
theorem revoked_run {id : Identity} (hk : Kept s) (hr : Revoked s.store id) (h : run (step hash verify) s as = some t) :
    Revoked t.store id := by
  have hboth : Kept t ∧ Revoked t.store id := by
    refine run_invariant (I := fun u => Kept u ∧ Revoked u.store id) ?_ ⟨hk, hr⟩ h
    intro u a u' hu hstep
    obtain ⟨r', phase', hn, rfl⟩ := poolStep_eq_some.mp hstep
    refine ⟨hu.1.run (run_cons_eq_some.mpr ⟨_, hstep, run_nil _⟩), ?_⟩
    exact hu.2.write hu.1.1 (write_next hn)
  exact hboth.2

theorem gone_run {id : Identity} (hgone : s.store.get id.tokenKey = none) (h : run (step hash verify) s as = some t) :
    t.store.get id.tokenKey = none := by
  refine run_invariant (I := fun u : Calls ι => u.store.get id.tokenKey = none) ?_ hgone h
  intro u a u' hu hstep
  obtain ⟨r', phase', hn, rfl⟩ := poolStep_eq_some.mp hstep
  exact gone_write hu (write_next hn)

theorem Spent.step {id : Identity} {a : ι × Event} {rest : List (ι × Event)} (h : Spent hash id s (a :: rest))
    (hstep : step hash verify s a = some t) : Spent hash id t rest := by
  obtain ⟨r', phase', hn, rfl⟩ := poolStep_eq_some.mp hstep
  have hproc : ∀ j token, Exchanged id token (Function.update s.proc a.1 phase' j) →
      Exchanged id token (s.proc j) ∨ j = a.1 ∧ Exchanged id token phase' := by
    intro j token hx
    rcases eq_or_ne j a.1 with rfl | hj
    · rw [Function.update_self] at hx
      exact .inr ⟨rfl, hx⟩
    · rw [Function.update_of_ne hj] at hx
      exact .inl hx
  rcases next_hash hn id with ⟨hcalm, hsame⟩ | ⟨data, newRefresh, createdAt, d, hev, hold, hnew, htoken⟩
  · refine h.calm hcalm ?_
    intro j token hx
    rcases hproc j token hx with hbefore | ⟨rfl, hnow⟩
    · exact hbefore
    · rw [← hsame token hnow]
      exact hnow
  · obtain ⟨i, ev⟩ := a
    obtain rfl : ev = _ := hev
    refine h.exchange hold hnew ?_
    intro j token hx
    exact (hproc j token hx).imp_right fun hnow => ⟨hnow.1, htoken token hnow.2⟩

theorem Spent.run {id : Identity} : ∀ {as : List (ι × Event)} {s : Calls ι}, Spent hash id s as →
    run (MerchantSession.step hash verify) s as = some t → Spent hash id t []
  | [], s, h, hr => by
    cases hr
    exact h
  | a :: as, s, h, hr => by
    obtain ⟨u, hstep, hr⟩ := run_cons_eq_some.mp hr
    exact (h.step hstep).run hr

/-- Once a logout has returned that a session is revoked, or is going to be, every exchange of the session's token is
    refused, and from the first on its refresh-token key is gone. A token is exchanged at most once. -/
theorem logout_durable (hbegun : Begun s) (h : run (step hash verify) s as = some t) :
    (∀ i id proof revoke, t.proc i = .loggedOut proof revoke → proof = .signed id ∨ proof = .possession id →
      revoke ≠ .unavailable → ∀ bs u, run (step hash verify) t bs = some u →
        ∀ j data stored newRefresh createdAt d u', u.proc j = .admitted data stored →
          data.identity.tokenKey = id.tokenKey →
          step hash verify u (j, .rotate newRefresh createdAt d) = some u' →
            (∃ reason, (rotate hash data stored newRefresh createdAt u.store).1 = .refused reason ∧
              (d = .delivered → u'.proc j = .refused data reason)) ∧
            (d.executed = true → ∀ cs v, run (step hash verify) u' cs = some v → v.store.get id.tokenKey = none)) ∧
    (∀ id, FreshDraws hash id s as → ∀ j k token, Exchanged id token (t.proc j) → Exchanged id token (t.proc k) →
      j = k) := by
  constructor
  · intro i id proof revoke hi hproof hrevoke bs u hu j data stored newRefresh createdAt d u' hj hid hstep
    have hkt : Kept t := hbegun.kept.run h
    have hended : Ended id (t.proc i) := by
      rw [hi]
      exact ⟨hproof, hrevoke⟩
    have hrevoked : Revoked u.store id := revoked_run hkt (hkt.2 i id hended) hu
    have hsame : Revoked u.store data.identity := by
      rw [Revoked, hid, Identity.tokenKey_eq_iff.mp hid]
      exact hrevoked
    obtain ⟨reason, hresult, hgone⟩ :=
      rotate_revoked hsame (hash data.refreshToken) (replacement hash stored newRefresh createdAt)
    obtain ⟨r', phase', hn, rfl⟩ := poolStep_eq_some.mp hstep
    rw [hj] at hn
    cases hn
    refine ⟨⟨reason, hresult, ?_⟩, ?_⟩
    · rintro rfl
      dsimp only
      rw [Function.update_self, rotate, hresult]
      rfl
    · intro hexecuted cs v hv
      refine gone_run ?_ hv
      rw [Delivery.apply, if_pos hexecuted, ← hid]
      exact hgone
  · intro id hfresh
    exact ((hbegun.spent hfresh).run h).once

end Runs

/-! ### A logout whose deletions all fail -/

def demo : Identity := ⟨"m", "s"⟩

def demoStored : StoredSession := ⟨"r1", "d", "web", none, "t0"⟩

def demoRefresh : RefreshData := ⟨"r1", "s", "m"⟩

def demoVerify : String → Option Claims := fun _ => some ⟨some "m", some "merchant", some "s"⟩

/-- A refresh and a logout of one session. -/
def demoCalls : Calls ℕ where
  store :=
    { entries := fun key => if key = demo.tokenKey then some ⟨.session demoStored, (lifetime : ℕ)⟩ else none
      now := 0 }
  proc i := if i = 0 then .refresh demoRefresh else .logout ⟨some "jwt", none, none, none⟩

/-- The refresh has passed its check when the logout comes; Redis fails three times and then takes the tombstone. -/
def demoEvents : List (ℕ × Event) :=
  [(0, .command .delivered), (0, .membership (.ok (some .ACTIVE))), (1, .proceed), (1, .command (.lost false)),
    (1, .tick 100), (1, .command (.lost false)), (1, .tick 100), (1, .command (.lost false)), (1, .command .delivered),
    (1, .command .delivered)]

theorem demo_phases : (run (step id demoVerify) demoCalls demoEvents).map (fun t => (t.proc 0, t.proc 1)) =
    some (.admitted demoRefresh demoStored, .loggedOut (.signed demo) .pending) := by decide +kernel

theorem demo_begun : Begun demoCalls where
  bounded := by
    intro id e he
    simp only [demoCalls] at he
    split_ifs at he
    cases he
    exact le_of_eq (congrArg _ (Nat.zero_add lifetime).symm)
  calls := by
    intro i
    by_cases hi : i = 0
    · exact .inl ⟨_, if_pos hi⟩
    · exact .inr ⟨_, if_neg hi⟩

theorem logout_durable_pending :
    ∃ t u, run (step id demoVerify) demoCalls demoEvents = some t ∧ t.proc 1 = .loggedOut (.signed demo) .pending ∧
      step id demoVerify t (0, .rotate "r2" "t1" .delivered) = some u ∧
        (∃ reason, u.proc 0 = .refused demoRefresh reason) ∧
      u.store.get demo.tokenKey = none := by
  obtain ⟨t, ht, hphases⟩ := Option.map_eq_some_iff.mp demo_phases
  have h0 : t.proc 0 = .admitted demoRefresh demoStored := congrArg Prod.fst hphases
  have h1 : t.proc 1 = .loggedOut (.signed demo) .pending := congrArg Prod.snd hphases
  have hstep : ∃ u, step id demoVerify t (0, .rotate "r2" "t1" .delivered) = some u := by
    rw [step, poolStep, h0]
    exact ⟨_, rfl⟩
  obtain ⟨u, hu⟩ := hstep
  obtain ⟨⟨reason, -, hrefused⟩, hgone⟩ := (logout_durable demo_begun ht).1 1 demo _ _ h1 (.inl rfl) (by decide) [] t
    (run_nil t) 0 demoRefresh demoStored "r2" "t1" .delivered u h0 rfl hu
  exact ⟨t, u, ht, h1, hu, ⟨reason, hrefused rfl⟩, hgone rfl [] u (run_nil u)⟩

end Redeemo.MerchantSession
