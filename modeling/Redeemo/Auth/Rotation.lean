import Redeemo.Auth.Revocation

/-! Refreshes that present the same token.

    Of all of them, one may exchange the token if the key is deleted only while it holds that token: the first
    deletion ends this, and the key holds another token, or none, ever after. -/

namespace Redeemo.AuthSessions
open Runs Expiring
open MerchantSession (StoredSession Value Redis RefreshData Delivery REFRESH_TOKEN_TTL_SECONDS validateRefreshToken)

/-- The key holds the token that is presented. -/
def Presented (hash : String → String) (role : Role) (data : RefreshData) (r : Redis) : Prop :=
  ∃ stored, r.get (RefreshData.key role data) = some (.session stored) ∧
    validateRefreshToken hash stored data.refreshToken = true

/-- The step deletes the key: that of a rotation, or that of a refresh that is denied. -/
inductive Deletes (role : Role) (data : RefreshData) : Phase → Event → Prop
  | rotation {stored : StoredSession} {d : Delivery} : d.executed = true →
      Deletes role data (.admitted role data stored) (.command d)
  | denial {target : Target} {keys : String → Bool} {bestEffort : Bool} {todo : List Statement} {revoked : Bool}
      {result : Result} {d : Delivery} : keys (RefreshData.key role data) = true → d.executed = true →
      Deletes role data (.found target keys bestEffort todo revoked result) (.command d)

/-- The new token is drawn at random. -/
def FreshDraw (hash : String → String) (data : RefreshData) : Event → Prop
  | .store newRefresh _ _ => hash newRefresh ≠ hash data.refreshToken
  | _ => True

/-- The refresh has deleted the key, and the token that it has stored since. -/
def rotated : Phase → Option (Option String)
  | .cleared _ _ _ => some none
  | .stored _ _ newRefresh => some (some newRefresh)
  | .returned _ _ newRefresh => some (some newRefresh)
  | _ => none

/-- The key holds this token, whether or not it has expired. -/
def Kept (hash : String → String) (key newRefresh : String) (r : Redis) : Prop :=
  ∃ e stored, r.entries key = some e ∧ e.value = .session stored ∧ stored.tokenHash = hash newRefresh

/-- No statement of the phase deletes a key by its name. -/
def Deniable (todo : List Statement) : Prop := ∀ s ∈ todo, s.command = .revoke ∨ s.command = .database

/-- A refresh of the session. -/
def Own (role : Role) (data : RefreshData) : Phase → Prop
  | .refresh role' data' => role' = role ∧ data' = data
  | .mistaken _ => True
  | .checked role' data' _ => role' = role ∧ data' = data
  | .admitted role' data' _ => role' = role ∧ data' = data
  | .cleared role' data' _ => role' = role ∧ data' = data
  | .stored role' data' _ => role' = role ∧ data' = data
  | .returned role' data' _ => role' = role ∧ data' = data
  | .failed _ => True
  | .running target todo _ _ => target = .entity role data.entityId ∧ Deniable todo
  | .found target _ _ todo _ _ => target = .entity role data.entityId ∧ Deniable todo
  | .resetPassword _ _ => False
  | .deleteAccount _ _ => False

/-- Everything that a step of a refresh may do to the key. -/
inductive Effect (hash : String → String) (role : Role) (data : RefreshData) (r r' : Redis) : Phase → Phase → Prop
  | keep {phase phase' : Phase}
      (hentry : r'.entries (RefreshData.key role data) = r.entries (RefreshData.key role data))
      (hnow : r.now ≤ r'.now) (hrotated : rotated phase' = rotated phase ∨ rotated phase' = none) :
      Effect hash role data r r' phase phase'
  | delete {phase phase' : Phase} (hpresented : Presented hash role data r)
      (hgone : r'.get (RefreshData.key role data) = none)
      (hrotated : ∀ newRefresh, rotated phase' ≠ some (some newRefresh)) :
      Effect hash role data r r' phase phase'
  | store {stored new : StoredSession} {phase' : Phase} {newRefresh : String} (hnew : new.tokenHash = hash newRefresh)
      (hfresh : hash newRefresh ≠ hash data.refreshToken)
      (hset : r' = MerchantSession.set r (RefreshData.key role data) (.session new) REFRESH_TOKEN_TTL_SECONDS)
      (hrotated : rotated phase' = some (some newRefresh) ∨ rotated phase' = none) :
      Effect hash role data r r' (.cleared role data stored) phase'

section
variable {ι : Type*} [DecidableEq ι] {hash : String → String} {r r' : Redis} {phase phase' : Phase} {e : Event}
  {role : Role} {data : RefreshData} {target : Target} {todo : List Statement} {revoked bestEffort : Bool}
  {result : Result} {outcome : Except (Option AppError) Unit} {d : Delivery}

theorem rotated_after : rotated (after target bestEffort todo revoked result outcome) = none := by
  unfold after
  split
  · rfl
  · split_ifs <;> rfl

theorem own_after (ht : target = .entity role data.entityId) (htodo : Deniable todo) :
    Own role data (after target bestEffort todo revoked result outcome) := by
  unfold after
  split
  · exact ⟨ht, htodo⟩
  · split_ifs
    · exact ⟨ht, htodo⟩
    · exact ⟨ht, fun s hs => absurd hs (List.not_mem_nil)⟩

theorem deniable_tail {s : Statement} (h : Deniable (s :: todo)) : Deniable todo :=
  fun t ht => h t (List.mem_cons_of_mem _ ht)

/-- A step of a refresh that deletes the key only while it holds the presented token. -/
theorem next_ok (hown : Own role data phase) (hfresh : FreshDraw hash data e)
    (hdeletes : Deletes role data phase e → Presented hash role data r)
    (h : next hash r phase e = some (r', phase')) : Own role data phase' ∧ Effect hash role data r r' phase phase' := by
  unfold next at h
  split at h
  · cases h
    exact ⟨hown, .keep rfl (Nat.le_add_right _ _) (.inl rfl)⟩
  · cases h
    obtain ⟨rfl, rfl⟩ := hown
    unfold preCheck
    dsimp only
    split
    · split_ifs <;> exact ⟨trivial, .keep rfl le_rfl (.inr rfl)⟩
    · split_ifs <;> exact ⟨trivial, .keep rfl le_rfl (.inr rfl)⟩
    · split_ifs
      · exact ⟨⟨rfl, rfl⟩, .keep rfl le_rfl (.inr rfl)⟩
      · exact ⟨trivial, .keep rfl le_rfl (.inr rfl)⟩
      · exact ⟨trivial, .keep rfl le_rfl (.inr rfl)⟩
  · cases h
    exact ⟨trivial, .keep rfl le_rfl (.inr rfl)⟩
  · cases h
    exact ⟨trivial, .keep rfl le_rfl (.inr rfl)⟩
  · cases h
    exact ⟨trivial, .keep rfl le_rfl (.inr rfl)⟩
  · split_ifs at h
    cases h
    obtain ⟨rfl, rfl⟩ := hown
    unfold afterAccount
    split
    · exact ⟨⟨rfl, rfl⟩, .keep rfl le_rfl (.inr rfl)⟩
    · refine ⟨⟨rfl, fun s hs => ?_⟩, .keep rfl le_rfl (.inr rfl)⟩
      rcases List.mem_pair.mp hs with rfl | rfl
      · exact .inl rfl
      · exact .inr rfl
  · cases h
    exact ⟨trivial, .keep rfl le_rfl (.inr rfl)⟩
  · -- The rotation deletes the key.
    rename_i role' data' stored d
    cases h
    obtain ⟨rfl, rfl⟩ := hown
    cases d with
    | delivered =>
      refine ⟨⟨rfl, rfl⟩, .delete (hdeletes (.rotation rfl)) get_del_self fun newRefresh heq => ?_⟩
      cases heq
    | lost executed =>
      cases executed with
      | true =>
        refine ⟨trivial, .delete (hdeletes (.rotation rfl)) get_del_self fun newRefresh heq => ?_⟩
        cases heq
      | false => exact ⟨trivial, .keep rfl le_rfl (.inr rfl)⟩
  · -- The new token is stored.
    rename_i role' data' stored newRefresh createdAt d
    cases h
    obtain ⟨rfl, rfl⟩ := hown
    cases d with
    | delivered => exact ⟨⟨rfl, rfl⟩, .store rfl hfresh rfl (.inl rfl)⟩
    | lost executed =>
      cases executed with
      | true => exact ⟨trivial, .store rfl hfresh rfl (.inr rfl)⟩
      | false => exact ⟨trivial, .keep rfl le_rfl (.inr rfl)⟩
  · cases h
    split
    · exact ⟨hown, .keep rfl le_rfl (.inl rfl)⟩
    · exact ⟨trivial, .keep rfl le_rfl (.inr rfl)⟩
  · exact hown.elim
  · exact hown.elim
  · exact hown.elim
  · exact hown.elim
  · cases h
    exact ⟨own_after hown.1 (deniable_tail hown.2), .keep rfl le_rfl (.inr rotated_after)⟩
  · -- The keys are asked for.
    rename_i target command bestEffort todo revoked result d
    obtain ⟨rfl, htodo⟩ := hown
    have htail : Deniable todo := deniable_tail htodo
    rcases htodo _ (List.mem_cons_self ..) with hcommand | hcommand
    · dsimp only at hcommand
      subst hcommand
      unfold runStatement at h
      cases h
      cases d with
      | delivered => exact ⟨⟨rfl, htail⟩, .keep rfl le_rfl (.inr rfl)⟩
      | lost executed => exact ⟨own_after rfl htail, .keep rfl le_rfl (.inr rotated_after)⟩
    · dsimp only at hcommand
      subst hcommand
      cases h
  · -- The keys that were told are deleted.
    rename_i target keys bestEffort todo revoked result d
    cases h
    refine ⟨own_after hown.1 hown.2, ?_⟩
    unfold Delivery.apply
    split_ifs with hexecuted
    · cases hfound : keys (RefreshData.key role data) with
      | false => exact .keep (entries_delAll hfound) le_rfl (.inr rotated_after)
      | true =>
        refine .delete (hdeletes (.denial hfound hexecuted)) (get_delAll_of_found hfound) fun newRefresh heq => ?_
        rw [rotated_after] at heq
        cases heq
    · exact .keep rfl le_rfl (.inr rotated_after)
  · cases h

/-! ### What a step does to the key -/

/-- One refresh at most has deleted the key; since then it has held no token but the one stored by that refresh. -/
structure Once (hash : String → String) (role : Role) (data : RefreshData) (s : Pool ι Redis Phase) : Prop where
  spent : ∀ i, rotated (s.proc i) ≠ none → ¬ Presented hash role data s.store
  alone : ∀ i j, rotated (s.proc i) ≠ none → rotated (s.proc j) ≠ none → i = j
  kept : ∀ i newRefresh, rotated (s.proc i) = some (some newRefresh) →
    Kept hash (RefreshData.key role data) newRefresh s.store

omit [DecidableEq ι] in
/-- An entry that is left alone may expire, and holds nothing else. -/
theorem presented_of_keep (hentry : r'.entries (RefreshData.key role data) = r.entries (RefreshData.key role data))
    (hnow : r.now ≤ r'.now) (h : Presented hash role data r') : Presented hash role data r := by
  obtain ⟨stored, hget, hvalid⟩ := h
  obtain ⟨e, he, hvalue, hlive⟩ := get_eq_some.mp hget
  refine ⟨stored, get_eq_some.mpr ⟨e, hentry ▸ he, hvalue, ?_⟩, hvalid⟩
  exact (WithTop.coe_le_coe.mpr hnow).trans hlive

theorem not_presented_set {new : StoredSession} {newRefresh : String} (hnew : new.tokenHash = hash newRefresh)
    (hfresh : hash newRefresh ≠ hash data.refreshToken) :
    ¬ Presented hash role data
      (MerchantSession.set r (RefreshData.key role data) (.session new) REFRESH_TOKEN_TTL_SECONDS) := by
  rintro ⟨stored, hget, hvalid⟩
  rw [MerchantSession.set, get_setEx_self] at hget
  cases hget
  rw [validateRefreshToken, decide_eq_true_eq, hnew] at hvalid
  exact hfresh hvalid

theorem once_step {s s' : Pool ι Redis Phase} {i : ι} (hs : Once hash role data s) (hphase : s.proc i = phase)
    (hphase' : s'.proc i = phase') (hothers : ∀ j, j ≠ i → s'.proc j = s.proc j)
    (heffect : Effect hash role data s.store s'.store phase phase') : Once hash role data s' := by
  cases heffect with
  | keep hentry hnow hrotated =>
    have hback (j : ι) (x : Option String) (hx : rotated (s'.proc j) = some x) : rotated (s.proc j) = some x := by
      rcases eq_or_ne j i with rfl | hne
      · rw [hphase'] at hx
        rw [hphase]
        rcases hrotated with hsame | hnone
        · rwa [← hsame]
        · rw [hnone] at hx
          cases hx
      · rwa [← hothers j hne]
    have hsome (j : ι) (hj : rotated (s'.proc j) ≠ none) : rotated (s.proc j) ≠ none := by
      obtain ⟨x, hx⟩ := Option.ne_none_iff_exists'.mp hj
      rw [hback j x hx]
      exact Option.some_ne_none x
    refine ⟨fun j hj hpresented => ?_, fun j k hj hk => hs.alone j k (hsome j hj) (hsome k hk), fun j new hj => ?_⟩
    · exact hs.spent j (hsome j hj) (presented_of_keep hentry hnow hpresented)
    · obtain ⟨entry, stored, he, hvalue, hhash⟩ := hs.kept j new (hback j _ hj)
      exact ⟨entry, stored, hentry.trans he, hvalue, hhash⟩
  | delete hpresented hgone hrotated =>
    have hnone (j : ι) (hne : j ≠ i) : rotated (s'.proc j) = none := by
      rw [hothers j hne]
      by_contra hj
      exact hs.spent j hj hpresented
    have hmover (j : ι) (hj : rotated (s'.proc j) ≠ none) : j = i := by
      by_contra hne
      exact hj (hnone j hne)
    refine ⟨fun j _ hpresented' => ?_, fun j k hj hk => (hmover j hj).trans (hmover k hk).symm, fun j new hj => ?_⟩
    · obtain ⟨stored, hget, -⟩ := hpresented'
      rw [hgone] at hget
      cases hget
    · obtain rfl := hmover j (by rw [hj]; exact Option.some_ne_none _)
      rw [hphase'] at hj
      exact absurd hj (hrotated new)
  | @store stored new phase' newRefresh hnew hfresh hset hrotated =>
    have hi : rotated (s.proc i) ≠ none := by
      rw [hphase]
      exact Option.some_ne_none _
    have hmover (j : ι) (hj : rotated (s'.proc j) ≠ none) : j = i := by
      by_contra hne
      rw [hothers j hne] at hj
      exact hne (hs.alone j i hj hi)
    refine ⟨fun j _ => ?_, fun j k hj hk => (hmover j hj).trans (hmover k hk).symm, fun j new' hj => ?_⟩
    · rw [hset]
      exact not_presented_set hnew hfresh
    · obtain rfl := hmover j (by rw [hj]; exact Option.some_ne_none _)
      rw [hphase'] at hj
      rcases hrotated with hsome | hnone
      · obtain rfl : newRefresh = new' := Option.some.inj (Option.some.inj (hsome.symm.trans hj))
        rw [hset]
        exact ⟨_, new, entries_setEx_self, rfl, hnew⟩
      · rw [hnone] at hj
        cases hj

/-! ### Runs -/

omit [DecidableEq ι] in
theorem inv_opened {policy : String → Bool} :
    (∀ i, Own role data ((opened policy (fun _ : ι => .refresh role data) r).proc i)) ∧
      Once hash role data (opened policy (fun _ : ι => .refresh role data) r) := by
  refine ⟨fun i => ⟨rfl, rfl⟩, fun i hi => absurd rfl hi, fun i j hi => absurd rfl hi, fun i new hi => ?_⟩
  cases hi

/-- Throughout an interleaving of any number of refreshes that present the same token, whose rotations and denials
    delete the key only while it holds that token, one of them at most has returned, and the token that it has
    returned is the one stored. -/
theorem refresh_once {policy : String → Bool} {as : List (ι × Event)} {s : Pool ι Redis Phase}
    (hfresh : ∀ a ∈ as, FreshDraw hash data a.2)
    (halong : Along (step hash) (fun s a => Deletes role data (s.proc a.1) a.2 → Presented hash role data s.store)
      (opened policy (fun _ => .refresh role data) r) as)
    (h : run (step hash) (opened policy (fun _ => .refresh role data) r) as = some s) :
    (∀ i j new new', s.proc i = .returned role data new → s.proc j = .returned role data new' → i = j) ∧
    ∀ i new, s.proc i = .returned role data new → Kept hash (RefreshData.key role data) new s.store := by
  have hinv : (∀ i, Own role data (s.proc i)) ∧ Once hash role data s := by
    refine run_invariant_along (I := fun s => (∀ i, Own role data (s.proc i)) ∧ Once hash role data s) _ ?_
      (halong.and_forall hfresh) inv_opened h
    rintro s a t ⟨hown, honce⟩ ⟨hdraw, hdeletes⟩ hstep
    obtain ⟨store, phase, hn, rfl⟩ := poolStep_eq_some.mp hstep
    obtain ⟨hown', heffect⟩ := next_ok (hown a.1) hdraw hdeletes hn
    refine ⟨(Function.forall_update_iff _ fun _ => Own role data).mpr ⟨hown', fun j _ => hown j⟩, ?_⟩
    exact once_step honce rfl (Function.update_self ..) (fun j hne => Function.update_of_ne hne ..) heffect
  refine ⟨fun i j new new' hi hj => ?_, fun i new hi => ?_⟩
  · refine hinv.2.alone i j ?_ ?_
    · rw [hi]
      exact Option.some_ne_none _
    · rw [hj]
      exact Option.some_ne_none _
  · refine hinv.2.kept i new ?_
    rw [hi]
    rfl

end

/-! ### Two refreshes that both pass the check -/

/-- The second refresh has read the token before the first deletes the key. -/
def bothChecked : List (Bool × Event) :=
  [(false, .command .delivered), (true, .command .delivered), (false, .account (.customer (some .ACTIVE))),
    (true, .account (.customer (some .ACTIVE))), (false, .command .delivered), (false, .store "r2" "t1" .delivered),
    (false, .database (.ok ())), (true, .command .delivered), (true, .store "r3" "t2" .delivered),
    (true, .database (.ok ()))]

theorem refreshed_twice :
    ∃ s, run (step id) (opened (fun _ => true) (fun _ => .refresh .customer presented) live) bothChecked = some s ∧
      s.proc false = .returned .customer presented "r2" ∧ s.proc true = .returned .customer presented "r3" :=
  ⟨_, rfl, rfl, rfl⟩

/-- One refresh, from its check to its return. -/
def oneRefresh : List (Bool × Event) :=
  [(false, .command .delivered), (false, .account (.customer (some .ACTIVE))), (false, .command .delivered),
    (false, .store "r2" "t1" .delivered), (false, .database (.ok ())), (true, .command .delivered),
    (true, .session false)]

theorem refresh_once_oneRefresh :
    ∃ s, run (step id) (opened (fun _ => true) (fun _ => .refresh .customer presented) live) oneRefresh = some s ∧
      s.proc true = .failed (some .REFRESH_TOKEN_INVALID) ∧
      Kept id (RefreshData.key .customer presented) "r2" s.store := by
  have halong : Along (step id) (fun s a => Deletes .customer presented (s.proc a.1) a.2 →
      Presented id .customer presented s.store)
      (opened (fun _ => true) (fun _ => .refresh .customer presented) live) oneRefresh := by
    refine ⟨fun hd => ?_, fun s hs => ?_⟩
    · cases hd
    cases hs
    refine ⟨fun hd => ?_, fun s hs => ?_⟩
    · cases hd
    cases hs
    refine ⟨fun _ => ⟨device, rfl, rfl⟩, fun s hs => ?_⟩
    cases hs
    refine ⟨fun hd => ?_, fun s hs => ?_⟩
    · cases hd
    cases hs
    refine ⟨fun hd => ?_, fun s hs => ?_⟩
    · cases hd
    cases hs
    refine ⟨fun hd => ?_, fun s hs => ?_⟩
    · cases hd
    cases hs
    refine ⟨fun hd => ?_, fun _ _ => trivial⟩
    cases hd
  have hfresh : ∀ a ∈ oneRefresh, FreshDraw id presented a.2 := by simp [oneRefresh, FreshDraw, presented]
  have hends : ∃ s, run (step id) (opened (fun _ => true) (fun _ => .refresh .customer presented) live) oneRefresh =
      some s ∧ s.proc false = .returned .customer presented "r2" ∧
      s.proc true = .failed (some .REFRESH_TOKEN_INVALID) := ⟨_, rfl, rfl, rfl⟩
  obtain ⟨s, hrun, hreturned, hfailed⟩ := hends
  exact ⟨s, hrun, hfailed, (refresh_once hfresh halong hrun).2 false "r2" hreturned⟩

end Redeemo.AuthSessions
