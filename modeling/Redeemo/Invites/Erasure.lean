import Redeemo.Invites.Submit

/-! What the deletion of an account leaves of the user's invites.

    The deletion anonymises the invites that it finds. An invite that is committed after the deletion has looked for
    them is not among these; and of the others every one is. -/

namespace Redeemo.Invites
open Runs

variable {ι : Type*} [DecidableEq ι] {rt : Runtime} {calls : ι → Call} {call : Call} {i j d : ι} {s s' : Store ι}
  {p p' q : Phase ι} {a : Act ι} {input : SubmitInviteInput} {tx : Transaction} {userId x : String} {b : Invite ι}
  {ids : List ι} {now : ℤ}

/-! ### Whose an invite is -/

/-- The invite bears the id or the key of the user, and it is not anonymised. -/
def Carries (userId : String) (b : Invite ι) : Prop :=
  b.anonymisedAt = none ∧ (b.inviterUserId = some userId ∨ b.inviterKey = some (buildInviterKey userId))

/-- It bears both. -/
def IsOf (userId : String) (b : Invite ι) : Prop :=
  b.inviterUserId = some userId ∧ b.inviterKey = some (buildInviterKey userId)

theorem buildInviterKey_injective : Function.Injective buildInviterKey := fun _ _ h => String.append_right_inj _ |>.mp h

omit [DecidableEq ι] in
theorem isOf_of_carries (hb : b.anonymisedAt = none → ∃ y, IsOf y b) (h : Carries userId b) : IsOf userId b := by
  obtain ⟨y, hid, hkey⟩ := hb h.1
  have hy : y = userId := by
    obtain ⟨-, hu | hk⟩ := h
    · exact Option.some.inj (hid.symm.trans hu)
    · exact buildInviterKey_injective (Option.some.inj (hkey.symm.trans hk))
  subst hy
  exact ⟨hid, hkey⟩

omit [DecidableEq ι] in

/-! ### What is known along a run -/

/-- Every invite that is not anonymised is somebody's. -/
structure Signed (s : Store ι) : Prop where
  keyed : Rows.Keyed Invite.id s.invites
  signed : ∀ b ∈ s.invites, b.anonymisedAt = none → ∃ y, IsOf y b

/-- A submission writes an invite of its user, and a deletion has found invites of its user. -/
structure Bears (calls : ι → Call) (i : ι) (s : Store ι) (p : Phase ι) : Prop where
  written : ∀ lead touchedAt invite tx input, p = .submitting (.inserted lead touchedAt invite) tx →
    calls i = .submitInvite input → invite.anonymisedAt = none ∧ IsOf input.userId invite
  found : ∀ ids now userId, p = .scrubbed ids now → calls i = .deleteAccount userId →
    (∀ id ∈ ids, ∃ b ∈ s.invites, b.id = id) ∧
      ∀ b ∈ s.invites, b.id ∈ ids → b.anonymisedAt = none → IsOf userId b

theorem Signed.erase (h : Signed s) : Signed (erase x ids now s) where
  keyed := h.keyed.updateMany fun _ => rfl
  signed b hb ha := by
    obtain ⟨c, hc, -, -, -, rfl | ⟨-, -, hne⟩⟩ := mem_erase_invites hb
    · exact h.signed b hc ha
    · exact absurd ha hne

theorem Signed.file (h : Signed s) (hi : Unfiled i s) {lead : LeadId ι} {touchedAt : ℤ} {invite : Invite ι}
    (hid : invite.id = i) (hof : IsOf x invite) : Signed (file input i s tx lead touchedAt invite) where
  keyed := by
    rw [file_invites]
    exact h.keyed.concat fun b hb => hid ▸ hi.1 b hb
  signed b hb ha := by
    rw [file_invites, List.mem_append, List.mem_singleton] at hb
    obtain hb | rfl := hb
    · exact h.signed b hb ha
    · exact ⟨x, hof⟩

omit [DecidableEq ι] in
theorem Signed.quiet (h : Signed s) (hq : Quiet i s s') : Signed s' := by
  refine ⟨?_, ?_⟩
  · rw [hq.invites]
    exact h.keyed
  · rw [hq.invites]
    exact h.signed

omit [DecidableEq ι] in
/-- Nothing of this is lost while no invite comes under an id that has been found, and none changes hands. -/
theorem Bears.frame (h : Bears calls i s p) (hkeep : ∀ b ∈ s.invites, ∃ c ∈ s'.invites, c.id = b.id)
    (hnew : ∀ b ∈ s'.invites, b.anonymisedAt = none → b ∈ s.invites ∨ ∀ c ∈ s.invites, c.id ≠ b.id) :
    Bears calls i s' p := by
  refine ⟨h.written, fun ids now userId hp hcall => ?_⟩
  obtain ⟨hmem, hof⟩ := h.found ids now userId hp hcall
  constructor
  · intro id hid
    obtain ⟨b, hb, rfl⟩ := hmem id hid
    exact hkeep b hb
  · intro b hb hid ha
    obtain hold | hfresh := hnew b hb ha
    · exact hof b hold hid ha
    · obtain ⟨c, hc, he⟩ := hmem b.id hid
      exact absurd he (hfresh c hc)

omit [DecidableEq ι] in
theorem Bears.quiet (h : Bears calls i s p) (hq : Quiet j s s') : Bears calls i s' p := by
  refine h.frame (fun b hb => ⟨b, ?_, rfl⟩) fun b hb _ => .inl ?_
  · rw [hq.invites]
    exact hb
  · rwa [hq.invites] at hb

theorem Bears.erase (h : Bears calls i s p) : Bears calls i (erase x ids now s) p := by
  refine h.frame (fun b hb => ?_) fun b hb ha => .inl ?_
  · by_cases hit : b.id ∈ ids ∧ b.anonymisedAt = none
    · exact ⟨_, Rows.mem_updateMany_of_pos hb hit, rfl⟩
    · exact ⟨b, Rows.mem_updateMany_of_neg hb hit, rfl⟩
  · obtain ⟨c, hc, -, -, -, rfl | ⟨-, -, hne⟩⟩ := mem_erase_invites hb
    · exact hc
    · exact absurd ha hne

theorem Bears.file (h : Bears calls i s p) (hj : Unfiled j s) {lead : LeadId ι} {touchedAt : ℤ} {invite : Invite ι}
    (hid : invite.id = j) : Bears calls i (file input j s tx lead touchedAt invite) p := by
  refine h.frame (fun b hb => ⟨b, ?_, rfl⟩) fun b hb _ => ?_
  · rw [file_invites]
    exact List.mem_append_left _ hb
  · rw [file_invites, List.mem_append, List.mem_singleton] at hb
    obtain hb | rfl := hb
    · exact .inl hb
    · exact .inr fun c hc => hid ▸ hj.1 c hc

/-! ### One step -/

theorem inserted_of_submission {stage : Stage ι} {lead : LeadId ι} {touchedAt : ℤ} {invite : Invite ι}
    {tx' : Transaction}
    (h : submission rt input i s tx stage a = some (s', .submitting (.inserted lead touchedAt invite) tx')) :
    ∃ countableAt, invite = createdInvite rt input tx i lead countableAt := by
  revert h
  fun_cases submission with
  | case12 candidates =>
    intro h
    obtain ⟨-, he⟩ := Prod.mk.inj (Option.some.inj h)
    cases hl : locate rt input.localityRaw candidates <;> simp [hl] at he
  | case17 lead touchedAt countableAt =>
    rintro ⟨⟩
    exact ⟨countableAt, rfl⟩
  | _ => rintro ⟨⟩

theorem inserted_of_next {lead : LeadId ι} {touchedAt : ℤ} {invite : Invite ι}
    (h : next rt (.submitInvite input) i s p a = some (s', .submitting (.inserted lead touchedAt invite) tx)) :
    ∃ tx' countableAt, invite = createdInvite rt input tx' i lead countableAt := by
  generalize hc : Call.submitInvite input = call at h
  revert h
  fun_cases next with
  | case12 =>
    cases hc
    intro h
    exact ⟨_, inserted_of_submission h⟩
  | case13 => cases hc
  | _ => rintro ⟨⟩

/-- What a step of a deletion does. -/
inductive Deletes (userId : String) (s : Store ι) : Phase ι → Store ι → Phase ι → Prop
  | mark : Deletes userId s .start s .marked
  | scrub (now : ℤ) : Deletes userId s .marked s
      (.scrubbed ((s.invites.filter fun b => Linked userId b).map Invite.id) now)
  | commit (ids : List ι) (now : ℤ) : Deletes userId s (.scrubbed ids now) (erase userId ids now s) .deleted
  | fail (p : Phase ι) (e : Failure) : Deletes userId s p s (.failed e)

theorem deletes_of_next (h : next rt (.deleteAccount userId) i s p a = some (s', p')) : Deletes userId s p s' p' := by
  generalize hc : Call.deleteAccount userId = call at h
  revert h
  fun_cases next with
  | case13 x =>
    cases hc
    rintro ⟨⟩
    split_ifs
    · exact .mark
    · exact .fail _ _
  | case14 x now =>
    cases hc
    rintro ⟨⟩
    exact .scrub now
  | case15 x ids now =>
    cases hc
    rintro ⟨⟩
    exact .commit ids now
  | case19 =>
    rintro ⟨⟩
    exact .fail _ _
  | _ => first
    | rintro ⟨⟩
      done
    | cases hc

theorem bears_next (h : next rt (calls i) i s p a = some (s', p')) (hs : Signed s) : Bears calls i s' p' := by
  constructor
  · rintro lead touchedAt invite tx input rfl hcall
    rw [hcall] at h
    obtain ⟨-, -, rfl⟩ := inserted_of_next h
    exact ⟨rfl, rfl, rfl⟩
  · rintro ids now userId rfl hcall
    rw [hcall] at h
    cases deletes_of_next h with
    | scrub =>
      refine ⟨fun id hid => ?_, fun b hb hid ha => ?_⟩
      · obtain ⟨b, hb, rfl⟩ := List.mem_map.mp hid
        exact ⟨b, (List.mem_filter.mp hb).1, rfl⟩
      · obtain ⟨c, hc, he⟩ := List.mem_map.mp hid
        obtain ⟨hc, hlinked⟩ := List.mem_filter.mp hc
        cases hs.keyed.eq hc hb he
        exact isOf_of_carries (hs.signed b hb) ⟨ha, .inl (of_decide_eq_true hlinked).1⟩

/-! ### Every interleaving -/

/-- What is known of the tables, and at a phase of a call. -/
def Known (rt : Runtime) (calls : ι → Call) (s : Store ι) : Prop := Inv rt calls s ∧ Signed s

def Holds (rt : Runtime) (calls : ι → Call) (i : ι) (s : Store ι) (p : Phase ι) : Prop :=
  Assertion rt calls i s p ∧ Bears calls i s p

theorem known_own (i : ι) (s : Store ι) (p : Phase ι) (a : Act ι) (s' : Store ι) (p' : Phase ι)
    (hs : Known rt calls s) (hp : Holds rt calls i s p) (h : next rt (calls i) i s p a = some (s', p')) :
    Known rt calls s' ∧ Holds rt calls i s' p' := by
  obtain ⟨hinv, hassert⟩ := own i s p a s' p' hs.1 hp.1 h
  suffices hsigned : Signed s' from ⟨⟨hinv, hsigned⟩, hassert, bears_next h hs.2⟩
  cases effect_next h with
  | quiet _ _ hq => exact hs.2.quiet hq
  | file input hcall tx lead touchedAt invite he =>
    subst he
    obtain ⟨-, hof⟩ := hp.2.written _ _ _ _ input rfl hcall
    obtain ⟨-, hid, -⟩ := (hp.1.2 _ _ rfl input hcall).inserted _ _ _ rfl
    exact (hs.2.file (hp.1.1 nofun) hid hof).quiet quiet_release
  | erase => exact hs.2.erase

theorem known_frame (i j : ι) (s : Store ι) (p q : Phase ι) (a : Act ι) (s' : Store ι) (p' : Phase ι) (hne : i ≠ j)
    (hs : Known rt calls s) (hp : Holds rt calls i s p) (hq : Holds rt calls j s q)
    (h : next rt (calls i) i s p a = some (s', p')) : Holds rt calls j s' q := by
  refine ⟨frame i j s p q a s' p' hne hs.1 hp.1 hq.1 h, ?_⟩
  cases effect_next h with
  | quiet _ _ hquiet => exact hq.2.quiet hquiet
  | file input hcall tx lead touchedAt invite he =>
    subst he
    obtain ⟨-, hid, -⟩ := (hp.1.2 _ _ rfl input hcall).inserted _ _ _ rfl
    exact (hq.2.file (hp.1.1 nofun) hid).quiet quiet_release
  | erase => exact hq.2.erase

/-- The ids of the invites that a deletion has found and not yet anonymised, once it has looked. -/
def seen : Phase ι → Option (List ι)
  | .scrubbed ids _ => some ids
  | .deleted => some []
  | _ => none

/-- The deletion has looked, and there is an invite of the user that it does not anonymise. -/
def Missed (userId : String) (d : ι) (t : Pool ι (Store ι) (Phase ι)) : Prop :=
  ∃ ids ∈ seen (t.proc d), ∃ b ∈ t.store.invites, Carries userId b ∧ b.id ∉ ids

/-- A submission of the user commits its invite after the deletion has looked. -/
structure Late (calls : ι → Call) (userId : String) (d : ι) (t : Pool ι (Store ι) (Phase ι)) (a : ι × Act ι) :
    Prop where
  commit : a.2 = .commit
  looked : (seen (t.proc d)).isSome = true
  call : ∃ input, calls a.1 = .submitInvite input ∧ input.userId = userId
  phase : ∃ lead touchedAt invite tx, t.proc a.1 = .submitting (.inserted lead touchedAt invite) tx

omit [DecidableEq ι] in
theorem missed_congr {t t' : Pool ι (Store ι) (Phase ι)} (hd : t'.proc d = t.proc d)
    (h : ∀ b, Carries userId b → (b ∈ t'.store.invites ↔ b ∈ t.store.invites)) :
    Missed userId d t' ↔ Missed userId d t := by
  rw [Missed, Missed, hd]
  refine exists_congr fun ids => and_congr_right fun _ => exists_congr fun b => ?_
  constructor
  · rintro ⟨hb, hc, hid⟩
    exact ⟨(h b hc).mp hb, hc, hid⟩
  · rintro ⟨hb, hc, hid⟩
    exact ⟨(h b hc).mpr hb, hc, hid⟩

theorem mem_erase_iff (hb : Carries userId b) :
    b ∈ (erase x ids now s).invites ↔ b ∈ s.invites ∧ b.id ∉ ids := by
  constructor
  · intro h
    obtain ⟨c, hc, ⟨-, rfl⟩ | ⟨hn, rfl⟩⟩ := Rows.mem_updateMany.mp h
    · cases hb.1
    · exact ⟨hc, fun hid => hn ⟨hid, hb.1⟩⟩
  · rintro ⟨h, hid⟩
    exact Rows.mem_updateMany_of_neg h fun hit => hid hit.1

omit [DecidableEq ι] in
theorem IsOf.eq {y : String} (h : IsOf x b) (h' : IsOf y b) : x = y := Option.some.inj (h.1.symm.trans h'.1)

variable {t t' : Pool ι (Store ι) (Phase ι)}

/-- What the deletion itself does: it finds every invite that bears the id or the key. -/
theorem missed_deletion (hs : Signed t.store) {p' : Phase ι} (hp : ∀ e, p' ≠ .failed e)
    (h : Deletes userId t.store (t.proc d) s' p') :
    Missed userId d ⟨s', Function.update t.proc d p'⟩ ↔ Missed userId d t := by
  obtain ⟨s, proc⟩ := t
  simp only [Missed, Function.update_self] at h ⊢
  generalize proc d = p at h ⊢
  cases h with
  | mark => simp [seen]
  | scrub now =>
    refine iff_of_false ?_ (by simp [seen])
    rintro ⟨ids, hids, b, hb, hc, hid⟩
    cases hids
    refine hid (List.mem_map_of_mem (List.mem_filter.mpr ⟨hb, decide_eq_true ?_⟩))
    exact ⟨(isOf_of_carries (hs.signed b hb) hc).1, hc.1⟩
  | commit ids now =>
    constructor
    · rintro ⟨-, -, b, hb, hc, -⟩
      obtain ⟨hb, hid⟩ := (mem_erase_iff hc).mp hb
      exact ⟨ids, rfl, b, hb, hc, hid⟩
    · rintro ⟨_, hids, b, hb, hc, hid⟩
      cases hids
      exact ⟨[], rfl, b, (mem_erase_iff hc).mpr ⟨hb, hid⟩, hc, List.not_mem_nil⟩
  | fail _ e => exact absurd rfl (hp e)

omit [DecidableEq ι] in
theorem not_mem_seen (hd : calls d = .deleteAccount userId) (hb : Bears calls d s p) (hi : ∀ b ∈ s.invites, b.id ≠ i)
    (hids : ids ∈ seen p) : i ∉ ids := by
  intro hmem
  cases p with
  | scrubbed ids' now =>
    cases hids
    obtain ⟨b, hb, he⟩ := (hb.found ids now userId rfl hd).1 i hmem
    exact hi b hb he
  | deleted =>
    cases hids
    cases hmem
  | _ => cases hids

theorem next_inserted {lead : LeadId ι} {touchedAt : ℤ} {invite : Invite ι}
    (h : next rt (.submitInvite input) i s (.submitting (.inserted lead touchedAt invite) tx) a = some (s', p')) :
    a = .commit ∧ s' = release i (file input i s tx lead touchedAt invite) ∨ p' = .failed .aborted := by
  cases a with
  | commit =>
    cases h
    exact .inl ⟨rfl, rfl⟩
  | abandon =>
    cases h
    exact .inr rfl
  | _ => cases h

/-- What anybody else does. -/
theorem missed_other {a : ι × Act ι} (hd : ∀ i, calls i = .deleteAccount userId ↔ i = d) (hne : a.1 ≠ d)
    (ht : PoolInv (Known rt calls) (Holds rt calls) t)
    (hn : next rt (calls a.1) a.1 t.store (t.proc a.1) a.2 = some (s', p')) :
    Missed userId d ⟨s', Function.update t.proc a.1 p'⟩ ↔ Missed userId d t ∨ Late calls userId d t a := by
  have hproc : Function.update t.proc a.1 p' d = t.proc d := Function.update_of_ne hne.symm ..
  obtain ⟨⟨-, hs⟩, hk⟩ := ht
  obtain ⟨hassert, hbears⟩ := hk a.1
  generalize hp : t.proc a.1 = p at hn hassert hbears
  by_cases hl : Late calls userId d t a
  · refine iff_of_true ?_ (.inr hl)
    obtain ⟨hcommit, hlooked, ⟨input, hcall, rfl⟩, lead, touchedAt, invite, tx, hphase⟩ := hl
    obtain ⟨ids, hids⟩ := Option.isSome_iff_exists.mp hlooked
    cases hp.symm.trans hphase
    rw [hcall, hcommit] at hn
    cases hn
    obtain ⟨hopen, hof⟩ := hbears.written _ _ _ _ input rfl hcall
    obtain ⟨-, hid, -⟩ := (hassert.2 _ _ rfl input hcall).inserted _ _ _ rfl
    refine ⟨ids, (congrArg (ids ∈ seen ·) hproc).mpr hids, invite, ?_, ⟨hopen, .inl hof.1⟩, ?_⟩
    · show invite ∈ (file input a.1 t.store tx lead touchedAt invite).invites
      rw [file_invites]
      exact List.mem_append_right _ (List.mem_singleton_self _)
    · rw [hid]
      exact not_mem_seen ((hd d).mpr rfl) (hk d).2 (hassert.1 nofun).1 hids
  rw [or_iff_left hl]
  cases hlooked : seen (t.proc d) with
  | none =>
    refine iff_of_false ?_ ?_
    · rintro ⟨ids, hids, -⟩
      cases hlooked.symm.trans ((congrArg seen hproc).symm.trans hids)
    · rintro ⟨ids, hids, -⟩
      cases hlooked.symm.trans hids
  | some =>
  refine missed_congr hproc fun b hb => ?_
  cases effect_next hn with
  | quiet _ _ hq => rw [hq.invites]
  | file input hcall tx lead touchedAt invite he =>
    subst he
    have hof := (hbears.written _ _ _ _ input rfl hcall).2
    show b ∈ (file input a.1 t.store tx lead touchedAt invite).invites ↔ _
    rw [file_invites, List.mem_append, List.mem_singleton]
    refine or_iff_left ?_
    rintro rfl
    have hx : input.userId = userId := hof.eq (isOf_of_carries (fun _ => ⟨_, hof⟩) hb)
    obtain ⟨hcommit, -⟩ | hfail := next_inserted (hcall ▸ hn)
    · exact hl ⟨hcommit, Option.isSome_iff_exists.mpr ⟨_, hlooked⟩, ⟨input, hcall, hx⟩, lead, touchedAt, b, tx, hp⟩
    · cases hfail
  | erase x hcall ids now he =>
    subst he
    obtain ⟨-, hof⟩ := hbears.found ids now x rfl hcall
    rw [mem_erase_iff hb, and_iff_left_iff_imp]
    intro hmem hid
    have hx : x = userId := (hof b hmem hid hb.1).eq (isOf_of_carries (hs.signed b hmem) hb)
    exact hne ((hd a.1).mp (hx ▸ hcall))

theorem missed_step (hd : ∀ i, calls i = .deleteAccount userId ↔ i = d) (t : Pool ι (Store ι) (Phase ι))
    (a : ι × Act ι) (t' : Pool ι (Store ι) (Phase ι)) (ht : PoolInv (Known rt calls) (Holds rt calls) t)
    (hfail : ∀ e, t'.proc d ≠ .failed e) (h : step rt calls t a = some t') :
    Missed userId d t' ↔ Missed userId d t ∨ Late calls userId d t a := by
  obtain ⟨s', p', hn, rfl⟩ := poolStep_eq_some.mp h
  by_cases he : a.1 = d
  · have hcall : calls a.1 = .deleteAccount userId := (hd a.1).mpr he
    have hl : ¬ Late calls userId d t a := by
      rintro ⟨-, -, ⟨input, hinput, -⟩, -⟩
      cases hcall.symm.trans hinput
    rw [or_iff_left hl]
    subst he
    rw [hcall] at hn
    refine missed_deletion ht.1.2 (fun e => ?_) (deletes_of_next hn)
    simpa using hfail e
  · exact missed_other hd he ht hn

omit [DecidableEq ι] in
theorem known_opened (rt : Runtime) (calls : ι → Call) (businesses : Businesses) (leads : List (String × Leads.Lead))
    (grants : List InviteRewardGrant) (users : String → Option UserStatus) :
    PoolInv (Known rt calls) (Holds rt calls) (opened businesses leads grants users : Pool ι (Store ι) (Phase ι)) := by
  obtain ⟨hinv, hassert⟩ : PoolInv (Inv rt calls) (Assertion rt calls) (opened businesses leads grants users) :=
    inv_opened
  refine ⟨⟨hinv, List.nodup_nil, fun b hb => by cases hb⟩, fun i => ⟨hassert i, ?_⟩⟩
  exact ⟨fun _ _ _ _ _ he => (by cases he), fun _ _ _ he => (by cases he)⟩

theorem next_of_failed (e : Failure) : next rt call i s (.failed e) a = none := by
  cases call <;> cases a <;> rfl

/-- A deletion that ends well has not failed before. -/
theorem not_failed_of_deleted {as : List (ι × Act ι)} {s : Pool ι (Store ι) (Phase ι)}
    (h : run (step rt calls) s as = some t) (hdel : t.proc d = .deleted) :
    Throughout (step rt calls) (fun u => ∀ e, u.proc d ≠ .failed e) s as := by
  rintro xs ys u rfl hu e he
  obtain ⟨v, hv, hrest⟩ := run_append_eq_some.mp h
  cases hu.symm.trans hv
  have hfail : t.proc d = .failed e := by
    refine run_invariant (I := fun w => w.proc d = .failed e) (fun w a w' hw hstep => ?_) he hrest
    obtain ⟨s', p', hn, rfl⟩ := poolStep_eq_some.mp hstep
    by_cases hi : a.1 = d
    · rw [hi, hw, next_of_failed] at hn
      cases hn
    · exact (Function.update_of_ne (Ne.symm hi) ..).trans hw
  cases hdel.symm.trans hfail

/-- Every interleaving of the deletion of an account with submissions, of the user and of others, and with other
    deletions. No invite of the user is left that is not anonymised, by id or by key, exactly if no submission of the
    user commits its invite after the deletion has looked for them. -/
theorem erasure_complete_iff {businesses : Businesses} {leads : List (String × Leads.Lead)}
    {grants : List InviteRewardGrant} {users : String → Option UserStatus} {as : List (ι × Act ι)}
    (h : run (step rt calls) (opened businesses leads grants users) as = some t)
    (hd : ∀ i, calls i = .deleteAccount userId ↔ i = d) (hdel : t.proc d = .deleted) :
    (∀ b ∈ t.store.invites, ¬ Carries userId b) ↔
      ¬ Somewhere (step rt calls) (Late calls userId d) (opened businesses leads grants users) as := by
  have hknown : Throughout (step rt calls) (PoolInv (Known rt calls) (Holds rt calls)) _ as :=
    throughout_of_step (poolInv_step known_own known_frame) (known_opened rt calls businesses leads grants users)
  have hfail := not_failed_of_deleted h hdel
  have hmissed : Missed userId d t ↔ _ := run_iff_somewhere_of_throughout
    (K := fun u => PoolInv (Known rt calls) (Holds rt calls) u ∧ ∀ e, u.proc d ≠ .failed e)
    (fun u a u' hu hu' => missed_step hd u a u' hu.1 hu'.2)
    (fun xs ys u he hu => ⟨hknown xs ys u he hu, hfail xs ys u he hu⟩) h
  have hstart : ¬ Missed userId d (opened businesses leads grants users : Pool ι (Store ι) (Phase ι)) := by
    rintro ⟨_, hids, -⟩
    cases hids
  rw [or_iff_right hstart] at hmissed
  rw [← hmissed, Missed, hdel]
  simp [seen]

/-! ### A deletion on either side of a commit -/

def leaving : ℕ → Call
  | 0 => .submitInvite (toCafe "ann")
  | 1 => .deleteAccount "ann"
  | _ => .submitInvite (toCafe "bob")

theorem leaving_eq_deleteAccount (i : ℕ) : leaving i = .deleteAccount "ann" ↔ i = 1 := by
  fun_cases leaving <;> simp_all

def files (i : ℕ) (now : ℤ) : List (ℕ × Act ℕ) :=
  [(i, .lockPlace), (i, .lockInviter), (i, .findDuplicate), (i, .count), (i, .attach []), (i, .reuse),
    (i, .insert now now), (i, .commit)]

def leaves (i : ℕ) (now : ℤ) : List (ℕ × Act ℕ) := [(i, .mark), (i, .scrub now), (i, .commit)]

def inviteFirst : List (ℕ × Act ℕ) := arrives 0 10 ++ files 0 11 ++ leaves 1 12

/-- The deletion falls between the check of the user and the transaction of the submission. -/
def deletionFirst : List (ℕ × Act ℕ) := arrives 0 10 ++ leaves 1 11 ++ files 0 12

def everybody : Pool ℕ (Store ℕ) (Phase ℕ) := opened noBusinesses [] [] fun _ => some .ACTIVE

theorem erasure_complete_iff_inviteFirst : ∃ t, run (step plain leaving) everybody inviteFirst = some t ∧
    t.proc 1 = .deleted ∧ t.store.invites.length = 1 ∧ (∀ b ∈ t.store.invites, ¬ Carries "ann" b) ∧
      ¬ Somewhere (step plain leaving) (Late leaving "ann" 1) everybody inviteFirst := by
  obtain ⟨t, ht, hdel, hlen, hnone⟩ : ∃ t, run (step plain leaving) everybody inviteFirst = some t ∧
      t.proc 1 = .deleted ∧ t.store.invites.length = 1 ∧ ∀ b ∈ t.store.invites, b.anonymisedAt ≠ none := by
    refine ⟨_, rfl, rfl, rfl, fun b hb => ?_⟩
    cases List.mem_singleton.mp hb
    exact Option.some_ne_none 12
  have hclean : ∀ b ∈ t.store.invites, ¬ Carries "ann" b := fun b hb hc => hnone b hb hc.1
  exact ⟨t, ht, hdel, hlen, hclean, (erasure_complete_iff ht leaving_eq_deleteAccount hdel).mp hclean⟩

theorem late_invite_kept : ∃ t, run (step plain leaving) everybody deletionFirst = some t ∧
    t.proc 0 = .returned .ok ∧ t.proc 1 = .deleted ∧ ∃ b ∈ t.store.invites, Carries "ann" b :=
  ⟨_, rfl, rfl, rfl, _, List.mem_singleton_self _, rfl, .inl rfl⟩

end Redeemo.Invites
