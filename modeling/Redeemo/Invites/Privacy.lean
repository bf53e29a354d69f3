import Redeemo.Invites.Submit

/-! What the answer to a submission says about businesses that are not live.

    Of two stores that differ in leads and in merchants that are not live, an inviter sees the same, unless a branch of
    such a merchant hides a live one of the name, or a lead that an earlier invite names is gone. -/

namespace Redeemo.Invites
open Fallible Leads Records Runs

variable {ι : Type*} [DecidableEq ι] {rt : Runtime} {i : ι} {s t : Store ι} {tx : Transaction} {db : Businesses}
  {input : SubmitInviteInput} {m : Merchant} {b : Branch}

/-! ### The live part -/

def isLive (m : Merchant) : Bool := m.status = .ACTIVE

def ofLive (db : Businesses) (b : Branch) : Bool := db.merchants.any fun m => isLive m && m.id = b.merchantId

/-- The businesses without those that are not live. -/
def live (db : Businesses) : Businesses where
  merchants := db.merchants.filter isLive
  branches := db.branches.filter (ofLive db)
  keyed := db.keyed.sublist (List.filter_sublist.map _)
  owned b hb := by
    obtain ⟨-, hlive⟩ := List.mem_filter.mp hb
    obtain ⟨m, hm, hown⟩ := List.any_eq_true.mp hlive
    rw [Bool.and_eq_true, decide_eq_true_eq] at hown
    exact ⟨m, List.mem_filter.mpr ⟨hm, hown.1⟩, hown.2⟩

/-- Nothing differs that the answers may depend on. -/
structure LiveAlike (s t : Store ι) : Prop where
  invites : t.invites = s.invites
  businesses : live t.businesses = live s.businesses

variable (rt) in
/-- The business that an inviter may see. -/
def liveMatch (db : Businesses) (input : SubmitInviteInput) : Option Merchant :=
  findMatchingMerchant rt (live db) input true

/-- The place belongs to a merchant that is not live. -/
def Shadowed (db : Businesses) (input : SubmitInviteInput) : Prop :=
  ∃ m, placeLane db input.googlePlaceId true = some m ∧ m.status ≠ .ACTIVE

/-! ### The two lanes -/

/-- The first element with a property, if it stays, is the first among those that stay. -/
theorem find_filter_of_find {α : Type*} {p q : α → Bool} {xs : List α} {x : α} (h : xs.find? p = some x)
    (hq : q x = true) : (xs.filter q).find? p = some x := by
  obtain ⟨hp, ys, zs, rfl, hys⟩ := List.find?_eq_some_iff_append.mp h
  rw [List.find?_filter, List.find?_eq_some_iff_append]
  refine ⟨by simp [hp, hq], ys, zs, rfl, fun y hy => ?_⟩
  have hnot : p y = false := by simpa using hys y hy
  simp [hnot]

theorem exists_owner (hb : b ∈ db.branches) :
    ∃ m ∈ db.merchants, m.id = b.merchantId ∧ (db.merchants.find? fun m => m.id = b.merchantId) = some m := by
  obtain ⟨m, hm, he⟩ := db.owned b hb
  have hf := (db.keyed.find_iff (p := fun m => m.id = b.merchantId) (k := b.merchantId) fun _ h => h).mpr ⟨hm, he⟩
  exact ⟨m, hm, he, hf⟩

theorem ofLive_eq (hm : m ∈ db.merchants) (he : m.id = b.merchantId) : ofLive db b = isLive m := by
  rw [Bool.eq_iff_iff, ofLive, List.any_eq_true]
  constructor
  · rintro ⟨m', hm', hlive⟩
    rw [Bool.and_eq_true, decide_eq_true_eq] at hlive
    rw [db.keyed.eq hm hm' (he.trans hlive.2.symm)]
    exact hlive.1
  · intro hlive
    exact ⟨m, hm, by simp [hlive, he]⟩

theorem placeLane_live (h : ¬ Shadowed db input) :
    placeLane (live db) input.googlePlaceId true = placeLane db input.googlePlaceId true := by
  unfold placeLane
  cases hgiven : given input.googlePlaceId with
  | none => rfl
  | some placeId =>
    simp only [Option.bind_eq_bind, Option.bind_some]
    generalize hat : (fun b : Branch => decide (b.googlePlaceId = some placeId) && (!true || b.isActive)) = isAt
    cases hfind : db.branches.find? isAt with
    | none =>
      have hnone : (live db).branches.find? isAt = none := by
        rw [List.find?_eq_none] at hfind ⊢
        exact fun b hb => hfind b (List.mem_filter.mp hb).1
      rw [hnone, Option.bind_none, Option.bind_none]
    | some b =>
      obtain ⟨m, hm, he, howner⟩ := exists_owner (List.mem_of_find?_eq_some hfind)
      have hlive : isLive m = true := by
        by_contra hnot
        refine h ⟨m, ?_, by simpa [isLive] using hnot⟩
        simp only [placeLane, hgiven, hat, hfind, Option.bind_eq_bind, Option.bind_some, howner]
      rw [live, find_filter_of_find hfind ((ofLive_eq hm he).trans hlive)]
      simp only [Option.bind_some, howner]
      exact find_filter_of_find howner hlive

theorem activeBranches_live (hm : m ∈ db.merchants) (hlive : isLive m = true) :
    activeBranches (live db) m = activeBranches db m := by
  unfold activeBranches
  rw [live, List.filter_filter]
  refine List.filter_congr fun b _ => ?_
  by_cases he : b.merchantId = m.id
  · rw [ofLive_eq hm he.symm, hlive, Bool.and_true]
  · simp [he]

variable (rt) in
theorem nameLane_live (db : Businesses) (name : String) (localityRaw : Option String) :
    nameLane rt (live db) name localityRaw true = nameLane rt db name localityRaw true := by
  unfold nameLane
  have hfind : ((live db).merchants.find? fun m => (!true || m.status = .ACTIVE) && rt.insensitive m.businessName name)
      = db.merchants.find? fun m => (!true || m.status = .ACTIVE) && rt.insensitive m.businessName name := by
    rw [live, List.find?_filter]
    congr 1
    funext m
    simp [isLive]
  rw [hfind]
  cases hm : db.merchants.find? fun m => (!true || m.status = .ACTIVE) && rt.insensitive m.businessName name with
  | none => rfl
  | some m =>
    have hlive : isLive m = true := by
      have hp := List.find?_some hm
      simp only [Bool.and_eq_true] at hp
      exact hp.1
    simp only [Option.bind_eq_bind, Option.bind_some, activeBranches_live (List.mem_of_find?_eq_some hm) hlive]

/-- The live search finds what there is to find among the live, unless the place is another's. -/
theorem findMatchingMerchant_live : findMatchingMerchant rt db input true = some m ↔
    ¬ Shadowed db input ∧ liveMatch rt db input = some m := by
  by_cases h : Shadowed db input
  · refine iff_of_false ?_ (fun hand => hand.1 h)
    obtain ⟨m', hplace, hne⟩ := h
    simp [findMatchingMerchant, hplace, hne]
  · rw [and_iff_right h, liveMatch, findMatchingMerchant, findMatchingMerchant, placeLane_live h, nameLane_live]

/-! ### The answer -/

variable (rt)

/-- The inviter has filed the business already. -/
def Duplicate (s : Store ι) (input : SubmitInviteInput) : Prop :=
  (s.invites.find? fun a => Files input.inviterKey (input.placeKey rt) a).isSome = true

/-- The inviter has no room for another invite. -/
def AtCap (s : Store ι) (input : SubmitInviteInput) : Prop :=
  OPEN_INVITE_CAP ≤ s.invites.countP fun a => IsOpen input.inviterKey a

/-- The rows that a query of leads is answered with, in the order of the table. -/
def firstTen (rows : List (LeadId ι × Lead)) : List (LeadId ι × Lead) := rows.take 10

/-- No open lead is the business's, and the one that an earlier invite for it names is gone. -/
def Orphaned (s : Store ι) (input : SubmitInviteInput) : Prop :=
  locate rt input.localityRaw (firstTen (openLeads rt s.leads (trim input.businessNameRaw))) = none ∧
    ∃ lead ∈ reusedLead s.invites (input.placeKey rt), lead ∉ s.leadIds

instance (s : Store ι) (input : SubmitInviteInput) : Decidable (Duplicate rt s input) :=
  inferInstanceAs (Decidable (_ = true))

instance (s : Store ι) (input : SubmitInviteInput) : Decidable (AtCap s input) :=
  inferInstanceAs (Decidable (OPEN_INVITE_CAP ≤ _))

instance (s : Store ι) (input : SubmitInviteInput) : Decidable (Orphaned rt s input) :=
  inferInstanceAs (Decidable (_ ∧ _))

/-- `submitInvite`, with nobody else about. -/
def reply (s : Store ι) (input : SubmitInviteInput) : Except Failure SubmitInviteResult :=
  match validate rt input with
  | .error e => .error (.app e)
  | .ok _ =>
    match findMatchingMerchant rt s.businesses input true with
    | some merchant => .ok (.already_live merchant.id merchant.businessName)
    | none =>
      if Duplicate rt s input then .ok .ok
      else if AtCap s input then .error (.app .INVITE_CAP_REACHED)
      else if Orphaned rt s input then .error .aborted
      else .ok .ok

/-- There is a live business to see, and no other merchant has its place. -/
def Reveals (db : Businesses) (input : SubmitInviteInput) : Prop :=
  ¬ Shadowed db input ∧ (liveMatch rt db input).isSome = true

variable {rt}

theorem reply_of_invalid {e : AppError} (h : validate rt input = .error e) : reply rt s input = .error (.app e) := by
  rw [reply, h]

theorem reply_of_reveals {note : InviteNote} (hv : validate rt input = .ok note)
    (h : ¬ Shadowed s.businesses input) (hm : liveMatch rt s.businesses input = some m) :
    reply rt s input = .ok (.already_live m.id m.businessName) := by
  rw [reply, hv, findMatchingMerchant_live.mpr ⟨h, hm⟩]

theorem reply_of_not_reveals {note : InviteNote} (hv : validate rt input = .ok note)
    (h : ¬ Reveals rt s.businesses input) : reply rt s input =
      if Duplicate rt s input then .ok .ok
      else if AtCap s input then .error (.app .INVITE_CAP_REACHED)
      else if Orphaned rt s input then .error .aborted
      else .ok .ok := by
  have hnone : findMatchingMerchant rt s.businesses input true = none := by
    rw [Option.eq_none_iff_forall_ne_some]
    intro m hm
    obtain ⟨hshadow, hlive⟩ := findMatchingMerchant_live.mp hm
    exact h ⟨hshadow, Option.isSome_iff_exists.mpr ⟨m, hlive⟩⟩
  rw [reply, hv, hnone]

/-- A business that is not seen is not answered as one that is. -/
theorem reply_ne_already_live {note : InviteNote} (hv : validate rt input = .ok note)
    (h : ¬ Reveals rt s.businesses input) (id name : String) : reply rt s input ≠ .ok (.already_live id name) := by
  rw [reply_of_not_reveals hv h]
  split_ifs <;> simp

omit [DecidableEq ι] in
theorem LiveAlike.duplicate (h : LiveAlike s t) : Duplicate rt t input ↔ Duplicate rt s input := by
  rw [Duplicate, Duplicate, h.invites]

omit [DecidableEq ι] in
theorem LiveAlike.atCap (h : LiveAlike s t) : AtCap t input ↔ AtCap s input := by
  rw [AtCap, AtCap, h.invites]

omit [DecidableEq ι] in
theorem LiveAlike.liveMatch (h : LiveAlike s t) :
    liveMatch rt t.businesses input = liveMatch rt s.businesses input := by
  rw [Invites.liveMatch, Invites.liveMatch, h.businesses]

/-! ### The answer of a run -/

theorem takesTen_firstTen (rows : List (LeadId ι × Lead)) : TakesTen rows (firstTen rows) :=
  ⟨(List.take_sublist 10 rows).subperm, List.length_take⟩

def finished : Except Failure SubmitInviteResult → Phase ι
  | .ok r => .returned r
  | .error e => .failed e

variable {calls : ι → Call}

/-- Both locks are taken. -/
def locked (rt : Runtime) (input : SubmitInviteInput) (i : ι) (s : Store ι) : Store ι :=
  { s with
    placeLock := Function.update s.placeLock (rt.hashtext (input.placeKey rt)) (some i)
    inviterLock := Function.update s.inviterLock (rt.hashtext input.inviterKey) (some i) }

theorem alone_locked (hcall : calls i = .submitInvite input) (hplace : ∀ k, s.placeLock k = none)
    (hinviter : ∀ k, s.inviterLock k = none) {note : InviteNote} (hv : validate rt input = .ok note)
    (hm : findMatchingMerchant rt s.businesses input true = none) : ∃ as tx,
      run (soloStep (fun j => next rt (calls j) j) i) (s, .found) as =
        some (locked rt input i s, .submitting .locked tx) := by
  let candidates := firstTen (openLeads rt s.leads (trim input.businessNameRaw))
  let converted := firstTen (convertedLeads rt s.leads (trim input.businessNameRaw))
  let eligible := rewardEligible rt s.businesses input candidates converted
  let placed : Store ι :=
    { s with placeLock := Function.update s.placeLock (rt.hashtext (input.placeKey rt)) (some i) }
  have hlive : next rt (.submitInvite input) i s .found .checkLive = some (s, .notLive note) := by
    rw [next, hv]
    dsimp only
    rw [hm]
  have hopen : next rt (.submitInvite input) i s (.notLive note) (.readOpen candidates) =
      some (s, .openSeen note candidates) := if_pos (takesTen_firstTen _)
  have hconverted : next rt (.submitInvite input) i s (.openSeen note candidates) (.readConverted converted) =
      some (s, .stamped note eligible) := if_pos (takesTen_firstTen _)
  have hplaced : next rt (.submitInvite input) i s (.submitting .begun ⟨note, eligible, 0⟩) .lockPlace =
      some (placed, .submitting .placed ⟨note, eligible, 0⟩) := if_pos (hplace _)
  have hlocked : next rt (.submitInvite input) i placed (.submitting .placed ⟨note, eligible, 0⟩) .lockInviter =
      some (locked rt input i s, .submitting .locked ⟨note, eligible, 0⟩) := if_pos (hinviter _)
  have hsolo (s' : Store ι) (p : Phase ι) (a : Act ι) :
      soloStep (fun j => next rt (calls j) j) i (s', p) a = next rt (.submitInvite input) i s' p a := by
    simp only [soloStep, hcall]
  refine ⟨[.checkLive, .readOpen candidates, .readConverted converted, .begin 0, .lockPlace, .lockInviter],
    ⟨note, eligible, 0⟩, ?_⟩
  exact run_cons_eq_some.mpr ⟨_, (hsolo ..).trans hlive, run_cons_eq_some.mpr ⟨_, (hsolo ..).trans hopen,
    run_cons_eq_some.mpr ⟨_, (hsolo ..).trans hconverted, run_cons_eq_some.mpr ⟨_, (hsolo ..).trans rfl,
    run_cons_eq_some.mpr ⟨_, (hsolo ..).trans hplaced, run_cons_eq_some.mpr ⟨_, (hsolo ..).trans hlocked, rfl⟩⟩⟩⟩⟩⟩

theorem solo_submitting (hcall : calls i = .submitInvite input) (stage : Stage ι) (a : Act ι) :
    soloStep (fun j => next rt (calls j) j) i (s, .submitting stage tx) a = submission rt input i s tx stage a := by
  simp only [soloStep, hcall, next]

/-- An insert under a lead that is there, or that the call itself creates. -/
theorem submission_insert (i : ι) (tx : Transaction) (hdup : ¬ Duplicate rt s input) {lead : LeadId ι}
    (hlead : lead = .made i ∨ lead ∈ s.leadIds) :
    submission rt input i s tx (.attached lead) (.insert 0 0) =
      some (s, .submitting (.inserted lead 0 (createdInvite rt input tx i lead 0)) tx) := by
  have hthere : ¬ (lead ≠ .made i ∧ lead ∉ s.leadIds) := by tauto
  rw [submission, if_neg hthere]
  exact if_neg hdup

/-- From there on, a submission that may file its invite. -/
theorem alone_filed (s : Store ι) (tx : Transaction) (hcall : calls i = .submitInvite input)
    (hnew : ∀ a ∈ s.invites, a.leadId ≠ some (.made i)) (hdup : ¬ Duplicate rt s input) (hcap : ¬ AtCap s input) :
    ∃ as s', run (soloStep (fun j => next rt (calls j) j) i) (s, .submitting .locked tx) as =
      some (s', if Orphaned rt s input then .failed .aborted else .returned .ok) := by
  let candidates := firstTen (openLeads rt s.leads (trim input.businessNameRaw))
  have hten : TakesTen (openLeads rt s.leads (trim input.businessNameRaw)) candidates := takesTen_firstTen _
  have hfind : submission rt input i s tx .locked .findDuplicate = some (s, .submitting .unique tx) := if_neg hdup
  have hcount : submission rt input i s tx .unique .count = some (s, .submitting .counted tx) := if_neg hcap
  have hattach : submission rt input i s tx .counted (.attach candidates) =
      some (s, .submitting ((locate rt input.localityRaw candidates).elim .unattached fun lead => .attached lead.1)
        tx) := by
    rw [submission, if_pos hten]
    cases locate rt input.localityRaw candidates <;> rfl
  have hreuse : submission rt input i s tx .unattached .reuse =
      some (s, .submitting (.attached ((reusedLead s.invites (input.placeKey rt)).getD (.made i))) tx) := rfl
  have hcommit : ∀ lead touchedAt invite, submission rt input i s tx (.inserted lead touchedAt invite) .commit =
      some (release i (file input i s tx lead touchedAt invite), .returned .ok) := fun _ _ _ => rfl
  cases hl : locate rt input.localityRaw candidates with
  | some lead =>
    rw [if_neg fun horphan : Orphaned rt s input => by cases hl.symm.trans horphan.1]
    have hinsert := submission_insert i tx hdup (.inr (mem_of_locate hten hl))
    refine ⟨[.findDuplicate, .count, .attach candidates, .insert 0 0, .commit], ?_⟩
    simp [run, solo_submitting hcall, hfind, hcount, hattach, hl, hinsert, hcommit]
  | none =>
    cases hr : reusedLead s.invites (input.placeKey rt) with
    | none =>
      rw [if_neg fun horphan : Orphaned rt s input => by simp [Orphaned, hr] at horphan]
      have hinsert := submission_insert i tx hdup (.inl rfl)
      refine ⟨[.findDuplicate, .count, .attach candidates, .reuse, .insert 0 0, .commit], ?_⟩
      simp [run, solo_submitting hcall, hfind, hcount, hattach, hl, hreuse, hr, hinsert, hcommit]
    | some lead =>
      by_cases hmem : lead ∈ s.leadIds
      · rw [if_neg fun horphan : Orphaned rt s input => by simp [Orphaned, hr, hmem] at horphan]
        have hinsert := submission_insert i tx hdup (.inr hmem)
        refine ⟨[.findDuplicate, .count, .attach candidates, .reuse, .insert 0 0, .commit], ?_⟩
        simp [run, solo_submitting hcall, hfind, hcount, hattach, hl, hreuse, hr, hinsert, hcommit]
      · have horphan : Orphaned rt s input := ⟨hl, lead, hr, hmem⟩
        have hmade : lead ≠ .made i := by
          obtain ⟨a, ha, hlead⟩ := mem_of_reusedLead hr
          rintro rfl
          exact hnew a ha hlead
        have hmissing : submission rt input i s tx (.attached lead) (.insert 0 0) =
            some (release i s, .failed .aborted) := if_pos ⟨hmade, hmem⟩
        rw [if_pos horphan]
        refine ⟨[.findDuplicate, .count, .attach candidates, .reuse, .insert 0 0], ?_⟩
        simp [run, solo_submitting hcall, hfind, hcount, hattach, hl, hreuse, hr, hmissing]

/-- Two stores whose live businesses and invites are the same. The same input is answered alike exactly if it is not
    valid; or both reveal a live business; or neither does, and it is a duplicate or over the cap, or the lead that it
    would be filed under is missing in both or in neither. -/
theorem reply_eq_iff (h : LiveAlike s t) : reply rt s input = reply rt t input ↔
    (∃ e, validate rt input = .error e) ∨
      (Reveals rt s.businesses input ↔ Reveals rt t.businesses input) ∧
        (Reveals rt s.businesses input ∨ Duplicate rt s input ∨ AtCap s input ∨
          (Orphaned rt s input ↔ Orphaned rt t input)) := by
  cases hv : validate rt input with
  | error e => simp [reply_of_invalid hv]
  | ok note =>
    rw [or_iff_right (by simp)]
    by_cases hs : Reveals rt s.businesses input <;> by_cases ht : Reveals rt t.businesses input
    · obtain ⟨m, hm⟩ := Option.isSome_iff_exists.mp hs.2
      refine iff_of_true ?_ ⟨iff_of_true hs ht, .inl hs⟩
      rw [reply_of_reveals hv hs.1 hm, reply_of_reveals hv ht.1 (h.liveMatch.trans hm)]
    · obtain ⟨m, hm⟩ := Option.isSome_iff_exists.mp hs.2
      refine iff_of_false ?_ (fun hand => ht (hand.1.mp hs))
      rw [reply_of_reveals hv hs.1 hm]
      exact (reply_ne_already_live hv ht m.id m.businessName).symm
    · obtain ⟨m, hm⟩ := Option.isSome_iff_exists.mp ht.2
      refine iff_of_false ?_ (fun hand => hs (hand.1.mpr ht))
      rw [reply_of_reveals hv ht.1 hm]
      exact reply_ne_already_live hv hs m.id m.businessName
    · rw [reply_of_not_reveals hv hs, reply_of_not_reveals hv ht, and_iff_right (iff_of_false hs ht), or_iff_right hs]
      simp only [h.duplicate, h.atCap]
      by_cases hdup : Duplicate rt s input
      · simp [hdup]
      by_cases hcap : AtCap s input
      · simp [hdup, hcap]
      by_cases hos : Orphaned rt s input <;> by_cases hot : Orphaned rt t input <;> simp [hdup, hcap, hos, hot]

/-! ### Two drafts of one town -/

/-- A live café, whose branch has no place. -/
def cafe : Merchant := ⟨"m1", "Cafe", .ACTIVE⟩

def cafeBranch : Branch := ⟨"m1", none, true, "1 High Street", none, "Leeds", "LS1 1AA", none, none⟩

def draft : Merchant := ⟨"m2", "Bistro", .REGISTERED⟩

def draftBranch (googlePlaceId : Option String) : Branch :=
  ⟨"m2", googlePlaceId, true, "2 High Street", none, "Leeds", "LS1 1AA", none, none⟩

def withoutDraft : Businesses := ⟨[cafe], [cafeBranch], by decide, by decide⟩

def withDraft (googlePlaceId : Option String) : Businesses where
  merchants := [cafe, draft]
  branches := [cafeBranch, draftBranch googlePlaceId]
  keyed := by decide
  owned := by simp [cafe, draft, cafeBranch, draftBranch]

def town (businesses : Businesses) : Store ℕ := (opened businesses [] [] fun _ => some .ACTIVE).store

theorem liveAlike_town (googlePlaceId : Option String) :
    LiveAlike (town (withDraft googlePlaceId)) (town withoutDraft) where
  invites := rfl
  businesses := rfl

/-- A draft without the place hides nothing. -/
theorem reply_eq_iff_town : reply plain (town (withDraft none)) (toCafe "ann") = .ok (.already_live "m1" "Cafe") ∧
    reply plain (town (withDraft none)) (toCafe "ann") = reply plain (town withoutDraft) (toCafe "ann") := by
  have hreveals : ∀ db, placeLane db (some "place-1") true = none → (liveMatch plain db (toCafe "ann")).isSome = true →
      Reveals plain db (toCafe "ann") := by
    rintro db hplace hsome
    refine ⟨?_, hsome⟩
    rintro ⟨m, hm, -⟩
    cases hplace.symm.trans hm
  have hwith := hreveals (withDraft none) rfl rfl
  have hwithout := hreveals withoutDraft rfl rfl
  exact ⟨rfl, (reply_eq_iff (liveAlike_town none)).mpr (.inr ⟨iff_of_true hwith hwithout, .inl hwith⟩)⟩

/-- A draft at the place does: nothing is revealed where an unknown business would be taken for the live one. -/
theorem draft_distinguishable : LiveAlike (town (withDraft (some "place-1"))) (town withoutDraft) ∧
    reply plain (town (withDraft (some "place-1"))) (toCafe "ann") = .ok .ok ∧
    reply plain (town withoutDraft) (toCafe "ann") = .ok (.already_live "m1" "Cafe") :=
  ⟨liveAlike_town _, rfl, rfl⟩

end Redeemo.Invites
