import Redeemo.Subscription.Webhook

/-! A cancelled subscription, and the events that Stripe delivers after its `deleted` event.

    Every event that writes a status writes it absolutely, whatever the row says, and Stripe promises no
    order of delivery. Once the `deleted` event is processed, the row stays CANCELLED exactly as long as
    no further event of the subscription that writes another status is processed. -/

namespace Redeemo.Webhook
open Billing Fallible Inbox Rows Runs

/-- The subscription whose row an event updates, and the status it writes. -/
def StripeEvent.writes : StripeEvent → Option (String × SubscriptionStatus)
  | .subscriptionUpdated stripeObj => some (stripeObj.id, mapStripeStatus stripeObj.status)
  | .subscriptionDeleted stripeObj => some (stripeObj.id, .CANCELLED)
  | .paymentFailed invoice => some (invoice.subscription, .PAST_DUE)
  | _ => none

/-- The event carries the dates that it is to write. -/
def StripeEvent.Dated : StripeEvent → Prop
  | .subscriptionUpdated stripeObj => stripeObj.periodStart ≠ none ∧ stripeObj.periodEnd ≠ none
  | .subscriptionDeleted stripeObj => stripeObj.periodStart ≠ none ∧ stripeObj.periodEnd ≠ none
  | _ => True

/-- An update that leaves the keys of a row alone. -/
structure SetsStatus (status : SubscriptionStatus) (f : Subscription → Subscription) : Prop where
  status : ∀ sub, (f sub).status = status
  id : ∀ sub, (f sub).id = sub.id
  userId : ∀ sub, (f sub).userId = sub.userId
  stripeSubscriptionId : ∀ sub, (f sub).stripeSubscriptionId = sub.stripeSubscriptionId

/-- The status is written to the row of a Stripe subscription. -/
def Writes (d : Delivery) (data : Data) (stripeId : String) (status : SubscriptionStatus) (data' : Data) :
    Prop :=
  ∃ sub f, data.findSubscription stripeId = some sub ∧ SetsStatus status f ∧
    data'.subscriptions = (data.updateSubscription sub.id f).subscriptions ∧
    d.fault ≠ some .lookup ∧ d.fault ≠ some .effect

/-- The row of a Stripe subscription is CANCELLED. -/
def Cancelled (stripeId : String) (s : State String Delivery Data) : Prop :=
  ∀ sub ∈ s.data.subscriptions, sub.stripeSubscriptionId = some stripeId → sub.status = .CANCELLED

/-- A first delivery that nothing fails in, of an event that writes another status to the row. -/
structure Reopens (events : String → StripeEvent) (stripeId : String) (s : State String Delivery Data)
    (d : Delivery) : Prop where
  signed : d.signed = true
  fault : d.fault = none
  fresh : d.eventId ∉ s.recorded
  dated : (events d.eventId).Dated
  row : s.data.findSubscription stripeId ≠ none
  writes : ∃ status ≠ .CANCELLED, (events d.eventId).writes = some (stripeId, status)

section
variable {events : String → StripeEvent} {s s' : State String Delivery Data} {d : Delivery}
  {data data' : Data} {stripeId : String}

/-! ### What an event does to the rows -/

theorem withSubscription_ok {effect : Subscription → Except Failure Data}
    (h : withSubscription d data stripeId effect = .ok data') :
    (data.findSubscription stripeId = none ∧ data' = data) ∨
      ∃ sub, data.findSubscription stripeId = some sub ∧ effect sub = .ok data' := by
  simp only [withSubscription, bind_ok_iff] at h
  obtain ⟨-, -, h⟩ := h
  cases hfind : data.findSubscription stripeId with
  | none =>
    rw [hfind] at h
    exact .inl ⟨rfl, (pure_eq_ok.mp h).symm⟩
  | some sub =>
    rw [hfind] at h
    exact .inr ⟨sub, rfl, h⟩

theorem lookup_of_withSubscription {effect : Subscription → Except Failure Data}
    (h : withSubscription d data stripeId effect = .ok data') : d.fault ≠ some .lookup := by
  simp only [withSubscription, bind_ok_iff, rejectIf_eq_ok] at h
  obtain ⟨-, h, -⟩ := h
  exact h

theorem withSubscription_found {effect : Subscription → Except Failure Data} {sub : Subscription}
    (hfault : d.fault = none) (hfind : data.findSubscription stripeId = some sub) :
    withSubscription d data stripeId effect = effect sub := by
  simp only [withSubscription, rejectIf, hfault, hfind]
  rfl

theorem updateStatus_ok {stripeObj : StripeSubscription} {status : SubscriptionStatus}
    (h : updateStatus d data stripeObj status = .ok data') :
    (data.findSubscription stripeObj.id = none ∧ data' = data) ∨
      (stripeObj.periodStart ≠ none ∧ stripeObj.periodEnd ≠ none) ∧
        Writes d data stripeObj.id status data' := by
  have hlookup := lookup_of_withSubscription h
  rcases withSubscription_ok h with hnone | ⟨sub, hfind, h⟩
  · exact .inl hnone
  · simp only [bind_ok_iff, orReject_eq_ok, rejectIf_eq_ok, pure_eq_ok] at h
    obtain ⟨periodStart, hstart, periodEnd, hend, -, heffect, rfl⟩ := h
    refine .inr ⟨⟨Option.ne_none_iff_exists'.mpr ⟨_, hstart⟩, Option.ne_none_iff_exists'.mpr ⟨_, hend⟩⟩,
      sub, _, hfind, ?_, rfl, hlookup, heffect⟩
    exact ⟨fun _ => rfl, fun _ => rfl, fun _ => rfl, fun _ => rfl⟩

/-- An event changes no row, or the row of the subscription that it writes to. -/
theorem applyEvent_ok {event : StripeEvent} (h : applyEvent d data event = .ok data') :
    data'.subscriptions = data.subscriptions ∨ ∃ id status, event.writes = some (id, status) ∧
      event.Dated ∧ Writes d data id status data' := by
  cases event with
  | subscriptionUpdated stripeObj =>
    rcases updateStatus_ok h with ⟨-, rfl⟩ | ⟨hdated, h⟩
    · exact .inl rfl
    · exact .inr ⟨_, _, rfl, hdated, h⟩
  | subscriptionDeleted stripeObj =>
    rcases updateStatus_ok h with ⟨-, rfl⟩ | ⟨hdated, h⟩
    · exact .inl rfl
    · exact .inr ⟨_, _, rfl, hdated, h⟩
  | paymentSucceeded invoice =>
    rw [applyEvent, paymentSucceeded] at h
    split_ifs at h with hreason
    · cases h
      exact .inl rfl
    · rcases withSubscription_ok h with ⟨-, rfl⟩ | ⟨sub, -, h⟩
      · exact .inl rfl
      · simp only [bind_ok_iff, pure_eq_ok] at h
        obtain ⟨-, -, rfl⟩ := h
        exact .inl rfl
  | paymentFailed invoice =>
    have hlookup := lookup_of_withSubscription h
    rcases withSubscription_ok h with ⟨-, rfl⟩ | ⟨sub, hfind, h⟩
    · exact .inl rfl
    · simp only [bind_ok_iff, rejectIf_eq_ok, pure_eq_ok] at h
      obtain ⟨-, heffect, rfl⟩ := h
      refine .inr ⟨_, _, rfl, trivial, sub, _, hfind, ?_, rfl, hlookup, heffect⟩
      exact ⟨fun _ => rfl, fun _ => rfl, fun _ => rfl, fun _ => rfl⟩
  | other type =>
    cases h
    exact .inl rfl

/-- Where nothing fails, an event that writes a status does so. -/
theorem applyEvent_writes {event : StripeEvent} {status : SubscriptionStatus} {sub : Subscription}
    (hfault : d.fault = none) (hdated : event.Dated) (hwrites : event.writes = some (stripeId, status))
    (hfind : data.findSubscription stripeId = some sub) :
    ∃ data' f, applyEvent d data event = .ok data' ∧ SetsStatus status f ∧
      data'.subscriptions = (data.updateSubscription sub.id f).subscriptions := by
  have hupdate : ∀ (stripeObj : StripeSubscription) (status : SubscriptionStatus),
      stripeObj.periodStart ≠ none ∧ stripeObj.periodEnd ≠ none →
      data.findSubscription stripeObj.id = some sub → ∃ data' f,
        updateStatus d data stripeObj status = .ok data' ∧ SetsStatus status f ∧
        data'.subscriptions = (data.updateSubscription sub.id f).subscriptions := by
    intro stripeObj status ⟨hstart, hend⟩ hfind
    obtain ⟨periodStart, hstart⟩ := Option.ne_none_iff_exists'.mp hstart
    obtain ⟨periodEnd, hend⟩ := Option.ne_none_iff_exists'.mp hend
    rw [updateStatus, withSubscription_found hfault hfind, hstart, hend]
    refine ⟨_, fun sub => { sub with
      status := status
      currentPeriodStart := periodStart * 1000
      currentPeriodEnd := periodEnd * 1000 }, ?_, ?_, rfl⟩
    · simp only [orReject, rejectIf, hfault]
      rfl
    · exact ⟨fun _ => rfl, fun _ => rfl, fun _ => rfl, fun _ => rfl⟩
  cases event with
  | subscriptionUpdated stripeObj =>
    cases hwrites
    exact hupdate stripeObj _ hdated hfind
  | subscriptionDeleted stripeObj =>
    cases hwrites
    exact hupdate stripeObj _ hdated hfind
  | paymentSucceeded invoice => cases hwrites
  | paymentFailed invoice =>
    cases hwrites
    rw [applyEvent, paymentFailed, withSubscription_found hfault hfind]
    refine ⟨_, fun sub => { sub with status := .PAST_DUE }, ?_, ?_, rfl⟩
    · simp only [rejectIf, hfault]
      rfl
    · exact ⟨fun _ => rfl, fun _ => rfl, fun _ => rfl, fun _ => rfl⟩
  | other type => cases hwrites

/-! ### What a delivery does -/

theorem accept_isOk : (accept d).isOk = true ↔ d.signed = true ∧ d.fault ≠ some .record := by
  simp only [isOk_iff, accept, bind_ok_iff, rejectIf_eq_ok, Bool.not_eq_false]
  exact ⟨fun ⟨_, _, hsigned, hfault⟩ => ⟨hsigned, hfault⟩, fun ⟨hsigned, hfault⟩ => ⟨(), (), hsigned, hfault⟩⟩

theorem deliver_cases (h : deliver events s d = some s') : s'.data = s.data ∨
    d.signed = true ∧ d.fault ≠ some .record ∧ d.eventId ∉ s.recorded ∧
      applyEvent d s.data (events d.eventId) = .ok s'.data := by
  rw [deliver_eq_step] at h
  cases h
  rcases receive_cases (r := receiver events) s d with ⟨-, h⟩ | ⟨-, -, h⟩ | ⟨-, -, -, h⟩ |
    ⟨ha, hrec, data, happly, h⟩
  · rw [h]
    exact .inl rfl
  · rw [h]
    exact .inl rfl
  · rw [h]
    exact .inl rfl
  · rw [h]
    obtain ⟨hsigned, hrecord⟩ := accept_isOk.mp ha
    exact .inr ⟨hsigned, hrecord, hrec, toOption_eq_some.mp happly⟩

theorem deliver_handled (h : deliver events s d = some s')
    (hhandled : s'.history = (d, .handled) :: s.history) :
    applyEvent d s.data (events d.eventId) = .ok s'.data := by
  rw [deliver_eq_step] at h
  cases h
  rcases receive_cases (r := receiver events) s d with ⟨-, h⟩ | ⟨-, -, h⟩ | ⟨-, -, -, h⟩ |
    ⟨-, -, data, happly, h⟩
  · rw [h] at hhandled
    cases hhandled
  · rw [h] at hhandled
    cases hhandled
  · rw [h] at hhandled
    cases hhandled
  · rw [h]
    exact toOption_eq_some.mp happly

theorem deliver_applies (hsigned : d.signed = true) (hfault : d.fault ≠ some .record)
    (hrec : d.eventId ∉ s.recorded) (happly : applyEvent d s.data (events d.eventId) = .ok data)
    (h : deliver events s d = some s') : s'.data = data := by
  have haccept : accept d = .ok () := by
    simp only [accept, rejectIf, hsigned, hfault]
    rfl
  simp only [deliver, handle, haccept, if_neg hrec, happly] at h
  cases h
  rfl

theorem findSubscription_some {sub : Subscription} (h : data.findSubscription stripeId = some sub) :
    sub ∈ data.subscriptions ∧ sub.stripeSubscriptionId = some stripeId :=
  find_some h

theorem findSubscription_ne_none {sub : Subscription} (hmem : sub ∈ data.subscriptions)
    (hsub : sub.stripeSubscriptionId = some stripeId) : data.findSubscription stripeId ≠ none := by
  intro hnone
  have hno := List.find?_eq_none.mp hnone sub hmem
  exact hno (decide_eq_true hsub)

/-- A row after an update of its status is a row with the same keys before. -/
theorem unique_update {rows : List Subscription} {id : String} {status : SubscriptionStatus}
    {f : Subscription → Subscription} (hu : Unique rows) (hf : SetsStatus status f) :
    Unique (updateMany (fun sub => sub.id = id) f rows) := by
  have hkeys : ∀ sub, (if sub.id = id then f sub else sub).id = sub.id ∧
      (if sub.id = id then f sub else sub).userId = sub.userId ∧
      (if sub.id = id then f sub else sub).stripeSubscriptionId = sub.stripeSubscriptionId := by
    intro sub
    split_ifs
    · exact ⟨hf.id sub, hf.userId sub, hf.stripeSubscriptionId sub⟩
    · exact ⟨rfl, rfl, rfl⟩
  simp only [updateMany]
  refine ⟨?_, ?_, ?_⟩
  · rintro a ha b hb he
    obtain ⟨s, hs, rfl⟩ := List.mem_map.mp ha
    obtain ⟨t, ht, rfl⟩ := List.mem_map.mp hb
    rw [(hkeys s).1, (hkeys t).1] at he
    rw [hu.id s hs t ht he]
  · rintro a ha b hb he
    obtain ⟨s, hs, rfl⟩ := List.mem_map.mp ha
    obtain ⟨t, ht, rfl⟩ := List.mem_map.mp hb
    rw [(hkeys s).2.1, (hkeys t).2.1] at he
    rw [hu.userId s hs t ht he]
  · rintro a ha b hb he hne
    obtain ⟨s, hs, rfl⟩ := List.mem_map.mp ha
    obtain ⟨t, ht, rfl⟩ := List.mem_map.mp hb
    rw [(hkeys s).2.2, (hkeys t).2.2] at he
    rw [(hkeys s).2.2] at hne
    rw [hu.stripeSubscriptionId s hs t ht he hne]

theorem unique_deliver (hu : Unique s.data.subscriptions) (h : deliver events s d = some s') :
    Unique s'.data.subscriptions := by
  rcases deliver_cases h with heq | ⟨-, -, -, happly⟩
  · rw [heq]
    exact hu
  · rcases applyEvent_ok happly with heq | ⟨id, status, -, -, sub, f, -, hf, heq, -, -⟩
    · rw [heq]
      exact hu
    · rw [heq]
      exact unique_update hu hf

/-- A delivery leaves the row CANCELLED exactly when it does not write another status. -/
theorem cancelled_deliver (hu : Unique s.data.subscriptions) (hc : Cancelled stripeId s)
    (h : deliver events s d = some s') : Cancelled stripeId s' ↔ ¬ Reopens events stripeId s d := by
  constructor
  · rintro hc' ⟨hsigned, hfault, hfresh, hdated, hrow, status, hstatus, hwrites⟩
    obtain ⟨sub, hfind⟩ := Option.ne_none_iff_exists'.mp hrow
    obtain ⟨data, f, happly, hf, hrows⟩ := applyEvent_writes hfault hdated hwrites hfind
    obtain ⟨hmem, hsub⟩ := findSubscription_some hfind
    have hdata := deliver_applies hsigned (by rw [hfault]; decide) hfresh happly h
    have hmem' : f sub ∈ s'.data.subscriptions := by
      rw [hdata, hrows]
      exact mem_updateMany_of_pos hmem rfl
    have hcancelled := hc' _ hmem' ((hf.stripeSubscriptionId sub).trans hsub)
    exact hstatus ((hf.status sub).symm.trans hcancelled)
  · intro hno
    rcases deliver_cases h with heq | ⟨hsigned, hrecord, hfresh, happly⟩
    · rw [Cancelled, heq]
      exact hc
    · rcases applyEvent_ok happly with heq | ⟨id, status, hwrites, hdated, sub, f, hfind, hf, heq, hl, he⟩
      · rw [Cancelled, heq]
        exact hc
      · obtain ⟨hmem, hsub⟩ := findSubscription_some hfind
        rw [Cancelled, heq]
        intro r hr hid
        obtain ⟨t, ht, ⟨hkey, rfl⟩ | ⟨-, rfl⟩⟩ := mem_updateMany.mp hr
        · -- The row that is written is the subscription's, so the event writes to it.
          have hts : t = sub := hu.id t ht sub hmem hkey
          rw [hts, hf.stripeSubscriptionId, hsub] at hid
          cases hid
          rw [hts, hf.status]
          by_contra hne
          refine hno ⟨hsigned, ?_, hfresh, hdated, findSubscription_ne_none hmem hsub, status, hne, hwrites⟩
          match hfault : d.fault with
          | none => rfl
          | some .record => exact absurd hfault hrecord
          | some .lookup => exact absurd hfault hl
          | some .effect => exact absurd hfault he
        · exact hc r ht hid

/-- The `deleted` event leaves the row CANCELLED. -/
theorem cancelled_of_deleted {stripeObj : StripeSubscription} (hu : Unique s.data.subscriptions)
    (hevent : events d.eventId = .subscriptionDeleted stripeObj) (h : deliver events s d = some s')
    (hhandled : s'.history = (d, .handled) :: s.history) : Cancelled stripeObj.id s' := by
  have happly := deliver_handled h hhandled
  rw [hevent] at happly
  intro r hr hid
  rcases updateStatus_ok happly with ⟨hnone, heq⟩ | ⟨-, sub, f, hfind, hf, heq, -, -⟩
  · rw [heq] at hr
    exact absurd hnone (findSubscription_ne_none hr hid)
  · rw [heq] at hr
    obtain ⟨t, ht, ⟨-, rfl⟩ | ⟨hkey, rfl⟩⟩ := mem_updateMany.mp hr
    · exact hf.status t
    · obtain ⟨hmem, hsub⟩ := findSubscription_some hfind
      rw [hu.stripeSubscriptionId r ht sub hmem (hid.trans hsub.symm) (by rw [hid]; nofun)] at hkey
      exact absurd rfl hkey

/-- CORRECT: once the `deleted` event is processed, the row is CANCELLED in every later state if and only
    if no event that writes it another status is processed afterwards. -/
theorem cancelled_throughout_iff {stripeObj : StripeSubscription} {ds : List Delivery}
    (hu : Unique s.data.subscriptions) (hevent : events d.eventId = .subscriptionDeleted stripeObj)
    (h : deliver events s d = some s') (hhandled : s'.history = (d, .handled) :: s.history) :
    Throughout (deliver events) (Cancelled stripeObj.id) s' ds ↔
      Along (deliver events) (fun t e => ¬ Reopens events stripeObj.id t e) s' ds := by
  refine throughout_iff_along (K := fun t => Unique t.data.subscriptions) (fun t e => ⟨_, rfl⟩)
    (fun t e t' hut ht => unique_deliver hut ht) (fun t e t' hut hc ht => cancelled_deliver hut hc ht)
    (unique_deliver hu h) (cancelled_of_deleted hu hevent h hhandled)

end

/-! ### A subscription that comes back -/

/-- The events of `subscriber`, by their ids. -/
def reordered (eventId : String) : StripeEvent :=
  if eventId = "evt_deleted" then .subscriptionDeleted ⟨"sub_1", "canceled", some 0, some 1, []⟩
  else if eventId = "evt_updated" then .subscriptionUpdated ⟨"sub_1", "active", some 0, some 1, []⟩
  else .paymentFailed ⟨"in_1", "subscription_cycle", "sub_1"⟩

theorem unique_singleton (sub : Subscription) : Unique [sub] := by
  refine ⟨?_, ?_, ?_⟩
  all_goals
    intro a ha b hb _
    rw [List.mem_singleton.mp ha, List.mem_singleton.mp hb]
  intro _
  rfl

/-- After the `deleted` event nothing but a repetition of it is delivered. -/
theorem cancelled_throughout_iff_repeated : ∃ s', deliver reordered (start ⟨[subscriber], emptyTables⟩)
    ⟨"evt_deleted", true, 0, none⟩ = some s' ∧
    (Throughout (deliver reordered) (Cancelled "sub_1") s' [⟨"evt_deleted", true, 0, none⟩] ↔
      Along (deliver reordered) (fun t e => ¬ Reopens reordered "sub_1" t e) s'
        [⟨"evt_deleted", true, 0, none⟩]) := by
  obtain ⟨s', h, hhandled⟩ : ∃ s', deliver reordered (start ⟨[subscriber], emptyTables⟩)
      ⟨"evt_deleted", true, 0, none⟩ = some s' ∧
      s'.history = [(⟨"evt_deleted", true, 0, none⟩, .handled)] := ⟨_, rfl, rfl⟩
  have hevent : reordered "evt_deleted" =
      .subscriptionDeleted ⟨"sub_1", "canceled", some 0, some 1, []⟩ := rfl
  exact ⟨s', h, cancelled_throughout_iff (unique_singleton subscriber) hevent h hhandled⟩

/-- The `deleted` event, and then an update and a failed payment from before it: the row is ACTIVE, and
    then PAST_DUE. -/
theorem cancelled_row_reopens : ∃ s t u, deliver reordered (start ⟨[subscriber], emptyTables⟩)
      ⟨"evt_deleted", true, 0, none⟩ = some s ∧
    deliver reordered s ⟨"evt_updated", true, 0, none⟩ = some t ∧
    deliver reordered t ⟨"evt_failed", true, 0, none⟩ = some u ∧
    s.data.subscriptions.map Subscription.status = [.CANCELLED] ∧
    t.data.subscriptions.map Subscription.status = [.ACTIVE] ∧
    u.data.subscriptions.map Subscription.status = [.PAST_DUE] ∧
    ¬ Throughout (deliver reordered) (Cancelled "sub_1") s [⟨"evt_updated", true, 0, none⟩] := by
  refine ⟨_, _, _, rfl, rfl, rfl, rfl, rfl, rfl, ?_⟩
  intro h
  have hcancelled := h [⟨"evt_updated", true, 0, none⟩] [] _ rfl rfl
  have hstatus := hcancelled _ (List.mem_cons_self ..) rfl
  revert hstatus
  decide

end Redeemo.Webhook
