import Redeemo.Lib.Fallible
import Redeemo.Lib.Inbox
import Redeemo.Lib.Rows
import Redeemo.Subscription.Renewal
import Redeemo.Subscription.Tables

/-! The Stripe webhook.

    The handler records an event's id first, in a statement of its own, and then applies the event; a
    statement that fails in between makes the request fail, and Stripe's next delivery of the event finds
    the record and is acknowledged. The handler is the receiver of `Inbox` (`deliver_eq_step`). -/

namespace Redeemo.Webhook
open Billing Fallible Inbox Rows Runs

/-! ### Events -/

structure SubscriptionItem where
  current_period_start : Option ℤ
  current_period_end : Option ℤ

/-- A Stripe subscription, its periods in seconds. -/
structure StripeSubscription where
  id : String
  status : String
  current_period_start : Option ℤ
  current_period_end : Option ℤ
  items : List SubscriptionItem

structure Invoice where
  id : String
  billing_reason : String
  subscription : String

inductive StripeEvent
  | subscriptionUpdated (stripeObj : StripeSubscription)
  | subscriptionDeleted (stripeObj : StripeSubscription)
  | paymentSucceeded (invoice : Invoice)
  | paymentFailed (invoice : Invoice)
  | other (type : String)

/-- A statement of the handler that fails, and writes nothing. -/
inductive Fault
  /-- The insert of the event's id. -/
  | record
  /-- `subscription.findUnique`. -/
  | lookup
  /-- The update that is the event's effect. -/
  | effect
  deriving DecidableEq, Repr

structure Delivery where
  eventId : String
  signed : Bool
  now : ℤ
  fault : Option Fault

inductive Failure
  | app (e : AppError)
  | database
  deriving DecidableEq, Repr

structure Data where
  subscriptions : List Subscription
  tables : Redemption.Tables

/-! ### The handler -/

def mapStripeStatus (stripeStatus : String) : SubscriptionStatus :=
  if stripeStatus = "active" then .ACTIVE
  else if stripeStatus = "trialing" then .TRIALLING
  else if stripeStatus = "past_due" then .PAST_DUE
  else if stripeStatus = "unpaid" then .PAST_DUE
  else if stripeStatus = "canceled" then .CANCELLED
  else if stripeStatus = "incomplete" then .PAST_DUE
  else if stripeStatus = "incomplete_expired" then .EXPIRED
  else .EXPIRED

namespace StripeSubscription

/-- The first item's period, or the subscription's own. -/
def periodStart (stripeObj : StripeSubscription) : Option ℤ :=
  (stripeObj.items.head?.bind SubscriptionItem.current_period_start).or stripeObj.current_period_start

def periodEnd (stripeObj : StripeSubscription) : Option ℤ :=
  (stripeObj.items.head?.bind SubscriptionItem.current_period_end).or stripeObj.current_period_end

end StripeSubscription

namespace Data

/-- `subscription.findUnique`, by the Stripe id. -/
def findSubscription (data : Data) (stripeSubscriptionId : String) : Option Subscription :=
  data.subscriptions.find? fun sub => sub.stripeSubscriptionId = some stripeSubscriptionId

def updateSubscription (data : Data) (id : String) (f : Subscription → Subscription) : Data :=
  { data with subscriptions := updateMany (fun sub => sub.id = id) f data.subscriptions }

end Data

/-- The lookup that every effect starts with; an unknown subscription has no effect. -/
def withSubscription (d : Delivery) (data : Data) (stripeSubscriptionId : String)
    (effect : Subscription → Except Failure Data) : Except Failure Data := do
  rejectIf (d.fault = some .lookup) .database
  match data.findSubscription stripeSubscriptionId with
  | none => return data
  | some sub => effect sub

/-- A date that Stripe leaves out is invalid, and the update fails. -/
def updateStatus (d : Delivery) (data : Data) (stripeObj : StripeSubscription)
    (status : SubscriptionStatus) : Except Failure Data :=
  withSubscription d data stripeObj.id fun sub => do
    let periodStart ← orReject stripeObj.periodStart .database
    let periodEnd ← orReject stripeObj.periodEnd .database
    rejectIf (d.fault = some .effect) .database
    return data.updateSubscription sub.id fun sub =>
      { sub with
        status := status
        currentPeriodStart := periodStart * 1000
        currentPeriodEnd := periodEnd * 1000 }

def paymentSucceeded (d : Delivery) (data : Data) (invoice : Invoice) : Except Failure Data :=
  if invoice.billing_reason ≠ "subscription_cycle" then .ok data
  else withSubscription d data invoice.subscription fun sub => do
    rejectIf (d.fault = some .effect) .database
    return { data with tables := Renewal.resetVoucherCycleForUser sub.userId d.now data.tables }

def paymentFailed (d : Delivery) (data : Data) (invoice : Invoice) : Except Failure Data :=
  withSubscription d data invoice.subscription fun sub => do
    rejectIf (d.fault = some .effect) .database
    return data.updateSubscription sub.id fun sub => { sub with status := .PAST_DUE }

def applyEvent (d : Delivery) (data : Data) : StripeEvent → Except Failure Data
  | .subscriptionUpdated stripeObj => updateStatus d data stripeObj (mapStripeStatus stripeObj.status)
  | .subscriptionDeleted stripeObj => updateStatus d data stripeObj .CANCELLED
  | .paymentSucceeded invoice => paymentSucceeded d data invoice
  | .paymentFailed invoice => paymentFailed d data invoice
  | .other _ => .ok data

/-- The signature, and the insert of the event's id, if it does not find the id there. -/
def accept (d : Delivery) : Except Failure Unit := do
  rejectIf (d.signed = false) (.app .WEBHOOK_SIGNATURE_INVALID)
  rejectIf (d.fault = some .record) .database

structure Store where
  data : Data
  stripeEvents : List String

/-- `{ received: true }`, or the error, and what the tables hold then. The event of an id is the same in
    every delivery. -/
def handle (events : String → StripeEvent) (store : Store) (d : Delivery) :
    Store × Except Failure Unit :=
  match accept d with
  | .error e => (store, .error e)
  | .ok () =>
    if d.eventId ∈ store.stripeEvents then (store, .ok ())
    else match applyEvent d store.data (events d.eventId) with
      | .error e => (⟨store.data, d.eventId :: store.stripeEvents⟩, .error e)
      | .ok data => (⟨data, d.eventId :: store.stripeEvents⟩, .ok ())

/-! ### The handler is a receiver -/

def receiver (events : String → StripeEvent) : Receiver String Delivery Data where
  idOf := Delivery.eventId
  admits d := (accept d).isOk
  apply d data := (applyEvent d data (events d.eventId)).toOption

/-- Whether a delivery put its event on record, and how it was answered. -/
def outcomeOf (before after : Store) : Except Failure Unit → Outcome
  | .ok () => if after.stripeEvents = before.stripeEvents then .duplicate else .handled
  | .error _ => if after.stripeEvents = before.stripeEvents then .refused else .abandoned

/-- One request. -/
def deliver (events : String → StripeEvent) (s : State String Delivery Data) (d : Delivery) :
    Option (State String Delivery Data) :=
  let before : Store := ⟨s.data, s.recorded⟩
  let (after, reply) := handle events before d
  some ⟨after.data, after.stripeEvents, (d, outcomeOf before after reply) :: s.history⟩

variable (events : String → StripeEvent)

/-- A request to the handler is a delivery to the receiver. -/
theorem deliver_eq_step : deliver events = Inbox.step (receiver events) := by
  funext s d
  cases ha : accept d with
  | error e =>
    have hhandle : handle events ⟨s.data, s.recorded⟩ d = (⟨s.data, s.recorded⟩, .error e) := by
      simp only [handle, ha]
    have hadmits : (receiver events).admits d = false := congrArg Except.isOk ha
    simp only [deliver, hhandle, Inbox.step, receive, if_pos hadmits, outcomeOf, if_true]
  | ok u =>
    have hisOk : (receiver events).admits d = true := congrArg Except.isOk ha
    have hadmits : ¬ (receiver events).admits d = false := ne_of_eq_of_ne hisOk (by decide)
    simp only [deliver, handle, ha, Inbox.step, receive, if_neg hadmits]
    by_cases hrec : d.eventId ∈ s.recorded
    · have hid : (receiver events).idOf d ∈ s.recorded := hrec
      simp only [if_pos hrec, if_pos hid, outcomeOf, if_true]
    · have hid : ¬ (receiver events).idOf d ∈ s.recorded := hrec
      simp only [if_neg hrec, if_neg hid]
      cases happly : applyEvent d s.data (events d.eventId) with
      | error e =>
        have hnone : (receiver events).apply d s.data = none := congrArg Except.toOption happly
        simp only [hnone, outcomeOf, List.cons_ne_self, if_false]
        rfl
      | ok data =>
        have hsome : (receiver events).apply d s.data = some data := congrArg Except.toOption happly
        simp only [hsome, outcomeOf, List.cons_ne_self, if_false]
        rfl

/-- CORRECT: throughout a run of deliveries, the data are what the handled events made of them and every
    acknowledged event has been handled exactly once, if and only if no event is delivered again that an
    earlier delivery recorded and then failed to apply. -/
theorem webhook_exactlyOnce_iff {data : Data} {ds : List Delivery} :
    Throughout (deliver events) (ExactlyOnce (receiver events) data) (start data) ds ↔
      Along (deliver events) (fun s d => ¬ Lost (receiver events) s d) (start data) ds := by
  rw [deliver_eq_step]
  exact exactlyOnce_iff

/-! ### A lost effect -/

def emptyTables : Redemption.Tables := ⟨[], fun _ => none⟩

def subscriber : Subscription :=
  { id := "sub"
    userId := "user"
    planId := "plan"
    stripeSubscriptionId := some "sub_1"
    stripeCustomerId := some "cus_1"
    status := .ACTIVE
    currentPeriodStart := 0
    currentPeriodEnd := 0
    cycleAnchorDate := 0
    promoCodeId := none }

/-- A failed payment whose update fails, delivered once more: it is acknowledged, and the subscription
    is ACTIVE still. -/
theorem webhook_effect_lost : ∃ s, run (deliver fun _ => .paymentFailed ⟨"in_1", "subscription_cycle", "sub_1"⟩)
    (start ⟨[subscriber], emptyTables⟩)
    [⟨"evt_1", true, 0, some .effect⟩, ⟨"evt_1", true, 0, none⟩] = some s ∧
    (∃ e ∈ s.history, e.1.fault = none ∧ e.2.Acknowledged) ∧
    s.data.subscriptions = [subscriber] ∧
    ¬ ExactlyOnce (receiver fun _ => .paymentFailed ⟨"in_1", "subscription_cycle", "sub_1"⟩)
      ⟨[subscriber], emptyTables⟩ s := by
  refine ⟨_, rfl, ⟨_, List.mem_cons_self .., rfl, .inl rfl⟩, rfl, fun h => ?_⟩
  have hone := h.once _ (List.mem_cons_self ..) (.inl rfl)
  revert hone
  decide

end Redeemo.Webhook
