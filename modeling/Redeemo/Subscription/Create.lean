import Redeemo.Lib.Rows
import Redeemo.Lib.Runs
import Redeemo.Shared.Errors
import Redeemo.Subscription.Cycle
import Redeemo.Subscription.Tables

/-! `createSubscription`, statement by statement, in any number of calls at a time.

    A call creates its subscription at Stripe first and inserts the local row afterwards, and a user has
    one row at most, whatever its status. A call that ends after its creation leaves the Stripe
    subscription without a row exactly when it finds no item in Stripe's answer, or gets no answer, or
    its insert fails: by itself, or because the user has a row. -/

namespace Redeemo.CreateSubscription
open Billing CycleWindows Rows Runs

structure SubscriptionPlan where
  id : String
  stripePriceId : String
  isActive : Bool
  deriving DecidableEq, Repr

structure PromoCode where
  id : String
  code : String
  maxUses : Option ℕ
  usesCount : ℕ
  expiresAt : Option ℤ
  isActive : Bool
  stripeCouponId : Option String
  deriving DecidableEq, Repr

structure SubscriptionItem where
  current_period_start : ℤ
  current_period_end : ℤ
  deriving DecidableEq, Repr

/-- What `stripe.subscriptions.create` answers. -/
structure StripeSubscription where
  id : String
  status : String
  items : List SubscriptionItem
  deriving DecidableEq, Repr

/-- A subscription at Stripe, and the call that created it. -/
structure Created (ι : Type*) where
  id : String
  customer : String
  price : String
  default_payment_method : String
  coupon : Option String
  createdBy : ι

/-- The arguments of a call. -/
structure Call where
  userId : String
  planId : String
  paymentMethodId : String
  promoCode : Option String

/-- The database, Redis and Stripe. -/
structure Store (ι : Type*) where
  subscriptions : List Subscription
  plans : List SubscriptionPlan
  promoCodes : List PromoCode
  setupKey : String → Option String
  created : List (Created ι)

inductive Failure
  | app (e : AppError)
  | redis
  | database
  deriving DecidableEq, Repr

/-- What a call is about to order. -/
structure Order where
  stripeCustomerId : String
  plan : SubscriptionPlan
  promoCodeId : Option String
  stripeCouponId : Option String
  deriving DecidableEq, Repr

/-- How far a call has come: the statement that it has behind it, and what it knows. -/
inductive Progress
  | start
  | resolved (stripeCustomerId : String)
  | guarded (stripeCustomerId : String)
  | planned (stripeCustomerId : String) (plan : SubscriptionPlan) (promoCode : String)
  | validated (order : Order)
  | attached (order : Order)
  | created (order : Order) (stripeSub : StripeSubscription) (firstItem : SubscriptionItem)
  | persisted (order : Order) (sub : Subscription)
  | cleaned (promoCodeId : String) (sub : Subscription)
  | returned (sub : Subscription)
  | thrown (e : Failure)
  deriving DecidableEq, Repr

inductive Act
  /-- `createSetupIntent` sets the user's key, or the key runs out. -/
  | setup (stripeCustomerId : Option String)
  /-- The call's next statement fails, and writes nothing. -/
  | fail
  /-- The call's next statement, at a time. -/
  | proceed (now : ℤ)
  /-- Stripe creates the subscription, and its answer arrives or is lost. -/
  | create (stripeSub : StripeSubscription) (answered : Bool)
  /-- The insert, under a new id. -/
  | insert (id : String)

def ACTIVE_STATUSES : List SubscriptionStatus := [.ACTIVE, .TRIALLING, .PAST_DUE]

def stripeStatusToLocal (status : String) : SubscriptionStatus :=
  if status = "trialing" then .TRIALLING
  else if status = "active" then .ACTIVE
  else if status = "canceled" then .CANCELLED
  else if status = "past_due" then .PAST_DUE
  else if status = "unpaid" then .PAST_DUE
  else if status = "incomplete" then .PAST_DUE
  else .EXPIRED

variable {ι : Type*}

namespace Store

/-- `subscription.findUnique`, by the user. -/
def findSubscription (store : Store ι) (userId : String) : Option Subscription :=
  store.subscriptions.find? fun sub => sub.userId = userId

def findPlan (store : Store ι) (id : String) : Option SubscriptionPlan :=
  store.plans.find? fun plan => plan.id = id

def findPromoCode (store : Store ι) (code : String) : Option PromoCode :=
  store.promoCodes.find? fun promo => promo.code = code

end Store

/-! ### The statements -/

def resolveCustomer (store : Store ι) (call : Call) : Progress :=
  match store.setupKey call.userId with
  | none => .thrown (.app .PAYMENT_METHOD_REQUIRED)
  | some stripeCustomerId =>
    if stripeCustomerId = "" then .thrown (.app .PAYMENT_METHOD_REQUIRED)
    else .resolved stripeCustomerId

/-- The guard on the user's row. -/
def guardExisting (store : Store ι) (call : Call) (stripeCustomerId : String) : Progress :=
  match store.findSubscription call.userId with
  | none => .guarded stripeCustomerId
  | some existing =>
    if existing.status ∈ ACTIVE_STATUSES then .thrown (.app .SUBSCRIPTION_ALREADY_ACTIVE)
    else .guarded stripeCustomerId

def validatePlan (store : Store ι) (call : Call) (stripeCustomerId : String) : Progress :=
  match store.findPlan call.planId with
  | none => .thrown (.app .PLAN_NOT_FOUND)
  | some plan =>
    if plan.isActive = false then .thrown (.app .PLAN_NOT_FOUND)
    else match call.promoCode with
      | none => .validated ⟨stripeCustomerId, plan, none, none⟩
      | some promoCode =>
        if promoCode = "" then .validated ⟨stripeCustomerId, plan, none, none⟩
        else .planned stripeCustomerId plan promoCode

def PromoCode.expired (promo : PromoCode) (now : ℤ) : Prop := ∃ t ∈ promo.expiresAt, t < now

def PromoCode.exhausted (promo : PromoCode) : Prop := ∃ n ∈ promo.maxUses, n ≤ promo.usesCount

instance (promo : PromoCode) (now : ℤ) : Decidable (promo.expired now) :=
  inferInstanceAs (Decidable (∃ t ∈ promo.expiresAt, t < now))

instance (promo : PromoCode) : Decidable promo.exhausted :=
  inferInstanceAs (Decidable (∃ n ∈ promo.maxUses, n ≤ promo.usesCount))

def validatePromoCode (store : Store ι) (now : ℤ) (stripeCustomerId : String) (plan : SubscriptionPlan)
    (promoCode : String) : Progress :=
  match store.findPromoCode promoCode with
  | none => .thrown (.app .PROMO_CODE_INVALID)
  | some promo =>
    if promo.isActive = false ∨ promo.expired now then .thrown (.app .PROMO_CODE_INVALID)
    else if promo.exhausted then .thrown (.app .PROMO_CODE_EXHAUSTED)
    else .validated ⟨stripeCustomerId, plan, some promo.id, promo.stripeCouponId⟩

/-- `promoCode.update`, which fails where the row is gone. -/
def incrementUses (store : Store ι) (promoCodeId : String) (sub : Subscription) : Store ι × Progress :=
  if ∃ promo ∈ store.promoCodes, promo.id = promoCodeId then
    ({ store with
      promoCodes := updateMany (fun promo => promo.id = promoCodeId)
        (fun promo => { promo with usesCount := promo.usesCount + 1 }) store.promoCodes }, .returned sub)
  else (store, .thrown .database)

/-- A statement that reaches neither Stripe's subscriptions nor the local rows. -/
def proceed (call : Call) (now : ℤ) (store : Store ι) : Progress → Option (Store ι × Progress)
  | .start => some (store, resolveCustomer store call)
  | .resolved stripeCustomerId => some (store, guardExisting store call stripeCustomerId)
  | .guarded stripeCustomerId => some (store, validatePlan store call stripeCustomerId)
  | .planned stripeCustomerId plan promoCode =>
    some (store, validatePromoCode store now stripeCustomerId plan promoCode)
  | .validated order => some (store, .attached order)
  | .persisted order sub => some ({ store with setupKey := Function.update store.setupKey call.userId none },
      match order.promoCodeId with
      | none => .returned sub
      | some promoCodeId => .cleaned promoCodeId sub)
  | .cleaned promoCodeId sub => some (incrementUses store promoCodeId sub)
  | _ => none

/-- `stripe.subscriptions.create`; an id of Stripe's is new. -/
def create (i : ι) (call : Call) (stripeSub : StripeSubscription) (answered : Bool) (store : Store ι) :
    Progress → Option (Store ι × Progress)
  | .attached order =>
    if (∃ x ∈ store.created, x.id = stripeSub.id) ∨
        ∃ sub ∈ store.subscriptions, sub.stripeSubscriptionId = some stripeSub.id then none
    else some ({ store with
        created := ⟨stripeSub.id, order.stripeCustomerId, order.plan.stripePriceId, call.paymentMethodId,
          order.stripeCouponId, i⟩ :: store.created },
      if answered = false then .thrown (.app .STRIPE_ERROR)
      else match stripeSub.items with
        | [] => .thrown (.app .STRIPE_ERROR)
        | firstItem :: _ => .created order stripeSub firstItem)
  | _ => none

/-- The row that a call inserts. -/
def newSubscription (call : Call) (id : String) (order : Order) (stripeSub : StripeSubscription)
    (firstItem : SubscriptionItem) : Subscription where
  id := id
  userId := call.userId
  planId := order.plan.id
  stripeSubscriptionId := some stripeSub.id
  stripeCustomerId := some order.stripeCustomerId
  status := stripeStatusToLocal stripeSub.status
  currentPeriodStart := firstItem.current_period_start * 1000
  currentPeriodEnd := firstItem.current_period_end * 1000
  cycleAnchorDate := toMidnightUTC (firstItem.current_period_start * 1000)
  promoCodeId := order.promoCodeId

/-- `subscription.create`, under the unique constraints of the table; a generated id is new. -/
def insert (call : Call) (id : String) (store : Store ι) : Progress → Option (Store ι × Progress)
  | .created order stripeSub firstItem =>
    if ∃ sub ∈ store.subscriptions, sub.id = id then none
    else if ∃ sub ∈ store.subscriptions, sub.userId = call.userId ∨
        sub.stripeSubscriptionId = some stripeSub.id then some (store, .thrown .database)
    else
      let sub := newSubscription call id order stripeSub firstItem
      some ({ store with subscriptions := store.subscriptions ++ [sub] }, .persisted order sub)
  | _ => none

/-- The error of a statement that fails. -/
def fail : Progress → Option Progress
  | .start => some (.thrown .redis)
  | .validated _ => some (.thrown (.app .STRIPE_ERROR))
  | .attached _ => some (.thrown (.app .STRIPE_ERROR))
  | .persisted _ _ => some (.thrown .redis)
  | .returned _ => none
  | .thrown _ => none
  | _ => some (.thrown .database)

def next (calls : ι → Call) (i : ι) (store : Store ι) (progress : Progress) :
    Act → Option (Store ι × Progress)
  | .setup stripeCustomerId => some ({ store with
      setupKey := Function.update store.setupKey (calls i).userId stripeCustomerId }, progress)
  | .fail => (fail progress).map fun progress => (store, progress)
  | .proceed now => proceed (calls i) now store progress
  | .create stripeSub answered => create i (calls i) stripeSub answered store progress
  | .insert id => insert (calls i) id store progress

/-! ### Orphans -/

/-- Every subscription that the call has created at Stripe has a row of the call's user. -/
def Recorded (calls : ι → Call) (i : ι) (store : Store ι) : Prop :=
  ∀ x ∈ store.created, x.createdBy = i → ∃ sub ∈ store.subscriptions,
    sub.userId = (calls i).userId ∧ sub.stripeSubscriptionId = some x.id

inductive Progress.Ended : Progress → Prop
  | returned (sub : Subscription) : Ended (.returned sub)
  | thrown (e : Failure) : Ended (.thrown e)

/-- A call that has returned or thrown leaves no Stripe subscription without a row. -/
def NoOrphan (calls : ι → Call) (s : Pool ι (Store ι) Progress) : Prop :=
  ∀ i, (s.proc i).Ended → Recorded calls i s.store

/-- An id that Stripe has not given out. -/
def NewAtStripe (store : Store ι) (id : String) : Prop :=
  (∀ x ∈ store.created, x.id ≠ id) ∧ ∀ sub ∈ store.subscriptions, sub.stripeSubscriptionId ≠ some id

/-- The answer to a creation is lost, or holds no item; or the insert after it fails, by itself or
    because the user has a row. -/
def Loses (calls : ι → Call) (i : ι) (store : Store ι) (progress : Progress) : Act → Prop
  | .create stripeSub answered => (∃ order, progress = .attached order) ∧ NewAtStripe store stripeSub.id ∧
      (answered = false ∨ stripeSub.items = [])
  | .insert id => (∃ order stripeSub firstItem, progress = .created order stripeSub firstItem) ∧
      (∀ sub ∈ store.subscriptions, sub.id ≠ id) ∧
      ∃ sub ∈ store.subscriptions, sub.userId = (calls i).userId
  | .fail => ∃ order stripeSub firstItem, progress = .created order stripeSub firstItem
  | _ => False

/-- Before the creation, between it and the insert, after the insert, or thrown. -/
inductive Stage
  | before
  | pending (stripeSubscriptionId : String)
  | after
  | thrown

def Progress.stage : Progress → Stage
  | .created _ stripeSub _ => .pending stripeSub.id
  | .persisted _ _ => .after
  | .cleaned _ _ => .after
  | .returned _ => .after
  | .thrown _ => .thrown
  | _ => .before

/-- What the tables hold of a call in each stage. -/
def Consistent (calls : ι → Call) (i : ι) (store : Store ι) : Stage → Prop
  | .before => ∀ x ∈ store.created, x.createdBy ≠ i
  | .pending id => (∃ x ∈ store.created, x.createdBy = i ∧ x.id = id) ∧
      (∀ x ∈ store.created, x.createdBy = i → x.id = id) ∧
      ∀ sub ∈ store.subscriptions, sub.stripeSubscriptionId ≠ some id
  | .after => Recorded calls i store
  | .thrown => True

/-- Stripe's ids are distinct. -/
def DistinctIds (store : Store ι) : Prop :=
  ∀ x ∈ store.created, ∀ y ∈ store.created, x.id = y.id → x.createdBy = y.createdBy

section
variable {calls : ι → Call} {i j : ι} {store store' : Store ι} {progress progress' : Progress} {act : Act}

/-! ### What a statement does -/

/-- Not past the creation. -/
def Progress.Early (progress : Progress) : Prop := progress.stage = .before ∨ progress.stage = .thrown

theorem early_resolveCustomer (call : Call) : (resolveCustomer store call).Early := by
  rw [resolveCustomer]
  split
  · exact .inr rfl
  · split_ifs
    · exact .inr rfl
    · exact .inl rfl

theorem early_guardExisting (call : Call) (stripeCustomerId : String) :
    (guardExisting store call stripeCustomerId).Early := by
  rw [guardExisting]
  split
  · exact .inl rfl
  · split_ifs
    · exact .inr rfl
    · exact .inl rfl

theorem early_validatePlan (call : Call) (stripeCustomerId : String) :
    (validatePlan store call stripeCustomerId).Early := by
  rw [validatePlan]
  split
  · exact .inr rfl
  · split_ifs
    · exact .inr rfl
    · split
      · exact .inl rfl
      · split_ifs
        · exact .inl rfl
        · exact .inl rfl

theorem early_validatePromoCode (now : ℤ) (stripeCustomerId : String) (plan : SubscriptionPlan)
    (promoCode : String) : (validatePromoCode store now stripeCustomerId plan promoCode).Early := by
  rw [validatePromoCode]
  split
  · exact .inr rfl
  · split_ifs
    · exact .inr rfl
    · exact .inr rfl
    · exact .inl rfl

/-- A statement that reaches neither of the two tables. -/
def Quiet (store store' : Store ι) (progress progress' : Progress) : Prop :=
  store'.created = store.created ∧ store'.subscriptions = store.subscriptions ∧
    (progress'.stage = progress.stage ∨ progress'.stage = .thrown ∧ ∀ id, progress.stage ≠ .pending id)

theorem quiet_of_early (hp : progress.stage = .before) (h : progress'.Early) :
    Quiet store store progress progress' := by
  refine ⟨rfl, rfl, ?_⟩
  rw [hp]
  rcases h with h | h
  · exact .inl h
  · exact .inr ⟨h, nofun⟩

theorem quiet_incrementUses (promoCodeId : String) (sub : Subscription) :
    Quiet store (incrementUses store promoCodeId sub).1 (.cleaned promoCodeId sub)
      (incrementUses store promoCodeId sub).2 := by
  rw [incrementUses]
  split_ifs
  · exact ⟨rfl, rfl, .inl rfl⟩
  · exact ⟨rfl, rfl, .inr ⟨rfl, nofun⟩⟩

theorem quiet_proceed {call : Call} {now : ℤ}
    (h : proceed call now store progress = some (store', progress')) :
    Quiet store store' progress progress' := by
  cases progress with
  | start =>
    cases h
    exact quiet_of_early rfl (early_resolveCustomer call)
  | resolved stripeCustomerId =>
    cases h
    exact quiet_of_early rfl (early_guardExisting call stripeCustomerId)
  | guarded stripeCustomerId =>
    cases h
    exact quiet_of_early rfl (early_validatePlan call stripeCustomerId)
  | planned stripeCustomerId plan promoCode =>
    cases h
    exact quiet_of_early rfl (early_validatePromoCode now stripeCustomerId plan promoCode)
  | validated order =>
    cases h
    exact ⟨rfl, rfl, .inl rfl⟩
  | persisted order sub =>
    cases h
    refine ⟨rfl, rfl, .inl ?_⟩
    split
    · rfl
    · rfl
  | cleaned promoCodeId sub =>
    have heq := Option.some.inj h
    have hquiet : Quiet store (incrementUses store promoCodeId sub).1 (.cleaned promoCodeId sub)
        (incrementUses store promoCodeId sub).2 := quiet_incrementUses promoCodeId sub
    rw [heq] at hquiet
    exact hquiet
  | attached order => cases h
  | created order stripeSub firstItem => cases h
  | returned sub => cases h
  | thrown e => cases h

/-- A call that is told of a failure. -/
theorem fail_cases (h : fail progress = some progress') : progress'.stage = .thrown ∧
    ((∃ order stripeSub firstItem, progress = .created order stripeSub firstItem) ∨
      ∀ id, progress.stage ≠ .pending id) := by
  cases progress with
  | created order stripeSub firstItem =>
    cases h
    exact ⟨rfl, .inl ⟨order, stripeSub, firstItem, rfl⟩⟩
  | returned sub => cases h
  | thrown e => cases h
  | start | resolved | guarded | planned | validated | attached | persisted | cleaned =>
    cases h
    exact ⟨rfl, .inr nofun⟩

theorem newAtStripe_of_not {id : String} (h : ¬ ((∃ x ∈ store.created, x.id = id) ∨
    ∃ sub ∈ store.subscriptions, sub.stripeSubscriptionId = some id)) : NewAtStripe store id := by
  rw [not_or] at h
  refine ⟨fun x hx he => h.1 ⟨x, hx, he⟩, fun sub hsub he => h.2 ⟨sub, hsub, he⟩⟩

theorem create_cases {stripeSub : StripeSubscription} {answered : Bool}
    (h : create i (calls i) stripeSub answered store progress = some (store', progress')) :
    ∃ x, x.createdBy = i ∧ x.id = stripeSub.id ∧ NewAtStripe store x.id ∧ (∃ order, progress = .attached order) ∧
      store'.created = x :: store.created ∧ store'.subscriptions = store.subscriptions ∧
      (¬ (answered = false ∨ stripeSub.items = []) ∧ progress'.stage = .pending x.id ∨
        (answered = false ∨ stripeSub.items = []) ∧ progress'.stage = .thrown) := by
  cases progress with
  | attached order =>
    simp only [create] at h
    split_ifs at h with hnew hanswered
    · cases h
      exact ⟨_, rfl, rfl, newAtStripe_of_not hnew, ⟨order, rfl⟩, rfl, rfl, .inr ⟨.inl hanswered, rfl⟩⟩
    · cases h
      refine ⟨_, rfl, rfl, newAtStripe_of_not hnew, ⟨order, rfl⟩, rfl, rfl, ?_⟩
      cases hitems : stripeSub.items with
      | nil => exact .inr ⟨.inr rfl, rfl⟩
      | cons firstItem items => exact .inl ⟨not_or.mpr ⟨hanswered, nofun⟩, rfl⟩
  | start | resolved | guarded | planned | validated | created | persisted | cleaned | returned | thrown =>
    cases h

/-- The insert finds a row of the user, or none and adds one. -/
theorem insert_cases {id : String} (h : insert (calls i) id store progress = some (store', progress')) :
    ∃ order stripeSub firstItem, progress = .created order stripeSub firstItem ∧
      (∀ sub ∈ store.subscriptions, sub.id ≠ id) ∧
      (((∃ sub ∈ store.subscriptions, sub.userId = (calls i).userId ∨
          sub.stripeSubscriptionId = some stripeSub.id) ∧ store' = store ∧ progress'.stage = .thrown) ∨
        (∀ sub ∈ store.subscriptions, sub.userId ≠ (calls i).userId) ∧
          store'.created = store.created ∧ store'.subscriptions = store.subscriptions ++
            [newSubscription (calls i) id order stripeSub firstItem] ∧ progress'.stage = .after) := by
  cases progress with
  | created order stripeSub firstItem =>
    simp only [insert] at h
    split_ifs at h with hid hclash
    · cases h
      exact ⟨_, _, _, rfl, fun sub hsub he => hid ⟨sub, hsub, he⟩, .inl ⟨hclash, rfl, rfl⟩⟩
    · cases h
      refine ⟨_, _, _, rfl, fun sub hsub he => hid ⟨sub, hsub, he⟩, .inr ⟨?_, rfl, rfl, rfl⟩⟩
      intro sub hsub he
      exact hclash ⟨sub, hsub, .inl he⟩
  | start | resolved | guarded | planned | validated | attached | persisted | cleaned | returned | thrown =>
    cases h

/-- A statement leaves the two tables alone, loses the creation behind it, creates, or inserts. -/
theorem next_cases (hk : Consistent calls i store progress.stage)
    (h : next calls i store progress act = some (store', progress')) :
    (¬ Loses calls i store progress act ∧ Quiet store store' progress progress') ∨
    (Loses calls i store progress act ∧ store'.created = store.created ∧
      store'.subscriptions = store.subscriptions ∧ (∃ id, progress.stage = .pending id) ∧
      progress'.stage = .thrown) ∨
    (∃ x, x.createdBy = i ∧ NewAtStripe store x.id ∧ progress.stage = .before ∧
      store'.created = x :: store.created ∧ store'.subscriptions = store.subscriptions ∧
      (¬ Loses calls i store progress act ∧ progress'.stage = .pending x.id ∨
        Loses calls i store progress act ∧ progress'.stage = .thrown)) ∨
    ∃ id sub, ¬ Loses calls i store progress act ∧ progress.stage = .pending id ∧
      sub.userId = (calls i).userId ∧ sub.stripeSubscriptionId = some id ∧
      store'.created = store.created ∧ store'.subscriptions = store.subscriptions ++ [sub] ∧
      progress'.stage = .after := by
  cases act with
  | setup stripeCustomerId =>
    cases h
    exact .inl ⟨id, rfl, rfl, .inl rfl⟩
  | proceed now => exact .inl ⟨id, quiet_proceed h⟩
  | fail =>
    obtain ⟨progress', hfail, heq⟩ := Option.map_eq_some_iff.mp h
    cases heq
    obtain ⟨hthrown, ⟨order, stripeSub, firstItem, rfl⟩ | hno⟩ := fail_cases hfail
    · exact .inr (.inl ⟨⟨order, stripeSub, firstItem, rfl⟩, rfl, rfl, ⟨_, rfl⟩, hthrown⟩)
    · refine .inl ⟨?_, rfl, rfl, .inr ⟨hthrown, hno⟩⟩
      rintro ⟨order, stripeSub, firstItem, rfl⟩
      exact hno _ rfl
  | create stripeSub answered =>
    obtain ⟨x, hby, hid, hnew, ⟨order, rfl⟩, hcreated, hrows, hor⟩ := create_cases h
    refine .inr (.inr (.inl ⟨x, hby, hnew, rfl, hcreated, hrows, ?_⟩))
    rcases hor with ⟨hno, hstage⟩ | ⟨hlost, hstage⟩
    · exact .inl ⟨fun hl => hno hl.2.2, hstage⟩
    · exact .inr ⟨⟨⟨order, rfl⟩, hid ▸ hnew, hlost⟩, hstage⟩
  | insert id =>
    obtain ⟨order, stripeSub, firstItem, rfl, hid, ⟨hclash, rfl, hstage⟩ | ⟨hno, hcreated, hrows, hstage⟩⟩ :=
      insert_cases h
    · refine .inr (.inl ⟨⟨⟨order, stripeSub, firstItem, rfl⟩, hid, ?_⟩, rfl, rfl, ⟨_, rfl⟩, hstage⟩)
      obtain ⟨sub, hsub, huser | hstripe⟩ := hclash
      · exact ⟨sub, hsub, huser⟩
      · exact absurd hstripe (hk.2.2 sub hsub)
    · refine .inr (.inr (.inr ⟨_, _, ?_, rfl, rfl, rfl, hcreated, hrows, hstage⟩))
      rintro ⟨-, -, sub, hsub, huser⟩
      exact hno sub hsub huser

/-! ### What every statement preserves -/

/-- What another call's statement leaves of a call's rows. -/
structure Spares (j : ι) (store store' : Store ι) : Prop where
  created : ∀ x, x.createdBy = j → (x ∈ store'.created ↔ x ∈ store.created)
  rows : ∀ sub ∈ store.subscriptions, sub ∈ store'.subscriptions

theorem Spares.of_eq (hcreated : store'.created = store.created)
    (hrows : store'.subscriptions = store.subscriptions) : Spares j store store' :=
  ⟨fun _ _ => by rw [hcreated], fun _ hsub => by rw [hrows]; exact hsub⟩

theorem Recorded.spares (hs : Spares j store store') (h : Recorded calls j store) :
    Recorded calls j store' := by
  intro x hx hby
  obtain ⟨sub, hsub, hrow⟩ := h x ((hs.created x hby).mp hx) hby
  exact ⟨sub, hs.rows sub hsub, hrow⟩

theorem Consistent.spares {stage : Stage} (hs : Spares j store store')
    (hfresh : ∀ id, stage = .pending id → ∀ sub ∈ store'.subscriptions, sub.stripeSubscriptionId ≠ some id)
    (h : Consistent calls j store stage) : Consistent calls j store' stage := by
  cases stage with
  | before =>
    intro x hx hby
    exact h x ((hs.created x hby).mp hx) hby
  | pending id =>
    obtain ⟨⟨x, hx, hby, hid⟩, hall, -⟩ := h
    refine ⟨⟨x, (hs.created x hby).mpr hx, hby, hid⟩, ?_, hfresh id rfl⟩
    intro y hy hby
    exact hall y ((hs.created y hby).mp hy) hby
  | after => exact Recorded.spares hs h
  | thrown => trivial

/-- The same two tables. -/
theorem Consistent.of_eq {stage : Stage} (hcreated : store'.created = store.created)
    (hrows : store'.subscriptions = store.subscriptions) (h : Consistent calls i store stage) :
    Consistent calls i store' stage := by
  refine h.spares (.of_eq hcreated hrows) ?_
  rintro id rfl sub hsub
  rw [hrows] at hsub
  exact h.2.2 sub hsub

theorem distinctIds_cons {x : Created ι} (hd : DistinctIds store) (hnew : NewAtStripe store x.id)
    (hcreated : store'.created = x :: store.created) : DistinctIds store' := by
  intro y hy z hz he
  rw [hcreated, List.mem_cons] at hy hz
  rcases hy with rfl | hy
  · rcases hz with rfl | hz
    · rfl
    · exact absurd he.symm (hnew.1 z hz)
  · rcases hz with rfl | hz
    · exact absurd he (hnew.1 y hy)
    · exact hd y hy z hz he

theorem consistent_own (hd : DistinctIds store) (hk : Consistent calls i store progress.stage)
    (h : next calls i store progress act = some (store', progress')) :
    DistinctIds store' ∧ Consistent calls i store' progress'.stage := by
  rcases next_cases hk h with ⟨-, hcreated, hrows, hstage | ⟨hstage, -⟩⟩ |
    ⟨-, hcreated, hrows, -, hstage⟩ | ⟨x, hby, hnew, hbefore, hcreated, hrows, hor⟩ |
    ⟨id, sub, -, hpending, huser, hstripe, hcreated, hrows, hstage⟩
  · rw [DistinctIds, hcreated, hstage]
    exact ⟨hd, hk.of_eq hcreated hrows⟩
  · rw [DistinctIds, hcreated, hstage]
    exact ⟨hd, trivial⟩
  · rw [DistinctIds, hcreated, hstage]
    exact ⟨hd, trivial⟩
  · refine ⟨distinctIds_cons hd hnew hcreated, ?_⟩
    rcases hor with ⟨-, hstage⟩ | ⟨-, hstage⟩
    · rw [hstage, Consistent, hcreated, hrows]
      rw [hbefore] at hk
      refine ⟨⟨x, List.mem_cons_self .., hby, rfl⟩, ?_, hnew.2⟩
      intro y hy hyby
      rcases List.mem_cons.mp hy with rfl | hy
      · rfl
      · exact absurd hyby (hk y hy)
    · rw [hstage]
      trivial
  · rw [DistinctIds, hcreated, hstage]
    refine ⟨hd, ?_⟩
    rw [hpending] at hk
    intro x hx hby
    rw [hcreated] at hx
    refine ⟨sub, ?_, huser, ?_⟩
    · rw [hrows]
      exact List.mem_append_right _ (List.mem_singleton_self _)
    · rw [hstripe, hk.2.1 x hx hby]

theorem spares_next (hne : i ≠ j) (hk : Consistent calls i store progress.stage)
    (h : next calls i store progress act = some (store', progress')) : Spares j store store' := by
  rcases next_cases hk h with ⟨-, hcreated, hrows, -⟩ | ⟨-, hcreated, hrows, -⟩ |
    ⟨x, hby, -, -, hcreated, hrows, -⟩ | ⟨id, sub, -, -, -, -, hcreated, hrows, -⟩
  · exact .of_eq hcreated hrows
  · exact .of_eq hcreated hrows
  · refine ⟨fun y hy => ?_, fun sub hsub => by rw [hrows]; exact hsub⟩
    rw [hcreated, List.mem_cons]
    refine or_iff_right ?_
    rintro rfl
    exact hne (hby.symm.trans hy)
  · refine ⟨fun y _ => by rw [hcreated], fun sub hsub => ?_⟩
    rw [hrows]
    exact List.mem_append_left _ hsub

theorem consistent_frame {other : Progress} (hne : i ≠ j) (hd : DistinctIds store)
    (hk : Consistent calls i store progress.stage) (hkj : Consistent calls j store other.stage)
    (h : next calls i store progress act = some (store', progress')) :
    Consistent calls j store' other.stage := by
  refine hkj.spares (spares_next hne hk h) ?_
  intro idj hj
  rw [hj] at hkj
  obtain ⟨⟨y, hy, hyby, rfl⟩, -, hfree⟩ := hkj
  rcases next_cases hk h with ⟨-, -, hrows, -⟩ | ⟨-, -, hrows, -⟩ | ⟨-, -, -, -, -, hrows, -⟩ |
    ⟨id, sub, -, hpending, -, hstripe, -, hrows, -⟩
  · rw [hrows]
    exact hfree
  · rw [hrows]
    exact hfree
  · rw [hrows]
    exact hfree
  · -- Both calls have created a subscription, and Stripe's ids are distinct.
    rw [hpending] at hk
    obtain ⟨⟨x, hx, hxby, rfl⟩, -, -⟩ := hk
    rw [hrows]
    intro r hr he
    rcases List.mem_append.mp hr with hr | hr
    · exact hfree r hr he
    · rw [List.mem_singleton.mp hr, hstripe] at he
      exact hne (hxby.symm.trans ((hd x hx y hy (Option.some.inj he)).trans hyby))

/-! ### When an orphan is left -/

theorem ended_stage (h : progress.Ended) : progress.stage = .after ∨ progress.stage = .thrown := by
  cases h with
  | returned sub => exact .inl rfl
  | thrown e => exact .inr rfl

theorem ended_of_thrown (h : progress.stage = .thrown) : progress.Ended := by
  cases progress with
  | thrown e => exact .thrown e
  | start | resolved | guarded | planned | validated | attached | created | persisted | cleaned | returned =>
    cases h

/-- The call that moves leaves an orphan exactly when it loses its creation. -/
theorem recorded_own (hd : DistinctIds store) (hk : Consistent calls i store progress.stage)
    (hi : progress.Ended → Recorded calls i store)
    (h : next calls i store progress act = some (store', progress')) :
    (progress'.Ended → Recorded calls i store') ↔ ¬ Loses calls i store progress act := by
  have hk' := (consistent_own hd hk h).2
  rcases next_cases hk h with ⟨hno, hcreated, hrows, hor⟩ | ⟨hloses, hcreated, hrows, ⟨id, hpending⟩, hstage⟩ |
    ⟨x, hby, hnew, hbefore, hcreated, hrows, ⟨hno, hstage⟩ | ⟨hloses, hstage⟩⟩ |
    ⟨id, sub, hno, -, -, -, -, -, hstage⟩
  · refine iff_of_true (fun hended => ?_) hno
    have hkept : Recorded calls i store → Recorded calls i store' := .spares (.of_eq hcreated hrows)
    rcases ended_stage hended with he | he
    · rw [he] at hk'
      exact hk'
    · cases hstage : progress.stage with
      | before =>
        rw [hstage] at hk
        exact hkept fun x hx hby => absurd hby (hk x hx)
      | pending id =>
        rcases hor with hsame | ⟨-, hne⟩
        · cases he.symm.trans (hsame.trans hstage)
        · exact absurd hstage (hne id)
      | after =>
        rw [hstage] at hk
        exact hkept hk
      | thrown => exact hkept (hi (ended_of_thrown hstage))
  · -- Thrown behind its creation: no row carries the id.
    refine iff_of_false (fun hrec => ?_) (not_not_intro hloses)
    rw [hpending] at hk
    obtain ⟨⟨x, hx, hby, rfl⟩, -, hfree⟩ := hk
    rw [← hcreated] at hx
    obtain ⟨sub, hsub, -, hid⟩ := hrec (ended_of_thrown hstage) x hx hby
    rw [hrows] at hsub
    exact hfree sub hsub hid
  · refine iff_of_true (fun hended => ?_) hno
    rcases ended_stage hended with he | he
    · cases hstage.symm.trans he
    · cases hstage.symm.trans he
  · refine iff_of_false (fun hrec => ?_) (not_not_intro hloses)
    have hx : x ∈ store'.created := by
      rw [hcreated]
      exact List.mem_cons_self ..
    obtain ⟨sub, hsub, -, hid⟩ := hrec (ended_of_thrown hstage) x hx hby
    rw [hrows] at hsub
    exact hnew.2 sub hsub hid
  · refine iff_of_true (fun _ => ?_) hno
    rw [hstage] at hk'
    exact hk'

/-- A call can always lose what it is in a position to lose. -/
theorem next_of_loses (h : Loses calls i store progress act) : next calls i store progress act ≠ none := by
  cases act with
  | setup stripeCustomerId => exact h.elim
  | proceed now => exact h.elim
  | fail =>
    obtain ⟨order, stripeSub, firstItem, rfl⟩ := h
    nofun
  | create stripeSub answered =>
    obtain ⟨⟨order, rfl⟩, ⟨hcreated, hrows⟩, -⟩ := h
    simp only [next, create]
    rw [if_neg]
    · nofun
    · rintro (⟨x, hx, hid⟩ | ⟨sub, hsub, hid⟩)
      · exact hcreated x hx hid
      · exact hrows sub hsub hid
  | insert id =>
    obtain ⟨⟨order, stripeSub, firstItem, rfl⟩, hid, sub, hsub, huser⟩ := h
    simp only [next, insert]
    rw [if_neg fun ⟨r, hr, he⟩ => hid r hr he, if_pos ⟨sub, hsub, .inl huser⟩]
    nofun

variable [DecidableEq ι]

theorem noOrphan_step {s s' : Pool ι (Store ι) Progress} {a : ι × Act}
    (hk : PoolInv DistinctIds (fun i store progress => Consistent calls i store progress.stage) s)
    (hi : NoOrphan calls s) (h : poolStep (next calls) s a = some s') :
    NoOrphan calls s' ↔ ¬ Loses calls a.1 s.store (s.proc a.1) a.2 := by
  obtain ⟨hd, hk⟩ := hk
  obtain ⟨store', progress', hnext, rfl⟩ := poolStep_eq_some.mp h
  rw [← recorded_own hd (hk a.1) (hi a.1) hnext]
  constructor
  · intro hi' hended
    refine hi' a.1 ?_
    dsimp only
    rw [Function.update_self]
    exact hended
  · intro hown j hended
    dsimp only at hended ⊢
    by_cases hj : j = a.1
    · rw [hj, Function.update_self] at hended
      rw [hj]
      exact hown hended
    · rw [Function.update_of_ne hj] at hended
      exact (hi j hended).spares (spares_next (Ne.symm hj) (hk a.1) hnext)

/-- No call has begun. -/
def opened (store : Store ι) : Pool ι (Store ι) Progress := ⟨{ store with created := [] }, fun _ => .start⟩

/-- CORRECT: throughout an interleaving of any number of calls, every subscription that an ended call has
    created at Stripe has a local row of the call's user, if and only if no call loses its creation: in
    Stripe's answer, in a failing insert, or to a row that the user has already. -/
theorem no_orphan_iff {store : Store ι} {as : List (ι × Act)} :
    Throughout (poolStep (next calls)) (NoOrphan calls) (opened store) as ↔
      Along (poolStep (next calls)) (fun s a => ¬ Loses calls a.1 s.store (s.proc a.1) a.2)
        (opened store) as := by
  refine throughout_iff_along_of_refused
    (K := PoolInv DistinctIds fun i store progress => Consistent calls i store progress.stage)
    (fun s a hnone => ?_) (fun s a s' hk h => ?_) (fun s a s' hk hi h => noOrphan_step hk hi h)
    ⟨nofun, fun _ => nofun⟩ nofun
  · rw [poolStep, Option.map_eq_none_iff] at hnone
    exact fun hloses => next_of_loses hloses hnone
  · exact poolInv_step (K := fun i store progress => Consistent calls i store progress.stage)
      (fun _ _ _ _ _ _ => consistent_own)
      (fun _ _ _ _ _ _ _ _ => consistent_frame) s a s' hk h

end

/-! ### A user who comes back -/

def resubscriber : Subscription :=
  { id := "sub"
    userId := "user"
    planId := "plan"
    stripeSubscriptionId := some "sub_1"
    stripeCustomerId := some "cus_1"
    status := .CANCELLED
    currentPeriodStart := 0
    currentPeriodEnd := 0
    cycleAnchorDate := 0
    promoCodeId := none }

def storeOf (rows : List Subscription) : Store ℕ :=
  { subscriptions := rows
    plans := [⟨"plan", "price_1", true⟩]
    promoCodes := []
    setupKey := fun _ => some "cus_1"
    created := [] }

def monthly (_ : ℕ) : Call := ⟨"user", "plan", "pm_1", none⟩

/-- The statements up to the payment method, and the creation at Stripe. -/
def upToCreation (i : ℕ) (stripeId : String) : List (ℕ × Act) :=
  [(i, .proceed 0), (i, .proceed 0), (i, .proceed 0), (i, .proceed 0),
    (i, .create ⟨stripeId, "active", [⟨0, 1⟩]⟩ true)]

/-- A user whose subscription is CANCELLED passes every guard, is charged by a new subscription at Stripe,
    and is left with the old row. -/
theorem resubscription_orphaned : ∃ s, run (poolStep (next monthly)) (opened (storeOf [resubscriber]))
      (upToCreation 0 "sub_2" ++ [(0, .insert "new")]) = some s ∧
    s.proc 0 = .thrown .database ∧ s.store.created.map Created.id = ["sub_2"] ∧
    s.store.subscriptions = [resubscriber] ∧ ¬ NoOrphan monthly s := by
  refine ⟨_, rfl, rfl, rfl, rfl, ?_⟩
  intro h
  obtain ⟨sub, hsub, -, hid⟩ := h 0 (.thrown .database) _ (List.mem_cons_self ..) rfl
  rw [List.mem_singleton.mp hsub] at hid
  revert hid
  decide

end Redeemo.CreateSubscription
