import Redeemo.Subscription.Create

/-! The cap on a promo code, over any number of `createSubscription` calls.

    The exhaustion check reads `usesCount` before two calls to Stripe, the insert and the count follow
    without another look, and nothing reserves the use in between. So the cap holds exactly in the runs
    where no call takes a use of a code that the others have used up since its check. -/

namespace Redeemo.CreateSubscription
open Billing Rows Runs

variable {ι : Type*}

/-- How many rows carry a promo code. -/
def Store.carriers (store : Store ι) (promoCodeId : String) : ℕ :=
  store.subscriptions.countP fun sub => sub.promoCodeId = some promoCodeId

/-- No more rows carry a code than its `maxUses`, and no more uses are counted. -/
def Capped (store : Store ι) : Prop :=
  ∀ promo ∈ store.promoCodes, ∀ m ∈ promo.maxUses, store.carriers promo.id ≤ m ∧ promo.usesCount ≤ m

/-- As many rows carry the code as it may have uses. -/
def Store.Taken (store : Store ι) (promo : PromoCode) : Prop := ∃ m ∈ promo.maxUses, m ≤ store.carriers promo.id

/-- The insert lands, under a new id. -/
def Lands (store : Store ι) (call : Call) (id stripeSubscriptionId : String) : Prop :=
  (∀ sub ∈ store.subscriptions, sub.id ≠ id) ∧
    ∀ sub ∈ store.subscriptions, sub.userId ≠ call.userId ∧ sub.stripeSubscriptionId ≠ some stripeSubscriptionId

/-- A call takes a use that is not left any more: it inserts a row for a code that all the rows allowed
    carry, or it counts a use of a code that its own check would refuse by now. -/
def Overdraws (calls : ι → Call) (i : ι) (store : Store ι) (progress : Progress) : Act → Prop
  | .insert id => ∃ order stripeSub firstItem, progress = .created order stripeSub firstItem ∧
      Lands store (calls i) id stripeSub.id ∧
      ∃ promo ∈ store.promoCodes, order.promoCodeId = some promo.id ∧ store.Taken promo
  | .proceed _ => ∃ promoCodeId sub, progress = .cleaned promoCodeId sub ∧
      ∃ promo ∈ store.promoCodes, promo.id = promoCodeId ∧ promo.exhausted
  | _ => False

section
variable {calls : ι → Call} {i : ι} {store store' : Store ι} {progress progress' : Progress} {act : Act}

/-! ### What a statement does to the counts -/

theorem carriers_append {sub : Subscription} (h : store'.subscriptions = store.subscriptions ++ [sub])
    (promoCodeId : String) : store'.carriers promoCodeId =
      store.carriers promoCodeId + if sub.promoCodeId = some promoCodeId then 1 else 0 := by
  rw [Store.carriers, Store.carriers, h, List.countP_append, List.countP_singleton]
  simp

/-- A statement that reaches neither the rows nor the codes. -/
theorem capped_congr (hrows : store'.subscriptions = store.subscriptions)
    (hcodes : store'.promoCodes = store.promoCodes) : Capped store' ↔ Capped store := by
  rw [Capped, Capped, hcodes]
  simp only [Store.carriers, hrows]

/-- A row for a code keeps the cap while a use is left of it. -/
theorem capped_insert (hcap : Capped store) (sub : Subscription) :
    Capped { store with subscriptions := store.subscriptions ++ [sub] } ↔
      ¬ ∃ promo ∈ store.promoCodes, sub.promoCodeId = some promo.id ∧ store.Taken promo := by
  constructor
  · rintro h ⟨promo, hpromo, hsub, m, hm, hle⟩
    have hafter := (h promo hpromo m hm).1
    rw [carriers_append rfl, if_pos hsub] at hafter
    omega
  · intro hleft promo hpromo m hm
    obtain ⟨hbefore, huses⟩ := hcap promo hpromo m hm
    refine ⟨?_, huses⟩
    rw [carriers_append rfl]
    split_ifs with hsub
    · have hlt : ¬ m ≤ store.carriers promo.id := fun hle => hleft ⟨promo, hpromo, hsub, m, hm, hle⟩
      omega
    · exact hbefore

/-- A counted use keeps the cap while the code is not exhausted. -/
theorem capped_incrementUses (hcap : Capped store) (promoCodeId : String) (sub : Subscription) :
    Capped (incrementUses store promoCodeId sub).1 ↔
      ¬ ∃ promo ∈ store.promoCodes, promo.id = promoCodeId ∧ promo.exhausted := by
  rw [incrementUses]
  split_ifs with hfound
  · constructor
    · rintro h ⟨promo, hpromo, hid, m, hm, hle⟩
      have hafter := (h _ (mem_updateMany_of_pos hpromo hid) m hm).2
      dsimp only at hafter
      omega
    · intro hleft
      refine forall_updateMany.mpr fun promo hpromo => ⟨fun hid m hm => ?_, fun _ m hm => hcap promo hpromo m hm⟩
      have hlt : ¬ m ≤ promo.usesCount := fun hle => hleft ⟨promo, hpromo, hid, m, hm, hle⟩
      refine ⟨(hcap promo hpromo m hm).1, ?_⟩
      dsimp only
      omega
  · refine iff_of_true hcap ?_
    rintro ⟨promo, hpromo, hid, -⟩
    exact hfound ⟨promo, hpromo, hid⟩

/-! ### Which statements keep the cap -/

theorem capped_proceed {call : Call} {now : ℤ} (hcap : Capped store)
    (h : proceed call now store progress = some (store', progress')) :
    Capped store' ↔ ¬ ∃ promoCodeId sub, progress = .cleaned promoCodeId sub ∧
      ∃ promo ∈ store.promoCodes, promo.id = promoCodeId ∧ promo.exhausted := by
  cases progress with
  | start | resolved | guarded | planned | validated =>
    cases h
    refine iff_of_true hcap ?_
    rintro ⟨_, _, heq, -⟩
    cases heq
  | persisted order sub =>
    cases h
    refine iff_of_true ((capped_congr rfl rfl).mpr hcap) ?_
    rintro ⟨_, _, heq, -⟩
    cases heq
  | cleaned promoCodeId sub =>
    have hstore : (incrementUses store promoCodeId sub).1 = store' := congrArg Prod.fst (Option.some.inj h)
    rw [← hstore, capped_incrementUses hcap]
    constructor
    · rintro hleft ⟨_, _, heq, hover⟩
      cases heq
      exact hleft hover
    · exact fun hleft hover => hleft ⟨_, _, rfl, hover⟩
  | attached order => cases h
  | created order stripeSub firstItem => cases h
  | returned sub => cases h
  | thrown e => cases h

theorem capped_next_insert {id : String} (hcap : Capped store)
    (h : insert (calls i) id store progress = some (store', progress')) :
    Capped store' ↔ ¬ Overdraws calls i store progress (.insert id) := by
  cases progress with
  | created order stripeSub firstItem =>
    simp only [insert] at h
    split_ifs at h with hid hclash
    · cases h
      refine iff_of_true hcap ?_
      rintro ⟨_, _, _, heq, hlands, -⟩
      cases heq
      obtain ⟨sub, hsub, huser | hstripe⟩ := hclash
      · exact (hlands.2 sub hsub).1 huser
      · exact (hlands.2 sub hsub).2 hstripe
    · cases h
      have hlands : Lands store (calls i) id stripeSub.id := by
        refine ⟨fun sub hsub he => hid ⟨sub, hsub, he⟩, fun sub hsub => ⟨fun he => ?_, fun he => ?_⟩⟩
        · exact hclash ⟨sub, hsub, .inl he⟩
        · exact hclash ⟨sub, hsub, .inr he⟩
      refine (capped_insert hcap _).trans (not_congr (Iff.intro (fun hover => ?_) ?_))
      · exact ⟨_, _, _, rfl, hlands, hover⟩
      rintro ⟨_, _, _, heq, -, hover⟩
      cases heq
      exact hover
  | start | resolved | guarded | planned | validated | attached | persisted | cleaned | returned | thrown =>
    cases h

/-- A statement keeps the cap exactly when it takes no use that is not left. -/
theorem capped_next (hcap : Capped store) (h : next calls i store progress act = some (store', progress')) :
    Capped store' ↔ ¬ Overdraws calls i store progress act := by
  cases act with
  | setup stripeCustomerId =>
    cases h
    exact iff_of_true ((capped_congr rfl rfl).mpr hcap) id
  | fail =>
    obtain ⟨progress', -, heq⟩ := Option.map_eq_some_iff.mp h
    cases heq
    exact iff_of_true hcap id
  | proceed now => exact capped_proceed hcap h
  | create stripeSub answered =>
    obtain ⟨order, rfl⟩ : ∃ order, progress = .attached order := by
      obtain ⟨x, -, -, -, hattached, -⟩ := create_cases h
      exact hattached
    simp only [next, create] at h
    split_ifs at h
    · cases h
      exact iff_of_true ((capped_congr rfl rfl).mpr hcap) id
    · cases h
      exact iff_of_true ((capped_congr rfl rfl).mpr hcap) id
  | insert id => exact capped_next_insert hcap h

/-- A use that is not left can be taken all the same. -/
theorem next_of_overdraws (h : Overdraws calls i store progress act) :
    next calls i store progress act ≠ none := by
  cases act with
  | setup stripeCustomerId => exact h.elim
  | fail => exact h.elim
  | create stripeSub answered => exact h.elim
  | proceed now =>
    obtain ⟨promoCodeId, sub, rfl, -⟩ := h
    exact Option.some_ne_none _
  | insert id =>
    obtain ⟨order, stripeSub, firstItem, rfl, ⟨hid, hclash⟩, -⟩ := h
    simp only [next, insert]
    rw [if_neg, if_neg]
    · exact Option.some_ne_none _
    · rintro ⟨sub, hsub, huser | hstripe⟩
      · exact (hclash sub hsub).1 huser
      · exact (hclash sub hsub).2 hstripe
    · rintro ⟨sub, hsub, he⟩
      exact hid sub hsub he

variable [DecidableEq ι]

/-- CORRECT: from a store within its caps, every interleaving of any number of calls stays within them if
    and only if no call inserts a row for a code whose uses are all taken by rows, or counts a use of a
    code that is exhausted. -/
theorem promo_capped_iff (hcap : Capped store) {as : List (ι × Act)} :
    Throughout (poolStep (next calls)) (fun s => Capped s.store) (opened store) as ↔
      Along (poolStep (next calls)) (fun s a => ¬ Overdraws calls a.1 s.store (s.proc a.1) a.2)
        (opened store) as := by
  refine throughout_iff_along_of_refused (K := fun _ => True) (fun s a hnone hover => ?_)
    (fun _ _ _ _ _ => trivial) (fun s a s' _ hi h => ?_) trivial ((capped_congr rfl rfl).mpr hcap)
  · rw [poolStep, Option.map_eq_none_iff] at hnone
    exact next_of_overdraws hover hnone
  · obtain ⟨store', progress', hnext, rfl⟩ := poolStep_eq_some.mp h
    exact capped_next hi hnext

end

/-! ### Two users and the last use -/

/-- A code with one use. -/
def lastUse : Store Bool :=
  { subscriptions := []
    plans := [⟨"plan", "price_1", true⟩]
    promoCodes := [⟨"promo", "WELCOME", some 1, 0, none, true, none⟩]
    setupKey := fun _ => some "cus_1"
    created := [] }

def withCode (i : Bool) : Call := ⟨if i then "ann" else "ben", "plan", "pm_1", some "WELCOME"⟩

/-- The statements up to the check of the code. -/
def upToCheck (i : Bool) : List (Bool × Act) :=
  [(i, .proceed 0), (i, .proceed 0), (i, .proceed 0), (i, .proceed 0)]

/-- The rest of a call, under ids of its own. -/
def fromCheck (i : Bool) (stripeId id : String) : List (Bool × Act) :=
  [(i, .proceed 0), (i, .create ⟨stripeId, "active", [⟨0, 1⟩]⟩ true), (i, .insert id), (i, .proceed 0),
    (i, .proceed 0)]

/-- Both calls pass the check before either counts its use. -/
def bothChecked : List (Bool × Act) :=
  upToCheck true ++ upToCheck false ++ fromCheck true "sub_1" "row_1" ++ fromCheck false "sub_2" "row_2"

theorem lastUse_capped : Capped lastUse := by
  intro promo hpromo m hm
  cases List.mem_singleton.mp hpromo
  cases hm
  exact ⟨by decide, by decide⟩

theorem run_bothChecked : ∃ s, run (poolStep (next withCode)) (opened lastUse) bothChecked = some s ∧
    s.store.subscriptions.map (fun sub => (sub.userId, sub.promoCodeId)) =
      [("ann", some "promo"), ("ben", some "promo")] ∧
    s.store.promoCodes.map (fun promo => (promo.maxUses, promo.usesCount)) = [(some 1, 2)] ∧
    ¬ Capped s.store := by
  refine ⟨_, rfl, rfl, rfl, fun h => ?_⟩
  have huses := (h _ (List.mem_cons_self ..) 1 rfl).2
  revert huses
  decide

/-- Two rows carry a code that one row may carry, and two uses of it are counted. -/
theorem promo_overdrawn : (∀ i j, (withCode i).userId = (withCode j).userId → i = j) ∧ Capped lastUse ∧
    ∃ s, run (poolStep (next withCode)) (opened lastUse) bothChecked = some s ∧
      s.store.subscriptions.map (fun sub => (sub.userId, sub.promoCodeId)) =
        [("ann", some "promo"), ("ben", some "promo")] ∧
      s.store.promoCodes.map (fun promo => (promo.maxUses, promo.usesCount)) = [(some 1, 2)] ∧
      ¬ Capped s.store :=
  ⟨by decide, lastUse_capped, run_bothChecked⟩

/-- The second insert of that run takes a use that the first has taken. -/
theorem bothChecked_overdraws : ¬ Along (poolStep (next withCode))
    (fun s a => ¬ Overdraws withCode a.1 s.store (s.proc a.1) a.2) (opened lastUse) bothChecked := by
  intro h
  obtain ⟨s, hrun, -, -, hno⟩ := run_bothChecked
  exact hno ((promo_capped_iff lastUse_capped).mpr h bothChecked [] s (List.append_nil _).symm hrun)

end Redeemo.CreateSubscription
