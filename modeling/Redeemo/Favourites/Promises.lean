import Redeemo.Favourites.Vouchers
import Redeemo.Redemption.Claims

/-! What the list of favourite vouchers promises, and what a redemption honours.

    A voucher in one of the first two buckets is shown with a button that redeems it. The two decisions agree, but for a
    TIME_LIMITED voucher in its window: the list looks at the computed end of the window and not at the user's
    redemptions in it, a redemption looks at these and not at the end. -/

namespace Redeemo.Favourites
open CycleWindows Fallible Redemption VoucherAvailability

variable {cat : Catalog} {t : Tables} {userId branchId voucherId : String} {now : ℤ} {v : Voucher} {pair : Pair}

/-! ### The guards of a redemption -/

/-- Guards 1 and 2. -/
structure Live (v : Voucher) (now : ℤ) : Prop where
  active : v.status = .ACTIVE ∧ v.approvalStatus = .APPROVED ∧ v.merchantStatus = .ACTIVE
  unexpired : ∀ expiry ∈ v.expiryDate, now < expiry

/-- A user with a subscription and a verified phone, at a branch of the merchant that has a PIN. -/
structure Entitled (cat : Catalog) (userId branchId : String) (v : Voucher) : Prop where
  subscription : ∃ sub, cat.subscription userId = some sub ∧ (sub.status = .ACTIVE ∨ sub.status = .TRIALLING)
  phone : cat.phoneVerified userId = some true
  branch : ∃ b pin, cat.branch branchId = some b ∧ (b.isActive = true ∧ b.lifecycleStatus ≠ .PENDING_CREATE) ∧
    b.merchantId = v.merchantId ∧ b.redemptionPin = some pin ∧ pin ≠ ""

/-- Of the redemptions of the pair, none lies in the occurrence. -/
def Unused (t : Tables) (pair : Pair) (occ : WindowOccurrence) : Prop :=
  ∀ r ∈ t.redemptionsOf pair, ¬ (occ.startsAt ≤ r.redeemedAt ∧ r.redeemedAt < occ.endsAt)

/-- Guards 3, 7 and 8a. -/
def Passes (v : Voucher) (t : Tables) (pair : Pair) (cycleStart now : ℤ) : Prop :=
  match v.type with
  | .TIME_LIMITED =>
    ∃ occ, getCurrentWindowOccurrence v.availabilityWindows now = .ok (some occ) ∧ Unused t pair occ
  | .REUSABLE =>
    ∀ latest ∈ t.latestRedeemedAt pair, latest + effectiveCooldownSeconds v.cooldownSeconds * 1000 ≤ now
  | _ => ∀ state ∈ t.cycleStates pair, claimWhere cycleStart state

theorem require_eq_ok {p : Prop} [Decidable p] {e : AppError} {u : Unit} : require p e = .ok u ↔ p := by
  by_cases h : p <;> simp [require, h]

theorem currentWindow_eq_ok {windows : List AvailabilityWindow} {occ : WindowOccurrence} :
    currentWindow windows now = .ok occ ↔ getCurrentWindowOccurrence windows now = .ok (some occ) := by
  refine ⟨currentWindow_ok, fun h => ?_⟩
  rw [currentWindow, h]
  rfl

theorem windowGuard_eq_ok {windows : List AvailabilityWindow} {occ : WindowOccurrence} {u : Unit} :
    windowGuard windows occ (t.redemptionsOf pair) now = .ok u ↔ Unused t pair occ := by
  refine ⟨windowGuard_ok, fun h => if_neg ?_⟩
  rintro ⟨r, hr, hin⟩
  exact h r hr hin

theorem cooldownGuard_eq_ok {latest : Option ℤ} {ms : ℤ} :
    cooldownGuard latest now ms = .ok () ↔ ∀ redeemedAt ∈ latest, redeemedAt + ms ≤ now := by
  cases latest with
  | none => simp [cooldownGuard]
  | some redeemedAt =>
    simp only [cooldownGuard, ite_error_eq_ok, Option.mem_def, Option.some.injEq, forall_eq']
    simp

theorem openWindow_timeLimited (h : v.type = .TIME_LIMITED) {occ : Option WindowOccurrence} :
    openWindow v now = .ok occ ↔
      ∃ o, getCurrentWindowOccurrence v.availabilityWindows now = .ok (some o) ∧ occ = some o := by
  rw [openWindow, if_pos h]
  constructor
  · intro hmap
    cases hc : currentWindow v.availabilityWindows now with
    | error e =>
      rw [hc] at hmap
      cases hmap
    | ok o =>
      rw [hc] at hmap
      cases hmap
      exact ⟨o, currentWindow_eq_ok.mp hc, rfl⟩
  · rintro ⟨o, ho, rfl⟩
    rw [currentWindow_eq_ok.mpr ho]
    rfl

theorem openWindow_other (h : v.type ≠ .TIME_LIMITED) {occ : Option WindowOccurrence} :
    openWindow v now = .ok occ ↔ occ = none := by
  rw [openWindow, if_neg h, Except.ok.injEq, eq_comm]

theorem orApp_bind_ok {α : Type} {x : Except AppError Unit} {f : Unit → Except Redemption.Failure α} {a : α} :
    (orApp x >>= f) = .ok a ↔ x = .ok () ∧ f () = .ok a := by
  rw [bind_ok_iff]
  constructor
  · rintro ⟨_, hx, hf⟩
    exact ⟨orApp_ok.mp hx, hf⟩
  · rintro ⟨hx, hf⟩
    exact ⟨(), orApp_ok.mpr hx, hf⟩

theorem typeGuard_timeLimited (h : v.type = .TIME_LIMITED) {cycleStart ms : ℤ} {occ : WindowOccurrence} :
    (∃ ws, typeGuard v pair cycleStart ms now (some occ) t = .ok ws) ↔ Unused t pair occ := by
  simp only [typeGuard, h, bind_ok_iff]
  constructor
  · rintro ⟨_, _, hu, -⟩
    exact windowGuard_eq_ok.mp hu
  · intro hu
    exact ⟨_, (), windowGuard_eq_ok.mpr hu, rfl⟩

/-- Guards 3, 7 and 8a together. -/
theorem passes_iff {cycleStart : ℤ} : Passes v t pair cycleStart now ↔ ∃ occ, openWindow v now = .ok occ ∧
    ∃ ws, typeGuard v pair cycleStart (effectiveCooldownSeconds v.cooldownSeconds * 1000) now occ t = .ok ws := by
  by_cases htl : v.type = .TIME_LIMITED
  · simp only [Passes, htl, openWindow_timeLimited htl]
    constructor
    · rintro ⟨occ, hocc, hu⟩
      exact ⟨_, ⟨occ, hocc, rfl⟩, (typeGuard_timeLimited htl).mpr hu⟩
    · rintro ⟨_, ⟨occ, hocc, rfl⟩, hws⟩
      exact ⟨occ, hocc, (typeGuard_timeLimited htl).mp hws⟩
  · simp only [openWindow_other htl, exists_eq_left]
    cases hty : v.type with
    | TIME_LIMITED => exact absurd hty htl
    | REUSABLE =>
      simp only [Passes, hty, typeGuard, orApp_bind_ok, cooldownGuard_eq_ok]
      constructor
      · intro h
        exact ⟨none, h, rfl⟩
      · rintro ⟨_, h, _⟩
        exact h
    | _ =>
      simp only [Passes, hty, typeGuard, orApp_bind_ok, cycleGuard_ok_iff]
      constructor
      · intro h
        exact ⟨none, h, rfl⟩
      · rintro ⟨_, h, _⟩
        exact h

/-- With user and branch in order, a call comes as far as the PIN exactly if the voucher's guards pass. -/
theorem eligible_iff (he : Entitled cat userId branchId v) (hv : cat.voucher voucherId = some v) {sub : Subscription}
    (hsub : cat.subscription userId = some sub) :
    (∃ el, eligibility cat t userId voucherId branchId now = .ok el) ↔ Live v now ∧
      Passes v t (userId, voucherId) (getCurrentCycleWindow sub.cycleAnchorDate now).cycleStart now := by
  obtain ⟨sub', hsub', hstatus⟩ := he.subscription
  cases hsub.symm.trans hsub'
  obtain ⟨b, pin, hb, hopen, hmerchant, hpin, hne⟩ := he.branch
  simp only [passes_iff, eligibility, bind_ok_iff, orElse_ok, require_eq_ok]
  constructor
  · rintro ⟨el, v', hv', _, hactive, _, hexpiry, occ, hocc, -, -, _, -, _, -, sub', hsub', _, -, _, -, ws, hws, -⟩
    cases hv.symm.trans hv'
    cases hsub.symm.trans hsub'
    exact ⟨⟨hactive, hexpiry⟩, occ, hocc, ws, hws⟩
  · rintro ⟨⟨hactive, hexpiry⟩, occ, hocc, ws, hws⟩
    exact ⟨_, v, hv, (), hactive, (), hexpiry, occ, hocc, b, hb, (), hopen, (), hmerchant, sub, hsub, (), hstatus, (),
      he.phone, ws, hws, pin, hpin, (), hne, rfl⟩

/-! ### The buckets -/

/-- One of the two buckets with a button that redeems. -/
def Promised (bucket : Except String ℕ) : Prop := bucket = .ok 1 ∨ bucket = .ok 2

/-- The list shows the voucher as redeemable. -/
def Promises (cat : Catalog) (t : Tables) (userId voucherId : String) (v : Voucher) (now : ℤ) : Prop :=
  Promised (computeVoucherPriorityBucket (bucketInput cat t userId now voucherId v))

theorem bucket_of_live (h : Live v now) : computeVoucherPriorityBucket (bucketInput cat t userId now voucherId v) =
    typeBucket (bucketInput cat t userId now voucherId v) := by
  have hexpired : ¬ ∃ expiry ∈ v.expiryDate, expiry ≤ now := by
    rintro ⟨expiry, he, hle⟩
    exact absurd (h.unexpired expiry he) (not_lt.mpr hle)
  have hdead : ¬ (¬ (v.status = .ACTIVE ∧ v.approvalStatus = .APPROVED) ∨ v.merchantStatus ≠ .ACTIVE) := by
    obtain ⟨hs, ha, hm⟩ := h.active
    simp [hs, ha, hm]
  exact (if_neg hexpired).trans (if_neg hdead)

theorem not_promises_of_not_live (h : ¬ Live v now) : ¬ Promises cat t userId voucherId v now := by
  by_cases hexpired : ∃ expiry ∈ v.expiryDate, expiry ≤ now
  · have hbucket : computeVoucherPriorityBucket (bucketInput cat t userId now voucherId v) = .ok 7 := if_pos hexpired
    simp [Promises, Promised, hbucket]
  · have hdead : ¬ (v.status = .ACTIVE ∧ v.approvalStatus = .APPROVED) ∨ v.merchantStatus ≠ .ACTIVE := by
      by_contra hlive
      rw [not_or, not_not, not_not] at hlive
      refine h ⟨⟨hlive.1.1, hlive.1.2, hlive.2⟩, fun expiry he => ?_⟩
      by_contra hle
      exact hexpired ⟨expiry, he, not_lt.mp hle⟩
    have hbucket : computeVoucherPriorityBucket (bucketInput cat t userId now voucherId v) = .ok 6 :=
      (if_neg hexpired).trans (if_pos hdead)
    simp [Promises, Promised, hbucket]

theorem promised_ite_two {p : Prop} [Decidable p] {n : ℕ} (hn : n ≠ 1 ∧ n ≠ 2) :
    Promised (.ok (if p then n else 2)) ↔ ¬ p := by
  obtain ⟨h1, h2⟩ := hn
  by_cases h : p <;> simp [Promised, h, h1, h2]

/-- The bucket of a TIME_LIMITED voucher: is there time left to the computed end? -/
theorem promised_timeLimited (h : v.type = .TIME_LIMITED) :
    Promised (typeBucket (bucketInput cat t userId now voucherId v)) ↔
      ∃ occ, getCurrentWindowOccurrence v.availabilityWindows now = .ok (some occ) ∧ now < occ.endsAt := by
  simp only [typeBucket, bucketInput, h]
  cases hocc : getCurrentWindowOccurrence v.availabilityWindows now with
  | error e => simp [Promised, bind, Except.bind]
  | ok found =>
    cases found with
    | none => simp [Promised, bind, Except.bind, pure, Except.pure]
    | some occ =>
      simp only [ok_bind, sub_pos, Except.ok.injEq, Option.some.injEq, exists_eq_left']
      by_cases hend : now < occ.endsAt
      · rw [if_pos hend]
        refine iff_of_true ?_ hend
        split_ifs
        · exact .inl rfl
        · exact .inr rfl
      · rw [if_neg hend]
        refine iff_of_false ?_ hend
        simp [Promised, pure, Except.pure]

/-- The buckets of every other live voucher. -/
theorem promised_other (h : v.type ≠ .TIME_LIMITED) {sub : Subscription} (hsub : cat.subscription userId = some sub) :
    Promised (typeBucket (bucketInput cat t userId now voucherId v)) ↔
      Passes v t (userId, voucherId) (getCurrentCycleWindow sub.cycleAnchorDate now).cycleStart now := by
  have hcycle : redeemedThisCycle cat t userId now voucherId = true ↔
      ¬ ∀ state ∈ t.cycleStates (userId, voucherId),
        claimWhere (getCurrentCycleWindow sub.cycleAnchorDate now).cycleStart state := by
    rw [redeemedThisCycle, hsub, Option.any_some]
    cases t.cycleStates (userId, voucherId) with
    | none => simp
    | some state => simp [claimWhere]
  cases hty : v.type with
  | TIME_LIMITED => exact absurd hty h
  | REUSABLE =>
    simp only [typeBucket, bucketInput, hty, Passes]
    refine (promised_ite_two ⟨by decide, by decide⟩).trans ?_
    rw [lastRedeemedAt, if_pos hty, computeAvailableAgainAt]
    cases t.latestRedeemedAt (userId, voucherId) with
    | none => simp
    | some latest => simp
  | _ =>
    simp only [typeBucket, bucketInput, hty, Passes]
    refine (promised_ite_two ⟨by decide, by decide⟩).trans ?_
    rw [hcycle, not_not]

/-! ### The list -/

/-- Each item is of a favourite of the user's, with the bucket of its voucher. -/
theorem listFavouriteVouchers_item {isTestData : String → Bool} {favourites : List FavouriteVoucher} {page limit : ℕ}
    {p : Page} (h : listFavouriteVouchers cat t userId now isTestData favourites page limit = .ok p) {item : Item}
    (hitem : item ∈ p.items) : ∃ r ∈ favourites, r.userId = userId ∧ item.id = r.voucherId ∧
      ∃ v, cat.voucher r.voucherId = some v ∧
        computeVoucherPriorityBucket (bucketInput cat t userId now r.voucherId v) = .ok item.priorityBucket := by
  obtain ⟨enriched, henriched, hp⟩ := bind_ok_iff.mp h
  cases hp
  have hmem := (List.mem_insertionSort _).mp (List.mem_of_mem_drop (List.mem_of_mem_take hitem))
  obtain ⟨⟨r, v⟩, hrow, henrich⟩ := mem_of_mapM henriched item hmem
  obtain ⟨r', hr', hrv⟩ := List.mem_filterMap.mp hrow
  obtain ⟨v', hv, heq⟩ := Option.map_eq_some_iff.mp hrv
  cases heq
  have hmine := List.mem_filter.mp ((List.mem_insertionSort _).mp hr')
  rw [Bool.and_eq_true, decide_eq_true_eq] at hmine
  obtain ⟨bucket, hbucket, hitem⟩ := bind_ok_iff.mp henrich
  cases hitem
  exact ⟨r, hmine.1, hmine.2.1, rfl, v, hv, hbucket⟩

/-- What the list shows with a button is what it promises. -/
theorem promises_of_item {isTestData : String → Bool} {favourites : List FavouriteVoucher} {page limit : ℕ} {p : Page}
    (h : listFavouriteVouchers cat t userId now isTestData favourites page limit = .ok p) {item : Item}
    (hitem : item ∈ p.items) : ∃ v, cat.voucher item.id = some v ∧
      (Promises cat t userId item.id v now ↔ item.priorityBucket = 1 ∨ item.priorityBucket = 2) := by
  obtain ⟨r, -, -, hid, v, hv, hbucket⟩ := listFavouriteVouchers_item h hitem
  rw [hid]
  refine ⟨v, hv, ?_⟩
  rw [Promises, Promised, hbucket, Except.ok.injEq, Except.ok.injEq]

/-! ### Agreement -/

/-- Where the list looks at the end of the window and a redemption at the user's redemptions in it, both find the same:
    there is time left exactly if none lies in the window. -/
def WindowsAgree (v : Voucher) (t : Tables) (pair : Pair) (now : ℤ) : Prop :=
  v.type = .TIME_LIMITED → ∀ occ, getCurrentWindowOccurrence v.availabilityWindows now = .ok (some occ) →
    (now < occ.endsAt ↔ Unused t pair occ)

/-- For a user with a subscription and a verified phone, at a branch with a PIN. The list shows a voucher as redeemable
    exactly if a call of `createRedemption` would come as far as the PIN, exactly if the voucher is not live or the two
    agree on its window. -/
theorem promises_iff_eligible_iff (he : Entitled cat userId branchId v) (hv : cat.voucher voucherId = some v) :
    (Promises cat t userId voucherId v now ↔ ∃ el, eligibility cat t userId voucherId branchId now = .ok el) ↔
      (Live v now → WindowsAgree v t (userId, voucherId) now) := by
  obtain ⟨sub, hsub, -⟩ := he.subscription
  rw [eligible_iff he hv hsub]
  by_cases hl : Live v now
  · rw [Promises, bucket_of_live hl, and_iff_right hl, forall_prop_of_true hl]
    by_cases htl : v.type = .TIME_LIMITED
    · rw [promised_timeLimited htl]
      simp only [Passes, WindowsAgree, htl, forall_const]
      cases getCurrentWindowOccurrence v.availabilityWindows now with
      | error e => simp
      | ok found =>
        cases found with
        | none => simp
        | some occ => simp
    · exact iff_of_true (promised_other htl hsub) fun h => absurd h htl
  · exact iff_of_true (iff_of_false (not_promises_of_not_live hl) fun h => hl h.1) fun h => absurd h hl

/-! ### A lunch that is eaten -/

def lunch : Voucher :=
  ⟨.ACTIVE, .APPROVED, .TIME_LIMITED, none, 5, none, "merchant", .ACTIVE, [⟨1, "12:00", "14:00"⟩]⟩

def diner : Catalog where
  voucher _ := some lunch
  branch _ := some ⟨"merchant", true, .LIVE, some "1234"⟩
  subscription _ := some ⟨.ACTIVE, 0⟩
  phoneVerified _ := some true

theorem entitled_diner : Entitled diner "ann" "branch" lunch where
  subscription := ⟨_, rfl, .inl rfl⟩
  phone := rfl
  branch := ⟨_, _, rfl, ⟨rfl, by decide⟩, rfl, rfl, by decide⟩

/-- 15 June 2026, half past twelve in London, a Monday. -/
def halfPastTwelve : ℤ := Dates.dateUTC 2026 5 15 + 41400000

/-- Redeemed at noon. -/
def eaten : Tables := ⟨[redemptionData ("ann", "lunch") none ⟨1781521200000, "branch", "AAAA", 5⟩], fun _ => none⟩

def hungry : Tables := ⟨[], fun _ => none⟩

theorem unused_hungry {pair : Pair} {occ : WindowOccurrence} : Unused hungry pair occ := by
  rintro r hr
  cases hr

/-- The two hours from noon. -/
theorem occurrence_halfPastTwelve : getCurrentWindowOccurrence lunch.availabilityWindows halfPastTwelve =
    .ok (some ⟨Dates.dateUTC 2026 5 15 + 39600000, Dates.dateUTC 2026 5 15 + 46800000⟩) := by
  decide

theorem live_lunch : Live lunch halfPastTwelve := ⟨⟨rfl, rfl, rfl⟩, nofun⟩

/-- Whatever was redeemed before. -/
theorem promises_lunch {t : Tables} : Promises diner t "ann" "lunch" lunch halfPastTwelve := by
  rw [Promises, bucket_of_live live_lunch, promised_timeLimited rfl]
  exact ⟨_, occurrence_halfPastTwelve, by decide⟩

theorem windowsAgree_hungry : WindowsAgree lunch hungry ("ann", "lunch") halfPastTwelve := by
  intro _ occ hocc
  rw [occurrence_halfPastTwelve] at hocc
  cases hocc
  exact iff_of_true (by decide) unused_hungry

theorem promises_iff_eligible_iff_hungry : Promises diner hungry "ann" "lunch" lunch halfPastTwelve ∧
    ∃ el, eligibility diner hungry "ann" "lunch" "branch" halfPastTwelve = .ok el := by
  have hiff := (promises_iff_eligible_iff entitled_diner rfl).mpr fun _ => windowsAgree_hungry
  exact ⟨promises_lunch, hiff.mp promises_lunch⟩

theorem promise_broken : Promises diner eaten "ann" "lunch" lunch halfPastTwelve ∧
    ¬ ∃ el, eligibility diner eaten "ann" "lunch" "branch" halfPastTwelve = .ok el := by
  refine ⟨promises_lunch, ?_⟩
  rw [eligible_iff entitled_diner rfl rfl]
  rintro ⟨-, occ, hocc, hunused⟩
  rw [occurrence_halfPastTwelve] at hocc
  cases hocc
  exact hunused _ (List.mem_singleton_self _) ⟨by decide, by decide⟩

end Redeemo.Favourites
