import Redeemo.Discovery.Histories
import Redeemo.Discovery.Refusals
import Redeemo.Discovery.VoucherScreens
import Redeemo.Merchant.AvailabilityWindows

/-! What the screens say about a voucher, and what a redemption does.

    After any history the screens and the guards agree, but for the window that a TIME_LIMITED voucher was redeemed in:
    the screens ask for the latest redemption, the guard for any. The two differ when the latest was made after the
    window's computed end, as it can be in the hour that the clocks repeat. -/

namespace Redeemo.VoucherScreens
open CycleWindows Fallible Favourites Redemption VoucherAvailability

/-! ### What the screens are given -/

/-- The windows of a voucher were checked when they were saved. -/
def Shop.Validated (shop : Shop) : Prop := ∀ voucherId v, shop.cat.voucher voucherId = some v →
  AvailabilityWindows.validateAvailabilityWindows v.type (some v.availabilityWindows) = .ok ()

/-- A live voucher, neither seed nor demo. -/
structure Shop.Shows (shop : Shop) (voucherId : String) (v : Voucher) (now : ℤ) : Prop where
  voucher : shop.catalog.voucher voucherId = some v
  live : Live v now
  listed : voucherId ∈ shop.voucherIds
  genuine : shop.isTestData voucherId = false ∧ ∀ m ∈ shop.merchants v.merchantId, m.isTestData = false

section
variable {shop : Shop} {t : Tables} {userId voucherId : String} {now : ℤ} {v : Voucher} {sub : Subscription}

theorem catalog_eq_some (h : shop.catalog.voucher voucherId = some v) : ∃ stored m, shop.cat.voucher voucherId = some stored ∧
    shop.merchants stored.merchantId = some m ∧ v = { stored with merchantStatus := m.status } := by
  obtain ⟨stored, hstored, h⟩ := Option.bind_eq_some_iff.mp h
  obtain ⟨m, hm, h⟩ := Option.bind_eq_some_iff.mp h
  cases h
  exact ⟨stored, m, hstored, hm, rfl⟩

/-- The windows have readable times, and share no minute. -/
theorem windows_of_validated (hvalid : shop.Validated) (h : shop.catalog.voucher voucherId = some v) :
    (∀ w ∈ v.availabilityWindows, w.Readable) ∧ Separate v.availabilityWindows := by
  obtain ⟨stored, m, hstored, -, rfl⟩ := catalog_eq_some h
  have hchecked := hvalid voucherId stored hstored
  by_cases htl : stored.type = .TIME_LIMITED
  · rw [htl] at hchecked
    obtain ⟨hread, hseparate⟩ := AvailabilityWindows.separate_of_ok hchecked
    exact ⟨fun w hw => (hread w hw).1, hseparate⟩
  · rw [AvailabilityWindows.validateAvailabilityWindows, Option.getD_some] at hchecked
    cases hw : stored.availabilityWindows with
    | nil =>
      exact ⟨List.forall_mem_nil _, fun v hv => absurd hv List.not_mem_nil⟩
    | cons w ws =>
      rw [hw] at hchecked
      simp only [if_pos htl] at hchecked
      cases hchecked

theorem ordered_perm (windows : List AvailabilityWindow) : (ordered windows).Perm windows := List.perm_insertionSort _ _

variable (now) in
theorem redeemedWindowAt_ok {windows : List AvailabilityWindow} (hr : ∀ w ∈ windows, w.Readable)
    (current : Option WindowOccurrence) (last : Option ℤ) : ∃ redeemed, redeemedWindowAt windows current last now = .ok redeemed := by
  obtain ⟨previous, hprevious⟩ := getMostRecentlyClosedWindowOccurrence_ok hr now
  cases last with
  | none => exact ⟨_, rfl⟩
  | some l =>
    cases current with
    | some occ => exact ⟨_, rfl⟩
    | none =>
      simp only [redeemedWindowAt, hprevious]
      exact ⟨_, rfl⟩

/-- What the screens show of the windows, from the windows as a redemption reads them. -/
structure Shown (v : Voucher) (last : Option ℤ) (now : ℤ) (p : TimeLimitedPayload) : Prop where
  timeLimited : v.type = .TIME_LIMITED → getCurrentWindowOccurrence v.availabilityWindows now = .ok p.currentWindow
  redeemed : v.type = .TIME_LIMITED → ∀ occ, p.currentWindow = some occ →
    (p.redeemedWindow = some occ ↔ ∃ l ∈ last, WindowOccurrence.Includes occ l)
  others : v.type ≠ .TIME_LIMITED → p = ⟨[], none, none, none⟩

variable (now) in
theorem computeTimeLimitedPayload_ok (hw : (∀ w ∈ v.availabilityWindows, w.Readable) ∧ Separate v.availabilityWindows)
    (last : Option ℤ) : ∃ p, computeTimeLimitedPayload v.type (ordered v.availabilityWindows) last now = .ok p ∧
      Shown v last now p := by
  rw [computeTimeLimitedPayload]
  split_ifs with htl
  · have hread : ∀ w ∈ ordered v.availabilityWindows, w.Readable := fun w hmem => hw.1 w ((ordered_perm _).subset hmem)
    have hsame := getCurrentWindowOccurrence_perm hw.1 hw.2 (ordered_perm v.availabilityWindows) now
    obtain ⟨current, hcurrent⟩ := getCurrentWindowOccurrence_ok hread now
    obtain ⟨next, hnext⟩ := getNextWindowOccurrence_ok hread now
    obtain ⟨redeemed, hredeemed⟩ := redeemedWindowAt_ok now hread current last
    rw [hcurrent, hnext]
    simp only [ok_bind, hredeemed]
    refine ⟨_, rfl, fun _ => hsame ▸ hcurrent, fun _ occ hocc => ?_, fun h => absurd htl h⟩
    dsimp only at hocc ⊢
    subst hocc
    cases last with
    | none =>
      cases hredeemed
      simp
    | some l =>
      by_cases hin : WindowOccurrence.Includes occ l <;>
        simp [redeemedWindowAt, hin] at hredeemed <;> simp [← hredeemed, hin]
  · exact ⟨_, rfl, fun h => absurd h htl, fun h => absurd h htl, fun _ => rfl⟩

/-! ### The screens -/

theorem findVoucher_of_shows (h : shop.Shows voucherId v now) : findVoucher shop voucherId = some v := by
  obtain ⟨stored, m, -, hm, hv⟩ := catalog_eq_some h.voucher
  have hmine : shop.merchants v.merchantId = some m := by rw [hv]; exact hm
  have hgenuine := h.genuine.2 m hmine
  rw [findVoucher, h.voucher]
  simp [hmine, h.genuine.1, hgenuine]

/-- The voucher's screen, from what it shows of the windows. -/
def detailOf (shop : Shop) (t : Tables) (userId voucherId : String) (now : ℤ) (v : Voucher) (windows : TimeLimitedPayload) :
    VoucherDetail where
  id := voucherId
  isRedeemedThisCycle :=
    if v.type = .TIME_LIMITED ∨ v.type = .REUSABLE then false else isRedeemedThisCycle shop t (some userId) now voucherId
  isFavourited := isFavourited shop (some userId) voucherId
  availableAgainAt :=
    if v.type = .REUSABLE then reusableAvailableAgainAt now (t.latestRedeemedAt (userId, voucherId)) v.cooldownSeconds
    else if v.type = .TIME_LIMITED then none
    else (cycleWindow shop (some userId) now).map CycleWindow.cycleEnd
  lastRedemption :=
    if v.type = .REUSABLE then reusableLastRedemption shop t (some userId) now voucherId
    else cycleLastRedemption shop t (some userId) now voucherId
  windows := windows
  effectiveCooldownSeconds := if v.type = .REUSABLE then some (effectiveCooldownSeconds v.cooldownSeconds) else none

theorem batchLast_of_mem {voucherIds : List String} (h : voucherId ∈ voucherIds) :
    batchLastRedemptionsByVoucher t (some userId) voucherIds voucherId = t.latestRedeemedAt (userId, voucherId) :=
  if_pos h

theorem getCustomerVoucher_eq (h : shop.Shows voucherId v now) {p : TimeLimitedPayload}
    (hp : computeTimeLimitedPayload v.type (ordered v.availabilityWindows) (t.latestRedeemedAt (userId, voucherId)) now =
      .ok p) : getCustomerVoucher shop t (some userId) now voucherId = .ok (detailOf shop t userId voucherId now v p) := by
  simp only [getCustomerVoucher, findVoucher_of_shows h, orElse_some, ok_bind, require_pos h.live.active,
    batchLast_of_mem (List.mem_singleton_self voucherId), hp]
  rfl

/-- The set of a merchant's redeemed vouchers, for one of them. -/
theorem mem_redeemedVoucherIdSet {voucherIds : List String} (h : voucherId ∈ voucherIds) :
    decide (voucherId ∈ redeemedVoucherIdSet shop t (some userId) now voucherIds) =
      isRedeemedThisCycle shop t (some userId) now voucherId := by
  cases hw : cycleWindow shop (some userId) now with
  | none => simp [redeemedVoucherIdSet, isRedeemedThisCycle, hw]
  | some window => simp [redeemedVoucherIdSet, isRedeemedThisCycle, hw, List.mem_filter, h]

/-- A card and the voucher's screen show the same. -/
structure Agrees (v : Voucher) (d : VoucherDetail) (card : VoucherCard) : Prop where
  redeemed : card.isRedeemedThisCycle = d.isRedeemedThisCycle
  favourited : card.isFavourited = d.isFavourited
  windows : card.windows = d.windows
  reusable : card.reusableState = if v.type = .REUSABLE then some d.availableAgainAt else none

theorem voucherCard_agrees {voucherIds : List String} (h : voucherId ∈ voucherIds) {card : VoucherCard}
    {p : TimeLimitedPayload}
    (hp : computeTimeLimitedPayload v.type (ordered v.availabilityWindows) (t.latestRedeemedAt (userId, voucherId)) now =
      .ok p)
    (hcard : voucherCard shop (some userId) now (redeemedVoucherIdSet shop t (some userId) now voucherIds)
      (batchLastRedemptionsByVoucher t (some userId) voucherIds) (voucherId, v) = .ok card) :
    Agrees v (detailOf shop t userId voucherId now v p) card := by
  simp only [voucherCard, batchLast_of_mem h, hp, ok_bind, mem_redeemedVoucherIdSet h] at hcard
  cases hcard
  refine ⟨rfl, rfl, rfl, ?_⟩
  by_cases hty : v.type = .REUSABLE
  · simp only [detailOf, if_pos hty]
  · simp only [if_neg hty]

theorem mem_merchantVouchers {merchantId : String} {entry : String × Voucher} :
    entry ∈ merchantVouchers shop merchantId ↔ entry.1 ∈ shop.voucherIds ∧ shop.catalog.voucher entry.1 = some entry.2 ∧
      entry.2.merchantId = merchantId ∧ entry.2.status = .ACTIVE ∧ entry.2.approvalStatus = .APPROVED ∧
        shop.isTestData entry.1 = false := by
  rw [merchantVouchers, List.mem_filterMap]
  constructor
  · rintro ⟨id, hid, h⟩
    obtain ⟨v, hv, rfl⟩ := Option.map_eq_some_iff.mp h
    obtain ⟨hv, hkept⟩ := Option.filter_eq_some_iff.mp hv
    exact ⟨hid, hv, of_decide_eq_true hkept⟩
  · rintro ⟨hid, hv, hkept⟩
    exact ⟨entry.1, hid, Option.map_eq_some_iff.mpr
      ⟨entry.2, Option.filter_eq_some_iff.mpr ⟨hv, decide_eq_true hkept⟩, rfl⟩⟩

/-- The merchant's page has a card for the voucher, and every card of it agrees with its screen. -/
theorem getCustomerMerchantVouchers_ok (hvalid : shop.Validated) (h : shop.Shows voucherId v now) {p : TimeLimitedPayload}
    (hp : computeTimeLimitedPayload v.type (ordered v.availabilityWindows) (t.latestRedeemedAt (userId, voucherId)) now =
      .ok p) : ∃ cards, getCustomerMerchantVouchers shop t (some userId) now v.merchantId = .ok cards ∧
      (∃ card ∈ cards, card.id = voucherId) ∧
      ∀ card ∈ cards, card.id = voucherId → Agrees v (detailOf shop t userId voucherId now v p) card := by
  obtain ⟨stored, m, -, hm, hv⟩ := catalog_eq_some h.voucher
  have hmerchant : (shop.merchants v.merchantId).filter (fun m => m.isTestData = false) = some m := by
    have hmine : shop.merchants v.merchantId = some m := by rw [hv]; exact hm
    exact Option.filter_eq_some_iff.mpr ⟨hmine, decide_eq_true (h.genuine.2 m hmine)⟩
  have hactive : m.status = .ACTIVE := by
    have hstatus := h.live.active.2.2
    rw [hv] at hstatus
    exact hstatus
  have hlisted : (voucherId, v) ∈ merchantVouchers shop v.merchantId :=
    mem_merchantVouchers.mpr ⟨h.listed, h.voucher, rfl, h.live.active.1, h.live.active.2.1, h.genuine.1⟩
  have heach : ∀ entry ∈ merchantVouchers shop v.merchantId, ∃ card, voucherCard shop (some userId) now
      (redeemedVoucherIdSet shop t (some userId) now ((merchantVouchers shop v.merchantId).map Prod.fst))
      (batchLastRedemptionsByVoucher t (some userId) ((merchantVouchers shop v.merchantId).map Prod.fst)) entry =
        .ok card := by
    intro entry hentry
    have hwindows := windows_of_validated hvalid (mem_merchantVouchers.mp hentry).2.1
    obtain ⟨q, hq, -⟩ := computeTimeLimitedPayload_ok now hwindows (batchLastRedemptionsByVoucher t (some userId)
      ((merchantVouchers shop v.merchantId).map Prod.fst) entry.1)
    simp only [voucherCard, hq, ok_bind]
    exact ⟨_, rfl⟩
  obtain ⟨cards, hcards, hall⟩ := mapM_ok heach
  refine ⟨cards, ?_, ?_, fun card hcard hid => ?_⟩
  · simp only [getCustomerMerchantVouchers, hmerchant, orElse_some, ok_bind, require_pos hactive, hcards]
    rfl
  · obtain ⟨card, hcard, hmade⟩ := hall _ hlisted
    obtain ⟨q, -, hq⟩ := bind_ok_iff.mp hmade
    cases hq
    exact ⟨_, hcard, rfl⟩
  · obtain ⟨entry, hentry, hmade⟩ := mem_of_mapM hcards card hcard
    have hsame : entry = (voucherId, v) := by
      obtain ⟨q, -, hq⟩ := bind_ok_iff.mp hmade
      cases hq
      have hv' := (mem_merchantVouchers.mp hentry).2.1
      rw [show entry.1 = voucherId from hid, h.voucher] at hv'
      exact Prod.ext hid (Option.some.inj hv').symm
    have hmem : voucherId ∈ (merchantVouchers shop v.merchantId).map Prod.fst := List.mem_map.mpr ⟨_, hlisted, rfl⟩
    rw [hsame] at hmade
    exact voucherCard_agrees hmem hp hmade

theorem cycleWindow_eq (hs : Subscribed shop.catalog userId sub) :
    cycleWindow shop (some userId) now = some (getCurrentCycleWindow sub.cycleAnchorDate now) := by
  have hsub : shop.cat.subscription userId = some sub := hs.subscription
  simp [cycleWindow, hsub, hs.status]

/-- The flag on the screen is the one that the guard reads. -/
theorem isRedeemedThisCycle_iff (hs : Subscribed shop.catalog userId sub) :
    isRedeemedThisCycle shop t (some userId) now voucherId = true ↔ ∃ state ∈ t.cycleStates (userId, voucherId),
      (getCurrentCycleWindow sub.cycleAnchorDate now).cycleStart ≤ state.cycleStartDate ∧
        state.isRedeemedInCurrentCycle = true := by
  rw [isRedeemedThisCycle, cycleWindow_eq hs, Option.any_some, Option.any_some]
  cases t.cycleStates (userId, voucherId) with
  | none => simp
  | some state => simp [and_comm]

theorem findLatest_isSome {pair : Pair} {p : ℤ → Bool} (h : ∃ r ∈ t.redemptionsOf pair, p r.redeemedAt = true) :
    (findLatest t pair p).isSome = true := by
  obtain ⟨r, hr, hp⟩ := h
  have hmem : r ∈ ((t.redemptionsOf pair).filter fun r => p r.redeemedAt).insertionSort fun a b =>
      b.redeemedAt ≤ a.redeemedAt := (List.mem_insertionSort _).mpr (List.mem_filter.mpr ⟨hr, hp⟩)
  rw [findLatest, Option.isSome_map, Option.isSome_iff_ne_none, ne_eq, List.head?_eq_none_iff]
  exact List.ne_nil_of_mem hmem

/-- What a screen says of the voucher, against what a redemption at the branch would end in. -/
structure Truthful (cat : Catalog) (t : Tables) (userId voucherId branchId : String) (now : ℤ) (v : Voucher)
    (d : VoucherDetail) : Prop where
  redeemed : d.isRedeemedThisCycle = true ↔ Refuses cat t userId voucherId branchId now .ALREADY_REDEEMED
  outside : (v.type = .TIME_LIMITED ∧ d.windows.currentWindow = none) ↔
    ∃ next, Refuses cat t userId voucherId branchId now (.VOUCHER_OUTSIDE_AVAILABILITY_WINDOW next)
  used : ∀ occ, d.windows.currentWindow = some occ → d.windows.redeemedWindow = some occ →
    ∃ next, Refuses cat t userId voucherId branchId now (.ALREADY_REDEEMED_THIS_WINDOW next)
  unused : ∀ next, Refuses cat t userId voucherId branchId now (.ALREADY_REDEEMED_THIS_WINDOW next) →
    ∃ occ, d.windows.currentWindow = some occ ∧ ((∀ last ∈ t.latestRedeemedAt (userId, voucherId), last < occ.endsAt) →
      d.windows.redeemedWindow = some occ)
  cooldown : ∀ instant, (v.type = .REUSABLE ∧ d.availableAgainAt = some instant) ↔
    Refuses cat t userId voucherId branchId now (.REUSABLE_COOLDOWN_ACTIVE instant)
  last : d.isRedeemedThisCycle = true → d.lastRedemption.isSome = true

section
variable {branchId : String} {b : Branch} {p : TimeLimitedPayload} {now : ℕ}

/-- A flag on the screen comes with the redemption that set it. -/
theorem lastRedemption_isSome (hreach : Reachable now t) (hs : Subscribed shop.catalog userId sub)
    (h : isRedeemedThisCycle shop t (some userId) now voucherId = true) :
    (cycleLastRedemption shop t (some userId) now voucherId).isSome = true := by
  obtain ⟨state, hstate, hstart, hflag⟩ := (isRedeemedThisCycle_iff hs).mp h
  obtain ⟨r, hr, hle⟩ := hreach.backed.flagged (userId, voucherId) state hstate hflag
  have hpast := hreach.backed.past r (List.mem_of_mem_filter hr)
  have hcontains := cycleWindow_contains sub.cycleAnchorDate (Int.natCast_nonneg now)
  have hfound : (findLatest t (userId, voucherId) fun redeemedAt =>
      decide ((getCurrentCycleWindow sub.cycleAnchorDate now).cycleStart ≤ redeemedAt) &&
        decide (redeemedAt < (getCurrentCycleWindow sub.cycleAnchorDate now).cycleEnd)).isSome = true :=
    findLatest_isSome ⟨r, hr, by simpa using ⟨hstart.trans hle, hpast.trans_lt hcontains.2⟩⟩
  simp only [cycleLastRedemption, cycleWindow_eq hs, h]
  exact hfound

variable (h : shop.Shows voucherId v now) (hw : ∀ w ∈ v.availabilityWindows, w.Readable)
  (hs : Subscribed shop.catalog userId sub) (hb : Serves shop.catalog branchId v b)
  (hp : Shown v (t.latestRedeemedAt (userId, voucherId)) now p)
include h hw hs hb

theorem shown_refuses_iff (e : AppError) (he : e ≠ .PIN_NOT_CONFIGURED) :
    Refuses shop.catalog t userId voucherId branchId now e ↔
      Reason v t (userId, voucherId) (getCurrentCycleWindow sub.cycleAnchorDate now).cycleStart now e :=
  refuses_iff_reason h.voucher h.live hs hb hw he

theorem redeemed_iff : (detailOf shop t userId voucherId now v p).isRedeemedThisCycle = true ↔
    Refuses shop.catalog t userId voucherId branchId now .ALREADY_REDEEMED := by
  rw [shown_refuses_iff h hw hs hb .ALREADY_REDEEMED nofun]
  constructor
  · intro hredeemed
    have hcycle : IsCycleType v.type := by
      by_contra hno
      simp only [detailOf] at hredeemed
      split_ifs at hredeemed with hty
      exact hno (not_or.mp hty)
    rw [detailOf, if_neg (not_or.mpr hcycle), isRedeemedThisCycle_iff hs] at hredeemed
    obtain ⟨state, hstate, hflag⟩ := hredeemed
    exact .redeemed hcycle hstate hflag
  · intro hr
    cases hr with
    | redeemed hcycle hstate hflag =>
      rw [detailOf, if_neg (not_or.mpr hcycle), isRedeemedThisCycle_iff hs]
      exact ⟨_, hstate, hflag⟩

include hp in
theorem outside_iff : (v.type = .TIME_LIMITED ∧ p.currentWindow = none) ↔
    ∃ next, Refuses shop.catalog t userId voucherId branchId now (.VOUCHER_OUTSIDE_AVAILABILITY_WINDOW next) := by
  constructor
  · rintro ⟨htl, hnone⟩
    have hcurrent := hp.timeLimited htl
    rw [hnone] at hcurrent
    rcases openWindow_timeLimited_eq now htl hw with ⟨occ, hocc, -⟩ | ⟨-, next, hopen⟩
    · cases hcurrent.symm.trans hocc
    · exact ⟨next, (shown_refuses_iff h hw hs hb (.VOUCHER_OUTSIDE_AVAILABILITY_WINDOW next) nofun).mpr (.outside htl hcurrent hopen)⟩
  · rintro ⟨next, hrefused⟩
    cases (shown_refuses_iff h hw hs hb (.VOUCHER_OUTSIDE_AVAILABILITY_WINDOW next) nofun).mp hrefused with
    | outside htl hcurrent hopen => exact ⟨htl, Except.ok.inj ((hp.timeLimited htl).symm.trans hcurrent)⟩

include hp in
theorem refuses_of_redeemedWindow {occ : WindowOccurrence} (hocc : p.currentWindow = some occ)
    (hredeemed : p.redeemedWindow = some occ) :
    ∃ next, Refuses shop.catalog t userId voucherId branchId now (.ALREADY_REDEEMED_THIS_WINDOW next) := by
  have htl : v.type = .TIME_LIMITED := by
    by_contra hother
    rw [hp.others hother] at hocc
    cases hocc
  obtain ⟨l, hl, hin⟩ := (hp.redeemed htl occ hocc).mp hredeemed
  have hused : ¬ Unused t (userId, voucherId) occ := by
    intro hunused
    rw [Option.mem_def, Tables.latestRedeemedAt, List.max?_eq_some_iff, List.mem_map] at hl
    obtain ⟨⟨r, hr, rfl⟩, -⟩ := hl
    exact hunused r hr hin
  have hcurrent := hp.timeLimited htl
  rw [hocc] at hcurrent
  rcases windowGuard_cases t now (userId, voucherId) occ hw with ⟨hunused, -⟩ | ⟨-, next, hguard⟩
  · exact absurd hunused hused
  · exact ⟨next, (shown_refuses_iff h hw hs hb (.ALREADY_REDEEMED_THIS_WINDOW next)
      (by rintro ⟨⟩)).mpr (.used htl hcurrent hused hguard)⟩

include hp in
theorem redeemedWindow_of_refuses {next : Option ℤ}
    (hrefused : Refuses shop.catalog t userId voucherId branchId now (.ALREADY_REDEEMED_THIS_WINDOW next)) :
    ∃ occ, p.currentWindow = some occ ∧ ((∀ last ∈ t.latestRedeemedAt (userId, voucherId), last < occ.endsAt) →
      p.redeemedWindow = some occ) := by
  cases (shown_refuses_iff h hw hs hb (.ALREADY_REDEEMED_THIS_WINDOW next) nofun).mp hrefused with
  | @used occ _ htl hcurrent hused hguard =>
    have hocc : p.currentWindow = some occ := Except.ok.inj ((hp.timeLimited htl).symm.trans hcurrent)
    refine ⟨occ, hocc, fun hbefore => (hp.redeemed htl occ hocc).mpr ?_⟩
    -- The latest redemption is no earlier than the one in the window.
    obtain ⟨r, hr, hin⟩ : ∃ r ∈ t.redemptionsOf (userId, voucherId), occ.startsAt ≤ r.redeemedAt ∧
        r.redeemedAt < occ.endsAt := by
      by_contra hno
      exact hused fun r hr hin => hno ⟨r, hr, hin⟩
    cases hlatest : t.latestRedeemedAt (userId, voucherId) with
    | none =>
      rw [Tables.latestRedeemedAt_eq_none_iff] at hlatest
      rw [hlatest] at hr
      cases hr
    | some last =>
      have hle := Tables.le_latestRedeemedAt hlatest r hr
      exact ⟨last, rfl, hin.1.trans hle, hbefore last hlatest⟩

theorem cooldown_iff (instant : ℤ) :
    (v.type = .REUSABLE ∧ (detailOf shop t userId voucherId now v p).availableAgainAt = some instant) ↔
      Refuses shop.catalog t userId voucherId branchId now (.REUSABLE_COOLDOWN_ACTIVE instant) := by
  rw [shown_refuses_iff h hw hs hb (.REUSABLE_COOLDOWN_ACTIVE instant) nofun]
  constructor
  · rintro ⟨hty, hinstant⟩
    rw [detailOf, if_pos hty, reusableAvailableAgainAt] at hinstant
    obtain ⟨hinstant, hlt⟩ := Option.filter_eq_some_iff.mp hinstant
    obtain ⟨redeemedAt, hlatest, rfl⟩ := Option.map_eq_some_iff.mp hinstant
    exact .cooldown hty hlatest (of_decide_eq_true hlt)
  · intro hr
    cases hr with
    | cooldown hty hlatest hlt =>
      refine ⟨hty, ?_⟩
      rw [detailOf, if_pos hty, reusableAvailableAgainAt]
      exact Option.filter_eq_some_iff.mpr ⟨Option.map_eq_some_iff.mpr ⟨_, hlatest, rfl⟩, decide_eq_true hlt⟩

end

/-- The screens of a live voucher, for a subscriber, after any history. -/
theorem screens_truthful {now : ℕ} (hreach : Reachable now t) (hvalid : shop.Validated)
    (h : shop.Shows voucherId v now) (hs : Subscribed shop.catalog userId sub) :
    ∃ d cards, getCustomerVoucher shop t (some userId) now voucherId = .ok d ∧
      getCustomerMerchantVouchers shop t (some userId) now v.merchantId = .ok cards ∧
      (∃ card ∈ cards, card.id = voucherId) ∧ (∀ card ∈ cards, card.id = voucherId → Agrees v d card) ∧
      ∀ branchId b, Serves shop.catalog branchId v b → Truthful shop.catalog t userId voucherId branchId now v d := by
  have hw := windows_of_validated hvalid h.voucher
  obtain ⟨p, hp, hshown⟩ := computeTimeLimitedPayload_ok now hw (t.latestRedeemedAt (userId, voucherId))
  obtain ⟨cards, hcards, hcard, hagrees⟩ := getCustomerMerchantVouchers_ok hvalid h hp
  refine ⟨_, cards, getCustomerVoucher_eq h hp, hcards, hcard, hagrees, fun branchId b hb => ?_⟩
  refine ⟨redeemed_iff h hw.1 hs hb, outside_iff h hw.1 hs hb hshown,
    fun occ => refuses_of_redeemedWindow h hw.1 hs hb hshown, fun next => redeemedWindow_of_refuses h hw.1 hs hb hshown,
    cooldown_iff h hw.1 hs hb, fun hredeemed => ?_⟩
  rw [detailOf] at hredeemed ⊢
  dsimp only at hredeemed ⊢
  split_ifs at hredeemed with hty
  rw [if_neg fun h => hty (.inr h)]
  exact lastRedemption_isSome hreach hs hredeemed

end

/-! ### The hour that comes twice -/

/-- A voucher for the small hours of a Sunday. -/
def night : Voucher :=
  ⟨.ACTIVE, .APPROVED, .TIME_LIMITED, none, 5, none, "merchant", .ACTIVE, [⟨0, "01:00", "01:30"⟩, ⟨0, "01:30", "01:45"⟩]⟩

def coffee : Voucher := ⟨.ACTIVE, .APPROVED, .BOGO, none, 5, none, "merchant", .ACTIVE, []⟩

def cafe : Shop where
  cat :=
    { voucher := fun id => if id = "night" then some night else some coffee
      branch := fun _ => some ⟨"merchant", true, .LIVE, some "1234"⟩
      subscription := fun _ => some ⟨.ACTIVE, 0⟩
      phoneVerified := fun _ => some true }
  merchants _ := some ⟨.ACTIVE, false⟩
  voucherIds := ["night", "coffee"]
  isTestData _ := false
  favourites := []

theorem validated_cafe : cafe.Validated := by
  intro id v hv
  have hcases : v = night ∨ v = coffee := by
    simp only [cafe] at hv
    split_ifs at hv <;> cases hv
    · exact .inl rfl
    · exact .inr rfl
  rcases hcases with rfl | rfl <;> decide

theorem shows_night (now : ℤ) : cafe.Shows "night" night now := by
  refine ⟨rfl, ⟨⟨rfl, rfl, rfl⟩, nofun⟩, by decide, rfl, ?_⟩
  intro m hm
  cases hm
  rfl

theorem shows_coffee (now : ℤ) : cafe.Shows "coffee" coffee now := by
  refine ⟨rfl, ⟨⟨rfl, rfl, rfl⟩, nofun⟩, by decide, rfl, ?_⟩
  intro m hm
  cases hm
  rfl

theorem subscribed_cafe : Subscribed cafe.catalog "ann" ⟨.ACTIVE, 0⟩ := ⟨rfl, .inl rfl, rfl⟩

theorem serves_cafe {v : Voucher} (h : v.merchantId = "merchant") :
    Serves cafe.catalog "branch" v ⟨"merchant", true, .LIVE, some "1234"⟩ := ⟨rfl, ⟨rfl, by decide⟩, h.symm⟩

/-- On the last Sunday of October 2026, so many minutes after one o'clock by summer time. -/
def afterOne (minutes : ℕ) : ℕ := 1792886400000 + minutes * 60000

/-- Ten minutes past one, by summer time and again by winter time. -/
theorem window_afterOne : Dates.dateUTC 2026 9 25 = afterOne 0 ∧
    getCurrentWindowOccurrence night.availabilityWindows (afterOne 10) = .ok (some ⟨afterOne 0, afterOne 30⟩) ∧
    getCurrentWindowOccurrence night.availabilityWindows (afterOne 35) = .ok (some ⟨afterOne 30, afterOne 45⟩) ∧
    getCurrentWindowOccurrence night.availabilityWindows (afterOne 70) = .ok (some ⟨afterOne 0, afterOne 30⟩) := by
  decide

theorem entitled_ann : Entitled cafe.catalog "ann" "branch" night where
  subscription := ⟨_, rfl, .inl rfl⟩
  phone := rfl
  branch := ⟨_, _, rfl, ⟨rfl, by decide⟩, rfl, rfl, by decide⟩

/-- A redemption of the voucher in a window that is not used yet. -/
theorem night_redeemed (t : Tables) (code : String) {now minutes : ℕ} {occ : WindowOccurrence} (hle : afterOne minutes ≤ now)
    (hocc : getCurrentWindowOccurrence night.availabilityWindows (afterOne minutes) = .ok (some occ))
    (hunused : Unused t ("ann", "night") occ) (hcode : ¬ CodeTaken t code)
    (hkey : ¬ KeyTaken t ("ann", "night") (some occ.startsAt)) : ∃ t', Step now t t' ∧ t'.redemptions =
      redemptionData ("ann", "night") (some occ.startsAt) ⟨afterOne minutes, "branch", code, 5⟩ :: t.redemptions := by
  have hpasses : ∃ el, eligibility cafe.catalog t "ann" "night" "branch" (afterOne minutes) = .ok el :=
    (eligible_iff entitled_ann rfl rfl).mpr ⟨(shows_night _).live, occ, hocc, hunused⟩
  obtain ⟨el, hel⟩ := hpasses
  have heligible := eligibility_ok hel
  have hvoucher : el.voucher = night := (Option.some.inj heligible.voucher).symm
  have hstarts : el.timeLimitedWindowStartsAt = some occ.startsAt := by
    have hguard := heligible.guard
    rw [TypeGuard, hvoucher] at hguard
    obtain ⟨occ', hocc', hstarts, -⟩ := hguard
    cases hocc.symm.trans hocc'
    exact hstarts
  rw [← hstarts] at hkey
  obtain ⟨t', hclaim, hrows⟩ := claim_ok (c := ⟨afterOne minutes, "branch", code, 5⟩) heligible.guard hcode hkey
  rw [hstarts] at hrows
  refine ⟨t', @Step.claim now cafe.catalog t t t' "ann" "night" "branch" el ⟨afterOne minutes, "branch", code, 5⟩ hel ?_
    hclaim, hrows⟩
  exact Int.ofNat_le.mpr hle

/-- Redeemed in both windows by summer time. -/
theorem reachable_twice : ∃ t, Reachable (afterOne 70) t ∧ t.redemptions =
    [redemptionData ("ann", "night") (some (afterOne 30)) ⟨afterOne 35, "branch", "BBBB", 5⟩,
      redemptionData ("ann", "night") (some (afterOne 0)) ⟨afterOne 10, "branch", "AAAA", 5⟩] := by
  obtain ⟨-, hten, hthirtyFive, -⟩ := window_afterOne
  have afterOne_le : afterOne 10 ≤ afterOne 70 := by decide
  have afterOne_le' : afterOne 35 ≤ afterOne 70 := by decide
  have hfree : ¬ CodeTaken hungry "AAAA" := by
    rintro ⟨r, hr, -⟩
    cases hr
  have hfirst : ¬ KeyTaken hungry ("ann", "night") (some (afterOne 0 : ℤ)) := by
    rintro ⟨-, r, hr, -⟩
    cases hr
  obtain ⟨t₁, hstep₁, hrows₁⟩ := night_redeemed hungry "AAAA" afterOne_le hten unused_hungry hfree hfirst
  have hcode : ¬ CodeTaken t₁ "BBBB" := by
    rw [CodeTaken, hrows₁]
    decide
  have hkey : ¬ KeyTaken t₁ ("ann", "night") (some (afterOne 30 : ℤ)) := by
    rw [KeyTaken, Tables.redemptionsOf, hrows₁]
    decide
  have hunused : Unused t₁ ("ann", "night") ⟨afterOne 30, afterOne 45⟩ := by
    rw [Unused, Tables.redemptionsOf, hrows₁]
    decide
  obtain ⟨t₂, hstep₂, hrows₂⟩ := night_redeemed t₁ "BBBB" afterOne_le' hthirtyFive hunused hcode hkey
  rw [hrows₁] at hrows₂
  exact ⟨t₂, .tail (.single hstep₁) hstep₂, hrows₂⟩

theorem screens_truthful_night : ∃ t d cards, Reachable (afterOne 70) t ∧
    getCustomerVoucher cafe t (some "ann") (afterOne 70) "night" = .ok d ∧
    getCustomerMerchantVouchers cafe t (some "ann") (afterOne 70) "merchant" = .ok cards ∧
    (∃ card ∈ cards, card.id = "night") ∧ (∀ card ∈ cards, card.id = "night" → Agrees night d card) ∧
    ∀ branchId b, Serves cafe.catalog branchId night b →
      Truthful cafe.catalog t "ann" "night" branchId (afterOne 70) night d := by
  obtain ⟨t, hreach, -⟩ := reachable_twice
  obtain ⟨d, cards, hall⟩ := screens_truthful hreach validated_cafe (shows_night _) subscribed_cafe
  exact ⟨t, d, cards, hreach, hall⟩

/-- A coffee has no window, and is not refused for that. At ten past one by winter time, the first of the windows is
    current again and the guard finds the redemption in it; the screen finds only the later one. -/
theorem windows_mislead :
    (∃ d, getCustomerVoucher cafe hungry (some "ann") (afterOne 70) "coffee" = .ok d ∧ d.windows.currentWindow = none ∧
      d.windows.redeemedWindow = d.windows.currentWindow ∧
      ∀ next, ¬ Refuses cafe.catalog hungry "ann" "coffee" "branch" (afterOne 70) (.VOUCHER_OUTSIDE_AVAILABILITY_WINDOW next) ∧
        ¬ Refuses cafe.catalog hungry "ann" "coffee" "branch" (afterOne 70) (.ALREADY_REDEEMED_THIS_WINDOW next)) ∧
    ∃ t d next, Reachable (afterOne 70) t ∧ getCustomerVoucher cafe t (some "ann") (afterOne 70) "night" = .ok d ∧
      d.windows.currentWindow = some ⟨afterOne 0, afterOne 30⟩ ∧ d.windows.redeemedWindow ≠ d.windows.currentWindow ∧
      Refuses cafe.catalog t "ann" "night" "branch" (afterOne 70) (.ALREADY_REDEEMED_THIS_WINDOW next) := by
  constructor
  · have hp : computeTimeLimitedPayload coffee.type (ordered coffee.availabilityWindows)
        (hungry.latestRedeemedAt ("ann", "coffee")) (afterOne 70) = .ok ⟨[], none, none, none⟩ := rfl
    have hno : ∀ e, e ≠ .PIN_NOT_CONFIGURED → Refuses cafe.catalog hungry "ann" "coffee" "branch" (afterOne 70) e →
        Reason coffee hungry ("ann", "coffee") (getCurrentCycleWindow 0 (afterOne 70)).cycleStart (afterOne 70) e :=
      fun e he => (refuses_iff_reason (shows_coffee (afterOne 70)).voucher (shows_coffee (afterOne 70)).live subscribed_cafe (serves_cafe rfl)
        nofun he).mp
    refine ⟨_, getCustomerVoucher_eq (shows_coffee _) hp, rfl, rfl, fun next => ⟨fun h => ?_, fun h => ?_⟩⟩
    · cases hno (.VOUCHER_OUTSIDE_AVAILABILITY_WINDOW next) nofun h with
      | outside htl => cases htl
    · cases hno (.ALREADY_REDEEMED_THIS_WINDOW next) nofun h with
      | used htl => cases htl
  · obtain ⟨t, hreach, hrows⟩ := reachable_twice
    have hwindow := window_afterOne.2.2.2
    have hw := windows_of_validated validated_cafe (shows_night (afterOne 70)).voucher
    obtain ⟨p, hp, hshown⟩ := computeTimeLimitedPayload_ok (afterOne 70) hw (t.latestRedeemedAt ("ann", "night"))
    have hcurrent : p.currentWindow = some ⟨afterOne 0, afterOne 30⟩ :=
      Except.ok.inj ((hshown.timeLimited rfl).symm.trans hwindow)
    have hlatest : t.latestRedeemedAt ("ann", "night") = some (afterOne 35 : ℤ) := by
      rw [Tables.latestRedeemedAt, Tables.redemptionsOf, hrows]
      decide
    have hused : ¬ Unused t ("ann", "night") ⟨afterOne 0, afterOne 30⟩ := by
      rw [Unused, Tables.redemptionsOf, hrows]
      decide
    rcases windowGuard_cases t (afterOne 70) ("ann", "night") ⟨afterOne 0, afterOne 30⟩ hw.1 with
      ⟨hunused, -⟩ | ⟨-, next, hguard⟩
    · exact absurd hunused hused
    · refine ⟨t, _, next, hreach, getCustomerVoucher_eq (shows_night _) hp, hcurrent, fun hsame => ?_, ?_⟩
      · obtain ⟨l, hl, hin⟩ := (hshown.redeemed rfl _ hcurrent).mp (hsame.trans hcurrent)
        cases hlatest.symm.trans hl
        exact absurd hin (by decide)
      · have he : AppError.ALREADY_REDEEMED_THIS_WINDOW next ≠ .PIN_NOT_CONFIGURED := nofun
        exact (refuses_iff_reason (shows_night (afterOne 70)).voucher (shows_night _).live subscribed_cafe
          (serves_cafe rfl) hw.1 he).mpr (.used rfl hwindow hused hguard)

end Redeemo.VoucherScreens
