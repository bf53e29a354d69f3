import Redeemo.Lib.Rows
import Redeemo.Redemption.Claims
import Redeemo.Redemption.Verify

/-! Redemptions of a cycle voucher while its merchant is suspended and reactivated.

    Calls run one after the other. A suspension gives the cycle back to a customer whose code has not been
    validated: it clears the flag of the cycle state, and the row with its code stays. While the merchant is
    suspended the code is refused; once it is reactivated the code is as good as before, and the voucher can
    be redeemed again.

    A redemption owns the cycle while it is the newest of its user and voucher and the flag is set (`Owns`).
    As long as only owners are validated, and no suspension gives back a cycle that has been used, one
    redemption at most is validated in a window. -/

namespace Redeemo.Suspension
open CycleWindows Redemption Runs Fallible Rows
open Verify (Verification Included verifyChecks findByCode validated)

/-! ### The tables and the calls -/

structure Merchant where
  status : MerchantStatus
  onboardingStep : OnboardingStep

/-- What the calls read and write; everything else is in a `Catalog`. -/
structure Db where
  merchants : String → Option Merchant
  world : World

def Db.tables (db : Db) : Tables := db.world.tables

/-- The catalog with the merchants as they are now. -/
def Db.catalog (db : Db) (cat : Catalog) : Catalog :=
  { cat with voucher := fun voucherId => do
      let voucher ← cat.voucher voucherId
      let merchant ← db.merchants voucher.merchantId
      return { voucher with merchantStatus := merchant.status } }

def Db.setMerchant (db : Db) (merchantId : String) (merchant : Merchant) : Db :=
  { db with merchants := Function.update db.merchants merchantId (some merchant) }

/-- The user and the voucher of a row. -/
def pairOf (r : VoucherRedemption) : Pair := (r.userId, r.voucherId)

/-- The row's voucher, its merchant and the branch, which foreign keys keep in place. -/
def Db.included (db : Db) (cat : Catalog) (row : VoucherRedemption) : Option Included := do
  let voucher ← (db.catalog cat).voucher row.voucherId
  let branch ← cat.branch row.branchId
  return ⟨voucher.merchantId, voucher.merchantStatus, branch.isActive⟩

/-- The row that `verifyRedemption` is going to update, once it is let through. -/
def checkVerification (cat : Catalog) (db : Db) (call : Verification) : Except AppError VoucherRedemption := do
  let row ← orReject (findByCode db.tables call.code) .REDEMPTION_NOT_FOUND
  let inc ← orReject (db.included cat row) .REDEMPTION_NOT_FOUND
  verifyChecks row inc call
  return row

def verifyRedemption (cat : Catalog) (db : Db) (call : Verification) (now : ℤ) : Except AppError Db := do
  let _ ← checkVerification cat db call
  return { db with world := { db.world with tables := Verify.update db.tables call now } }

/-- A voucher of the merchant whose redemptions go through the cycle state. -/
def inSweep (cat : Catalog) (merchantId voucherId : String) : Bool :=
  (cat.voucher voucherId).any fun voucher =>
    voucher.merchantId = merchantId ∧ voucher.type ∉ [VoucherType.TIME_LIMITED, VoucherType.REUSABLE]

def inflight (cat : Catalog) (t : Tables) (merchantId : String) : List VoucherRedemption :=
  t.redemptions.filter fun r => r.isValidated = false ∧ inSweep cat merchantId r.voucherId = true

/-- No redemption of the same user and voucher is newer. -/
def Latest (t : Tables) (r : VoucherRedemption) : Prop :=
  ∀ s ∈ t.redemptionsOf (pairOf r), ¬ r.redeemedAt < s.redeemedAt

instance (t : Tables) (r : VoucherRedemption) : Decidable (Latest t r) :=
  inferInstanceAs (Decidable (∀ s ∈ t.redemptionsOf (pairOf r), ¬ r.redeemedAt < s.redeemedAt))

def clearFlag (c : CycleState) : CycleState :=
  if c.isRedeemedInCurrentCycle = true then { c with isRedeemedInCurrentCycle := false } else c

/-- The flag of the redemption's user and voucher, if the redemption is the latest. -/
def refundCycle (t : Tables) (r : VoucherRedemption) : Tables :=
  if Latest t r then
    { t with cycleStates := Function.update t.cycleStates (pairOf r) ((t.cycleStates (pairOf r)).map clearFlag) }
  else t

/-- The sweep, as far as it gets: it may fail after any of the rows. -/
def refundInflightCycles (cat : Catalog) (t : Tables) (merchantId : String) (reached : ℕ) : Tables :=
  ((inflight cat t merchantId).take reached).foldl refundCycle t

def suspendMerchant (cat : Catalog) (db : Db) (merchantId : String) (reached : ℕ) : Except AppError Db := do
  let merchant ← orReject (db.merchants merchantId) .MERCHANT_NOT_FOUND
  if merchant.status = .SUSPENDED then return db
  let db := db.setMerchant merchantId ⟨.SUSPENDED, .SUSPENDED⟩
  return { db with world :=
    { db.world with tables := refundInflightCycles cat db.tables merchantId reached } }

def reactivateMerchant (db : Db) (merchantId : String) : Except AppError Db := do
  let merchant ← orReject (db.merchants merchantId) .MERCHANT_NOT_FOUND
  if merchant.status = .ACTIVE then return db
  rejectIf (merchant.status ≠ .SUSPENDED) .MERCHANT_NOT_SUSPENDED
  return db.setMerchant merchantId ⟨.ACTIVE, .LIVE⟩

inductive Operation
  /-- With the code that is drawn. -/
  | createRedemption (redemptionCode userId : String) (data : Request) (now : ℕ)
  | verifyRedemption (call : Verification) (now : ℤ)
  | suspendMerchant (merchantId : String) (reached : ℕ)
  | reactivateMerchant (merchantId : String)

/-- A call; one that fails changes nothing but the counters of wrong PINs. -/
def perform (cat : Catalog) (decrypt : String → Except DecryptFault String) (db : Db) : Operation → Db
  | .createRedemption redemptionCode userId data now =>
    { db with world :=
      (Redemption.createRedemption (db.catalog cat) decrypt redemptionCode userId data now db.world).2 }
  | .verifyRedemption call now => (verifyRedemption cat db call now).toOption.getD db
  | .suspendMerchant merchantId reached => (suspendMerchant cat db merchantId reached).toOption.getD db
  | .reactivateMerchant merchantId => (reactivateMerchant db merchantId).toOption.getD db

def step (cat : Catalog) (decrypt : String → Except DecryptFault String) (db : Db) (operation : Operation) :
    Option Db :=
  some (perform cat decrypt db operation)

/-! ### The property -/

/-- How many of the redemptions of a user and a voucher are validated. -/
def honoured (t : Tables) (pair : Pair) : ℕ := (t.redemptionsOf pair).countP fun r => r.isValidated

/-- The redemption is the newest of its user and voucher, and has the cycle. -/
def Owns (t : Tables) (pair : Pair) (r : VoucherRedemption) : Prop :=
  (t.redemptionsOf pair).head? = some r ∧ ∃ c ∈ t.cycleStates pair, c.isRedeemedInCurrentCycle = true

instance (t : Tables) (pair : Pair) (r : VoucherRedemption) : Decidable (Owns t pair r) :=
  inferInstanceAs (Decidable (_ ∧ ∃ c ∈ t.cycleStates pair, c.isRedeemedInCurrentCycle = true))

/-- What is validated has the cycle. -/
def Rightful (t : Tables) (pair : Pair) : Prop :=
  ∀ r ∈ t.redemptionsOf pair, r.isValidated = true → Owns t pair r

/-- The sweep comes to a redemption of the user and the voucher that gives the cycle back. -/
def GivesBack (cat : Catalog) (t : Tables) (merchantId : String) (reached : ℕ) (pair : Pair) : Prop :=
  ∃ r ∈ (inflight cat t merchantId).take reached, pairOf r = pair ∧ Latest t r

/-- A verification is let through for a redemption that does not have the cycle, or a suspension gives back
    a cycle in which a redemption has been validated. -/
def Revives (cat : Catalog) (pair : Pair) (db : Db) : Operation → Prop
  | .verifyRedemption call _ => ∃ row, checkVerification cat db call = .ok row ∧ pairOf row = pair ∧
      ¬ Owns db.tables pair row
  | .suspendMerchant merchantId reached =>
      (∃ merchant, db.merchants merchantId = some merchant ∧ merchant.status ≠ .SUSPENDED) ∧
        GivesBack cat db.tables merchantId reached pair ∧
        ∃ r ∈ db.tables.redemptionsOf pair, r.isValidated = true
  | _ => False

instance (cat : Catalog) (t : Tables) (merchantId : String) (reached : ℕ) (pair : Pair) :
    Decidable (GivesBack cat t merchantId reached pair) :=
  inferInstanceAs (Decidable (∃ r ∈ (inflight cat t merchantId).take reached, pairOf r = pair ∧ Latest t r))

instance (cat : Catalog) (pair : Pair) (db : Db) : DecidablePred (Revives cat pair db)
  | .createRedemption _ _ _ _ => inferInstanceAs (Decidable False)
  | .verifyRedemption call _ => decidable_of_iff (∃ row ∈ (checkVerification cat db call).toOption,
      pairOf row = pair ∧ ¬ Owns db.tables pair row) (by simp [Revives, toOption_eq_some])
  | .suspendMerchant merchantId reached => decidable_of_iff
      ((∃ merchant ∈ db.merchants merchantId, merchant.status ≠ .SUSPENDED) ∧
        GivesBack cat db.tables merchantId reached pair ∧
        ∃ r ∈ db.tables.redemptionsOf pair, r.isValidated = true) Iff.rfl
  | .reactivateMerchant _ => inferInstanceAs (Decidable False)

/-- All redemptions of the user and the voucher are in the cycle window of the time `t`. -/
def Within (cat : Catalog) (pair : Pair) (t : ℕ) (db : Db) : Prop :=
  ∀ r ∈ db.tables.redemptionsOf pair, ∀ sub ∈ cat.subscription pair.1,
    (getCurrentCycleWindow sub.cycleAnchorDate t).Contains r.redeemedAt

instance (cat : Catalog) (pair : Pair) (t : ℕ) : DecidablePred (Within cat pair t) := fun db =>
  inferInstanceAs (Decidable (∀ r ∈ db.tables.redemptionsOf pair, ∀ sub ∈ cat.subscription pair.1,
    (getCurrentCycleWindow sub.cycleAnchorDate t).cycleStart ≤ r.redeemedAt ∧
      r.redeemedAt < (getCurrentCycleWindow sub.cycleAnchorDate t).cycleEnd))

/-- Codes are unique, and the cycle state of what has been redeemed is of this window at least. -/
structure Kept (cat : Catalog) (pair : Pair) (t : ℕ) (tables : Tables) : Prop where
  keyed : Keyed VoucherRedemption.redemptionCode tables.redemptions
  anchored : tables.redemptionsOf pair ≠ [] → ∀ c ∈ tables.cycleStates pair, ∀ sub ∈ cat.subscription pair.1,
    (getCurrentCycleWindow sub.cycleAnchorDate t).cycleStart ≤ c.cycleStartDate

section
variable {cat : Catalog} {decrypt : String → Except DecryptFault String} {pair q : Pair} {t t' : Tables}
  {time : ℕ} {db db' : Db} {r row : VoucherRedemption}

theorem Kept.keyed_of (h : Kept cat pair time t) : Keyed VoucherRedemption.redemptionCode (t.redemptionsOf pair) :=
  h.keyed.filter

/-- One row has the cycle, and no other is validated. -/
theorem Rightful.honoured_le (h : Rightful t pair) (hk : Kept cat pair time t) : honoured t pair ≤ 1 := by
  have hkeyed := hk.keyed_of
  rw [honoured]
  cases hrows : t.redemptionsOf pair with
  | nil => exact Nat.zero_le 1
  | cons first rest =>
    rw [hrows] at hkeyed
    have hrest : rest.countP (fun r => r.isValidated) = 0 := by
      refine List.countP_eq_zero.mpr fun r hr hvalidated => ?_
      have howns := (h r (hrows ▸ List.mem_cons_of_mem _ hr) hvalidated).1
      rw [hrows, List.head?_cons, Option.some.injEq] at howns
      subst howns
      exact (List.nodup_cons.mp hkeyed).1 (List.mem_map_of_mem hr)
    rw [List.countP_cons, hrest]
    split_ifs
    · exact le_rfl
    · exact Nat.zero_le 1

/-! ### Redeeming -/

/-- A call that stores something stores one redemption of its user and voucher, with a new code. -/
theorem createRedemption_stores {redemptionCode userId : String} {data : Request} {now : ℕ} {w : World}
    (ht : (Redemption.createRedemption cat decrypt redemptionCode userId data now w).2.tables = t) :
    t = w.tables ∨ ∃ el c, EligibleFor cat w.tables userId data.voucherId now el ∧ c.now = now ∧
      claim el w.tables (userId, data.voucherId) c = .ok t ∧ ¬ CodeTaken w.tables c.redemptionCode ∧
      t.redemptions = redemptionData (userId, data.voucherId) el.timeLimitedWindowStartsAt c ::
        w.tables.redemptions := by
  rcases createRedemption_tables cat decrypt redemptionCode userId data now w with hsame |
      ⟨el, c, t', hel, hc, hclaim, he⟩
  · exact .inl (ht.symm.trans hsame)
  · right
    obtain rfl : t = t' := ht.symm.trans he
    have hnow : c.now = now := by rw [hc]
    have heligible := eligibility_ok hel
    have hguard : TypeGuard el w.tables (userId, data.voucherId) c.now := by
      rw [hnow]
      exact heligible.guard
    have hfree : ¬ (CodeTaken w.tables c.redemptionCode ∨
        KeyTaken w.tables (userId, data.voucherId) el.timeLimitedWindowStartsAt) := by
      intro htaken
      obtain ⟨e, he, -⟩ := claim_rejected hguard htaken
      cases hclaim.symm.trans he
    rw [not_or] at hfree
    obtain ⟨t'', hok, hrows⟩ := claim_ok hguard hfree.1 hfree.2
    cases hclaim.symm.trans hok
    exact ⟨el, c, heligible, hnow, hclaim, hfree.1, hrows⟩

theorem keyed_cons {c : Call} {key : Option ℤ} (hk : Keyed VoucherRedemption.redemptionCode t.redemptions)
    (hfree : ¬ CodeTaken t c.redemptionCode) (hrows : t'.redemptions = redemptionData pair key c :: t.redemptions) :
    Keyed VoucherRedemption.redemptionCode t'.redemptions := by
  rw [Keyed, hrows, List.map_cons]
  refine List.nodup_cons.mpr ⟨fun hmem => hfree ?_, hk⟩
  obtain ⟨r, hr, hcode⟩ := List.mem_map.mp hmem
  exact ⟨r, hr, hcode⟩

theorem Owns.congr (hsame : SameAt pair t t') : Owns t' pair r ↔ Owns t pair r := by
  rw [Owns, Owns, hsame.1, hsame.2]

theorem Rightful.congr (hsame : SameAt pair t t') : Rightful t' pair ↔ Rightful t pair := by
  rw [Rightful, Rightful, hsame.1]
  exact forall₂_congr fun r _ => imp_congr_right fun _ => Owns.congr hsame

theorem Kept.congr (h : Kept cat pair time t) (hsame : SameAt pair t t')
    (hkeyed : Keyed VoucherRedemption.redemptionCode t'.redemptions) : Kept cat pair time t' := by
  refine ⟨hkeyed, ?_⟩
  rw [hsame.1, hsame.2]
  exact h.anchored

/-- What the claim of a cycle voucher leaves of its user and voucher. -/
theorem claim_owns {el : Eligible} {c : Call} (hcycle : IsCycleType el.voucher.type)
    (hguard : TypeGuard el t pair c.now) (hfree : ¬ CodeTaken t c.redemptionCode)
    (hclaim : claim el t pair c = .ok t') :
    (∀ state ∈ t.cycleStates pair, claimWhere el.cycleStart state) ∧
      t'.redemptionsOf pair = redemptionData pair none c :: t.redemptionsOf pair ∧
      t'.cycleStates pair = some (claimData el.cycleStart c.now) := by
  obtain ⟨-, hstates⟩ := (typeGuard_cycle hcycle).mp hguard
  rw [claim_cycle hcycle, claimCycle_ok hstates hfree] at hclaim
  cases hclaim
  exact ⟨hstates, Tables.redemptionsOf_redemptionData, Function.update_self _ _ _⟩

theorem catalog_voucher {voucherId : String} {voucher : Voucher} (h : voucher ∈ (db.catalog cat).voucher voucherId) :
    ∃ stored, stored ∈ cat.voucher voucherId ∧ ∃ merchant, db.merchants stored.merchantId = some merchant ∧
      voucher = { stored with merchantStatus := merchant.status } := by
  obtain ⟨stored, hstored, h⟩ := Option.bind_eq_some_iff.mp h
  obtain ⟨merchant, hmerchant, h⟩ := Option.bind_eq_some_iff.mp h
  cases h
  exact ⟨stored, hstored, merchant, hmerchant, rfl⟩

/-- The cycle is claimed again only when nobody has it. -/
theorem redeemed_step {redemptionCode userId : String} {data : Request} {now : ℕ}
    (hcycle : ∀ voucher ∈ cat.voucher pair.2, IsCycleType voucher.type) (hk : Kept cat pair time db.tables)
    (ht : (Redemption.createRedemption (db.catalog cat) decrypt redemptionCode userId data now db.world).2.tables = t)
    (hwithin : ∀ r ∈ t.redemptionsOf pair, ∀ sub ∈ cat.subscription pair.1,
      (getCurrentCycleWindow sub.cycleAnchorDate time).Contains r.redeemedAt) :
    Kept cat pair time t ∧ (Rightful db.tables pair → Rightful t pair) := by
  rcases createRedemption_stores ht with rfl | ⟨el, c, heligible, hnow, hclaim, hfree, hrows⟩
  · exact ⟨hk, id⟩
  have hkeyed := keyed_cons hk.keyed hfree hrows
  by_cases hpair : pair = (userId, data.voucherId)
  · subst hpair
    have htype : IsCycleType el.voucher.type := by
      obtain ⟨stored, hstored, merchant, -, he⟩ := catalog_voucher heligible.voucher
      rw [he]
      exact hcycle stored hstored
    obtain ⟨hstates, hmine, hstate⟩ := claim_owns htype (hnow ▸ heligible.guard) hfree hclaim
    obtain ⟨sub, hsub, hstart⟩ := heligible.cycle
    have hcontains : (getCurrentCycleWindow sub.cycleAnchorDate time).Contains now := by
      rw [← hnow]
      exact hwithin _ (hmine ▸ List.mem_cons_self ..) sub hsub
    have hsame : el.cycleStart = (getCurrentCycleWindow sub.cycleAnchorDate time).cycleStart := by
      rw [hstart, cycleWindow_of_contains _ (Int.natCast_nonneg _) hcontains]
    refine ⟨⟨hkeyed, fun _ state hs other hother => ?_⟩, fun hright r hr hvalidated => ?_⟩
    · cases hstate.symm.trans hs
      cases hsub.symm.trans hother
      exact hsame.ge
    · rw [hmine] at hr
      rcases List.mem_cons.mp hr with rfl | hr
      · cases hvalidated
      · -- the redemption has the cycle of this window, which nobody can claim
        obtain ⟨-, state, hs, hflag⟩ := hright r hr hvalidated
        have hanchored := hk.anchored (List.ne_nil_of_mem hr) state hs sub hsub
        rcases hstates state hs with hstale | hclear
        · rw [hsame] at hstale
          exact absurd hanchored (not_le.mpr hstale)
        · cases hflag.symm.trans hclear
  · have hsame : SameAt pair db.tables t := sameAt_claim hpair hclaim
    exact ⟨hk.congr hsame hkeyed, (Rightful.congr hsame).mpr⟩

/-! ### Verifying -/

theorem checkVerification_ok {call : Verification} (h : checkVerification cat db call = .ok row) :
    (row ∈ db.tables.redemptions ∧ row.redemptionCode = call.code) ∧ row.isValidated = false := by
  obtain ⟨found, hfound, h⟩ := bind_ok_iff.mp h
  obtain ⟨inc, -, h⟩ := bind_ok_iff.mp h
  obtain ⟨u, hchecks, h⟩ := bind_ok_iff.mp h
  obtain rfl : found = row := pure_eq_ok.mp h
  exact ⟨find_some (orReject_eq_ok.mp hfound), Verify.not_validated_of_checks hchecks⟩

theorem redemptionsOf_update {call : Verification} {now : ℤ} :
    (Verify.update t call now).redemptionsOf pair =
      updateMany (fun r => r.redemptionCode = call.code) (validated call now) (t.redemptionsOf pair) :=
  filter_updateMany fun _ => Iff.rfl

/-- A validation is rightful exactly if its redemption has the cycle. -/
theorem verified_rightful_iff {call : Verification} {now : ℤ} (hk : Kept cat pair time t)
    (hright : Rightful t pair) (hrow : row ∈ t.redemptionsOf pair) (hcode : row.redemptionCode = call.code)
    (hfresh : row.isValidated = false) :
    Rightful (Verify.update t call now) pair ↔ Owns t pair row := by
  have honly : ∀ r ∈ t.redemptionsOf pair, r.redemptionCode = call.code → r = row :=
    fun r hr hc => hk.keyed_of.eq hr hrow (hc.trans hcode.symm)
  have hhead : ((Verify.update t call now).redemptionsOf pair).head? =
      (t.redemptionsOf pair).head?.map fun r => if r.redemptionCode = call.code then validated call now r else r := by
    rw [redemptionsOf_update, updateMany, List.head?_map]
  constructor
  · intro h
    have hmem : validated call now row ∈ (Verify.update t call now).redemptionsOf pair := by
      rw [redemptionsOf_update]
      exact mem_updateMany_of_pos hrow hcode
    obtain ⟨hfirst, hstate⟩ := h _ hmem rfl
    rw [hhead] at hfirst
    obtain ⟨first, hfirst, he⟩ := Option.map_eq_some_iff.mp hfirst
    have hc : first.redemptionCode = call.code := by
      have hsame := congrArg VoucherRedemption.redemptionCode he
      split_ifs at hsame with hc
      · exact hc
      · exact hsame.trans hcode
    rw [honly first (List.mem_of_head? hfirst) hc] at hfirst
    exact ⟨hfirst, hstate⟩
  · rintro ⟨hfirst, hstate⟩ r hr hvalidated
    rw [redemptionsOf_update] at hr
    refine ⟨?_, hstate⟩
    rw [hhead, hfirst, Option.map_some, if_pos hcode]
    obtain ⟨old, hold, ⟨hc, rfl⟩ | ⟨hc, rfl⟩⟩ := mem_updateMany.mp hr
    · rw [honly old hold hc]
    · -- an older validation has the cycle as well, and is of the same redemption
      have howns := (hright r hold hvalidated).1
      rw [hfirst, Option.some.injEq] at howns
      rw [← howns] at hvalidated
      cases hvalidated.symm.trans hfresh

theorem sameAt_update {call : Verification} {now : ℤ} (hk : Kept cat pair time t)
    (hrow : row ∈ t.redemptions) (hcode : row.redemptionCode = call.code) (hpair : pairOf row ≠ pair) :
    SameAt pair t (Verify.update t call now) := by
  refine ⟨?_, rfl⟩
  rw [redemptionsOf_update]
  refine updateMany_of_forall_not fun r hr hc => hpair ?_
  obtain ⟨hmem, hmine⟩ := List.mem_filter.mp hr
  rw [← hk.keyed.eq hmem hrow (hc.trans hcode.symm)]
  exact of_decide_eq_true hmine

/-! ### The sweep -/

theorem clearFlag_spec (c : CycleState) :
    (clearFlag c).isRedeemedInCurrentCycle = false ∧ (clearFlag c).cycleStartDate = c.cycleStartDate := by
  rw [clearFlag]
  split_ifs with h
  · exact ⟨rfl, rfl⟩
  · exact ⟨Bool.eq_false_of_not_eq_true h, rfl⟩

theorem map_clearFlag (state : Option CycleState) : (state.map clearFlag).map clearFlag = state.map clearFlag := by
  rw [Option.map_map]
  congr 1
  funext c
  have hclear := (clearFlag_spec c).1
  exact if_neg (by rw [hclear]; decide)

theorem refundCycle_redemptions : (refundCycle t r).redemptions = t.redemptions := by
  rw [refundCycle]
  split_ifs
  · rfl
  · rfl

theorem latest_congr (h : t'.redemptions = t.redemptions) : Latest t' r ↔ Latest t r := by
  rw [Latest, Latest, Tables.redemptionsOf, Tables.redemptionsOf, h]

theorem refundCycle_cycleStates : (refundCycle t r).cycleStates q =
    if pairOf r = q ∧ Latest t r then (t.cycleStates q).map clearFlag else t.cycleStates q := by
  rw [refundCycle]
  by_cases hl : Latest t r
  · rw [if_pos hl]
    by_cases hq : pairOf r = q
    · subst hq
      rw [if_pos ⟨rfl, hl⟩]
      exact Function.update_self ..
    · rw [if_neg fun h => hq h.1]
      exact Function.update_of_ne (Ne.symm hq) ..
  · rw [if_neg hl, if_neg fun h => hl h.2]

theorem sweep_redemptions (rows : List VoucherRedemption) :
    (rows.foldl refundCycle t).redemptions = t.redemptions := by
  induction rows generalizing t with
  | nil => rfl
  | cons r rows ih =>
    rw [List.foldl_cons, ih]
    exact refundCycle_redemptions

/-- A sweep clears the flags of those that it gives the cycle back for. -/
theorem sweep_cycleStates (rows : List VoucherRedemption) : (rows.foldl refundCycle t).cycleStates q =
    if ∃ r ∈ rows, pairOf r = q ∧ Latest t r then (t.cycleStates q).map clearFlag else t.cycleStates q := by
  induction rows generalizing t with
  | nil => exact (if_neg fun h => by obtain ⟨r, hr, -⟩ := h; cases hr).symm
  | cons r rows ih =>
    rw [List.foldl_cons, ih, refundCycle_cycleStates]
    simp only [latest_congr refundCycle_redemptions, List.exists_mem_cons_iff]
    by_cases hfirst : pairOf r = q ∧ Latest t r
    · rw [if_pos hfirst, map_clearFlag, ite_self]
      exact (if_pos (.inl hfirst)).symm
    · rw [if_neg hfirst]
      exact if_congr (or_iff_right hfirst).symm rfl rfl

/-- A suspension is rightful exactly if it gives back no cycle that has been used. -/
theorem swept_step {merchantId : String} {reached : ℕ} (hk : Kept cat pair time t)
    (ht : t' = refundInflightCycles cat t merchantId reached) : Kept cat pair time t' ∧
      (Rightful t pair → (Rightful t' pair ↔ ¬ (GivesBack cat t merchantId reached pair ∧
        ∃ r ∈ t.redemptionsOf pair, r.isValidated = true))) := by
  have hredemptions : t'.redemptions = t.redemptions := by
    rw [ht]
    exact sweep_redemptions _
  have hrows : t'.redemptionsOf pair = t.redemptionsOf pair := by
    rw [Tables.redemptionsOf, hredemptions]
    rfl
  have hkeyed : Keyed VoucherRedemption.redemptionCode t'.redemptions := by
    rw [hredemptions]
    exact hk.keyed
  by_cases hgives : GivesBack cat t merchantId reached pair
  · have hstates : t'.cycleStates pair = (t.cycleStates pair).map clearFlag := by
      rw [ht, refundInflightCycles, sweep_cycleStates]
      exact if_pos hgives
    refine ⟨⟨hkeyed, fun hne state hs sub hsub => ?_⟩, fun hright => ?_⟩
    · rw [hstates] at hs
      obtain ⟨old, hold, rfl⟩ := Option.map_eq_some_iff.mp hs
      rw [(clearFlag_spec old).2]
      exact hk.anchored (hrows ▸ hne) old hold sub hsub
    · -- nobody has the cycle now
      have hnobody : ∀ r, ¬ Owns t' pair r := by
        rintro r ⟨-, state, hs, hflag⟩
        rw [hstates] at hs
        obtain ⟨old, -, rfl⟩ := Option.map_eq_some_iff.mp hs
        cases (clearFlag_spec old).1.symm.trans hflag
      constructor
      · rintro hright' ⟨-, r, hr, hvalidated⟩
        exact hnobody r (hright' r (hrows ▸ hr) hvalidated)
      · intro hno r hr hvalidated
        exact absurd ⟨hgives, r, hrows ▸ hr, hvalidated⟩ hno
  · have hsame : SameAt pair t t' := by
      refine ⟨hrows, ?_⟩
      rw [ht, refundInflightCycles, sweep_cycleStates]
      exact if_neg hgives
    exact ⟨hk.congr hsame hkeyed, fun hright => iff_of_true ((Rightful.congr hsame).mpr hright) fun h => hgives h.1⟩

/-! ### Every sequence of calls -/

theorem kept_verified {call : Verification} {now : ℤ} (hk : Kept cat pair time t) :
    Kept cat pair time (Verify.update t call now) := by
  refine ⟨hk.keyed.updateMany fun _ => rfl, fun hne => hk.anchored fun hnil => hne ?_⟩
  rw [redemptionsOf_update, hnil]
  rfl

theorem perform_verify_ok {call : Verification} {now : ℤ} (h : checkVerification cat db call = .ok row) :
    (perform cat decrypt db (.verifyRedemption call now)).tables = Verify.update db.tables call now := by
  rw [perform, verifyRedemption, h]
  rfl

theorem perform_verify_error {call : Verification} {now : ℤ} {e : AppError}
    (h : checkVerification cat db call = .error e) :
    (perform cat decrypt db (.verifyRedemption call now)).tables = db.tables := by
  rw [perform, verifyRedemption, h]
  rfl

theorem suspendMerchant_cases (cat : Catalog) (db : Db) (merchantId : String) (reached : ℕ) :
    ((perform cat decrypt db (.suspendMerchant merchantId reached)).tables = db.tables ∧
      ¬ ∃ merchant, db.merchants merchantId = some merchant ∧ merchant.status ≠ .SUSPENDED) ∨
    ((∃ merchant, db.merchants merchantId = some merchant ∧ merchant.status ≠ .SUSPENDED) ∧
      (perform cat decrypt db (.suspendMerchant merchantId reached)).tables =
        refundInflightCycles cat db.tables merchantId reached) := by
  rw [perform, suspendMerchant]
  cases hm : db.merchants merchantId with
  | none =>
    refine .inl ⟨rfl, ?_⟩
    rintro ⟨merchant, h, -⟩
    cases h
  | some merchant =>
    by_cases hs : merchant.status = .SUSPENDED
    · refine .inl ⟨?_, ?_⟩
      · rw [orReject_some_bind, if_pos hs]
        rfl
      · rintro ⟨other, h, hactive⟩
        cases h
        exact hactive hs
    · refine .inr ⟨⟨merchant, rfl, hs⟩, ?_⟩
      rw [orReject_some_bind, if_neg hs]
      rfl

theorem reactivateMerchant_tables {merchantId : String} :
    (perform cat decrypt db (.reactivateMerchant merchantId)).tables = db.tables := by
  rw [perform, reactivateMerchant]
  cases db.merchants merchantId with
  | none => rfl
  | some merchant =>
    rw [orReject_some_bind]
    split_ifs
    · rfl
    · rw [rejectIf]
      split_ifs
      · rfl
      · rfl

/-- A validation keeps it exactly if the validated redemption of the pair owns the cycle. -/
theorem verified_spec {call : Verification} {now : ℤ} (hk : Kept cat pair time db.tables)
    (hcheck : checkVerification cat db call = .ok row) :
    Kept cat pair time (Verify.update db.tables call now) ∧ (Rightful db.tables pair →
      (Rightful (Verify.update db.tables call now) pair ↔ ¬ Revives cat pair db (.verifyRedemption call now))) := by
  refine ⟨kept_verified hk, fun hright => ?_⟩
  obtain ⟨⟨hmem, hcode⟩, hfresh⟩ := checkVerification_ok hcheck
  have honly : Revives cat pair db (.verifyRedemption call now) ↔ pairOf row = pair ∧ ¬ Owns db.tables pair row := by
    constructor
    · rintro ⟨other, hother, hrevives⟩
      cases hcheck.symm.trans hother
      exact hrevives
    · intro hrevives
      exact ⟨row, hcheck, hrevives⟩
  rw [honly]
  by_cases hpair : pairOf row = pair
  · have hrow : row ∈ db.tables.redemptionsOf pair := List.mem_filter.mpr ⟨hmem, decide_eq_true hpair⟩
    refine (verified_rightful_iff hk hright hrow hcode hfresh).trans ?_
    rw [not_and_not_right]
    exact ⟨fun howns _ => howns, fun h => h hpair⟩
  · exact iff_of_true ((Rightful.congr (sameAt_update hk hmem hcode hpair)).mpr hright) fun h => hpair h.1

/-- A call keeps what is validated in possession of the cycle exactly if it does not revive a redemption. -/
theorem perform_spec {operation : Operation} (hcycle : ∀ voucher ∈ cat.voucher pair.2, IsCycleType voucher.type)
    (hk : Kept cat pair time db.tables) (hwithin : Within cat pair time (perform cat decrypt db operation)) :
    Kept cat pair time (perform cat decrypt db operation).tables ∧ (Rightful db.tables pair →
      (Rightful (perform cat decrypt db operation).tables pair ↔ ¬ Revives cat pair db operation)) := by
  cases operation with
  | createRedemption redemptionCode userId data now =>
    obtain ⟨hk', hright⟩ := redeemed_step hcycle hk rfl hwithin
    exact ⟨hk', fun h => iff_of_true (hright h) id⟩
  | verifyRedemption call now =>
    cases hcheck : checkVerification cat db call with
    | error e =>
      rw [perform_verify_error hcheck]
      refine ⟨hk, fun h => iff_of_true h ?_⟩
      rintro ⟨row, hrow, -⟩
      cases hcheck.symm.trans hrow
    | ok row =>
      rw [perform_verify_ok hcheck]
      exact verified_spec hk hcheck
  | suspendMerchant merchantId reached =>
    rcases suspendMerchant_cases cat db merchantId reached with ⟨hsame, hno⟩ | ⟨hactive, hswept⟩
    · rw [hsame]
      exact ⟨hk, fun h => iff_of_true h fun hrevives => hno hrevives.1⟩
    · obtain ⟨hk', hright⟩ := swept_step hk hswept
      refine ⟨hk', fun h => (hright h).trans (not_congr ?_)⟩
      exact (and_iff_right hactive).symm
  | reactivateMerchant merchantId =>
    rw [reactivateMerchant_tables]
    exact ⟨hk, fun h => iff_of_true h id⟩

variable {as : List Operation}

theorem step_total (db : Db) (operation : Operation) : step cat decrypt db operation ≠ none := Option.some_ne_none _

theorem kept_throughout (hcycle : ∀ voucher ∈ cat.voucher pair.2, IsCycleType voucher.type)
    (hk : Kept cat pair time db.tables) (hwithin : Throughout (step cat decrypt) (Within cat pair time) db as) :
    Throughout (step cat decrypt) (fun db => Kept cat pair time db.tables) db as := by
  induction as generalizing db with
  | nil => exact throughout_nil.mpr hk
  | cons operation as ih =>
    obtain ⟨-, hrest⟩ := throughout_cons.mp hwithin
    refine throughout_cons.mpr ⟨hk, fun db' hstep => ?_⟩
    have hafter := hrest db' hstep
    refine ih ?_ hafter
    cases hstep
    exact (perform_spec hcycle hk (hafter [] as _ rfl rfl)).1

/-- What is validated has the cycle throughout exactly if no call revives a redemption. -/
theorem rightful_throughout_iff (hcycle : ∀ voucher ∈ cat.voucher pair.2, IsCycleType voucher.type)
    (hk : Kept cat pair time db.tables) (hright : Rightful db.tables pair)
    (hwithin : Throughout (step cat decrypt) (Within cat pair time) db as) :
    Throughout (step cat decrypt) (fun db => Rightful db.tables pair) db as ↔
      Along (step cat decrypt) (fun db operation => ¬ Revives cat pair db operation) db as := by
  have hkept := kept_throughout hcycle hk hwithin
  refine throughout_iff_along_of_throughout (K := fun db => Kept cat pair time db.tables ∧ Within cat pair time db)
    (fun db operation hnone => absurd hnone (step_total db operation)) (fun db operation db' hk hk' hi hstep => ?_)
    (fun xs ys s he hr => ⟨hkept xs ys s he hr, hwithin xs ys s he hr⟩) hright
  cases hstep
  exact (perform_spec hcycle hk.1 hk'.2).2 hi

/-- CORRECT while nothing is revived: in every sequence of redemptions, verifications, suspensions and
    reactivations, of a user's redemptions of a cycle voucher in one cycle window at most one is ever
    validated, if every verification that is let through is of a redemption that has the cycle, and no
    suspension gives back a cycle in which a redemption has been validated. -/
theorem honoured_once (time : ℕ) (hcycle : ∀ voucher ∈ cat.voucher pair.2, IsCycleType voucher.type)
    (hcodes : Keyed VoucherRedemption.redemptionCode db.tables.redemptions)
    (hnone : db.tables.redemptionsOf pair = [])
    (hwithin : Throughout (step cat decrypt) (Within cat pair time) db as)
    (h : Along (step cat decrypt) (fun db operation => ¬ Revives cat pair db operation) db as) :
    Throughout (step cat decrypt) (fun db => honoured db.tables pair ≤ 1) db as := by
  have hk : Kept cat pair time db.tables := ⟨hcodes, fun hne => absurd hnone hne⟩
  have hright : Rightful db.tables pair := by
    intro r hr
    rw [hnone] at hr
    cases hr
  intro xs ys s he hr
  exact ((rightful_throughout_iff hcycle hk hright hwithin).mpr h xs ys s he hr).honoured_le
    (kept_throughout hcycle hk hwithin xs ys s he hr)

end

/-! ### A code that is good again -/

/-- A café, whose customers are all entitled. -/
def cafe : Catalog where
  voucher _ := some ⟨.ACTIVE, .APPROVED, .BOGO, none, 5, none, "merchant", .ACTIVE, []⟩
  branch _ := some ⟨"merchant", true, .LIVE, some "1234"⟩
  subscription _ := some ⟨.ACTIVE, 0⟩
  phoneVerified _ := some true

def inClear (pin : String) : Except DecryptFault String := .ok pin

def opened : Db := ⟨fun _ => some ⟨.ACTIVE, .LIVE⟩, ⟨⟨[], fun _ => none⟩, fun _ => none⟩⟩

def redeem (code : String) (now : ℕ) : Operation :=
  .createRedemption code "user" ⟨"voucher", "branch", "1234"⟩ now

def scan (code : String) (now : ℤ) : Operation :=
  .verifyRedemption ⟨code, .QR_SCAN, ⟨.branch, some "branch", "merchant", "staff"⟩, none⟩ now

/-- The first code is validated before the suspension: the voucher cannot be redeemed again. -/
def usedBefore : List Operation :=
  [redeem "AAAA" 1000, scan "AAAA" 2000, .suspendMerchant "merchant" 1, .reactivateMerchant "merchant",
    redeem "BBBB" 3000]

theorem usedBefore_once : Throughout (step cafe inClear)
    (fun db => honoured db.tables ("user", "voucher") ≤ 1) opened usedBefore := by
  refine honoured_once 0 (fun voucher hv => ?_) List.nodup_nil rfl (by decide +kernel) (by decide +kernel)
  cases hv
  exact ⟨by decide, by decide⟩

/-- The first code is refunded, its replacement redeemed, and both are validated. -/
def bothCodes : List Operation :=
  [redeem "AAAA" 1000, .suspendMerchant "merchant" 1, .reactivateMerchant "merchant", redeem "BBBB" 2000,
    scan "AAAA" 3000, scan "BBBB" 4000]

theorem bothCodes_honoured : ∃ db, run (step cafe inClear) opened bothCodes = some db ∧
    (db.tables.redemptionsOf ("user", "voucher")).map (fun r => (r.redemptionCode, r.redeemedAt, r.isValidated)) =
      [("BBBB", 2000, true), ("AAAA", 1000, true)] ∧
    (getCurrentCycleWindow 0 0).Contains 1000 ∧ (getCurrentCycleWindow 0 0).Contains 2000 ∧
    honoured db.tables ("user", "voucher") = 2 := by
  have hrun : (run (step cafe inClear) opened bothCodes).map (fun db =>
      ((db.tables.redemptionsOf ("user", "voucher")).map (fun r => (r.redemptionCode, r.redeemedAt, r.isValidated)),
        honoured db.tables ("user", "voucher"))) =
      some ([("BBBB", 2000, true), ("AAAA", 1000, true)], 2) := by decide +kernel
  obtain ⟨db, hdb, he⟩ := Option.map_eq_some_iff.mp hrun
  obtain ⟨hrows, hcount⟩ := Prod.mk.injEq .. ▸ he
  exact ⟨db, hdb, hrows, ⟨by decide, by decide⟩, ⟨by decide, by decide⟩, hcount⟩

end Redeemo.Suspension
