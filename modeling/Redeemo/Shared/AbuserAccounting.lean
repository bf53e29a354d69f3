import Redeemo.Shared.LimiterRuns
import Redeemo.Shared.LimiterShim

/-! Which attempts the counters of a requester count.

    An attempt that a gate blocks is not counted. Any other one is counted by the abuser keys of the request, one after
    another, until one of them goes over its limit. -/

namespace Redeemo.Limiter

/-- The abuser keys are named once in the request, and their windows have a length. -/
structure ConsumeInput.DistinctAbusers (input : ConsumeInput) : Prop where
  nodup : (input.abuserKeys.map (·.key)).Nodup
  gates : ∀ sp ∈ input.abuserKeys, sp.key ∉ input.gateKeys.map (·.key)
  victims : ∀ sp ∈ input.abuserKeys, sp.key ∉ input.victimKeys.map (·.key)
  cooldown : ∀ sp ∈ input.abuserKeys, ∀ c ∈ input.cooldown, c.key ≠ sp.key
  windows : ∀ sp ∈ input.abuserKeys, 0 < sp.windowSec

/-- The attempt is counted once on the key. -/
def CountedOnce (s s' : Store) (key : String) : Prop := s'.count key = s.count key + 1

variable {input : ConsumeInput} {s : Store} {key k : String} {specs : List LimitSpec}

/-! ### Increments -/

theorem countedOnce_incr (s : Store) (key : String) {w : ℕ} (hw : 0 < w) : CountedOnce s (incrWithWindow s key w).2 key := by
  have h := congrFun (counters_incrWithWindow s key hw) key
  rw [FakeStore.set, Function.update_self] at h
  rw [CountedOnce, Store.count, show (incrWithWindow s key w).2.get key = some _ from h]
  rfl

/-- A key is counted if no key before it is at its limit. -/
theorem countAbusers_counts {before after : List LimitSpec} {sp : LimitSpec}
    (hd : ((before ++ sp :: after).map (·.key)).Nodup) (hw : 0 < sp.windowSec)
    (hbelow : ∀ b ∈ before, s.count b.key < b.limit) : CountedOnce s (countAbusers (before ++ sp :: after) s).2 sp.key := by
  induction before generalizing s with
  | nil =>
    have hrest : sp.key ∉ after.map (·.key) := (List.nodup_cons.mp hd).1
    have hone := countedOnce_incr s sp.key hw
    rw [List.nil_append, countAbusers]
    dsimp only
    split_ifs
    · exact hone
    · rw [CountedOnce, count_congr (countAbusers_of_notMem after hrest)]
      exact hone
  | cons b before ih =>
    rw [List.cons_append, List.map_cons, List.nodup_cons] at hd
    obtain ⟨hb, hbelow⟩ := List.forall_mem_cons.mp hbelow
    have hne : ∀ key ∈ (before ++ sp :: after).map (·.key), key ≠ b.key := fun key hkey he => hd.1 (he ▸ hkey)
    have hsame : ∀ key ∈ (before ++ sp :: after).map (·.key),
        (incrWithWindow s b.key b.windowSec).2.count key = s.count key := fun key hkey =>
      count_congr (incrWithWindow_of_ne s b.windowSec (hne key hkey))
    have hpass : ¬ (incrWithWindow s b.key b.windowSec).1 > (b.limit : ℤ) := by
      rw [incrWithWindow_count]
      omega
    rw [List.cons_append, countAbusers]
    dsimp only
    rw [if_neg hpass]
    have hrest := ih hd.2 fun b' hb' => by
      rw [hsame b'.key (List.mem_map_of_mem (List.mem_append_left _ hb'))]
      exact hbelow b' hb'
    rw [CountedOnce, hsame sp.key (List.mem_map_of_mem (List.mem_append_right _ List.mem_cons_self))] at hrest
    exact hrest

/-- Where none blocks, none was at its limit. -/
theorem countAbusers_below (hd : (specs.map (·.key)).Nodup) (h : (countAbusers specs s).1 = none) :
    ∀ sp ∈ specs, s.count sp.key < sp.limit := by
  induction specs generalizing s with
  | nil => exact fun sp hsp => absurd hsp List.not_mem_nil
  | cons x specs ih =>
    rw [List.map_cons, List.nodup_cons] at hd
    rw [countAbusers] at h
    dsimp only at h
    split_ifs at h with hover
    rw [incrWithWindow_count] at hover
    refine List.forall_mem_cons.mpr ⟨by omega, fun sp hsp => ?_⟩
    have hkey : sp.key ≠ x.key := fun he => hd.1 (he ▸ List.mem_map_of_mem hsp)
    have hrest := ih hd.2 h sp hsp
    rwa [count_congr (incrWithWindow_of_ne s x.windowSec hkey)] at hrest

/-! ### A call -/

theorem consume_snd (input : ConsumeInput) (s : Store) : (consume s input).2 = (consumeSpecs input s).2 := by
  rw [consume, consumeLua_packed]
  rcases consumeSpecs input s with ⟨_ | _ | _ | _, s'⟩
  · rfl
  · rfl
  · rfl
  · rfl

theorem atLimit_eq_none_iff : atLimit s specs = none ↔ ∀ sp ∈ specs, s.count sp.key < sp.limit := by
  simp [atLimit, Store.count]

/-- After the abuser keys, a call touches gates, victims and the cooldown only. -/
theorem consumeSpecs_abuser (hd : input.DistinctAbusers) (hgates : atLimit s input.gateKeys = none) {sp : LimitSpec}
    (hsp : sp ∈ input.abuserKeys) : (consumeSpecs input s).2 sp.key = (countAbusers input.abuserKeys s).2 sp.key := by
  rw [consumeSpecs, hgates]
  dsimp only
  rcases countAbusers input.abuserKeys s with ⟨_ | key, s₁⟩
  · dsimp only
    cases hv : atLimit s₁ input.victimKeys with
    | some key => rfl
    | none =>
      have hcool := takeCooldown_of_ne (s := s₁) (hd.cooldown sp hsp)
      dsimp only
      rcases hc : takeCooldown s₁ input.cooldown with ⟨_ | _ | _ | _, s₂⟩ <;> rw [hc] at hcool
      · exact ((countAll_of_notMem (hd.victims sp hsp)).trans (countAll_of_notMem (hd.gates sp hsp))).trans hcool
      · exact hcool
      · exact hcool
      · exact hcool
  · rfl

/-- The call comes past the gates and the abuser keys. -/
def PastAbusers : Option ConsumeResult → Prop
  | some (.blocked .gate _ _) => False
  | some (.blocked .abuser _ _) => False
  | _ => True

/-- What is said of an attempt. A gate at its limit keeps it from being counted. Otherwise each abuser key counts it once,
    as far as no key before it is at its limit: all of them, if neither kind of key blocks the attempt. -/
structure AbusersCounted (input : ConsumeInput) (s : Store) (r : Option ConsumeResult × Store) : Prop where
  gated : (∃ sp ∈ input.gateKeys, (sp.limit : ℤ) ≤ s.count sp.key) → r.2 = s
  counted : (∀ sp ∈ input.gateKeys, s.count sp.key < sp.limit) → ∀ before sp after, input.abuserKeys = before ++ sp :: after →
    (∀ b ∈ before, s.count b.key < b.limit) → CountedOnce s r.2 sp.key
  passed : PastAbusers r.1 → ∀ sp ∈ input.abuserKeys, CountedOnce s r.2 sp.key

theorem counted_of_below (hd : input.DistinctAbusers) (hgates : atLimit s input.gateKeys = none) {before after : List LimitSpec}
    {sp : LimitSpec} (hsplit : input.abuserKeys = before ++ sp :: after) (hbelow : ∀ b ∈ before, s.count b.key < b.limit) :
    CountedOnce s (consume s input).2 sp.key := by
  have hsp : sp ∈ input.abuserKeys := hsplit ▸ List.mem_append_right _ List.mem_cons_self
  rw [CountedOnce, consume_snd, count_congr (consumeSpecs_abuser hd hgates hsp), hsplit]
  exact countAbusers_counts (hsplit ▸ hd.nodup) (hd.windows sp hsp) hbelow

/-- A call that comes past both kinds of keys finds none of them at its limit. -/
theorem below_of_past (hd : input.DistinctAbusers) (h : PastAbusers (consume s input).1) :
    atLimit s input.gateKeys = none ∧ ∀ sp ∈ input.abuserKeys, s.count sp.key < sp.limit := by
  rw [consume, consumeLua_packed, consumeSpecs] at h
  cases hg : atLimit s input.gateKeys with
  | some key =>
    rw [hg] at h
    cases h
  | none =>
    rw [hg] at h
    rcases ha : countAbusers input.abuserKeys s with ⟨_ | key, s₁⟩
    · exact ⟨rfl, countAbusers_below hd.nodup (by rw [ha])⟩
    · rw [ha] at h
      cases h

structure Cap where
  limit : ℕ
  windowSec : ℕ

def toSpec (key : String) (cap : Cap) : LimitSpec := ⟨key, cap.limit, cap.windowSec⟩

def GLOBAL_WINDOW_SEC : ℕ := 86400

/-- The per-IP caps by the hour and by the day; `if (ctx.ip)` lets neither `null` nor the empty string through. -/
def ipKeys (hourKey dayKey : String → String) (ipHour ipDay : Cap) (ip : Option String) : List LimitSpec :=
  match ip.filter (· ≠ "") with
  | some ip => [toSpec (hourKey ip) ipHour, toSpec (dayKey ip) ipDay]
  | none => []

structure SmsCaps where
  phoneHour : Cap
  phoneDay : Cap
  userHour : Cap
  userDay : Cap
  ipHour : Cap
  ipDay : Cap
  branchPinDay : Cap
  cooldownSec : ℕ

inductive SmsScope | otp | branchPin
  deriving DecidableEq

structure SmsSendContext where
  phoneHash : String
  userId : Option String
  ip : Option String
  scope : SmsScope
  branchId : Option String

/-- What `consumeSmsSend` asks for, past its two checks of the number. -/
def smsRequest (c : SmsCaps) (globalDailyCap : ℕ) (ctx : SmsSendContext) : ConsumeInput where
  gateKeys := [⟨"rl:sms:global:day", globalDailyCap, GLOBAL_WINDOW_SEC⟩]
  abuserKeys := ipKeys ("rl:otp:ip:" ++ ·) ("rl:otp:ip:day:" ++ ·) c.ipHour c.ipDay ctx.ip
  victimKeys := [toSpec ("rl:otp:" ++ ctx.phoneHash) c.phoneHour, toSpec ("rl:otp:day:" ++ ctx.phoneHash) c.phoneDay] ++
    (match ctx.scope, ctx.userId.filter (· ≠ "") with
      | .otp, some userId => [toSpec ("rl:otp:user:" ++ userId) c.userHour, toSpec ("rl:otp:user:day:" ++ userId) c.userDay]
      | _, _ => []) ++
    match ctx.scope, ctx.branchId.filter (· ≠ "") with
      | .branchPin, some branchId => [toSpec ("rl:sms:branchpin:day:" ++ branchId) c.branchPinDay]
      | _, _ => []
  cooldown := some ⟨"rl:otp:cooldown:" ++ ctx.phoneHash, c.cooldownSec⟩

structure EmailCaps where
  typeHour : Cap
  addrHour : Cap
  addrDay : Cap
  acctDay : Cap
  ipHour : Cap
  ipDay : Cap

structure EmailSendContext where
  emailHash : String
  type : String
  recipientType : String
  recipientId : String
  ip : Option String

/-- What `consumeEmailSend` asks for. -/
def emailRequest (c : EmailCaps) (emailGlobalDailyCap : ℕ) (ctx : EmailSendContext) : ConsumeInput where
  gateKeys := [⟨"rl:email:global:day", emailGlobalDailyCap, GLOBAL_WINDOW_SEC⟩]
  abuserKeys := ipKeys ("rl:email:ip:hour:" ++ ·) ("rl:email:ip:day:" ++ ·) c.ipHour c.ipDay ctx.ip
  victimKeys := [toSpec ("rl:email:" ++ ctx.type ++ ":" ++ ctx.emailHash) c.typeHour,
    toSpec ("rl:email:addr:hour:" ++ ctx.emailHash) c.addrHour, toSpec ("rl:email:addr:day:" ++ ctx.emailHash) c.addrDay,
    toSpec ("rl:email:acct:day:" ++ ctx.recipientType ++ ":" ++ ctx.recipientId) c.acctDay]

theorem mem_ipKeys {hourKey dayKey : String → String} {ipHour ipDay : Cap} {ip : Option String} {sp : LimitSpec}
    (h : sp ∈ ipKeys hourKey dayKey ipHour ipDay ip) : ∃ ip, sp = toSpec (hourKey ip) ipHour ∨ sp = toSpec (dayKey ip) ipDay := by
  rw [ipKeys] at h
  split at h
  · next ip _ => exact ⟨ip, List.mem_pair.mp h⟩
  · cases h

theorem nodup_ipKeys {hourKey dayKey : String → String} (hne : ∀ ip, hourKey ip ≠ dayKey ip) (ipHour ipDay : Cap)
    (ip : Option String) : ((ipKeys hourKey dayKey ipHour ipDay ip).map (·.key)).Nodup := by
  rw [ipKeys]
  split
  · next ip _ => simp [toSpec, hne ip]
  · exact List.nodup_nil

theorem smsRequest_victims {c : SmsCaps} {globalDailyCap : ℕ} {ctx : SmsSendContext} {v : LimitSpec}
    (h : v ∈ (smsRequest c globalDailyCap ctx).victimKeys) : v.key = "rl:otp:" ++ ctx.phoneHash ∨
      (∃ rest, v.key = "rl:otp:day:" ++ rest) ∨ (∃ rest, v.key = "rl:otp:user:" ++ rest) ∨ ∃ rest, v.key = "rl:sms:" ++ rest := by
  simp only [smsRequest, List.mem_append, List.mem_pair] at h
  rcases h with ((rfl | rfl) | h) | h
  · exact .inl rfl
  · exact .inr (.inl ⟨_, rfl⟩)
  · split at h
    · next userId _ _ =>
      rcases List.mem_pair.mp h with rfl | rfl
      · exact .inr (.inr (.inl ⟨_, rfl⟩))
      · exact .inr (.inr (.inl ⟨"day:" ++ userId, by rw [← String.append_assoc]; rfl⟩))
    · cases h
  · split at h
    · next branchId _ _ =>
      obtain rfl := List.mem_singleton.mp h
      exact .inr (.inr (.inr ⟨"branchpin:day:" ++ branchId, by rw [← String.append_assoc]; rfl⟩))
    · cases h

/-- The hash of a number is in hexadecimal digits. -/
theorem smsRequest_distinct {c : SmsCaps} {globalDailyCap : ℕ} {ctx : SmsSendContext} (hh : 0 < c.ipHour.windowSec)
    (hd : 0 < c.ipDay.windowSec) (hash : ∀ ch ∈ ctx.phoneHash.toList, ch ≠ 'i') :
    (smsRequest c globalDailyCap ctx).DistinctAbusers := by
  have hkey : ∀ sp ∈ (smsRequest c globalDailyCap ctx).abuserKeys, (∃ rest, sp.key = "rl:otp:ip:" ++ rest) ∧
      0 < sp.windowSec := by
    intro sp hsp
    obtain ⟨ip, rfl | rfl⟩ := mem_ipKeys hsp
    · exact ⟨⟨ip, rfl⟩, hh⟩
    · exact ⟨⟨"day:" ++ ip, by rw [← String.append_assoc]; rfl⟩, hd⟩
  constructor
  · refine nodup_ipKeys (fun ip he => ?_) _ _ _
    have hlen := congrArg String.length he
    simp only [String.length_append] at hlen
    exact absurd (Nat.add_right_cancel hlen) (by decide)
  · intro sp hsp hmem
    obtain ⟨⟨rest, hrest⟩, -⟩ := hkey sp hsp
    have he := congrArg String.toList (hrest.symm.trans (List.mem_singleton.mp hmem))
    simp at he
  · intro sp hsp hmem
    obtain ⟨⟨rest, hrest⟩, -⟩ := hkey sp hsp
    obtain ⟨v, hv, hvkey⟩ := List.mem_map.mp hmem
    rw [hrest] at hvkey
    rcases smsRequest_victims hv with h | ⟨x, h⟩ | ⟨x, h⟩ | ⟨x, h⟩
    · have he := congrArg String.toList (h.symm.trans hvkey)
      simp at he
      exact hash 'i' (by rw [he]; simp) rfl
    · have he := congrArg String.toList (h.symm.trans hvkey)
      simp at he
    · have he := congrArg String.toList (h.symm.trans hvkey)
      simp at he
    · have he := congrArg String.toList (h.symm.trans hvkey)
      simp at he
  · intro sp hsp cd hcd hckey
    obtain ⟨⟨rest, hrest⟩, -⟩ := hkey sp hsp
    obtain rfl := Option.some.inj hcd
    have he := congrArg String.toList (hckey.trans hrest)
    simp at he
  · exact fun sp hsp => (hkey sp hsp).2

/-- Neither the type of an email nor the hash of an address has a colon. -/
theorem emailRequest_distinct {c : EmailCaps} {emailGlobalDailyCap : ℕ} {ctx : EmailSendContext} (hh : 0 < c.ipHour.windowSec)
    (hd : 0 < c.ipDay.windowSec) (htype : ∀ ch ∈ ctx.type.toList, ch ≠ ':') (hash : ∀ ch ∈ ctx.emailHash.toList, ch ≠ ':') :
    (emailRequest c emailGlobalDailyCap ctx).DistinctAbusers := by
  have hkey : ∀ sp ∈ (emailRequest c emailGlobalDailyCap ctx).abuserKeys,
      (∃ rest : List Char, sp.key.toList = "rl:email:ip:".toList ++ rest ∧ ':' ∈ rest) ∧ 0 < sp.windowSec := by
    intro sp hsp
    obtain ⟨ip, rfl | rfl⟩ := mem_ipKeys hsp
    · exact ⟨⟨"hour:".toList ++ ip.toList, String.toList_append, List.mem_append_left _ (by decide)⟩, hh⟩
    · exact ⟨⟨"day:".toList ++ ip.toList, String.toList_append, List.mem_append_left _ (by decide)⟩, hd⟩
  constructor
  · refine nodup_ipKeys (fun ip he => ?_) _ _ _
    have hlen := congrArg String.length he
    simp only [String.length_append] at hlen
    exact absurd (Nat.add_right_cancel hlen) (by decide)
  · intro sp hsp hmem
    obtain ⟨⟨rest, hrest, -⟩, -⟩ := hkey sp hsp
    rw [List.mem_singleton.mp hmem] at hrest
    simp at hrest
  · intro sp hsp hmem
    obtain ⟨⟨rest, hrest, hcolon⟩, -⟩ := hkey sp hsp
    simp only [emailRequest, toSpec, List.map_cons, List.map_nil, List.mem_cons, List.not_mem_nil, or_false] at hmem
    rcases hmem with h | h | h | h <;> rw [h] at hrest
    · -- Only the type `ip` would lead to such a key, with a colon in the hash.
      rcases ht : ctx.type.toList with _ | ⟨a, _ | ⟨b, _ | ⟨c, l⟩⟩⟩ <;> rw [ht] at htype <;> simp [ht] at hrest
      · obtain ⟨-, -, hrest⟩ := hrest
        exact hash ':' (hrest ▸ hcolon) rfl
      · exact htype ':' (by rw [hrest.2.2.1]; simp) rfl
    · simp at hrest
    · simp at hrest
    · simp at hrest
  · intro sp hsp cd hcd
    cases hcd
  · exact fun sp hsp => (hkey sp hsp).2

/-- The caps of production. -/
def PROD : SmsCaps := ⟨⟨3, 3600⟩, ⟨6, 86400⟩, ⟨5, 3600⟩, ⟨8, 86400⟩, ⟨10, 3600⟩, ⟨20, 86400⟩, ⟨10, 86400⟩, 45⟩

def loginCode : SmsSendContext := ⟨"0a1b", some "u1", some "10.0.0.1", .otp, none⟩

end Redeemo.Limiter
