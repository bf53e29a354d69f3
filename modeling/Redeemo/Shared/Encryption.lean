import Redeemo.Shared.Keyring

/-! Stored values under the keys of the keyring.

    A value is written as three parts, under the key that three-part values resolve to, whatever the active key
    is. A value of five parts names its key id. The cipher is AES-256-GCM as the platform provides it, a
    parameter here: what it enciphers it deciphers, with a tag of 16 bytes and a ciphertext as long as the text. -/

namespace Redeemo.Encryption

open Keyring Bytes Fallible

/-- AES-256-GCM: key, IV and text to tag and ciphertext, and back. -/
structure Gcm where
  encipher : Buffer → Buffer → Buffer → Buffer × Buffer
  decipher : Buffer → Buffer → Buffer → Buffer → Option Buffer

structure Gcm.Correct (gcm : Gcm) : Prop where
  tag_length : ∀ key iv text, key.length = 32 → iv.length = 12 → (gcm.encipher key iv text).1.length = 16
  ciphertext_length : ∀ key iv text, key.length = 32 → iv.length = 12 →
    (gcm.encipher key iv text).2.length = text.length
  decipher_encipher : ∀ key iv text, key.length = 32 → iv.length = 12 →
    gcm.decipher key iv (gcm.encipher key iv text).1 (gcm.encipher key iv text).2 = some text

/-- What `randomBytes(12)` returns. -/
abbrev Iv := { iv : Buffer // iv.length = 12 }

def validateKeyHex (keyHex : String) : Except CryptoError Buffer :=
  if HEX64 keyHex then .ok (fromHex keyHex)
  else .error (.error "Encryption key must be a 64-character hex string (32 bytes)")

/-- `[ivHex, authTagHex, ciphertextHex].join(':')`. -/
def threeParts (iv tag ciphertext : Buffer) : String := ":".intercalate [toHex iv, toHex tag, toHex ciphertext]

def encryptWith (gcm : Gcm) (iv : Iv) (plaintext keyHex : String) : Except CryptoError String := do
  let key ← validateKeyHex keyHex
  return threeParts iv.1 (gcm.encipher key iv.1 (utf8 plaintext)).1 (gcm.encipher key iv.1 (utf8 plaintext)).2

structure ParsedEnvelope where
  kid : String
  ivHex : String
  tagHex : String
  ctHex : String
  isLegacy3Part : Bool

/-- `/^[a-z0-9-]{1,32}$/`. -/
def KID_RE (kid : String) : Bool := kid.toList.all isKidChar ∧ 1 ≤ kid.toList.length ∧ kid.toList.length ≤ 32

def HEX_EVEN (h : String) : Bool := h.toList ≠ [] ∧ h.toList.all isHexDigit ∧ h.toList.length % 2 = 0

/-- The checks on the parts of a value. -/
def checkParts (e : ParsedEnvelope) : Except CryptoError ParsedEnvelope :=
  if KID_RE e.kid = false then .error .envelopeParse
  else if HEX_EVEN e.ivHex = false ∨ HEX_EVEN e.tagHex = false ∨ HEX_EVEN e.ctHex = false then .error .envelopeParse
  else if e.ctHex.toList = [] then .error .envelopeParse
  else if (fromHex e.ivHex).length ≠ 12 then .error .envelopeParse
  else if (fromHex e.tagHex).length ≠ 16 then .error .envelopeParse
  else .ok e

/-- `stored.split(':')`. -/
def parts (stored : String) : List String := (stored.toList.splitOn ':').map String.ofList

def parseEnvelope (stored : String) : Except CryptoError ParsedEnvelope :=
  match parts stored with
  | [ivHex, tagHex, ctHex] => checkParts ⟨DEFAULT_LEGACY_KID, ivHex, tagHex, ctHex, true⟩
  | [v, kid, ivHex, tagHex, ctHex] =>
    if v = "v2" then checkParts ⟨kid, ivHex, tagHex, ctHex, false⟩ else .error .envelopeParse
  | _ => .error .envelopeParse

def gcmDecrypt (gcm : Gcm) (key : Buffer) (ivHex tagHex ctHex : String) : Except CryptoError String :=
  if (fromHex ivHex).length ≠ 12 then .error (.error "Invalid encrypted value: IV must be 12 bytes")
  else if (fromHex tagHex).length ≠ 16 then .error (.error "Invalid encrypted value: auth tag must be 16 bytes")
  else match gcm.decipher key (fromHex ivHex) (fromHex tagHex) (fromHex ctHex) with
    | none => .error .gcmAuth
    | some text => .ok (ofUtf8 text)

/-- The key id whose key reads the value. -/
def usedKid (P : EnvKeyProvider) (e : ParsedEnvelope) : String := if e.isLegacy3Part then P.getLegacyKid else e.kid

def decryptEnvelope (gcm : Gcm) (P : EnvKeyProvider) (stored : String) : Except CryptoError String := do
  let e ← parseEnvelope stored
  let keyBytes ← P.getKey .pin (usedKid P e)
  gcmDecrypt gcm keyBytes e.ivHex e.tagHex e.ctHex

def encrypt (gcm : Gcm) (P : EnvKeyProvider) (iv : Iv) (plaintext : String) : Except CryptoError String := do
  let legacyKeyBytes ← P.getKey .pin P.getLegacyKid
  encryptWith gcm iv plaintext (toHex legacyKeyBytes)

def decrypt (gcm : Gcm) (P : EnvKeyProvider) (stored : String) : Except CryptoError String :=
  decryptEnvelope gcm P stored

/-! ### Hexadecimal parts -/

theorem hexEven_toHex {bs : Buffer} (h : bs ≠ []) : HEX_EVEN (toHex bs) = true := by
  have hlen := length_hexChars bs
  have hpos := List.length_pos_iff.mpr h
  simp only [HEX_EVEN, toHex, String.toList_ofList, decide_eq_true_eq]
  refine ⟨?_, List.all_eq_true.mpr fun c hc => isHexDigit_of_mem_hexChars hc, by omega⟩
  intro hnil
  rw [hnil, List.length_nil] at hlen
  omega

theorem hex64_toHex {bs : Buffer} (h : bs.length = 32) : HEX64 (toHex bs) = true := by
  simp only [HEX64, toHex, String.toList_ofList, decide_eq_true_eq]
  refine ⟨by rw [length_hexChars, h], List.all_eq_true.mpr fun c hc => isHexDigit_of_mem_hexChars hc⟩

/-- A key that passes the check is 32 bytes. -/
theorem length_fromHex {hex : String} (h : HEX64 hex = true) : (fromHex hex).length = 32 := by
  simp only [HEX64, decide_eq_true_eq] at h
  exact length_readHex h.2 h.1

theorem colon_not_mem_toHex (bs : Buffer) : ':' ∉ (toHex bs).toList := by
  rw [toHex, String.toList_ofList]
  intro hc
  exact absurd (isHexDigit_of_mem_hexChars hc) (by decide)

/-- Joined by colons and split again, parts without a colon come back. -/
theorem parts_intercalate {ps : List String} (hp : ∀ p ∈ ps, ':' ∉ p.toList) (hne : ps ≠ []) :
    parts (":".intercalate ps) = ps := by
  have hcolon : ":".toList = [':'] := rfl
  rw [parts, String.toList_intercalate, hcolon, List.splitOn_intercalate ':' ?_ (by simpa using hne)]
  · rw [List.map_map]
    exact (List.map_congr_left fun p _ => String.ofList_toList).trans (List.map_id ps)
  · intro l hl
    obtain ⟨p, hp', rfl⟩ := List.mem_map.mp hl
    exact hp p hp'

theorem gcmDecrypt_ok {gcm : Gcm} {key : Buffer} {ivHex tagHex ctHex p : String}
    (h : gcmDecrypt gcm key ivHex tagHex ctHex = .ok p) :
    ∃ text, gcm.decipher key (fromHex ivHex) (fromHex tagHex) (fromHex ctHex) = some text ∧ p = ofUtf8 text := by
  rw [gcmDecrypt] at h
  split_ifs at h
  split at h
  · cases h
  · rename_i text ht
    cases h
    exact ⟨text, ht, rfl⟩

/-- The parts of an enciphered text pass the checks, under any key id of the grammar. -/
theorem checkParts_enciphered {gcm : Gcm} (hgcm : gcm.Correct) {key text : Buffer} (iv : Iv) (hkey : key.length = 32)
    (htext : text ≠ []) {kid : String} (hkid : KID_RE kid = true) (legacy : Bool) :
    let e : ParsedEnvelope :=
      ⟨kid, toHex iv.1, toHex (gcm.encipher key iv.1 text).1, toHex (gcm.encipher key iv.1 text).2, legacy⟩
    checkParts e = .ok e := by
  have htag := hgcm.tag_length key iv.1 text hkey iv.2
  have hct := hgcm.ciphertext_length key iv.1 text hkey iv.2
  have hiv : HEX_EVEN (toHex iv.1) = true :=
    hexEven_toHex (List.length_pos_iff.mp (by rw [iv.2]; decide))
  have htag' : HEX_EVEN (toHex (gcm.encipher key iv.1 text).1) = true :=
    hexEven_toHex (List.length_pos_iff.mp (by rw [htag]; decide))
  have hct' : HEX_EVEN (toHex (gcm.encipher key iv.1 text).2) = true :=
    hexEven_toHex (List.length_pos_iff.mp (by rw [hct]; exact List.length_pos_iff.mpr htext))
  have hne : (toHex (gcm.encipher key iv.1 text).2).toList ≠ [] := by
    simp only [HEX_EVEN, decide_eq_true_eq] at hct'
    exact hct'.1
  simp only [checkParts, hkid, hiv, htag', hct', hne, fromHex_toHex, iv.2, htag]
  rfl

theorem gcmDecrypt_enciphered {gcm : Gcm} (hgcm : gcm.Correct) {key : Buffer} (iv : Iv) (hkey : key.length = 32)
    (p : String) :
    gcmDecrypt gcm key (toHex iv.1) (toHex (gcm.encipher key iv.1 (utf8 p)).1)
      (toHex (gcm.encipher key iv.1 (utf8 p)).2) = .ok p := by
  have htag := hgcm.tag_length key iv.1 (utf8 p) hkey iv.2
  have hopen := hgcm.decipher_encipher key iv.1 (utf8 p) hkey iv.2
  simp only [gcmDecrypt, fromHex_toHex, iv.2, htag, hopen, ofUtf8_utf8]
  rfl

/-! ### Writing and reading under a provider -/

theorem getKey_of_mem {env : Env} {ns : Namespace} {P : EnvKeyProvider} (h : Sound env ns (P.ring ns)) {kid : String}
    (hk : kid ∈ P.listKids ns) : ∃ key, P.getKey ns kid = .ok key ∧ key.length = 32 := by
  obtain ⟨hex, hget⟩ := mem_kids.mp hk
  exact ⟨fromHex hex, by rw [EnvKeyProvider.getKey, hget], length_fromHex (h.hex kid hex hget)⟩

/-- The key that three-part values are written and read with. -/
theorem legacy_key {env : Env} {P : EnvKeyProvider} (h : buildKeyProviderFromEnv env = .ok P) :
    ∃ key, P.getKey .pin P.getLegacyKid = .ok key ∧ key.length = 32 := by
  obtain ⟨hs, hl⟩ := sound_of_build h
  refine getKey_of_mem (hs .pin) ?_
  rw [EnvKeyProvider.getLegacyKid, hl]
  exact (hs .pin).legacy rfl

theorem encrypt_eq {P : EnvKeyProvider} {key : Buffer} (gcm : Gcm) (iv : Iv) (p : String)
    (hkey : P.getKey .pin P.getLegacyKid = .ok key) (hlen : key.length = 32) :
    encrypt gcm P iv p =
      .ok (threeParts iv.1 (gcm.encipher key iv.1 (utf8 p)).1 (gcm.encipher key iv.1 (utf8 p)).2) := by
  have hvalid : validateKeyHex (toHex key) = .ok key := by
    rw [validateKeyHex, if_pos (hex64_toHex hlen), fromHex_toHex]
  rw [encrypt, hkey]
  show encryptWith gcm iv p (toHex key) = _
  rw [encryptWith, hvalid]
  rfl

theorem parts_threeParts (iv tag ciphertext : Buffer) :
    parts (threeParts iv tag ciphertext) = [toHex iv, toHex tag, toHex ciphertext] := by
  refine parts_intercalate ?_ (List.cons_ne_nil _ _)
  intro p hp
  simp only [List.mem_cons, List.not_mem_nil, or_false] at hp
  rcases hp with rfl | rfl | rfl
  · exact colon_not_mem_toHex iv
  · exact colon_not_mem_toHex tag
  · exact colon_not_mem_toHex ciphertext

/-- A three-part value that was written under a key is read by every provider whose legacy key id maps to it. -/
theorem decrypt_threeParts {gcm : Gcm} (hgcm : gcm.Correct) {P : EnvKeyProvider} {key : Buffer} (iv : Iv) {p : String}
    (hkey : P.getKey .pin P.getLegacyKid = .ok key) (hlen : key.length = 32) (hp : p ≠ "") :
    decrypt gcm P (threeParts iv.1 (gcm.encipher key iv.1 (utf8 p)).1 (gcm.encipher key iv.1 (utf8 p)).2) = .ok p := by
  have hparts := parts_threeParts iv.1 (gcm.encipher key iv.1 (utf8 p)).1 (gcm.encipher key iv.1 (utf8 p)).2
  have hre : KID_RE DEFAULT_LEGACY_KID = true := by decide
  have hcheck := checkParts_enciphered hgcm iv hlen (utf8_ne_nil hp) hre true
  rw [decrypt, decryptEnvelope, parseEnvelope, hparts]
  dsimp only
  rw [hcheck, ok_bind, usedKid, if_pos rfl, hkey, ok_bind]
  exact gcmDecrypt_enciphered hgcm iv hlen p

/-- A three-part value is read with the key of the legacy key id, and no other key of the provider matters. -/
theorem parse_three {stored : String} {e : ParsedEnvelope} (h3 : (parts stored).length = 3)
    (he : parseEnvelope stored = .ok e) : e.isLegacy3Part = true := by
  rw [parseEnvelope] at he
  obtain ⟨a, b, c, hparts⟩ := List.length_eq_three.mp h3
  rw [hparts] at he
  dsimp only at he
  rw [checkParts] at he
  split_ifs at he
  cases he
  rfl

theorem decrypt_congr {gcm : Gcm} {P P' : EnvKeyProvider} {stored : String} (h3 : (parts stored).length = 3)
    (hkey : P'.getKey .pin P'.getLegacyKid = P.getKey .pin P.getLegacyKid) :
    decrypt gcm P' stored = decrypt gcm P stored := by
  rw [decrypt, decrypt, decryptEnvelope, decryptEnvelope]
  cases he : parseEnvelope stored with
  | error err => rfl
  | ok e =>
    have hlegacy := parse_three h3 he
    rw [ok_bind, ok_bind, usedKid, usedKid, if_pos hlegacy, if_pos hlegacy, hkey]

/-! ### Values that name their key id -/

/-- The decoder reads every key id that a pin ring may hold. -/
theorem kid_re_of_pattern {kid : String} (h : PIN_KID kid = true) : KID_RE kid = true := by
  simp only [PIN_KID, namespaced, decide_eq_true_eq] at h
  rcases h with ⟨⟨rest, hrest⟩, hall, hpos, hle⟩ | rfl
  · have hpin : "pin-".toList.all isKidChar = true := by decide
    rw [← hrest, List.drop_left] at hall hpos hle
    simp only [KID_RE, decide_eq_true_eq, ← hrest, List.all_append, Bool.and_eq_true, List.length_append]
    have hfour : "pin-".toList.length = 4 := rfl
    exact ⟨⟨hpin, hall⟩, by omega, by omega⟩
  · decide

theorem colon_not_mem_kid {kid : String} (h : KID_RE kid = true) : ':' ∉ kid.toList := by
  simp only [KID_RE, decide_eq_true_eq] at h
  intro hc
  exact absurd (List.all_eq_true.mp h.1 _ hc) (by decide)

/-- `v2:<kid>:ivHex:authTagHex:ciphertextHex`. -/
def fiveParts (kid : String) (iv tag ciphertext : Buffer) : String :=
  ":".intercalate ["v2", kid, toHex iv, toHex tag, toHex ciphertext]

theorem parts_fiveParts {kid : String} (hkid : KID_RE kid = true) (iv tag ciphertext : Buffer) :
    parts (fiveParts kid iv tag ciphertext) = ["v2", kid, toHex iv, toHex tag, toHex ciphertext] := by
  refine parts_intercalate ?_ (List.cons_ne_nil _ _)
  intro p hp
  simp only [List.mem_cons, List.not_mem_nil, or_false] at hp
  rcases hp with rfl | rfl | rfl | rfl | rfl
  · decide
  · exact colon_not_mem_kid hkid
  · exact colon_not_mem_toHex iv
  · exact colon_not_mem_toHex tag
  · exact colon_not_mem_toHex ciphertext

/-- A five-part value is read by every provider that keeps the entry of its key id. -/
theorem decrypt_fiveParts {gcm : Gcm} (hgcm : gcm.Correct) {env : Env} {P : EnvKeyProvider}
    (h : buildKeyProviderFromEnv env = .ok P) {kid : String} (hkid : kid ∈ P.listKids .pin) :
    ∃ key, P.getKey .pin kid = .ok key ∧ ∀ (iv : Iv) (p : String) (P' : EnvKeyProvider), p ≠ "" →
      P'.getKey .pin kid = P.getKey .pin kid →
        decrypt gcm P' (fiveParts kid iv.1 (gcm.encipher key iv.1 (utf8 p)).1 (gcm.encipher key iv.1 (utf8 p)).2) =
          .ok p := by
  have hs := (sound_of_build h).1 .pin
  obtain ⟨key, hkey, hlen⟩ := getKey_of_mem hs hkid
  have hre := kid_re_of_pattern (hs.kid kid hkid).1
  refine ⟨key, hkey, ?_⟩
  intro iv p P' hp hkeep
  have hparts := parts_fiveParts hre iv.1 (gcm.encipher key iv.1 (utf8 p)).1 (gcm.encipher key iv.1 (utf8 p)).2
  have hcheck := checkParts_enciphered hgcm iv hlen (utf8_ne_nil hp) hre false
  rw [decrypt, decryptEnvelope, parseEnvelope, hparts]
  dsimp only
  rw [if_pos rfl, hcheck, ok_bind]
  dsimp only [usedKid]
  rw [if_neg Bool.false_ne_true, hkeep, hkey, ok_bind]
  exact gcmDecrypt_enciphered hgcm iv hlen p

/-! ### Accepted keyrings -/

/-- A keyring that is accepted works: nothing in it is decommissioned, its keys are 32 bytes of hexadecimal, its
    active and legacy key ids are there, and writing never fails. What was written is read by it and by every
    provider accepted later whose legacy key id maps to the same key. Three-part values are read with that key
    only. -/
theorem accepted_keyring_works {gcm : Gcm} (hgcm : gcm.Correct) {env : Env} {P : EnvKeyProvider}
    (h : buildKeyProviderFromEnv env = .ok P) :
    (∀ ns, ∀ kid ∈ P.listKids ns, kid ∉ csv env.decommissionedKids) ∧
    (∀ ns, ∀ kid ∈ P.listKids ns, ∃ hex, (P.ring ns).keys.get? kid = some hex ∧ HEX64 hex = true ∧
      P.getKey ns kid = .ok (fromHex hex) ∧ (fromHex hex).length = 32) ∧
    (∀ ns, P.getActiveKid ns ∈ P.listKids ns) ∧ P.getLegacyKid ∈ P.listKids .pin ∧
    (∀ iv p, ∃ stored, encrypt gcm P iv p = .ok stored ∧ (p ≠ "" → decrypt gcm P stored = .ok p ∧
      ∀ env' P', buildKeyProviderFromEnv env' = .ok P' →
        P'.getKey .pin P'.getLegacyKid = P.getKey .pin P.getLegacyKid → decrypt gcm P' stored = .ok p)) ∧
    (∀ stored, (parts stored).length = 3 →
      (∀ p, decrypt gcm P stored = .ok p → ∃ key e text, P.getKey .pin P.getLegacyKid = .ok key ∧
        parseEnvelope stored = .ok e ∧
        gcm.decipher key (fromHex e.ivHex) (fromHex e.tagHex) (fromHex e.ctHex) = some text ∧ p = ofUtf8 text) ∧
      ∀ P' : EnvKeyProvider, P'.getKey .pin P'.getLegacyKid = P.getKey .pin P.getLegacyKid →
        decrypt gcm P' stored = decrypt gcm P stored) := by
  obtain ⟨hs, hl⟩ := sound_of_build h
  obtain ⟨key, hkey, hlen⟩ := legacy_key h
  refine ⟨fun ns kid hk => ((hs ns).kid kid hk).2, ?_, fun ns => (hs ns).active, ?_, ?_, ?_⟩
  · intro ns kid hk
    obtain ⟨hex, hget⟩ := mem_kids.mp hk
    have h64 := (hs ns).hex kid hex hget
    exact ⟨hex, hget, h64, by rw [EnvKeyProvider.getKey, hget], length_fromHex h64⟩
  · rw [EnvKeyProvider.getLegacyKid, hl]
    exact (hs .pin).legacy rfl
  · intro iv p
    refine ⟨_, encrypt_eq gcm iv p hkey hlen, ?_⟩
    intro hp
    refine ⟨decrypt_threeParts hgcm iv hkey hlen hp, ?_⟩
    intro env' P' _ hsame
    exact decrypt_threeParts hgcm iv (hsame.trans hkey) hlen hp
  · intro stored h3
    refine ⟨?_, fun P' hsame => decrypt_congr h3 hsame⟩
    intro p hp
    obtain ⟨e, he, hp⟩ := bind_ok_iff.mp hp
    rw [usedKid, if_pos (parse_three h3 he), hkey, ok_bind] at hp
    obtain ⟨text, ht, rfl⟩ := gcmDecrypt_ok hp
    exact ⟨key, e, text, hkey, he, ht, rfl⟩

/-! ### A legacy key id that moves -/

/-- A cipher that shows the text and marks it with half of the key. -/
def keyTagged : Gcm where
  encipher key _ text := (key.take 16, text)
  decipher key _ tag ciphertext := if tag = key.take 16 then some ciphertext else none

theorem keyTagged_correct : keyTagged.Correct where
  tag_length key iv text hkey _ := by
    show (key.take 16).length = 16
    rw [List.length_take, hkey]
    rfl
  ciphertext_length key iv text _ _ := rfl
  decipher_encipher key iv text _ _ := if_pos rfl

def keyA : String := "00112233445566778899aabbccddeeff00112233445566778899aabbccddeeff"

def keyB : String := "ffeeddccbbaa99887766554433221100ffeeddccbbaa99887766554433221100"

/-- One key, bridged under a key id of its own. -/
def envBefore : Env where
  encryptionKey := some keyA
  encryptionKeys := none
  encryptionKeyActive := none
  encryptionLegacyKid := some "pin-a"
  otpHmacKeys := none
  otpHmacKeyActive := none
  decommissionedKids := none

/-- The same key under the same key id, beside another one, but three-part values resolve to the default again. -/
def envAfter : Env where
  encryptionKey := some keyA
  encryptionKeys := some ("\x7b\"legacy\":\"" ++ keyB ++ "\",\"pin-a\":\"" ++ keyA ++ "\"\x7d")
  encryptionKeyActive := some "pin-a"
  encryptionLegacyKid := none
  otpHmacKeys := none
  otpHmacKeyActive := none
  decommissionedKids := none

def providerBefore : EnvKeyProvider where
  pin := ⟨⟨[("pin-a", keyA)], by decide⟩, "pin-a", true⟩
  otp := ⟨⟨[("otp-legacy", keyA)], by decide⟩, "otp-legacy", true⟩
  legacyKid := "pin-a"

def providerAfter : EnvKeyProvider where
  pin := ⟨⟨[("legacy", keyB), ("pin-a", keyA)], by decide⟩, "pin-a", false⟩
  otp := ⟨⟨[("otp-legacy", keyA)], by decide⟩, "otp-legacy", true⟩
  legacyKid := "legacy"

theorem build_before : buildKeyProviderFromEnv envBefore = .ok providerBefore := by decide +kernel

theorem build_after : buildKeyProviderFromEnv envAfter = .ok providerAfter := by decide +kernel

def zeroIv : Iv := ⟨List.replicate 12 0, rfl⟩

theorem accepted_keyring_works_bridged :
    ∃ stored, encrypt keyTagged providerBefore zeroIv "1234" = .ok stored ∧
      decrypt keyTagged providerBefore stored = .ok "1234" := by
  have h := (accepted_keyring_works keyTagged_correct build_before).2.2.2.2.1 zeroIv "1234"
  obtain ⟨stored, hs, hd⟩ := h
  exact ⟨stored, hs, (hd (by decide)).1⟩

theorem decrypt_fiveParts_kept : ∃ stored, decrypt keyTagged providerAfter stored = .ok "1234" := by
  obtain ⟨key, -, h⟩ :=
    decrypt_fiveParts keyTagged_correct build_before (show "pin-a" ∈ providerBefore.listKids .pin by decide)
  exact ⟨_, h zeroIv "1234" providerAfter (by decide) (by decide)⟩

/-- The entry of the key id that was written with is kept, and yet the value is not read: it does not say which
    key id that was. -/
theorem legacy_kid_moved :
    ∃ stored, encrypt keyTagged providerBefore zeroIv "1234" = .ok stored ∧
      buildKeyProviderFromEnv envBefore = .ok providerBefore ∧ buildKeyProviderFromEnv envAfter = .ok providerAfter ∧
      providerAfter.getKey .pin providerBefore.getLegacyKid = providerBefore.getKey .pin providerBefore.getLegacyKid ∧
      decrypt keyTagged providerAfter stored = .error .gcmAuth := by
  refine ⟨_, rfl, build_before, build_after, ?_, ?_⟩
  · decide
  · decide +kernel

end Redeemo.Encryption
