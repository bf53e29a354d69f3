import Mathlib.Data.List.Basic
import Mathlib.Tactic.IntervalCases

/-! Byte strings as text: hexadecimal and UTF-8.

    Writing bytes in hexadecimal and reading them back gives the bytes (`fromHex_toHex`); reading takes as
    many digit pairs as there are before the first other character. UTF-8 is Lean's own where the bytes are
    well formed; elsewhere each maximal broken piece becomes U+FFFD. -/

namespace Bytes

abbrev Buffer := List UInt8

/-! ### Hexadecimal -/

/-- One lower-case digit. -/
def hexDigit (n : ℕ) : Char := if n < 10 then Char.ofNat (48 + n) else Char.ofNat (87 + n)

/-- The value of a digit of either case. -/
def hexValue (c : Char) : Option ℕ :=
  if '0' ≤ c ∧ c ≤ '9' then some (c.toNat - 48)
  else if 'a' ≤ c ∧ c ≤ 'f' then some (c.toNat - 87)
  else if 'A' ≤ c ∧ c ≤ 'F' then some (c.toNat - 55)
  else none

/-- `[0-9a-fA-F]`. -/
def isHexDigit (c : Char) : Bool := (hexValue c).isSome

def hexChars : Buffer → List Char
  | [] => []
  | b :: bs => hexDigit (b.toNat / 16) :: hexDigit (b.toNat % 16) :: hexChars bs

def readHex : List Char → Buffer
  | a :: b :: cs =>
    match hexValue a, hexValue b with
    | some x, some y => UInt8.ofNat (16 * x + y) :: readHex cs
    | _, _ => []
  | _ => []

def toHex (bs : Buffer) : String := String.ofList (hexChars bs)

def fromHex (s : String) : Buffer := readHex s.toList

theorem hexValue_hexDigit {n : ℕ} (h : n < 16) : hexValue (hexDigit n) = some n := by
  interval_cases n <;> rfl

theorem isHexDigit_hexDigit {n : ℕ} (h : n < 16) : isHexDigit (hexDigit n) = true := by
  rw [isHexDigit, hexValue_hexDigit h, Option.isSome_some]

theorem hexChars_cons (b : UInt8) (bs : Buffer) :
    hexChars (b :: bs) = hexDigit (b.toNat / 16) :: hexDigit (b.toNat % 16) :: hexChars bs := rfl

theorem readHex_pair {a b : Char} {x y : ℕ} (ha : hexValue a = some x) (hb : hexValue b = some y) (cs : List Char) :
    readHex (a :: b :: cs) = UInt8.ofNat (16 * x + y) :: readHex cs := by
  rw [readHex, ha, hb]

theorem readHex_hexChars (bs : Buffer) : readHex (hexChars bs) = bs := by
  induction bs with
  | nil => rfl
  | cons b bs ih =>
    have hb := b.toNat_lt
    rw [hexChars_cons, readHex_pair (hexValue_hexDigit (by omega)) (hexValue_hexDigit (by omega))]
    simp only [ih, Nat.div_add_mod, UInt8.ofNat_toNat]

theorem fromHex_toHex (bs : Buffer) : fromHex (toHex bs) = bs := by
  rw [fromHex, toHex, String.toList_ofList, readHex_hexChars]

theorem length_hexChars (bs : Buffer) : (hexChars bs).length = 2 * bs.length := by
  induction bs with
  | nil => rfl
  | cons b bs ih =>
    rw [hexChars_cons, List.length_cons, List.length_cons, ih, List.length_cons]
    omega

theorem isHexDigit_of_mem_hexChars {c : Char} {bs : Buffer} (h : c ∈ hexChars bs) : isHexDigit c = true := by
  induction bs with
  | nil => cases h
  | cons b bs ih =>
    have hb := b.toNat_lt
    rw [hexChars_cons, List.mem_cons, List.mem_cons] at h
    rcases h with rfl | rfl | h
    · exact isHexDigit_hexDigit (by omega)
    · exact isHexDigit_hexDigit (by omega)
    · exact ih h

/-- Nothing but digits, an even number of them: every pair is read. -/
theorem length_readHex {n : ℕ} : ∀ {cs : List Char}, cs.all isHexDigit = true → cs.length = 2 * n →
    (readHex cs).length = n := by
  induction n with
  | zero =>
    intro cs _ hl
    rw [List.eq_nil_of_length_eq_zero hl]
    rfl
  | succ n ih =>
    intro cs hd hl
    match cs, hd, hl with
    | a :: b :: cs, hd, hl =>
      rw [List.all_cons, List.all_cons, Bool.and_eq_true, Bool.and_eq_true] at hd
      obtain ⟨x, hx⟩ := Option.isSome_iff_exists.mp hd.1
      obtain ⟨y, hy⟩ := Option.isSome_iff_exists.mp hd.2.1
      have hcs : cs.length = 2 * n := by
        rw [List.length_cons, List.length_cons] at hl
        omega
      rw [readHex_pair hx hy, List.length_cons, ih hd.2.2 hcs]

/-! ### UTF-8 -/

def utf8 (s : String) : Buffer := s.toByteArray.data.toList

/-- A character begun: how many bytes it still wants, between which bounds the next one lies, and its value
    so far. -/
structure Begun where
  needed : ℕ
  lower : ℕ
  upper : ℕ
  value : ℕ

def replacement : Char := '\uFFFD'

/-- The first byte of a character. -/
def begin (b : ℕ) : List Char × Option Begun :=
  if b < 0x80 then ([Char.ofNat b], none)
  else if 0xC2 ≤ b ∧ b ≤ 0xDF then ([], some ⟨1, 0x80, 0xBF, b - 0xC0⟩)
  else if 0xE0 ≤ b ∧ b ≤ 0xEF then
    ([], some ⟨2, if b = 0xE0 then 0xA0 else 0x80, if b = 0xED then 0x9F else 0xBF, b - 0xE0⟩)
  else if 0xF0 ≤ b ∧ b ≤ 0xF4 then
    ([], some ⟨3, if b = 0xF0 then 0x90 else 0x80, if b = 0xF4 then 0x8F else 0xBF, b - 0xF0⟩)
  else ([replacement], none)

/-- A later byte. One that is out of bounds ends the broken character and begins the next. -/
def continued (p : Begun) (b : ℕ) : List Char × Option Begun :=
  if p.lower ≤ b ∧ b ≤ p.upper then
    if p.needed = 1 then ([Char.ofNat (64 * p.value + (b - 0x80))], none)
    else ([], some ⟨p.needed - 1, 0x80, 0xBF, 64 * p.value + (b - 0x80)⟩)
  else (replacement :: (begin b).1, (begin b).2)

def decodeFrom : Option Begun → Buffer → List Char
  | none, [] => []
  | some _, [] => [replacement]
  | none, b :: bs => (begin b.toNat).1 ++ decodeFrom (begin b.toNat).2 bs
  | some p, b :: bs => (continued p b.toNat).1 ++ decodeFrom (continued p b.toNat).2 bs

def ofUtf8 (bs : Buffer) : String :=
  (String.fromUTF8? ⟨bs.toArray⟩).getD (String.ofList (decodeFrom none bs))

theorem ofUtf8_utf8 (s : String) : ofUtf8 (utf8 s) = s := by
  rw [ofUtf8, utf8, Array.toArray_toList, String.fromUTF8?, dif_pos s.isValidUTF8]
  rfl

example : ofUtf8 [0x41, 0xE2, 0x82, 0x41, 0xC3, 0xA9] = "A\uFFFDAé" := by decide

theorem utf8_ne_nil {s : String} (h : s ≠ "") : utf8 s ≠ [] := by
  intro hn
  refine h ?_
  rw [← ofUtf8_utf8 s, hn, ← ofUtf8_utf8 ""]
  rfl

end Bytes
