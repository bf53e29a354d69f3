import Mathlib.Tactic.Linarith
import Mathlib.Data.List.Basic

/-! "HH:mm" wall-clock strings.

    The validators of opening hours and of availability windows check a string against the same
    regular expression and then read it as minutes since midnight, through `split(':')` and
    `parseInt` or `Number`. On a string that passes the check the two readings agree and are
    injective (`minutes_of_regex`, `regex_injective`). -/

namespace Redeemo.WallTime

/-- `/^([01]\d|2[0-3]):[0-5]\d$/`. -/
def HHMM_REGEX (s : String) : Bool :=
  match s.toList with
  | [a, b, c, d, e] =>
    (((a = '0' ∨ a = '1') ∧ b.isDigit) ∨ (a = '2' ∧ '0' ≤ b ∧ b ≤ '3')) ∧ c = ':' ∧
      ('0' ≤ d ∧ d ≤ '5') ∧ e.isDigit
  | _ => false

/-- `s.split(':')`. -/
def splitColon : List Char → List (List Char)
  | [] => [[]]
  | c :: cs =>
    if c = ':' then [] :: splitColon cs
    else match splitColon cs with
      | [] => [[c]]
      | p :: ps => (c :: p) :: ps

def digitsValue (cs : List Char) : ℤ := cs.foldl (fun n c => 10 * n + ((c.toNat : ℤ) - 48)) 0

/-- `parseInt(s, 10)` on the unsigned strings it meets here: the leading digits, `none` for NaN. -/
def parseInt (cs : List Char) : Option ℤ :=
  match cs.takeWhile Char.isDigit with
  | [] => none
  | d :: ds => some (digitsValue (d :: ds))

/-- `Number(s)` on decimal digits (the empty string is 0); `none` for NaN. Strings in another
    number syntax never pass a validator. -/
def number (cs : List Char) : Option ℤ := if cs.all Char.isDigit then some (digitsValue cs) else none

/-- Minutes since midnight of the two leading parts of a split string. -/
def hhmm (read : List Char → Option ℤ) (s : String) : Option ℤ :=
  match splitColon s.toList with
  | h :: m :: _ => do return (← read h) * 60 + (← read m)
  | _ => none

/-! ### Strings that pass the check -/

theorem isDigit_iff (c : Char) : c.isDigit = true ↔ 48 ≤ c.toNat ∧ c.toNat ≤ 57 := by
  simp only [Char.isDigit, Bool.and_eq_true, decide_eq_true_eq, Char.toNat]
  constructor
  · rintro ⟨h1, h2⟩
    exact ⟨h1, h2⟩
  · rintro ⟨h1, h2⟩
    exact ⟨h1, h2⟩

theorem char_le_iff (a b : Char) : a ≤ b ↔ a.toNat ≤ b.toNat := Iff.rfl

/-- A string that passes the check is two digit pairs around a colon, the pairs within a day. -/
theorem regex_shape {s : String} (h : HHMM_REGEX s = true) :
    ∃ a b d e : Char, s.toList = [a, b, ':', d, e] ∧
      (48 ≤ a.toNat ∧ a.toNat ≤ 57) ∧ (48 ≤ b.toNat ∧ b.toNat ≤ 57) ∧
      (48 ≤ d.toNat ∧ d.toNat ≤ 57) ∧ (48 ≤ e.toNat ∧ e.toNat ≤ 57) ∧
      10 * ((a.toNat : ℤ) - 48) + ((b.toNat : ℤ) - 48) < 24 ∧
      10 * ((d.toNat : ℤ) - 48) + ((e.toNat : ℤ) - 48) < 60 := by
  unfold HHMM_REGEX at h
  split at h
  · next a b c d e hs =>
    simp only [decide_eq_true_eq, isDigit_iff, char_le_iff] at h
    obtain ⟨hab, rfl, hd, he⟩ := h
    have h0 : '0'.toNat = 48 := rfl
    have h1 : '1'.toNat = 49 := rfl
    have h2 : '2'.toNat = 50 := rfl
    have h3 : '3'.toNat = 51 := rfl
    have h5 : '5'.toNat = 53 := rfl
    refine ⟨a, b, d, e, hs, ?_, ?_, ?_, he, ?_, ?_⟩
    · rcases hab with ⟨rfl | rfl, -⟩ | ⟨rfl, -⟩ <;> omega
    · rcases hab with ⟨-, hb⟩ | ⟨-, hb⟩ <;> omega
    · omega
    · rcases hab with ⟨rfl | rfl, hb⟩ | ⟨rfl, hb⟩ <;> omega
    · omega
  · cases h

theorem isDigit_ne_colon {c : Char} (h : 48 ≤ c.toNat ∧ c.toNat ≤ 57) : c ≠ ':' := by
  rintro rfl
  have : ':'.toNat = 58 := rfl
  omega

theorem split_shape {a b d e : Char} (ha : 48 ≤ a.toNat ∧ a.toNat ≤ 57)
    (hb : 48 ≤ b.toNat ∧ b.toNat ≤ 57) (hd : 48 ≤ d.toNat ∧ d.toNat ≤ 57)
    (he : 48 ≤ e.toNat ∧ e.toNat ≤ 57) : splitColon [a, b, ':', d, e] = [[a, b], [d, e]] := by
  simp [splitColon, isDigit_ne_colon ha, isDigit_ne_colon hb, isDigit_ne_colon hd,
    isDigit_ne_colon he]

theorem read_pair {c d : Char} (hc : 48 ≤ c.toNat ∧ c.toNat ≤ 57)
    (hd : 48 ≤ d.toNat ∧ d.toNat ≤ 57) :
    parseInt [c, d] = some (10 * ((c.toNat : ℤ) - 48) + ((d.toNat : ℤ) - 48)) ∧
    number [c, d] = some (10 * ((c.toNat : ℤ) - 48) + ((d.toNat : ℤ) - 48)) := by
  have h1 := (isDigit_iff c).mpr hc
  have h2 := (isDigit_iff d).mpr hd
  constructor
  · simp [parseInt, digitsValue, h1, h2]
  · simp [number, digitsValue, h1, h2]

/-- The minutes a checked string stands for; both readings of the program give them. -/
theorem minutes_of_regex {s : String} (h : HHMM_REGEX s = true) :
    ∃ n : ℤ, 0 ≤ n ∧ n < 1440 ∧ hhmm parseInt s = some n ∧ hhmm number s = some n := by
  obtain ⟨a, b, d, e, hs, ha, hb, hd, he, hh, hm⟩ := regex_shape h
  refine ⟨(10 * ((a.toNat : ℤ) - 48) + ((b.toNat : ℤ) - 48)) * 60
    + (10 * ((d.toNat : ℤ) - 48) + ((e.toNat : ℤ) - 48)), by omega, by omega, ?_, ?_⟩
  · simp [hhmm, hs, split_shape ha hb hd he, (read_pair ha hb).1, (read_pair hd he).1]
  · simp [hhmm, hs, split_shape ha hb hd he, (read_pair ha hb).2, (read_pair hd he).2]

/-- Checked strings with the same minutes are the same string. -/
theorem regex_injective {s t : String} (hs : HHMM_REGEX s = true) (ht : HHMM_REGEX t = true)
    (h : hhmm number s = hhmm number t) : s = t := by
  obtain ⟨a, b, d, e, hsl, ha, hb, hd, he, hh, hm⟩ := regex_shape hs
  obtain ⟨a', b', d', e', htl, ha', hb', hd', he', hh', hm'⟩ := regex_shape ht
  have hs' : hhmm number s = some ((10 * ((a.toNat : ℤ) - 48) + ((b.toNat : ℤ) - 48)) * 60
      + (10 * ((d.toNat : ℤ) - 48) + ((e.toNat : ℤ) - 48))) := by
    simp [hhmm, hsl, split_shape ha hb hd he, (read_pair ha hb).2, (read_pair hd he).2]
  have ht' : hhmm number t = some ((10 * ((a'.toNat : ℤ) - 48) + ((b'.toNat : ℤ) - 48)) * 60
      + (10 * ((d'.toNat : ℤ) - 48) + ((e'.toNat : ℤ) - 48))) := by
    simp [hhmm, htl, split_shape ha' hb' hd' he', (read_pair ha' hb').2, (read_pair hd' he').2]
  rw [hs', ht', Option.some.injEq] at h
  have hinj : ∀ {c c' : Char}, c.toNat = c'.toNat → c = c' := fun h => Char.toNat_inj.mp h
  obtain rfl := hinj (show a.toNat = a'.toNat by omega)
  obtain rfl := hinj (show b.toNat = b'.toNat by omega)
  obtain rfl := hinj (show d.toNat = d'.toNat by omega)
  obtain rfl := hinj (show e.toNat = e'.toNat by omega)
  exact String.toList_inj.mp (hsl.trans htl.symm)

theorem regex_ne_endOfDay {s : String} (h : HHMM_REGEX s = true) : s ≠ "24:00" := by
  rintro rfl
  exact absurd h (by decide)

example : hhmm parseInt "09:30" = some 570 ∧ HHMM_REGEX "24:00" = false := by decide

end Redeemo.WallTime
