import Redeemo.Lib.Bytes
import Redeemo.Lib.Records
import Mathlib.Data.List.Sort
import Mathlib.Data.Rat.Floor

/-! Reading JSON text.

    The text is cut into tokens character by character, and the tokens drive a pushdown machine: what it has
    open is a stack of arrays and of members that wait for their value. A key that is written twice keeps the
    last value and its first place. Numbers are read exactly. An escape that is half of a surrogate pair
    stands for U+FFFD. -/

namespace Records

open Bytes (hexValue)

/-! ### Tokens -/

inductive Token
  | lbrace
  | rbrace
  | lbracket
  | rbracket
  | colon
  | comma
  /-- A string, by its code units. -/
  | string (us : List ℕ)
  /-- A number or a literal. -/
  | value (v : Json)

inductive Mode
  | between
  /-- A number or a literal, its characters so far. -/
  | word (cs : List Char)
  /-- A string, its code units so far. -/
  | string (us : List ℕ)
  | escape (us : List ℕ)
  /-- The digits of a `\u` escape, their number and their value so far. -/
  | unicode (us : List ℕ) (n value : ℕ)

def isJsonSpace (c : Char) : Bool := c = ' ' ∨ c = '\t' ∨ c = '\n' ∨ c = '\r'

def punctuation : Char → Option Token
  | '{' => some .lbrace
  | '}' => some .rbrace
  | '[' => some .lbracket
  | ']' => some .rbracket
  | ':' => some .colon
  | ',' => some .comma
  | _ => none

def escaped : Char → Option ℕ
  | '"' => some 0x22
  | '\\' => some 0x5C
  | '/' => some 0x2F
  | 'b' => some 0x08
  | 'f' => some 0x0C
  | 'n' => some 0x0A
  | 'r' => some 0x0D
  | 't' => some 0x09
  | _ => none

/-- The UTF-16 code units of a character. -/
def utf16 (c : Char) : List ℕ :=
  if c.toNat < 0x10000 then [c.toNat]
  else [0xD800 + (c.toNat - 0x10000) / 0x400, 0xDC00 + (c.toNat - 0x10000) % 0x400]

/-- The characters of UTF-16 code units. -/
def ofUtf16 : List ℕ → List Char
  | [] => []
  | [u] => [if 0xD800 ≤ u ∧ u ≤ 0xDFFF then Bytes.replacement else Char.ofNat u]
  | u :: u' :: us =>
    if 0xD800 ≤ u ∧ u ≤ 0xDBFF ∧ 0xDC00 ≤ u' ∧ u' ≤ 0xDFFF then
      Char.ofNat (0x10000 + (u - 0xD800) * 0x400 + (u' - 0xDC00)) :: ofUtf16 us
    else (if 0xD800 ≤ u ∧ u ≤ 0xDFFF then Bytes.replacement else Char.ofNat u) :: ofUtf16 (u' :: us)

def natOf (digits : List Char) : ℕ := digits.foldl (fun n c => 10 * n + (c.toNat - 48)) 0

/-- `[eE][+-]?\d+`, or nothing. -/
def exponentOf : List Char → Option ℤ
  | [] => some 0
  | e :: cs =>
    let (negative, digits) := match cs with
      | '-' :: ds => (true, ds)
      | '+' :: ds => (false, ds)
      | ds => (false, ds)
    if (e = 'e' ∨ e = 'E') ∧ digits ≠ [] ∧ digits.all Char.isDigit then
      some (if negative then -(natOf digits : ℤ) else natOf digits)
    else none

/-- The fraction's digits, if there is one, and what comes after it. -/
def fractionOf : List Char → Option (List Char × List Char)
  | '.' :: cs =>
    if cs.takeWhile Char.isDigit = [] then none else some (cs.takeWhile Char.isDigit, cs.dropWhile Char.isDigit)
  | cs => some ([], cs)

/-- `-?(0|[1-9]\d*)(\.\d+)?([eE][+-]?\d+)?`. -/
def numberOf (cs : List Char) : Option ℚ := do
  let (negative, unsigned) := match cs with
    | '-' :: r => (true, r)
    | r => (false, r)
  let whole := unsigned.takeWhile Char.isDigit
  let whole ← if whole = [] ∨ (whole.head? = some '0' ∧ whole ≠ ['0']) then none else some whole
  let (fraction, rest) ← fractionOf (unsigned.dropWhile Char.isDigit)
  let exponent ← exponentOf rest
  let q : ℚ := (natOf (whole ++ fraction) : ℚ) * (10 : ℚ) ^ (exponent - fraction.length)
  return if negative then -q else q

def wordOf (cs : List Char) : Option Json :=
  if cs = "null".toList then some .null
  else if cs = "true".toList then some (.bool true)
  else if cs = "false".toList then some (.bool false)
  else (numberOf cs).map .number

/-- The next character within a string, but for the quote that closes it. -/
def Mode.read : Mode → Char → Option Mode
  | .string us, c =>
    if c = '\\' then some (.escape us) else if c = '"' ∨ c.toNat < 0x20 then none else some (.string (us ++ utf16 c))
  | .escape us, c => if c = 'u' then some (.unicode us 0 0) else (escaped c).map fun u => .string (us ++ [u])
  | .unicode us n value, c =>
    (hexValue c).map fun d =>
      if n = 3 then .string (us ++ [16 * value + d]) else .unicode us (n + 1) (16 * value + d)
  | _, _ => none

/-- The tokens of the text, `none` where a character fits none. -/
def tokens : Mode → List Char → Option (List Token)
  | .between, [] => some []
  | .word w, [] => (wordOf w).map fun v => [.value v]
  | _, [] => none
  | .between, c :: cs =>
    if isJsonSpace c then tokens .between cs
    else if c = '"' then tokens (.string []) cs
    else match punctuation c with
      | some t => (tokens .between cs).map (t :: ·)
      | none => tokens (.word [c]) cs
  | .word w, c :: cs =>
    if isJsonSpace c then do return .value (← wordOf w) :: (← tokens .between cs)
    else if c = '"' then none
    else match punctuation c with
      | some t => do return .value (← wordOf w) :: t :: (← tokens .between cs)
      | none => tokens (.word (w ++ [c])) cs
  | .string us, c :: cs =>
    if c = '"' then (tokens .between cs).map (.string us :: ·)
    else match Mode.read (.string us) c with
      | some m => tokens m cs
      | none => none
  | m, c :: cs =>
    match m.read c with
    | some m' => tokens m' cs
    | none => none

/-! ### Values -/

inductive Frame
  | items (before : List Json)
  | member (before : Record) (key : String)

inductive Reading
  /-- A value must come. -/
  | value (open_ : List Frame)
  /-- An array was opened. -/
  | items (open_ : List Frame)
  /-- An object was opened. -/
  | members (open_ : List Frame)
  /-- A key must come, after a comma. -/
  | key (before : Record) (open_ : List Frame)
  | colon (before : Record) (key : String) (open_ : List Frame)
  /-- A value within an array or an object is complete, and with it this much of the array or object. -/
  | inArray (before : List Json) (open_ : List Frame)
  | inObject (before : Record) (open_ : List Frame)
  | ended (v : Json)

def stringOf (us : List ℕ) : String := String.ofList (ofUtf16 us)

def complete (v : Json) : List Frame → Reading
  | [] => .ended v
  | .items before :: fs => .inArray (before ++ [v]) fs
  | .member before key :: fs => .inObject (before.spread [(key, v)]) fs

/-- A value begins. -/
def beginValue (fs : List Frame) : Token → Option Reading
  | .value v => some (complete v fs)
  | .string us => some (complete (.string (stringOf us)) fs)
  | .lbracket => some (.items fs)
  | .lbrace => some (.members fs)
  | _ => none

def Reading.next : Reading → Token → Option Reading
  | .value fs, t => beginValue fs t
  | .items fs, .rbracket => some (complete (.array []) fs)
  | .items fs, t => beginValue (.items [] :: fs) t
  | .members fs, .rbrace => some (complete (.object []) fs)
  | .members fs, .string us => some (.colon [] (stringOf us) fs)
  | .key before fs, .string us => some (.colon before (stringOf us) fs)
  | .colon before k fs, .colon => some (.value (.member before k :: fs))
  | .inArray before fs, .comma => some (.value (.items before :: fs))
  | .inArray before fs, .rbracket => some (complete (.array before) fs)
  | .inObject before fs, .comma => some (.key before fs)
  | .inObject before fs, .rbrace => some (complete (.object before) fs)
  | _, _ => none

/-- `JSON.parse`; `none` where it throws. -/
def Json.parse (s : String) : Option Json := do
  match ← (← tokens .between s.toList).foldlM Reading.next (.value []) with
  | .ended v => some v
  | _ => none

/-! ### Entries -/

/-- The array index that a key spells. -/
def arrayIndex (key : String) : Option ℕ :=
  if key.toList ≠ [] ∧ key.toList.all Char.isDigit ∧ (key.toList.head? = some '0' → key = "0") ∧
    natOf key.toList < 2 ^ 32 - 1 then some (natOf key.toList) else none

/-- `Object.entries`: the array indices first, in ascending order. -/
def Record.ownEntries (r : Record) : Record :=
  (r.filter fun e => (arrayIndex e.1).isSome).insertionSort
      (fun e f => (arrayIndex e.1).getD 0 ≤ (arrayIndex f.1).getD 0) ++
    r.filter fun e => (arrayIndex e.1).isNone

theorem Record.mem_ownEntries {r : Record} {e : String × Json} : e ∈ r.ownEntries ↔ e ∈ r := by
  rw [ownEntries, List.mem_append, List.mem_insertionSort, List.mem_filter, List.mem_filter]
  cases arrayIndex e.1 <;> simp

end Records
