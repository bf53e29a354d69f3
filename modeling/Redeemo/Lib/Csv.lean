import Mathlib.Data.List.Basic

/-! Comma-separated values after RFC 4180: a writer that quotes every field, and a reader.

    The reader takes quoted and bare fields. A quote inside quotes is doubled; commas, line breaks and anything else
    may stand inside quotes, and nothing but a comma, a line break or the end after them. -/

namespace Csv

abbrev Field := List Char
abbrev Record := List Field

/-! ### Writing -/

def quote (f : Field) : List Char := '"' :: f.flatMap (fun c => if c = '"' then ['"', '"'] else [c]) ++ ['"']

def writeRecord (r : Record) : List Char := [','].intercalate (r.map quote)

def write (rs : List Record) : List Char := ['\r', '\n'].intercalate (rs.map writeRecord)

/-! ### Reading -/

/-- Where the reader stands: before a record, before a further field of one, in a bare or a quoted field, or after a
    quote in a quoted field. -/
inductive Place
  | record | field | bare | quoted | closed
  deriving DecidableEq

/-- The character in front of the first field. -/
def consChar (c : Char) : List Record → List Record
  | (f :: r) :: rs => ((c :: f) :: r) :: rs
  | rs => rs

/-- What follows is the next field. -/
def nextField : List Record → List Record
  | r :: rs => ([] :: r) :: rs
  | [] => [[[]]]

/-- What follows are the next records. -/
def nextRecord (rs : List Record) : List Record := [[]] :: rs

/-- The records of the text. Between the ends of a field the result is about what is left of it. -/
def readFrom : Place → List Char → Option (List Record)
  | .record, [] => some []
  | .quoted, [] => none
  | _, [] => some [[[]]]
  | .quoted, '"' :: cs => readFrom .closed cs
  | .quoted, c :: cs => (readFrom .quoted cs).map (consChar c)
  | .closed, '"' :: cs => (readFrom .quoted cs).map (consChar '"')
  | .record, '"' :: cs => readFrom .quoted cs
  | .field, '"' :: cs => readFrom .quoted cs
  | .bare, '"' :: _ => none
  | _, ',' :: cs => (readFrom .field cs).map nextField
  | _, '\r' :: '\n' :: cs => (readFrom .record cs).map nextRecord
  | .closed, _ :: _ => none
  | _, '\r' :: _ => none
  | _, '\n' :: _ => none
  | _, c :: cs => (readFrom .bare cs).map (consChar c)

def read (cs : List Char) : Option (List Record) := readFrom .record cs

/-! ### Reading what was written -/

variable {f g : Field} {r : Record} {rs : List Record} {c : Char} {cs : List Char} {p : Place}

theorem writeRecord_singleton : writeRecord [f] = quote f := by
  rw [writeRecord, List.map_singleton, List.intercalate_singleton]

theorem readFrom_quoted_cons (hc : c ≠ '"') :
    readFrom .quoted (c :: cs) = (readFrom .quoted cs).map (consChar c) := by
  rw [readFrom]
  exact hc

theorem readFrom_quoted_quote : readFrom .quoted ('"' :: cs) = readFrom .closed cs := rfl

theorem readFrom_closed_quote : readFrom .closed ('"' :: cs) = (readFrom .quoted cs).map (consChar '"') := rfl

theorem readFrom_closed_comma : readFrom .closed (',' :: cs) = (readFrom .field cs).map nextField := rfl

theorem readFrom_closed_lineBreak :
    readFrom .closed ('\r' :: '\n' :: cs) = (readFrom .record cs).map nextRecord := rfl

theorem readFrom_quoted (h : readFrom .closed cs = some ((g :: r) :: rs)) :
    readFrom .quoted (f.flatMap (fun c => if c = '"' then ['"', '"'] else [c]) ++ '"' :: cs) =
      some (((f ++ g) :: r) :: rs) := by
  induction f with
  | nil => exact h
  | cons c f ih =>
    rw [List.flatMap_cons, List.append_assoc]
    by_cases hc : c = '"'
    · subst hc
      rw [if_pos rfl]
      simp only [List.cons_append, List.nil_append, readFrom_quoted_quote, readFrom_closed_quote, ih]
      rfl
    · rw [if_neg hc, List.singleton_append, readFrom_quoted_cons hc, ih]
      rfl

theorem readFrom_quote (hp : p = .record ∨ p = .field) (h : readFrom .closed cs = some (([] :: r) :: rs)) :
    readFrom p (quote f ++ cs) = some ((f :: r) :: rs) := by
  have hq : readFrom p (quote f ++ cs) =
      readFrom .quoted (f.flatMap (fun c => if c = '"' then ['"', '"'] else [c]) ++ '"' :: cs) := by
    rw [quote, List.cons_append, List.cons_append, List.append_assoc, List.singleton_append]
    rcases hp with rfl | rfl
    · rfl
    · rfl
  rw [hq, readFrom_quoted h, List.append_nil]

theorem readFrom_writeRecord (hp : p = .record ∨ p = .field) (hr : r ≠ [])
    (h : readFrom .closed cs = some ([[]] :: rs)) : readFrom p (writeRecord r ++ cs) = some (r :: rs) := by
  induction r generalizing p with
  | nil => exact absurd rfl hr
  | cons f r ih =>
    cases r with
    | nil =>
      rw [writeRecord_singleton]
      exact readFrom_quote hp h
    | cons f' r =>
      have hrest : readFrom .closed (',' :: (writeRecord (f' :: r) ++ cs)) = some (([] :: f' :: r) :: rs) := by
        rw [readFrom_closed_comma, ih (.inr rfl) (List.cons_ne_nil _ _)]
        rfl
      have happ : writeRecord (f :: f' :: r) ++ cs = quote f ++ ',' :: (writeRecord (f' :: r) ++ cs) := by
        simp [writeRecord]
      rw [happ]
      exact readFrom_quote hp hrest

/-- A reader gets back the records that were written, if each has a field. -/
theorem read_write (h : ∀ r ∈ rs, r ≠ []) : read (write rs) = some rs := by
  induction rs with
  | nil => rfl
  | cons r rs ih =>
    have hr := h r List.mem_cons_self
    cases rs with
    | nil =>
      rw [write, List.map_singleton, List.intercalate_singleton, read, ← List.append_nil (writeRecord r)]
      exact readFrom_writeRecord (.inl rfl) hr rfl
    | cons r' rs =>
      have hrest : readFrom .closed ('\r' :: '\n' :: write (r' :: rs)) = some ([[]] :: r' :: rs) := by
        rw [readFrom_closed_lineBreak, ← read, ih fun s hs => h s (List.mem_cons_of_mem r hs)]
        rfl
      have happ : write (r :: r' :: rs) = writeRecord r ++ '\r' :: '\n' :: write (r' :: rs) := by
        simp [write]
      rw [happ, read]
      exact readFrom_writeRecord (.inl rfl) hr hrest

example : read "\"a\"\"b\",c\r\n\r\n\"d\r\ne\"".toList = some [[['a', '"', 'b'], ['c']], [[]], [['d', '\r', '\n', 'e']]] := by
  decide

end Csv
