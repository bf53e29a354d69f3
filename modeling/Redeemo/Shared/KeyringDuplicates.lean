import Mathlib.Data.Finset.Card
import Mathlib.Data.List.Forall2
import Redeemo.Shared.Keyring

/-! Keys declared twice.

    The scan of the raw map goes from brace to brace and from quote to quote. On a text that is read as an object it
    visits the strings that stand before a colon at the depth of one, and these are the names of the members
    (`scanKeys_between`). Written alike they are repeated keys; decoded alike there are more of them than keys that
    were parsed. -/

namespace Redeemo.Keyring
open Records

/-- The string, as it is written between its quotes, has these code units. -/
def Decodes (written : List Char) (us : List ℕ) : Prop := written.foldlM Mode.read (.string []) = some (.string us)

theorem Decodes.unique {written : List Char} {us us' : List ℕ} (h : Decodes written us) (h' : Decodes written us') :
    us = us' := by
  have heq : some (Mode.string us) = some (.string us') := h.symm.trans h'
  cases heq
  rfl

def RawKeys.addAll (k : RawKeys) (written : List (List Char)) : RawKeys :=
  written.foldl (fun k s => k.add (String.ofList s)) k

/-! ### One character -/

section scan
variable {c : Char} {cs : List Char} {depth : ℤ} {k : RawKeys}

theorem scanKeys_nil (s : Option (List Char)) : scanKeys s depth k [] = k := by
  cases s <;> rfl

theorem scanKeys_outside : scanKeys none depth k (c :: cs) =
    if c = '{' ∨ c = '[' then scanKeys none (depth + 1) k cs
    else if c = '}' ∨ c = ']' then scanKeys none (depth - 1) k cs
    else if c = '"' then scanKeys (some []) depth k cs
    else scanKeys none depth k cs := rfl

theorem scanKeys_escaped {s : List Char} : scanKeys (some s) depth k ('\\' :: c :: cs) =
    scanKeys (some (s ++ ['\\', c])) depth k cs := rfl

theorem scanKeys_closed {s : List Char} : scanKeys (some s) depth k ('"' :: cs) =
    scanKeys none depth
      (if depth = 1 ∧ (cs.dropWhile isJsonSpace).head? = some ':' then k.add (String.ofList s) else k) cs := by
  cases cs <;> rfl

theorem scanKeys_other (hbrace : c ≠ '{' ∧ c ≠ '[') (hclose : c ≠ '}' ∧ c ≠ ']') (hquote : c ≠ '"') :
    scanKeys none depth k (c :: cs) = scanKeys none depth k cs := by
  rw [scanKeys_outside, if_neg (not_or.mpr hbrace), if_neg (not_or.mpr hclose), if_neg hquote]

theorem scanKeys_space (h : isJsonSpace c = true) : scanKeys none depth k (c :: cs) = scanKeys none depth k cs := by
  rw [isJsonSpace, decide_eq_true_eq] at h
  rcases h with rfl | rfl | rfl | rfl <;> exact scanKeys_other (by decide) (by decide) (by decide)

theorem scanKeys_word (hquote : c ≠ '"') (hmark : punctuation c = none) :
    scanKeys none depth k (c :: cs) = scanKeys none depth k cs := by
  refine scanKeys_other ⟨?_, ?_⟩ ⟨?_, ?_⟩ hquote <;> rintro rfl <;> cases hmark

theorem scanKeys_punctuation {t : Token} (h : punctuation c = some t) :
    scanKeys none depth k (c :: cs) = scanKeys none (depth + t.nesting) k cs := by
  unfold punctuation at h
  split at h <;> cases h
  case h_1 => rw [scanKeys_outside, if_pos (.inl rfl)]; rfl
  case h_2 => rw [scanKeys_outside, if_neg (by decide), if_pos (.inl rfl)]; rfl
  case h_3 => rw [scanKeys_outside, if_pos (.inr rfl)]; rfl
  case h_4 => rw [scanKeys_outside, if_neg (by decide), if_pos (.inr rfl)]; rfl
  case h_5 => exact (scanKeys_other (by decide) (by decide) (by decide)).trans (by simp [Token.nesting])
  case h_6 => exact (scanKeys_other (by decide) (by decide) (by decide)).trans (by simp [Token.nesting])

/-- A character that is neither a quote nor a backslash is taken into the string. -/
theorem scanKeys_plain {s : List Char} (hslash : c ≠ '\\') (hquote : c ≠ '"') :
    scanKeys (some s) depth k (c :: cs) = scanKeys (some (s ++ [c])) depth k cs := by
  rw [scanKeys, if_neg hquote]
  · rintro rfl
    exact absurd rfl hslash
  · rintro c' cs' rfl
    exact absurd rfl hslash

/-! ### One string -/

/-- What the scan has not yet taken in of what was read: it takes a backslash together with what comes next. -/
def pending : Mode → List Char
  | .escape _ => ['\\']
  | _ => []

@[simp] theorem pending_string (us : List ℕ) : pending (.string us) = [] := rfl
@[simp] theorem pending_escape (us : List ℕ) : pending (.escape us) = ['\\'] := rfl
@[simp] theorem pending_unicode (us : List ℕ) (n value : ℕ) : pending (.unicode us n value) = [] := rfl

theorem plain_of_hexValue {d : ℕ} (h : Bytes.hexValue c = some d) : c ≠ '\\' ∧ c ≠ '"' := by
  constructor
  · rintro rfl
    cases (show Bytes.hexValue '\\' = none by decide).symm.trans h
  · rintro rfl
    cases (show Bytes.hexValue '"' = none by decide).symm.trans h

/-- The scan of a string to the quote that closes it. -/
theorem scanKeys_string {written rest : List Char} {m : Mode} {us : List ℕ}
    (h : written.foldlM Mode.read m = some (.string us)) (s : List Char) :
    scanKeys (some s) depth k (pending m ++ written ++ '"' :: rest) =
      scanKeys none depth
        (if depth = 1 ∧ (rest.dropWhile isJsonSpace).head? = some ':' then
          k.add (String.ofList (s ++ pending m ++ written)) else k) rest := by
  induction written generalizing m s with
  | nil =>
    cases h
    simp only [pending_string, List.nil_append, List.append_nil]
    exact scanKeys_closed
  | cons c written ih =>
    rw [List.foldlM_cons] at h
    obtain ⟨m', hread, hleft⟩ := Option.bind_eq_some_iff.mp h
    cases m with
    | string us₀ =>
      rw [Mode.read] at hread
      split_ifs at hread with hslash hquote
      · cases hread
        have hrest := ih hleft s
        simp only [pending_string, pending_escape, List.append_assoc, List.cons_append, List.nil_append] at hrest ⊢
        rw [hslash]
        exact hrest
      · cases hread
        have hrest := ih hleft (s ++ [c])
        simp only [pending_string, List.append_assoc, List.cons_append, List.nil_append] at hrest ⊢
        rw [scanKeys_plain hslash fun hc => hquote (.inl hc)]
        exact hrest
    | escape us₀ =>
      have hpending : pending m' = [] := by
        rw [Mode.read] at hread
        split_ifs at hread
        · cases hread
          rfl
        · obtain ⟨u, -, rfl⟩ := Option.map_eq_some_iff.mp hread
          rfl
      have hrest := ih hleft (s ++ ['\\', c])
      simp only [hpending, pending_escape, List.append_assoc, List.cons_append, List.nil_append] at hrest ⊢
      exact scanKeys_escaped.trans hrest
    | unicode us₀ n value =>
      obtain ⟨d, hd, rfl⟩ := Option.map_eq_some_iff.mp hread
      obtain ⟨hslash, hquote⟩ := plain_of_hexValue hd
      have hpending : pending (if n = 3 then .string (us₀ ++ [16 * value + d])
          else .unicode us₀ (n + 1) (16 * value + d)) = [] := by
        split_ifs <;> rfl
      have hrest := ih hleft (s ++ [c])
      simp only [hpending, pending_unicode, List.append_assoc, List.cons_append, List.nil_append] at hrest ⊢
      rw [scanKeys_plain hslash hquote]
      exact hrest
    | between => cases hread
    | word w => cases hread

end scan

/-! ### The whole text -/

/-- The scan of the text adds the names of the members that the tokens name, as they are written. -/
def Visits (r : Reading) (ts : List Token) (cs : List Char) : Prop :=
  ∀ k : RawKeys, ∃ written, List.Forall₂ Decodes written (memberNames r ts) ∧
    scanKeys none r.depth k cs = k.addAll written

/-- A token that is no name of a member. -/
theorem visits_cons {r r' : Reading} {t : Token} {ts : List Token} {cs cs' : List Char} (hnext : r.next t = some r')
    (hname : r.memberName t = none) (hscan : ∀ k, scanKeys none r.depth k cs = scanKeys none r'.depth k cs')
    (h : Visits r' ts cs') : Visits r (t :: ts) cs := by
  intro k
  obtain ⟨written, hdecodes, hvisited⟩ := h k
  refine ⟨written, ?_, (hscan k).trans hvisited⟩
  rw [memberNames_cons hnext, hname]
  exact hdecodes

theorem exists_next {r : Reading} {t : Token} {ts : List Token} {v : Json}
    (h : (t :: ts).foldlM Reading.next r = some (.ended v)) :
    ∃ r', r.next t = some r' ∧ ts.foldlM Reading.next r' = some (.ended v) :=
  Option.bind_eq_some_iff.mp h

theorem visits_string {r r' : Reading} {us : List ℕ} {ts : List Token} {v : Json} {written rest : List Char}
    (hnext : r.next (.string us) = some r') (hts : ts.foldlM Reading.next r' = some (.ended v))
    (hwritten : Decodes written us) (hrest : tokens .between rest = some ts) (h : Visits r' ts rest) :
    Visits r (.string us :: ts) ('"' :: (written ++ '"' :: rest)) := by
  intro k
  have hdepth : (r'.depth : ℤ) = r.depth := (depth_next hnext).trans (add_zero _)
  have hstring : scanKeys (some []) r.depth k (written ++ '"' :: rest) = scanKeys none r.depth
      (if (r.depth : ℤ) = 1 ∧ (rest.dropWhile isJsonSpace).head? = some ':' then k.add (String.ofList written) else k)
      rest := scanKeys_string hwritten []
  have hname := colon_iff_memberName hnext hts
  rw [← colon_ahead hrest] at hname
  rw [memberNames_cons hnext]
  have hopen : scanKeys none r.depth k ('"' :: (written ++ '"' :: rest)) =
      scanKeys (some []) r.depth k (written ++ '"' :: rest) := by
    rw [scanKeys_outside, if_neg (by decide), if_neg (by decide), if_pos rfl]
  rw [hopen, hstring, ← hdepth]
  by_cases hmember : r.memberName (.string us) = some us
  · obtain ⟨hone, hcolon⟩ := hname.mpr hmember
    obtain ⟨written', hdecodes, hvisited⟩ := h (k.add (String.ofList written))
    rw [hmember, hdepth, if_pos ⟨by exact_mod_cast hone, hcolon⟩, ← hdepth]
    exact ⟨written :: written', .cons hwritten hdecodes, hvisited⟩
  · obtain ⟨written', hdecodes, hvisited⟩ := h k
    have hnone : r.memberName (.string us) = none := by
      rw [Reading.memberName] at hmember ⊢
      split_ifs at hmember ⊢ with hawaits
      · exact absurd rfl hmember
      · rfl
    rw [hnone, if_neg]
    · exact ⟨written', hdecodes, hvisited⟩
    · rintro ⟨hone, hcolon⟩
      exact hmember (hname.mp ⟨by exact_mod_cast hdepth ▸ hone, hcolon⟩)

theorem visits_nil {r : Reading} {ts : List Token} (hts : memberNames r ts = []) : Visits r ts [] := by
  intro k
  refine ⟨[], ?_, scanKeys_nil none⟩
  rw [hts]
  exact .nil

theorem memberNames_value {r : Reading} {v : Json} {ts : List Token} {v' : Json}
    (h : (Token.value v :: ts).foldlM Reading.next r = some (.ended v')) :
    ∃ r', r.next (.value v) = some r' ∧ r'.depth = r.depth ∧ ts.foldlM Reading.next r' = some (.ended v') := by
  obtain ⟨r', hnext, hrest⟩ := exists_next h
  have hdepth : (r'.depth : ℤ) = r.depth := (depth_next hnext).trans (add_zero _)
  exact ⟨r', hnext, by exact_mod_cast hdepth, hrest⟩

theorem visits_punctuation {r : Reading} {c : Char} {t : Token} {ts : List Token} {cs : List Char} {v : Json}
    (hmark : punctuation c = some t) (hts : (t :: ts).foldlM Reading.next r = some (.ended v))
    (h : ∀ r', ts.foldlM Reading.next r' = some (.ended v) → Visits r' ts cs) : Visits r (t :: ts) (c :: cs) := by
  obtain ⟨r', hnext, hrest⟩ := exists_next hts
  refine visits_cons hnext (memberName_of_punctuation hmark r) (fun k => ?_) (h r' hrest)
  rw [scanKeys_punctuation hmark, depth_next hnext]

/-- The induction is on the length of the text: a string is scanned as a whole. -/
theorem visits_of_tokens {cs : List Char} {ts : List Token} {r : Reading} {v : Json}
    (hts : ts.foldlM Reading.next r = some (.ended v))
    (h : tokens .between cs = some ts ∨ ∃ w, tokens (.word w) cs = some ts) : Visits r ts cs := by
  induction hn : cs.length using Nat.strong_induction_on generalizing cs ts r with
  | _ n ih =>
    cases cs with
    | nil =>
      rcases h with h | ⟨w, h⟩
      · cases h
        exact visits_nil rfl
      · obtain ⟨v', -, rfl⟩ := Option.map_eq_some_iff.mp h
        obtain ⟨r', hnext, -, -⟩ := memberNames_value hts
        exact visits_nil (memberNames_cons hnext [])
    | cons c cs =>
      have hlt : cs.length < n := by
        rw [← hn]
        exact Nat.lt_succ_self _
      rcases h with h | ⟨w, h⟩
      · rcases tokens_between h with ⟨hspace, hcs⟩ | ⟨rfl, hcs⟩ | ⟨t, ts', hmark, hcs, rfl⟩ | ⟨-, hquote, hmark, hcs⟩
        · intro k
          rw [scanKeys_space hspace]
          exact ih _ hlt hts (.inl hcs) rfl k
        · obtain ⟨written, us, rest, ts', rfl, hwritten, hrest, rfl⟩ := tokens_string (m := .string []) trivial hcs
          obtain ⟨r', hnext, hts'⟩ := exists_next hts
          refine visits_string hnext hts' hwritten hrest (ih _ ?_ hts' (.inl hrest) rfl)
          simp only [List.length_append, List.length_cons] at hlt
          omega
        · exact visits_punctuation hmark hts fun r' hts' => ih _ hlt hts' (.inl hcs) rfl
        · intro k
          rw [scanKeys_word hquote hmark]
          exact ih _ hlt hts (.inr ⟨_, hcs⟩) rfl k
      · rcases tokens_word h with ⟨v', ts', hspace, -, hcs, rfl⟩ | ⟨v', t, ts', hmark, -, hcs, rfl⟩ | ⟨-, hquote, hmark, hcs⟩
        · obtain ⟨r', hnext, hdepth, hts'⟩ := memberNames_value hts
          refine visits_cons hnext rfl (fun k => ?_) (ih _ hlt hts' (.inl hcs) rfl)
          rw [scanKeys_space hspace, hdepth]
        · obtain ⟨r', hnext, hdepth, hts'⟩ := memberNames_value hts
          refine visits_cons hnext rfl (fun k => by rw [hdepth])
            (visits_punctuation hmark hts' fun r'' hts'' => ih _ hlt hts'' (.inl hcs) rfl)
        · intro k
          rw [scanKeys_word hquote hmark]
          exact ih _ hlt hts (.inr ⟨_, hcs⟩) rfl k

/-- Before the first brace there is nothing that the scan would see. -/
theorem scanKeys_dropWhile {cs : List Char} {ts : List Token} (h : tokens .between cs = some (.lbrace :: ts))
    (depth : ℤ) (k : RawKeys) : scanKeys none depth k (cs.dropWhile (· ≠ '{')) = scanKeys none depth k cs := by
  induction cs with
  | nil => cases h
  | cons c cs ih =>
    rcases tokens_between h with ⟨hspace, hcs⟩ | ⟨rfl, hcs⟩ | ⟨t, ts', hmark, -, heq⟩ | ⟨-, -, -, hcs⟩
    · have hbrace : c ≠ '{' := by
        rintro rfl
        cases hspace
      rw [List.dropWhile_cons_of_pos (by simpa using hbrace), ih hcs, scanKeys_space hspace]
    · obtain ⟨written, us, rest, ts', -, -, -, heq⟩ := tokens_string (m := .string []) trivial hcs
      cases heq
    · cases heq
      have hbrace : c = '{' := by
        unfold punctuation at hmark
        split at hmark <;> first | rfl | cases hmark
      rw [List.dropWhile_cons_of_neg (by simp [hbrace])]
    · obtain ⟨w, v, ts', -, heq⟩ := head_word hcs
      cases heq

/-! ### What is counted -/

theorem rawKeyCount_add (k : RawKeys) (s : String) : (k.add s).rawKeyCount = k.rawKeyCount + 1 := by
  rw [RawKeys.add]
  split_ifs <;> rfl

theorem rawKeyCount_addAll (k : RawKeys) (written : List (List Char)) :
    (k.addAll written).rawKeyCount = k.rawKeyCount + written.length := by
  induction written generalizing k with
  | nil => rfl
  | cons w written ih =>
    rw [RawKeys.addAll, List.foldl_cons]
    refine (ih _).trans ?_
    rw [rawKeyCount_add, List.length_cons]
    omega

theorem dups_addAll (k : RawKeys) (written : List (List Char)) :
    (k.addAll written).dups = [] ↔ k.dups = [] ∧ written.Nodup ∧ ∀ w ∈ written, String.ofList w ∉ k.seen := by
  induction written generalizing k with
  | nil => simp [RawKeys.addAll]
  | cons w written ih =>
    have hstep : k.addAll (w :: written) = (k.add (String.ofList w)).addAll written := rfl
    rw [hstep, ih, RawKeys.add]
    by_cases hseen : String.ofList w ∈ k.seen
    · rw [if_pos hseen]
      have hdups : (if String.ofList w ∈ k.dups then k.dups else k.dups ++ [String.ofList w]) ≠ [] := by
        split_ifs with hmem
        · exact List.ne_nil_of_mem hmem
        · exact List.append_ne_nil_of_right_ne_nil _ (List.cons_ne_nil _ _)
      exact iff_of_false (fun h => hdups h.1) fun h => h.2.2 w List.mem_cons_self hseen
    · rw [if_neg hseen]
      simp only [List.nodup_cons, List.mem_append, List.mem_singleton, not_or, List.forall_mem_cons]
      constructor
      · rintro ⟨hdups, hnodup, hnew⟩
        exact ⟨hdups, ⟨fun hw => (hnew w hw).2 rfl, hnodup⟩, hseen, fun w' hw' => (hnew w' hw').1⟩
      · rintro ⟨hdups, ⟨hw, hnodup⟩, -, hnew⟩
        refine ⟨hdups, hnodup, fun w' hw' => ⟨hnew w' hw', fun heq => hw ?_⟩⟩
        rw [← String.ofList_injective heq]
        exact hw'

theorem exists_decoded {written : List (List Char)} {names : List (List ℕ)} (h : List.Forall₂ Decodes written names)
    {w : List Char} (hw : w ∈ written) : ∃ us ∈ names, Decodes w us := by
  induction h with
  | nil => cases hw
  | @cons w' us written names hdecodes hrest ih =>
    rcases List.mem_cons.mp hw with rfl | hw
    · exact ⟨us, List.mem_cons_self, hdecodes⟩
    · obtain ⟨us', hus', hdecodes'⟩ := ih hw
      exact ⟨us', List.mem_cons_of_mem us hus', hdecodes'⟩

theorem nodup_of_decoded {written : List (List Char)} {names : List (List ℕ)} (h : List.Forall₂ Decodes written names)
    (hnames : names.Nodup) : written.Nodup := by
  induction h with
  | nil => exact List.nodup_nil
  | @cons w us written names hw hrest ih =>
    obtain ⟨hus, hnames⟩ := List.nodup_cons.mp hnames
    refine List.nodup_cons.mpr ⟨fun hmem => hus ?_, ih hnames⟩
    obtain ⟨us', hus', hw'⟩ := exists_decoded hrest hmem
    exact hw.unique hw' ▸ hus'

/-- The check refuses exactly the objects that have two members of one name, once the names are decoded. -/
theorem declaresDuplicates_iff {rawMap : String} {parsed : Record} (h : Json.parse rawMap = some (.object parsed)) :
    declaresDuplicates rawMap = true ↔ ¬ (topLevelNames rawMap).Nodup := by
  obtain ⟨ts, hts, hread⟩ := tokens_object h
  have hall : (Token.lbrace :: ts).foldlM Reading.next (.value []) = some (.ended (.object parsed)) := hread
  obtain ⟨written, hdecodes, hscan⟩ := visits_of_tokens hall (.inl hts) ⟨[], [], 0⟩
  have hnames : topLevelNames rawMap = memberNames (.value []) (.lbrace :: ts) := by
    rw [topLevelNames, hts, Option.getD_some]
  have hraw : duplicateTopLevelKeys rawMap = RawKeys.addAll ⟨[], [], 0⟩ written :=
    (scanKeys_dropWhile hts 0 _).trans hscan
  rw [← hnames] at hdecodes
  have hcount : (duplicateTopLevelKeys rawMap).rawKeyCount = (topLevelNames rawMap).length := by
    rw [hraw, rawKeyCount_addAll, hdecodes.length_eq, zero_add]
  have hdups : (duplicateTopLevelKeys rawMap).dups = [] ↔ written.Nodup := by
    rw [hraw, dups_addAll]
    simp
  rw [declaresDuplicates, decide_eq_true_iff, hcount, parsedKeyCount]
  constructor
  · rintro (hdup | hfewer) hnodup
    · exact hdup (hdups.mpr (nodup_of_decoded hdecodes hnodup))
    · exact hfewer (by rw [hnodup.dedup])
  · intro hrepeated
    refine .inr fun heq => hrepeated ?_
    exact List.dedup_eq_self.mp ((List.dedup_sublist _).eq_of_length heq.symm)

/-- One key id, written in two ways. -/
def escapedTwice : String := "\x7b\"pin-a\":null, \"pin-\\u0061\":[\"\x7d\"]\x7d"

theorem declaresDuplicates_iff_escapedTwice :
    declaresDuplicates escapedTwice = true ↔ ¬ (topLevelNames escapedTwice).Nodup :=
  declaresDuplicates_iff (show Json.parse escapedTwice = some (.object [("pin-a", .array [.string "\x7d"])]) from rfl)

end Redeemo.Keyring
