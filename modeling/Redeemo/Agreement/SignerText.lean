import Redeemo.Agreement.Versions
import Redeemo.Lib.Words

/-! `normalizeSignerText`, word by word.

    The white space is collapsed before the invisible characters go, so a word of these leaves its two blanks side by
    side, and a letter can end up next to a mark that composes with it. A second pass would clean up both. -/

namespace Redeemo.Agreements
open Records Words

variable (rt : Runtime)

/-- What this relies on of Unicode: no blank composes, and normalisation brings in neither white space nor invisible
    characters, nor does it remove a text. -/
structure Unicode : Prop where
  blank_visible : rt.isInvisibleOrControl ' ' = false
  nfc_empty : rt.normalizeNFC "" = ""
  nfc_blank : ∀ s t, rt.normalizeNFC (s ++ " " ++ t) = rt.normalizeNFC s ++ " " ++ rt.normalizeNFC t
  nfc_ne_empty : ∀ s, s ≠ "" → rt.normalizeNFC s ≠ ""
  nfc_visible : ∀ s : String, (∀ c ∈ s.toList, isWhiteSpace c = false ∧ rt.isInvisibleOrControl c = false) →
    ∀ c ∈ (rt.normalizeNFC s).toList, isWhiteSpace c = false ∧ rt.isInvisibleOrControl c = false

def visible (w : List Char) : List Char := w.filter fun c => !rt.isInvisibleOrControl c

def nfc (w : List Char) : List Char := (rt.normalizeNFC (String.ofList w)).toList

/-- The words as they come in, with their invisible characters. -/
def typedWords (raw : Option String) : List (List Char) := words isWhiteSpace (rt.normalizeNFC (raw.getD "")).toList

/-- Without its invisible characters every word is as normalisation leaves it, and no word that shows nothing stands
    between two that show something. -/
structure Settled (raw : Option String) : Prop where
  composed : ∀ w ∈ typedWords rt raw, nfc rt (visible rt w) = visible rt w
  noGap : ∀ l m r, typedWords rt raw = l ++ m :: r → (∃ a ∈ l, visible rt a ≠ []) → (∃ a ∈ r, visible rt a ≠ []) →
    visible rt m ≠ []

/-- The words that are kept. -/
def shownWords (raw : Option String) : List (List Char) :=
  trimBy List.isEmpty ((typedWords rt raw).map (visible rt))

variable {rt} {raw : Option String} {cs w : List Char}

/-! ### The pipeline -/

/-- Collapsing keeps the words and one blank at each end that has any. -/
theorem collapse_eq (cs : List Char) :
    (∃ r, (∀ w ∈ r, w = []) ∧ collapse true cs = [' '].intercalate (words isWhiteSpace cs ++ r)) ∧
    ∀ w, w ≠ [] → Spaceless isWhiteSpace w → ∃ r, (∀ w ∈ r, w = []) ∧
      w ++ collapse false cs = [' '].intercalate (words isWhiteSpace (w ++ cs) ++ r) := by
  induction cs with
  | nil =>
    refine ⟨⟨[], nofun, rfl⟩, fun w hne hw => ⟨[], nofun, ?_⟩⟩
    rw [collapse, List.append_nil, words_of_spaceless hw hne, List.append_nil, List.intercalate_singleton]
  | cons c cs ih =>
    obtain ⟨⟨r, hr, htrue⟩, hfalse⟩ := ih
    by_cases hc : isWhiteSpace c = true
    · refine ⟨⟨r, hr, ?_⟩, fun w hne hw => ?_⟩
      · rw [words_cons hc, collapse, if_neg (by simp [hc]), if_pos rfl, htrue]
      · rw [words_append_cons hc, words_of_spaceless hw hne, collapse, if_neg (by simp [hc]),
          if_neg Bool.false_ne_true, htrue]
        rcases eq_or_ne (words isWhiteSpace cs ++ r) [] with hnil | hcons
        · refine ⟨[[]], by simp, ?_⟩
          rw [hnil, (List.append_eq_nil_iff.mp hnil).1]
          rfl
        · refine ⟨r, hr, ?_⟩
          rw [List.append_assoc, List.singleton_append, List.intercalate_cons_of_ne_nil hcons]
          simp
    · have hc : isWhiteSpace c = false := Bool.eq_false_iff.mpr hc
      have hword : Spaceless isWhiteSpace [c] := by
        intro d hd
        rwa [List.mem_singleton.mp hd]
      refine ⟨?_, fun w hne hw => ?_⟩
      · rw [collapse, if_pos hc]
        exact hfalse [c] (List.cons_ne_nil _ _) hword
      · have hlonger : Spaceless isWhiteSpace (w ++ [c]) := by
          intro d hd
          rcases List.mem_append.mp hd with hd | hd
          · exact hw d hd
          · exact hword d hd
        rw [collapse, if_pos hc]
        simpa only [List.append_assoc, List.singleton_append] using hfalse (w ++ [c]) (by simp) hlonger

theorem exists_collapse (cs : List Char) : ∃ l r, (∀ w ∈ l, w = []) ∧ (∀ w ∈ r, w = []) ∧
    collapse false cs = [' '].intercalate (l ++ words isWhiteSpace cs ++ r) := by
  cases cs with
  | nil => exact ⟨[], [], nofun, nofun, rfl⟩
  | cons c cs =>
    by_cases hc : isWhiteSpace c = true
    · obtain ⟨r, hr, htrue⟩ := (collapse_eq cs).1
      rw [collapse, if_neg (by simp [hc]), if_neg Bool.false_ne_true, htrue, words_cons hc]
      rcases eq_or_ne (words isWhiteSpace cs ++ r) [] with hnil | hcons
      · refine ⟨[[]], [[]], by simp, by simp, ?_⟩
        rw [hnil, (List.append_eq_nil_iff.mp hnil).1]
        rfl
      · refine ⟨[[]], r, by simp, hr, ?_⟩
        rw [List.append_assoc, List.singleton_append, List.intercalate_cons_of_ne_nil hcons]
        rfl
    · have hc : isWhiteSpace c = false := Bool.eq_false_iff.mpr hc
      obtain ⟨r, hr, hfalse⟩ := (collapse_eq cs).2 [c] (List.cons_ne_nil _ _) fun d hd => by
        rwa [List.mem_singleton.mp hd]
      refine ⟨[], r, nofun, hr, ?_⟩
      rw [collapse, if_pos hc]
      exact hfalse

theorem toList_trim (s : String) : (trim s).toList = trimBy isWhiteSpace s.toList := String.toList_ofList

theorem isWhiteSpace_blank : isWhiteSpace ' ' = true := by decide

theorem trim_collapse (cs : List Char) :
    trimBy isWhiteSpace (collapse false cs) = [' '].intercalate (words isWhiteSpace cs) := by
  obtain ⟨l, r, hl, hr, hcollapse⟩ := exists_collapse cs
  have hempty : ∀ ws : List (List Char), (∀ w ∈ ws, w = []) → ∀ w ∈ ws, w.isEmpty = true :=
    fun ws h w hw => List.isEmpty_iff.mpr (h w hw)
  rw [hcollapse, trimBy_intercalate isWhiteSpace_blank, trimBy_padded (hempty l hl) (hempty r hr)]
  · exact fun w hw => List.isEmpty_eq_false_iff.mpr (ne_nil_of_mem_words hw)
  · intro w hw
    simp only [List.mem_append] at hw
    rcases hw with (hw | hw) | hw
    · rw [hl w hw]
      exact nofun
    · exact spaceless_of_mem_words hw
    · rw [hr w hw]
      exact nofun

theorem spaceless_of_mem_shownWords (h : w ∈ shownWords rt raw) : Spaceless isWhiteSpace w := by
  obtain ⟨v, hv, rfl⟩ := List.mem_map.mp (trimBy_sublist.subset h)
  exact fun c hc => spaceless_of_mem_words hv c (List.mem_of_mem_filter hc)

theorem visible_of_mem_shownWords (h : w ∈ shownWords rt raw) {c : Char} (hc : c ∈ w) :
    rt.isInvisibleOrControl c = false := by
  obtain ⟨v, -, rfl⟩ := List.mem_map.mp (trimBy_sublist.subset h)
  simpa using (List.mem_filter.mp hc).2

/-- The words that show something, each without its invisible characters, between blanks. -/
theorem toList_normalizeSignerText (hu : Unicode rt) (raw : Option String) :
    (normalizeSignerText rt raw).toList = [' '].intercalate (shownWords rt raw) := by
  simp only [normalizeSignerText, toList_trim, String.toList_ofList, trim_collapse]
  rw [filter_intercalate (by rw [hu.blank_visible]; rfl), trimBy_intercalate isWhiteSpace_blank]
  · rfl
  · intro w hw
    obtain ⟨v, hv, rfl⟩ := List.mem_map.mp hw
    exact fun c hc => spaceless_of_mem_words hv c (List.mem_of_mem_filter hc)

/-! ### The second pass -/

theorem nfc_nil (hu : Unicode rt) : nfc rt [] = [] := by
  rw [nfc, String.ofList_nil, hu.nfc_empty, String.toList_empty]

theorem nfc_ne_nil (hu : Unicode rt) (h : w ≠ []) : nfc rt w ≠ [] := by
  intro hn
  refine hu.nfc_ne_empty (String.ofList w) ?_ (String.toList_eq_nil_iff.mp hn)
  rwa [ne_eq, ← String.toList_eq_nil_iff, String.toList_ofList]

theorem nfc_intercalate (hu : Unicode rt) (ws : List (List Char)) :
    nfc rt ([' '].intercalate ws) = [' '].intercalate (ws.map (nfc rt)) := by
  induction ws with
  | nil => exact nfc_nil hu
  | cons w ws ih =>
    cases ws with
    | nil => simp
    | cons v ws =>
      rw [List.map_cons] at ih ⊢
      rw [List.intercalate_cons_cons, List.map_cons, List.intercalate_cons_cons, ← ih]
      have hsplit := hu.nfc_blank (String.ofList w) (String.ofList ([' '].intercalate (v :: ws)))
      have hjoin : String.ofList (w ++ [' '] ++ [' '].intercalate (v :: ws)) =
          String.ofList w ++ " " ++ String.ofList ([' '].intercalate (v :: ws)) := by
        rw [String.ofList_append, String.ofList_append]
      rw [nfc, hjoin, hsplit, String.toList_append, String.toList_append]
      rfl

theorem nfc_shownWords (hu : Unicode rt) (h : w ∈ shownWords rt raw) {c : Char} (hc : c ∈ nfc rt w) :
    isWhiteSpace c = false ∧ rt.isInvisibleOrControl c = false := by
  refine hu.nfc_visible (String.ofList w) ?_ c hc
  rw [String.toList_ofList]
  exact fun d hd => ⟨spaceless_of_mem_shownWords h d hd, visible_of_mem_shownWords h hd⟩

/-- The second pass composes each word again, and drops the empty ones. -/
theorem shownWords_normalizeSignerText (hu : Unicode rt) (raw : Option String) :
    shownWords rt (some (normalizeSignerText rt raw)) =
      ((shownWords rt raw).map (nfc rt)).filter fun w => !w.isEmpty := by
  have hspaceless : ∀ w ∈ (shownWords rt raw).map (nfc rt), Spaceless isWhiteSpace w := by
    intro w hw c hc
    obtain ⟨v, hv, rfl⟩ := List.mem_map.mp hw
    exact (nfc_shownWords hu hv hc).1
  have htyped : typedWords rt (some (normalizeSignerText rt raw)) =
      ((shownWords rt raw).map (nfc rt)).filter fun w => !w.isEmpty := by
    rw [typedWords, Option.getD_some, ← String.ofList_toList (s := normalizeSignerText rt raw), ← nfc,
      toList_normalizeSignerText hu, nfc_intercalate hu, words_intercalate isWhiteSpace_blank hspaceless]
  have hvisible : ∀ w ∈ ((shownWords rt raw).map (nfc rt)).filter fun w => !w.isEmpty, visible rt w = w := by
    intro w hw
    obtain ⟨v, hv, rfl⟩ := List.mem_map.mp (List.mem_of_mem_filter hw)
    exact List.filter_eq_self.mpr fun c hc => by rw [(nfc_shownWords hu hv hc).2]; rfl
  rw [shownWords, htyped, List.map_congr_left hvisible, List.map_id', trimBy_of_none]
  intro w hw
  simpa using (List.mem_filter.mp hw).2

theorem shownWords_ne_nil_iff : (∀ w ∈ shownWords rt raw, w ≠ []) ↔
    ∀ l m r, typedWords rt raw = l ++ m :: r → (∃ a ∈ l, visible rt a ≠ []) → (∃ a ∈ r, visible rt a ≠ []) →
      visible rt m ≠ [] := by
  have hempty : (∀ w ∈ shownWords rt raw, w ≠ []) ↔ ∀ w ∈ shownWords rt raw, w.isEmpty = false :=
    forall₂_congr fun w _ => List.isEmpty_eq_false_iff.symm
  rw [hempty, shownWords, forall_mem_trimBy_iff]
  constructor
  · rintro h l m r hsplit ⟨a, ha, hva⟩ ⟨b, hb, hvb⟩
    refine List.isEmpty_eq_false_iff.mp (h (l.map (visible rt)) _ (r.map (visible rt)) ?_ ?_ ?_)
    · rw [hsplit, List.map_append, List.map_cons]
    · exact ⟨_, List.mem_map_of_mem ha, List.isEmpty_eq_false_iff.mpr hva⟩
    · exact ⟨_, List.mem_map_of_mem hb, List.isEmpty_eq_false_iff.mpr hvb⟩
  · rintro h x m y hsplit ⟨a, ha, hva⟩ ⟨b, hb, hvb⟩
    obtain ⟨l, l', hl, rfl, hl'⟩ := List.map_eq_append_iff.mp hsplit
    obtain ⟨m, r, rfl, rfl, rfl⟩ := List.map_eq_cons_iff.mp hl'
    obtain ⟨a, hal, rfl⟩ := List.mem_map.mp ha
    obtain ⟨b, hbr, rfl⟩ := List.mem_map.mp hb
    exact List.isEmpty_eq_false_iff.mpr
      (h l m r hl ⟨a, hal, List.isEmpty_eq_false_iff.mp hva⟩ ⟨b, hbr, List.isEmpty_eq_false_iff.mp hvb⟩)

theorem shownWords_composed_iff (hu : Unicode rt) : (∀ w ∈ shownWords rt raw, nfc rt w = w) ↔
    ∀ w ∈ typedWords rt raw, nfc rt (visible rt w) = visible rt w := by
  constructor
  · intro h w hw
    rcases eq_or_ne (visible rt w) [] with hnil | hne
    · rw [hnil, nfc_nil hu]
    · exact h _ (mem_trimBy (List.mem_map_of_mem hw) (List.isEmpty_eq_false_iff.mpr hne))
  · intro h w hw
    obtain ⟨v, hv, rfl⟩ := List.mem_map.mp (trimBy_sublist.subset hw)
    exact h v hv

theorem shownWords_eq_iff (hu : Unicode rt) :
    shownWords rt (some (normalizeSignerText rt raw)) = shownWords rt raw ↔
      (∀ w ∈ shownWords rt raw, w ≠ []) ∧ ∀ w ∈ shownWords rt raw, nfc rt w = w := by
  have hfilter (h : ∀ w ∈ shownWords rt raw, w ≠ []) :
      ((shownWords rt raw).map (nfc rt)).filter (fun w => !w.isEmpty) = (shownWords rt raw).map (nfc rt) := by
    refine List.filter_eq_self.mpr fun w hw => ?_
    obtain ⟨v, hv, rfl⟩ := List.mem_map.mp hw
    simpa using nfc_ne_nil hu (h v hv)
  rw [shownWords_normalizeSignerText hu]
  constructor
  · intro h
    have hne : ∀ w ∈ shownWords rt raw, w ≠ [] := by
      intro w hw
      rw [← h] at hw
      simpa using (List.mem_filter.mp hw).2
    rw [hfilter hne] at h
    exact ⟨hne, List.map_inj_left.mp (h.trans (List.map_id _).symm)⟩
  · rintro ⟨hne, hnfc⟩
    rw [hfilter hne, List.map_congr_left hnfc, List.map_id']

/-- A second pass changes nothing exactly where the first one leaves a settled text. -/
theorem normalizeSignerText_idem_iff (hu : Unicode rt) (raw : Option String) :
    normalizeSignerText rt (some (normalizeSignerText rt raw)) = normalizeSignerText rt raw ↔ Settled rt raw := by
  rw [← String.toList_inj, toList_normalizeSignerText hu, toList_normalizeSignerText hu,
    intercalate_inj isWhiteSpace_blank (fun w => spaceless_of_mem_shownWords)
      (fun w => spaceless_of_mem_shownWords) (trimBy_ne_singleton rfl) (trimBy_ne_singleton rfl),
    shownWords_eq_iff hu, shownWords_ne_nil_iff, shownWords_composed_iff hu]
  exact ⟨fun ⟨hgap, hcomposed⟩ => ⟨hcomposed, hgap⟩, fun h => ⟨h.noGap, h.composed⟩⟩

end Redeemo.Agreements
