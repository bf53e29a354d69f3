import Mathlib.Data.List.DropRight
import Mathlib.Data.List.Infix
import Mathlib.Tactic.Common

/-! Texts as their words: lists cut at separators, cleaned word by word, trimmed and joined again. -/

namespace Words

variable {α : Type*}

/-! ### Trimming -/

section Trim

variable {p : α → Bool} {l x y : List α} {m : α}

/-- Without the `p`s at both ends. -/
def trimBy (p : α → Bool) (l : List α) : List α := (l.dropWhile p).rdropWhile p

theorem trimBy_sublist : (trimBy p l).Sublist l :=
  (List.rdropWhile_prefix p _).sublist.trans (List.dropWhile_sublist p)

theorem dropWhile_of_none (h : ∀ a ∈ l, p a = false) : l.dropWhile p = l := by
  cases l with
  | nil => rfl
  | cons a l => rw [List.dropWhile_cons_of_neg (by rw [h a List.mem_cons_self]; exact Bool.false_ne_true)]

theorem rdropWhile_of_none (h : ∀ a ∈ l, p a = false) : l.rdropWhile p = l := by
  rw [List.rdropWhile, dropWhile_of_none fun a ha => h a (List.mem_reverse.mp ha), List.reverse_reverse]

theorem trimBy_of_none (h : ∀ a ∈ l, p a = false) : trimBy p l = l := by
  rw [trimBy, dropWhile_of_none h, rdropWhile_of_none h]

theorem trimBy_padded (hx : ∀ a ∈ x, p a = true) (hy : ∀ a ∈ y, p a = true) (h : ∀ a ∈ l, p a = false) :
    trimBy p (x ++ l ++ y) = l := by
  have hright : (l ++ y).rdropWhile p = l := by
    rw [List.rdropWhile, List.reverse_append,
      List.dropWhile_append_of_pos fun a ha => hy a (List.mem_reverse.mp ha), ← List.rdropWhile, rdropWhile_of_none h]
  rw [trimBy, List.append_assoc, List.dropWhile_append_of_pos hx]
  cases l with
  | nil => rw [List.nil_append, List.dropWhile_eq_nil_iff.mpr hy, List.rdropWhile_nil]
  | cons a l =>
    rw [List.cons_append, List.dropWhile_cons_of_neg (by rw [h a List.mem_cons_self]; exact Bool.false_ne_true),
      ← List.cons_append, hright]

theorem dropWhile_append_of_mem (h : ∃ a ∈ x, p a = false) : (x ++ y).dropWhile p = x.dropWhile p ++ y := by
  obtain ⟨a, ha, hp⟩ := h
  have hne : x.dropWhile p ≠ [] := by
    intro hnil
    have htrue := List.dropWhile_eq_nil_iff.mp hnil a ha
    rw [hp] at htrue
    cases htrue
  rw [List.dropWhile_append, if_neg (by rw [List.isEmpty_iff]; exact hne)]

theorem rdropWhile_append_of_mem (h : ∃ a ∈ y, p a = false) : (x ++ y).rdropWhile p = x ++ y.rdropWhile p := by
  obtain ⟨a, ha, hp⟩ := h
  rw [List.rdropWhile, List.reverse_append, dropWhile_append_of_mem ⟨a, List.mem_reverse.mpr ha, hp⟩,
    List.reverse_append, List.reverse_reverse, List.rdropWhile]

theorem mem_trimBy (hm : m ∈ l) (h : p m = false) : m ∈ trimBy p l := by
  have hdrop : m ∈ l.dropWhile p := by
    rw [← List.takeWhile_append_dropWhile (p := p) (l := l)] at hm
    rcases List.mem_append.mp hm with htake | hdrop
    · rw [List.mem_takeWhile_imp htake] at h
      cases h
    · exact hdrop
  rw [trimBy]
  rw [← List.rdropWhile_append_rtakeWhile (p := p) (l := l.dropWhile p)] at hdrop
  rcases List.mem_append.mp hdrop with hkeep | htake
  · exact hkeep
  · rw [List.mem_rtakeWhile_imp htake] at h
    cases h

/-- What is left at the front of a trimmed list is no `p`. -/
theorem head_trimBy (hne : trimBy p l ≠ []) : p ((trimBy p l).head hne) = false := by
  obtain ⟨z, hz⟩ := List.rdropWhile_prefix p (l.dropWhile p)
  have hdrop : l.dropWhile p ≠ [] := by
    intro hnil
    rw [trimBy, hnil] at hne
    exact hne rfl
  have hhead : (trimBy p l).head hne = (l.dropWhile p).head hdrop := by
    have hcongr : (l.dropWhile p).head hdrop = (trimBy p l ++ z).head (by simp [hne]) := by
      congr 1
      exact hz.symm
    rw [hcongr, List.head_append_of_ne_nil]
  rw [hhead]
  exact List.head_dropWhile_not p hdrop

theorem trimBy_ne_singleton (h : p m = true) : trimBy p l ≠ [m] := by
  intro hl
  have hne : trimBy p l ≠ [] := by
    rw [hl]
    exact List.cons_ne_nil _ _
  have hhead := head_trimBy hne
  simp only [hl, List.head_cons, h] at hhead
  cases hhead

theorem getLast_trimBy (hne : trimBy p l ≠ []) : p ((trimBy p l).getLast hne) = false :=
  Bool.eq_false_iff.mpr (List.rdropWhile_last_not p _ hne)

/-- Trimming leaves no `p`, if none stands between two elements that are none. -/
theorem forall_mem_trimBy_iff : (∀ a ∈ trimBy p l, p a = false) ↔
    ∀ x m y, l = x ++ m :: y → (∃ a ∈ x, p a = false) → (∃ a ∈ y, p a = false) → p m = false := by
  constructor
  · rintro h x m y rfl hx hy
    refine h m ?_
    rw [trimBy, dropWhile_append_of_mem hx, ← List.singleton_append, ← List.append_assoc, rdropWhile_append_of_mem hy]
    simp
  · intro h a ha
    by_contra hp
    obtain ⟨t, u, htu⟩ := List.append_of_mem ha
    obtain ⟨z, hz⟩ := List.rdropWhile_prefix p (l.dropWhile p)
    have hl : l = l.takeWhile p ++ t ++ a :: (u ++ z) := by
      rw [List.append_assoc, ← List.cons_append, ← List.append_assoc t, ← htu, trimBy, hz,
        List.takeWhile_append_dropWhile]
    have hne : trimBy p l ≠ [] := List.ne_nil_of_mem ha
    refine hp (h _ a _ hl ?_ ?_)
    · have hhead := head_trimBy hne
      cases t with
      | nil => simp only [htu, List.nil_append, List.head_cons] at hhead; exact absurd hhead hp
      | cons b t =>
        simp only [htu, List.cons_append, List.head_cons] at hhead
        exact ⟨b, by simp, hhead⟩
    · have hlast := getLast_trimBy hne
      rcases List.eq_nil_or_concat u with rfl | ⟨u, b, rfl⟩
      · simp only [htu, List.getLast_append_singleton] at hlast; exact absurd hlast hp
      · refine ⟨b, by simp, ?_⟩
        simpa [htu] using hlast

end Trim

/-! ### Joining -/

section Join

variable {space : α → Bool} {blank : α} {ws vs : List (List α)} {w : List α}

/-- `w` is a word, perhaps an empty one. -/
def Spaceless (space : α → Bool) (w : List α) : Prop := ∀ c ∈ w, space c = false

theorem intercalate_concat (h : ws ≠ []) : [blank].intercalate (ws ++ [w]) = [blank].intercalate ws ++ blank :: w := by
  induction ws with
  | nil => exact absurd rfl h
  | cons v ws ih =>
    cases ws with
    | nil => simp
    | cons v' ws => simpa using ih (List.cons_ne_nil _ _)

theorem filter_intercalate {p : α → Bool} (h : p blank = true) :
    ([blank].intercalate ws).filter p = [blank].intercalate (ws.map (List.filter p)) := by
  induction ws with
  | nil => rfl
  | cons v ws ih =>
    cases ws with
    | nil => simp
    | cons v' ws =>
      rw [List.map_cons] at ih ⊢
      simp only [List.intercalate_cons_cons, List.filter_append, List.map_cons, ih]
      simp [h]

theorem dropWhile_intercalate (hb : space blank = true) (hws : ∀ w ∈ ws, Spaceless space w) :
    ([blank].intercalate ws).dropWhile space = [blank].intercalate (ws.dropWhile List.isEmpty) := by
  induction ws with
  | nil => rfl
  | cons v ws ih =>
    have ih := ih fun w hw => hws w (List.mem_cons_of_mem v hw)
    cases v with
    | nil =>
      cases ws with
      | nil => rfl
      | cons v' ws => simpa [hb] using ih
    | cons c v =>
      have hc : space c = false := hws _ List.mem_cons_self c List.mem_cons_self
      cases ws with
      | nil => simp [hc]
      | cons v' ws => simp [hc]

theorem rdropWhile_intercalate (hb : space blank = true) (hws : ∀ w ∈ ws, Spaceless space w) :
    ([blank].intercalate ws).rdropWhile space = [blank].intercalate (ws.rdropWhile List.isEmpty) := by
  induction ws using List.reverseRecOn with
  | nil => rfl
  | append_singleton ws w ih =>
    have ih := ih fun v hv => hws v (List.mem_append_left _ hv)
    rcases List.eq_nil_or_concat' w with rfl | ⟨v, c, rfl⟩
    · rw [List.rdropWhile_concat_pos _ _ _ rfl]
      rcases eq_or_ne ws [] with rfl | hne
      · rfl
      · rw [intercalate_concat hne, List.rdropWhile_concat_pos _ _ _ hb, ih]
    · have hc : space c = false := hws (v ++ [c]) (by simp) c (by simp)
      rw [List.rdropWhile_concat_neg _ _ _ (by simp)]
      rcases eq_or_ne ws [] with rfl | hne
      · simp [hc]
      · rw [intercalate_concat hne, ← List.cons_append, ← List.append_assoc,
          List.rdropWhile_concat_neg _ _ _ (by simp [hc])]

/-- A joined text is trimmed word by word. -/
theorem trimBy_intercalate (hb : space blank = true) (hws : ∀ w ∈ ws, Spaceless space w) :
    trimBy space ([blank].intercalate ws) = [blank].intercalate (trimBy List.isEmpty ws) := by
  rw [trimBy, dropWhile_intercalate hb hws, rdropWhile_intercalate hb, trimBy]
  exact fun w hw => hws w ((List.dropWhile_sublist _).subset hw)

theorem splitOnP_intercalate (hb : space blank = true) (hws : ∀ w ∈ ws, Spaceless space w) (hne : ws ≠ []) :
    ([blank].intercalate ws).splitOnP space = ws := by
  induction ws with
  | nil => exact absurd rfl hne
  | cons v ws ih =>
    have hv := hws v List.mem_cons_self
    cases ws with
    | nil => simpa using List.splitOnP_eq_singleton hv
    | cons v' ws =>
      rw [List.intercalate_cons_cons, List.append_assoc, List.singleton_append,
        List.splitOnP_append_cons_of_forall_mem hv _ hb,
        ih (fun w hw => hws w (List.mem_cons_of_mem v hw)) (List.cons_ne_nil _ _)]

/-- Two lists of words that join to one text are the same, unless one is empty and the other has just an empty word. -/
theorem intercalate_inj (hb : space blank = true) (hws : ∀ w ∈ ws, Spaceless space w)
    (hvs : ∀ w ∈ vs, Spaceless space w) (hw : ws ≠ [[]]) (hv : vs ≠ [[]]) :
    [blank].intercalate ws = [blank].intercalate vs ↔ ws = vs := by
  refine ⟨fun h => ?_, fun h => by rw [h]⟩
  have hsplit := congrArg (List.splitOnP space) h
  rcases eq_or_ne ws [] with rfl | hws0 <;> rcases eq_or_ne vs [] with rfl | hvs0
  · rfl
  · rw [splitOnP_intercalate hb hvs hvs0] at hsplit
    exact absurd hsplit.symm hv
  · rw [splitOnP_intercalate hb hws hws0] at hsplit
    exact absurd hsplit hw
  · rwa [splitOnP_intercalate hb hws hws0, splitOnP_intercalate hb hvs hvs0] at hsplit

end Join

/-! ### Words -/

section Words

variable {space : α → Bool} {blank s : α} {cs ds w : List α} {ws : List (List α)}

/-- The longest runs without a separator. -/
def words (space : α → Bool) (cs : List α) : List (List α) := (cs.splitOnP space).filter fun w => !w.isEmpty

theorem spaceless_of_mem_splitOnP : ∀ {cs : List α}, ∀ w ∈ cs.splitOnP space, Spaceless space w
  | [], w, hw => by
    rw [List.splitOnP_nil, List.mem_singleton] at hw
    subst hw
    exact fun c hc => absurd hc List.not_mem_nil
  | c :: cs, w, hw => by
    rw [List.splitOnP_cons_eq_if_modifyHead] at hw
    split at hw
    · rcases List.mem_cons.mp hw with rfl | hw
      · exact fun c hc => absurd hc List.not_mem_nil
      · exact spaceless_of_mem_splitOnP w hw
    · rename_i hc
      obtain ⟨v, vs, hvs⟩ := List.exists_cons_of_ne_nil (List.splitOnP_ne_nil space cs)
      rw [hvs, List.modifyHead_cons] at hw
      rcases List.mem_cons.mp hw with rfl | hw
      · have hv : Spaceless space v := spaceless_of_mem_splitOnP v (by rw [hvs]; exact List.mem_cons_self)
        intro d hd
        rcases List.mem_cons.mp hd with rfl | hd
        · exact Bool.eq_false_iff.mpr hc
        · exact hv d hd
      · exact spaceless_of_mem_splitOnP w (by rw [hvs]; exact List.mem_cons_of_mem v hw)

theorem spaceless_of_mem_words (h : w ∈ words space cs) : Spaceless space w :=
  spaceless_of_mem_splitOnP w (List.mem_filter.mp h).1

theorem ne_nil_of_mem_words (h : w ∈ words space cs) : w ≠ [] := by
  rintro rfl
  exact Bool.false_ne_true (List.mem_filter.mp h).2

theorem words_append_cons (hs : space s = true) : words space (cs ++ s :: ds) = words space cs ++ words space ds := by
  rw [words, List.splitOnP_append_cons _ _ hs, List.filter_append, words, words]

theorem words_cons (hs : space s = true) : words space (s :: ds) = words space ds := by
  rw [words, List.splitOnP_cons_eq_if_modifyHead, if_pos hs]
  rfl

theorem words_of_spaceless (hw : Spaceless space w) (hne : w ≠ []) : words space w = [w] := by
  rw [words, List.splitOnP_eq_singleton hw, List.filter_cons_of_pos, List.filter_nil]
  cases w with
  | nil => exact absurd rfl hne
  | cons c w => rfl

/-- The words of a joined text are those it is joined of. -/
theorem words_intercalate (hb : space blank = true) (hws : ∀ w ∈ ws, Spaceless space w) :
    words space ([blank].intercalate ws) = ws.filter fun w => !w.isEmpty := by
  rcases eq_or_ne ws [] with rfl | hne
  · rfl
  · rw [words, splitOnP_intercalate hb hws hne]

end Words

end Words
