import Mathlib.Data.List.Pairwise

/-! Loops that stop at the first error, in `Except`.

    `checkAll` runs one check on every element. `foldSteps` also carries a state; when the state
    describes the elements seen so far and a step succeeds on those that are well formed and agree
    with all of them, the loop succeeds exactly on the lists of well formed, pairwise agreeing
    elements (`foldSteps_ok_iff`). -/

namespace Fallible

universe u

variable {ε α : Type*} {σ τ : Type u}

theorem bind_ok_iff {x : Except ε σ} {f : σ → Except ε τ} {b : τ} :
    x >>= f = .ok b ↔ ∃ a, x = .ok a ∧ f a = .ok b := by
  constructor
  · intro h
    cases x with
    | error e => cases h
    | ok a => exact ⟨a, rfl, h⟩
  · rintro ⟨a, rfl, h⟩
    exact h

theorem exists_bind_ok {x : Except ε σ} {f : σ → Except ε τ} {a : σ} (hx : x = .ok a) (h : ∃ b, f a = .ok b) :
    ∃ b, x >>= f = .ok b := by
  obtain ⟨b, hb⟩ := h
  exact ⟨b, bind_ok_iff.mpr ⟨a, hx, hb⟩⟩

theorem bind_error_iff {x : Except ε σ} {f : σ → Except ε τ} {e : ε} :
    x >>= f = .error e ↔ x = .error e ∨ ∃ a, x = .ok a ∧ f a = .error e := by
  cases x with
  | error e' => simp [bind, Except.bind]
  | ok a => simp [bind, Except.bind]

theorem pure_eq_ok {a b : σ} : (pure a : Except ε σ) = .ok b ↔ a = b :=
  Except.ok.injEq a b ▸ Iff.rfl

theorem ok_bind {a : σ} {f : σ → Except ε τ} : ((.ok a : Except ε σ) >>= f) = f a := rfl

theorem isOk_iff {x : Except ε σ} : x.isOk = true ↔ ∃ a, x = .ok a := by
  cases x with
  | error e => exact iff_of_false nofun nofun
  | ok a => exact iff_of_true rfl ⟨a, rfl⟩

theorem toOption_eq_some {x : Except ε σ} {a : σ} : x.toOption = some a ↔ x = .ok a := by
  cases x with
  | error e => exact iff_of_false nofun nofun
  | ok b => simp [Except.toOption]

/-- A check in front passes exactly when its condition fails. -/
theorem ite_error_eq_ok {p : Prop} [Decidable p] {e : ε} {x : Except ε σ} {b : σ} :
    (if p then .error e else x) = .ok b ↔ ¬ p ∧ x = .ok b := by
  by_cases h : p
  · simp [h]
  · simp [h]

/-- A check that fails when its condition holds. -/
def rejectIf (p : Prop) [Decidable p] (e : ε) : Except ε Unit := if p then .error e else .ok ()

theorem rejectIf_eq_ok {p : Prop} [Decidable p] {e : ε} {u : Unit} :
    rejectIf p e = .ok u ↔ ¬ p := by
  rw [rejectIf, ite_error_eq_ok]
  exact and_iff_left rfl

/-- What a lookup has found. -/
def orReject (o : Option α) (e : ε) : Except ε α :=
  match o with
  | none => .error e
  | some a => .ok a

theorem orReject_eq_ok {o : Option α} {e : ε} {a : α} : orReject o e = .ok a ↔ o = some a := by
  cases o with
  | none => simp [orReject]
  | some b => simp [orReject]

theorem orReject_some_bind {a : σ} {e : ε} {f : σ → Except ε τ} : (orReject (some a) e >>= f) = f a := rfl

/-- Run a check on every element, in order. -/
def checkAll (check : α → Except ε Unit) : List α → Except ε Unit
  | [] => .ok ()
  | a :: l => check a >>= fun _ => checkAll check l

theorem checkAll_eq_ok {check : α → Except ε Unit} : ∀ {l : List α},
    checkAll check l = .ok () ↔ ∀ a ∈ l, check a = .ok ()
  | [] => by simp [checkAll]
  | a :: l => by
    rw [checkAll, bind_ok_iff, List.forall_mem_cons]
    constructor
    · rintro ⟨⟨⟩, h, hl⟩
      exact ⟨h, checkAll_eq_ok.mp hl⟩
    · rintro ⟨h, hl⟩
      exact ⟨(), h, checkAll_eq_ok.mpr hl⟩

/-- What a fallible map yields, each from an element it was given. -/
theorem mem_of_mapM {α σ : Type} {f : α → Except ε σ} : ∀ {l : List α} {bs : List σ}, l.mapM f = .ok bs →
    ∀ b ∈ bs, ∃ a ∈ l, f a = .ok b
  | [], bs, h => by
    cases h
    nofun
  | a :: l, bs, h => by
    rw [List.mapM_cons] at h
    obtain ⟨b, hb, h⟩ := bind_ok_iff.mp h
    obtain ⟨bs', hbs, h⟩ := bind_ok_iff.mp h
    cases h
    intro c hc
    rcases List.mem_cons.mp hc with rfl | hc
    · exact ⟨a, List.mem_cons_self, hb⟩
    · obtain ⟨x, hx, hfx⟩ := mem_of_mapM hbs c hc
      exact ⟨x, List.mem_cons_of_mem _ hx, hfx⟩

theorem mapM_eq_map {α σ : Type} {f : α → Except ε σ} {g : α → σ} {l : List α} (h : ∀ a ∈ l, f a = .ok (g a)) :
    l.mapM f = .ok (l.map g) := by
  induction l with
  | nil => rfl
  | cons a l ih =>
    rw [List.mapM_cons, h a List.mem_cons_self, ih fun b hb => h b (List.mem_cons_of_mem _ hb)]
    rfl

/-- A fallible map that succeeds on every element succeeds, and yields what it makes of each. -/
theorem mapM_ok {α σ : Type} {f : α → Except ε σ} {l : List α} (h : ∀ a ∈ l, ∃ b, f a = .ok b) :
    ∃ bs, l.mapM f = .ok bs ∧ ∀ a ∈ l, ∃ b ∈ bs, f a = .ok b := by
  induction l with
  | nil => exact ⟨[], rfl, nofun⟩
  | cons a l ih =>
    rw [List.forall_mem_cons] at h
    obtain ⟨b, hb⟩ := h.1
    obtain ⟨bs, hbs, hall⟩ := ih h.2
    refine ⟨b :: bs, by rw [List.mapM_cons, hb, hbs]; rfl, ?_⟩
    rw [List.forall_mem_cons]
    refine ⟨⟨b, List.mem_cons_self, hb⟩, fun x hx => ?_⟩
    obtain ⟨c, hc, hfx⟩ := hall x hx
    exact ⟨c, List.mem_cons_of_mem _ hc, hfx⟩

/-- Thread a state through a list by a step that may fail. -/
def foldSteps (step : σ → α → Except ε σ) : σ → List α → Except ε σ
  | s, [] => .ok s
  | s, a :: l => step s a >>= fun s' => foldSteps step s' l

variable {step : σ → α → Except ε σ} {D : List α → σ → Prop}

theorem foldSteps_describes
    (hdesc : ∀ seen s a s', D seen s → step s a = .ok s' → D (seen ++ [a]) s') :
    ∀ {l seen : List α} {s s' : σ}, D seen s → foldSteps step s l = .ok s' →
      D (seen ++ l) s'
  | [], seen, s, s', hd, h => by
    cases h
    rwa [List.append_nil]
  | a :: l, seen, s, s', hd, h => by
    obtain ⟨t, ht, hr⟩ := bind_ok_iff.mp h
    have := foldSteps_describes hdesc (hdesc seen s a t hd ht) hr
    rwa [List.append_assoc, List.singleton_append] at this

theorem foldSteps_ok_iff {P : α → Prop} {R : α → α → Prop}
    (hstep : ∀ seen s a, D seen s →
      ((∃ s', step s a = .ok s') ↔ P a ∧ ∀ b ∈ seen, R b a))
    (hdesc : ∀ seen s a s', D seen s → step s a = .ok s' → D (seen ++ [a]) s') :
    ∀ {l seen : List α} {s : σ}, D seen s →
      ((∃ s', foldSteps step s l = .ok s') ↔
        (∀ a ∈ l, P a) ∧ (∀ b ∈ seen, ∀ a ∈ l, R b a) ∧ l.Pairwise R)
  | [], seen, s, _ => by simp [foldSteps]
  | a :: l, seen, s, hd => by
    have hs := hstep seen s a hd
    constructor
    · rintro ⟨s', h⟩
      obtain ⟨t, ht, hr⟩ := bind_ok_iff.mp h
      obtain ⟨hp, hb⟩ := hs.mp ⟨t, ht⟩
      obtain ⟨hP, hR, hl⟩ :=
        (foldSteps_ok_iff hstep hdesc (hdesc seen s a t hd ht)).mp ⟨s', hr⟩
      refine ⟨List.forall_mem_cons.mpr ⟨hp, hP⟩, fun b hbs => ?_, List.pairwise_cons.mpr ⟨?_, hl⟩⟩
      · exact List.forall_mem_cons.mpr ⟨hb b hbs, hR b (List.mem_append_left _ hbs)⟩
      · exact hR a (by simp)
    · rintro ⟨hP, hR, hl⟩
      rw [List.forall_mem_cons] at hP
      rw [List.pairwise_cons] at hl
      obtain ⟨t, ht⟩ := hs.mpr ⟨hP.1, fun b hb => hR b hb a (by simp)⟩
      obtain ⟨s', hr⟩ := (foldSteps_ok_iff hstep hdesc (hdesc seen s a t hd ht)).mpr
        ⟨hP.2, fun b hb c hc => by
          rcases List.mem_append.mp hb with hb | hb
          · exact hR b hb c (List.mem_cons_of_mem _ hc)
          · rw [List.mem_singleton.mp hb]
            exact hl.1 c hc, hl.2⟩
      exact ⟨s', bind_ok_iff.mpr ⟨t, ht, hr⟩⟩

end Fallible
