import Mathlib.Data.List.Induction
import Mathlib.Logic.Function.Basic
import Mathlib.Tactic.Common

/-! Runs of a partial step function, and pools of processes over one shared store.

    `run` threads a list of actions through a step function that may refuse an action. An invariant
    of every step is an invariant of every run (`run_invariant`); when only the steps that meet a
    condition keep it, it holds along the runs whose steps all meet that condition
    (`run_invariant_along`).

    A pool is one store with any number of processes, each with a local state of its own; an action
    names the process that moves, so a list of actions is an interleaving. `pool_invariant` is the
    proof rule: the mover keeps the store's invariant and its own assertion, and disturbs nobody
    else's. -/

namespace Runs

variable {S A : Type*}

/-- Run the actions in order; `none` as soon as one is refused. -/
def run (step : S → A → Option S) : S → List A → Option S
  | s, [] => some s
  | s, a :: as => (step s a).bind fun s' => run step s' as

/-- Every action of the run is taken from a state in which `P` holds of it. -/
def Along (step : S → A → Option S) (P : S → A → Prop) : S → List A → Prop
  | _, [] => True
  | s, a :: as => P s a ∧ ∀ s', step s a = some s' → Along step P s' as

variable {step : S → A → Option S}

@[simp] theorem run_nil (s : S) : run step s [] = some s := rfl

theorem run_cons_eq_some {s s'' : S} {a : A} {as : List A} :
    run step s (a :: as) = some s'' ↔ ∃ s', step s a = some s' ∧ run step s' as = some s'' := by
  simp [run, Option.bind_eq_some_iff]

theorem run_append_eq_some {s s'' : S} {as bs : List A} :
    run step s (as ++ bs) = some s'' ↔
      ∃ s', run step s as = some s' ∧ run step s' bs = some s'' := by
  induction as generalizing s with
  | nil => simp
  | cons a as ih =>
    simp only [List.cons_append, run_cons_eq_some, ih]
    constructor
    · rintro ⟨t, ht, s', h1, h2⟩
      exact ⟨s', ⟨t, ht, h1⟩, h2⟩
    · rintro ⟨s', ⟨t, ht, h1⟩, h2⟩
      exact ⟨t, ht, s', h1, h2⟩

/-- Every action of the run, with what precedes it. -/
theorem along_iff {P : S → A → Prop} {s : S} {as : List A} : Along step P s as ↔
    ∀ xs a ys s', as = xs ++ a :: ys → run step s xs = some s' → P s' a := by
  induction as generalizing s with
  | nil => simp [Along]
  | cons a as ih =>
    constructor
    · rintro ⟨hp, hal⟩ xs b ys s' he hr
      cases xs with
      | nil =>
        cases he
        cases hr
        exact hp
      | cons x xs =>
        cases he
        obtain ⟨t, ht, hr⟩ := run_cons_eq_some.mp hr
        exact ih.mp (hal t ht) xs b ys s' rfl hr
    · intro h
      refine ⟨h [] a as s rfl rfl, fun t ht => ih.mpr fun xs b ys s' he hr => ?_⟩
      refine h (a :: xs) b ys s' ?_ (run_cons_eq_some.mpr ⟨t, ht, hr⟩)
      rw [he, List.cons_append]

/-- The first part of a run. -/
theorem Along.of_prefix {P : S → A → Prop} {s : S} {xs ys : List A} (h : Along step P s (xs ++ ys)) :
    Along step P s xs := by
  rw [along_iff] at h ⊢
  intro us a vs t he hu
  refine h us a (vs ++ ys) t ?_ hu
  rw [he, List.append_assoc, List.cons_append]

/-- The rest of a run, from where its first part has led. -/
theorem Along.of_append {P : S → A → Prop} {s s' : S} {xs ys : List A}
    (h : Along step P s (xs ++ ys)) (hr : run step s xs = some s') : Along step P s' ys := by
  rw [along_iff] at h ⊢
  intro us a vs t he hu
  refine h (xs ++ us) a vs t ?_ (run_append_eq_some.mpr ⟨s', hr, hu⟩)
  rw [he, List.append_assoc]

/-- What the steps that meet `P` preserve holds along every run whose steps all meet `P`. -/
theorem run_invariant_along {I : S → Prop} (P : S → A → Prop)
    (hstep : ∀ s a s', I s → P s a → step s a = some s' → I s') :
    ∀ {as : List A} {s s' : S}, Along step P s as → I s → run step s as = some s' → I s' := by
  intro as
  induction as with
  | nil =>
    intro s s' _ hi h
    rw [run_nil] at h
    cases h
    exact hi
  | cons a as ih =>
    intro s s'' hal hi h
    obtain ⟨s', hs, hr⟩ := run_cons_eq_some.mp h
    exact ih (hal.2 s' hs) (hstep s a s' hi hal.1 hs) hr

/-- `I` holds in every state that the run reaches. -/
def Throughout (step : S → A → Option S) (I : S → Prop) (s : S) (as : List A) : Prop :=
  ∀ xs ys s', as = xs ++ ys → run step s xs = some s' → I s'

theorem throughout_nil {I : S → Prop} {s : S} : Throughout step I s [] ↔ I s := by
  constructor
  · intro h
    exact h [] [] s rfl rfl
  · intro hi xs ys s' he hr
    obtain ⟨rfl, -⟩ := List.append_eq_nil_iff.mp he.symm
    cases hr
    exact hi

theorem throughout_cons {I : S → Prop} {s : S} {a : A} {as : List A} :
    Throughout step I s (a :: as) ↔ I s ∧ ∀ t, step s a = some t → Throughout step I t as := by
  constructor
  · intro h
    refine ⟨h [] _ s rfl rfl, fun t ht xs ys s' he hr => ?_⟩
    refine h (a :: xs) ys s' ?_ (run_cons_eq_some.mpr ⟨t, ht, hr⟩)
    rw [he, List.cons_append]
  · rintro ⟨hi, h⟩ xs ys s' he hr
    cases xs with
    | nil =>
      cases hr
      exact hi
    | cons x xs =>
      cases he
      obtain ⟨t, ht, hr⟩ := run_cons_eq_some.mp hr
      exact h t ht xs ys s' rfl hr

/-- Both can be decided by taking the run. -/
instance decidableAlong {P : S → A → Prop} [∀ s a, Decidable (P s a)] :
    (s : S) → (as : List A) → Decidable (Along step P s as)
  | _, [] => .isTrue trivial
  | s, a :: as =>
    match h : step s a with
    | none => decidable_of_iff (P s a) (by simp [Along, h])
    | some t =>
      have := decidableAlong (P := P) t as
      decidable_of_iff (P s a ∧ Along step P t as) (by simp [Along, h])

instance decidableThroughout {I : S → Prop} [DecidablePred I] :
    (s : S) → (as : List A) → Decidable (Throughout step I s as)
  | s, [] => decidable_of_iff (I s) throughout_nil.symm
  | s, a :: as =>
    match h : step s a with
    | none => decidable_of_iff (I s) (by simp [throughout_cons, h])
    | some t =>
      have := decidableThroughout (I := I) t as
      decidable_of_iff (I s ∧ Throughout step I t as) (by simp [throughout_cons, h])

/-- What every step preserves. -/
theorem throughout_of_step {K : S → Prop} (hkeep : ∀ s a s', K s → step s a = some s' → K s') {as : List A}
    {s : S} (hk : K s) : Throughout step K s as := by
  induction as generalizing s with
  | nil => exact throughout_nil.mpr hk
  | cons a as ih => exact throughout_cons.mpr ⟨hk, fun t ht => ih (hkeep s a t hk ht)⟩

/-- What the steps that meet `P` preserve. -/
theorem throughout_of_along {K : S → Prop} {P : S → A → Prop}
    (hkeep : ∀ s a s', K s → P s a → step s a = some s' → K s') {as : List A} {s : S} (hal : Along step P s as)
    (hk : K s) : Throughout step K s as := by
  induction as generalizing s with
  | nil => exact throughout_nil.mpr hk
  | cons a as ih => exact throughout_cons.mpr ⟨hk, fun t ht => ih (hal.2 t ht) (hkeep s a t hk hal.1 ht)⟩

/-- Where a step keeps `I` exactly if it meets `P`, `I` holds throughout a run exactly if all its steps
    meet `P`; a refused action meets it. `K` is known of every state that the run reaches. -/
theorem throughout_iff_along_of_throughout {I K : S → Prop} {P : S → A → Prop}
    (hrefused : ∀ s a, step s a = none → P s a)
    (hstep : ∀ s a s', K s → K s' → I s → step s a = some s' → (I s' ↔ P s a)) {as : List A} {s : S}
    (hk : Throughout step K s as) (hi : I s) : Throughout step I s as ↔ Along step P s as := by
  induction as generalizing s with
  | nil => exact iff_of_true (throughout_nil.mpr hi) trivial
  | cons a as ih =>
    obtain ⟨hks, hrest⟩ := throughout_cons.mp hk
    rw [throughout_cons, Along]
    cases ht : step s a with
    | none => exact iff_of_true ⟨hi, nofun⟩ ⟨hrefused s a ht, nofun⟩
    | some t =>
      have hkt : K t := hrest t ht [] as t rfl rfl
      constructor
      · rintro ⟨-, h⟩
        have hit : I t := h t rfl [] as t rfl rfl
        refine ⟨(hstep s a t hks hkt hi ht).mp hit, fun u hu => ?_⟩
        cases hu
        exact (ih (hrest t ht) hit).mp (h t rfl)
      · rintro ⟨hp, h⟩
        refine ⟨hi, fun u hu => ?_⟩
        cases hu
        exact (ih (hrest t ht) ((hstep s a t hks hkt hi ht).mpr hp)).mpr (h t rfl)

/-- `K` may be preserved by every step. -/
theorem throughout_iff_along_of_refused {I K : S → Prop} {P : S → A → Prop}
    (hrefused : ∀ s a, step s a = none → P s a) (hkeep : ∀ s a s', K s → step s a = some s' → K s')
    (hstep : ∀ s a s', K s → I s → step s a = some s' → (I s' ↔ P s a)) {as : List A} {s : S} (hk : K s)
    (hi : I s) : Throughout step I s as ↔ Along step P s as :=
  throughout_iff_along_of_throughout hrefused (fun s a s' hk _ => hstep s a s' hk)
    (throughout_of_step hkeep hk) hi

theorem throughout_iff_along {I K : S → Prop} {P : S → A → Prop} (htotal : ∀ s a, ∃ s', step s a = some s')
    (hkeep : ∀ s a s', K s → step s a = some s' → K s')
    (hstep : ∀ s a s', K s → I s → step s a = some s' → (I s' ↔ P s a)) {as : List A} {s : S} (hk : K s)
    (hi : I s) : Throughout step I s as ↔ Along step P s as := by
  refine throughout_iff_along_of_refused (fun s a hnone => ?_) hkeep hstep hk hi
  obtain ⟨s', hs'⟩ := htotal s a
  cases hnone.symm.trans hs'

/-- `I` may hold by what the steps that meet `P` preserve, while every other step breaks it. -/
theorem throughout_iff_along_of_kept {I K : S → Prop} {P : S → A → Prop}
    (hrefused : ∀ s a, step s a = none → P s a) (hkeep : ∀ s a s', K s → P s a → step s a = some s' → K s')
    (hi : ∀ s, K s → I s) (hbreak : ∀ s a s', K s → ¬ P s a → step s a = some s' → ¬ I s') {as : List A}
    {s : S} (hk : K s) : Throughout step I s as ↔ Along step P s as := by
  constructor
  · intro h
    induction as generalizing s with
    | nil => trivial
    | cons a as ih =>
      obtain ⟨-, hrest⟩ := throughout_cons.mp h
      cases hs : step s a with
      | none => exact ⟨hrefused s a hs, fun t ht => absurd (hs.symm.trans ht) (Option.some_ne_none t).symm⟩
      | some t =>
        have hp : P s a := by
          by_contra hp
          exact hbreak s a t hk hp hs (hrest t hs [] as t rfl rfl)
        refine ⟨hp, fun u hu => ?_⟩
        cases hs.symm.trans hu
        exact ih (hkeep s a t hk hp hs) (hrest t hs)
  · intro h xs ys t he hr
    exact hi t (throughout_of_along hkeep h hk xs ys t he hr)

/-- Some action of the run is taken from a state in which `P` holds of it. -/
def Somewhere (step : S → A → Option S) (P : S → A → Prop) : S → List A → Prop
  | _, [] => False
  | s, a :: as => P s a ∨ ∃ s', step s a = some s' ∧ Somewhere step P s' as

theorem somewhere_cons {P : S → A → Prop} {s t : S} {a : A} {as : List A} (h : step s a = some t) :
    Somewhere step P s (a :: as) ↔ P s a ∨ Somewhere step P t as := by
  refine or_congr_right ⟨?_, fun hs => ⟨t, h, hs⟩⟩
  rintro ⟨u, hu, hs⟩
  cases hu.symm.trans h
  exact hs

/-- Where a step establishes `G` exactly if it meets `P`, and never undoes it, a run does exactly if one
    of its steps meets `P`. `K` is known of every state that the run reaches. -/
theorem run_iff_somewhere_of_throughout {G K : S → Prop} {P : S → A → Prop}
    (hstep : ∀ s a s', K s → K s' → step s a = some s' → (G s' ↔ G s ∨ P s a)) {as : List A} {s s' : S}
    (hk : Throughout step K s as) (h : run step s as = some s') : G s' ↔ G s ∨ Somewhere step P s as := by
  induction as generalizing s with
  | nil =>
    cases h
    exact (or_iff_left id).symm
  | cons a as ih =>
    obtain ⟨t, ht, hr⟩ := run_cons_eq_some.mp h
    obtain ⟨hks, hrest⟩ := throughout_cons.mp hk
    have hkt : K t := hrest t ht [] as t rfl rfl
    rw [ih (hrest t ht) hr, hstep s a t hks hkt ht, somewhere_cons ht, or_assoc]

/-- `K` may be preserved by every step. -/
theorem run_iff_somewhere {G K : S → Prop} {P : S → A → Prop}
    (hkeep : ∀ s a s', K s → step s a = some s' → K s')
    (hstep : ∀ s a s', K s → step s a = some s' → (G s' ↔ G s ∨ P s a)) {as : List A} {s s' : S} (hk : K s)
    (h : run step s as = some s') : G s' ↔ G s ∨ Somewhere step P s as :=
  run_iff_somewhere_of_throughout (fun s a s' hks _ => hstep s a s' hks) (throughout_of_step hkeep hk) h

theorem somewhere_concat {P : S → A → Prop} {s s' : S} {a : A} {as : List A} (h : run step s as = some s') :
    Somewhere step P s (as ++ [a]) ↔ Somewhere step P s as ∨ P s' a := by
  induction as generalizing s with
  | nil =>
    cases h
    simp [Somewhere]
  | cons b as ih =>
    obtain ⟨t, ht, hr⟩ := run_cons_eq_some.mp h
    rw [List.cons_append, somewhere_cons ht, somewhere_cons ht, ih hr, or_assoc]

/-- What holds has its cause behind it: where a step brings `G` about only by `P` or by `B`, every state of
    `G` comes after a step that meets `P` exactly if every step that meets `B` does. -/
theorem caused_iff {G : S → Prop} {P B : S → A → Prop} {s : S} {as : List A} (hstart : ¬ G s)
    (hstep : ∀ s a s', step s a = some s' → G s' → G s ∨ P s a ∨ B s a)
    (hbrings : ∀ s a, B s a → ¬ P s a ∧ ∃ s', step s a = some s' ∧ G s') :
    (∀ xs ys s', as = xs ++ ys → run step s xs = some s' → G s' → Somewhere step P s xs) ↔
      ∀ xs a ys s', as = xs ++ a :: ys → run step s xs = some s' → B s' a → Somewhere step P s xs := by
  constructor
  · intro h xs a ys s' he hr hb
    obtain ⟨hno, t, ht, hg⟩ := hbrings s' a hb
    have hrun : run step s (xs ++ [a]) = some t :=
      run_append_eq_some.mpr ⟨s', hr, run_cons_eq_some.mpr ⟨t, ht, rfl⟩⟩
    have hcause : Somewhere step P s (xs ++ [a]) := by
      refine h (xs ++ [a]) ys t ?_ hrun hg
      rw [he, List.append_assoc, List.singleton_append]
    exact ((somewhere_concat hr).mp hcause).resolve_right hno
  · intro h xs
    induction xs using List.reverseRecOn with
    | nil =>
      intro ys s' _ hr hg
      cases hr
      exact absurd hg hstart
    | append_singleton xs a ih =>
      intro ys s' he hr hg
      obtain ⟨t, ht, hlast⟩ := run_append_eq_some.mp hr
      obtain ⟨u, hu, hnil⟩ := run_cons_eq_some.mp hlast
      cases hnil
      rw [List.append_assoc, List.singleton_append] at he
      rw [somewhere_concat ht]
      rcases hstep t a s' hu hg with hbefore | hp | hb
      · exact .inl (ih (a :: ys) t he ht hbefore)
      · exact .inr hp
      · exact .inl (h xs a ys t he ht hb)

/-- A condition on the actions alone holds along every run of actions that meet it. -/
theorem along_of_forall {Q : A → Prop} {as : List A} (h : ∀ a ∈ as, Q a) (s : S) :
    Along step (fun _ a => Q a) s as := by
  induction as generalizing s with
  | nil => trivial
  | cons a as ih =>
    exact ⟨h a (List.mem_cons_self ..), fun s' _ => ih (fun b hb => h b (List.mem_cons_of_mem _ hb)) s'⟩

/-- A condition on the actions may join one on the states. -/
theorem Along.and_forall {Q : A → Prop} {P : S → A → Prop} {as : List A} {s : S}
    (h : Along step P s as) (hq : ∀ a ∈ as, Q a) : Along step (fun s a => Q a ∧ P s a) s as := by
  induction as generalizing s with
  | nil => trivial
  | cons a as ih =>
    exact ⟨⟨hq a (List.mem_cons_self ..), h.1⟩,
      fun s' hs => ih (h.2 s' hs) (fun b hb => hq b (List.mem_cons_of_mem _ hb))⟩

/-- What `P` and an invariant that it preserves imply at every step. -/
theorem Along.imp {I : S → Prop} {P Q : S → A → Prop} {as : List A} {s : S} (h : Along step P s as) (hi : I s)
    (hkeep : ∀ s a s', I s → P s a → step s a = some s' → I s') (himp : ∀ s a, I s → P s a → Q s a) :
    Along step Q s as := by
  induction as generalizing s with
  | nil => trivial
  | cons a as ih => exact ⟨himp s a hi h.1, fun s' hs => ih (h.2 s' hs) (hkeep s a s' hi h.1 hs)⟩

/-- The part of a list after the last element with a property. -/
theorem exists_last (P : A → Prop) (as : List A) : ∃ xs ys, as = xs ++ ys ∧ (∀ a ∈ ys, ¬ P a) ∧
    (xs = [] ∨ ∃ us a, xs = us ++ [a] ∧ P a) := by
  induction as using List.reverseRecOn with
  | nil => exact ⟨[], [], rfl, by simp, .inl rfl⟩
  | append_singleton as a ih =>
    by_cases ha : P a
    · exact ⟨as ++ [a], [], by simp, by simp, .inr ⟨as, a, rfl, ha⟩⟩
    · obtain ⟨xs, ys, rfl, hys, hxs⟩ := ih
      refine ⟨xs, ys ++ [a], by simp, fun b hb => ?_, hxs⟩
      rcases List.mem_append.mp hb with hb | hb
      · exact hys b hb
      · rw [List.mem_singleton.mp hb]
        exact ha

/-- What every step preserves holds along every run. -/
theorem run_invariant {I : S → Prop} (hstep : ∀ s a s', I s → step s a = some s' → I s')
    {as : List A} {s s' : S} (hi : I s) (h : run step s as = some s') : I s' :=
  run_invariant_along (fun _ _ => True) (fun s a s' hi _ hs => hstep s a s' hi hs)
    (along_of_forall (fun _ _ => trivial) s) hi h

/-- A run that loses a property has a step that does. -/
theorem exists_change {P : S → Prop} {as : List A} {s s' : S} (hs : P s) (hs' : ¬ P s')
    (h : run step s as = some s') : ∃ xs a ys t u, as = xs ++ a :: ys ∧ run step s xs = some t ∧ P t ∧
      step t a = some u ∧ ¬ P u := by
  induction as generalizing s with
  | nil =>
    cases h
    exact absurd hs hs'
  | cons a as ih =>
    obtain ⟨t, ht, hr⟩ := run_cons_eq_some.mp h
    by_cases hp : P t
    · obtain ⟨xs, b, ys, u, v, rfl, hu, hpu, hv, hnv⟩ := ih hp hr
      exact ⟨a :: xs, b, ys, u, v, rfl, run_cons_eq_some.mpr ⟨t, ht, hu⟩, hpu, hv, hnv⟩
    · exact ⟨[], a, as, s, t, rfl, rfl, hs, ht, hp⟩

/-- What every step relates, a run relates, if the relation is reflexive and transitive. -/
theorem run_relates {I : S → Prop} {R : S → S → Prop} (hrefl : ∀ s, R s s)
    (htrans : ∀ s t u, R s t → R t u → R s u)
    (hstep : ∀ s a s', I s → step s a = some s' → I s' ∧ R s s') {as : List A} {s s' : S} (hi : I s)
    (h : run step s as = some s') : R s s' := by
  induction as generalizing s with
  | nil =>
    rw [run_nil] at h
    cases h
    exact hrefl _
  | cons a as ih =>
    obtain ⟨t, ht, hr⟩ := run_cons_eq_some.mp h
    obtain ⟨hi', hst⟩ := hstep s a t hi ht
    exact htrans s t s' hst (ih hi' hr)

/-! ### Processes over a shared store -/

/-- A shared store and the local state of every process. -/
structure Pool (ι σ loc : Type*) where
  store : σ
  proc : ι → loc

variable {ι σ loc act : Type*} [DecidableEq ι]

/-- One process moves: `next` says what its action does to the store and to its local state. -/
def poolStep (next : ι → σ → loc → act → Option (σ × loc)) (s : Pool ι σ loc) (a : ι × act) :
    Option (Pool ι σ loc) :=
  (next a.1 s.store (s.proc a.1) a.2).map fun r => ⟨r.1, Function.update s.proc a.1 r.2⟩

variable {next : ι → σ → loc → act → Option (σ × loc)}

theorem poolStep_eq_some {s s' : Pool ι σ loc} {a : ι × act} :
    poolStep next s a = some s' ↔ ∃ x l, next a.1 s.store (s.proc a.1) a.2 = some (x, l) ∧
      s' = ⟨x, Function.update s.proc a.1 l⟩ := by
  simp only [poolStep, Option.map_eq_some_iff, Prod.exists]
  constructor
  · rintro ⟨x, l, h, rfl⟩
    exact ⟨x, l, h, rfl⟩
  · rintro ⟨x, l, h, rfl⟩
    exact ⟨x, l, h, rfl⟩

/-- A lock that a process lets go of, whether or not it holds it. -/
theorem letGo_cases (i : ι) (holder : Option ι) :
    (if holder = some i then none else holder) = holder ∨
      holder = some i ∧ (if holder = some i then none else holder) = none := by
  split_ifs with h
  · exact .inr ⟨h, rfl⟩
  · exact .inl rfl

/-- A process that moves alone. -/
def soloStep (next : ι → σ → loc → act → Option (σ × loc)) (i : ι) (x : σ × loc) (a : act) :
    Option (σ × loc) :=
  next i x.1 x.2 a

/-- A run of one process alone is one of the interleavings. -/
theorem pool_run_solo {i : ι} {as : List act} {s : Pool ι σ loc} {x : σ} {l : loc}
    (h : run (soloStep next i) (s.store, s.proc i) as = some (x, l)) :
    run (poolStep next) s (as.map fun a => (i, a)) = some ⟨x, Function.update s.proc i l⟩ := by
  induction as generalizing s with
  | nil =>
    cases h
    rw [Function.update_eq_self]
    rfl
  | cons a as ih =>
    obtain ⟨⟨y, m⟩, hy, hrun⟩ := run_cons_eq_some.mp h
    refine run_cons_eq_some.mpr ⟨_, poolStep_eq_some.mpr ⟨y, m, hy, rfl⟩, ?_⟩
    have hm : m = Function.update s.proc i m i := by rw [Function.update_self]
    rw [hm] at hrun
    rw [ih hrun, Function.update_idem]

/-- The store satisfies `J`, and every process its own assertion `K`. -/
def PoolInv (J : σ → Prop) (K : ι → σ → loc → Prop) (s : Pool ι σ loc) : Prop :=
  J s.store ∧ ∀ i, K i s.store (s.proc i)

theorem poolInv_step {J : σ → Prop} {K : ι → σ → loc → Prop}
    (own : ∀ i x l a x' l', J x → K i x l → next i x l a = some (x', l') → J x' ∧ K i x' l')
    (frame : ∀ i j x l m a x' l', i ≠ j → J x → K i x l → K j x m →
      next i x l a = some (x', l') → K j x' m)
    (s : Pool ι σ loc) (a : ι × act) (s' : Pool ι σ loc) (hs : PoolInv J K s)
    (h : poolStep next s a = some s') : PoolInv J K s' := by
  obtain ⟨x', l', hn, rfl⟩ := poolStep_eq_some.mp h
  obtain ⟨hj, hk⟩ := hs
  obtain ⟨hj', hk'⟩ := own _ _ _ _ _ _ hj (hk a.1) hn
  refine ⟨hj', (Function.forall_update_iff _ fun j => K j x').mpr ⟨hk', fun j hne => ?_⟩⟩
  exact frame _ j _ _ _ _ _ _ hne.symm hj (hk a.1) (hk j) hn

/-- The invariant rule for interleavings: what each process keeps for itself, and no process
    disturbs for another, holds after every interleaving. -/
theorem pool_invariant {J : σ → Prop} {K : ι → σ → loc → Prop}
    (own : ∀ i x l a x' l', J x → K i x l → next i x l a = some (x', l') → J x' ∧ K i x' l')
    (frame : ∀ i j x l m a x' l', i ≠ j → J x → K i x l → K j x m →
      next i x l a = some (x', l') → K j x' m)
    {as : List (ι × act)} {s s' : Pool ι σ loc} (hs : PoolInv J K s)
    (h : run (poolStep next) s as = some s') : PoolInv J K s' :=
  run_invariant (poolInv_step own frame) hs h

end Runs
