import Mathlib.Data.List.Nodup
import Mathlib.Data.Nat.Basic

/-! Tables as lists of rows under a primary key.

    `updateMany` changes the rows that meet a condition and leaves their keys alone; while the keys are
    distinct, a row is found by its key whatever else the condition asks for. A table `Evolves` when its rows
    are rewritten and new ones come under new keys. -/

namespace Rows

variable {α κ : Type*} {key : α → κ} {p q : α → Prop} [DecidablePred p] [DecidablePred q]
  {f : α → α} {rows : List α} {r s : α} {k : κ}

/-- `where: p`, `data: f`. -/
def updateMany (p : α → Prop) [DecidablePred p] (f : α → α) (rows : List α) : List α :=
  rows.map fun r => if p r then f r else r

/-- The rows of the table have distinct keys. -/
def Keyed (key : α → κ) (rows : List α) : Prop := (rows.map key).Nodup

instance [DecidableEq κ] : Decidable (Keyed key rows) := inferInstanceAs (Decidable (rows.map key).Nodup)

theorem mem_updateMany : r ∈ updateMany p f rows ↔
    ∃ s ∈ rows, (p s ∧ r = f s) ∨ (¬ p s ∧ r = s) := by
  rw [updateMany, List.mem_map]
  constructor
  · rintro ⟨s, hs, rfl⟩
    refine ⟨s, hs, ?_⟩
    split_ifs with hp
    · exact .inl ⟨hp, rfl⟩
    · exact .inr ⟨hp, rfl⟩
  · rintro ⟨s, hs, ⟨hp, rfl⟩ | ⟨hp, rfl⟩⟩
    · exact ⟨s, hs, if_pos hp⟩
    · exact ⟨r, hs, if_neg hp⟩

theorem mem_updateMany_of_pos (hr : r ∈ rows) (hp : p r) : f r ∈ updateMany p f rows :=
  mem_updateMany.mpr ⟨r, hr, .inl ⟨hp, rfl⟩⟩

theorem mem_updateMany_of_neg (hr : r ∈ rows) (hp : ¬ p r) : r ∈ updateMany p f rows :=
  mem_updateMany.mpr ⟨r, hr, .inr ⟨hp, rfl⟩⟩

/-- Rows with a property that no changed row has, before or after, are the same as they were. -/
theorem mem_updateMany_untouched {Q : α → Prop} (h : ∀ s ∈ rows, p s → ¬ Q s ∧ ¬ Q (f s)) (hr : Q r) :
    r ∈ updateMany p f rows ↔ r ∈ rows := by
  constructor
  · intro hmem
    obtain ⟨s, hs, ⟨hp, rfl⟩ | ⟨hp, rfl⟩⟩ := mem_updateMany.mp hmem
    · exact absurd hr (h s hs hp).2
    · exact hs
  · intro hmem
    exact mem_updateMany_of_neg hmem fun hp => (h r hmem hp).1 hr

theorem mem_concat_ne {Q : α → Prop} (hr : Q r) (hs : ¬ Q s) : r ∈ rows ++ [s] ↔ r ∈ rows := by
  rw [List.mem_append, List.mem_singleton]
  constructor
  · rintro (hmem | rfl)
    · exact hmem
    · exact absurd hr hs
  · exact .inl

/-- What holds of every row afterwards. -/
theorem forall_updateMany {Q : α → Prop} : (∀ r ∈ updateMany p f rows, Q r) ↔
    ∀ r ∈ rows, (p r → Q (f r)) ∧ (¬ p r → Q r) := by
  constructor
  · intro h r hr
    exact ⟨fun hp => h _ (mem_updateMany_of_pos hr hp), fun hp => h _ (mem_updateMany_of_neg hr hp)⟩
  · intro h r hr
    obtain ⟨s, hs, ⟨hp, rfl⟩ | ⟨hp, rfl⟩⟩ := mem_updateMany.mp hr
    · exact (h s hs).1 hp
    · exact (h r hs).2 hp

/-- Only the rows that are changed need to keep their keys. -/
theorem map_key_updateMany_of_mem (hf : ∀ r ∈ rows, p r → key (f r) = key r) :
    (updateMany p f rows).map key = rows.map key := by
  rw [updateMany, List.map_map]
  refine List.map_congr_left fun r hr => ?_
  rw [Function.comp_apply]
  split_ifs with hp
  · exact hf r hr hp
  · rfl

theorem map_key_updateMany (hf : ∀ r, key (f r) = key r) :
    (updateMany p f rows).map key = rows.map key :=
  map_key_updateMany_of_mem fun r _ _ => hf r

/-- A change that no row meets. -/
theorem updateMany_of_forall_not (h : ∀ r ∈ rows, ¬ p r) : updateMany p f rows = rows := by
  rw [updateMany]
  refine (List.map_congr_left fun r hr => ?_).trans (List.map_id rows)
  exact if_neg (h r hr)

/-- A change that neither moves a row into a part of the table nor out of it. -/
theorem filter_updateMany (hf : ∀ r, q (f r) ↔ q r) :
    (updateMany p f rows).filter (fun r => q r) = updateMany p f (rows.filter fun r => q r) := by
  rw [updateMany, updateMany, List.filter_map]
  congr 1
  refine List.filter_congr fun r _ => ?_
  rw [Function.comp_apply]
  split_ifs
  · simp only [hf]
  · rfl

theorem filter_concat : (rows ++ [r]).filter (fun r => q r) =
    if q r then (rows.filter fun r => q r) ++ [r] else rows.filter fun r => q r := by
  rw [List.filter_append]
  split_ifs with h
  · rw [List.filter_cons_of_pos (by simpa using h), List.filter_nil]
  · rw [List.filter_cons_of_neg (by simpa using h), List.filter_nil, List.append_nil]

theorem Keyed.updateMany_of_mem (h : Keyed key rows) (hf : ∀ r ∈ rows, p r → key (f r) = key r) :
    Keyed key (updateMany p f rows) := by
  rw [Keyed, map_key_updateMany_of_mem hf]
  exact h

theorem Keyed.updateMany (h : Keyed key rows) (hf : ∀ r, key (f r) = key r) :
    Keyed key (updateMany p f rows) :=
  h.updateMany_of_mem fun r _ _ => hf r

theorem Keyed.filter (h : Keyed key rows) : Keyed key (rows.filter p) :=
  h.sublist (List.filter_sublist.map key)

theorem Keyed.concat (h : Keyed key rows) (hr : ∀ s ∈ rows, key s ≠ key r) :
    Keyed key (rows ++ [r]) := by
  rw [Keyed, List.map_append, List.map_singleton]
  refine List.nodup_append.mpr ⟨h, List.nodup_singleton _, ?_⟩
  intro a ha b hb
  obtain ⟨s, hs, rfl⟩ := List.mem_map.mp ha
  rw [List.mem_singleton.mp hb]
  exact hr s hs

theorem Keyed.eq (h : Keyed key rows) (hr : r ∈ rows) (hs : s ∈ rows) (he : key r = key s) : r = s :=
  List.inj_on_of_nodup_map h hr hs he

/-- Rows of a table are known by their keys. -/
theorem Keyed.eq_of_map_eq (h : Keyed key rows) : ∀ {l l' : List α}, l ⊆ rows → l' ⊆ rows → l.map key = l'.map key → l = l'
  | [], [], _, _, _ => rfl
  | a :: l, b :: l', hl, hl', he => by
    rw [List.map_cons, List.map_cons, List.cons.injEq] at he
    have hab : a = b := h.eq (hl List.mem_cons_self) (hl' List.mem_cons_self) he.1
    rw [hab, h.eq_of_map_eq (List.subset_of_cons_subset hl) (List.subset_of_cons_subset hl') he.2]

theorem find_some (h : rows.find? (fun r => p r) = some r) : r ∈ rows ∧ p r :=
  ⟨List.mem_of_find?_eq_some h, by simpa using List.find?_some h⟩

/-- A condition that fixes the key finds the row that meets it. -/
theorem Keyed.find_iff (h : Keyed key rows) (hk : ∀ r, p r → key r = k) :
    rows.find? (fun r => p r) = some r ↔ r ∈ rows ∧ p r := by
  constructor
  · exact find_some
  · rintro ⟨hr, hp⟩
    cases hf : rows.find? (fun r => p r) with
    | none => exact absurd (by simpa using hp) (List.find?_eq_none.mp hf r hr)
    | some s =>
      obtain ⟨hs, hps⟩ := find_some hf
      rw [h.eq hs hr ((hk s hps).trans (hk r hp).symm)]

/-- A row that is looked up by its key is the same row, changed or not. -/
theorem find_updateMany [DecidableEq κ] (hf : ∀ r, key (f r) = key r) :
    (updateMany p f rows).find? (fun r => key r = k) =
      (rows.find? fun r => key r = k).map fun r => if p r then f r else r := by
  rw [updateMany, List.find?_map]
  congr 2
  funext r
  rw [Function.comp_apply]
  split_ifs
  · rw [hf]
  · rfl

/-- A count does not fall while the rows that count still do after the change. -/
theorem countP_le_updateMany (h : ∀ r ∈ rows, q r → q (if p r then f r else r)) :
    (rows.countP fun r => q r) ≤ (updateMany p f rows).countP fun r => q r := by
  rw [updateMany, List.countP_map]
  refine List.countP_mono_left fun r hr hq => ?_
  simpa using h r hr (by simpa using hq)

/-- Nor does it rise while no other row comes to count. -/
theorem countP_updateMany_le (h : ∀ r ∈ rows, q (if p r then f r else r) → q r) :
    ((updateMany p f rows).countP fun r => q r) ≤ rows.countP fun r => q r := by
  rw [updateMany, List.countP_map]
  refine List.countP_mono_left fun r hr hq => ?_
  simpa using h r hr (by simpa using hq)

/-- A weaker condition counts more rows where one row meets only it. -/
theorem countP_lt_countP (h : ∀ r ∈ rows, p r → q r) (hr : r ∈ rows) (hq : q r) (hp : ¬ p r) :
    (rows.countP fun r => p r) < rows.countP fun r => q r := by
  have hmono : ∀ part ⊆ rows, (part.countP fun r => p r) ≤ part.countP fun r => q r := by
    intro part hsub
    refine List.countP_mono_left fun r hr hp => ?_
    simpa using h r (hsub hr) (by simpa using hp)
  obtain ⟨before, rest, rfl⟩ := List.append_of_mem hr
  have hbefore := hmono before (List.subset_append_left ..)
  have hrest := hmono rest fun s hs => List.mem_append_right _ (List.mem_cons_of_mem _ hs)
  rw [List.countP_append, List.countP_append, List.countP_cons_of_neg (by simpa using hp),
    List.countP_cons_of_pos (by simpa using hq)]
  omega

/-- Of two rows that meet a condition, one has another key. -/
theorem Keyed.exists_other [DecidableEq κ] (h : Keyed key rows) (k : κ)
    (h2 : 2 ≤ rows.countP fun r => p r) : ∃ r ∈ rows, p r ∧ key r ≠ k := by
  by_contra hno
  have hle : (rows.countP fun r => p r) ≤ rows.countP fun r => key r = k := by
    refine List.countP_mono_left fun r hr hp => ?_
    by_contra hne
    exact hno ⟨r, hr, by simpa using hp, by simpa using hne⟩
  have hone : (rows.countP fun r => key r = k) ≤ 1 := by
    have hcount : (rows.countP fun r => key r = k) = (rows.map key).count k := by
      rw [List.count, List.countP_map]
      congr 1
    rw [hcount]
    exact List.nodup_iff_count_le_one.mp h k
  omega

/-! ### Tables that grow -/

/-- The keys are distinct, and the next one is new. -/
structure Numbered (id : α → ℕ) (rows : List α) (next : ℕ) : Prop where
  keyed : Keyed id rows
  fresh : ∀ r ∈ rows, id r < next

/-- Every row stays, changed as `R` says, and the rows that come are of the kind `B`. -/
structure Evolves (id : α → ℕ) (R : α → α → Prop) (B : α → Prop) (rows : List α) (next : ℕ) (rows' : List α)
    (next' : ℕ) : Prop where
  numbered : Numbered id rows next → Numbered id rows' next'
  next_le : next ≤ next'
  stays : ∀ r ∈ rows, ∃ r' ∈ rows', id r' = id r ∧ R r r'
  comes : ∀ r' ∈ rows', (∃ r ∈ rows, id r' = id r ∧ R r r') ∨ next ≤ id r' ∧ B r'

section
variable {id : α → ℕ} {R S T : α → α → Prop} {B C : α → Prop} {rows' rows'' : List α} {next next' next'' : ℕ}

theorem evolves_refl (hR : ∀ r ∈ rows, R r r) : Evolves id R B rows next rows next where
  numbered h := h
  next_le := le_rfl
  stays r hr := ⟨r, hr, rfl, hR r hr⟩
  comes r hr := .inl ⟨r, hr, rfl, hR r hr⟩

theorem Evolves.trans (h : Evolves id R B rows next rows' next') (h' : Evolves id S B rows' next' rows'' next'')
    (hRS : ∀ r r' r'', R r r' → S r' r'' → T r r'') (hB : ∀ r r', B r → S r r' → B r') :
    Evolves id T B rows next rows'' next'' where
  numbered hn := h'.numbered (h.numbered hn)
  next_le := le_trans h.next_le h'.next_le
  stays r hr := by
    obtain ⟨r', hr', hid, hR⟩ := h.stays r hr
    obtain ⟨r'', hr'', hid', hS⟩ := h'.stays r' hr'
    exact ⟨r'', hr'', hid'.trans hid, hRS r r' r'' hR hS⟩
  comes r'' hr'' := by
    rcases h'.comes r'' hr'' with ⟨r', hr', hid', hS⟩ | ⟨hle, hnew⟩
    · rcases h.comes r' hr' with ⟨r, hr, hid, hR⟩ | ⟨hle, hnew⟩
      · exact .inl ⟨r, hr, hid'.trans hid, hRS r r' r'' hR hS⟩
      · exact .inr ⟨hid' ▸ hle, hB r' r'' hnew hS⟩
    · exact .inr ⟨le_trans h.next_le hle, hnew⟩

theorem Evolves.mono (h : Evolves id R B rows next rows' next') (hR : ∀ r r', R r r' → S r r')
    (hB : ∀ r, B r → C r) : Evolves id S C rows next rows' next' where
  numbered := h.numbered
  next_le := h.next_le
  stays r hr := by
    obtain ⟨r', hr', hid, hr⟩ := h.stays r hr
    exact ⟨r', hr', hid, hR r r' hr⟩
  comes r' hr' := by
    rcases h.comes r' hr' with ⟨r, hr, hid, hr'⟩ | ⟨hle, hnew⟩
    · exact .inl ⟨r, hr, hid, hR r r' hr'⟩
    · exact .inr ⟨hle, hB r' hnew⟩

theorem evolves_map {g : α → α} (hid : ∀ r, id (g r) = id r) (hR : ∀ r ∈ rows, R r (g r)) :
    Evolves id R B rows next (rows.map g) next where
  numbered h := by
    refine ⟨?_, List.forall_mem_map.mpr fun r hr => hid r ▸ h.fresh r hr⟩
    have hkeys : (rows.map g).map id = rows.map id := by
      rw [List.map_map]
      exact List.map_congr_left fun r _ => hid r
    rw [Keyed, hkeys]
    exact h.keyed
  next_le := le_rfl
  stays r hr := ⟨g r, List.mem_map_of_mem hr, hid r, hR r hr⟩
  comes r' hr' := by
    obtain ⟨r, hr, rfl⟩ := List.mem_map.mp hr'
    exact .inl ⟨r, hr, hid r, hR r hr⟩

theorem evolves_updateMany (hid : ∀ r, id (f r) = id r) (hR : ∀ r ∈ rows, p r → R r (f r))
    (hsame : ∀ r ∈ rows, R r r) : Evolves id R B rows next (updateMany p f rows) next := by
  refine evolves_map (fun r => ?_) fun r hr => ?_
  · split_ifs
    · exact hid r
    · rfl
  · split_ifs with hp
    · exact hR r hr hp
    · exact hsame r hr

theorem evolves_concat (hid : id r = next) (hB : B r) (hsame : ∀ s ∈ rows, R s s) :
    Evolves id R B rows next (rows ++ [r]) (next + 1) where
  numbered h := by
    constructor
    · refine h.keyed.concat fun s hs => ?_
      rw [hid]
      exact ne_of_lt (h.fresh s hs)
    · refine List.forall_mem_append.mpr ⟨fun s hs => Nat.lt_succ_of_lt (h.fresh s hs), ?_⟩
      rw [List.forall_mem_singleton, hid]
      exact Nat.lt_succ_self _
  next_le := Nat.le_succ _
  stays s hs := ⟨s, List.mem_append_left _ hs, rfl, hsame s hs⟩
  comes s hs := by
    rcases List.mem_append.mp hs with hs | hs
    · exact .inl ⟨s, hs, rfl, hsame s hs⟩
    · rw [List.mem_singleton.mp hs]
      exact .inr ⟨le_of_eq hid.symm, hB⟩

/-- Other tables may take numbers too. -/
theorem Evolves.skip (h : Evolves id R B rows next rows' next') (hle : next' ≤ next'') :
    Evolves id R B rows next rows' next'' where
  numbered hn := ⟨(h.numbered hn).keyed, fun r hr => lt_of_lt_of_le ((h.numbered hn).fresh r hr) hle⟩
  next_le := le_trans h.next_le hle
  stays := h.stays
  comes := h.comes

/-- What the changes preserve and the new rows have holds of all rows. -/
theorem Evolves.forall {Q : α → Prop} (h : Evolves id R B rows next rows' next') (hQ : ∀ r ∈ rows, Q r)
    (hR : ∀ r r', Q r → R r r' → Q r') (hB : ∀ r, B r → Q r) : ∀ r' ∈ rows', Q r' := by
  intro r' hr'
  rcases h.comes r' hr' with ⟨r, hr, -, hrr'⟩ | ⟨-, hnew⟩
  · exact hR r r' (hQ r hr) hrr'
  · exact hB r' hnew

end

end Rows
