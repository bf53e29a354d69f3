import Mathlib.Data.List.Basic
import Mathlib.Data.List.Nodup

/-! Listings: groups listed one after another until there is enough of them, and lists read page by page.

    `cut` stops between two groups once it has reached a target, and anywhere once it has reached a cap. What it lists
    is a front part of the groups (`cut_isPrefix`); a group is listed in full exactly if the groups before it stay below
    the target and those up to it within the cap (`forall_mem_cut_iff`). -/

namespace Listing

variable {α β : Type*} {target cap n : ℕ} {g : List α} {gs pre post : List (List α)}

/-! ### Cutting off -/

/-- The groups after the first `n` elements, one after another. -/
def cut (target cap : ℕ) (n : ℕ) : List (List α) → List α
  | [] => []
  | g :: gs =>
    let p := g.take (cap - n)
    p ++ if target ≤ n + p.length ∨ cap ≤ n + p.length then [] else cut target cap (n + p.length) gs

theorem cut_cons : cut target cap n (g :: gs) = g.take (cap - n) ++
    if target ≤ n + (g.take (cap - n)).length ∨ cap ≤ n + (g.take (cap - n)).length then []
    else cut target cap (n + (g.take (cap - n)).length) gs := rfl

/-- A group that does not fit fills the room that is left. -/
theorem take_eq_or (g : List α) (h : n ≤ cap) : g.take (cap - n) = g ∨ n + (g.take (cap - n)).length = cap := by
  rcases Nat.lt_or_ge (cap - n) g.length with hlt | hge
  · right
    rw [List.length_take, Nat.min_eq_left (Nat.le_of_lt hlt)]
    omega
  · exact .inl (List.take_of_length_le hge)

theorem cut_isPrefix (target : ℕ) (gs : List (List α)) (h : n ≤ cap) : cut target cap n gs <+: gs.flatten := by
  induction gs generalizing n with
  | nil => exact List.nil_prefix
  | cons g gs ih =>
    rw [cut_cons, List.flatten_cons]
    split_ifs with hstop
    · rw [List.append_nil]
      exact (List.take_prefix _ _).trans (List.prefix_append _ _)
    · rcases take_eq_or g h with hall | hfull
      · rw [hall] at hstop ⊢
        exact (List.prefix_append_right_inj g).mpr (ih (by omega))
      · omega

theorem length_cut_le (target : ℕ) (gs : List (List α)) (h : n ≤ cap) : n + (cut target cap n gs).length ≤ cap := by
  induction gs generalizing n with
  | nil => exact h
  | cons g gs ih =>
    have hp : n + (g.take (cap - n)).length ≤ cap := by
      rw [List.length_take]
      omega
    rw [cut_cons, List.length_append]
    split_ifs with hstop
    · simpa using hp
    · have hrest := ih hp
      omega

/-- A target that is the cap cuts nothing but the end off. -/
theorem cut_self {k : ℕ} (gs : List (List α)) (h : n ≤ k) : cut k k n gs = gs.flatten.take (k - n) := by
  induction gs generalizing n with
  | nil => simp [cut]
  | cons g gs ih =>
    rw [cut_cons, List.flatten_cons]
    rcases take_eq_or g h with hall | hfull
    · rw [hall, List.take_append, hall]
      split_ifs with hstop
      · rw [show k - n - g.length = 0 by omega, List.take_zero]
      · rw [ih (by omega), Nat.sub_sub]
    · rw [if_pos (.inl (Nat.le_of_eq hfull.symm)), List.append_nil, List.take_append]
      have hlen : (g.take (k - n)).length ≤ g.length := List.length_take_le' _ _
      rw [show k - n - g.length = 0 by omega, List.take_zero, List.append_nil]

/-- With a higher target or cap more is listed, after what is listed anyway. -/
theorem cut_isPrefix_cut {target' cap' : ℕ} (ht : target ≤ target') (hc : cap ≤ cap') (gs : List (List α)) (h : n ≤ cap) :
    cut target cap n gs <+: cut target' cap' n gs := by
  induction gs generalizing n with
  | nil => exact List.prefix_rfl
  | cons g gs ih =>
    rw [cut_cons, cut_cons]
    rcases take_eq_or g h with hall | hfull
    · have hall' : g.take (cap' - n) = g := by
        refine List.take_of_length_le ?_
        have hlen := congrArg List.length hall
        rw [List.length_take] at hlen
        omega
      rw [hall, hall']
      refine (List.prefix_append_right_inj g).mpr ?_
      by_cases hstop : target ≤ n + g.length ∨ cap ≤ n + g.length
      · rw [if_pos hstop]
        exact List.nil_prefix
      · rw [if_neg hstop]
        split_ifs with hstop'
        · omega
        · exact ih (by omega)
    · rw [if_pos (.inr (Nat.le_of_eq hfull.symm)), List.append_nil]
      exact (List.take_prefix_take_left (by omega)).trans (List.prefix_append _ _)

/-- While the groups stay below target and cap they are listed, and the rest after them. -/
theorem cut_append (ht : n + pre.flatten.length < target) (hc : n + pre.flatten.length < cap) :
    cut target cap n (pre ++ post) = pre.flatten ++ cut target cap (n + pre.flatten.length) post := by
  induction pre generalizing n with
  | nil => simp
  | cons g pre ih =>
    rw [List.flatten_cons, List.length_append] at ht hc ⊢
    have hall : g.take (cap - n) = g := List.take_of_length_le (by omega)
    rw [List.cons_append, cut_cons, hall, if_neg (by omega), ih (by omega) (by omega), List.append_assoc,
      Nat.add_assoc]

/-- Once the target is reached, nothing follows. -/
theorem cut_of_reached (post : List (List α)) (hn : n < target) (h : n ≤ cap) (ht : target ≤ n + pre.flatten.length) :
    cut target cap n (pre ++ post) <+: pre.flatten := by
  induction pre generalizing n with
  | nil =>
    simp only [List.flatten_nil, List.length_nil] at ht
    omega
  | cons g pre ih =>
    rw [List.cons_append, cut_cons, List.flatten_cons]
    rw [List.flatten_cons, List.length_append] at ht
    split_ifs with hstop
    · rw [List.append_nil]
      exact (List.take_prefix _ _).trans (List.prefix_append _ _)
    · rcases take_eq_or g h with hall | hfull
      · rw [hall] at hstop ⊢
        exact (List.prefix_append_right_inj g).mpr (ih (by omega) (by omega) (by omega))
      · omega

theorem prefix_cut (hg : g ≠ []) (ht : n + pre.flatten.length < target)
    (hc : n + pre.flatten.length + g.length ≤ cap) : pre.flatten ++ g <+: cut target cap n (pre ++ g :: post) := by
  have hpos := List.length_pos_iff.mpr hg
  rw [cut_append ht (by omega), cut_cons, List.take_of_length_le (by omega)]
  exact (List.prefix_append_right_inj _).mpr (List.prefix_append _ _)

/-- A group is listed in full exactly if those before it stay below the target and leave it room. -/
theorem forall_mem_cut_iff (hd : (pre ++ g :: post).flatten.Nodup) (hg : g ≠ []) (hn : n < target) (h : n ≤ cap) :
    (∀ a ∈ g, a ∈ cut target cap n (pre ++ g :: post)) ↔
      n + pre.flatten.length < target ∧ n + pre.flatten.length + g.length ≤ cap := by
  refine ⟨fun hall => ?_, fun ⟨ht, hc⟩ a ha => (prefix_cut hg ht hc).subset (List.mem_append_right _ ha)⟩
  have hflat : (pre ++ g :: post).flatten = (pre.flatten ++ g.dropLast) ++ (g.getLast hg :: post.flatten) := by
    conv_lhs => rw [List.flatten_append, List.flatten_cons, ← List.dropLast_append_getLast hg]
    simp
  rw [hflat, List.nodup_append] at hd
  obtain ⟨-, -, hdisjoint⟩ := hd
  have hlast := hall _ (List.getLast_mem hg)
  -- The last of the group is not among those before it.
  have hfresh : g.getLast hg ∉ pre.flatten ++ g.dropLast := fun hmem => hdisjoint _ hmem _ List.mem_cons_self rfl
  by_contra hno
  rcases not_and_or.mp hno with ht | hc
  · have hpre := cut_of_reached (g :: post) hn h (Nat.le_of_not_lt ht)
    exact hfresh (List.mem_append_left _ (hpre.subset hlast))
  · have hlen := length_cut_le target (pre ++ g :: post) h
    have hdrop : (pre.flatten ++ g.dropLast).length + 1 = pre.flatten.length + g.length := by
      rw [List.length_append, List.length_dropLast]
      have hpos := List.length_pos_iff.mpr hg
      omega
    have hfront : cut target cap n (pre ++ g :: post) <+: pre.flatten ++ g.dropLast := by
      have hall := cut_isPrefix target (pre ++ g :: post) h
      rw [hflat] at hall
      exact List.prefix_of_prefix_length_le hall (List.prefix_append _ _) (by omega)
    exact hfresh (hfront.subset hlast)

/-! ### Two arrangements -/

section
variable {ι : Type*} {f f' : ι → List α} {is before after : List ι} {i : ι} {k : ℕ}

/-- The part of a group that is listed when it comes to its turn decides. The first group always has its turn. -/
theorem cut_congr (hlen : ∀ i ∈ is, (f i).length = (f' i).length) (h : n ≤ cap)
    (hall : ∀ before i after, is = before ++ i :: after →
      (before = [] ∨ n + (before.flatMap f).length < target) →
        (f i).take (cap - (n + (before.flatMap f).length)) = (f' i).take (cap - (n + (before.flatMap f).length))) :
    cut target cap n (is.map f) = cut target cap n (is.map f') := by
  induction is generalizing n with
  | nil => rfl
  | cons i is ih =>
    have hfirst : (f i).take (cap - n) = (f' i).take (cap - n) := by simpa using hall [] i is rfl (.inl rfl)
    rw [List.map_cons, List.map_cons, cut_cons, cut_cons, ← hfirst]
    split_ifs with hstop
    · rfl
    · have hlong := (take_eq_or (f i) h).resolve_right fun hfull => hstop (.inr (Nat.le_of_eq hfull.symm))
      rw [hlong] at hstop ⊢
      congr 1
      refine ih (fun j hj => hlen j (List.mem_cons_of_mem _ hj)) (by omega) fun before j after his hturn => ?_
      have hnext := hall (i :: before) j after (by rw [his]; rfl)
      rw [List.flatMap_cons, List.length_append, ← Nat.add_assoc] at hnext
      refine hnext (.inr ?_)
      rcases hturn with rfl | hturn
      · rw [List.flatMap_nil, List.length_nil, Nat.add_zero]
        omega
      · exact hturn

/-- Where an element of a group is listed. -/
theorem getElem?_cut (hturn : before = [] ∨ n + (before.flatMap f).length < target)
    (hk : k < (f i).length) (hcap : n + (before.flatMap f).length + k < cap) :
    (cut target cap n ((before ++ i :: after).map f))[(before.flatMap f).length + k]? = (f i)[k]? := by
  induction before generalizing n with
  | nil =>
    rw [List.flatMap_nil, List.length_nil, Nat.add_zero] at hcap
    rw [List.nil_append, List.map_cons, cut_cons, List.flatMap_nil, List.length_nil, Nat.zero_add,
      List.getElem?_append_left (by rw [List.length_take]; omega), List.getElem?_take_of_lt (by omega)]
  | cons j before ih =>
    replace hturn := hturn.resolve_left (List.cons_ne_nil _ _)
    rw [List.flatMap_cons, List.length_append] at hturn hcap ⊢
    have hall : (f j).take (cap - n) = f j := List.take_of_length_le (by omega)
    rw [List.cons_append, List.map_cons, cut_cons, hall, if_neg (by omega),
      List.getElem?_append_right (by omega), Nat.add_assoc, Nat.add_sub_cancel_left]
    exact ih (.inr (by omega)) (by omega)

end

/-! ### Groups -/

/-- Grouped by some keys, a list keeps the elements under these. -/
theorem flatMap_filter_perm [DecidableEq β] (key : α → β) {keys : List β} (hd : keys.Nodup) (l : List α) :
    (keys.flatMap fun k => l.filter fun a => key a = k).Perm (l.filter fun a => key a ∈ keys) := by
  induction keys with
  | nil => simp
  | cons k keys ih =>
    obtain ⟨hk, hd⟩ := List.nodup_cons.mp hd
    rw [List.flatMap_cons]
    refine ((ih hd).append_left _).trans ?_
    refine .trans (.of_eq ?_) (List.filter_append_perm (fun a => decide (key a = k)) _)
    rw [List.filter_filter, List.filter_filter]
    congr 1
    · refine List.filter_congr fun a _ => ?_
      by_cases h : key a = k <;> simp [h]
    · refine List.filter_congr fun a _ => ?_
      by_cases h : key a = k
      · simp [h, hk]
      · simp [h]

/-! ### Pages -/

/-- The page of `k` elements from an offset on. -/
def slice (offset k : ℕ) (l : List α) : List α := (l.drop offset).take k

/-- The first `n` pages, one after another. -/
def pages (k n : ℕ) (l : List α) : List α := (List.range n).flatMap fun i => slice (i * k) k l

theorem pages_eq_take (k n : ℕ) (l : List α) : pages k n l = l.take (n * k) := by
  induction n with
  | zero => simp [pages]
  | succ n ih =>
    have hlast : pages k (n + 1) l = pages k n l ++ slice (n * k) k l := by
      simp [pages, List.range_succ]
    rw [hlast, ih, slice, Nat.succ_mul, List.take_add]

/-- Enough pages show the whole list. -/
theorem pages_eq (k n : ℕ) {l : List α} (h : l.length ≤ n * k) : pages k n l = l := by
  rw [pages_eq_take, List.take_of_length_le h]

theorem mem_of_mem_pages {k n : ℕ} {l : List α} {a : α} (h : a ∈ pages k n l) : a ∈ l := by
  rw [pages_eq_take] at h
  exact List.mem_of_mem_take h

/-! ### Scans -/

/-- What a scan of the first numbers finds, it has found at none before. -/
theorem exists_of_findSome?_range {f : ℕ → Option β} {b : β}
    (h : (List.range n).findSome? f = some b) : ∃ k < n, f k = some b ∧ ∀ j < k, f j = none := by
  obtain ⟨earlier, k, later, hrange, hk, hnone⟩ := List.findSome?_eq_some_iff.mp h
  have hmem (j : ℕ) : j < n ↔ j ∈ earlier ∨ j = k ∨ j ∈ later := by
    rw [← List.mem_range, hrange, List.mem_append, List.mem_cons]
  have hlt := List.pairwise_lt_range (n := n)
  rw [hrange, List.pairwise_append, List.pairwise_cons] at hlt
  have hkn := (hmem k).mpr (.inr (.inl rfl))
  refine ⟨k, hkn, hk, fun j hj => ?_⟩
  rcases (hmem j).mp (Nat.lt_trans hj hkn) with hin | rfl | hin
  · exact hnone j hin
  · exact absurd hj (Nat.lt_irrefl j)
  · exact absurd hj (Nat.lt_asymm (hlt.2.1.1 j hin))

end Listing
