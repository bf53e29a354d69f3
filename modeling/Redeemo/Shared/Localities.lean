import Mathlib.Data.List.Nodup
import Mathlib.Data.Rat.Defs
import Redeemo.Lib.Runs

/-! Localities: found by name, district and country, and created under a slug.

    `findOrCreateLocality` reads and then writes, in two statements. The table refuses a row whose identity or whose
    slug it has, and the slug is a lossy form of the name and the district. -/

namespace Redeemo.Localities
open Runs

inductive Country
  | England | Scotland | Wales | NorthernIreland
  deriving DecidableEq, Repr

structure ResolvedPostcodeSnapshot where
  latitude : ℚ
  longitude : ℚ
  country : Country
  region : Option String
  ladDistrict : String
  adminCounty : Option String
  parish : Option String
  adminWard : Option String
  parliamentaryConstituency : Option String
  postTown : Option String

inductive PopulationTier
  | UNKNOWN | HAMLET | VILLAGE | SMALL_TOWN | TOWN | LARGE_TOWN | CITY | METRO_CORE
  deriving DecidableEq, Repr

/-- `@@unique([name, ladDistrict, country])`. -/
structure Identity where
  name : String
  ladDistrict : String
  country : Country
  deriving DecidableEq

structure LocalityData where
  name : String
  slug : String
  postTown : Option String
  ladDistrict : String
  adminCounty : Option String
  region : Option String
  country : Country
  centerLat : ℚ
  centerLng : ℚ
  populationTier : PopulationTier
  needsReview : Bool
  deriving DecidableEq

structure Locality extends LocalityData where
  id : ℕ
  deriving DecidableEq

def LocalityData.identity (d : LocalityData) : Identity := ⟨d.name, d.ladDistrict, d.country⟩

/-! ### Names and slugs -/

/-- `/unparished area$/i`. -/
def isUnparishedPlaceholder (parish : String) : Bool :=
  "unparished area".toList <:+ parish.toList.map Char.toLower

/-- The text, unless it is empty. -/
def nonEmpty (text : Option String) : Option String := text.filter fun s => s ≠ ""

def pickRuntimeLocalityName (snap : ResolvedPostcodeSnapshot) : String :=
  let parish := (nonEmpty snap.parish).filter fun s => !isUnparishedPlaceholder s
  let londonWard := if snap.region = some "London" then nonEmpty snap.adminWard else none
  (((parish.or londonWard).or (nonEmpty snap.parliamentaryConstituency)).or (nonEmpty snap.adminWard)).getD
    snap.ladDistrict

/-- `toLowerCase` as far as `[a-z0-9]` sees it: outside ASCII only these two give a letter of it. -/
def lowerCase (c : Char) : List Char :=
  if c = '\u0130' then ['i', '\u0307'] else if c = '\u212a' then ['k'] else [c.toLower]

def isSlugChar (c : Char) : Bool := ('a' ≤ c && c ≤ 'z') || ('0' ≤ c && c ≤ '9')

/-- `/[^a-z0-9]+/g`, every run of others one hyphen; `inRun` says that its hyphen has just been written. -/
def hyphenate : Bool → List Char → List Char
  | _, [] => []
  | inRun, c :: cs =>
    if isSlugChar c = true then c :: hyphenate false cs
    else if inRun = true then hyphenate true cs
    else '-' :: hyphenate true cs

/-- `/^-|-$/g`: one hyphen at either end. -/
def stripHyphens (cs : List Char) : List Char :=
  let rest := if cs.head? = some '-' then cs.tail else cs
  if rest.getLast? = some '-' then rest.dropLast else rest

def slugify (text : String) : String :=
  String.ofList (stripHyphens (hyphenate false (text.toList.flatMap lowerCase)))

def buildLocalitySlug (name : String) (ladDistrict : Option String) : String :=
  match nonEmpty ladDistrict with
  | none => slugify name
  | some lad => slugify name ++ "-" ++ slugify lad

/-! ### The table -/

/-- The rows, with the constraints of the table; ids are minted in order. -/
structure Table where
  rows : List Locality
  nextId : ℕ
  identities : (rows.map fun r => r.identity).Nodup
  slugs : (rows.map fun r => r.slug).Nodup
  ids : (rows.map Locality.id).Nodup
  minted : ∀ r ∈ rows, r.id < nextId

inductive PrismaError
  /-- A unique index has the row's key. -/
  | P2002
  deriving DecidableEq

def Table.HasIdentity (t : Table) (i : Identity) : Prop := ∃ r ∈ t.rows, r.identity = i

def Table.HasSlug (t : Table) (slug : String) : Prop := ∃ r ∈ t.rows, r.slug = slug

instance (t : Table) : DecidablePred t.HasIdentity := fun i =>
  inferInstanceAs (Decidable (∃ r ∈ t.rows, r.identity = i))

instance (t : Table) : DecidablePred t.HasSlug := fun s => inferInstanceAs (Decidable (∃ r ∈ t.rows, r.slug = s))

/-- `locality.findUnique` by the identity. -/
def Table.findUnique (t : Table) (i : Identity) : Option Locality := t.rows.find? fun r => r.identity = i

theorem nodup_concat {α : Type*} {l : List Locality} {f : Locality → α} {r : Locality} (h : (l.map f).Nodup)
    (hr : ¬ ∃ s ∈ l, f s = f r) : ((l ++ [r]).map f).Nodup := by
  rw [List.map_append, List.map_singleton, List.nodup_append]
  refine ⟨h, List.nodup_singleton _, ?_⟩
  rintro a ha b hb rfl
  obtain ⟨s, hs, rfl⟩ := List.mem_map.mp ha
  exact hr ⟨s, hs, List.mem_singleton.mp hb⟩

/-- The table with a row that has a new identity and a new slug. -/
def Table.insert (t : Table) (d : LocalityData) (hi : ¬ t.HasIdentity d.identity) (hs : ¬ t.HasSlug d.slug) :
    Table where
  rows := t.rows ++ [⟨d, t.nextId⟩]
  nextId := t.nextId + 1
  identities := nodup_concat (r := ⟨d, t.nextId⟩) (f := fun r => r.identity) t.identities hi
  slugs := nodup_concat (r := ⟨d, t.nextId⟩) (f := fun r => r.slug) t.slugs hs
  ids := nodup_concat (r := ⟨d, t.nextId⟩) (f := Locality.id) t.ids (not_exists.mpr fun r h => (t.minted r h.1).ne h.2)
  minted := by
    intro r hr
    rcases List.mem_append.mp hr with hr | hr
    · exact (t.minted r hr).trans (Nat.lt_succ_self _)
    · rw [List.mem_singleton.mp hr]
      exact Nat.lt_succ_self _

/-- `locality.create`. -/
def Table.create (t : Table) (d : LocalityData) : Except PrismaError (Table × Locality) :=
  if h : ¬ t.HasIdentity d.identity ∧ ¬ t.HasSlug d.slug then .ok (t.insert d h.1 h.2, ⟨d, t.nextId⟩)
  else .error .P2002

/-! ### Finding and creating -/

def ResolvedPostcodeSnapshot.identity (snap : ResolvedPostcodeSnapshot) : Identity :=
  ⟨pickRuntimeLocalityName snap, snap.ladDistrict, snap.country⟩

def findExistingLocality (t : Table) (snap : ResolvedPostcodeSnapshot) : Option Locality := t.findUnique snap.identity

/-- The row that is created for the snapshot. -/
def newLocality (snap : ResolvedPostcodeSnapshot) : LocalityData where
  name := pickRuntimeLocalityName snap
  slug := buildLocalitySlug (pickRuntimeLocalityName snap) (some snap.ladDistrict)
  postTown := snap.postTown
  ladDistrict := snap.ladDistrict
  adminCounty := snap.adminCounty
  region := snap.region
  country := snap.country
  centerLat := snap.latitude
  centerLng := snap.longitude
  populationTier := .UNKNOWN
  needsReview := true

def findOrCreateLocality (t : Table) (snap : ResolvedPostcodeSnapshot) : Except PrismaError (Table × Locality) :=
  match findExistingLocality t snap with
  | some existing => .ok (t, existing)
  | none => t.create (newLocality snap)

/-- Where a call stands between its statements. -/
inductive Phase
  | start
  /-- It has found nothing. -/
  | missed
  | returned (locality : Locality)
  | failed (e : PrismaError)
  deriving DecidableEq

variable {ι : Type*}

/-- The next statement of call `i`. -/
def next (calls : ι → ResolvedPostcodeSnapshot) (i : ι) (t : Table) : Phase → Unit → Option (Table × Phase)
  | .start, _ =>
    match findExistingLocality t (calls i) with
    | some existing => some (t, .returned existing)
    | none => some (t, .missed)
  | .missed, _ =>
    match t.create (newLocality (calls i)) with
    | .ok (t', created) => some (t', .returned created)
    | .error e => some (t, .failed e)
  | .returned _, _ => none
  | .failed _, _ => none

/-- Where a call stands when it has run alone. -/
def settled (t : Table) : Except PrismaError (Table × Locality) → Table × Phase
  | .ok (t', locality) => (t', .returned locality)
  | .error e => (t, .failed e)

/-- The calls have come in, and none has run. -/
def initial (t : Table) : Pool ι Table Phase := ⟨t, fun _ => .start⟩


/-! ### The rows -/

section
variable {t : Table}

theorem identity_eq_iff {r s : Locality} (hr : r ∈ t.rows) (hs : s ∈ t.rows) :
    r.id = s.id ↔ r.identity = s.identity := by
  constructor
  · intro h
    rw [List.inj_on_of_nodup_map t.ids hr hs h]
  · intro h
    rw [List.inj_on_of_nodup_map t.identities hr hs h]

theorem findUnique_eq_some {i : Identity} {r : Locality} (h : t.findUnique i = some r) :
    r ∈ t.rows ∧ r.identity = i := by
  refine ⟨List.mem_of_find?_eq_some h, ?_⟩
  simpa using List.find?_some h

theorem findUnique_eq_none {i : Identity} : t.findUnique i = none ↔ ¬ t.HasIdentity i := by
  simp [Table.findUnique, Table.HasIdentity]

theorem create_ok {d : LocalityData} (hi : ¬ t.HasIdentity d.identity) (hs : ¬ t.HasSlug d.slug) :
    t.create d = .ok (t.insert d hi hs, ⟨d, t.nextId⟩) :=
  dif_pos ⟨hi, hs⟩

theorem create_error {d : LocalityData} (h : t.HasIdentity d.identity ∨ t.HasSlug d.slug) :
    t.create d = .error .P2002 :=
  dif_neg fun hfree => h.elim hfree.1 hfree.2

@[simp] theorem insert_rows {d : LocalityData} {hi : ¬ t.HasIdentity d.identity} {hs : ¬ t.HasSlug d.slug} :
    (t.insert d hi hs).rows = t.rows ++ [⟨d, t.nextId⟩] := rfl

theorem insert_hasIdentity {d : LocalityData} {hi : ¬ t.HasIdentity d.identity} {hs : ¬ t.HasSlug d.slug}
    {i : Identity} : (t.insert d hi hs).HasIdentity i ↔ t.HasIdentity i ∨ d.identity = i := by
  simp [Table.HasIdentity, or_and_right, exists_or]

theorem insert_hasSlug {d : LocalityData} {hi : ¬ t.HasIdentity d.identity} {hs : ¬ t.HasSlug d.slug}
    {s : String} : (t.insert d hi hs).HasSlug s ↔ t.HasSlug s ∨ d.slug = s := by
  simp [Table.HasSlug, or_and_right, exists_or]

end

/-! ### One call -/

/-- The slug under which the snapshot's locality would be created. -/
def ResolvedPostcodeSnapshot.slug (snap : ResolvedPostcodeSnapshot) : String := (newLocality snap).slug

/-- The locality is there, or its slug is free. -/
def Fits (t : Table) (snap : ResolvedPostcodeSnapshot) : Prop := t.HasIdentity snap.identity ∨ ¬ t.HasSlug snap.slug

variable {t : Table} {snap : ResolvedPostcodeSnapshot}

theorem slug_of_identity {a b : ResolvedPostcodeSnapshot} (h : a.identity = b.identity) : a.slug = b.slug := by
  obtain ⟨hname, hdistrict, -⟩ := Identity.mk.inj h
  show buildLocalitySlug _ _ = buildLocalitySlug _ _
  rw [hname, hdistrict]

theorem findOrCreateLocality_found (h : t.HasIdentity snap.identity) :
    ∃ r ∈ t.rows, r.identity = snap.identity ∧ findOrCreateLocality t snap = .ok (t, r) := by
  cases hfind : findExistingLocality t snap with
  | none => exact absurd h (findUnique_eq_none.mp hfind)
  | some r =>
    obtain ⟨hr, hid⟩ := findUnique_eq_some hfind
    refine ⟨r, hr, hid, ?_⟩
    rw [findOrCreateLocality, hfind]

theorem findOrCreateLocality_missing (h : ¬ t.HasIdentity snap.identity) :
    findOrCreateLocality t snap = t.create (newLocality snap) := by
  have hfind : findExistingLocality t snap = none := findUnique_eq_none.mpr h
  rw [findOrCreateLocality, hfind]

/-- The call fails exactly when the locality is new and its slug is taken. -/
theorem findOrCreateLocality_error : findOrCreateLocality t snap = .error .P2002 ↔ ¬ Fits t snap := by
  by_cases h : t.HasIdentity snap.identity
  · obtain ⟨r, -, -, hok⟩ := findOrCreateLocality_found h
    rw [hok]
    refine ⟨fun he => ?_, fun hfit => absurd (.inl h) hfit⟩
    cases he
  · rw [findOrCreateLocality_missing h, Fits, not_or, not_not]
    refine ⟨fun he => ⟨h, ?_⟩, fun hfit => create_error (.inr hfit.2)⟩
    by_contra hslug
    rw [create_ok h hslug] at he
    cases he

/-- What a call that fits leaves: its locality, and no other row that was not there. -/
theorem findOrCreateLocality_ok (h : Fits t snap) : ∃ t' r, findOrCreateLocality t snap = .ok (t', r) ∧
    r ∈ t'.rows ∧ r.identity = snap.identity ∧ t.rows ⊆ t'.rows ∧
    (∀ i, t'.HasIdentity i ↔ t.HasIdentity i ∨ i = snap.identity) ∧
    ∀ s, t'.HasSlug s ↔ t.HasSlug s ∨ ¬ t.HasIdentity snap.identity ∧ s = snap.slug := by
  by_cases hid : t.HasIdentity snap.identity
  · obtain ⟨r, hr, heq, hok⟩ := findOrCreateLocality_found hid
    refine ⟨t, r, hok, hr, heq, fun _ => id, fun i => ?_, fun s => ?_⟩
    · exact ⟨.inl, fun hi => hi.elim id fun he => he ▸ hid⟩
    · exact ⟨.inl, fun hs => hs.elim id fun hnew => absurd hid hnew.1⟩
  · have hslug : ¬ t.HasSlug (newLocality snap).slug := h.resolve_left hid
    have hmiss : ¬ t.HasIdentity (newLocality snap).identity := hid
    refine ⟨t.insert (newLocality snap) hmiss hslug, ⟨newLocality snap, t.nextId⟩, ?_, ?_, rfl, ?_, fun i => ?_,
      fun s => ?_⟩
    · rw [findOrCreateLocality_missing hid]
      exact create_ok hmiss hslug
    · exact List.mem_append_right _ (List.mem_singleton_self _)
    · exact List.subset_append_left _ _
    · rw [insert_hasIdentity, eq_comm (a := i)]
      rfl
    · rw [insert_hasSlug, eq_comm (a := s), and_iff_right hid]
      rfl

/-! ### One call after the other -/

/-- Both calls return, and they return one locality exactly when the snapshots agree on its identity. -/
def SequentialOk (t : Table) (a b : ResolvedPostcodeSnapshot) : Prop :=
  ∃ t₁ la t₂ lb, findOrCreateLocality t a = .ok (t₁, la) ∧ findOrCreateLocality t₁ b = .ok (t₂, lb) ∧
    (la.id = lb.id ↔ a.identity = b.identity)

/-- The second call fits when the first has returned. -/
theorem fits_after {t t' : Table} {a b : ResolvedPostcodeSnapshot} (hfit : Fits t a)
    (hids : ∀ i, t'.HasIdentity i ↔ t.HasIdentity i ∨ i = a.identity)
    (hslugs : ∀ s, t'.HasSlug s ↔ t.HasSlug s ∨ ¬ t.HasIdentity a.identity ∧ s = a.slug) :
    Fits t' b ↔ Fits t b ∧ (a.identity ≠ b.identity → ¬ t.HasIdentity a.identity → ¬ t.HasIdentity b.identity →
      a.slug ≠ b.slug) := by
  have hsame : a.identity = b.identity → ¬ t.HasIdentity b.identity → ¬ t.HasSlug b.slug := by
    intro h hmiss
    rw [← slug_of_identity h]
    exact hfit.resolve_left (h ▸ hmiss)
  simp only [Fits, hids, hslugs]
  by_cases h : a.identity = b.identity
  · have := hsame h
    simp only [h, or_true, ne_eq, not_true_eq_false, false_implies, and_true, true_or, true_iff]
    tauto
  · have hba : b.identity ≠ a.identity := Ne.symm h
    simp only [hba, or_false, ne_eq, h, not_false_eq_true, true_implies, eq_comm (a := b.slug)]
    tauto

theorem sequentialOk_iff {a b : ResolvedPostcodeSnapshot} : SequentialOk t a b ↔ Fits t a ∧ Fits t b ∧
    (a.identity ≠ b.identity → ¬ t.HasIdentity a.identity → ¬ t.HasIdentity b.identity → a.slug ≠ b.slug) := by
  constructor
  · rintro ⟨t₁, la, t₂, lb, ha, hb, -⟩
    have hfit : Fits t a := by
      by_contra hno
      rw [findOrCreateLocality_error.mpr hno] at ha
      cases ha
    obtain ⟨t', r, hok, -, -, -, hids, hslugs⟩ := findOrCreateLocality_ok hfit
    cases hok.symm.trans ha
    refine ⟨hfit, (fits_after hfit hids hslugs).mp ?_⟩
    by_contra hno
    rw [findOrCreateLocality_error.mpr hno] at hb
    cases hb
  · rintro ⟨hfit, hrest⟩
    obtain ⟨t₁, la, ha, hla, hida, -, hids, hslugs⟩ := findOrCreateLocality_ok hfit
    obtain ⟨t₂, lb, hb, hlb, hidb, hkept, -, -⟩ := findOrCreateLocality_ok ((fits_after hfit hids hslugs).mpr hrest)
    refine ⟨t₁, la, t₂, lb, ha, hb, ?_⟩
    rw [identity_eq_iff (hkept hla) hlb, hida, hidb]

/-! ### Calls at once -/

section
variable {ι : Type*} {calls : ι → ResolvedPostcodeSnapshot} {t : Table}

/-- Every call has returned or can go on, and two that have returned agree as their snapshots do. -/
def Served [DecidableEq ι] (calls : ι → ResolvedPostcodeSnapshot) (s : Pool ι Table Phase) : Prop :=
  (∀ i, (∃ r, s.proc i = .returned r) ∨ ∃ s', poolStep (next calls) s (i, ()) = some s') ∧
  ∀ i j la lb, s.proc i = .returned la → s.proc j = .returned lb →
    (la.id = lb.id ↔ (calls i).identity = (calls j).identity)

def InterleavedOk [DecidableEq ι] (t : Table) (calls : ι → ResolvedPostcodeSnapshot) : Prop :=
  ∀ as s, run (poolStep (next calls)) (initial t) as = some s → Served calls s

/-- No two of the calls would create under one slug. -/
def Apart (t : Table) (calls : ι → ResolvedPostcodeSnapshot) : Prop :=
  ∀ i j, i ≠ j → ¬ t.HasIdentity (calls i).identity → ¬ t.HasIdentity (calls j).identity →
    (calls i).slug ≠ (calls j).slug

/-- The rows of `t`, and rows for some of the calls. -/
structure StoreInv (t : Table) (calls : ι → ResolvedPostcodeSnapshot) (x : Table) : Prop where
  kept : t.rows ⊆ x.rows
  made : ∀ r ∈ x.rows, r ∈ t.rows ∨ ∃ i, r.identity = (calls i).identity ∧ r.slug = (calls i).slug

/-- A call whose locality was missing finds its slug free until it has created it. -/
def CallInv (t : Table) (calls : ι → ResolvedPostcodeSnapshot) (i : ι) (x : Table) : Phase → Prop
  | .start => ¬ t.HasIdentity (calls i).identity → ¬ x.HasSlug (calls i).slug
  | .missed => ¬ t.HasIdentity (calls i).identity ∧ ¬ x.HasSlug (calls i).slug
  | .returned r => r ∈ x.rows ∧ r.identity = (calls i).identity
  | .failed _ => False

variable {i j : ι} {x x' : Table} {l l' : Phase}

theorem StoreInv.hasIdentity (h : StoreInv t calls x) (hid : t.HasIdentity (calls i).identity) :
    x.HasIdentity (calls i).identity := by
  obtain ⟨r, hr, heq⟩ := hid
  exact ⟨r, h.kept hr, heq⟩

/-- A free slug leaves the identity to the rows of `t`: a created row has both. -/
theorem StoreInv.missing (h : StoreInv t calls x) (hid : ¬ t.HasIdentity (calls i).identity)
    (hslug : ¬ x.HasSlug (calls i).slug) : ¬ x.HasIdentity (calls i).identity := by
  rintro ⟨r, hr, heq⟩
  rcases h.made r hr with hold | ⟨j, hj, hs⟩
  · exact hid ⟨r, hold, heq⟩
  · exact hslug ⟨r, hr, hs.trans (slug_of_identity (hj.symm.trans heq))⟩

/-- What a statement of call `i` does: it keeps the call's assertion, and the store but for the call's row. -/
theorem next_cases (hx : StoreInv t calls x) (hl : CallInv t calls i x l) (h : next calls i x l () = some (x', l')) :
    CallInv t calls i x' l' ∧ (x' = x ∨ ¬ t.HasIdentity (calls i).identity ∧
      ∃ hid hslug, x' = x.insert (newLocality (calls i)) hid hslug) := by
  cases l with
  | start =>
    cases hfind : findExistingLocality x (calls i) with
    | none =>
      simp only [next, hfind, Option.some.injEq, Prod.mk.injEq] at h
      obtain ⟨rfl, rfl⟩ := h
      have hmiss : ¬ t.HasIdentity (calls i).identity := fun hid => findUnique_eq_none.mp hfind (hx.hasIdentity hid)
      exact ⟨⟨hmiss, hl hmiss⟩, .inl rfl⟩
    | some r =>
      simp only [next, hfind, Option.some.injEq, Prod.mk.injEq] at h
      obtain ⟨rfl, rfl⟩ := h
      exact ⟨findUnique_eq_some hfind, .inl rfl⟩
  | missed =>
    obtain ⟨hmiss, hslug⟩ := hl
    have hid := hx.missing hmiss hslug
    simp only [next, create_ok (d := newLocality (calls i)) hid hslug, Option.some.injEq, Prod.mk.injEq] at h
    obtain ⟨rfl, rfl⟩ := h
    exact ⟨⟨List.mem_append_right _ (List.mem_singleton_self _), rfl⟩, .inr ⟨hmiss, hid, hslug, rfl⟩⟩
  | returned r => cases h
  | failed e => exact hl.elim

theorem storeInv_next (hx : StoreInv t calls x) (hl : CallInv t calls i x l) (h : next calls i x l () = some (x', l')) :
    StoreInv t calls x' := by
  obtain ⟨-, rfl | ⟨-, hid, hslug, rfl⟩⟩ := next_cases hx hl h
  · exact hx
  · refine ⟨List.Subset.trans hx.kept (List.subset_append_left _ _), fun r hr => ?_⟩
    rcases List.mem_append.mp hr with hr | hr
    · exact hx.made r hr
    · rw [List.mem_singleton.mp hr]
      exact .inr ⟨i, rfl, rfl⟩

/-- What one call does to another's assertion: nothing, when their slugs are apart. -/
theorem callInv_frame (hapart : Apart t calls) (hne : i ≠ j) (hx : StoreInv t calls x) (hl : CallInv t calls i x l)
    {m : Phase} (hm : CallInv t calls j x m) (h : next calls i x l () = some (x', l')) : CallInv t calls j x' m := by
  obtain ⟨-, rfl | ⟨hmiss, hid, hslug, rfl⟩⟩ := next_cases hx hl h
  · exact hm
  · have hfree (hj : ¬ t.HasIdentity (calls j).identity) (hs : ¬ x.HasSlug (calls j).slug) :
        ¬ (x.insert (newLocality (calls i)) hid hslug).HasSlug (calls j).slug := by
      rw [insert_hasSlug, not_or]
      exact ⟨hs, hapart i j hne hmiss hj⟩
    cases m with
    | start => exact fun hj => hfree hj (hm hj)
    | missed => exact ⟨hm.1, hfree hm.1 hm.2⟩
    | returned r => exact ⟨List.mem_append_left _ hm.1, hm.2⟩
    | failed e => exact hm

theorem next_of_not_returned (h : ∀ r, l ≠ .returned r) (hl : CallInv t calls i x l) :
    ∃ y, next calls i x l () = some y := by
  cases l with
  | start =>
    cases hfind : findExistingLocality x (calls i) with
    | none => exact ⟨(x, .missed), by simp [next, hfind]⟩
    | some r => exact ⟨(x, .returned r), by simp [next, hfind]⟩
  | missed =>
    cases hcreate : x.create (newLocality (calls i)) with
    | error e => exact ⟨(x, .failed e), by simp [next, hcreate]⟩
    | ok y => exact ⟨(y.1, .returned y.2), by simp [next, hcreate]⟩
  | returned r => exact absurd rfl (h r)
  | failed e => exact hl.elim

variable [DecidableEq ι]

theorem interleaved_served (hfit : ∀ i, Fits t (calls i)) (hapart : Apart t calls) : InterleavedOk t calls := by
  intro as s h
  have hinv : PoolInv (StoreInv t calls) (CallInv t calls) s := by
    refine pool_invariant (J := StoreInv t calls) (K := CallInv t calls) ?_ ?_ ?_ h
    · rintro i x l ⟨⟩ x' l' hx hl hn
      exact ⟨storeInv_next hx hl hn, (next_cases hx hl hn).1⟩
    · rintro i j x l m ⟨⟩ x' l' hne hx hl hm hn
      exact callInv_frame hapart hne hx hl hm hn
    · exact ⟨⟨fun _ hr => hr, fun r hr => .inl hr⟩, fun i hmiss => (hfit i).resolve_left hmiss⟩
  constructor
  · intro i
    by_cases hr : ∃ r, s.proc i = .returned r
    · exact .inl hr
    · obtain ⟨⟨x', l'⟩, hn⟩ := next_of_not_returned (fun r hi => hr ⟨r, hi⟩) (hinv.2 i)
      exact .inr ⟨_, poolStep_eq_some.mpr ⟨x', l', hn, rfl⟩⟩
  · intro i j la lb hi hj
    have ha := hinv.2 i
    have hb := hinv.2 j
    rw [hi] at ha
    rw [hj] at hb
    rw [identity_eq_iff ha.1 hb.1, ha.2, hb.2]

/-! ### Schedules that fail -/

section
variable (calls) (s : Pool ι Table Phase) (i : ι)

theorem step_missed (hstart : s.proc i = .start) (h : ¬ s.store.HasIdentity (calls i).identity) :
    poolStep (next calls) s (i, ()) = some ⟨s.store, Function.update s.proc i .missed⟩ := by
  have hfind : findExistingLocality s.store (calls i) = none := findUnique_eq_none.mpr h
  exact poolStep_eq_some.mpr ⟨_, _, by rw [hstart, next, hfind], rfl⟩

theorem step_failed (hmissed : s.proc i = .missed) (h : s.store.HasSlug (calls i).slug) :
    poolStep (next calls) s (i, ()) = some ⟨s.store, Function.update s.proc i (.failed .P2002)⟩ := by
  have herr : s.store.create (newLocality (calls i)) = .error .P2002 := create_error (.inr h)
  exact poolStep_eq_some.mpr ⟨_, _, by rw [hmissed, next, herr], rfl⟩

theorem step_created (hmissed : s.proc i = .missed) (hid : ¬ s.store.HasIdentity (newLocality (calls i)).identity)
    (hslug : ¬ s.store.HasSlug (newLocality (calls i)).slug) : poolStep (next calls) s (i, ()) =
      some ⟨s.store.insert (newLocality (calls i)) hid hslug,
        Function.update s.proc i (.returned ⟨newLocality (calls i), s.store.nextId⟩)⟩ := by
  have hok := create_ok hid hslug
  exact poolStep_eq_some.mpr ⟨_, _, by rw [hmissed, next, hok], rfl⟩

end

theorem not_served {s : Pool ι Table Phase} (h : s.proc i = .failed .P2002) : ¬ Served calls s := by
  intro hserved
  rcases hserved.1 i with ⟨r, hr⟩ | ⟨s', hs'⟩
  · rw [h] at hr
    cases hr
  · obtain ⟨x, l, hn, -⟩ := poolStep_eq_some.mp hs'
    rw [h] at hn
    cases hn

omit [DecidableEq ι] in
/-- The statements of one call are `findOrCreateLocality`. -/
theorem findOrCreateLocality_alone (calls : ι → ResolvedPostcodeSnapshot) (t : Table) (i : ι) :
    ∃ as, run (soloStep (next calls) i) (t, .start) as = some (settled t (findOrCreateLocality t (calls i))) := by
  unfold findOrCreateLocality
  cases hfind : findExistingLocality t (calls i) with
  | some r =>
    refine ⟨[()], ?_⟩
    simp [run, soloStep, next, hfind, settled]
  | none =>
    refine ⟨[(), ()], ?_⟩
    cases hcreate : t.create (newLocality (calls i)) <;> simp [run, soloStep, next, hfind, hcreate, settled]

theorem fits_of_interleaved (h : InterleavedOk t calls) (i : ι) : Fits t (calls i) := by
  by_contra hno
  obtain ⟨as, hrun⟩ := findOrCreateLocality_alone calls t i
  rw [findOrCreateLocality_error.mpr hno] at hrun
  exact not_served (Function.update_self ..) (h _ _ (pool_run_solo (s := initial t) hrun))

/-- Both read before either writes: the second to write finds the slug taken. -/
theorem apart_of_interleaved (h : InterleavedOk t calls) : Apart t calls := by
  intro i j hne hi hj heq
  have hfree : ¬ t.HasSlug (calls i).slug := (fits_of_interleaved h i).resolve_left hi
  have h₁ := step_missed calls (initial t) i rfl hi
  have h₂ := step_missed calls ⟨t, Function.update (initial t).proc i .missed⟩ j
    (Function.update_of_ne hne.symm ..) hj
  have hid : ¬ t.HasIdentity (newLocality (calls i)).identity := hi
  have hslug : ¬ t.HasSlug (newLocality (calls i)).slug := hfree
  have h₃ := step_created calls ⟨t, Function.update (Function.update (initial t).proc i .missed) j .missed⟩ i
    ((Function.update_of_ne hne ..).trans (Function.update_self ..)) hid hslug
  have htaken : (t.insert (newLocality (calls i)) hid hslug).HasSlug (calls j).slug := insert_hasSlug.mpr (.inr heq)
  have h₄ := step_failed calls ⟨t.insert (newLocality (calls i)) hid hslug, Function.update
      (Function.update (Function.update (initial t).proc i .missed) j .missed) i
        (.returned ⟨newLocality (calls i), t.nextId⟩)⟩ j
    ((Function.update_of_ne hne.symm ..).trans (Function.update_self ..)) htaken
  refine not_served (i := j) ?_ (h [(i, ()), (j, ()), (i, ()), (j, ())] _ (run_cons_eq_some.mpr ⟨_, h₁,
    run_cons_eq_some.mpr ⟨_, h₂, run_cons_eq_some.mpr ⟨_, h₃, run_cons_eq_some.mpr ⟨_, h₄, rfl⟩⟩⟩⟩))
  exact Function.update_self ..

theorem interleavedOk_iff : InterleavedOk t calls ↔ (∀ i, Fits t (calls i)) ∧ Apart t calls :=
  ⟨fun h => ⟨fits_of_interleaved h, apart_of_interleaved h⟩, fun h => interleaved_served h.1 h.2⟩

end

/-! ### Two calls -/

def both (a b : ResolvedPostcodeSnapshot) : Bool → ResolvedPostcodeSnapshot
  | false => a
  | true => b

theorem apart_both {a b : ResolvedPostcodeSnapshot} : Apart t (both a b) ↔
    (¬ t.HasIdentity a.identity → ¬ t.HasIdentity b.identity → a.slug ≠ b.slug) := by
  constructor
  · intro h
    exact h false true Bool.false_ne_true
  · intro h i j hne hi hj
    cases i <;> cases j
    · exact absurd rfl hne
    · exact h hi hj
    · exact (h hj hi).symm
    · exact absurd rfl hne

/-- When two calls serve the snapshots as their identities say: one after the other, and at once. -/
theorem localityIdentity_iff (t : Table) (a b : ResolvedPostcodeSnapshot) :
    (SequentialOk t a b ↔ Fits t a ∧ Fits t b ∧
      (a.identity ≠ b.identity → ¬ t.HasIdentity a.identity → ¬ t.HasIdentity b.identity → a.slug ≠ b.slug)) ∧
    (InterleavedOk t (both a b) ↔ Fits t a ∧ Fits t b ∧
      (¬ t.HasIdentity a.identity → ¬ t.HasIdentity b.identity → a.slug ≠ b.slug)) := by
  refine ⟨sequentialOk_iff, ?_⟩
  rw [interleavedOk_iff, apart_both, Bool.forall_bool, and_assoc]
  rfl

/-! ### A parish beside its seeded namesake -/

def merePostcode : ResolvedPostcodeSnapshot where
  latitude := 51
  longitude := -2
  country := .England
  region := some "South West"
  ladDistrict := "Wiltshire"
  adminCounty := none
  parish := some "Mere"
  adminWard := none
  parliamentaryConstituency := none
  postTown := none

def mereWiltshire : Locality where
  id := 0
  name := "Mere (Wiltshire)"
  slug := "mere-wiltshire"
  postTown := none
  ladDistrict := "Wiltshire"
  adminCounty := none
  region := some "South West"
  country := .England
  centerLat := 51
  centerLng := -2
  populationTier := .UNKNOWN
  needsReview := false

def seeded : Table where
  rows := [mereWiltshire]
  nextId := 1
  identities := by decide
  slugs := by decide
  ids := by decide
  minted := by decide

theorem mere_not_created : ¬ ∀ t a b, SequentialOk t a b ∧ InterleavedOk t (both a b) := by
  intro h
  obtain ⟨t₁, la, t₂, lb, ha, -⟩ := (h seeded merePostcode merePostcode).1
  have hno : ¬ Fits seeded merePostcode := not_or.mpr ⟨by decide +kernel, not_not.mpr (by decide +kernel)⟩
  rw [findOrCreateLocality_error.mpr hno] at ha
  cases ha

end Redeemo.Localities
