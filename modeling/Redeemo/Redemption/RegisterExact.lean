import Redeemo.Redemption.Register

/-! What the merchant's redemption register shows.

    The pages of the list are the rows of the export, each redemption of the merchant that the filters ask for once,
    and a code is found exactly if its redemption is in the list. A search can go wrong in one way: of a term without
    a letter or a digit nothing is left to look for, and every code starts with nothing. -/

namespace Redeemo.Redemptions
open Redemption Fallible Runs Rows Paging
open CsvExports (EXPORT_CAP)

/-! ### The property -/

section
variable (x : Texts) (contains : String → String → Bool)
variable (db : Db) (merchantId : String) (f : RedemptionFilters)

/-- A redemption of the merchant, at one of the allowed branches, that every filter but the search asks for. -/
structure Selected (r : Row) : Prop where
  real : r.isTestData = false
  own : db.branchMerchant r = some merchantId
  allowed : ∀ allowed, f.allowedBranchIds = some allowed → r.redemption.branchId ∈ allowed
  branch : ∀ id, given f.branchId = some id → r.redemption.branchId = id
  voucher : ∀ id, given f.voucherId = some id → r.redemption.voucherId = id
  awaiting : f.status = some .awaiting → r.redemption.isValidated = false
  validated : f.status = some .validated → r.redemption.isValidated = true
  fromDate : ∀ t, f.fromDate = some t → t ≤ r.redemption.redeemedAt
  toDate : ∀ t, f.toDate = some t → r.redemption.redeemedAt ≤ t
  voucherType : ∀ type, f.voucherType = some type →
    ∃ voucher, db.catalog.voucher r.redemption.voucherId = some voucher ∧ voucher.type = type

def TitleContains (term : String) (r : Row) : Prop :=
  contains (db.details.voucher r.redemption.voucherId).title term = true

/-- The title contains the term, or the code starts with what is left of it. -/
def Matches (term : String) (r : Row) : Prop :=
  TitleContains contains db term r ∨ normalizeRedemptionCode term ≠ "" ∧
    (normalizeRedemptionCode term).toList <+: r.redemption.redemptionCode.toList

def Wanted (r : Row) : Prop :=
  Selected db merchantId f r ∧ ∀ term, given f.code = some term → Matches contains db term r

def total : ℕ := (listMerchantRedemptions x contains db merchantId f db.rows 1 0).total

/-- All pages of the list, one after another. Each query finds the rows in an order of its own. -/
def PagesOf (limit : ℕ) (items : List MerchantRedemptionRow) : Prop :=
  ∃ (scan : ℕ → List Row) (pages : ℕ), (∀ n, (scan n).Perm db.rows) ∧
    total x contains db merchantId f ≤ pages * limit ∧
    items = (List.range pages).flatMap fun n =>
      (listMerchantRedemptions x contains db merchantId f (scan n) limit (n * limit)).items

/-- The item shows the redemption. -/
def Shows (r : Row) (item : MerchantRedemptionRow) : Prop :=
  ∃ selected, db.select r = some selected ∧ item = toMerchantRedemptionRow x selected

def unfiltered (allowedBranchIds : Option (List String)) : RedemptionFilters :=
  ⟨none, none, none, none, none, none, none, none, allowedBranchIds⟩

structure Exact (limit : ℕ) : Prop where
  exported : ∀ items, PagesOf x contains db merchantId f limit items → ∀ found : List Row, found.Perm db.rows →
    total x contains db merchantId f ≤ EXPORT_CAP →
    getMerchantRedemptionsForExport x contains db merchantId f found = ⟨items, false⟩
  once : ∀ items, PagesOf x contains db merchantId f limit items → (items.map MerchantRedemptionRow.id).Nodup
  listed : ∀ items, PagesOf x contains db merchantId f limit items → ∀ item,
    item ∈ items ↔ ∃ r ∈ db.rows, Wanted contains db merchantId f r ∧ Shows x db r item
  lookup : ∀ items, PagesOf x contains db merchantId (unfiltered f.allowedBranchIds) limit items →
    ∀ r ∈ db.rows, r.isTestData = false → ∀ rawCode, normalizeRedemptionCode rawCode = r.redemption.redemptionCode →
    ∀ item, lookupMerchantRedemptionByCode x db merchantId rawCode f.allowedBranchIds = .ok item ↔
      item ∈ items ∧ item.id = r.id

/-- The search term has a letter or a digit, or the titles of all that is selected contain it. -/
def Searchable : Prop :=
  ∀ term, given f.code = some term → normalizeRedemptionCode term = "" →
    ∀ r ∈ db.rows, Selected db merchantId f r → TitleContains contains db term r

end

/-! ### The filters -/

variable {x : Texts} {contains : String → String → Bool} {db : Db} {merchantId : String} {f : RedemptionFilters}
  {r : Row} {limit : ℕ} {items : List MerchantRedemptionRow} {item : MerchantRedemptionRow}

theorem branchIdWhere_iff {branchId : String} : branchIdWhere f branchId = true ↔
    (∀ allowed, f.allowedBranchIds = some allowed → branchId ∈ allowed) ∧
      ∀ id, given f.branchId = some id → branchId = id := by
  rw [branchIdWhere]
  cases f.allowedBranchIds with
  | none =>
    cases given f.branchId with
    | none => simp
    | some id => simp
  | some allowed =>
    cases given f.branchId with
    | none => simp
    | some id =>
      simp only [Option.some.injEq, forall_eq', apply_ite (· = true), decide_eq_true_eq, List.not_mem_nil, decide_false]
      constructor
      · intro h
        split_ifs at h with hin
        subst h
        exact ⟨hin, rfl⟩
      · rintro ⟨hin, rfl⟩
        rw [if_pos hin]

theorem statusWhere_iff {isValidated : Bool} : statusWhere f isValidated = true ↔
    (f.status = some .awaiting → isValidated = false) ∧ (f.status = some .validated → isValidated = true) := by
  rw [statusWhere]
  split
  · next h => simp [h]
  · next h => simp [h]
  · next h => simp [h]

theorem searchWhere_iff {term : String} : searchWhere contains db term r = true ↔
    Matches contains db term r ∨ normalizeRedemptionCode term = "" := by
  rw [searchWhere, Bool.or_eq_true, List.isPrefixOf_iff_prefix, Matches, TitleContains]
  by_cases hempty : normalizeRedemptionCode term = ""
  · simp [hempty]
  · simp only [hempty, not_false_eq_true, ne_eq, true_and, or_false]
    exact Or.comm

/-- The query finds what is wanted, and everything that is selected if nothing is left of the term. -/
theorem buildRedemptionWhere_iff : buildRedemptionWhere contains db merchantId f r = true ↔
    Selected db merchantId f r ∧
      ∀ term, given f.code = some term → Matches contains db term r ∨ normalizeRedemptionCode term = "" := by
  simp only [buildRedemptionWhere, Bool.and_eq_true, decide_eq_true_eq, Bool.not_eq_true', Option.all_eq_true,
    Option.any_eq_true, branchIdWhere_iff, statusWhere_iff, searchWhere_iff]
  constructor
  · rintro ⟨⟨⟨⟨⟨⟨⟨⟨hown, hreal⟩, hallowed, hbranch⟩, hvoucher⟩, hawaiting, hvalidated⟩, hfrom⟩, hto⟩, htype⟩, hsearch⟩
    exact ⟨⟨hreal, hown, hallowed, hbranch, hvoucher, hawaiting, hvalidated, hfrom, hto, htype⟩, hsearch⟩
  · rintro ⟨h, hsearch⟩
    exact ⟨⟨⟨⟨⟨⟨⟨⟨h.own, h.real⟩, h.allowed, h.branch⟩, h.voucher⟩, h.awaiting, h.validated⟩, h.fromDate⟩, h.toDate⟩,
      h.voucherType⟩, hsearch⟩

/-! ### The order -/

instance transCmp_recentFirst : Std.TransCmp recentFirst := by
  have ht : Std.TransCmp fun a b : Row => compare b.redemption.redeemedAt a.redemption.redeemedAt :=
    Sorting.transCmp_on (fun a b : ℤ => compare b a) fun r : Row => r.redemption.redeemedAt
  have hid : Std.TransCmp fun a b : Row => compare b.id a.id := Sorting.transCmp_on (fun a b : String => compare b a) Row.id
  exact Sorting.transCmp_then

instance transCmp_orderBy (sort : Option RedemptionSort) : Std.TransCmp (buildRedemptionOrderBy sort) := by
  have hsaving : Std.TransCmp fun a b : Row => compare b.redemption.estimatedSaving a.redemption.estimatedSaving :=
    Sorting.transCmp_on (fun a b : ℚ => compare b a) fun r : Row => r.redemption.estimatedSaving
  match sort with
  | none => exact transCmp_recentFirst
  | some .recent => exact transCmp_recentFirst
  | some .saving => exact Sorting.transCmp_then

/-- The last key is the id. -/
theorem id_eq_of_orderBy {sort : Option RedemptionSort} {a b : Row} (h : buildRedemptionOrderBy sort a b = .eq) :
    a.id = b.id := by
  have hrecent : recentFirst a b = .eq → a.id = b.id := by
    intro h
    exact (Std.LawfulEqOrd.eq_of_compare (Ordering.then_eq_eq.mp h).2).symm
  match sort with
  | none => exact hrecent h
  | some .recent => exact hrecent h
  | some .saving => exact hrecent (Ordering.then_eq_eq.mp h).2

/-- Every query sorts alike. -/
theorem findMany_eq (hs : Sound db) {found : List Row} (hfound : found.Perm db.rows) :
    findMany contains db merchantId f found = findMany contains db merchantId f db.rows := by
  have hp : (found.filter (buildRedemptionWhere contains db merchantId f)).Perm
      (db.rows.filter (buildRedemptionWhere contains db merchantId f)) := hfound.filter _
  refine Sorting.mergeSort_eq_of_perm hp fun a ha b hb h => ?_
  exact hs.ids.eq (hfound.subset (List.mem_of_mem_filter ha)) (hfound.subset (List.mem_of_mem_filter hb))
    (id_eq_of_orderBy h)

theorem findMany_perm : (findMany contains db merchantId f db.rows).Perm
    (db.rows.filter (buildRedemptionWhere contains db merchantId f)) := sortBy_perm _ _

theorem length_findMany : (findMany contains db merchantId f db.rows).length = total x contains db merchantId f :=
  findMany_perm.length_eq

/-! ### The pages -/

theorem rowsOf_flatMap (rows : ℕ → List Row) (ns : List ℕ) :
    rowsOf x db (ns.flatMap rows) = ns.flatMap fun n => rowsOf x db (rows n) := by
  rw [rowsOf, List.filterMap_flatMap, List.map_flatMap]
  rfl

/-- The pages are all that one query finds. -/
theorem pagesOf_iff (hs : Sound db) (hlimit : 0 < limit) : PagesOf x contains db merchantId f limit items ↔
    items = rowsOf x db (findMany contains db merchantId f db.rows) := by
  have hpages : ∀ (scan : ℕ → List Row) (pages : ℕ), (∀ n, (scan n).Perm db.rows) →
      total x contains db merchantId f ≤ pages * limit →
      ((List.range pages).flatMap fun n =>
        (listMerchantRedemptions x contains db merchantId f (scan n) limit (n * limit)).items) =
      rowsOf x db (findMany contains db merchantId f db.rows) := by
    intro scan pages hscan hall
    have hlist : ∀ n, (listMerchantRedemptions x contains db merchantId f (scan n) limit (n * limit)).items =
        rowsOf x db (slice limit n (findMany contains db merchantId f db.rows)) := by
      intro n
      rw [listMerchantRedemptions, findMany_eq hs (hscan n)]
      rfl
    simp only [hlist]
    rw [← rowsOf_flatMap, flatMap_slice, List.take_of_length_le]
    exact length_findMany.trans_le hall
  constructor
  · rintro ⟨scan, pages, hscan, hall, rfl⟩
    exact hpages scan pages hscan hall
  · rintro rfl
    have hall : total x contains db merchantId f ≤ total x contains db merchantId f * limit :=
      Nat.le_mul_of_pos_right _ hlimit
    exact ⟨fun _ => db.rows, _, fun _ => List.Perm.refl _, hall,
      (hpages _ _ (fun _ => List.Perm.refl _) hall).symm⟩

theorem export_eq (hs : Sound db) {found : List Row} (hfound : found.Perm db.rows)
    (hcap : total x contains db merchantId f ≤ EXPORT_CAP) :
    getMerchantRedemptionsForExport x contains db merchantId f found =
      ⟨rowsOf x db (findMany contains db merchantId f db.rows), false⟩ := by
  have hlen : (findMany contains db merchantId f db.rows).length ≤ EXPORT_CAP := length_findMany.trans_le hcap
  rw [getMerchantRedemptionsForExport, findMany_eq hs hfound, List.take_of_length_le (Nat.le_succ_of_le hlen),
    List.take_of_length_le hlen, decide_eq_false (Nat.not_lt.mpr hlen)]

theorem select_of_refers (h : db.Refers r) : ∃ selected, db.select r = some selected := by
  obtain ⟨voucher, hv⟩ := Option.isSome_iff_exists.mp h.1
  obtain ⟨branch, hb⟩ := Option.isSome_iff_exists.mp h.2
  rw [Db.select, hv, hb]
  exact ⟨_, rfl⟩

theorem Shows.id_eq (h : Shows x db r item) : item.id = r.id := by
  obtain ⟨selected, hselected, rfl⟩ := h
  obtain ⟨voucher, -, h⟩ := Option.bind_eq_some_iff.mp hselected
  obtain ⟨branch, -, h⟩ := Option.bind_eq_some_iff.mp h
  cases h
  rfl

theorem mem_rowsOf {rows : List Row} : item ∈ rowsOf x db rows ↔ ∃ r ∈ rows, Shows x db r item := by
  rw [rowsOf, List.mem_map]
  constructor
  · rintro ⟨selected, hmem, rfl⟩
    obtain ⟨r, hr, hselected⟩ := List.mem_filterMap.mp hmem
    exact ⟨r, hr, selected, hselected, rfl⟩
  · rintro ⟨r, hr, selected, hselected, rfl⟩
    exact ⟨selected, List.mem_filterMap.mpr ⟨r, hr, hselected⟩, rfl⟩

theorem map_id_rowsOf {rows : List Row} (h : ∀ r ∈ rows, db.Refers r) :
    (rowsOf x db rows).map MerchantRedemptionRow.id = rows.map Row.id := by
  induction rows with
  | nil => rfl
  | cons r rows ih =>
    obtain ⟨hr, hrows⟩ := List.forall_mem_cons.mp h
    obtain ⟨selected, hselected⟩ := select_of_refers hr
    have hid : (toMerchantRedemptionRow x selected).id = r.id := Shows.id_eq ⟨selected, hselected, rfl⟩
    rw [rowsOf, List.filterMap_cons_some hselected, List.map_cons, List.map_cons, List.map_cons, hid]
    exact congrArg _ (ih hrows)

theorem mem_findMany : r ∈ findMany contains db merchantId f db.rows ↔
    r ∈ db.rows ∧ buildRedemptionWhere contains db merchantId f r = true := by
  rw [findMany_perm.mem_iff, List.mem_filter]

theorem nodup_pages (hs : Sound db) :
    ((rowsOf x db (findMany contains db merchantId f db.rows)).map MerchantRedemptionRow.id).Nodup := by
  rw [map_id_rowsOf fun r hr => hs.refers r (mem_findMany.mp hr).1]
  exact (findMany_perm.map _).nodup_iff.mpr (hs.ids.sublist (List.filter_sublist.map _))

/-- A redemption shows as one item, which shows no other. -/
theorem Shows.unique (hs : Sound db) {s : Row} (hr : r ∈ db.rows) (hs' : s ∈ db.rows) (h : Shows x db r item)
    (h' : Shows x db s item) : r = s := hs.ids.eq hr hs' (h.id_eq.symm.trans h'.id_eq)

theorem mem_pages_iff : item ∈ rowsOf x db (findMany contains db merchantId f db.rows) ↔
    ∃ r ∈ db.rows, (Selected db merchantId f r ∧ ∀ term, given f.code = some term →
      Matches contains db term r ∨ normalizeRedemptionCode term = "") ∧ Shows x db r item := by
  simp only [mem_rowsOf, mem_findMany, buildRedemptionWhere_iff, and_assoc]

/-! ### The lookup -/

theorem lookup_iff (hs : Sound db) (hr : r ∈ db.rows) {rawCode : String} {allowedBranchIds : Option (List String)}
    (hcode : normalizeRedemptionCode rawCode = r.redemption.redemptionCode) :
    lookupMerchantRedemptionByCode x db merchantId rawCode allowedBranchIds = .ok item ↔
      db.voucherMerchant r = some merchantId ∧
        (∀ allowed, allowedBranchIds = some allowed → r.redemption.branchId ∈ allowed) ∧ Shows x db r item := by
  have hfind : db.rows.find? (fun r => r.redemption.redemptionCode = normalizeRedemptionCode rawCode) = some r := by
    refine (hs.codes.find_iff fun s hs => hs).mpr ⟨hr, hcode.symm⟩
  simp only [lookupMerchantRedemptionByCode, hfind, orReject_some_bind, bind_ok_iff, orReject_eq_ok, rejectIf_eq_ok,
    pure_eq_ok, Option.mem_def, not_exists, not_and, not_not]
  constructor
  · rintro ⟨selected, hselected, _, hmerchant, _, hallowed, rfl⟩
    exact ⟨hmerchant, hallowed, selected, hselected, rfl⟩
  · rintro ⟨hmerchant, hallowed, selected, hselected, rfl⟩
    exact ⟨selected, hselected, (), hmerchant, (), hallowed, rfl⟩

/-- With no filter, a merchant's own redemptions at the allowed branches are listed. -/
theorem selected_unfiltered_iff {allowedBranchIds : Option (List String)} :
    Selected db merchantId (unfiltered allowedBranchIds) r ↔ r.isTestData = false ∧
      db.branchMerchant r = some merchantId ∧
      ∀ allowed, allowedBranchIds = some allowed → r.redemption.branchId ∈ allowed := by
  constructor
  · intro h
    exact ⟨h.real, h.own, h.allowed⟩
  · rintro ⟨hreal, hown, hallowed⟩
    have hnone : ∀ {α : Type} {a : α}, ¬ none = some a := fun h => by cases h
    exact ⟨hreal, hown, hallowed, fun _ h => absurd h hnone, fun _ h => absurd h hnone, fun h => absurd h hnone,
      fun h => absurd h hnone, fun _ h => absurd h hnone, fun _ h => absurd h hnone, fun _ h => absurd h hnone⟩

theorem lookup_listed (hs : Sound db) (hlimit : 0 < limit) {allowedBranchIds : Option (List String)}
    (hitems : PagesOf x contains db merchantId (unfiltered allowedBranchIds) limit items) (hr : r ∈ db.rows)
    (hreal : r.isTestData = false) {rawCode : String}
    (hcode : normalizeRedemptionCode rawCode = r.redemption.redemptionCode) :
    lookupMerchantRedemptionByCode x db merchantId rawCode allowedBranchIds = .ok item ↔
      item ∈ items ∧ item.id = r.id := by
  rw [(pagesOf_iff hs hlimit).mp hitems, mem_pages_iff, lookup_iff hs hr hcode, ← hs.owned r hr hreal]
  constructor
  · rintro ⟨hown, hallowed, hshows⟩
    refine ⟨⟨r, hr, ⟨selected_unfiltered_iff.mpr ⟨hreal, hown, hallowed⟩, fun term hterm => ?_⟩, hshows⟩, hshows.id_eq⟩
    cases hterm
  · rintro ⟨⟨s, hsrow, ⟨hselected, -⟩, hshows⟩, hid⟩
    obtain rfl : s = r := hs.ids.eq hsrow hr (hshows.id_eq.symm.trans hid)
    obtain ⟨-, hown, hallowed⟩ := selected_unfiltered_iff.mp hselected
    exact ⟨hown, hallowed, hshows⟩

/-! ### The register -/

/-- What is listed is what is wanted exactly if no search is for nothing. -/
theorem listed_iff (hs : Sound db) : (∀ item, item ∈ rowsOf x db (findMany contains db merchantId f db.rows) ↔
      ∃ r ∈ db.rows, Wanted contains db merchantId f r ∧ Shows x db r item) ↔
    Searchable contains db merchantId f := by
  simp only [mem_pages_iff]
  constructor
  · intro h term hterm hempty r hr hselected
    obtain ⟨selected, hshown⟩ := select_of_refers (hs.refers r hr)
    have hshows : Shows x db r (toMerchantRedemptionRow x selected) := ⟨selected, hshown, rfl⟩
    obtain ⟨s, hsrow, ⟨-, hmatches⟩, hshows'⟩ :=
      (h _).mp ⟨r, hr, ⟨hselected, fun term' hterm' => .inr (by cases hterm.symm.trans hterm'; exact hempty)⟩, hshows⟩
    obtain rfl : r = s := hshows.unique hs hr hsrow hshows'
    exact (hmatches term hterm).resolve_right fun h => h.1 hempty
  · intro h item
    constructor
    · rintro ⟨r, hr, ⟨hselected, hsearch⟩, hshows⟩
      refine ⟨r, hr, ⟨hselected, fun term hterm => ?_⟩, hshows⟩
      rcases hsearch term hterm with hmatches | hempty
      · exact hmatches
      · exact .inl (h term hterm hempty r hr hselected)
    · rintro ⟨r, hr, ⟨hselected, hsearch⟩, hshows⟩
      exact ⟨r, hr, ⟨hselected, fun term hterm => .inl (hsearch term hterm)⟩, hshows⟩

theorem exact_iff (hs : Sound db) (hlimit : 0 < limit) :
    Exact x contains db merchantId f limit ↔ Searchable contains db merchantId f := by
  rw [← listed_iff (x := x) hs]
  constructor
  · intro h
    exact h.listed _ ((pagesOf_iff hs hlimit).mpr rfl)
  · intro h
    refine ⟨fun items hitems found hfound hcap => ?_, fun items hitems => ?_, fun items hitems => ?_,
      fun items hitems r hr hreal rawCode hcode item => lookup_listed hs hlimit hitems hr hreal hcode⟩
    · rw [(pagesOf_iff hs hlimit).mp hitems]
      exact export_eq hs hfound hcap
    · rw [(pagesOf_iff hs hlimit).mp hitems]
      exact nodup_pages hs
    · rw [(pagesOf_iff hs hlimit).mp hitems]
      exact h

variable {decrypt : String → Except DecryptFault String} {db₀ : Db} {as : List Operation}

/-- Whatever is redeemed, validated and edited: the pages of a merchant's list are the rows of the export and show
    every redemption that the filters ask for once, and a code is found exactly if its redemption is in the list
    without filters. This is so exactly if the search has a letter or a digit in it, or the titles of all that the
    other filters select contain it. -/
theorem register_exact_iff (hstart : db₀.rows = []) (hrun : run (step decrypt) db₀ as = some db) (hlimit : 0 < limit) :
    Exact x contains db merchantId f limit ↔ Searchable contains db merchantId f :=
  exact_iff (sound_run hstart hrun) hlimit

/-! ### A search for nothing -/

/-- A café, whose customers are all entitled. -/
def cafe : Catalog where
  voucher _ := some ⟨.ACTIVE, .APPROVED, .BOGO, none, 5, none, "cafe", .ACTIVE, []⟩
  branch _ := some ⟨"cafe", true, .LIVE, some "1234"⟩
  subscription _ := some ⟨.ACTIVE, 0⟩
  phoneVerified _ := some true

def opened : Db where
  catalog := cafe
  details := ⟨fun _ => ⟨"Two coffees", none, none⟩, fun _ => "High Street", fun _ => ⟨some "Jo", some "Hill"⟩,
    fun _ => ⟨none, none⟩⟩
  rows := []
  cycleStates _ := none
  redis _ := none

def inClear (pin : String) : Except DecryptFault String := .ok pin

def plain : Texts := ⟨id, fun t => toString t⟩

/-- As the database does, for ASCII. -/
def containsInsensitive (title term : String) : Bool :=
  (title.toList.map Char.toLower).tails.any fun rest => (term.toList.map Char.toLower).isPrefixOf rest

def oneRedeemed : List Operation := [.createRedemption "id" "AB12CD34EF" "user" ⟨"voucher", "branch", "1234"⟩ 1000]

def search (term : String) : RedemptionFilters := { unfiltered none with code := some term }

def redeemedRow : Row :=
  ⟨"id", false, ⟨"user", "voucher", "branch", "AB12CD34EF", 5, false, 1000, none, none, none, none⟩⟩

theorem oneRedeemed_run : ∃ db, run (step inClear) opened oneRedeemed = some db ∧ db.rows = [redeemedRow] ∧
    db.catalog = opened.catalog ∧ db.details = opened.details := by
  have hrows : (run (step inClear) opened oneRedeemed).map Db.rows = some [redeemedRow] := by decide +kernel
  obtain ⟨db, hrun, hrows⟩ := Option.map_eq_some_iff.mp hrows
  refine ⟨db, hrun, hrows, ?_⟩
  obtain ⟨db', hstep, hrun⟩ := run_cons_eq_some.mp hrun
  cases hrun
  rw [step] at hstep
  split_ifs at hstep
  cases hstep
  exact created_keeps _ _ _

/-- A code is looked for in other letters, with a hyphen. -/
theorem register_exact_code : ∃ db, run (step inClear) opened oneRedeemed = some db ∧
    Exact plain containsInsensitive db "cafe" (search "ab-12") 25 := by
  obtain ⟨db, hrun, -⟩ := oneRedeemed_run
  refine ⟨db, hrun, (register_exact_iff rfl hrun (by decide)).mpr fun term hterm hempty => ?_⟩
  cases hterm
  exact absurd hempty (by decide +kernel)

/-- Three hyphens are looked for, and a code without one is found. -/
theorem hyphens_not_exact : ∃ db, run (step inClear) opened oneRedeemed = some db ∧
    ¬ Exact plain containsInsensitive db "cafe" (search "---") 25 := by
  obtain ⟨db, hrun, hrows, hcatalog, hdetails⟩ := oneRedeemed_run
  refine ⟨db, hrun, fun h => ?_⟩
  have hsearch := (exact_iff (sound_run rfl hrun) (by decide)).mp h
  have hselected : Selected db "cafe" (search "---") redeemedRow := by
    have hown : db.branchMerchant redeemedRow = some "cafe" := by
      rw [Db.branchMerchant, hcatalog]
      rfl
    have hall : Selected db "cafe" (unfiltered none) redeemedRow :=
      selected_unfiltered_iff.mpr ⟨rfl, hown, fun _ h => by cases h⟩
    exact { hall with }
  have htitle := hsearch "---" (by decide +kernel) (by decide +kernel) redeemedRow (hrows ▸ List.mem_singleton_self _)
    hselected
  rw [TitleContains, hdetails] at htitle
  exact absurd htitle (by decide +kernel)

end Redeemo.Redemptions
