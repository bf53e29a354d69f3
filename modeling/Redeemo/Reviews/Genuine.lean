import Redeemo.Lib.Runs
import Redeemo.Redemption.Claims
import Redeemo.Reviews.Service

/-! Verified reviews are genuine, and stay verified.

    A redemption verifies a review of its user and its branch, and a user has one review of a branch: no redemption
    comes to verify two. -/

namespace Redeemo.Reviews
open CycleWindows Fallible Redemption Runs Rows

variable {db db' : Database} {v w : Review} {branchId userId id : String} {data : ReviewData} {draws : Draws}
  {decrypt : String → Except DecryptFault String} {b : Branch} {now : ℤ}

/-- Redemptions are those of `createRedemption`, under ids. -/
theorem world_redeem (db : Database) (decrypt : String → Except DecryptFault String) (id redemptionCode userId : String)
    (data : Request) (now : ℕ) : (redeem db decrypt id redemptionCode userId data now).world =
      (createRedemption db.catalog decrypt redemptionCode userId data now db.world).2 := by
  have hrows := createRedemption_redemptions db.catalog decrypt redemptionCode userId data now db.world
  rw [redeem]
  generalize createRedemption db.catalog decrypt redemptionCode userId data now db.world = call at hrows ⊢
  obtain ⟨result, ⟨rows, states⟩, redis⟩ := call
  cases result with
  | error e =>
    cases hrows
    rfl
  | ok row =>
    cases hrows
    rfl

/-! ### Genuine links -/

/-- The redemption is of the user at the branch, with a voucher of the branch's merchant. -/
def Verifies (db : Database) (userId branchId id : String) : Prop :=
  ∃ r, (id, r) ∈ db.redemptions ∧ r.userId = userId ∧ r.branchId = branchId ∧
    ∃ b v, db.catalog.branch branchId = some b ∧ db.catalog.voucher r.voucherId = some v ∧ v.merchantId = b.merchantId

structure Inv (db : Database) : Prop where
  drawn : Keyed Prod.fst db.redemptions
  named : ∀ r ∈ db.redemptions, r.1 ≠ ""
  keyed : Keyed Review.id db.reviews
  single : Keyed (fun v => (v.userId, v.branchId)) db.reviews
  genuine : ∀ v ∈ db.reviews, ∀ id, v.redemptionId = some id → id ≠ "" ∧ Verifies db v.userId v.branchId id

/-- A redemption names its review's user and branch. -/
theorem Inv.verifies_inj {userId' branchId' : String} (h : Inv db) (h₁ : Verifies db userId branchId id)
    (h₂ : Verifies db userId' branchId' id) : (userId, branchId) = (userId', branchId') := by
  obtain ⟨r, hr, rfl, rfl, -⟩ := h₁
  obtain ⟨r', hr', rfl, rfl, -⟩ := h₂
  cases h.drawn.eq hr hr' rfl
  rfl

theorem Verifies.mono (h : Verifies db userId branchId id) (hr : ∀ r ∈ db.redemptions, r ∈ db'.redemptions)
    (hc : db'.catalog = db.catalog) : Verifies db' userId branchId id := by
  obtain ⟨r, hmem, hu, hb, hrest⟩ := h
  exact ⟨r, hr _ hmem, hu, hb, hc ▸ hrest⟩

theorem Verifies.change (h : Verifies db userId branchId id) (c : Change) :
    Verifies { db with catalog := c.apply db.catalog } userId branchId id := by
  obtain ⟨r, hmem, hu, hb, b, v, hbranch, hvoucher, hm⟩ := h
  obtain ⟨b', hbranch', hbm⟩ := c.branch _ _ _ hbranch
  obtain ⟨v', hvoucher', hvm⟩ := c.voucher _ _ _ hvoucher
  exact ⟨r, hmem, hu, hb, b', v', hbranch', hvoucher', hvm.trans (hm.trans hbm.symm)⟩

/-! ### The three paths -/

theorem merchantOf_eq_some {r : VoucherRedemption} {m : String} :
    db.merchantOf r = some m ↔ ∃ v, db.catalog.voucher r.voucherId = some v ∧ v.merchantId = m := by
  simp [Database.merchantOf, Option.map_eq_some_iff]

theorem verifies_of_checkRedemption (hb : db.catalog.branch branchId = some b)
    (h : db.checkRedemption userId branchId b.merchantId id now = .ok ()) : Verifies db userId branchId id := by
  obtain ⟨window, -, h⟩ := bind_ok_iff.mp h
  obtain ⟨r, hfind, h⟩ := bind_ok_iff.mp h
  obtain ⟨_, hbranch, h⟩ := bind_ok_iff.mp h
  obtain ⟨hmem, hid, hu, -⟩ := find_some (orReject_eq_ok.mp hfind)
  have hm : db.merchantOf r.2 = some b.merchantId := not_not.mp (rejectIf_eq_ok.mp h)
  obtain ⟨v, hv, hvm⟩ := merchantOf_eq_some.mp hm
  exact ⟨r.2, hid ▸ hmem, hu, not_not.mp (rejectIf_eq_ok.mp hbranch), b, v, hb, hv, hvm⟩

theorem mem_of_autoLink (hb : db.catalog.branch branchId = some b)
    (h : db.autoLinkRedemption userId branchId b.merchantId now = some id) :
    id ∈ db.redemptions.map Prod.fst ∧ Verifies db userId branchId id := by
  simp only [Database.autoLinkRedemption, Option.bind_eq_bind, Option.bind_eq_some_iff] at h
  obtain ⟨window, -, ⟨id', r⟩, hr, he⟩ := h
  cases he
  obtain ⟨hmem, hp⟩ := List.mem_filter.mp (List.argmax_mem hr)
  obtain ⟨hu, hbranch, hm, -⟩ := of_decide_eq_true hp
  obtain ⟨v, hv, hvm⟩ := merchantOf_eq_some.mp hm
  exact ⟨List.mem_map_of_mem hmem, r, hmem, hu, hbranch, b, v, hb, hv, hvm⟩

theorem branch_of_checkUpsert (h : db.checkUpsert branchId userId data now = .ok b) :
    db.catalog.branch branchId = some b := by
  obtain ⟨b', hb', h⟩ := bind_ok_iff.mp h
  obtain ⟨-, -, h⟩ := bind_ok_iff.mp h
  cases h
  exact (Option.filter_eq_some_iff.mp (orReject_eq_ok.mp hb')).1

theorem check_of_checkUpsert (h : db.checkUpsert branchId userId data now = .ok b)
    (hid : data.redemptionId.filter (· ≠ "") = some id) :
    db.checkRedemption userId branchId b.merchantId id now = .ok () := by
  obtain ⟨b', -, h⟩ := bind_ok_iff.mp h
  obtain ⟨_, hcheck, h⟩ := bind_ok_iff.mp h
  cases h
  rw [hid] at hcheck
  exact hcheck

theorem findReview_eq (h : db.findReview userId branchId = some v) :
    v ∈ db.reviews ∧ v.userId = userId ∧ v.branchId = branchId := by
  obtain ⟨hmem, hp⟩ := find_some h
  exact ⟨hmem, Prod.mk.inj hp⟩

theorem findReview_eq_none (h : db.findReview userId branchId = none) :
    ∀ v ∈ db.reviews, (v.userId, v.branchId) ≠ (userId, branchId) := by
  intro v hv he
  have hno := List.find?_eq_none.mp h v hv
  exact hno (decide_eq_true he)

/-- Whichever path it is, the redemption verifies the review. -/
theorem Inv.resolved (hi : Inv db) (hcheck : db.checkUpsert branchId userId data draws.checkedAt = .ok b) (now : ℤ)
    (id : String)
    (h : db.resolvedRedemptionId branchId userId b.merchantId data (db.findReview userId branchId) now = some id) :
    id ≠ "" ∧ Verifies db userId branchId id := by
  rw [Database.resolvedRedemptionId] at h
  cases hgiven : data.redemptionId.filter (· ≠ "") with
  | some given =>
    rw [hgiven] at h
    cases h
    have hne := (Option.filter_eq_some_iff.mp hgiven).2
    have hgiven' := check_of_checkUpsert hcheck hgiven
    exact ⟨of_decide_eq_true hne, verifies_of_checkRedemption (branch_of_checkUpsert hcheck) hgiven'⟩
  | none =>
    rw [hgiven] at h
    cases hkept : ((db.findReview userId branchId).bind Review.redemptionId).filter (· ≠ "") with
    | some kept =>
      rw [hkept] at h
      cases h
      obtain ⟨v, hv, hid⟩ := Option.bind_eq_some_iff.mp (Option.filter_eq_some_iff.mp hkept).1
      obtain ⟨hmem, rfl, rfl⟩ := findReview_eq hv
      exact hi.genuine v hmem _ hid
    | none =>
      rw [hkept] at h
      obtain ⟨hmem, hver⟩ := mem_of_autoLink (branch_of_checkUpsert hcheck) h
      obtain ⟨r, hr, rfl⟩ := List.mem_map.mp hmem
      exact ⟨hi.named r hr, hver⟩

/-- A linked review stays linked. -/
theorem Inv.resolved_isSome (hi : Inv db) (data : ReviewData) (merchantId : String) (now : ℤ) (v : Review)
    (hv : db.findReview userId branchId = some v)
    (hlinked : v.redemptionId.isSome = true) :
    (db.resolvedRedemptionId branchId userId merchantId data (db.findReview userId branchId) now).isSome = true := by
  obtain ⟨id, hid⟩ := Option.isSome_iff_exists.mp hlinked
  obtain ⟨hmem, -, -⟩ := findReview_eq hv
  have hne : id ≠ "" := (hi.genuine v hmem id hid).1
  rw [Database.resolvedRedemptionId, hv]
  cases data.redemptionId.filter (· ≠ "") with
  | some given => rfl
  | none => simp [hid, Option.filter, hne]

/-! ### The constraints -/

/-- Neither constraint fails on what the three paths give. -/
theorem Inv.checkLink (hi : Inv db) {reviewId : String} {redemptionId : Option String}
    (hver : ∀ id ∈ redemptionId, Verifies db userId branchId id)
    (hother : ∀ v ∈ db.reviews, v.id ≠ reviewId → (v.userId, v.branchId) ≠ (userId, branchId)) :
    db.checkLink reviewId redemptionId = .ok () := by
  refine bind_ok_iff.mpr ⟨(), rejectIf_eq_ok.mpr ?_, rejectIf_eq_ok.mpr ?_⟩
  · rintro ⟨hsome, v, hv, hne, he⟩
    obtain ⟨id, hid⟩ := Option.isSome_iff_exists.mp hsome
    exact hother v hv hne (hi.verifies_inj (hi.genuine v hv id (he.trans hid)).2 (hver id hid))
  · rintro ⟨id, hid, hnot⟩
    obtain ⟨r, hr, -⟩ := hver id hid
    exact hnot (List.mem_map_of_mem hr)

theorem updateReview_eq (h : db.checkLink v.id v.redemptionId = .ok ()) : db.updateReview v =
    .ok { db with reviews := updateMany (fun w => w.id = v.id) (fun _ => v) db.reviews } :=
  bind_ok_iff.mpr ⟨(), h, rfl⟩

theorem createReview_eq (h : db.checkLink v.id v.redemptionId = .ok ())
    (hnone : ∀ w ∈ db.reviews, (w.userId, w.branchId) ≠ (v.userId, v.branchId)) : db.createReview v =
      if ∃ w ∈ db.reviews, w.id = v.id then .error (.unique ["id"])
      else .ok { db with reviews := db.reviews ++ [v] } := by
  have hpair : ¬ ∃ w ∈ db.reviews, (w.userId, w.branchId) = (v.userId, v.branchId) := by
    rintro ⟨w, hw, he⟩
    exact hnone w hw he
  rw [Database.createReview, h]
  split_ifs with hid
  · rw [rejectIf, if_pos hid]
    rfl
  · rw [rejectIf, if_neg hid, rejectIf, if_neg hpair]
    rfl

/-- What a call that succeeds has written: a new row for the user and the branch, or the one that there is. -/
inductive Upserted (db : Database) (userId branchId : String) : Database → Prop
  | created (v : Review) (hpair : (v.userId, v.branchId) = (userId, branchId)) (hid : ∀ w ∈ db.reviews, w.id ≠ v.id)
      (hnone : ∀ w ∈ db.reviews, (w.userId, w.branchId) ≠ (userId, branchId))
      (hlink : ∀ id, v.redemptionId = some id → id ≠ "" ∧ Verifies db userId branchId id) :
    Upserted db userId branchId { db with reviews := db.reviews ++ [v] }
  | updated (old v : Review) (hold : old ∈ db.reviews) (hid : v.id = old.id)
      (hpair : (old.userId, old.branchId) = (userId, branchId)) (hpair' : (v.userId, v.branchId) = (userId, branchId))
      (hlink : ∀ id, v.redemptionId = some id → id ≠ "" ∧ Verifies db userId branchId id)
      (hkeep : old.redemptionId.isSome = true → v.redemptionId.isSome = true) (helpfuls : List ReviewHelpful)
      (reports : List ReviewReport) :
    Upserted db userId branchId
      { db with
        reviews := updateMany (fun w => w.id = v.id) (fun _ => v) db.reviews
        helpfuls := helpfuls
        reports := reports }

/-- Only a taken id of the new row can stop a call that has passed its checks. -/
theorem Inv.upsert (hi : Inv db) (branchId userId : String) (data : ReviewData) (draws : Draws) :
    match upsertBranchReview db branchId userId data draws with
    | .ok (_, db') => Upserted db userId branchId db'
    | .error e => (∃ a, e = .app a) ∨ e = .unique ["id"] := by
  rw [upsertBranchReview]
  cases hcheck : db.checkUpsert branchId userId data draws.checkedAt with
  | error e => exact .inl ⟨e, rfl⟩
  | ok b =>
    have hlink := fun id => hi.resolved hcheck draws.linkedAt id
    have hkeep : ∀ v, db.findReview userId branchId = some v → v.redemptionId.isSome = true → _ = true :=
      hi.resolved_isSome data b.merchantId draws.linkedAt
    simp only [orFail, ok_bind]
    generalize db.resolvedRedemptionId branchId userId b.merchantId data (db.findReview userId branchId)
      draws.linkedAt = redemptionId at hlink hkeep ⊢
    cases hfind : db.findReview userId branchId with
    | some old =>
      obtain ⟨hold, rfl, rfl⟩ := findReview_eq hfind
      have hother : ∀ v ∈ db.reviews, v.id ≠ old.id → (v.userId, v.branchId) ≠ (old.userId, old.branchId) :=
        fun v hv hne he => hne (congrArg Review.id (hi.single.eq hv hold he))
      have hok : db.checkLink old.id redemptionId = .ok () := hi.checkLink (fun id hid => (hlink id hid).2) hother
      set v := written old.branchId old.userId data draws (some old) redemptionId with hv
      have hup : (if old.isHidden = true then db.clearReactions old.id else db).updateReview v = .ok
          { (if old.isHidden = true then db.clearReactions old.id else db) with
            reviews := updateMany (fun w => w.id = v.id) (fun _ => v) db.reviews } := by
        split_ifs
        · exact updateReview_eq hok
        · exact updateReview_eq hok
      simp only [hup, ok_bind]
      split_ifs
      · exact .updated old v hold rfl rfl rfl hlink (hkeep old hfind) _ _
      · exact .updated old v hold rfl rfl rfl hlink (hkeep old hfind) _ _
    | none =>
      have hnone := findReview_eq_none hfind
      set v := written branchId userId data draws none redemptionId with hv
      have hok : db.checkLink v.id redemptionId = .ok () :=
        hi.checkLink (fun id hid => (hlink id hid).2) fun w hw _ => hnone w hw
      simp only [createReview_eq (v := v) hok hnone]
      split_ifs with hid
      · exact .inr rfl
      · exact .created v rfl (fun w hw he => hid ⟨w, hw, he⟩) hnone hlink

/-! ### Every step -/

/-- Every review is still there, of the same user and branch, and linked if it was. -/
def Lasts (db db' : Database) : Prop := ∀ v ∈ db.reviews, ∃ v' ∈ db'.reviews, v'.id = v.id ∧ v'.userId = v.userId ∧
  v'.branchId = v.branchId ∧ (v.redemptionId.isSome = true → v'.redemptionId.isSome = true)

theorem lasts_of_reviews_eq (h : db'.reviews = db.reviews) : Lasts db db' := by
  intro v hv
  rw [← h] at hv
  exact ⟨v, hv, rfl, rfl, rfl, fun hs => hs⟩

theorem Lasts.trans {db₁ db₂ db₃ : Database} (h : Lasts db₁ db₂) (h' : Lasts db₂ db₃) : Lasts db₁ db₃ := by
  intro v hv
  obtain ⟨v₂, hv₂, hid₂, hu₂, hb₂, hlink₂⟩ := h v hv
  obtain ⟨v₃, hv₃, hid₃, hu₃, hb₃, hlink₃⟩ := h' v₂ hv₂
  exact ⟨v₃, hv₃, hid₃.trans hid₂, hu₃.trans hu₂, hb₃.trans hb₂, fun hs => hlink₃ (hlink₂ hs)⟩

/-- Tables that grow under the reviews keep what is known of these. -/
theorem Inv.frame (hi : Inv db) (hreviews : db'.reviews = db.reviews) (hdrawn : Keyed Prod.fst db'.redemptions)
    (hnamed : ∀ r ∈ db'.redemptions, r.1 ≠ "")
    (hver : ∀ userId branchId id, Verifies db userId branchId id → Verifies db' userId branchId id) : Inv db' where
  drawn := hdrawn
  named := hnamed
  keyed := hreviews ▸ hi.keyed
  single := hreviews ▸ hi.single
  genuine v hv id hid := by
    obtain ⟨hne, h⟩ := hi.genuine v (hreviews ▸ hv) id hid
    exact ⟨hne, hver _ _ _ h⟩

theorem Inv.upserted (hi : Inv db) (h : Upserted db userId branchId db') : Inv db' ∧ Lasts db db' := by
  cases h with
  | created v hpair hid hnone hlink =>
    cases hpair
    refine ⟨⟨hi.drawn, hi.named, hi.keyed.concat hid, hi.single.concat hnone, fun w hw id hwid => ?_⟩, fun w hw => ?_⟩
    · rw [List.mem_append, List.mem_singleton] at hw
      obtain hw | rfl := hw
      · exact hi.genuine w hw id hwid
      · exact hlink id hwid
    · exact ⟨w, List.mem_append_left _ hw, rfl, rfl, rfl, fun hs => hs⟩
  | updated old v hold hid hpair hpair' hlink hkeep helpfuls reports =>
    have hrow : ∀ w ∈ db.reviews, w.id = v.id → w = old := fun w hw he => hi.keyed.eq hw hold (he.trans hid)
    cases hpair
    refine ⟨⟨hi.drawn, hi.named, hi.keyed.updateMany_of_mem fun w _ he => he.symm,
      hi.single.updateMany_of_mem fun w hw he => ?_, ?_⟩, fun w hw => ?_⟩
    · rw [hrow w hw he]
      exact hpair'
    · refine forall_updateMany.mpr fun w hw => ⟨fun _ id hwid => ?_, fun _ => hi.genuine w hw⟩
      obtain ⟨hu, hb⟩ := Prod.mk.inj hpair'
      rw [hu, hb]
      exact hlink id hwid
    · by_cases he : w.id = v.id
      · obtain rfl := hrow w hw he
        obtain ⟨hu, hb⟩ := Prod.mk.inj hpair'
        exact ⟨v, mem_updateMany_of_pos (f := fun _ => v) hw he, hid, hu, hb, hkeep⟩
      · exact ⟨w, mem_updateMany_of_neg hw he, rfl, rfl, rfl, fun hs => hs⟩

theorem Inv.deleted (hi : Inv db) {reviewId : String} (h : deleteBranchReview db reviewId userId now = .ok db') :
    Inv db' ∧ Lasts db db' := by
  obtain ⟨v, -, h⟩ := bind_ok_iff.mp h
  obtain ⟨_, -, h⟩ := bind_ok_iff.mp h
  cases h
  refine ⟨⟨hi.drawn, hi.named, hi.keyed.updateMany fun _ => rfl, hi.single.updateMany fun _ => rfl, ?_⟩, fun w hw => ?_⟩
  · exact forall_updateMany.mpr fun w hw => ⟨fun _ => hi.genuine w hw, fun _ => hi.genuine w hw⟩
  · by_cases he : w.id = reviewId
    · exact ⟨hide now w, mem_updateMany_of_pos hw he, rfl, rfl, rfl, fun hs => hs⟩
    · exact ⟨w, mem_updateMany_of_neg hw he, rfl, rfl, rfl, fun hs => hs⟩

theorem Inv.redeemed (hi : Inv db) (hne : id ≠ "") (hnew : id ∉ db.redemptions.map Prod.fst)
    {redemptionCode : String} {data : Request} {now : ℕ} :
    Inv (redeem db decrypt id redemptionCode userId data now) := by
  simp only [redeem]
  cases (createRedemption db.catalog decrypt redemptionCode userId data now db.world).1 with
  | error e => exact hi.frame rfl hi.drawn hi.named fun _ _ _ h => h.mono (fun _ hr => hr) rfl
  | ok row =>
    refine hi.frame rfl (List.nodup_cons.mpr ⟨hnew, hi.drawn⟩) (List.forall_mem_cons.mpr ⟨hne, hi.named⟩) ?_
    exact fun _ _ _ h => h.mono (fun _ hr => List.mem_cons_of_mem _ hr) rfl

/-- A call that leaves the reviews alone, and the redemptions. -/
theorem Inv.untouched (hi : Inv db) (hreviews : db'.reviews = db.reviews)
    (hredemptions : db'.redemptions = db.redemptions) (hcatalog : db'.catalog = db.catalog) :
    Inv db' ∧ Lasts db db' := by
  refine ⟨hi.frame hreviews (hredemptions ▸ hi.drawn) (hredemptions ▸ hi.named) ?_, lasts_of_reviews_eq hreviews⟩
  exact fun _ _ _ h => h.mono (fun _ hr => hredemptions ▸ hr) hcatalog

theorem inv_step (hi : Inv db) (a : Act) (h : step decrypt db a = some db') : Inv db' ∧ Lasts db db' := by
  have hstay : Inv db ∧ Lasts db db := ⟨hi, lasts_of_reviews_eq rfl⟩
  cases a with
  | upsertBranchReview branchId userId data draws =>
    have hspec := hi.upsert branchId userId data draws
    simp only [step] at h
    split_ifs at h
    split at h <;> cases h
    · next hup =>
      rw [hup] at hspec
      exact hi.upserted hspec
    · exact hstay
  | deleteBranchReview reviewId userId now =>
    simp only [step] at h
    split at h <;> cases h
    · next hdel => exact hi.deleted hdel
    · exact hstay
  | reportReview reviewId userId reason comment =>
    simp only [step] at h
    split at h <;> cases h
    · next hrep =>
      obtain ⟨v, -, hrep⟩ := bind_ok_iff.mp hrep
      split_ifs at hrep <;> cases hrep
      · exact hstay
      · exact hi.untouched rfl rfl rfl
    · exact hstay
  | toggleHelpful reviewId userId =>
    simp only [step] at h
    split at h <;> cases h
    · next htog =>
      obtain ⟨v, -, htog⟩ := bind_ok_iff.mp htog
      split_ifs at htog <;> cases htog
      · exact hi.untouched rfl rfl rfl
      · exact hi.untouched rfl rfl rfl
    · exact hstay
  | createRedemption id redemptionCode userId data now =>
    simp only [step] at h
    split_ifs at h with hid
    cases h
    rw [not_or] at hid
    exact ⟨hi.redeemed hid.1 hid.2, lasts_of_reviews_eq rfl⟩
  | change c =>
    cases h
    exact ⟨hi.frame rfl hi.drawn hi.named fun _ _ _ h => h.change c, lasts_of_reviews_eq rfl⟩

theorem inv_opened (catalog : Catalog) (redis : Limiter.Store) (names : Names) : Inv (opened catalog redis names) where
  drawn := List.nodup_nil
  named r hr := by cases hr
  keyed := List.nodup_nil
  single := List.nodup_nil
  genuine v hv := by cases hv

theorem unique_of_upsert (hi : Inv db) (branchId userId : String) (data : ReviewData) (draws : Draws) :
    upsertBranchReview db branchId userId data draws ≠ .error (.unique ["redemptionId"]) := by
  intro h
  have hspec := hi.upsert branchId userId data draws
  rw [h] at hspec
  simp at hspec

/-- Any sequence of the calls. A review that names a redemption names one of its user, at its branch, of a voucher of
    the branch's merchant; a review that has come to name one is there ever after and names one; and no call of
    `upsertBranchReview` runs into the unique constraint on the redemption. -/
theorem reviews_genuine {catalog : Catalog} {redis : Limiter.Store} {names : Names} {as : List Act}
    (h : run (step decrypt) (opened catalog redis names) as = some db) :
    (∀ v ∈ db.reviews, ∀ id, v.redemptionId = some id → Verifies db v.userId v.branchId id) ∧
    (∀ xs ys s, as = xs ++ ys → run (step decrypt) (opened catalog redis names) xs = some s → Lasts s db) ∧
    ∀ branchId userId data draws,
      upsertBranchReview db branchId userId data draws ≠ .error (.unique ["redemptionId"]) := by
  have hkeep : ∀ s a s', Inv s → step decrypt s a = some s' → Inv s' := fun s a s' hs ha => (inv_step hs a ha).1
  have hi : Inv db := run_invariant hkeep (inv_opened catalog redis names) h
  refine ⟨fun v hv id hid => (hi.genuine v hv id hid).2, ?_, unique_of_upsert hi⟩
  rintro xs ys s rfl hs
  obtain ⟨s', hs', hrest⟩ := run_append_eq_some.mp h
  cases hs.symm.trans hs'
  have his : Inv s := run_invariant hkeep (inv_opened catalog redis names) hs
  exact run_relates (fun _ => lasts_of_reviews_eq rfl) (fun _ _ _ => Lasts.trans)
    (fun _ a _ ht hstep => inv_step ht a hstep) his hrest

/-! ### A café -/

def cafe : Catalog where
  voucher _ := some ⟨.ACTIVE, .APPROVED, .BOGO, none, 5, none, "merchant", .ACTIVE, []⟩
  branch _ := some ⟨"merchant", true, .LIVE, some "1234"⟩
  subscription _ := some ⟨.ACTIVE, 0⟩
  phoneVerified _ := some true

/-- Ann reviews the café, redeems and writes again, deletes her review and writes a third time. -/
def ann : List Act :=
  [.upsertBranchReview "branch" "ann" ⟨4, none, none⟩ ⟨500, 500, 500, "v1"⟩,
    .createRedemption "r1" "AAAA" "ann" ⟨"voucher", "branch", "1234"⟩ 1000,
    .upsertBranchReview "branch" "ann" ⟨5, none, none⟩ ⟨2000, 2000, 2000, "v2"⟩,
    .deleteBranchReview "v1" "ann" 3000,
    .upsertBranchReview "branch" "ann" ⟨3, none, none⟩ ⟨4000, 4000, 4000, "v3"⟩]

def inClear (pin : String) : Except DecryptFault String := .ok pin

def openedCafe : Database := opened cafe (fun _ => none) ⟨fun id => id, fun _ => none, fun _ => none⟩

theorem reviews_genuine_ann : ∃ db, run (step inClear) openedCafe ann = some db ∧
    db.reviews.map (fun v => (v.id, v.userId, v.branchId, v.redemptionId)) = [("v1", "ann", "branch", some "r1")] ∧
    Verifies db "ann" "branch" "r1" := by
  have hrun : (run (step inClear) openedCafe ann).map (fun db =>
      db.reviews.map fun v => (v.id, v.userId, v.branchId, v.redemptionId)) =
        some [("v1", "ann", "branch", some "r1")] := by decide +kernel
  obtain ⟨db, hdb, hrows⟩ := Option.map_eq_some_iff.mp hrun
  obtain ⟨v, hv, he⟩ := List.mem_map.mp (hrows ▸ List.mem_singleton_self ("v1", "ann", "branch", some "r1"))
  obtain ⟨-, hu, hb, hid⟩ : v.id = "v1" ∧ v.userId = "ann" ∧ v.branchId = "branch" ∧ v.redemptionId = some "r1" := by
    simpa using he
  exact ⟨db, hdb, hrows, hu ▸ hb ▸ (reviews_genuine hdb).1 v hv "r1" hid⟩

end Redeemo.Reviews
