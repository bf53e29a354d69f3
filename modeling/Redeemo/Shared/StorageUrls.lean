import Redeemo.Shared.Storage

/-! Keys and public URLs are inverse, as far as the two expressions agree.

    `KEY_RE` has the four extensions that are minted and `PUBLIC_KEY_RE` any letters and digits, so a URL with another
    extension parses though no key has it. -/

namespace Redeemo.Storage
open Bytes Fallible Records

variable {p : Process} {kind : StorageKind} {kinds : List String} {isExt : List Char → Bool} {key url ownerId : String}
  {m : KeyParts} {r : PublicObject}

/-! ### The shape of a key -/

def KeyParts.write (m : KeyParts) : String := keyOf m.kind m.ownerId m.name m.ext

theorem toList_write (m : KeyParts) : m.write.toList =
    ['/'].intercalate [m.kind.toList, m.ownerId.toList, ['.'].intercalate [m.name.toList, m.ext.toList]] := by
  simp [KeyParts.write, keyOf]

theorem not_mem_of_isSegment {cs : List Char} (h : isSegment cs = true) {c : Char} (hc : isSegmentChar c = false) :
    c ∉ cs := by
  intro hmem
  rw [isSegment, Bool.and_eq_true, List.all_eq_true] at h
  rw [h.2 c hmem] at hc
  cases hc

/-- A key matches exactly if it is written from parts that are in the classes of the expression. -/
theorem matchKey_eq_some_iff (hk : ∀ k ∈ kinds, '/' ∉ k.toList) (he : ∀ e, isExt e = true → '/' ∉ e ∧ '.' ∉ e) :
    matchKey kinds isExt key = some m ↔ key = m.write ∧ m.kind ∈ kinds ∧ isSegment m.ownerId.toList = true ∧
      isSegment m.name.toList = true ∧ isExt m.ext.toList = true := by
  constructor
  · intro h
    unfold matchKey at h
    split at h
    · rename_i k o file hsplit
      split at h
      · rename_i n e hfile
        split_ifs at h with hok
        cases h
        obtain ⟨hkind, howner, hname, hext⟩ := hok
        refine ⟨?_, hkind, by simpa using howner, by simpa using hname, by simpa using hext⟩
        rw [← String.toList_inj, toList_write]
        simp only [String.toList_ofList]
        rw [← hfile, List.intercalate_splitOn, ← hsplit, List.intercalate_splitOn]
      · cases h
    · cases h
  · rintro ⟨rfl, hkind, howner, hname, hext⟩
    obtain ⟨hslash, hdot⟩ := he _ hext
    have hfile : (['.'].intercalate [m.name.toList, m.ext.toList]).splitOn '.' = [m.name.toList, m.ext.toList] := by
      refine List.splitOn_intercalate '.' ?_ (List.cons_ne_nil _ _)
      simp only [List.forall_mem_cons, List.not_mem_nil, false_imp_iff, implies_true, and_true]
      exact ⟨not_mem_of_isSegment hname (by decide), hdot⟩
    have hkey : m.write.toList.splitOn '/' =
        [m.kind.toList, m.ownerId.toList, ['.'].intercalate [m.name.toList, m.ext.toList]] := by
      rw [toList_write]
      refine List.splitOn_intercalate '/' ?_ (List.cons_ne_nil _ _)
      simp only [List.forall_mem_cons, List.not_mem_nil, false_imp_iff, implies_true, and_true]
      refine ⟨hk _ hkind, not_mem_of_isSegment howner (by decide), ?_⟩
      have hname : '/' ∉ m.name.toList := not_mem_of_isSegment hname (by decide)
      simpa using ⟨hname, hslash⟩
    simp only [matchKey, hkey, hfile, String.ofList_toList]
    rw [if_pos ⟨hkind, howner, hname, hext⟩]

theorem not_mem_of_isKeyExtension (e : List Char) (h : isKeyExtension e = true) : '/' ∉ e ∧ '.' ∉ e := by
  have hall : ∀ s ∈ KEY_EXTENSIONS, '/' ∉ s.toList ∧ '.' ∉ s.toList := by decide
  simpa using hall _ (of_decide_eq_true h)

theorem not_mem_of_isAnyExtension (e : List Char) (h : isAnyExtension e = true) : '/' ∉ e ∧ '.' ∉ e := by
  rw [isAnyExtension, Bool.and_eq_true, List.all_eq_true] at h
  exact ⟨fun hc => absurd (h.2 _ hc) (by decide), fun hc => absurd (h.2 _ hc) (by decide)⟩

theorem isAnyExtension_of_isKeyExtension (e : List Char) (h : isKeyExtension e = true) : isAnyExtension e = true := by
  have hall : ∀ s ∈ KEY_EXTENSIONS, isAnyExtension s.toList = true := by decide
  simpa using hall _ (of_decide_eq_true h)

theorem KEY_RE_eq_some_iff : KEY_RE key = some m ↔ key = m.write ∧ m.kind ∈ ["document", "logo", "banner", "photo"] ∧
    isSegment m.ownerId.toList = true ∧ isSegment m.name.toList = true ∧ isKeyExtension m.ext.toList = true :=
  matchKey_eq_some_iff (by decide) not_mem_of_isKeyExtension

theorem PUBLIC_KEY_RE_eq_some_iff : PUBLIC_KEY_RE key = some m ↔ key = m.write ∧ m.kind ∈ ["logo", "banner", "photo"] ∧
    isSegment m.ownerId.toList = true ∧ isSegment m.name.toList = true ∧ isAnyExtension m.ext.toList = true :=
  matchKey_eq_some_iff (by decide) not_mem_of_isAnyExtension

/-- The public expression takes what the other one takes of the public kinds, and more extensions. -/
theorem KEY_RE_iff_PUBLIC_KEY_RE (hkind : m.kind ∈ ["logo", "banner", "photo"]) :
    KEY_RE key = some m ↔ PUBLIC_KEY_RE key = some m ∧ isKeyExtension m.ext.toList = true := by
  rw [KEY_RE_eq_some_iff, PUBLIC_KEY_RE_eq_some_iff]
  constructor
  · rintro ⟨hkey, -, howner, hname, hext⟩
    exact ⟨⟨hkey, hkind, howner, hname, isAnyExtension_of_isKeyExtension _ hext⟩, hext⟩
  · rintro ⟨⟨hkey, -, howner, hname, -⟩, hext⟩
    exact ⟨hkey, List.mem_cons_of_mem _ hkind, howner, hname, hext⟩

theorem kindNameOfKey_of_KEY_RE (h : KEY_RE key = some m) : kindNameOfKey key = m.kind := by
  unfold KEY_RE matchKey at h
  split at h
  · rename_i hsplit
    rw [kindNameOfKey, hsplit]
    split at h
    · split_ifs at h
      cases h
      rfl
    · cases h
  · cases h

/-! ### Public URLs -/

theorem mem_public_iff (kind : StorageKind) :
    kind.name ∈ ["logo", "banner", "photo"] ↔ (kindPolicy kind).visibility = .public_ := by
  cases kind <;> decide

theorem name_mem (kind : StorageKind) : kind.name ∈ ["document", "logo", "banner", "photo"] := by
  cases kind <;> decide

theorem find_name (kind : StorageKind) : (STORAGE_KINDS.find? fun k => k.name = kind.name) = some kind := by
  cases kind <;> decide

theorem exists_kind (h : m.kind ∈ ["document", "logo", "banner", "photo"]) : ∃ kind : StorageKind, kind.name = m.kind := by
  have hall : ∀ s ∈ ["document", "logo", "banner", "photo"], ∃ kind ∈ STORAGE_KINDS, kind.name = s := by decide
  obtain ⟨kind, -, hkind⟩ := hall _ h
  exact ⟨kind, hkind⟩

theorem kindOfKey_of_KEY_RE (h : KEY_RE key = some m) : ∃ kind : StorageKind, kind.name = m.kind ∧ kindOfKey key = some kind := by
  obtain ⟨kind, hkind⟩ := exists_kind (KEY_RE_eq_some_iff.mp h).2.1
  refine ⟨kind, hkind, ?_⟩
  rw [kindOfKey, kindNameOfKey_of_KEY_RE h, ← hkind]
  exact find_name kind

theorem assertValidKey_eq_ok_iff : assertValidKey key = .ok () ↔ ∃ m, KEY_RE key = some m := by
  rw [assertValidKey, rejectIf_eq_ok, ← ne_eq, Option.ne_none_iff_exists']

/-- `base/key`. -/
def underBase (p : Process) (key : String) : String := String.ofList (publicBase p) ++ "/" ++ key

theorem publicUrl_eq_ok_iff : publicUrl p key = .ok url ↔
    (∃ m, KEY_RE key = some m ∧ m.kind ∈ ["logo", "banner", "photo"]) ∧ publicBase p ≠ [] ∧ url = underBase p key := by
  constructor
  · intro h
    obtain ⟨_, hvalid, h⟩ := bind_ok_iff.mp h
    obtain ⟨kind, hkind, h⟩ := bind_ok_iff.mp h
    obtain ⟨_, hpublic, h⟩ := bind_ok_iff.mp h
    obtain ⟨_, hbase, h⟩ := bind_ok_iff.mp h
    cases h
    obtain ⟨m, hm⟩ := assertValidKey_eq_ok_iff.mp hvalid
    obtain ⟨kind', hname, hkind'⟩ := kindOfKey_of_KEY_RE hm
    cases hkind'.symm.trans (orReject_eq_ok.mp hkind)
    refine ⟨⟨m, hm, ?_⟩, rejectIf_eq_ok.mp hbase, rfl⟩
    rw [← hname, mem_public_iff]
    exact not_not.mp (rejectIf_eq_ok.mp hpublic)
  · rintro ⟨⟨m, hm, hpublic⟩, hbase, rfl⟩
    obtain ⟨kind, hname, hkind⟩ := kindOfKey_of_KEY_RE hm
    rw [← hname, mem_public_iff] at hpublic
    refine bind_ok_iff.mpr ⟨(), assertValidKey_eq_ok_iff.mpr ⟨m, hm⟩, ?_⟩
    refine bind_ok_iff.mpr ⟨kind, orReject_eq_ok.mpr hkind, ?_⟩
    refine bind_ok_iff.mpr ⟨(), rejectIf_eq_ok.mpr (not_not.mpr hpublic), ?_⟩
    exact bind_ok_iff.mpr ⟨(), rejectIf_eq_ok.mpr hbase, rfl⟩

theorem toList_underBase : (underBase p key).toList = publicBase p ++ ['/'] ++ key.toList := by
  simp [underBase]

/-- A URL parses exactly if it is a base that is set, and a key that the public expression takes. -/
theorem parsePublicUrl_eq_some_iff : parsePublicUrl p url = some r ↔
    publicBase p ≠ [] ∧ ∃ m, PUBLIC_KEY_RE m.write = some m ∧ url = underBase p m.write ∧ r = ⟨m.kind, m.ownerId⟩ := by
  unfold parsePublicUrl
  constructor
  · intro h
    split_ifs at h with hfail
    rw [not_or, not_or, not_not] at hfail
    obtain ⟨-, hbase, key, hkey⟩ := hfail
    obtain ⟨m, hm, rfl⟩ := Option.map_eq_some_iff.mp h
    have hurl : url.toList.drop (publicBase p).length.succ = key := by
      rw [← hkey]
      simp
    rw [hurl] at hm
    have hwrite := (PUBLIC_KEY_RE_eq_some_iff.mp hm).1
    refine ⟨hbase, m, by rwa [← hwrite], ?_, rfl⟩
    rw [← String.toList_inj, toList_underBase, ← hwrite, String.toList_ofList, hkey]
  · rintro ⟨hbase, m, hm, rfl, rfl⟩
    have hurl : (underBase p m.write).toList.drop (publicBase p).length.succ = m.write.toList := by
      rw [toList_underBase]
      simp
    rw [if_neg, hurl, String.ofList_toList, hm]
    · rfl
    · rw [not_or, not_or, not_not, toList_underBase]
      refine ⟨?_, hbase, List.prefix_append _ _⟩
      intro hempty
      have hnil := congrArg String.toList hempty
      rw [toList_underBase] at hnil
      simp at hnil

/-! ### Minted keys -/

/-- The keys that uploads have returned, each with the kind and the owner of its upload. -/
inductive Minted : StorageKind → String → String → Prop
  | presignPut {p input r} (h : presignPut p input = .ok r) : Minted input.kind input.ownerId r.key
  | putObject {p input key} (h : putObject p input = .ok key) : Minted input.kind input.ownerId key

theorem isSegment_toHex (p : Process) : isSegment (toHex p.randomBytes).toList = true := by
  have hdigit : ∀ n < 16, isSegmentChar (hexDigit n) = true := by decide
  have hall : ∀ bs : Buffer, (hexChars bs).all isSegmentChar = true := by
    intro bs
    induction bs with
    | nil => rfl
    | cons b bs ih =>
      have hb := b.toNat_lt
      rw [hexChars, List.all_cons, List.all_cons, hdigit _ (by omega), hdigit _ (by omega), ih]
      rfl
  obtain ⟨b, bs, hbytes⟩ := List.exists_cons_of_length_eq_add_one p.randomBytes_length
  rw [toHex, String.toList_ofList, isSegment, hall, hbytes]
  rfl

theorem isKeyExtension_of_lookup {contentType ext : String}
    (h : (kindPolicy kind).contentTypes.lookup contentType = some ext) : isKeyExtension ext.toList = true := by
  have hall : ∀ kind ∈ STORAGE_KINDS, ∀ e ∈ (kindPolicy kind).contentTypes, isKeyExtension e.2.toList = true := by decide
  have hkind : kind ∈ STORAGE_KINDS := by cases kind <;> decide
  obtain ⟨l₁, l₂, hsplit, -⟩ := List.lookup_eq_some_iff.mp h
  exact hall kind hkind (contentType, ext) (by rw [hsplit]; simp)

theorem KEY_RE_mintKey {ext : String} (howner : isSegment ownerId.toList = true)
    (hext : isKeyExtension ext.toList = true) :
    KEY_RE (mintKey p kind ownerId ext) = some ⟨kind.name, ownerId, toHex p.randomBytes, ext⟩ := by
  exact KEY_RE_eq_some_iff.mpr ⟨rfl, name_mem kind, howner, isSegment_toHex p, hext⟩

/-- A command that puts a new object of the kind and the owner. -/
def Puts (p : Process) (kind : StorageKind) (ownerId : String) (command : Command) : Prop :=
  (∃ m, KEY_RE command.Key = some m ∧ m.kind = kind.name ∧ m.ownerId = ownerId) ∧ bucketFor p kind = .ok command.Bucket

theorem presignPutCommand_ok {input : PresignPutInput} {command : Command}
    (h : presignPutCommand p input = .ok command) : Puts p input.kind input.ownerId command := by
  obtain ⟨_, -, h⟩ := bind_ok_iff.mp h
  obtain ⟨_, howner, h⟩ := bind_ok_iff.mp h
  obtain ⟨ext, hext, h⟩ := bind_ok_iff.mp h
  obtain ⟨_, -, h⟩ := bind_ok_iff.mp h
  obtain ⟨_, -, h⟩ := bind_ok_iff.mp h
  obtain ⟨_, -, h⟩ := bind_ok_iff.mp h
  obtain ⟨bucket, hbucket, h⟩ := bind_ok_iff.mp h
  cases h
  exact ⟨⟨_, KEY_RE_mintKey (Bool.not_eq_false _ ▸ rejectIf_eq_ok.mp howner)
    (isKeyExtension_of_lookup (orReject_eq_ok.mp hext)), rfl, rfl⟩, hbucket⟩

theorem putObjectCommand_ok {input : PutObjectInput} {command : Command}
    (h : putObjectCommand p input = .ok command) : Puts p input.kind input.ownerId command := by
  obtain ⟨_, -, h⟩ := bind_ok_iff.mp h
  obtain ⟨_, howner, h⟩ := bind_ok_iff.mp h
  obtain ⟨ext, hext, h⟩ := bind_ok_iff.mp h
  obtain ⟨_, -, h⟩ := bind_ok_iff.mp h
  obtain ⟨_, -, h⟩ := bind_ok_iff.mp h
  obtain ⟨_, -, h⟩ := bind_ok_iff.mp h
  obtain ⟨bucket, hbucket, h⟩ := bind_ok_iff.mp h
  cases h
  exact ⟨⟨_, KEY_RE_mintKey (Bool.not_eq_false _ ▸ rejectIf_eq_ok.mp howner)
    (isKeyExtension_of_lookup (orReject_eq_ok.mp hext)), rfl, rfl⟩, hbucket⟩

theorem KEY_RE_of_minted (h : Minted kind ownerId key) :
    ∃ m, KEY_RE key = some m ∧ m.kind = kind.name ∧ m.ownerId = ownerId := by
  cases h with
  | presignPut h =>
    obtain ⟨command, hcommand, h⟩ := bind_ok_iff.mp h
    cases h
    exact (presignPutCommand_ok hcommand).1
  | putObject h =>
    obtain ⟨command, hcommand, h⟩ := bind_ok_iff.mp h
    obtain ⟨_, -, h⟩ := bind_ok_iff.mp h
    cases h
    exact (putObjectCommand_ok hcommand).1

/-! ### The law -/

/-- Of a minted key: it has a public URL exactly if its kind is public, and that parses back to its kind and owner. -/
def InverseOnMinted (p : Process) : Prop :=
  ∀ kind ownerId key, Minted kind ownerId key →
    ((∃ url, publicUrl p key = .ok url) ↔ (kindPolicy kind).visibility = .public_) ∧
    ∀ url, publicUrl p key = .ok url → parsePublicUrl p url = some ⟨kind.name, ownerId⟩

/-- A URL parses only if it is the public URL of a valid key, with the kind and the owner of that key. -/
def ParsesOnlyPublished (p : Process) (url : String) : Prop :=
  ∀ r, parsePublicUrl p url = some r →
    ∃ key m, assertValidKey key = .ok () ∧ KEY_RE key = some m ∧ publicUrl p key = .ok url ∧ r = ⟨m.kind, m.ownerId⟩

/-- A key of a public kind with an extension that no key has, under the base. -/
def ForeignExtension (p : Process) (url : String) : Prop :=
  publicBase p ≠ [] ∧ ∃ m : KeyParts, url = underBase p m.write ∧ m.kind ∈ ["logo", "banner", "photo"] ∧
    isSegment m.ownerId.toList = true ∧ isSegment m.name.toList = true ∧ isAnyExtension m.ext.toList = true ∧
    m.ext ∉ KEY_EXTENSIONS

/-- The commands that are signed or sent. -/
inductive Issues (p : Process) : Command → Prop
  | presignPut {input command} (h : presignPutCommand p input = .ok command) : Issues p command
  | putObject {input command} (h : putObjectCommand p input = .ok command) : Issues p command
  | onKey {operation key command} (h : commandOn p operation key = .ok command) : Issues p command

theorem inverse_of_base (hbase : publicBase p ≠ []) : InverseOnMinted p := by
  intro kind ownerId key hminted
  obtain ⟨m, hm, hkind, howner⟩ := KEY_RE_of_minted hminted
  constructor
  · rw [← mem_public_iff, ← hkind]
    constructor
    · rintro ⟨url, hurl⟩
      obtain ⟨⟨m', hm', hpublic⟩, -⟩ := publicUrl_eq_ok_iff.mp hurl
      cases hm.symm.trans hm'
      exact hpublic
    · exact fun hpublic => ⟨_, publicUrl_eq_ok_iff.mpr ⟨⟨m, hm, hpublic⟩, hbase, rfl⟩⟩
  · intro url hurl
    obtain ⟨⟨m', hm', hpublic⟩, -, rfl⟩ := publicUrl_eq_ok_iff.mp hurl
    cases hm.symm.trans hm'
    have hwrite := (KEY_RE_eq_some_iff.mp hm).1
    refine parsePublicUrl_eq_some_iff.mpr ⟨hbase, m, ?_, by rw [← hwrite], by rw [hkind, howner]⟩
    rw [← hwrite]
    exact ((KEY_RE_iff_PUBLIC_KEY_RE hpublic).mp hm).1

theorem underBase_inj {key' : String} (h : underBase p key = underBase p key') : key = key' := by
  have hlist := congrArg String.toList h
  rw [toList_underBase, toList_underBase, List.append_cancel_left_eq] at hlist
  exact String.toList_inj.mp hlist

theorem parsesOnlyPublished_iff : ParsesOnlyPublished p url ↔ ¬ ForeignExtension p url := by
  constructor
  · rintro h ⟨hbase, m, rfl, hkind, howner, hname, hany, hext⟩
    have hm : PUBLIC_KEY_RE m.write = some m := PUBLIC_KEY_RE_eq_some_iff.mpr ⟨rfl, hkind, howner, hname, hany⟩
    obtain ⟨key, m', -, hkey, hurl, -⟩ := h _ (parsePublicUrl_eq_some_iff.mpr ⟨hbase, m, hm, rfl, rfl⟩)
    obtain ⟨⟨_, hkey', hpublic⟩, -, hunder⟩ := publicUrl_eq_ok_iff.mp hurl
    cases hkey.symm.trans hkey'
    rw [← underBase_inj hunder] at hkey
    obtain ⟨hm', hext'⟩ := (KEY_RE_iff_PUBLIC_KEY_RE hpublic).mp hkey
    cases hm.symm.trans hm'
    exact hext (by simpa [isKeyExtension] using hext')
  · intro h r hr
    obtain ⟨hbase, m, hm, rfl, rfl⟩ := parsePublicUrl_eq_some_iff.mp hr
    obtain ⟨-, hkind, howner, hname, hany⟩ := PUBLIC_KEY_RE_eq_some_iff.mp hm
    have hext : isKeyExtension m.ext.toList = true := by
      by_contra hext
      refine h ⟨hbase, m, rfl, hkind, howner, hname, hany, ?_⟩
      simpa [isKeyExtension] using hext
    have hkey := (KEY_RE_iff_PUBLIC_KEY_RE hkind).mpr ⟨hm, hext⟩
    exact ⟨m.write, m, assertValidKey_eq_ok_iff.mpr ⟨m, hkey⟩, hkey,
      publicUrl_eq_ok_iff.mpr ⟨⟨m, hkey, hkind⟩, hbase, rfl⟩, rfl⟩

/-! ### The buckets -/

theorem requireSecret_ok {secret value : String} (h : requireSecret p secret = .ok value) : p.env secret = some value := by
  obtain ⟨v, hv, h⟩ := bind_ok_iff.mp h
  obtain ⟨_, -, h⟩ := bind_ok_iff.mp h
  obtain ⟨_, -, h⟩ := bind_ok_iff.mp h
  cases h
  exact orReject_eq_ok.mp hv

theorem bucketFor_ok {bucket : String} (h : bucketFor p kind = .ok bucket) :
    p.env (if kind = .document then "R2_BUCKET" else "R2_PUBLIC_BUCKET") = some bucket := by
  cases kind <;> exact requireSecret_ok h

theorem name_inj {kind' : StorageKind} (h : kind.name = kind'.name) : kind = kind' := by
  have hfind := find_name kind
  rw [h, find_name kind'] at hfind
  exact (Option.some.inj hfind).symm

theorem Puts.bucket {command : Command} (h : Puts p kind ownerId command) : kindOfKey command.Key = some kind ∧
    p.env (if kind = .document then "R2_BUCKET" else "R2_PUBLIC_BUCKET") = some command.Bucket := by
  obtain ⟨⟨m, hm, hkind, -⟩, hbucket⟩ := h
  obtain ⟨kind', hname, hkey⟩ := kindOfKey_of_KEY_RE hm
  rw [hkey, name_inj (hname.trans hkind)]
  exact ⟨rfl, bucketFor_ok hbucket⟩

/-- A command goes to the bucket of the kind that its key is of. -/
theorem issued_bucket {command : Command} (h : Issues p command) : ∃ kind, kindOfKey command.Key = some kind ∧
    p.env (if kind = .document then "R2_BUCKET" else "R2_PUBLIC_BUCKET") = some command.Bucket := by
  cases h with
  | presignPut h => exact ⟨_, (presignPutCommand_ok h).bucket⟩
  | putObject h => exact ⟨_, (putObjectCommand_ok h).bucket⟩
  | onKey h =>
    obtain ⟨_, -, h⟩ := bind_ok_iff.mp h
    obtain ⟨_, -, h⟩ := bind_ok_iff.mp h
    obtain ⟨_, -, h⟩ := bind_ok_iff.mp h
    obtain ⟨kind, hkind, h⟩ := bind_ok_iff.mp h
    obtain ⟨bucket, hbucket, h⟩ := bind_ok_iff.mp h
    cases h
    exact ⟨kind, orReject_eq_ok.mp hkind, bucketFor_ok hbucket⟩

/-! ### A deployment -/

def media : Process where
  env
    | "STORAGE_ENABLED" => some "true"
    | "R2_BUCKET" => some "documents"
    | "R2_PUBLIC_BUCKET" => some "media"
    | "R2_PUBLIC_BASE_URL" => some "https://media.redeemo.co.uk/"
    | _ => none
  client := true
  toLowerCase := id
  randomBytes := List.replicate 16 0
  randomBytes_length := rfl
  getSignedUrl := fun command _ => command.Key
  send := fun _ => true

theorem minted_media : Minted .logo "m1" "logo/m1/00000000000000000000000000000000.png" :=
  @Minted.putObject media ⟨.logo, "m1", "image/png", [1]⟩ _ rfl

/-- Keys and URLs are inverse unless the base is only slashes or the URL has an extension that no key has, and no
    command on a document goes to the public bucket. -/
theorem keys_urls_inverse_iff (p : Process) :
    (InverseOnMinted p ↔ ¬ ∀ c ∈ ((p.env "R2_PUBLIC_BASE_URL").getD "").toList, c = '/') ∧
    (∀ url, ParsesOnlyPublished p url ↔ ¬ ForeignExtension p url) ∧
    ∀ command, Issues p command → kindOfKey command.Key = some .document →
      p.env "R2_BUCKET" = some command.Bucket ∧
      (p.env "R2_PUBLIC_BUCKET" ≠ p.env "R2_BUCKET" → p.env "R2_PUBLIC_BUCKET" ≠ some command.Bucket) := by
  have hslashes : publicBase p = [] ↔ ∀ c ∈ ((p.env "R2_PUBLIC_BASE_URL").getD "").toList, c = '/' := by
    rw [publicBase, List.rdropWhile_eq_nil_iff]
    simp
  refine ⟨?_, fun url => parsesOnlyPublished_iff, ?_⟩
  · rw [← hslashes]
    refine ⟨fun h hbase => ?_, inverse_of_base⟩
    obtain ⟨url, hurl⟩ := (h _ _ _ minted_media).1.mpr rfl
    exact (publicUrl_eq_ok_iff.mp hurl).2.1 hbase
  · intro command hissues hdocument
    obtain ⟨kind, hkind, hbucket⟩ := issued_bucket hissues
    cases hdocument.symm.trans hkind
    exact ⟨hbucket, fun hne => hbucket ▸ hne⟩

/-- It parses, and no valid key ends in `.gif`. -/
theorem gif_not_published : parsePublicUrl media "https://media.redeemo.co.uk/logo/o/x.gif" = some ⟨"logo", "o"⟩ ∧
    assertValidKey "logo/o/x.gif" = .error (.invalidKey "logo/o/x.gif") ∧
    ¬ ParsesOnlyPublished media "https://media.redeemo.co.uk/logo/o/x.gif" := by
  refine ⟨by decide, rfl, ?_⟩
  rw [parsesOnlyPublished_iff, not_not]
  exact ⟨by decide, ⟨"logo", "o", "x", "gif"⟩, by decide, by decide, by decide, by decide, by decide, by decide⟩

end Redeemo.Storage
