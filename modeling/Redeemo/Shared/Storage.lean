import Mathlib.Data.List.DropRight
import Mathlib.Data.List.Infix
import Redeemo.Lib.Bytes
import Redeemo.Lib.Fallible
import Redeemo.Lib.Records

/-! The object storage: the keys that uploads mint, the bucket of each, and the public URLs.

    A key is `kind/ownerId/name.ext`. Documents live in the private bucket, the other kinds in the public one, whose
    base URL stands in front of their keys. -/

namespace Redeemo.Storage
open Bytes Fallible Records

inductive StorageKind
  | document | logo | banner | photo
  deriving DecidableEq, Repr

def STORAGE_KINDS : List StorageKind := [.document, .logo, .banner, .photo]

def StorageKind.name : StorageKind → String
  | .document => "document"
  | .logo => "logo"
  | .banner => "banner"
  | .photo => "photo"

inductive Visibility
  | private_ | public_
  deriving DecidableEq, Repr

structure KindPolicy where
  /-- Each content type with its extension. -/
  contentTypes : List (String × String)
  maxBytes : ℕ
  visibility : Visibility

def MB : ℕ := 1024 * 1024

def IMAGE_TYPES : List (String × String) := [("image/jpeg", "jpg"), ("image/png", "png"), ("image/webp", "webp")]

def kindPolicy : StorageKind → KindPolicy
  | .document => ⟨[("application/pdf", "pdf"), ("image/jpeg", "jpg"), ("image/png", "png")], 10 * MB, .private_⟩
  | .logo => ⟨IMAGE_TYPES, 5 * MB, .public_⟩
  | .banner => ⟨IMAGE_TYPES, 5 * MB, .public_⟩
  | .photo => ⟨IMAGE_TYPES, 5 * MB, .public_⟩

def PUT_URL_TTL_SECONDS : ℕ := 300
def GET_URL_TTL_SECONDS : ℕ := 300

/-! ### Errors -/

inductive StorageError
  | secretNotSet (secret : String)
  | secretPlaceholder (secret : String)
  | unknownKind (kind : String)
  | invalidKey (key : String)
  | disabled
  /-- `presignPut` and `putObject` word it differently. -/
  | invalidOwnerId (presigned : Bool)
  | contentTypeNotAllowed (contentType : String) (kind : StorageKind)
  | sizeNotPositive
  | emptyBody
  | sizeExceeded (size : ℕ) (kind : StorageKind)
  | notPublic (key : String)
  | baseNotSet
  /-- The request to the bucket fails. -/
  | s3

def quoted (s : String) : String := "\"" ++ s ++ "\""

def StorageError.message : StorageError → String
  | .secretNotSet secret => "[env] Required secret " ++ secret ++ " is not set. Add it to the environment (see " ++
    ".env.example)."
  | .secretPlaceholder secret => "[env] Required secret " ++ secret ++ " is set to a placeholder value. Provide a real " ++
    "value (see .env.example)."
  | .unknownKind kind => "[storage] unknown kind " ++ quoted kind
  | .invalidKey key => "[storage] invalid object key " ++ quoted key
  | .disabled => "[storage] STORAGE_ENABLED is not \"true\" — presigning is disabled"
  | .invalidOwnerId true => "[storage] invalid ownerId — must match [A-Za-z0-9_-]+ (no path separators)"
  | .invalidOwnerId false => "[storage] invalid ownerId, must match [A-Za-z0-9_-]+ (no path separators)"
  | .contentTypeNotAllowed contentType kind => "[storage] content-type " ++ quoted contentType ++
    " not allowed for kind " ++ quoted kind.name ++ " (allowed: " ++
    String.intercalate ", " ((kindPolicy kind).contentTypes.map Prod.fst) ++ ")"
  | .sizeNotPositive => "[storage] sizeBytes must be a positive integer"
  | .emptyBody => "[storage] body must be a non-empty Buffer"
  | .sizeExceeded size kind => "[storage] file size " ++ toString size ++ " exceeds the " ++
    toString (kindPolicy kind).maxBytes ++ "-byte cap for kind " ++ quoted kind.name
  | .notPublic key => "[storage] publicUrl is only valid for public kinds — key " ++ quoted key ++
    " is private/unknown"
  | .baseNotSet => "[storage] R2_PUBLIC_BASE_URL is not set"
  | .s3 => ""

/-! ### The process -/

inductive Operation
  | PutObject | GetObject | DeleteObject
  deriving DecidableEq, Repr

structure Command where
  operation : Operation
  Bucket : String
  Key : String
  ContentType : Option String
  ContentLength : Option ℕ

structure Process where
  env : String → Option String
  /-- The client has been constructed by an earlier call. -/
  client : Bool
  toLowerCase : String → String
  /-- What `crypto.randomBytes(16)` draws. -/
  randomBytes : Buffer
  randomBytes_length : randomBytes.length = 16
  getSignedUrl : Command → ℕ → String
  /-- The bucket has carried the command out. -/
  send : Command → Bool

def PLACEHOLDER_SUBSTRINGS : List String :=
  ["placeholder", "replace_me", "your-", "changeme", "dev-customer-secret", "dev-merchant-secret", "dev-branch-secret",
    "dev-admin-secret"]

/-! ### Keys -/

/-- `[A-Za-z0-9_-]`. -/
def isSegmentChar (c : Char) : Bool := c.isAlphanum || c = '_' || c = '-'

/-- `[A-Za-z0-9_-]+`. -/
def isSegment (cs : List Char) : Bool := cs ≠ [] && cs.all isSegmentChar

def keyOf (kind ownerId name ext : String) : String := kind ++ "/" ++ ownerId ++ "/" ++ name ++ "." ++ ext

structure KeyParts where
  kind : String
  ownerId : String
  name : String
  ext : String
  deriving DecidableEq

/-- `^(kinds)/([A-Za-z0-9_-]+)/([A-Za-z0-9_-]+)\.(ext)$`, where no part has a `/` or a `.` in it. -/
def matchKey (kinds : List String) (isExt : List Char → Bool) (key : String) : Option KeyParts :=
  match key.toList.splitOn '/' with
  | [kind, ownerId, file] =>
    match file.splitOn '.' with
    | [name, ext] =>
      if String.ofList kind ∈ kinds ∧ isSegment ownerId = true ∧ isSegment name = true ∧ isExt ext = true then
        some ⟨String.ofList kind, String.ofList ownerId, String.ofList name, String.ofList ext⟩
      else none
    | _ => none
  | _ => none

def KEY_EXTENSIONS : List String := ["pdf", "jpg", "png", "webp"]

def isKeyExtension (cs : List Char) : Bool := String.ofList cs ∈ KEY_EXTENSIONS

def KEY_RE (key : String) : Option KeyParts := matchKey ["document", "logo", "banner", "photo"] isKeyExtension key

/-- `[A-Za-z0-9]+`. -/
def isAnyExtension (cs : List Char) : Bool := cs ≠ [] && cs.all Char.isAlphanum

def PUBLIC_KEY_RE (key : String) : Option KeyParts := matchKey ["logo", "banner", "photo"] isAnyExtension key

def assertValidKey (key : String) : Except StorageError Unit := rejectIf (KEY_RE key = none) (.invalidKey key)

/-- `key.split('/')[0]`. -/
def kindNameOfKey (key : String) : String := String.ofList (((key.toList.splitOn '/').head?).getD [])

def kindOfKey (key : String) : Option StorageKind := STORAGE_KINDS.find? fun kind => kind.name = kindNameOfKey key

/-! ### Operations -/

section

variable (p : Process)

def isPlaceholder (value : String) : Bool :=
  PLACEHOLDER_SUBSTRINGS.any fun marker => marker.toList <:+: (p.toLowerCase (trim value)).toList

def requireSecret (secret : String) : Except StorageError String := do
  let value ← orReject (p.env secret) (.secretNotSet secret)
  rejectIf (isBlank value = true) (.secretNotSet secret)
  rejectIf (isPlaceholder p value = true) (.secretPlaceholder secret)
  return value

def isStorageEnabled : Bool := (p.env "STORAGE_ENABLED").getD "" = "true"

def assertStorageEnabled : Except StorageError Unit := rejectIf (isStorageEnabled p = false) .disabled

/-- Constructs the client if no call has. -/
def s3 : Except StorageError Unit :=
  if p.client = true then .ok ()
  else do
    let _ ← requireSecret p "R2_ENDPOINT"
    let _ ← requireSecret p "R2_ACCESS_KEY_ID"
    let _ ← requireSecret p "R2_SECRET_ACCESS_KEY"
    return ()

def bucketFor (kind : StorageKind) : Except StorageError String :=
  if (kindPolicy kind).visibility = .private_ then requireSecret p "R2_BUCKET" else requireSecret p "R2_PUBLIC_BUCKET"

structure PresignPutInput where
  kind : StorageKind
  ownerId : String
  contentType : String
  /-- `none` if the number is no integer. -/
  sizeBytes : Option ℤ

structure PutObjectInput where
  kind : StorageKind
  ownerId : String
  contentType : String
  body : Buffer

/-- `crypto.randomBytes(16).toString('hex')` for the name. -/
def mintKey (kind : StorageKind) (ownerId ext : String) : String := keyOf kind.name ownerId (toHex p.randomBytes) ext

def positiveSize : Option ℤ → Except StorageError ℕ
  | some size => if 0 < size then .ok size.toNat else .error .sizeNotPositive
  | none => .error .sizeNotPositive

/-- What `presignPut` signs. -/
def presignPutCommand (input : PresignPutInput) : Except StorageError Command := do
  assertStorageEnabled p
  let policy := kindPolicy input.kind
  rejectIf (isSegment input.ownerId.toList = false) (.invalidOwnerId true)
  let ext ← orReject (policy.contentTypes.lookup input.contentType)
    (.contentTypeNotAllowed input.contentType input.kind)
  let size ← positiveSize input.sizeBytes
  rejectIf (policy.maxBytes < size) (.sizeExceeded size input.kind)
  s3 p
  let bucket ← bucketFor p input.kind
  return ⟨.PutObject, bucket, mintKey p input.kind input.ownerId ext, some input.contentType, none⟩

structure PresignPutResult where
  url : String
  key : String
  expiresIn : ℕ

def presignPut (input : PresignPutInput) : Except StorageError PresignPutResult := do
  let command ← presignPutCommand p input
  return ⟨p.getSignedUrl command PUT_URL_TTL_SECONDS, command.Key, PUT_URL_TTL_SECONDS⟩

/-- What `putObject` sends. -/
def putObjectCommand (input : PutObjectInput) : Except StorageError Command := do
  assertStorageEnabled p
  let policy := kindPolicy input.kind
  rejectIf (isSegment input.ownerId.toList = false) (.invalidOwnerId false)
  let ext ← orReject (policy.contentTypes.lookup input.contentType)
    (.contentTypeNotAllowed input.contentType input.kind)
  rejectIf (input.body = []) .emptyBody
  rejectIf (policy.maxBytes < input.body.length) (.sizeExceeded input.body.length input.kind)
  s3 p
  let bucket ← bucketFor p input.kind
  return ⟨.PutObject, bucket, mintKey p input.kind input.ownerId ext, some input.contentType, some input.body.length⟩

/-- The key. -/
def putObject (input : PutObjectInput) : Except StorageError String := do
  let command ← putObjectCommand p input
  rejectIf (p.send command = false) .s3
  return command.Key

/-- What an operation on an existing key signs or sends. -/
def commandOn (operation : Operation) (key : String) : Except StorageError Command := do
  assertStorageEnabled p
  assertValidKey key
  s3 p
  let kind ← orReject (kindOfKey key) (.unknownKind (kindNameOfKey key))
  let bucket ← bucketFor p kind
  return ⟨operation, bucket, key, none, none⟩

def presignGet (key : String) : Except StorageError (String × ℕ) := do
  let command ← commandOn p .GetObject key
  return (p.getSignedUrl command GET_URL_TTL_SECONDS, GET_URL_TTL_SECONDS)

def deleteObject (key : String) : Except StorageError Unit := do
  let command ← commandOn p .DeleteObject key
  rejectIf (p.send command = false) .s3

/-! ### Public URLs -/

/-- `R2_PUBLIC_BASE_URL` without its trailing slashes. -/
def publicBase : List Char := ((p.env "R2_PUBLIC_BASE_URL").getD "").toList.rdropWhile fun c => c = '/'

def publicUrl (key : String) : Except StorageError String := do
  assertValidKey key
  let kind ← orReject (kindOfKey key) (.notPublic key)
  rejectIf ((kindPolicy kind).visibility ≠ .public_) (.notPublic key)
  rejectIf (publicBase p = []) .baseNotSet
  return String.ofList (publicBase p) ++ "/" ++ key

structure PublicObject where
  kind : String
  ownerId : String
  deriving DecidableEq

def parsePublicUrl (url : String) : Option PublicObject :=
  if url = "" ∨ publicBase p = [] ∨ ¬ (publicBase p ++ ['/']) <+: url.toList then none
  else (PUBLIC_KEY_RE (String.ofList (url.toList.drop (publicBase p).length.succ))).map fun m => ⟨m.kind, m.ownerId⟩

end

end Redeemo.Storage
