import Mathlib.Algebra.Ring.Nat
import Mathlib.Data.List.Infix
import Redeemo.Lib.Fallible
import Redeemo.Lib.Records
import Redeemo.Shared.Errors

/-! Who invites which business: the keys under which an invite is filed, and the check of its note. -/

namespace Redeemo.Invites
open Fallible Records

/-- What the runtime does with texts, and the database when it compares or hashes them. -/
structure Runtime where
  toLowerCase : String → String
  normalizeNFD : String → String
  /-- In hexadecimal digits. -/
  sha256 : String → String
  /-- `mode: 'insensitive'`. -/
  insensitive : String → String → Bool
  hashtext : String → ℤ

/-- `includes`. -/
def contains (s part : String) : Bool := decide (part.toList <:+: s.toList)

/-- `length`. -/
def codeUnits (s : String) : ℕ := (s.toList.map fun c => if c.toNat < 0x10000 then 1 else 2).sum

def buildInviterKey (userId : String) : String := "u:" ++ userId

/-! ### Keys of businesses -/

def isSlugChar (c : Char) : Bool := ('a' ≤ c ∧ c ≤ 'z') ∨ ('0' ≤ c ∧ c ≤ '9')

/-- Every run of other characters becomes one dash; `inRun` says that one has just been written for it. -/
def dashes : Bool → List Char → List Char
  | _, [] => []
  | inRun, c :: cs =>
    if isSlugChar c = true then c :: dashes false cs
    else if inRun = true then dashes true cs
    else '-' :: dashes true cs

def isCombiningMark (c : Char) : Bool := 0x300 ≤ c.toNat ∧ c.toNat ≤ 0x36F

def trimDashes (cs : List Char) : List Char := ((cs.dropWhile (· = '-')).reverse.dropWhile (· = '-')).reverse

variable (rt : Runtime)

def slugForPlaceKey (s : String) : String :=
  let stripped := String.ofList ((rt.normalizeNFD s).toList.filter fun c => !isCombiningMark c)
  let slug := trimDashes (dashes false (rt.toLowerCase stripped).toList)
  if slug = [] then "unknown" else String.ofList slug

/-- A place id that is given and not empty. -/
def given (googlePlaceId : Option String) : Option String := googlePlaceId.filter (· ≠ "")

def buildPlaceKey (googlePlaceId : Option String) (businessName : String) (locality : Option String) : String :=
  match given googlePlaceId with
  | some placeId => "gp:" ++ placeId
  | none => "fz:" ++ slugForPlaceKey rt businessName ++ ":" ++ slugForPlaceKey rt (locality.getD "")

def hashInviteIp (ip : String) : String := String.ofList ((rt.sha256 (trim ip)).toList.take 32)

/-! ### Notes -/

def HELD_REVIEW_TERMS : List String := ["scam", "lawsuit", "refund me", "hate"]
def NOTE_MAX_LENGTH : ℕ := 240

/-- `/(https?:\/\/|www\.)/i`. -/
def hasLink (s : String) : Bool :=
  ["http://", "https://", "www."].any (contains (String.ofList (s.toList.map Char.toLower)))

structure InviteNote where
  note : Option String
  /-- It waits for a review. -/
  held : Bool
  deriving DecidableEq

def validateInviteNote (note : Option String) : Except AppError InviteNote :=
  match note.map trim with
  | none | some "" => .ok ⟨none, false⟩
  | some trimmed => do
    rejectIf (NOTE_MAX_LENGTH < codeUnits trimmed) .INVITE_NOTE_INVALID
    rejectIf (hasLink trimmed = true) .INVITE_NOTE_INVALID
    return ⟨some trimmed, HELD_REVIEW_TERMS.any (contains (rt.toLowerCase trimmed))⟩

end Redeemo.Invites
