import Mathlib.Algebra.Order.Ring.Rat
import Redeemo.Lib.Fallible
import Redeemo.Lib.Records

/-! Whether a pin can be trusted: it lies near the centroid of the postcode that the merchant entered.

    `haversineMetres` computes with floating-point sines and comes in as a function on the coordinates, as
    does `toUpperCase`; what is said here holds of any of them. -/

namespace Redeemo.LocationTrust
open Fallible Records

def LOCATION_TRUST_RADIUS_METRES : ℚ := 1000

/-- The reasons for which a pin is not trusted. -/
inductive Reason
  | missing_postcode | postcode_mismatch | missing_centroid | radius_exceeded
  deriving DecidableEq, Repr

/-- What the check computes with. -/
structure Geography (α : Type) where
  haversineMetres : α → α → α → α → ℚ
  toUpperCase : String → String

variable {α : Type}

def Geography.normalisePostcode (geo : Geography α) (pc : String) : String :=
  String.ofList ((geo.toUpperCase pc).toList.filter fun c => !isWhiteSpace c)

/-- The centroid is known, and the pin no further from it than the radius. -/
def checkRadius (geo : Geography α) (lat lng : α) (centroidLat centroidLng : Option α) : Except Reason Unit := do
  let centroidLat ← orReject centroidLat .missing_centroid
  let centroidLng ← orReject centroidLng .missing_centroid
  rejectIf (LOCATION_TRUST_RADIUS_METRES < geo.haversineMetres lat lng centroidLat centroidLng) .radius_exceeded

def crossCheckGoogleLocation (geo : Geography α) (googleLat googleLng : α) (googlePostcode : Option String)
    (enteredPostcode : String) (centroidLat centroidLng : Option α) : Except Reason Unit := do
  let googlePostcode ← orReject googlePostcode .missing_postcode
  rejectIf (geo.normalisePostcode googlePostcode ≠ geo.normalisePostcode enteredPostcode) .postcode_mismatch
  checkRadius geo googleLat googleLng centroidLat centroidLng

def pinWithinPostcodeArea (geo : Geography α) (pinLat pinLng : α) (centroidLat centroidLng : Option α) :
    Except Reason Unit :=
  checkRadius geo pinLat pinLng centroidLat centroidLng

/-- The pin lies within the radius of the centroid. -/
def Near (geo : Geography α) (lat lng : α) (centroidLat centroidLng : Option α) : Prop :=
  ∃ clat ∈ centroidLat, ∃ clng ∈ centroidLng,
    geo.haversineMetres lat lng clat clng ≤ LOCATION_TRUST_RADIUS_METRES

section
variable {geo : Geography α} {lat lng : α} {centroidLat centroidLng : Option α}

theorem checkRadius_ok_iff : checkRadius geo lat lng centroidLat centroidLng = .ok () ↔
    Near geo lat lng centroidLat centroidLng := by
  simp only [checkRadius, bind_ok_iff, orReject_eq_ok, rejectIf_eq_ok, not_lt]
  constructor
  · rintro ⟨clat, hlat, clng, hlng, hnear⟩
    exact ⟨clat, hlat, clng, hlng, hnear⟩
  · rintro ⟨clat, hlat, clng, hlng, hnear⟩
    exact ⟨clat, hlat, clng, hlng, hnear⟩

/-- A Google pin that passes is near the centroid, and its postcode is the one entered. -/
theorem crossCheckGoogleLocation_ok {googlePostcode : Option String} {enteredPostcode : String}
    (h : crossCheckGoogleLocation geo lat lng googlePostcode enteredPostcode centroidLat centroidLng = .ok ()) :
    Near geo lat lng centroidLat centroidLng ∧
      googlePostcode.map geo.normalisePostcode = some (geo.normalisePostcode enteredPostcode) := by
  simp only [crossCheckGoogleLocation, bind_ok_iff, orReject_eq_ok, rejectIf_eq_ok, ne_eq, not_not] at h
  obtain ⟨postcode, rfl, -, heq, hnear⟩ := h
  exact ⟨checkRadius_ok_iff.mp hnear, congrArg some heq⟩

end

end Redeemo.LocationTrust
