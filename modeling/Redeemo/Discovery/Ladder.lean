import Mathlib.Data.Rat.Init
import Mathlib.Data.List.Basic

/-! The ladder of rungs, from the branches nearby to those anywhere in the country, and the matrices that say how far
    up it a category's search goes. -/

namespace Redeemo.Discovery

inductive LadderProfile
  | LOCAL_TIGHT | LOCAL_NORMAL | MIXED_NORMAL | DESTINATION_LOCAL | DESTINATION_WIDE
  deriving DecidableEq, Repr

inductive DensityClass
  | URBAN | SUBURBAN | RURAL
  deriving DecidableEq, Repr

inductive SupplyRung
  | NEARBY | CATCHMENT | POST_TOWN | LAD | COUNTY | REGION | COUNTRY | NATIONAL
  deriving DecidableEq, Repr

inductive ProximityBand
  | NEARBY | IN_YOUR_AREA | A_LITTLE_FURTHER | NEAREST_ON_REDEEMO
  deriving DecidableEq, Repr

inductive PopulationTier
  | UNKNOWN | HAMLET | VILLAGE | SMALL_TOWN | TOWN | LARGE_TOWN | CITY | METRO_CORE
  deriving DecidableEq, Repr

inductive SupplyTier
  | NEARBY | CITY | DISTANT
  deriving DecidableEq, Repr

open SupplyRung

def RUNG_ORDER : List SupplyRung := [NEARBY, CATCHMENT, POST_TOWN, LAD, COUNTY, REGION, COUNTRY, NATIONAL]

def rungOrdinal (r : SupplyRung) : ℕ := RUNG_ORDER.idxOf r

def getNearbyRadiusMiles : LadderProfile → DensityClass → ℚ
  | .LOCAL_TIGHT, .URBAN => 3 / 2
  | .LOCAL_TIGHT, .SUBURBAN => 4
  | .LOCAL_TIGHT, .RURAL => 7
  | .LOCAL_NORMAL, .URBAN => 3
  | .LOCAL_NORMAL, .SUBURBAN => 6
  | .LOCAL_NORMAL, .RURAL => 10
  | .MIXED_NORMAL, .URBAN => 5
  | .MIXED_NORMAL, .SUBURBAN => 10
  | .MIXED_NORMAL, .RURAL => 15
  | .DESTINATION_LOCAL, .URBAN => 8
  | .DESTINATION_LOCAL, .SUBURBAN => 15
  | .DESTINATION_LOCAL, .RURAL => 20
  | .DESTINATION_WIDE, .URBAN => 15
  | .DESTINATION_WIDE, .SUBURBAN => 25
  | .DESTINATION_WIDE, .RURAL => 35

def getMaxRung : LadderProfile → DensityClass → SupplyRung
  | .LOCAL_TIGHT, .URBAN => LAD
  | .LOCAL_TIGHT, _ => COUNTY
  | .LOCAL_NORMAL, .RURAL => REGION
  | .LOCAL_NORMAL, _ => COUNTY
  | .MIXED_NORMAL, .RURAL => COUNTRY
  | .MIXED_NORMAL, _ => REGION
  | .DESTINATION_LOCAL, .RURAL => NATIONAL
  | .DESTINATION_LOCAL, _ => COUNTRY
  | .DESTINATION_WIDE, _ => NATIONAL

def getProximityBand : SupplyRung → DensityClass → ProximityBand
  | NEARBY, _ => .NEARBY
  | CATCHMENT, _ => .IN_YOUR_AREA
  | POST_TOWN, _ => .IN_YOUR_AREA
  | LAD, .URBAN => .A_LITTLE_FURTHER
  | LAD, _ => .IN_YOUR_AREA
  | COUNTY, .URBAN => .NEAREST_ON_REDEEMO
  | COUNTY, _ => .A_LITTLE_FURTHER
  | REGION, .RURAL => .A_LITTLE_FURTHER
  | REGION, _ => .NEAREST_ON_REDEEMO
  | COUNTRY, _ => .NEAREST_ON_REDEEMO
  | NATIONAL, _ => .NEAREST_ON_REDEEMO

def deriveDensityClass : PopulationTier → DensityClass
  | .METRO_CORE => .URBAN
  | .CITY => .URBAN
  | .LARGE_TOWN => .SUBURBAN
  | .TOWN => .SUBURBAN
  | _ => .RURAL

def mapRungToLegacyTier (rung : SupplyRung) : SupplyTier :=
  if rung = NEARBY then .NEARBY else if rung = CATCHMENT ∨ rung = POST_TOWN then .CITY else .DISTANT

theorem nodup_rungOrder : RUNG_ORDER.Nodup := by decide

theorem mem_rungOrder (r : SupplyRung) : r ∈ RUNG_ORDER := by cases r <;> decide

theorem pairwise_rungOrder : RUNG_ORDER.Pairwise fun a b => rungOrdinal a < rungOrdinal b := by decide

theorem rungOrdinal_injective : Function.Injective rungOrdinal :=
  fun a _ h => (List.idxOf_inj (mem_rungOrder a)).mp h

end Redeemo.Discovery
