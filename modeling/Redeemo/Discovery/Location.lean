import Redeemo.Discovery.Database

/-! Where a request is taken to come from: the place it names, its coordinates, or the user's saved area. -/

namespace Redeemo.Discovery

structure EffectiveLocation where
  lat : ℚ
  lng : ℚ
  locality : Locality
  densityClass : DensityClass

def BBOX_DEGREES : ℚ := 3 / 10

def Locality.Near (lat lng : ℚ) (l : Locality) : Prop :=
  (lat - BBOX_DEGREES ≤ l.centerLat ∧ l.centerLat ≤ lat + BBOX_DEGREES) ∧
    (lng - BBOX_DEGREES ≤ l.centerLng ∧ l.centerLng ≤ lng + BBOX_DEGREES)

instance Locality.decidableNear (lat lng : ℚ) : DecidablePred (Locality.Near lat lng) := fun l => inferInstanceAs
  (Decidable ((lat - BBOX_DEGREES ≤ l.centerLat ∧ l.centerLat ≤ lat + BBOX_DEGREES) ∧
    (lng - BBOX_DEGREES ≤ l.centerLng ∧ l.centerLng ≤ lng + BBOX_DEGREES)))

variable (env : Platform) (db : Database)

/-- The first of the nearest. -/
def findNearestLocality (lat lng : ℚ) : Option Locality :=
  (db.localities.filter fun l => Locality.Near lat lng l).foldl (fun best c =>
    match best with
    | none => some c
    | some b =>
      if env.haversineMetres lat lng c.centerLat c.centerLng < env.haversineMetres lat lng b.centerLat b.centerLng
      then some c else some b) none

def findUser (userId : Option String) : Option User := do
  let id ← userId
  db.users.find? fun u => u.id = id

def findLocality (id : Option String) : Option Locality := do
  let id ← id
  db.localities.find? fun l => l.id = id

def EffectiveLocation.of (lat lng : ℚ) (locality : Locality) : EffectiveLocation where
  lat := lat
  lng := lng
  locality := locality
  densityClass := deriveDensityClass locality.populationTier

/-- A saved area counts if it has a locality and both coordinates. -/
def savedProfile (userId : Option String) : Option EffectiveLocation := do
  let user ← findUser db userId
  let locality ← findLocality db user.localityId
  let lat ← user.latitude
  let lng ← user.longitude
  return EffectiveLocation.of lat lng locality

def resolveEffectiveLocation (lat lng : Option ℚ) (placeLocality : Option Locality) (userId : Option String) :
    Option EffectiveLocation :=
  match placeLocality, lat, lng with
  | some place, _, _ => some (EffectiveLocation.of place.centerLat place.centerLng place)
  | none, some lat, some lng => (findNearestLocality env db lat lng).map (EffectiveLocation.of lat lng)
  | none, _, _ => savedProfile db userId

def getOutgoingCatchmentTargetIds (sourceLocalityId : String) : List String :=
  (sort (fun a b => compare a.rank b.rank) (db.catchmentEdges.filter fun e => e.sourceLocalityId = sourceLocalityId)).map
    LocalityCatchmentEdge.targetLocalityId

/-- The city of the user's profile. -/
def resolveProfileCity (userId : Option String) : Option String := (findUser db userId).bind User.city

def findCategory (id : String) : Option Category := db.categories.find? fun c => c.id = id

def parentOf (c : Category) : Option Category := c.parentId.bind (findCategory db)

def resolveCategoryIntent (c : Category) : CategoryIntent :=
  (c.intentType.or ((parentOf db c).bind Category.intentType)).getD .LOCAL

/-- The override of the subcategory, or else the profile of its parent. -/
def profileOfSubcategory (sub : Category) : Option LadderProfile :=
  sub.ladderProfileOverride.or ((parentOf db sub).map Category.ladderProfile)

def resolveLadderProfileForCategory (categoryId subcategoryId : Option String) : LadderProfile :=
  (((subcategoryId.bind (findCategory db)).bind (profileOfSubcategory db)).or
    ((categoryId.bind (findCategory db)).map Category.ladderProfile)).getD .MIXED_NORMAL

end Redeemo.Discovery
