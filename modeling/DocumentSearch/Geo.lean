import DocumentSearch.Number.Basic

/-!
# Points, boxes and distances on the globe

A point lies in the ranges of latitude and longitude, and a box has its first corner to the
north-west of the second. Points and boxes are built by checks that say what is wrong.
-/
namespace DocumentSearch

inductive DistanceUnit where
  | meters
  | kilometers
  | miles
  | yards
  deriving DecidableEq, Repr

namespace DistanceUnit

def text : DistanceUnit → String
  | meters => "m"
  | kilometers => "km"
  | miles => "mi"
  | yards => "yd"

def name : DistanceUnit → String
  | meters => "METERS"
  | kilometers => "KILOMETERS"
  | miles => "MILES"
  | yards => "YARDS"

def all : List DistanceUnit := [meters, kilometers, miles, yards]

def ofText? (s : String) : Option DistanceUnit := all.find? (fun u => u.text = s)

theorem ofText?_text (u : DistanceUnit) : ofText? u.text = some u := by cases u <;> rfl

end DistanceUnit

inductive GeoError where
  | latitudeRange (latitude : Number)
  | longitudeRange (longitude : Number)
  | notNorth (top bottom : Number)
  | notWest (left right : Number)
  | distanceNotPositive (distance : Number)
  | unsupportedUnit (shown : String)

namespace GeoError

def message : GeoError → String
  | latitudeRange x => "lat " ++ x.text ++ " is out of range [-90, 90]"
  | longitudeRange x => "lon " ++ x.text ++ " is out of range [-180, 180]"
  | notNorth top bottom =>
    "top_left lat (" ++ top.text ++ ") must be greater than bottom_right lat (" ++ bottom.text ++
      ")"
  | notWest left right =>
    "top_left lon (" ++ left.text ++ ") must not exceed bottom_right lon (" ++ right.text ++ ")"
  | distanceNotPositive x => "distance must be positive, got " ++ x.text
  | unsupportedUnit shown => "unsupported distance unit: " ++ shown

end GeoError

/-- Whether `-bound ≤ x ≤ bound`. -/
def Number.within (x : Number) (bound : Nat) : Bool :=
  (Number.int (-bound)).le x && x.le (.int bound)

structure GeoPoint where
  lat : Number
  lon : Number
  lat_within : lat.within 90 = true
  lon_within : lon.within 180 = true
  deriving DecidableEq, Repr

def GeoPoint.of (lat lon : Number) : Except GeoError GeoPoint :=
  if h : lat.within 90 = true then
    if h' : lon.within 180 = true then .ok ⟨lat, lon, h, h'⟩ else .error (.longitudeRange lon)
  else .error (.latitudeRange lat)

/-- The coordinates as `lat,lon`. -/
def GeoPoint.text (p : GeoPoint) : String := p.lat.text ++ "," ++ p.lon.text

structure GeoBounds where
  topLeft : GeoPoint
  bottomRight : GeoPoint
  north : topLeft.lat.le bottomRight.lat = false
  west : bottomRight.lon.lt topLeft.lon = false
  deriving DecidableEq, Repr

def GeoBounds.of (topLeft bottomRight : GeoPoint) : Except GeoError GeoBounds :=
  if h : topLeft.lat.le bottomRight.lat = false then
    if h' : bottomRight.lon.lt topLeft.lon = false then .ok ⟨topLeft, bottomRight, h, h'⟩
    else .error (.notWest topLeft.lon bottomRight.lon)
  else .error (.notNorth topLeft.lat bottomRight.lat)

end DocumentSearch
