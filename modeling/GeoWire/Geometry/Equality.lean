import GeoWire.Geometry

/-!
Numeric equality of geometries: the same tree with ordinates that are equal as numbers. It is not
reflexive, because a NaN equals nothing, and it does not tell the two zeros apart.
-/

set_option autoImplicit false

namespace GeoWire

namespace Geometry

mutual

def ieeeEq : Geometry → Geometry → Bool
  | .point left, .point right => left.ieeeEq right
  | .lineString left, .lineString right => left.isEqv right Coordinate.ieeeEq
  | .linearRing left, .linearRing right => left.ieeeEq right
  | .polygon left, .polygon right => left.ieeeEq right
  | .multiPoint left, .multiPoint right => left.isEqv right Point.ieeeEq
  | .multiLineString left, .multiLineString right =>
      left.isEqv right fun leftLine rightLine => leftLine.isEqv rightLine Coordinate.ieeeEq
  | .multiPolygon left, .multiPolygon right => left.isEqv right Polygon.ieeeEq
  | .collection left, .collection right => membersIeeeEq left right
  | _, _ => false

def membersIeeeEq : List Geometry → List Geometry → Bool
  | [], [] => true
  | left :: leftRest, right :: rightRest =>
      left.ieeeEq right && membersIeeeEq leftRest rightRest
  | _, _ => false

end

end Geometry

def ReferencedGeometry.ieeeEq (left right : ReferencedGeometry) : Bool :=
  left.srid == right.srid && left.geometry.ieeeEq right.geometry

end GeoWire
