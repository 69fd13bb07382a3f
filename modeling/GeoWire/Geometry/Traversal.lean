import GeoWire.Geometry

/-!
Questions about a whole tree: whether it is empty, its first coordinate, whether some coordinate
satisfies a predicate, and the dimension it is written with. The coordinates of empty points are
not looked at. `coords` lists what the questions range over.
-/

set_option autoImplicit false

namespace GeoWire

namespace Geometry

mutual

/-- Whether a geometry has no position. A multi-geometry or collection is empty when every member
is. -/
def isEmpty : Geometry → Bool
  | .point pt => pt.isEmpty
  | .lineString line => line.isEmpty
  | .linearRing ring => ring.coords.isEmpty
  | .polygon poly => poly.isEmpty
  | .multiPoint points => points.all Point.isEmpty
  | .multiLineString lines => lines.all List.isEmpty
  | .multiPolygon polygons => polygons.all Polygon.isEmpty
  | .collection members => areEmpty members

def areEmpty : List Geometry → Bool
  | [] => true
  | member :: rest => member.isEmpty && areEmpty rest

end

mutual

/-- The first coordinate in depth-first order, the exterior of a polygon before its holes. -/
def firstCoord? : Geometry → Option Coordinate
  | .point pt => pt.position?
  | .lineString line => line.head?
  | .linearRing ring => ring.coords.head?
  | .polygon poly => poly.rings.findSome? fun ring => ring.coords.head?
  | .multiPoint points => points.findSome? Point.position?
  | .multiLineString lines => lines.findSome? List.head?
  | .multiPolygon polygons =>
      polygons.findSome? fun poly => poly.rings.findSome? fun ring => ring.coords.head?
  | .collection members => firstCoordOf? members

def firstCoordOf? : List Geometry → Option Coordinate
  | [] => none
  | member :: rest =>
      match member.firstCoord? with
      | some coord => some coord
      | none => firstCoordOf? rest

end

mutual

def anyCoord (holds : Coordinate → Bool) : Geometry → Bool
  | .point pt => pt.position?.any holds
  | .lineString line => line.any holds
  | .linearRing ring => ring.coords.any holds
  | .polygon poly => poly.rings.any fun ring => ring.coords.any holds
  | .multiPoint points => points.any fun pt => pt.position?.any holds
  | .multiLineString lines => lines.any fun line => line.any holds
  | .multiPolygon polygons =>
      polygons.any fun poly => poly.rings.any fun ring => ring.coords.any holds
  | .collection members => anyCoordOf holds members

def anyCoordOf (holds : Coordinate → Bool) : List Geometry → Bool
  | [] => false
  | member :: rest => member.anyCoord holds || anyCoordOf holds rest

end

/-- The dimension of a whole tree, that of its first coordinate. An empty tree is planar. -/
def dimension (geometry : Geometry) : Dimension :=
  match geometry.firstCoord? with
  | some coord => coord.dimension
  | none => .xy

mutual

/-- All coordinates in depth-first order, without those of empty points. -/
def coords : Geometry → List Coordinate
  | .point pt => pt.position?.toList
  | .lineString line => line
  | .linearRing ring => ring.coords
  | .polygon poly => poly.coords
  | .multiPoint points => points.filterMap Point.position?
  | .multiLineString lines => lines.flatten
  | .multiPolygon polygons => polygons.flatMap Polygon.coords
  | .collection members => coordsOf members

def coordsOf : List Geometry → List Coordinate
  | [] => []
  | member :: rest => member.coords ++ coordsOf rest

end

theorem areEmpty_eq (members : List Geometry) : areEmpty members = members.all isEmpty := by
  induction members with
  | nil => rfl
  | cons member rest ih => simp [areEmpty, ih]

theorem firstCoordOf?_eq (members : List Geometry) :
    firstCoordOf? members = members.findSome? firstCoord? := by
  induction members with
  | nil => rfl
  | cons member rest ih =>
      cases first : member.firstCoord? <;> simp [firstCoordOf?, first, ih]

theorem anyCoordOf_eq (holds : Coordinate → Bool) (members : List Geometry) :
    anyCoordOf holds members = members.any (anyCoord holds) := by
  induction members with
  | nil => rfl
  | cons member rest ih => simp [anyCoordOf, ih]

theorem coordsOf_eq (members : List Geometry) : coordsOf members = members.flatMap coords := by
  induction members with
  | nil => rfl
  | cons member rest ih => simp [coordsOf, ih]

end Geometry

end GeoWire
