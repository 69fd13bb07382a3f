import GeoWire.Geometry.Normal

/-!
The form in which a tree comes back from the plane: coordinates of X and Y, line strings in place of
linear rings, and no point without a coordinate. What becomes of the rings of polygons is left open,
because an area may close them once more.
-/

set_option autoImplicit false

namespace GeoWire

def Polygon.mapRings (rebuild : Ring → Ring) (polygon : Polygon) : Polygon :=
  ⟨rebuild polygon.exterior, polygon.interiors.map rebuild⟩

theorem Polygon.eq_of_rings_eq {left right : Polygon} (same : left.rings = right.rings) :
    left = right := by
  cases left
  cases right
  cases same
  rfl

namespace Geometry

mutual

/-- The rings of all polygons in a tree, each exterior before its holes. -/
def polygonRings : Geometry → List Ring
  | .polygon poly => poly.rings
  | .multiPolygon polygons => polygons.flatMap Polygon.rings
  | .collection members => polygonRingsOf members
  | .point _ | .lineString _ | .linearRing _ | .multiPoint _ | .multiLineString _ => []

def polygonRingsOf : List Geometry → List Ring
  | [] => []
  | member :: rest => member.polygonRings ++ polygonRingsOf rest

end

mutual

/-- Bring a tree into the plane. A point without a coordinate becomes a multi-point without members,
or nothing inside a multi-point; the rings of polygons are rebuilt as given. -/
def flattenWith (rebuild : Ring → Ring) : Geometry → Geometry
  | .point pt =>
      match pt.coord? with
      | some coord => .point ⟨some (coord.project .xy)⟩
      | none => .multiPoint []
  | .lineString line => .lineString (LineString.project .xy line)
  | .linearRing ring => .lineString (LineString.project .xy ring.coords)
  | .polygon poly => .polygon (poly.mapRings rebuild)
  | .multiPoint points =>
      .multiPoint ((points.filter fun pt => pt.coord?.isSome).map (Point.project .xy))
  | .multiLineString lines => .multiLineString (lines.map (LineString.project .xy))
  | .multiPolygon polygons => .multiPolygon (polygons.map (Polygon.mapRings rebuild))
  | .collection members => .collection (flattenAllWith rebuild members)

def flattenAllWith (rebuild : Ring → Ring) : List Geometry → List Geometry
  | [] => []
  | member :: rest => member.flattenWith rebuild :: flattenAllWith rebuild rest

end

/-- The X and Y of a tree, with every ring of a polygon as it was. -/
def flat : Geometry → Geometry :=
  flattenWith (Ring.project .xy)

theorem polygonRingsOf_eq (members : List Geometry) :
    polygonRingsOf members = members.flatMap polygonRings := by
  induction members with
  | nil => rfl
  | cons member rest ih => simp [polygonRingsOf, ih]

theorem flattenAllWith_eq (rebuild : Ring → Ring) (members : List Geometry) :
    flattenAllWith rebuild members = members.map (flattenWith rebuild) := by
  induction members with
  | nil => rfl
  | cons member rest ih => simp [flattenAllWith, ih]

end Geometry

end GeoWire
