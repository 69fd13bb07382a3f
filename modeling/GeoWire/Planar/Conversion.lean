import GeoWire.Geometry
import GeoWire.Planar.Shape

/-!
Geometries to planar shapes and back. Only X and Y are kept on the way to the plane; on the way back
every ring is closed again, now with NaN matching NaN.
-/

set_option autoImplicit false

namespace GeoWire

def Coordinate.toPlanar (coord : Coordinate) : Planar.Position :=
  ⟨coord.x, coord.y⟩

def Planar.Position.toCoordinate (position : Planar.Position) : Coordinate :=
  .xy position.x position.y

def LineString.toPlanar (line : LineString) : Planar.Path :=
  line.map Coordinate.toPlanar

def Planar.Path.toLineString (path : Planar.Path) : LineString :=
  path.map Planar.Position.toCoordinate

/-- The area of a polygon, which closes each ring once more. -/
def Polygon.toPlanar (polygon : Polygon) : Planar.Area :=
  .closing (LineString.toPlanar polygon.exterior.coords)
    (polygon.interiors.map fun ring => LineString.toPlanar ring.coords)

def Planar.Path.toRing (path : Planar.Path) : Ring :=
  .closing path.toLineString

def Planar.Area.toPolygon (area : Planar.Area) : Polygon :=
  ⟨area.outline.toRing, area.holes.map Planar.Path.toRing⟩

namespace Geometry

mutual

/-- The planar shape of a geometry. A point without a coordinate becomes a multi-point without
members, or nothing inside a multi-point; a linear ring becomes a path. -/
def toPlanar : Geometry → Planar.Shape
  | .point pt =>
      match pt.coord? with
      | some coord => .point coord.toPlanar
      | none => .multiPoint []
  | .lineString line => .path (LineString.toPlanar line)
  | .linearRing ring => .path (LineString.toPlanar ring.coords)
  | .polygon poly => .area poly.toPlanar
  | .multiPoint points => .multiPoint (points.filterMap fun pt => pt.coord?.map Coordinate.toPlanar)
  | .multiLineString lines => .multiPath (lines.map LineString.toPlanar)
  | .multiPolygon polygons => .multiArea (polygons.map Polygon.toPlanar)
  | .collection members => .collection (allToPlanar members)

def allToPlanar : List Geometry → List Planar.Shape
  | [] => []
  | member :: rest => member.toPlanar :: allToPlanar rest

end

theorem allToPlanar_eq (members : List Geometry) : allToPlanar members = members.map toPlanar := by
  induction members with
  | nil => rfl
  | cons member rest ih => simp [allToPlanar, ih]

end Geometry

namespace Planar.Shape

mutual

/-- The geometry of a planar shape. A segment becomes a line string of its ends, and rectangles and
triangles become the polygons of their areas. -/
def toGeometryWith (outlines : Outlines) : Shape → Geometry
  | .point position => .point ⟨some position.toCoordinate⟩
  | .segment first last => .lineString [first.toCoordinate, last.toCoordinate]
  | .path line => .lineString line.toLineString
  | .area bounded => .polygon bounded.toPolygon
  | .multiPoint positions =>
      .multiPoint (positions.map fun position => ⟨some position.toCoordinate⟩)
  | .multiPath paths => .multiLineString (paths.map Path.toLineString)
  | .multiArea areas => .multiPolygon (areas.map Area.toPolygon)
  | .collection members => .collection (allToGeometryWith outlines members)
  | .rectangle box => .polygon (outlines.rectangle box).toPolygon
  | .triangle corners => .polygon (outlines.triangle corners).toPolygon

def allToGeometryWith (outlines : Outlines) : List Shape → List Geometry
  | [] => []
  | member :: rest => member.toGeometryWith outlines :: allToGeometryWith outlines rest

end

def toGeometry : Shape → Geometry :=
  toGeometryWith .standard

theorem allToGeometryWith_eq (outlines : Outlines) (members : List Shape) :
    allToGeometryWith outlines members = members.map (toGeometryWith outlines) := by
  induction members with
  | nil => rfl
  | cons member rest ih => simp [allToGeometryWith, ih]

end Planar.Shape

end GeoWire
