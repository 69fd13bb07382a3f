import GeoWire.Geometry.Traversal

/-!
The form in which a tree comes back from the wire: no empty members, one dimension for all
coordinates, and line strings in place of linear rings.
-/

set_option autoImplicit false

namespace GeoWire

def Point.project (dimension : Dimension) (point : Point) : Point :=
  ⟨point.coord?.map (Coordinate.project dimension)⟩

def LineString.project (dimension : Dimension) (line : LineString) : LineString :=
  line.map (Coordinate.project dimension)

def Polygon.project (dimension : Dimension) (polygon : Polygon) : Polygon :=
  ⟨polygon.exterior.project dimension, polygon.interiors.map (Ring.project dimension)⟩

theorem LineString.project_project (dimension : Dimension) (line : LineString) :
    LineString.project dimension (LineString.project dimension line) =
      LineString.project dimension line := by
  simp only [LineString.project, List.map_map]
  exact List.map_congr_left fun coord _ => coord.project_project dimension

theorem Ring.project_project (dimension : Dimension) (ring : Ring) :
    (ring.project dimension).project dimension = ring.project dimension :=
  Ring.ext (LineString.project_project dimension ring.coords)

theorem Point.project_project (dimension : Dimension) (pt : Point) :
    (pt.project dimension).project dimension = pt.project dimension := by
  cases held : pt.coord? <;> simp [Point.project, held, Coordinate.project_project]

theorem Point.isEmpty_project (dimension : Dimension) (pt : Point) :
    (pt.project dimension).isEmpty = pt.isEmpty := by
  unfold isEmpty Point.project
  cases pt.coord? <;> rfl

namespace Geometry

mutual

/-- Leave out the empty members of every multi-geometry and collection of a tree. -/
def withoutEmpty : Geometry → Geometry
  | .point pt => .point pt
  | .lineString line => .lineString line
  | .linearRing ring => .linearRing ring
  | .polygon poly => .polygon poly
  | .multiPoint points => .multiPoint (points.filter fun pt => !pt.isEmpty)
  | .multiLineString lines => .multiLineString (lines.filter fun line => !line.isEmpty)
  | .multiPolygon polygons => .multiPolygon (polygons.filter fun poly => !poly.isEmpty)
  | .collection members => .collection (membersWithoutEmpty members)

def membersWithoutEmpty : List Geometry → List Geometry
  | [] => []
  | member :: rest =>
      if member.isEmpty then membersWithoutEmpty rest
      else member.withoutEmpty :: membersWithoutEmpty rest

end

mutual

/-- Bring all coordinates of a tree to a dimension and make line strings of linear rings. -/
def conform (dimension : Dimension) : Geometry → Geometry
  | .point pt => .point (pt.project dimension)
  | .lineString line => .lineString (LineString.project dimension line)
  | .linearRing ring => .lineString (LineString.project dimension ring.coords)
  | .polygon poly => .polygon (poly.project dimension)
  | .multiPoint points => .multiPoint (points.map (Point.project dimension))
  | .multiLineString lines => .multiLineString (lines.map (LineString.project dimension))
  | .multiPolygon polygons => .multiPolygon (polygons.map (Polygon.project dimension))
  | .collection members => .collection (conformAll dimension members)

def conformAll (dimension : Dimension) : List Geometry → List Geometry
  | [] => []
  | member :: rest => member.conform dimension :: conformAll dimension rest

end

/-- The tree that is read back when a tree is written in its own dimension. -/
def normal (geometry : Geometry) : Geometry :=
  geometry.withoutEmpty.conform geometry.dimension

theorem membersWithoutEmpty_eq (members : List Geometry) :
    membersWithoutEmpty members =
      (members.filter fun member => !member.isEmpty).map withoutEmpty := by
  induction members with
  | nil => rfl
  | cons member rest ih =>
      cases isEmpty : member.isEmpty <;> simp [membersWithoutEmpty, isEmpty, ih]

theorem conformAll_eq (dimension : Dimension) (members : List Geometry) :
    conformAll dimension members = members.map (conform dimension) := by
  induction members with
  | nil => rfl
  | cons member rest ih => simp [conformAll, ih]

end Geometry

end GeoWire
