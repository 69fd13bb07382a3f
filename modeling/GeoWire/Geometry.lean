import GeoWire.Kind
import GeoWire.Ring

/-!
Geometry trees. A polygon holds rings, a multi-geometry holds members of one kind, and a
collection holds geometries of any kind; only collections nest.
-/

set_option autoImplicit false

namespace GeoWire

/-- A single position, or the point without a coordinate. -/
structure Point where
  coord? : Option Coordinate
deriving DecidableEq, Repr

structure Polygon where
  exterior : Ring
  interiors : List Ring
deriving DecidableEq, Repr

inductive Geometry where
  | point (point : Point)
  | lineString (line : LineString)
  | linearRing (ring : Ring)
  | polygon (polygon : Polygon)
  | multiPoint (points : List Point)
  | multiLineString (lines : List LineString)
  | multiPolygon (polygons : List Polygon)
  | collection (members : List Geometry)
deriving Repr

namespace Point

def empty : Point :=
  ⟨none⟩

/-- Whether there is no position: no coordinate, or one whose X and Y are both NaN. -/
def isEmpty (point : Point) : Bool :=
  match point.coord? with
  | none => true
  | some coord => coord.isNaNPosition

def position? (point : Point) : Option Coordinate :=
  if point.isEmpty then none else point.coord?

def ieeeEq (left right : Point) : Bool :=
  match left.coord?, right.coord? with
  | some leftCoord, some rightCoord => leftCoord.ieeeEq rightCoord
  | none, none => true
  | _, _ => false

end Point

namespace Polygon

def empty : Polygon :=
  ⟨.empty, []⟩

/-- The polygon of its rings, the exterior first. No ring at all makes the empty polygon. -/
def ofRings : List Ring → Polygon
  | [] => .empty
  | exterior :: interiors => ⟨exterior, interiors⟩

def rings (polygon : Polygon) : List Ring :=
  polygon.exterior :: polygon.interiors

/-- Whether the exterior ring has no coordinate, whatever the holes. -/
def isEmpty (polygon : Polygon) : Bool :=
  polygon.exterior.coords.isEmpty

def coords (polygon : Polygon) : List Coordinate :=
  polygon.rings.flatMap Ring.coords

def ieeeEq (left right : Polygon) : Bool :=
  left.exterior.ieeeEq right.exterior &&
    left.interiors.isEqv right.interiors Ring.ieeeEq

end Polygon

namespace Geometry

/-- Induction over geometry trees, with the hypothesis for every member of a collection. -/
@[induction_eliminator]
theorem memberInduction {motive : Geometry → Prop}
    (point : ∀ point, motive (.point point))
    (lineString : ∀ line, motive (.lineString line))
    (linearRing : ∀ ring, motive (.linearRing ring))
    (polygon : ∀ polygon, motive (.polygon polygon))
    (multiPoint : ∀ points, motive (.multiPoint points))
    (multiLineString : ∀ lines, motive (.multiLineString lines))
    (multiPolygon : ∀ polygons, motive (.multiPolygon polygons))
    (collection : ∀ members, (∀ member ∈ members, motive member) → motive (.collection members))
    (geometry : Geometry) : motive geometry :=
  @Geometry.rec motive (fun members => ∀ member ∈ members, motive member)
    point lineString linearRing polygon multiPoint multiLineString multiPolygon collection
    (List.forall_mem_nil _)
    (fun _ _ headHolds restHold => List.forall_mem_cons.mpr ⟨headHolds, restHold⟩)
    geometry

/-- The kind a geometry has on the wire, where a linear ring is a line string. -/
def kind : Geometry → Kind
  | .point _ => .point
  | .lineString _ | .linearRing _ => .lineString
  | .polygon _ => .polygon
  | .multiPoint _ => .multiPoint
  | .multiLineString _ => .multiLineString
  | .multiPolygon _ => .multiPolygon
  | .collection _ => .collection

/-- The direct members of a multi-geometry or collection as geometries; none for other kinds. -/
def members : Geometry → List Geometry
  | .multiPoint points => points.map .point
  | .multiLineString lines => lines.map .lineString
  | .multiPolygon polygons => polygons.map .polygon
  | .collection members => members
  | .point _ | .lineString _ | .linearRing _ | .polygon _ => []

/-- The number of direct members of a multi-geometry or collection, and 1 for other kinds. -/
def elementCount : Geometry → Nat
  | .multiPoint points => points.length
  | .multiLineString lines => lines.length
  | .multiPolygon polygons => polygons.length
  | .collection members => members.length
  | .point _ | .lineString _ | .linearRing _ | .polygon _ => 1

end Geometry

/-- A geometry tree with the identifier of the spatial reference system of all its coordinates. -/
structure ReferencedGeometry where
  srid : Int32
  geometry : Geometry
deriving Repr

namespace ReferencedGeometry

/-- The identifier that says there is none. It is never written. -/
def noSrid : Int32 :=
  -1

def unreferenced (geometry : Geometry) : ReferencedGeometry :=
  ⟨noSrid, geometry⟩

def hasSrid (value : ReferencedGeometry) : Bool :=
  value.srid != noSrid

end ReferencedGeometry

end GeoWire
