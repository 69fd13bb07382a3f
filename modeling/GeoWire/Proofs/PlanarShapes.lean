import GeoWire.Geometry.Node
import GeoWire.Planar.Parts
import GeoWire.Proofs.EncodingOutcome
import GeoWire.Proofs.PlanarClosure
import Mathlib.Data.List.Basic

/-!
# Shapes as geometries

A shape whose areas are closed comes back from its geometry as it was, with segments, rectangles and
triangles spelled out. Its geometry is planar and has rings that are closed numerically.
-/

set_option autoImplicit false

namespace GeoWire

/-!
## Closed areas
-/

namespace Planar

def Area.IsClosed (area : Area) : Prop :=
  ∀ path ∈ area.paths, path.isClosed = true

theorem Area.paths_closing (outline : Path) (holes : List Path) :
    (closing outline holes).paths = (outline :: holes).map Path.close :=
  rfl

/-- Areas are closed by their construction if no path starts at a NaN. -/
theorem Area.isClosed_closing {outline : Path} {holes : List Path}
    (placed : ∀ path ∈ outline :: holes, ∀ first ∈ path.head?, first.hasNaN = false) :
    (closing outline holes).IsClosed := by
  rw [IsClosed, paths_closing, List.forall_mem_map]
  exact fun path belongs => Path.isClosed_close (placed path belongs)

/-- An area without holes that was built of a path from one of the corners. -/
def Area.BeginsAt (corners : List Position) (area : Area) : Prop :=
  ∃ first ∈ corners, ∃ rest, area = .closing (first :: rest) []

theorem Area.BeginsAt.isClosed {corners : List Position} {area : Area} (begins : area.BeginsAt corners)
    (placed : ∀ corner ∈ corners, corner.hasNaN = false) : area.IsClosed := by
  obtain ⟨first, isCorner, rest, rfl⟩ := begins
  apply isClosed_closing
  intro path belongs start isStart
  obtain rfl := List.mem_singleton.mp belongs
  cases isStart
  exact placed first isCorner

/-- The areas of rectangles and triangles begin at their corners. -/
structure Outlines.BeginAtCorners (outlines : Outlines) : Prop where
  rectangle : ∀ box : Rectangle, (outlines.rectangle box).BeginsAt box.corners
  triangle : ∀ wedge : Triangle, (outlines.triangle wedge).BeginsAt wedge.corners

theorem Outlines.standard_beginAtCorners : standard.BeginAtCorners where
  rectangle := fun box => ⟨⟨box.high.x, box.low.y⟩, .head _, _, rfl⟩
  triangle := by
    intro wedge
    change wedge.toArea.BeginsAt wedge.corners
    unfold Triangle.toArea
    split
    · exact ⟨wedge.third, .tail _ (.tail _ (.head _)), _, rfl⟩
    · exact ⟨wedge.first, .head _, _, rfl⟩

/-- All areas of a shape are closed once they were built without a NaN at the start. -/
theorem Shape.isClosed_of_built {outlines : Outlines} (cornerFirst : outlines.BeginAtCorners)
    {shape : Shape}
    (built : ∀ area ∈ shape.areas, ∃ outline holes, area = .closing outline holes)
    (placed : ∀ area ∈ shape.areas, ∀ path ∈ area.paths, ∀ first ∈ path.head?,
      first.hasNaN = false)
    (cornered : ∀ corner ∈ shape.corners, corner.hasNaN = false) :
    ∀ area ∈ (shape.spelledOut outlines).areas, area.IsClosed := by
  have held : ∀ area ∈ shape.areas, area.IsClosed := by
    intro area belongs
    obtain ⟨outline, holes, rfl⟩ := built area belongs
    apply Area.isClosed_closing
    intro path isPath first isFirst
    exact placed _ belongs path.close (List.mem_map_of_mem isPath) first
      (path.head?_close.trans isFirst)
  -- Members inherit that the areas are closed; how they were built is not needed below the root.
  clear built placed
  induction shape with
  | point | segment | path | multiPoint | multiPath => exact List.forall_mem_nil _
  | area bounded => exact held
  | multiArea areas => exact held
  | rectangle box =>
      exact List.forall_mem_singleton.mpr ((cornerFirst.rectangle box).isClosed cornered)
  | triangle wedge =>
      exact List.forall_mem_singleton.mpr ((cornerFirst.triangle wedge).isClosed cornered)
  | collection members ih =>
      rw [areas, areasOf_eq, List.forall_mem_flatMap] at held
      rw [corners, cornersOf_eq, List.forall_mem_flatMap] at cornered
      rw [areas_spelledOut_collection, List.forall_mem_flatMap]
      exact fun member isMember =>
        ih member isMember (cornered member isMember) (held member isMember)

/-!
## Back to the shape
-/

theorem Path.toPlanar_toRing {path : Path} (closed : path.isClosed = true) :
    Path.close (LineString.toPlanar path.toRing.coords) = path := by
  rw [coords_toRing (isClosed_toLineString closed), toPlanar_toLineString, close_of_isClosed closed]

theorem Area.toPlanar_toPolygon {area : Area} (closed : area.IsClosed) :
    area.toPolygon.toPlanar = area := by
  obtain ⟨outline, holes⟩ := area
  obtain ⟨outlineClosed, holesClosed⟩ := List.forall_mem_cons.mp closed
  have sameHoles : holes.map (fun path => Path.close (LineString.toPlanar path.toRing.coords)) =
      holes :=
    (List.map_congr_left fun path belongs => Path.toPlanar_toRing (holesClosed path belongs)).trans
      (List.map_id holes)
  rw [toPolygon, Polygon.toPlanar, closing, Path.toPlanar_toRing outlineClosed, List.map_map,
    List.map_map]
  exact congrArg (Area.mk outline) sameHoles

theorem Shape.toPlanar_toGeometry_of_closed {outlines : Outlines} {shape : Shape}
    (closed : ∀ area ∈ (shape.spelledOut outlines).areas, area.IsClosed) :
    (shape.toGeometryWith outlines).toPlanar = shape.spelledOut outlines := by
  induction shape with
  | point position => rfl
  | segment first last => rfl
  | path line => exact congrArg Shape.path line.toPlanar_toLineString
  | area bounded =>
      exact congrArg Shape.area (Area.toPlanar_toPolygon (List.forall_mem_singleton.mp closed))
  | multiPoint positions =>
      rw [toGeometryWith, Geometry.toPlanar, List.filterMap_map]
      refine congrArg Shape.multiPoint ?_
      exact List.filterMap_some
  | multiPath paths =>
      rw [toGeometryWith, Geometry.toPlanar, List.map_map]
      refine congrArg Shape.multiPath ((List.map_congr_left fun path _ => ?_).trans (List.map_id _))
      exact path.toPlanar_toLineString
  | multiArea areas =>
      rw [toGeometryWith, Geometry.toPlanar, List.map_map]
      refine congrArg Shape.multiArea
        ((List.map_congr_left fun area belongs => ?_).trans (List.map_id _))
      exact Area.toPlanar_toPolygon (closed area belongs)
  | rectangle box =>
      exact congrArg Shape.area (Area.toPlanar_toPolygon (List.forall_mem_singleton.mp closed))
  | triangle corners =>
      exact congrArg Shape.area (Area.toPlanar_toPolygon (List.forall_mem_singleton.mp closed))
  | collection members ih =>
      rw [areas_spelledOut_collection, List.forall_mem_flatMap] at closed
      rw [toGeometryWith, Geometry.toPlanar, Geometry.allToPlanar_eq, allToGeometryWith_eq, List.map_map,
        spelledOut, allSpelledOut_eq]
      exact congrArg Shape.collection
        (List.map_congr_left fun member isMember => ih member isMember (closed member isMember))

end Planar

/-!
## Planar geometries
-/

/-- A geometry in the form in which geometries come from the plane. -/
structure Geometry.PlaneFormed (node : Geometry) : Prop where
  uniform : ∀ coord ∈ node.ownCoords, coord.dimension = .xy
  closed : ∀ ring ∈ node.ownRings, ∀ first ∈ ring.coords.head?, ∀ last ∈ ring.coords.getLast?,
    first.ieeeEq last = true

namespace Planar

theorem Position.ieeeEq_toCoordinate (left right : Position) :
    left.toCoordinate.ieeeEq right.toCoordinate = left.ieeeEq right := by
  simp [toCoordinate, Coordinate.xy, Coordinate.ieeeEq, Coordinate.matchWith, ieeeEq,
    Ordinate.matchOptional]

theorem Path.dimension_of_mem_toLineString {path : Path} {coord : Coordinate}
    (held : coord ∈ path.toLineString) : coord.dimension = .xy := by
  obtain ⟨position, _, rfl⟩ := List.mem_map.mp held
  rfl

theorem Area.rings_toPolygon (area : Area) : area.toPolygon.rings = area.paths.map Path.toRing :=
  rfl

theorem Area.planeFormed {area : Area} (closed : area.IsClosed) :
    (Geometry.polygon area.toPolygon).PlaneFormed := by
  have paths {ring : Ring} (isRing : ring ∈ area.toPolygon.rings) :
      ∃ path : Path, path.isClosed = true ∧ ring.coords = path.toLineString := by
    obtain ⟨path, belongs, rfl⟩ := List.mem_map.mp (Area.rings_toPolygon area ▸ isRing)
    have pathClosed := closed path belongs
    exact ⟨path, pathClosed, Path.coords_toRing (Path.isClosed_toLineString pathClosed)⟩
  constructor
  · intro coord held
    obtain ⟨ring, isRing, held⟩ := List.mem_flatMap.mp held
    obtain ⟨path, _, same⟩ := paths isRing
    rw [same] at held
    exact Path.dimension_of_mem_toLineString held
  · intro ring isRing
    obtain ⟨path, pathClosed, same⟩ := paths isRing
    rw [same, Path.forall_ends_toLineString]
    intro first isFirst last isLast
    rw [first.ieeeEq_toCoordinate]
    exact Path.isClosed_iff.mp pathClosed first isFirst last isLast

theorem Path.planeFormed (path : Path) : (Geometry.lineString path.toLineString).PlaneFormed where
  uniform := fun _ held => dimension_of_mem_toLineString held
  closed := List.forall_mem_nil _

theorem Position.planeFormed (position : Position) :
    (Geometry.point ⟨some position.toCoordinate⟩).PlaneFormed where
  uniform := List.forall_mem_singleton.mpr rfl
  closed := List.forall_mem_nil _

/-- Every geometry in the tree of a shape is planar and closed. -/
theorem Shape.node_planeFormed {outlines : Outlines} {shape : Shape}
    (closed : ∀ area ∈ (shape.spelledOut outlines).areas, area.IsClosed) :
    ∀ node : Geometry, node.IsNode (shape.toGeometryWith outlines) → node.PlaneFormed := by
  have leaf {tree : Geometry} (memberless : tree.members = []) (formed : tree.PlaneFormed) :
      ∀ node : Geometry, node.IsNode tree → node.PlaneFormed := by
    rw [Geometry.forall_isNode_iff, memberless]
    exact ⟨formed, List.forall_mem_nil _⟩
  have branch {tree : Geometry} (noCoords : tree.ownCoords = []) (noRings : tree.ownRings = [])
      (inner : ∀ member ∈ tree.members, ∀ node : Geometry,
        node.IsNode member → node.PlaneFormed) :
      ∀ node : Geometry, node.IsNode tree → node.PlaneFormed := by
    refine Geometry.forall_isNode_iff.mpr ⟨⟨?_, ?_⟩, inner⟩
    · rw [noCoords]
      exact List.forall_mem_nil _
    · rw [noRings]
      exact List.forall_mem_nil _
  induction shape with
  | point position => exact leaf rfl position.planeFormed
  | segment first last => exact leaf rfl (Path.planeFormed [first, last])
  | path line => exact leaf rfl line.planeFormed
  | area bounded => exact leaf rfl (Area.planeFormed (List.forall_mem_singleton.mp closed))
  | multiPoint positions =>
      apply branch rfl rfl
      rw [toGeometryWith, Geometry.members, List.map_map, List.forall_mem_map]
      exact fun position _ => leaf rfl position.planeFormed
  | multiPath paths =>
      apply branch rfl rfl
      rw [toGeometryWith, Geometry.members, List.map_map, List.forall_mem_map]
      exact fun path _ => leaf rfl path.planeFormed
  | multiArea areas =>
      apply branch rfl rfl
      rw [toGeometryWith, Geometry.members, List.map_map, List.forall_mem_map]
      exact fun area belongs => leaf rfl (Area.planeFormed (closed area belongs))
  | rectangle box => exact leaf rfl (Area.planeFormed (List.forall_mem_singleton.mp closed))
  | triangle corners => exact leaf rfl (Area.planeFormed (List.forall_mem_singleton.mp closed))
  | collection members ih =>
      rw [areas_spelledOut_collection, List.forall_mem_flatMap] at closed
      apply branch rfl rfl
      rw [toGeometryWith, Geometry.members, allToGeometryWith_eq, List.forall_mem_map]
      exact fun member isMember => ih member isMember (closed member isMember)

end Planar

theorem Geometry.anyCoord_xym_of_planeFormed {tree : Geometry}
    (formed : ∀ node : Geometry, node.IsNode tree → node.PlaneFormed) :
    tree.anyCoord (fun coord => coord.dimension == .xym) = false := by
  rw [anyCoord_eq_any_coords, List.any_eq_false]
  intro coord held
  obtain ⟨node, isNode, own, _⟩ := mem_coords_iff.mp held
  rw [(formed node isNode).uniform coord own]
  decide

/-- A shape of areas that were built without a NaN at the start comes back from its geometry with
segments, rectangles and triangles spelled out. Rectangles and triangles may stand for any areas that
begin at their corners, as those of `Outlines.standard` do, with which `toGeometry` is this conversion.
All coordinates of the geometry are planar and all its rings closed, so that it is never refused for a
coordinate with M and no Z. -/
theorem Planar.Shape.toPlanar_toGeometry {outlines : Outlines}
    (cornerFirst : outlines.BeginAtCorners) {shape : Shape}
    (built : ∀ area ∈ shape.areas, ∃ outline holes, area = .closing outline holes)
    (placed : ∀ area ∈ shape.areas, ∀ path ∈ area.paths, ∀ first ∈ path.head?,
      first.hasNaN = false)
    (cornered : ∀ corner ∈ shape.corners, corner.hasNaN = false) :
    (shape.toGeometryWith outlines).toPlanar = shape.spelledOut outlines ∧
      (∀ node : Geometry, node.IsNode (shape.toGeometryWith outlines) → node.PlaneFormed) ∧
      ∀ srid format order limit,
        ReferencedGeometry.encode format order limit ⟨srid, shape.toGeometryWith outlines⟩ ≠
          .error .unsupportedXym := by
  have closed := isClosed_of_built cornerFirst built placed cornered
  have formed := node_planeFormed closed
  refine ⟨toPlanar_toGeometry_of_closed closed, formed, ?_⟩
  intro srid format order limit refused
  have spatial := Geometry.anyCoord_xym_of_planeFormed formed
  rw [ReferencedGeometry.anyCoord_xym_of_encode_eq_error refused] at spatial
  cases spatial

/-- A segment, a nested rectangle, a triangle, a point of two NaN, and an area that was built of an
open path, an empty one and one of a single position. -/
theorem Planar.Shape.toPlanar_toGeometry_mixed :
    let low : Position := ⟨⟨1⟩, ⟨2⟩⟩
    let high : Position := ⟨⟨3⟩, ⟨4⟩⟩
    let apex : Position := ⟨⟨5⟩, ⟨2⟩⟩
    let unplaced : Position := ⟨.missing, .missing⟩
    let built : Area := .closing [low, high, apex] [[], [low]]
    let shape : Shape :=
      .collection [.segment low unplaced, .collection [.rectangle (.between high low)],
        .triangle ⟨low, high, apex⟩, .point unplaced, .multiArea [built]]
    let box : Path := [⟨⟨3⟩, ⟨2⟩⟩, high, ⟨⟨1⟩, ⟨4⟩⟩, low, ⟨⟨3⟩, ⟨2⟩⟩]
    shape.toGeometry.toPlanar =
        .collection [.path [low, unplaced], .collection [.area ⟨box, []⟩],
          .area (Triangle.toArea ⟨low, high, apex⟩), .point unplaced,
          .multiArea [⟨[low, high, apex, low], [[], [low]]⟩]] ∧
      (∀ node : Geometry, node.IsNode shape.toGeometry → node.PlaneFormed) ∧
      ReferencedGeometry.encode .ewkb .big 2 ⟨4326, shape.toGeometry⟩ ≠ .error .unsupportedXym := by
  intro low high apex unplaced built shape box
  have constructed : ∀ area ∈ shape.areas, ∃ outline holes, area = .closing outline holes :=
    List.forall_mem_singleton.mpr ⟨_, _, rfl⟩
  obtain ⟨spelled, formed, accepted⟩ :=
    toPlanar_toGeometry Outlines.standard_beginAtCorners constructed (by decide) (by decide)
  exact ⟨spelled, formed, accepted 4326 .ewkb .big 2⟩

end GeoWire
