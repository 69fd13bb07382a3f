import GeoWire.Geometry.Flat
import GeoWire.Proofs.PlanarClosure
import Mathlib.Data.List.Basic
import Mathlib.Logic.Function.Iterate

/-!
# Trips to the plane

A tree that is taken to the plane and back keeps its X and Y. Only the rings of its polygons may
change: one that starts at a NaN gains a coordinate on every trip, because the plane never finds it
closed.
-/

set_option autoImplicit false

namespace GeoWire

/-!
## Flat trees
-/

namespace Geometry

theorem polygonRings_flattenWith (rebuild : Ring → Ring) (geometry : Geometry) :
    (geometry.flattenWith rebuild).polygonRings = geometry.polygonRings.map rebuild := by
  induction geometry with
  | point pt => cases held : pt.coord? <;> simp [flattenWith, polygonRings, held]
  | lineString | linearRing | multiPoint | multiLineString => rfl
  | polygon poly => rfl
  | multiPolygon polygons =>
      rw [flattenWith, polygonRings, polygonRings, List.flatMap_map, List.map_flatMap]
      rfl
  | collection members ih =>
      rw [flattenWith, polygonRings, polygonRings, polygonRingsOf_eq, polygonRingsOf_eq,
        flattenAllWith_eq, List.flatMap_map, List.map_flatMap]
      exact List.flatMap_congr ih

/-- Two ways to rebuild rings make the same tree only if they agree on every ring of a polygon. -/
theorem flattenWith_eq_iff {first second : Ring → Ring} {geometry : Geometry} :
    geometry.flattenWith first = geometry.flattenWith second ↔
      ∀ ring ∈ geometry.polygonRings, first ring = second ring := by
  constructor
  · intro same
    have rings := congrArg polygonRings same
    rw [polygonRings_flattenWith, polygonRings_flattenWith] at rings
    exact List.map_inj_left.mp rings
  · intro agree
    have polygons {poly : Polygon} (agree : ∀ ring ∈ poly.rings, first ring = second ring) :
        poly.mapRings first = poly.mapRings second :=
      Polygon.eq_of_rings_eq (List.map_congr_left agree)
    induction geometry with
    | point | lineString | linearRing | multiPoint | multiLineString => rfl
    | polygon poly => exact congrArg polygon (polygons agree)
    | multiPolygon members =>
        rw [polygonRings, List.forall_mem_flatMap] at agree
        exact congrArg multiPolygon
          (List.map_congr_left fun poly belongs => polygons (agree poly belongs))
    | collection members ih =>
        rw [polygonRings, polygonRingsOf_eq, List.forall_mem_flatMap] at agree
        rw [flattenWith, flattenWith, flattenAllWith_eq, flattenAllWith_eq]
        exact congrArg collection
          (List.map_congr_left fun member belongs => ih member belongs (agree member belongs))

theorem flattenWith_flattenWith (first second : Ring → Ring) (geometry : Geometry) :
    (geometry.flattenWith first).flattenWith second = geometry.flattenWith (second ∘ first) := by
  have polygons (poly : Polygon) :
      (poly.mapRings first).mapRings second = poly.mapRings (second ∘ first) := by
    simp [Polygon.mapRings]
  induction geometry with
  | point pt =>
      cases held : pt.coord? with
      | none => simp [flattenWith, held]
      | some coord => simp [flattenWith, held, Coordinate.project_project]
  | lineString line => exact congrArg lineString (LineString.project_project .xy line)
  | linearRing ring => exact congrArg lineString (LineString.project_project .xy ring.coords)
  | polygon poly => exact congrArg polygon (polygons poly)
  | multiPoint points =>
      have kept : (fun pt : Point => pt.coord?.isSome) ∘ Point.project .xy =
          fun pt => pt.coord?.isSome := by
        funext pt
        simp [Point.project]
      rw [flattenWith, flattenWith, flattenWith, List.filter_map, kept, List.filter_filter,
        List.map_map]
      simp only [Bool.and_self]
      refine congrArg multiPoint (List.map_congr_left fun pt _ => pt.project_project .xy)
  | multiLineString lines =>
      rw [flattenWith, flattenWith, flattenWith, List.map_map]
      exact congrArg multiLineString
        (List.map_congr_left fun line _ => LineString.project_project .xy line)
  | multiPolygon members =>
      rw [flattenWith, flattenWith, flattenWith, List.map_map]
      exact congrArg multiPolygon (List.map_congr_left fun poly _ => polygons poly)
  | collection members ih =>
      simp only [flattenWith, flattenAllWith_eq, List.map_map]
      exact congrArg collection (List.map_congr_left ih)

theorem isEmpty_flattenWith {rebuild : Ring → Ring}
    (sameEmpty : ∀ ring, (rebuild ring).coords.isEmpty = ring.coords.isEmpty) (geometry : Geometry) :
    (geometry.flattenWith rebuild).isEmpty = geometry.isEmpty := by
  induction geometry with
  | point pt =>
      rw [flattenWith, isEmpty, Point.isEmpty]
      cases pt.coord? <;> rfl
  | lineString line => simp [flattenWith, isEmpty, LineString.project]
  | linearRing ring => simp [flattenWith, isEmpty, LineString.project]
  | polygon poly => exact sameEmpty poly.exterior
  | multiPoint points =>
      rw [flattenWith, isEmpty, isEmpty, List.all_map, List.all_filter]
      refine List.all_congr rfl fun pt => ?_
      rw [Function.comp_apply, pt.isEmpty_project]
      cases held : pt.coord? <;> simp [Point.isEmpty, held]
  | multiLineString lines =>
      rw [flattenWith, isEmpty, isEmpty, List.all_map]
      exact List.all_congr rfl fun line => List.isEmpty_map
  | multiPolygon polygons =>
      rw [flattenWith, isEmpty, isEmpty, List.all_map]
      exact List.all_congr rfl fun poly => sameEmpty poly.exterior
  | collection members ih =>
      rw [flattenWith, isEmpty, isEmpty, areEmpty_eq, areEmpty_eq, flattenAllWith_eq, List.all_map,
        Bool.eq_iff_iff, List.all_eq_true, List.all_eq_true]
      apply forall₂_congr
      intro member belongs
      rw [Function.comp_apply, ih member belongs]

end Geometry

/-!
## Rings in the plane
-/

theorem LineString.toLineString_toPlanar (line : LineString) :
    (LineString.toPlanar line).toLineString = LineString.project .xy line := by
  rw [toPlanar, Planar.Path.toLineString, List.map_map]
  rfl

namespace Ring

/-- Whether X or Y of the first coordinate is a NaN. -/
def startsAtNaN (ring : Ring) : Bool :=
  ring.coords.head?.any fun first => first.toPlanar.hasNaN

/-- A ring of a polygon taken to the plane and back. -/
def throughPlane (ring : Ring) : Ring :=
  Planar.Path.toRing (Planar.Path.close (LineString.toPlanar ring.coords))

/-- The plane finds a ring closed unless it starts at a NaN. -/
theorem isClosed_toPlanar (ring : Ring) :
    Planar.Path.isClosed (LineString.toPlanar ring.coords) = !ring.startsAtNaN := by
  unfold Planar.Path.isClosed startsAtNaN
  rw [LineString.toPlanar, List.head?_map, List.getLast?_map]
  cases head : ring.coords.head? with
  | none => rfl
  | some first =>
      cases final : ring.coords.getLast? with
      | none =>
          rw [List.getLast?_eq_none_iff] at final
          rw [final] at head
          cases head
      | some last =>
          have coincide := ring.ends_coincide first head last final
          simp only [Coordinate.coincides, Coordinate.matchWith, Bool.and_eq_true] at coincide
          obtain ⟨⟨⟨xs, ys⟩, _⟩, _⟩ := coincide
          simp [Planar.Position.ieeeEq, Planar.Position.hasNaN, Coordinate.toPlanar,
            Ordinate.ieeeEq_of_coincides xs, Ordinate.ieeeEq_of_coincides ys]

/-- The first coordinate is written once more if it has a NaN, and nothing else is added. -/
theorem coords_throughPlane (ring : Ring) :
    ring.throughPlane.coords = LineString.project .xy
      (ring.coords ++ if ring.startsAtNaN then ring.coords.head?.toList else []) := by
  unfold throughPlane
  rw [Planar.Path.coords_toRing (Planar.Path.isClosed_toLineString_close _), Planar.Path.close_eq,
    isClosed_toPlanar, ← LineString.toLineString_toPlanar]
  cases ring.startsAtNaN with
  | false => rw [Bool.not_false, if_pos rfl, if_neg Bool.false_ne_true, List.append_nil]
  | true =>
      have start : (LineString.toPlanar ring.coords).head?.toList =
          LineString.toPlanar ring.coords.head?.toList := by
        cases ring.coords <;> rfl
      rw [Bool.not_true, if_neg Bool.false_ne_true, if_pos rfl, start]
      exact congrArg Planar.Path.toLineString List.map_append.symm

theorem startsAtNaN_throughPlane (ring : Ring) :
    ring.throughPlane.startsAtNaN = ring.startsAtNaN := by
  unfold startsAtNaN
  rw [coords_throughPlane]
  cases ring.coords with
  | nil => simp [LineString.project]
  | cons first rest => rfl

theorem length_throughPlane (ring : Ring) :
    ring.throughPlane.coords.length = ring.coords.length + ring.startsAtNaN.toNat := by
  rw [coords_throughPlane, LineString.project, List.length_map, List.length_append]
  cases unplaced : ring.startsAtNaN with
  | false => rfl
  | true =>
      cases held : ring.coords with
      | nil => simp [startsAtNaN, held] at unplaced
      | cons first rest => rfl

theorem isEmpty_throughPlane (ring : Ring) :
    ring.throughPlane.coords.isEmpty = ring.coords.isEmpty := by
  rw [coords_throughPlane]
  cases ring.coords <;> simp [LineString.project]

theorem throughPlane_eq_project {ring : Ring} (placed : ring.startsAtNaN = false) :
    ring.throughPlane = ring.project .xy := by
  apply Ring.ext
  rw [coords_throughPlane, placed, if_neg Bool.false_ne_true, List.append_nil]
  rfl

/-- A second trip changes nothing just if the first has added nothing. -/
theorem throughPlane_throughPlane_iff {ring : Ring} :
    ring.throughPlane.throughPlane = ring.throughPlane ↔ ring.startsAtNaN = false := by
  constructor
  · intro same
    -- The number of coordinates tells, since a ring that starts at a NaN still does after one trip.
    have sameLength := congrArg (fun other : Ring => other.coords.length) same
    rw [length_throughPlane, startsAtNaN_throughPlane] at sameLength
    cases unplaced : ring.startsAtNaN with
    | false => rfl
    | true => simp [unplaced] at sameLength
  · intro placed
    have stillPlaced := ring.startsAtNaN_throughPlane.trans placed
    rw [throughPlane_eq_project stillPlaced, throughPlane_eq_project placed, project_project]

theorem length_iterate_throughPlane (trips : Nat) (ring : Ring) :
    (throughPlane^[trips] ring).coords.length =
      ring.coords.length + trips * ring.startsAtNaN.toNat := by
  induction trips generalizing ring with
  | zero => simp
  | succ trips ih =>
      rw [Function.iterate_succ_apply, ih, length_throughPlane, startsAtNaN_throughPlane,
        Nat.succ_mul]
      omega

end Ring

/-!
## Trees in the plane
-/

namespace Geometry

/-- A geometry taken to the plane and back. -/
def throughPlane (geometry : Geometry) : Geometry :=
  geometry.toPlanar.toGeometry

theorem throughPlane_eq_flattenWith (geometry : Geometry) :
    geometry.throughPlane = geometry.flattenWith Ring.throughPlane := by
  have polygons (poly : Polygon) :
      Planar.Area.toPolygon poly.toPlanar = poly.mapRings Ring.throughPlane := by
    apply Polygon.eq_of_rings_eq
    simp only [Planar.Area.toPolygon, Polygon.toPlanar, Planar.Area.closing, Polygon.rings,
      Polygon.mapRings, List.map_map]
    rfl
  unfold throughPlane
  induction geometry with
  | point pt =>
      rw [toPlanar, flattenWith]
      cases pt.coord? <;> rfl
  | lineString line => exact congrArg lineString (LineString.toLineString_toPlanar line)
  | linearRing ring => exact congrArg lineString (LineString.toLineString_toPlanar ring.coords)
  | polygon poly => exact congrArg polygon (polygons poly)
  | multiPoint points =>
      apply congrArg multiPoint
      induction points with
      | nil => rfl
      | cons pt rest ih =>
          cases held : pt.coord? with
          | none => simpa [held] using ih
          | some coord =>
              simp only [List.filterMap_cons, List.filter_cons, held, Option.map_some,
                Option.isSome_some, if_true, List.map_cons, ih, Point.project]
              rfl
  | multiLineString lines =>
      rw [toPlanar, Planar.Shape.toGeometry, Planar.Shape.toGeometryWith, flattenWith, List.map_map]
      exact congrArg multiLineString
        (List.map_congr_left fun line _ => LineString.toLineString_toPlanar line)
  | multiPolygon members =>
      rw [toPlanar, Planar.Shape.toGeometry, Planar.Shape.toGeometryWith, flattenWith, List.map_map]
      exact congrArg multiPolygon (List.map_congr_left fun poly _ => polygons poly)
  | collection members ih =>
      rw [toPlanar, Planar.Shape.toGeometry, Planar.Shape.toGeometryWith, flattenWith, allToPlanar_eq,
        Planar.Shape.allToGeometryWith_eq, flattenAllWith_eq, List.map_map]
      exact congrArg collection (List.map_congr_left ih)

theorem polygonRings_iterate_throughPlane (trips : Nat) (geometry : Geometry) :
    (throughPlane^[trips] geometry).polygonRings =
      geometry.polygonRings.map Ring.throughPlane^[trips] := by
  induction trips generalizing geometry with
  | zero => exact (List.map_id _).symm
  | succ trips ih =>
      rw [Function.iterate_succ_apply, ih, throughPlane_eq_flattenWith, polygonRings_flattenWith,
        List.map_map]
      rfl

/-- A second trip to the plane and back changes nothing just if no ring of a polygon starts at a NaN.
A ring that does gains one coordinate on every trip, and every other ring keeps its number. -/
theorem throughPlane_stable (geometry : Geometry) :
    (geometry.throughPlane.throughPlane = geometry.throughPlane ↔
      ∀ ring ∈ geometry.polygonRings, ring.startsAtNaN = false) ∧
    ∀ trips : Nat,
      (throughPlane^[trips] geometry).polygonRings.map (fun ring => ring.coords.length) =
        geometry.polygonRings.map fun ring =>
          ring.coords.length + trips * ring.startsAtNaN.toNat := by
  constructor
  · rw [throughPlane_eq_flattenWith geometry, throughPlane_eq_flattenWith, flattenWith_flattenWith,
      flattenWith_eq_iff]
    exact forall₂_congr fun ring _ => Ring.throughPlane_throughPlane_iff
  · intro trips
    rw [polygonRings_iterate_throughPlane, List.map_map]
    exact List.map_congr_left fun ring _ => ring.length_iterate_throughPlane trips

/-- A ring of two equal positions with a NaN has three of them after one trip and four after two. -/
theorem throughPlane_not_stable :
    let ring : Ring := ⟨[.xy .missing ⟨0⟩, .xy .missing ⟨0⟩], rfl⟩
    let geometry : Geometry := .polygon ⟨ring, []⟩
    geometry.throughPlane.throughPlane ≠ geometry.throughPlane ∧
      geometry.throughPlane.polygonRings.map (fun ring => ring.coords.length) ≠
        geometry.polygonRings.map fun ring => ring.coords.length := by
  intro ring geometry
  constructor
  · intro same
    have sameLengths :=
      congrArg (fun tree => tree.polygonRings.map fun ring => ring.coords.length) same
    exact absurd sameLengths (by decide)
  · decide

/-- On a tree whose rings start at numbers a trip to the plane removes Z, M and the points without a
coordinate and makes line strings of linear rings, and that is all. -/
theorem throughPlane_eq_flat {geometry : Geometry}
    (placed : ∀ ring ∈ geometry.polygonRings, ∀ first ∈ ring.coords.head?,
      first.x.isNaN = false ∧ first.y.isNaN = false) :
    geometry.toPlanar.toGeometry = geometry.flat ∧
      geometry.toPlanar.toGeometry.isEmpty = geometry.isEmpty := by
  have rings : ∀ ring ∈ geometry.polygonRings, ring.throughPlane = ring.project .xy := by
    intro ring belongs
    apply Ring.throughPlane_eq_project
    rw [Ring.startsAtNaN, Option.any_eq_false]
    intro first isFirst
    obtain ⟨x, y⟩ := placed ring belongs first isFirst
    simp [Planar.Position.hasNaN, Coordinate.toPlanar, x, y]
  change geometry.throughPlane = geometry.flat ∧ geometry.throughPlane.isEmpty = geometry.isEmpty
  rw [throughPlane_eq_flattenWith]
  exact ⟨flattenWith_eq_iff.mpr rings, isEmpty_flattenWith Ring.isEmpty_throughPlane geometry⟩

/-- A linear ring, a multi-point with a point of no coordinate and one of two NaN, and a multi-polygon
whose ring is closed by zeros of both signs and by NaN of Z, with an empty hole. -/
theorem throughPlane_eq_flat_nested :
    let ring : Ring :=
      ⟨[.xyz ⟨1⟩ ⟨0⟩ .missing, .xyz ⟨1⟩ ⟨2⟩ ⟨5⟩,
        .xyz ⟨1⟩ ⟨0x8000000000000000⟩ ⟨0x7ff8000000000001⟩], rfl⟩
    let flatRing : Ring := ⟨[.xy ⟨1⟩ ⟨0⟩, .xy ⟨1⟩ ⟨2⟩, .xy ⟨1⟩ ⟨0x8000000000000000⟩], rfl⟩
    let unplaced : Point := ⟨some (.xy .missing .missing)⟩
    let geometry : Geometry :=
      .collection [.linearRing ring, .collection [.point .empty], .multiPoint [.empty, unplaced],
        .multiPolygon [⟨ring, [.empty]⟩]]
    geometry.toPlanar.toGeometry =
        .collection [.lineString flatRing.coords, .collection [.multiPoint []],
          .multiPoint [unplaced], .multiPolygon [⟨flatRing, [.empty]⟩]] ∧
      geometry.toPlanar.toGeometry.isEmpty = false := by
  intro ring flatRing unplaced geometry
  have placed : ∀ ring ∈ geometry.polygonRings, ∀ first ∈ ring.coords.head?,
      first.x.isNaN = false ∧ first.y.isNaN = false := by
    decide
  exact throughPlane_eq_flat placed

end Geometry

end GeoWire
