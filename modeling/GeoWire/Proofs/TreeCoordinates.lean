import GeoWire.Geometry.Node

/-!
# Coordinates of a tree

The first coordinate of a tree and the question about some coordinate, both read off the list of all
coordinates, and the geometries of the tree that hold them.
-/

set_option autoImplicit false

namespace GeoWire

namespace Geometry

theorem firstCoord?_eq_head? (geometry : Geometry) :
    geometry.firstCoord? = geometry.coords.head? := by
  induction geometry with
  | point pt => cases held : pt.position? <;> simp [firstCoord?, coords, held]
  | lineString line => rfl
  | linearRing ring => rfl
  | polygon poly => exact List.head?_flatMap.symm
  | multiPoint points => exact List.head?_filterMap.symm
  | multiLineString lines => exact List.head?_flatten.symm
  | multiPolygon polygons =>
      have outlines (poly : Polygon) :
          (poly.rings.findSome? fun ring => ring.coords.head?) = poly.coords.head? :=
        List.head?_flatMap.symm
      simp only [firstCoord?, coords, outlines]
      exact List.head?_flatMap.symm
  | collection members ih =>
      rw [firstCoord?, coords, firstCoordOf?_eq, coordsOf_eq, List.head?_flatMap]
      induction members with
      | nil => rfl
      | cons member rest others =>
          obtain ⟨first, remaining⟩ := List.forall_mem_cons.mp ih
          rw [List.findSome?_cons, List.findSome?_cons, first, others remaining]

theorem anyCoord_eq_any_coords (holds : Coordinate → Bool) (geometry : Geometry) :
    geometry.anyCoord holds = geometry.coords.any holds := by
  induction geometry with
  | point pt => cases held : pt.position? <;> simp [anyCoord, coords, held]
  | lineString line => rfl
  | linearRing ring => rfl
  | polygon poly => exact List.any_flatMap.symm
  | multiPoint points => exact List.any_filterMap.symm
  | multiLineString lines => exact List.any_flatten.symm
  | multiPolygon polygons =>
      have outlines (poly : Polygon) :
          (poly.rings.any fun ring => ring.coords.any holds) = poly.coords.any holds :=
        List.any_flatMap.symm
      simp only [anyCoord, coords, outlines]
      exact List.any_flatMap.symm
  | collection members ih =>
      rw [anyCoord, coords, anyCoordOf_eq, coordsOf_eq, List.any_flatMap]
      induction members with
      | nil => rfl
      | cons member rest others =>
          obtain ⟨first, remaining⟩ := List.forall_mem_cons.mp ih
          rw [List.any_cons, List.any_cons, first, others remaining]

/-- The dimension of a tree is planar or that of one of its coordinates. -/
theorem dimension_eq (geometry : Geometry) :
    geometry.dimension = .xy ∨ ∃ coord ∈ geometry.coords, geometry.dimension = coord.dimension := by
  unfold dimension
  rw [firstCoord?_eq_head?]
  cases first : geometry.coords.head? with
  | none => exact .inl rfl
  | some coord => exact .inr ⟨coord, List.mem_of_head? first, rfl⟩

theorem dimension_eq_of_forall {geometry : Geometry} {dimension : Dimension}
    (inhabited : geometry.coords ≠ [])
    (uniform : ∀ coord ∈ geometry.coords, coord.dimension = dimension) :
    geometry.dimension = dimension := by
  unfold Geometry.dimension
  rw [firstCoord?_eq_head?, List.head?_eq_some_head inhabited]
  exact uniform _ (List.head_mem inhabited)

theorem dimension_eq_of_coords_eq {left right : Geometry} (same : left.coords = right.coords) :
    left.dimension = right.dimension := by
  unfold dimension
  rw [firstCoord?_eq_head?, firstCoord?_eq_head?, same]

theorem dimension_ne_xym {geometry : Geometry}
    (spatial : geometry.anyCoord (fun coord => coord.dimension == .xym) = false) :
    geometry.dimension ≠ .xym := by
  rw [anyCoord_eq_any_coords, List.any_eq_false] at spatial
  intro measured
  rcases geometry.dimension_eq with planar | ⟨coord, member, same⟩
  · rw [planar] at measured
    cases measured
  · rw [same] at measured
    exact spatial coord member (by simp [measured])

theorem mem_coords_iff_own_or_member {tree : Geometry} {coord : Coordinate} :
    coord ∈ tree.coords ↔
      (coord ∈ tree.ownCoords ∧ ∀ pt, tree = .point pt → pt.isEmpty = false) ∨
        ∃ member ∈ tree.members, coord ∈ member.coords := by
  cases tree with
  | point pt =>
      cases isEmpty : pt.isEmpty <;>
        simp [coords, ownCoords, members, Point.position?, isEmpty]
  | lineString | linearRing | polygon => simp [coords, ownCoords, members]
  | multiPoint | multiLineString | multiPolygon =>
      rw [← List.mem_flatMap, members, List.flatMap_map]
      simp [coords, ownCoords]
  | collection members => simp [coords, ownCoords, Geometry.members, coordsOf_eq]

theorem mem_coords_iff {tree : Geometry} {coord : Coordinate} :
    coord ∈ tree.coords ↔ ∃ node : Geometry, node.IsNode tree ∧ coord ∈ node.ownCoords ∧
      ∀ pt, node = .point pt → pt.isEmpty = false := by
  induction tree using nodeInduction with
  | step tree ih =>
      rw [mem_coords_iff_own_or_member]
      constructor
      · intro held
        rcases held with own | ⟨member, belongs, held⟩
        · exact ⟨tree, .root, own⟩
        · obtain ⟨node, isNode, own⟩ := (ih member belongs).mp held
          exact ⟨node, .inside belongs isNode, own⟩
      · intro held
        obtain ⟨node, isNode, own⟩ := held
        rcases isNode_iff.mp isNode with rfl | ⟨member, belongs, isNode⟩
        · exact .inl own
        · exact .inr ⟨member, belongs, (ih member belongs).mpr ⟨node, isNode, own⟩⟩

theorem isEmpty_of_coords_eq_nil {tree : Geometry} (none : tree.coords = []) :
    tree.isEmpty = true := by
  have points {pt : Point} (none : pt.position? = .none) : pt.isEmpty = true := by
    obtain ⟨_ | coord⟩ := pt
    · rfl
    · simpa [Point.position?] using none
  have polygons {poly : Polygon} (none : poly.coords = []) : poly.isEmpty = true := by
    have outline := List.flatMap_eq_nil_iff.mp none poly.exterior (.head _)
    simp [Polygon.isEmpty, outline]
  induction tree with
  | point pt => exact points (by simpa [coords] using none)
  | lineString line => simpa [isEmpty, coords] using none
  | linearRing ring => simpa [isEmpty, coords] using none
  | polygon poly => exact polygons none
  | multiPoint members =>
      rw [coords, List.filterMap_eq_nil_iff] at none
      exact List.all_eq_true.mpr fun pt belongs => points (none pt belongs)
  | multiLineString lines => simpa [isEmpty, coords] using none
  | multiPolygon members =>
      rw [coords, List.flatMap_eq_nil_iff] at none
      exact List.all_eq_true.mpr fun poly belongs => polygons (none poly belongs)
  | collection members ih =>
      rw [coords, coordsOf_eq, List.flatMap_eq_nil_iff] at none
      rw [isEmpty, areEmpty_eq]
      exact List.all_eq_true.mpr fun member belongs => ih member belongs (none member belongs)

end Geometry

end GeoWire
