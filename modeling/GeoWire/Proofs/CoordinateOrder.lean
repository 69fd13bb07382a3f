import GeoWire.Geometry.Count
import GeoWire.Proofs.PassAgreement
import GeoWire.Proofs.TreeCoordinates
import Mathlib.Data.List.Basic

/-!
# Order of coordinates

All questions about a tree go over one list of coordinates: the geometries of the tree in depth-first
order, each with the coordinates that it holds itself, without those of empty points. The dimension in
which a tree is written is that of the first coordinate of the list.
-/

set_option autoImplicit false

namespace GeoWire.Geometry

def isEmptyPoint : Geometry → Bool
  | .point pt => pt.isEmpty
  | .lineString _ | .linearRing _ | .polygon _ => false
  | .multiPoint _ | .multiLineString _ | .multiPolygon _ | .collection _ => false

/-- The coordinates that a geometry holds itself, unless it is an empty point. -/
def shownCoords (node : Geometry) : List Coordinate :=
  if node.isEmptyPoint then [] else node.ownCoords

theorem coords_eq_shownCoords_append (tree : Geometry) :
    tree.coords = tree.shownCoords ++ tree.members.flatMap coords := by
  cases tree with
  | point pt =>
      cases isEmpty : pt.isEmpty <;>
        simp [coords, shownCoords, isEmptyPoint, ownCoords, members, Point.position?, isEmpty]
  | lineString | linearRing | polygon =>
      simp [coords, shownCoords, isEmptyPoint, ownCoords, members]
  | multiPoint points =>
      have positions := List.filterMap_eq_flatMap_toList Point.position? points
      simp [coords, shownCoords, isEmptyPoint, ownCoords, members, List.flatMap_map, positions]
  | multiLineString | multiPolygon =>
      simp [coords, shownCoords, isEmptyPoint, ownCoords, members, List.flatMap_map]
  | collection inner =>
      simp [coords, shownCoords, isEmptyPoint, ownCoords, members, coordsOf_eq]

/-- The coordinates of a tree are those of its geometries, one geometry after the other. -/
theorem coords_eq_flatMap_nodes (tree : Geometry) :
    tree.coords = tree.nodes.flatMap shownCoords := by
  induction tree using nodeInduction with
  | step tree ih =>
      have inside : tree.members.flatMap coords =
          (tree.members.flatMap nodes).flatMap shownCoords := by
        simp only [List.flatMap_assoc]
        exact List.flatMap_congr ih
      simp only [coords_eq_shownCoords_append tree, inside, nodes_eq tree, List.flatMap_cons]

theorem dimension_eq_head? (tree : Geometry) :
    tree.dimension = (tree.coords.head?.map Coordinate.dimension).getD .xy := by
  unfold dimension
  rw [firstCoord?_eq_head?]
  cases tree.coords.head? <;> rfl

theorem coords_ne_nil_of_not_isEmpty {tree : Geometry} (inhabited : tree.isEmpty = false) :
    tree.coords ≠ [] := by
  intro none
  rw [isEmpty_of_coords_eq_nil none] at inhabited
  cases inhabited

/-- All traversals of a tree agree on the list of its coordinates in depth-first order. The first
coordinate is its head, some coordinate satisfies a predicate if an element does, and the dimension is
that of the head. The list is empty for empty trees only, so that a tree is written in the dimension of
one of its coordinates, and in none that has no wire form. -/
theorem traversals_agree (tree : Geometry) :
    tree.coords = tree.nodes.flatMap shownCoords ∧
    tree.firstCoord? = tree.coords.head? ∧
    (∀ holds : Coordinate → Bool,
      tree.anyCoord holds = true ↔ ∃ coord ∈ tree.coords, holds coord = true) ∧
    tree.dimension = (tree.coords.head?.map Coordinate.dimension).getD .xy ∧
    (tree.isEmpty = false →
      ∃ first, tree.coords.head? = some first ∧ tree.dimension = first.dimension) ∧
    ((∀ coord ∈ tree.coords, coord.dimension ≠ .xym) → tree.dimension ≠ .xym) ∧
    ∀ srid format limit plan, ReferencedGeometry.plan format limit ⟨srid, tree⟩ = .ok (some plan) →
      (∃ first, tree.coords.head? = some first ∧ plan.layout.dimension = first.dimension) ∧
        plan.layout.dimension ≠ .xym := by
  have headed (inhabited : tree.isEmpty = false) :
      ∃ first, tree.coords.head? = some first ∧ tree.dimension = first.dimension := by
    have first := List.head?_eq_some_head (coords_ne_nil_of_not_isEmpty inhabited)
    refine ⟨_, first, ?_⟩
    rw [dimension_eq_head?, first]
    rfl
  refine ⟨tree.coords_eq_flatMap_nodes, tree.firstCoord?_eq_head?, ?_, tree.dimension_eq_head?,
    headed, ?_, ?_⟩
  · intro holds
    rw [anyCoord_eq_any_coords, List.any_eq_true]
  · intro spatial
    apply dimension_ne_xym
    rw [anyCoord_eq_any_coords, List.any_eq_false]
    intro coord belongs
    simp [spatial coord belongs]
  · intro srid format limit plan planned
    obtain ⟨_, inhabited, spatial, sameLayout, _⟩ := ReferencedGeometry.plan_eq_ok_some planned
    have settled : plan.layout.dimension = tree.dimension := by rw [sameLayout]; rfl
    obtain ⟨first, isHead, sameDimension⟩ := headed inhabited
    exact ⟨⟨first, isHead, settled.trans sameDimension⟩, settled ▸ dimension_ne_xym spatial⟩

/-- A tree that opens with empty members: a NaN position that is measured, an empty collection, and a
polygon whose only coordinates are those of a hole. -/
theorem traversals_agree_emptyMembers :
    let nan : Ordinate := .missing
    let blank : Point := ⟨some ⟨nan, nan, none, some ⟨0⟩⟩⟩
    let corner : Coordinate := .xyz ⟨0⟩ ⟨1⟩ ⟨2⟩
    let hole : Ring := ⟨[corner, corner], by decide⟩
    let last : Coordinate := .xy ⟨3⟩ ⟨4⟩
    let tree : Geometry := .collection [.multiPoint [.empty, blank], .collection [],
      .polygon ⟨.empty, [hole]⟩, .lineString [last]]
    tree.isEmpty = false ∧ tree.firstCoord? = some corner ∧
      tree.anyCoord (· == last) = true ∧ tree.dimension = .xyz ∧
      ∃ plan, ReferencedGeometry.plan .wkb 2 ⟨-1, tree⟩ = .ok (some plan) ∧
        plan.layout.dimension = .xyz := by
  intro nan blank corner hole last tree
  obtain ⟨listed, first, any, _, headed, _, written⟩ := traversals_agree tree
  have enumerated : tree.coords = [corner, corner, last] := by
    rw [listed]
    rfl
  have inhabited : tree.isEmpty = false := by decide
  obtain ⟨_, isHead, dimension⟩ := headed inhabited
  rw [enumerated] at first isHead
  cases isHead
  refine ⟨inhabited, first, (any _).mpr ⟨last, by simp [enumerated], by simp⟩, dimension, _, rfl, ?_⟩
  obtain ⟨⟨_, isHead, settled⟩, _⟩ := written (-1) .wkb 2 _ rfl
  rw [enumerated] at isHead
  cases isHead
  exact settled

end GeoWire.Geometry
