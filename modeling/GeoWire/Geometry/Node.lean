import GeoWire.Geometry.Traversal

/-!
The geometries inside a tree and what each of them holds itself. A member of a multi-geometry counts
as a geometry of its own.
-/

set_option autoImplicit false

namespace GeoWire.Geometry

/-- A geometry of a tree: the tree itself, or a geometry of one of its members. -/
inductive IsNode : Geometry → Geometry → Prop where
  | root {tree : Geometry} : IsNode tree tree
  | inside {node member tree : Geometry} :
      member ∈ tree.members → IsNode node member → IsNode node tree

/-- The coordinates that a geometry holds itself, without those of its members. -/
def ownCoords : Geometry → List Coordinate
  | .point pt => pt.coord?.toList
  | .lineString line => line
  | .linearRing ring => ring.coords
  | .polygon poly => poly.coords
  | .multiPoint _ | .multiLineString _ | .multiPolygon _ | .collection _ => []

def ownRings : Geometry → List Ring
  | .linearRing ring => [ring]
  | .polygon poly => poly.rings
  | .point _ | .lineString _ => []
  | .multiPoint _ | .multiLineString _ | .multiPolygon _ | .collection _ => []

/-- Induction that treats the members of a multi-geometry like those of a collection. -/
theorem nodeInduction {motive : Geometry → Prop}
    (step : ∀ tree, (∀ member ∈ tree.members, motive member) → motive tree)
    (tree : Geometry) : motive tree := by
  have memberless {leaf : Geometry} (none : leaf.members = []) : motive leaf := by
    apply step
    rw [none]
    exact List.forall_mem_nil _
  have leaves {α : Type} {items : List α} {form : α → Geometry}
      (none : ∀ item, (form item).members = []) : ∀ member ∈ items.map form, motive member := by
    intro member belongs
    obtain ⟨item, _, rfl⟩ := List.mem_map.mp belongs
    exact memberless (none item)
  induction tree with
  | point | lineString | linearRing | polygon => exact memberless rfl
  | multiPoint | multiLineString | multiPolygon => exact step _ (leaves fun _ => rfl)
  | collection members ih => exact step _ ih

theorem isNode_iff {node tree : Geometry} :
    node.IsNode tree ↔ node = tree ∨ ∃ member ∈ tree.members, node.IsNode member := by
  constructor
  · intro isNode
    cases isNode with
    | root => exact .inl rfl
    | inside belongs isNode => exact .inr ⟨_, belongs, isNode⟩
  · intro place
    rcases place with rfl | ⟨member, belongs, isNode⟩
    · exact .root
    · exact .inside belongs isNode

theorem forall_isNode_iff {property : Geometry → Prop} {tree : Geometry} :
    (∀ node : Geometry, node.IsNode tree → property node) ↔
      property tree ∧
        ∀ member ∈ tree.members, ∀ node : Geometry, node.IsNode member → property node := by
  constructor
  · intro each
    exact ⟨each tree .root, fun member belongs node isNode => each node (.inside belongs isNode)⟩
  · intro parts node isNode
    rcases isNode_iff.mp isNode with rfl | ⟨member, belongs, isNode⟩
    · exact parts.1
    · exact parts.2 member belongs node isNode

end GeoWire.Geometry
