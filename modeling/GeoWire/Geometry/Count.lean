import GeoWire.Geometry.Node
import Mathlib.Algebra.GroupWithZero.Nat

/-!
How much a tree holds: the list of its geometries, and from it the numbers of geometries, coordinates
and counts that make up the length of an encoding.
-/

set_option autoImplicit false

namespace GeoWire.Geometry

mutual

/-- The geometries of a tree, each one before its members. -/
def nodes : Geometry → List Geometry
  | .point pt => [.point pt]
  | .lineString line => [.lineString line]
  | .linearRing ring => [.linearRing ring]
  | .polygon poly => [.polygon poly]
  | .multiPoint points => .multiPoint points :: points.map .point
  | .multiLineString lines => .multiLineString lines :: lines.map .lineString
  | .multiPolygon polygons => .multiPolygon polygons :: polygons.map .polygon
  | .collection members => .collection members :: nodesOf members

def nodesOf : List Geometry → List Geometry
  | [] => []
  | member :: rest => member.nodes ++ nodesOf rest

end

/-- The number of counts that a geometry is written with itself, without those of its members. The
rings of a polygon are counted, and so are the coordinates of each of them. -/
def ownCountFields : Geometry → Nat
  | .point _ => 0
  | .lineString _ | .linearRing _ => 1
  | .polygon poly => 1 + poly.rings.length
  | .multiPoint _ | .multiLineString _ | .multiPolygon _ | .collection _ => 1

def nodeCount (tree : Geometry) : Nat :=
  tree.nodes.length

/-- The number of coordinates in all points, lines and rings of a tree. -/
def coordCount (tree : Geometry) : Nat :=
  (tree.nodes.map fun node => node.ownCoords.length).sum

def countFields (tree : Geometry) : Nat :=
  (tree.nodes.map ownCountFields).sum

theorem nodesOf_eq (members : List Geometry) : nodesOf members = members.flatMap nodes := by
  induction members with
  | nil => rfl
  | cons member rest ih => simp [nodesOf, ih]

theorem nodes_eq (tree : Geometry) : tree.nodes = tree :: tree.members.flatMap nodes := by
  cases tree with
  | point | lineString | linearRing | polygon => rfl
  | multiPoint | multiLineString | multiPolygon =>
      rw [nodes, members, List.flatMap_map, List.map_eq_flatMap]
      rfl
  | collection members => exact congrArg (_ :: ·) (nodesOf_eq members)

theorem nodeCount_pos (tree : Geometry) : 0 < tree.nodeCount := by
  rw [nodeCount, nodes_eq]
  exact Nat.succ_pos _

theorem mem_nodes_iff {node tree : Geometry} : node ∈ tree.nodes ↔ node.IsNode tree := by
  induction tree using nodeInduction with
  | step tree ih =>
      rw [nodes_eq, List.mem_cons, List.mem_flatMap, isNode_iff]
      refine or_congr Iff.rfl (exists_congr fun member => and_congr_right fun belongs => ?_)
      exact ih member belongs

end GeoWire.Geometry
