import GeoWire.Geometry

/-!
The levels of members in a tree. Each multi-geometry and each collection counts one level, with or
without members.
-/

set_option autoImplicit false

namespace GeoWire.Geometry

mutual

/-- The number of levels of members below a geometry. -/
def nesting : Geometry → Nat
  | .point _ | .lineString _ | .linearRing _ | .polygon _ => 0
  | .multiPoint _ | .multiLineString _ | .multiPolygon _ => 1
  | .collection members => nestingOf members + 1

def nestingOf : List Geometry → Nat
  | [] => 0
  | member :: rest => max member.nesting (nestingOf rest)

end

theorem nestingOf_le_iff {members : List Geometry} {levels : Nat} :
    nestingOf members ≤ levels ↔ ∀ member ∈ members, member.nesting ≤ levels := by
  induction members with
  | nil => simp [nestingOf]
  | cons member rest ih => rw [nestingOf, Nat.max_le, ih, List.forall_mem_cons]

end GeoWire.Geometry
