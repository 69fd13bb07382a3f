import GeoWire.Planar.Shape

/-!
The parts of a shape: the areas it holds and the corners of its rectangles and triangles, and the same
shape in which segments, rectangles and triangles are spelled out as paths and areas.
-/

set_option autoImplicit false

namespace GeoWire.Planar

def Area.paths (area : Area) : List Path :=
  area.outline :: area.holes

namespace Shape

mutual

/-- The areas held by a shape as such, at any depth. -/
def areas : Shape → List Area
  | .area bounded => [bounded]
  | .multiArea areas => areas
  | .collection members => areasOf members
  | .point _ | .segment _ _ | .path _ | .multiPoint _ | .multiPath _ => []
  | .rectangle _ | .triangle _ => []

def areasOf : List Shape → List Area
  | [] => []
  | member :: rest => member.areas ++ areasOf rest

end

mutual

/-- The corners of rectangles and triangles, at any depth. -/
def corners : Shape → List Position
  | .rectangle box => box.corners
  | .triangle wedge => wedge.corners
  | .collection members => cornersOf members
  | .point _ | .segment _ _ | .path _ | .area _ | .multiPoint _ | .multiPath _ | .multiArea _ => []

def cornersOf : List Shape → List Position
  | [] => []
  | member :: rest => member.corners ++ cornersOf rest

end

mutual

/-- A segment is the path of its ends, and rectangles and triangles are their areas. -/
def spelledOut (outlines : Outlines) : Shape → Shape
  | .segment first last => .path [first, last]
  | .rectangle box => .area (outlines.rectangle box)
  | .triangle corners => .area (outlines.triangle corners)
  | .collection members => .collection (allSpelledOut outlines members)
  | .point position => .point position
  | .path line => .path line
  | .area bounded => .area bounded
  | .multiPoint positions => .multiPoint positions
  | .multiPath paths => .multiPath paths
  | .multiArea areas => .multiArea areas

def allSpelledOut (outlines : Outlines) : List Shape → List Shape
  | [] => []
  | member :: rest => member.spelledOut outlines :: allSpelledOut outlines rest

end

theorem areasOf_eq (members : List Shape) : areasOf members = members.flatMap areas := by
  induction members with
  | nil => rfl
  | cons member rest ih => simp [areasOf, ih]

theorem cornersOf_eq (members : List Shape) : cornersOf members = members.flatMap corners := by
  induction members with
  | nil => rfl
  | cons member rest ih => simp [cornersOf, ih]

theorem allSpelledOut_eq (outlines : Outlines) (members : List Shape) :
    allSpelledOut outlines members = members.map (spelledOut outlines) := by
  induction members with
  | nil => rfl
  | cons member rest ih => simp [allSpelledOut, ih]

theorem areas_spelledOut_collection (outlines : Outlines) (members : List Shape) :
    ((collection members).spelledOut outlines).areas =
      members.flatMap fun member => (member.spelledOut outlines).areas := by
  simp only [spelledOut, areas, areasOf_eq, allSpelledOut_eq, List.flatMap_map]

end Shape

end GeoWire.Planar
