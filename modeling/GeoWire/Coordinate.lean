import GeoWire.Dimension
import GeoWire.Ordinate

/-!
Coordinates with optional Z and M. Two comparisons are kept apart: `ieeeEq`, under which a
coordinate with a NaN differs from itself, and `coincides`, an equivalence.
-/

set_option autoImplicit false

namespace GeoWire

/-- A position of two to four ordinates. -/
structure Coordinate where
  x : Ordinate
  y : Ordinate
  z? : Option Ordinate
  m? : Option Ordinate
deriving DecidableEq, Repr

namespace Coordinate

def xy (x y : Ordinate) : Coordinate :=
  ⟨x, y, none, none⟩

def xyz (x y z : Ordinate) : Coordinate :=
  ⟨x, y, some z, none⟩

def dimension (coordinate : Coordinate) : Dimension :=
  .ofFlags coordinate.z?.isSome coordinate.m?.isSome

/-- Whether X and Y are both NaN, as they are in an empty point on the wire. -/
def isNaNPosition (coordinate : Coordinate) : Bool :=
  coordinate.x.isNaN && coordinate.y.isNaN

def hasNaN (coordinate : Coordinate) : Bool :=
  coordinate.x.isNaN || coordinate.y.isNaN ||
    coordinate.z?.any Ordinate.isNaN || coordinate.m?.any Ordinate.isNaN

def matchWith (alike : Ordinate → Ordinate → Bool) (left right : Coordinate) : Bool :=
  alike left.x right.x && alike left.y right.y &&
    Ordinate.matchOptional alike left.z? right.z? &&
    Ordinate.matchOptional alike left.m? right.m?

/-- Numeric equality, so that a coordinate with a NaN equals nothing. -/
def ieeeEq : Coordinate → Coordinate → Bool :=
  matchWith Ordinate.ieeeEq

/-- Whether two coordinates carry the same ordinates with equal values, a NaN matching a NaN. -/
def coincides : Coordinate → Coordinate → Bool :=
  matchWith Ordinate.coincides

/-- Bring a coordinate to a dimension: what it lacks becomes the missing ordinate and what the
dimension does not have is dropped. -/
def project (dimension : Dimension) (coordinate : Coordinate) : Coordinate where
  x := coordinate.x
  y := coordinate.y
  z? := if dimension.hasZ then some (coordinate.z?.getD .missing) else none
  m? := if dimension.hasM then some (coordinate.m?.getD .missing) else none

@[simp] theorem coincides_refl (coordinate : Coordinate) :
    coordinate.coincides coordinate = true := by
  simp [coincides, matchWith]

@[simp] theorem dimension_project (dimension : Dimension) (coordinate : Coordinate) :
    (coordinate.project dimension).dimension = dimension := by
  cases dimension <;> rfl

/-- Coordinates that coincide still do so in any other dimension. -/
theorem coincides_project {left right : Coordinate} (dimension : Dimension)
    (coincide : left.coincides right = true) :
    (left.project dimension).coincides (right.project dimension) = true := by
  rcases left with ⟨leftX, leftY, leftZ?, leftM?⟩
  rcases right with ⟨rightX, rightY, rightZ?, rightM?⟩
  simp only [coincides, matchWith, Bool.and_eq_true] at coincide
  obtain ⟨⟨⟨xs, ys⟩, zs⟩, ms⟩ := coincide
  have padded {left? right? : Option Ordinate}
      (matched : Ordinate.matchOptional Ordinate.coincides left? right? = true) :
      (left?.getD .missing).coincides (right?.getD .missing) = true := by
    cases left? <;> cases right? <;> simp_all [Ordinate.matchOptional]
  cases dimension <;>
    simp [coincides, matchWith, project, Dimension.hasZ, Dimension.hasM,
      Ordinate.matchOptional, xs, ys, padded zs, padded ms]

/-- A coordinate of the dimension asked for stays as it is. -/
theorem project_of_dimension_eq {dimension : Dimension} {coordinate : Coordinate}
    (sameDimension : coordinate.dimension = dimension) :
    coordinate.project dimension = coordinate := by
  subst sameDimension
  rcases coordinate with ⟨x, y, z?, m?⟩
  cases z? <;> cases m? <;> rfl

theorem project_project (dimension : Dimension) (coordinate : Coordinate) :
    (coordinate.project dimension).project dimension = coordinate.project dimension :=
  project_of_dimension_eq (coordinate.dimension_project dimension)

end Coordinate

end GeoWire
