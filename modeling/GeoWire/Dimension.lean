/-!
Dimensions: which ordinates beyond X and Y the coordinates of a geometry carry.
-/

set_option autoImplicit false

namespace GeoWire

/-- The ordinates of a coordinate. X with Y and M alone can be held but has no wire form. -/
inductive Dimension where
  | xy
  | xyz
  | xym
  | xyzm
deriving DecidableEq, Repr

namespace Dimension

def ofFlags : (hasZ hasM : Bool) → Dimension
  | false, false => .xy
  | true, false => .xyz
  | false, true => .xym
  | true, true => .xyzm

def hasZ : Dimension → Bool
  | .xyz | .xyzm => true
  | .xy | .xym => false

def hasM : Dimension → Bool
  | .xym | .xyzm => true
  | .xy | .xyz => false

def size : Dimension → Nat
  | .xy => 2
  | .xyz | .xym => 3
  | .xyzm => 4

def name : Dimension → String
  | .xy => "Xy"
  | .xyz => "Xyz"
  | .xym => "Xym"
  | .xyzm => "Xyzm"

def ofName? : String → Option Dimension
  | "Xy" => some .xy
  | "Xyz" => some .xyz
  | "Xym" => some .xym
  | "Xyzm" => some .xyzm
  | _ => none

@[simp] theorem hasZ_ofFlags (hasZ hasM : Bool) : (ofFlags hasZ hasM).hasZ = hasZ := by
  cases hasZ <;> cases hasM <;> rfl

@[simp] theorem hasM_ofFlags (hasZ hasM : Bool) : (ofFlags hasZ hasM).hasM = hasM := by
  cases hasZ <;> cases hasM <;> rfl

@[simp] theorem ofFlags_hasZ_hasM (dimension : Dimension) :
    ofFlags dimension.hasZ dimension.hasM = dimension := by
  cases dimension <;> rfl

end Dimension

end GeoWire
