import GeoWire.Decode.Error
import GeoWire.Dimension

/-!
The type field of a standard header: kind, dimension and whether an SRID follows. Z and M can be
spelled by flag bits, by adding thousands to the kind, or by both; only flag bits are written.
`ofCode_code` says that what is written reads back.
-/

set_option autoImplicit false

namespace GeoWire

/-- The dimension with the given optional ordinates, unless it has no wire form. -/
def Dimension.onWire (hasZ hasM : Bool) : Except DecodeError Dimension :=
  match Dimension.ofFlags hasZ hasM with
  | .xym => .error .unsupportedXym
  | dimension => .ok dimension

def Kind.onWire (tag : Nat) : Except DecodeError Kind :=
  match Kind.ofTag? tag with
  | some kind => .ok kind
  | none => .error (.unknownKind tag)

structure TypeField where
  kind : Kind
  dimension : Dimension
  hasSrid : Bool
deriving DecidableEq, Repr

namespace TypeField

def flagsOfThousands? : Nat → Option (Bool × Bool)
  | 0 => some (false, false)
  | 1 => some (true, false)
  | 2 => some (false, true)
  | 3 => some (true, true)
  | _ => none

/-- Read a type field. Bits 31, 30 and 29 flag Z, M and the SRID; the others are the kind plus a
thousand for Z and two thousand for M. -/
def ofCode (code : UInt32) : Except DecodeError TypeField := do
  let base := code.toNat % 0x20000000
  match flagsOfThousands? (base / 1000) with
  | none => .error (.unknownKind base)
  | some (thousandsZ, thousandsM) =>
      let dimension ← Dimension.onWire (code.toNat.testBit 31 || thousandsZ)
        (code.toNat.testBit 30 || thousandsM)
      let kind ← Kind.onWire (base % 1000)
      .ok ⟨kind, dimension, code.toNat.testBit 29⟩

/-- The code that spells Z and M by flag bits alone. -/
def code (field : TypeField) : UInt32 :=
  .ofNat (field.kind.tag + 0x80000000 * field.dimension.hasZ.toNat +
    0x40000000 * field.dimension.hasM.toNat + 0x20000000 * field.hasSrid.toNat)

theorem ofCode_code {field : TypeField} (writable : field.dimension ≠ .xym) :
    ofCode field.code = .ok field := by
  rcases field with ⟨kind, dimension, hasSrid⟩
  cases dimension
  case xym => exact absurd rfl writable
  all_goals cases kind <;> cases hasSrid <;> rfl

end TypeField

end GeoWire
