import GeoWire.Bytes.Order
import GeoWire.Dimension

/-!
The three bytes that open a native blob: the lead byte with the byte order, the form byte with the
payload and version, and the flags with the optional parts. Bits that mean nothing are ignored when
read and left clear when written.
-/

set_option autoImplicit false

namespace GeoWire.Native

def isLead (byte : UInt8) : Bool :=
  byte.toNat.testBit 3

def lead : ByteOrder → UInt8
  | .big => 8
  | .little => 9

/-- The byte order that a lead byte announces: little for 9 and big for all others. -/
def orderOfLead (byte : UInt8) : ByteOrder :=
  if byte = 9 then .little else .big

/-- The only version of the native format. -/
def version : UInt8 :=
  0

def form (version : UInt8) : UInt8 :=
  version ||| 0x20

/-- Whether a form byte announces vector data. The alternative is a raster. -/
def isVectorForm (byte : UInt8) : Bool :=
  byte.toNat.testBit 5

def versionOfForm (byte : UInt8) : Nat :=
  byte.toNat % 32

/-- The parts that a native blob has beyond X and Y. -/
structure Flags where
  hasZ : Bool
  hasM : Bool
  hasSrid : Bool
deriving DecidableEq, Repr

namespace Flags

def ofByte (byte : UInt8) : Flags where
  hasZ := byte.toNat.testBit 0
  hasM := byte.toNat.testBit 1
  hasSrid := byte.toNat.testBit 7

def toByte (flags : Flags) : UInt8 :=
  .ofNat (flags.hasZ.toNat + 2 * flags.hasM.toNat + 128 * flags.hasSrid.toNat)

@[simp] theorem ofByte_toByte (flags : Flags) : ofByte flags.toByte = flags := by
  rcases flags with ⟨hasZ, hasM, hasSrid⟩
  cases hasZ <;> cases hasM <;> cases hasSrid <;> decide

end Flags

@[simp] theorem isLead_lead (order : ByteOrder) : isLead (lead order) = true := by
  cases order <;> decide

@[simp] theorem orderOfLead_lead (order : ByteOrder) : orderOfLead (lead order) = order := by
  cases order <;> decide

end GeoWire.Native
