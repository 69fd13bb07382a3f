import GeoWire.Kind

/-!
Why a blob cannot be read, and how each cause is worded.
-/

set_option autoImplicit false

namespace GeoWire

/-- A cause for which a blob is refused. -/
inductive DecodeError where
  /-- The buffer ends inside a field of the given width that begins at the given offset. -/
  | truncated (position needed : Nat)
  | invalidByteOrder (marker : UInt8)
  /-- A field of several bytes is read before a byte order is known. -/
  | byteOrderUnknown
  | unsupportedRaster
  | unsupportedVersion (version : Nat)
  | unsupportedXym
  | unknownKind (tag : Nat)
  /-- A member of a multi-geometry is of another kind than the multi-geometry holds. -/
  | unexpectedElement (expected found : Kind)
  | ringNotClosed
  /-- A member declares other ordinates than the root. -/
  | dimensionMismatch (expected found : Nat)
  /-- The items counted cannot fit into the bytes that are left. -/
  | countTooLarge (count remaining : Nat)
  | nestingTooDeep (limit : Nat)
  | trailingBytes (position remaining : Nat)
deriving DecidableEq, Repr

namespace DecodeError

def hexByte (byte : UInt8) : String :=
  String.ofList [Nat.digitChar (byte.toNat / 16), Nat.digitChar (byte.toNat % 16)]

def message : DecodeError → String
  | .truncated position needed =>
      s!"Truncated buffer: needed {needed} more byte(s) at offset {position}"
  | .invalidByteOrder marker => s!"Invalid byte order marker: 0x{hexByte marker}"
  | .byteOrderUnknown => "Byte order not yet established"
  | .unsupportedRaster => "Unsupported format: raster payloads are not supported"
  | .unsupportedVersion version => s!"Unsupported native format version: {version}"
  | .unsupportedXym => "Unsupported dimensionality: XYM coordinates are not supported"
  | .unknownKind tag => s!"Unknown geometry kind tag: {tag}"
  | .unexpectedElement expected found =>
      s!"Expected {expected.name} element, found {found.name}"
  | .ringNotClosed => "Polygon ring is not closed"
  | .dimensionMismatch expected found =>
      s!"Sub-geometry has {found} ordinates but the geometry tree has {expected}"
  | .countTooLarge count remaining =>
      s!"Element count {count} exceeds the {remaining} byte(s) remaining"
  | .nestingTooDeep limit => s!"Geometry nesting exceeds the maximum depth of {limit}"
  | .trailingBytes position remaining =>
      s!"{remaining} trailing byte(s) after the geometry ending at offset {position}"

end DecodeError

end GeoWire
