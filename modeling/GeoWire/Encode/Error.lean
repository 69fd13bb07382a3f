/-!
Why a geometry cannot be written, and how each cause is worded.
-/

set_option autoImplicit false

namespace GeoWire

/-- A cause for which a geometry is not written. -/
inductive EncodeError where
  | unsupportedRaster
  | unsupportedVersion (version : UInt8)
  | unsupportedXym
  | countOverflow (count : Nat)
  | nestingTooDeep (limit : Nat)
  /-- The bytes written are not as many as were measured. -/
  | sizeMismatch (expected written : Nat)
  | bufferFull
deriving DecidableEq, Repr

def EncodeError.message : EncodeError → String
  | .unsupportedRaster => "Unsupported format: raster payloads are not supported"
  | .unsupportedVersion version => s!"Unsupported native format version: {version}"
  | .unsupportedXym => "Unsupported dimensionality: XYM coordinates are not supported"
  | .countOverflow count => s!"Overflow: count {count} does not fit in a 32-bit field"
  | .nestingTooDeep limit => s!"Geometry nesting exceeds the maximum depth of {limit}"
  | .sizeMismatch expected written =>
      s!"Internal error: size pass computed {expected} bytes but {written} were written"
  | .bufferFull => "failed to write whole buffer"

end GeoWire
