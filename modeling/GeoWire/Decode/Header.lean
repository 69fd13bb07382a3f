import GeoWire.Decode.Decoder
import GeoWire.Format.Header
import GeoWire.Format.TypeField

/-!
Decoders of the root header and of member headers. The first byte of a blob tells the native dialect
from the standard ones.
-/

set_option autoImplicit false

namespace GeoWire

namespace Decoder

variable {α : Type}

def ofExcept : Except DecodeError α → Decoder α
  | .ok value => .done value
  | .error cause => .fail cause

def sridIf (isThere : Bool) : Decoder Int32 :=
  if isThere then one .int32 else pure ReferencedGeometry.noSrid

/-- Take a byte for a byte order marker and switch to that order. -/
def orderOfMarker (marker : UInt8) : Decoder ByteOrder :=
  match ByteOrder.ofMarker? marker with
  | none => .fail (.invalidByteOrder marker)
  | some order => do
      setOrder order
      pure order

def kindByte : Decoder Kind := do
  let tag ← one .byte
  ofExcept (Kind.onWire tag.toNat)

def typeField : Decoder TypeField := do
  let code ← one .word32
  ofExcept (TypeField.ofCode code)

end Decoder

namespace Header

open Decoder

/-- Read a native header after its lead byte. -/
def native (lead : UInt8) : Decoder Header := do
  let order := Native.orderOfLead lead
  setOrder order
  let form ← one .byte
  if Native.isVectorForm form then
    if Native.versionOfForm form = Native.version.toNat then
      let flags := Native.Flags.ofByte (← one .byte)
      let dimension ← ofExcept (Dimension.onWire flags.hasZ flags.hasM)
      let srid ← sridIf flags.hasSrid
      let kind ← kindByte
      pure ⟨.nativeVector, Native.version, order, srid, dimension, kind⟩
    else .fail (.unsupportedVersion (Native.versionOfForm form))
  else .fail .unsupportedRaster

/-- Read a standard header after its byte order marker. -/
def standard (marker : UInt8) : Decoder Header := do
  let order ← orderOfMarker marker
  let field ← typeField
  let srid ← sridIf field.hasSrid
  let dialect := if field.hasSrid then Dialect.ewkb else Dialect.wkb
  pure ⟨dialect, 0, order, srid, field.dimension, field.kind⟩

def decoder : Decoder Header := do
  let lead ← one .byte
  if Native.isLead lead then native lead else standard lead

end Header

end GeoWire
