import GeoWire.Decode.Body
import GeoWire.Encode.Plan

/-!
The codec: blobs to geometries and back under fixed options.
-/

set_option autoImplicit false

namespace GeoWire

/-- How blobs are written and what is accepted. -/
structure Codec where
  order : ByteOrder
  limit : Nat
deriving DecidableEq, Repr

namespace Codec

/-- Little-endian with 64 levels. -/
def default : Codec :=
  ⟨.little, 64⟩

def decode (codec : Codec) (blob : List UInt8) : Except DecodeError ReferencedGeometry :=
  ((Reader.ofBytes blob).readGeometry codec.limit).1

/-- Write a geometry in a format. There is no blob for an empty geometry. -/
def encode (codec : Codec) (format : Format) (value : ReferencedGeometry) :
    Except EncodeError (Option (List UInt8)) :=
  value.encode format codec.order codec.limit

end Codec

/-- Read the root header of a blob and nothing else. -/
def Header.peek (blob : List UInt8) : Except DecodeError Header :=
  (Reader.ofBytes blob).readHeader.1

end GeoWire
