import GeoWire.Format.Native
import GeoWire.Geometry

/-!
The dialects of the wire format, and which of them write a spatial reference system.
-/

set_option autoImplicit false

namespace GeoWire

/-- A wire format. -/
inductive Dialect where
  | nativeVector
  /-- The compact format with a raster, which is recognised and refused. -/
  | nativeRaster
  | wkb
  | ewkb
deriving DecidableEq, Repr

namespace Dialect

def isNative : Dialect → Bool
  | .nativeVector | .nativeRaster => true
  | .wkb | .ewkb => false

def holdsSrid : Dialect → Bool
  | .nativeVector | .ewkb => true
  | .nativeRaster | .wkb => false

/-- Whether an SRID has to be written. -/
def embedsSrid (dialect : Dialect) (srid : Int32) : Bool :=
  dialect.holdsSrid && srid != ReferencedGeometry.noSrid

def name : Dialect → String
  | .nativeVector => "NativeVectorial"
  | .nativeRaster => "NativeRaster"
  | .wkb => "Wkb"
  | .ewkb => "Ewkb"

def ofName? : String → Option Dialect
  | "NativeVectorial" => some .nativeVector
  | "NativeRaster" => some .nativeRaster
  | "Wkb" => some .wkb
  | "Ewkb" => some .ewkb
  | _ => none

end Dialect

/-- A dialect in a version. Only the native dialect looks at its version. -/
structure Format where
  dialect : Dialect
  version : UInt8
deriving DecidableEq, Repr

namespace Format

def native : Format :=
  ⟨.nativeVector, Native.version⟩

def wkb : Format :=
  ⟨.wkb, 0⟩

def ewkb : Format :=
  ⟨.ewkb, 0⟩

end Format

end GeoWire
