import GeoWire.Format.Dialect

/-!
What the root header of a blob says about the whole tree.
-/

set_option autoImplicit false

namespace GeoWire

structure Header where
  /-- The dialect, where an SRID tells EWKB from WKB. -/
  dialect : Dialect
  /-- The native version, and 0 for other dialects. -/
  version : UInt8
  order : ByteOrder
  /-- The SRID, or the number that says there is none. -/
  srid : Int32
  dimension : Dimension
  kind : Kind
deriving DecidableEq, Repr

end GeoWire
