import GeoWire.Field
import GeoWire.Format.Dialect

/-!
The wire formats as a relation between values and bytes, without any reading or writing. Every bit
that a format leaves free is free here.
-/

set_option autoImplicit false

namespace GeoWire.Grammar

/-- The bytes of a coordinate with exactly the ordinates it has. -/
def coordinateBytes (order : ByteOrder) (coord : Coordinate) : List UInt8 :=
  (coord.x :: coord.y :: (coord.z?.toList ++ coord.m?.toList)).flatMap
    (FieldType.encode order .double)

def countBytes (order : ByteOrder) (items : Nat) : List UInt8 :=
  FieldType.encode order .word32 (.ofNat items)

def lineBytes (order : ByteOrder) (line : LineString) : List UInt8 :=
  countBytes order line.length ++ line.flatMap (coordinateBytes order)

/-- A line string that can be spelled: countable, and all coordinates of one dimension. -/
def Spellable (dimension : Dimension) (line : LineString) : Prop :=
  line.length < UInt32.size ∧ ∀ coord ∈ line, coord.dimension = dimension

/-- The point that a coordinate spells. Two NaN spell the point without a coordinate. -/
def pointOf (coord : Coordinate) : Point :=
  ⟨if coord.isNaNPosition then none else some coord⟩

/-- A type field with a meaning. The low 29 bits hold the kind and up to three thousands; Z and M
come from the flag bits 31 and 30 or from the thousands, and bit 29 announces an SRID. -/
def SpellsType (code : UInt32) (kind : Kind) (dimension : Dimension) (hasSrid : Bool) : Prop :=
  ∃ thousands ≤ 3,
    code.toNat % 0x20000000 = kind.tag + 1000 * thousands ∧
    (dimension.hasZ ↔ code.toNat.testBit 31 ∨ thousands = 1 ∨ thousands = 3) ∧
    (dimension.hasM ↔ code.toNat.testBit 30 ∨ thousands = 2 ∨ thousands = 3) ∧
    dimension ≠ .xym ∧ hasSrid = code.toNat.testBit 29

/-- A standard header: byte order marker, type field and the SRID that it announces. -/
inductive StandardHeader (dimension : Dimension) :
    ByteOrder → Kind → Option Int32 → List UInt8 → Prop where
  | fields {order : ByteOrder} {kind : Kind} {srid? : Option Int32} {code : UInt32} :
      SpellsType code kind dimension srid?.isSome →
      StandardHeader dimension order kind srid?
        (order.marker :: FieldType.encode order .word32 code ++
          srid?.toList.flatMap (FieldType.encode order .int32))

/-- The header of a member in a tree read in an outer byte order, and the order of its body. A
native member has its kind alone; the SRID of a standard member has no meaning. -/
inductive MemberHeader (dimension : Dimension) :
    (isNative : Bool) → (outer inner : ByteOrder) → Kind → List UInt8 → Prop where
  | native {order : ByteOrder} {kind : Kind} :
      MemberHeader dimension true order order kind [.ofNat kind.tag]
  | standard {outer inner : ByteOrder} {kind : Kind} {srid? : Option Int32} {head : List UInt8} :
      StandardHeader dimension inner kind srid? head →
      MemberHeader dimension false outer inner kind head

mutual

/-- The body of a geometry in a byte order. -/
inductive Body (isNative : Bool) (dimension : Dimension) :
    ByteOrder → Geometry → List UInt8 → Prop where
  | point {order : ByteOrder} {coord : Coordinate} :
      coord.dimension = dimension →
      Body isNative dimension order (.point (pointOf coord)) (coordinateBytes order coord)
  | lineString {order : ByteOrder} {line : LineString} :
      Spellable dimension line →
      Body isNative dimension order (.lineString line) (lineBytes order line)
  | polygon {order : ByteOrder} {rings : List Ring} :
      rings.length < UInt32.size → (∀ ring ∈ rings, Spellable dimension ring.coords) →
      Body isNative dimension order (.polygon (.ofRings rings))
        (countBytes order rings.length ++ rings.flatMap fun ring => lineBytes order ring.coords)
  | multiPoint {order : ByteOrder} {points : List Point} {body : List UInt8} :
      points.length < UInt32.size → Members isNative dimension order (points.map .point) body →
      Body isNative dimension order (.multiPoint points) (countBytes order points.length ++ body)
  | multiLineString {order : ByteOrder} {lines : List LineString} {body : List UInt8} :
      lines.length < UInt32.size → Members isNative dimension order (lines.map .lineString) body →
      Body isNative dimension order (.multiLineString lines)
        (countBytes order lines.length ++ body)
  | multiPolygon {order : ByteOrder} {polygons : List Polygon} {body : List UInt8} :
      polygons.length < UInt32.size → Members isNative dimension order (polygons.map .polygon) body →
      Body isNative dimension order (.multiPolygon polygons)
        (countBytes order polygons.length ++ body)
  | collection {order : ByteOrder} {members : List Geometry} {body : List UInt8} :
      members.length < UInt32.size → Members isNative dimension order members body →
      Body isNative dimension order (.collection members)
        (countBytes order members.length ++ body)

inductive Members (isNative : Bool) (dimension : Dimension) :
    ByteOrder → List Geometry → List UInt8 → Prop where
  | nil {outer : ByteOrder} : Members isNative dimension outer [] []
  | cons {outer inner : ByteOrder} {member : Geometry} {rest : List Geometry}
      {head body others : List UInt8} :
      MemberHeader dimension isNative outer inner member.kind head →
      Body isNative dimension inner member body →
      Members isNative dimension outer rest others →
      Members isNative dimension outer (member :: rest) (head ++ body ++ others)

end

/-- A standard blob: the header of the root, whose SRID counts, and its body. -/
inductive StandardBlob : ReferencedGeometry → List UInt8 → Prop where
  | root {dimension : Dimension} {order : ByteOrder} {srid? : Option Int32} {geometry : Geometry}
      {head body : List UInt8} :
      StandardHeader dimension order geometry.kind srid? head →
      Body false dimension order geometry body →
      StandardBlob ⟨srid?.getD ReferencedGeometry.noSrid, geometry⟩ (head ++ body)

/-- A native blob: lead byte, form byte of vector data in the only version, flags, the SRID that
they announce, the kind of the root and its body. -/
inductive NativeBlob : ReferencedGeometry → List UInt8 → Prop where
  | root {lead form flags : UInt8} {dimension : Dimension} {srid? : Option Int32}
      {geometry : Geometry} {body : List UInt8} :
      Native.isLead lead = true → Native.isVectorForm form = true →
      Native.versionOfForm form = Native.version.toNat →
      Native.Flags.ofByte flags = ⟨dimension.hasZ, dimension.hasM, srid?.isSome⟩ →
      dimension ≠ .xym →
      Body true dimension (Native.orderOfLead lead) geometry body →
      NativeBlob ⟨srid?.getD ReferencedGeometry.noSrid, geometry⟩
        (lead :: form :: flags ::
          (srid?.toList.flatMap (FieldType.encode (Native.orderOfLead lead) .int32) ++
            .ofNat geometry.kind.tag :: body))

end GeoWire.Grammar
