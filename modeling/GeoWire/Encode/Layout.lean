import GeoWire.Encode.Emission
import GeoWire.Format.Header
import GeoWire.Format.TypeField

/-!
How the parts of a tree are laid out: their headers, counts and coordinates, each once as a number
of bytes and once as the fields themselves.
-/

set_option autoImplicit false

namespace GeoWire

/-- What is settled about the place of a geometry in the tree being written. -/
structure Layout where
  format : Format
  dimension : Dimension
  srid? : Option Int32
  /-- The number of geometries around this one; none around the root. -/
  depth : Nat
  limit : Nat
deriving DecidableEq, Repr

namespace Layout

def isRoot (layout : Layout) : Bool :=
  layout.depth == 0

/-- The place of a member of the geometry, if members are still allowed. -/
def member (layout : Layout) : Except EncodeError Layout :=
  if layout.depth < layout.limit then .ok { layout with depth := layout.depth + 1 }
  else .error (.nestingTooDeep layout.limit)

def headerSrid? (layout : Layout) : Option Int32 :=
  if layout.isRoot then layout.srid? else none

/-- The number of bytes of a header. A native root has three bytes, an SRID and the kind, and a
native member has the kind alone. A standard header has a byte order, a type field and, at the root,
an SRID. -/
def headerSize (layout : Layout) : Nat :=
  let srid := if layout.headerSrid?.isSome then 4 else 0
  match layout.format.dialect.isNative, layout.isRoot with
  | true, true => 3 + srid + 1
  | true, false => 1
  | false, _ => 1 + 4 + srid

def kindField (kind : Kind) : Field :=
  ⟨.byte, .ofNat kind.tag⟩

def sridFields (layout : Layout) : List Field :=
  layout.headerSrid?.toList.map fun srid => ⟨.int32, srid⟩

def nativeFlags (layout : Layout) : Native.Flags :=
  ⟨layout.dimension.hasZ, layout.dimension.hasM, layout.headerSrid?.isSome⟩

def typeField (layout : Layout) (kind : Kind) : TypeField :=
  ⟨kind, layout.dimension, layout.headerSrid?.isSome⟩

def header (layout : Layout) (order : ByteOrder) (kind : Kind) : List Field :=
  match layout.format.dialect.isNative, layout.isRoot with
  | true, true =>
      [⟨.byte, Native.lead order⟩, ⟨.byte, Native.form layout.format.version⟩,
        ⟨.byte, layout.nativeFlags.toByte⟩] ++ layout.sridFields ++ [kindField kind]
  | true, false => [kindField kind]
  | false, _ =>
      [⟨.byte, order.marker⟩, ⟨.word32, (layout.typeField kind).code⟩] ++ layout.sridFields

def coordSize (layout : Layout) : Nat :=
  layout.dimension.size * 8

end Layout

/-- The ordinates of a coordinate brought to a dimension, in the order of the wire. -/
def Coordinate.ordinates (dimension : Dimension) (coordinate : Coordinate) : List Ordinate :=
  [coordinate.x, coordinate.y] ++
    (if dimension.hasZ then [coordinate.z?.getD .missing] else []) ++
    (if dimension.hasM then [coordinate.m?.getD .missing] else [])

namespace Layout

def coordinate (layout : Layout) (coord : Coordinate) : List Field :=
  (coord.ordinates layout.dimension).map fun ordinate => ⟨.double, ordinate⟩

/-- A count as a field, unless it is too large for one. -/
def count (items : Nat) : Emission :=
  if items < UInt32.size then .ofFields [⟨.word32, .ofNat items⟩] else .stopped (.countOverflow items)

def total : List Nat → Nat
  | [] => 0
  | size :: rest => size + total rest

theorem total_append (first second : List Nat) :
    total (first ++ second) = total first + total second := by
  induction first with
  | nil => exact (Nat.zero_add _).symm
  | cons size rest ih => rw [List.cons_append, total, total, ih, Nat.add_assoc]

/-- The number of bytes of a count, unless it is too large for a field. -/
def countSize (items : Nat) : Except EncodeError Nat :=
  if items < UInt32.size then .ok 4 else .error (.countOverflow items)

def coordinates (layout : Layout) (line : LineString) : Emission :=
  count line.length ++ .ofFields (line.flatMap layout.coordinate)

def coordinatesSize (layout : Layout) (line : LineString) : Except EncodeError Nat := do
  let count ← countSize line.length
  pure (count + line.length * layout.coordSize)

end Layout

end GeoWire
