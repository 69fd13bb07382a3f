import GeoWire.Decode.Header

/-!
Decoders of geometry bodies. The root header settles dialect and dimension for the whole tree, and
the levels of members that are left bound the recursion.
-/

set_option autoImplicit false

namespace GeoWire

/-- What is settled for every geometry of a tree before its root body is read. -/
structure BodyContext where
  isNative : Bool
  dimension : Dimension
  limit : Nat
deriving DecidableEq, Repr

def Header.bodyContext (header : Header) (limit : Nat) : BodyContext :=
  ⟨header.dialect.isNative, header.dimension, limit⟩

namespace Decoder

def ordinateIf (isThere : Bool) : Decoder (Option Ordinate) :=
  if isThere then some <$> one .double else pure none

def coordinate (dimension : Dimension) : Decoder Coordinate := do
  let x ← one .double
  let y ← one .double
  let z? ← ordinateIf dimension.hasZ
  let m? ← ordinateIf dimension.hasM
  pure ⟨x, y, z?, m?⟩

/-- Read a point. One whose X and Y are both NaN is the point without a coordinate. -/
def point (dimension : Dimension) : Decoder Point := do
  let coord ← coordinate dimension
  pure ⟨if coord.isNaNPosition then none else some coord⟩

def lineString (dimension : Dimension) : Decoder LineString :=
  counted (dimension.size * 8) (coordinate dimension)

def ring (dimension : Dimension) : Decoder Ring := do
  let line ← lineString dimension
  require .ringNotClosed (Ring.ofClosed? line)

def polygon (dimension : Dimension) : Decoder Polygon :=
  Polygon.ofRings <$> counted 4 (ring dimension)

/-- Read the header of a member and give its kind. The dimension has to be that of the tree, and an
SRID is passed over. -/
def memberKind (context : BodyContext) : Decoder Kind :=
  if context.isNative then kindByte
  else do
    let marker ← one .byte
    let _ ← orderOfMarker marker
    let field ← typeField
    if field.dimension = context.dimension then
      let _ ← sridIf field.hasSrid
      pure field.kind
    else .fail (.dimensionMismatch context.dimension.size field.dimension.size)

/-- Read a member of a multi-geometry, which has to be of the kind that is expected. -/
def element {α : Type} (context : BodyContext) (expected : Kind) (body : Decoder α) :
    Decoder α := do
  let found ← memberKind context
  if found = expected then body else .fail (.unexpectedElement expected found)

def elements {α : Type} (context : BodyContext) (expected : Kind) (body : Decoder α) :
    Decoder (List α) :=
  counted 1 (element context expected body)

/-- Read the body of a geometry that may have the given number of levels of members. -/
def body (context : BodyContext) : (levels : Nat) → Kind → Decoder Geometry
  | _, .point => Geometry.point <$> point context.dimension
  | _, .lineString => Geometry.lineString <$> lineString context.dimension
  | _, .polygon => Geometry.polygon <$> polygon context.dimension
  | 0, .multiPoint | 0, .multiLineString | 0, .multiPolygon | 0, .collection =>
      .fail (.nestingTooDeep context.limit)
  | _ + 1, .multiPoint =>
      Geometry.multiPoint <$> elements context .point (point context.dimension)
  | _ + 1, .multiLineString =>
      Geometry.multiLineString <$> elements context .lineString (lineString context.dimension)
  | _ + 1, .multiPolygon =>
      Geometry.multiPolygon <$> elements context .polygon (polygon context.dimension)
  | levels + 1, .collection =>
      Geometry.collection <$> counted 1 do body context levels (← memberKind context)

/-- Read a blob: the root header, then the body that it announces. -/
def blob (limit : Nat) : Decoder ReferencedGeometry := do
  let header ← Header.decoder
  let geometry ← body (header.bodyContext limit) limit header.kind
  pure ⟨header.srid, geometry⟩

end Decoder

namespace Reader

def readHeader : Reader → Except DecodeError Header × Reader :=
  Header.decoder.run

/-- Read a blob at the position, which has to end where the buffer ends. -/
def readGeometry (limit : Nat) (reader : Reader) :
    Except DecodeError ReferencedGeometry × Reader :=
  match (Decoder.blob limit).run reader with
  | (.error cause, moved) => (.error cause, moved)
  | (.ok value, moved) =>
      if moved.remaining = 0 then (.ok value, moved)
      else (.error (.trailingBytes moved.position moved.remaining), moved)

end Reader

end GeoWire
