import GeoWire.Encode.Tree

/-!
Encoding in two passes. Planning settles the layout and measures the tree; writing fills a buffer of
exactly that length.
-/

set_option autoImplicit false

namespace GeoWire

def Format.checkWritable (format : Format) : Except EncodeError Unit :=
  match format.dialect with
  | .nativeRaster => .error .unsupportedRaster
  | .nativeVector =>
      if format.version = Native.version then .ok ()
      else .error (.unsupportedVersion format.version)
  | .wkb | .ewkb => .ok ()

/-- A layout of the root and the number of bytes that the whole tree takes in it. -/
structure Plan where
  layout : Layout
  size : Nat
deriving DecidableEq, Repr

def ReferencedGeometry.rootLayout (format : Format) (limit : Nat) (value : ReferencedGeometry) :
    Layout where
  format := format
  dimension := value.geometry.dimension
  srid? := if format.dialect.embedsSrid value.srid then some value.srid else none
  depth := 0
  limit := limit

theorem ReferencedGeometry.isSome_srid?_rootLayout (value : ReferencedGeometry) (format : Format)
    (limit : Nat) :
    (value.rootLayout format limit).srid?.isSome = format.dialect.embedsSrid value.srid := by
  unfold rootLayout
  cases format.dialect.embedsSrid value.srid <;> rfl

/-- Measure a geometry for a format. An empty geometry has no plan, since it is never written. -/
def ReferencedGeometry.plan (format : Format) (limit : Nat) (value : ReferencedGeometry) :
    Except EncodeError (Option Plan) := do
  format.checkWritable
  if value.geometry.isEmpty then pure none
  else if value.geometry.anyCoord fun coord => coord.dimension == .xym then
    .error .unsupportedXym
  else do
    let layout := value.rootLayout format limit
    let size ← value.geometry.encodedSize layout
    pure (some ⟨layout, size⟩)

/-- The buffer of a writer that has filled exactly the bytes that were measured. -/
def Writer.finish (expected : Nat) (writer : Writer) : Except EncodeError (List UInt8) :=
  if writer.position = expected ∧ writer.capacity = expected then .ok writer.contents
  else .error (.sizeMismatch expected writer.position)

def Plan.write (plan : Plan) (order : ByteOrder) (geometry : Geometry) :
    Except EncodeError (List UInt8) :=
  match (geometry.emission plan.layout order).run (.zeroed plan.size order) with
  | (.ok _, writer) => writer.finish plan.size
  | (.error cause, _) => .error cause

/-- Write a geometry in a format and a byte order, with at most the given number of levels of
members. There is no blob for an empty geometry. -/
def ReferencedGeometry.encode (format : Format) (order : ByteOrder) (limit : Nat)
    (value : ReferencedGeometry) : Except EncodeError (Option (List UInt8)) := do
  match ← value.plan format limit with
  | none => pure none
  | some plan => some <$> plan.write order value.geometry

end GeoWire
