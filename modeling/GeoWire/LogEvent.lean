import GeoWire.Codec

/-!
The lines that are logged while blobs are read and written.
-/

set_option autoImplicit false

namespace GeoWire

/-- Something worth a line in the log. -/
inductive LogEvent where
  | decoding (header : Header)
  | skippingEmpty (kind : Kind)
  | encoding (kind : Kind) (plan : Plan)
deriving DecidableEq, Repr

namespace LogEvent

def level : LogEvent → String
  | .decoding _ | .encoding _ _ => "TRACE"
  | .skippingEmpty _ => "DEBUG"

def text : LogEvent → String
  | .decoding header =>
      let what := s!"{header.dialect.name} {header.kind.name} {header.dimension.name}"
      s!"decoding {what} srid={header.srid}"
  | .skippingEmpty kind => s!"skipping empty {kind.name}"
  | .encoding kind plan =>
      let format := plan.layout.format.dialect.name
      s!"encoding {kind.name} as {format} {plan.layout.dimension.name}: {plan.size} bytes"

/-- The events of reading a blob at the position of a reader. -/
def ofReading (reader : Reader) : List LogEvent :=
  match reader.readHeader.1 with
  | .ok header => [.decoding header]
  | .error _ => []

def ofWriting (format : Format) (limit : Nat) (value : ReferencedGeometry) : List LogEvent :=
  match value.plan format limit with
  | .ok (some plan) => [.encoding value.geometry.kind plan]
  | .ok none => [.skippingEmpty value.geometry.kind]
  | .error _ => []

end LogEvent

end GeoWire
