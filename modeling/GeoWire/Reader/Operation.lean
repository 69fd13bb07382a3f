import GeoWire.Reader

/-!
Runs of readers: operations carried out one after the other, whatever each of them answers.
-/

set_option autoImplicit false

namespace GeoWire.Reader

/-- Something that can be done with a reader. -/
inductive Operation where
  | read (type : FieldType)
  | readHeaderByte
  | pushBack
  | setOrder (order : ByteOrder)
deriving DecidableEq, Repr

/-- What an operation answers, if it answers anything. -/
abbrev Operation.Answer : Operation → Type
  | .read type => Except DecodeError type.Value
  | .readHeaderByte => Except DecodeError Bool
  | .pushBack | .setOrder _ => Unit

def perform : (operation : Operation) → Reader → operation.Answer × Reader
  | .read type, reader => reader.read type
  | .readHeaderByte, reader => reader.readHeaderByte
  | .pushBack, reader => ((), reader.pushBack)
  | .setOrder order, reader => ((), reader.setOrder order)

/-- The reader after operations, those included that fail. -/
def performAll : List Operation → Reader → Reader
  | [], reader => reader
  | operation :: rest, reader => performAll rest (reader.perform operation).2

end GeoWire.Reader
