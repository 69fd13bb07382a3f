import GeoWire.Bytes.Tape
import GeoWire.Encode.Error
import GeoWire.Field

/-!
Writing fields into a buffer of fixed length. A field that does not fit fills the buffer to the end
with its first bytes and fails.
-/

set_option autoImplicit false

namespace GeoWire

structure Writer where
  tape : Tape
  order : ByteOrder
deriving DecidableEq, Repr

namespace Writer

/-- Write from the start of a buffer of zeros. -/
def zeroed (length : Nat) (order : ByteOrder) : Writer :=
  ⟨.ofBytes (.replicate length 0), order⟩

def position (writer : Writer) : Nat :=
  writer.tape.position

def remaining (writer : Writer) : Nat :=
  writer.tape.remaining

def capacity (writer : Writer) : Nat :=
  writer.tape.contents.length

def contents (writer : Writer) : List UInt8 :=
  writer.tape.contents

def write (field : Field) (writer : Writer) : Except EncodeError Unit × Writer :=
  let bytes := field.bytes writer.order
  let moved := { writer with tape := writer.tape.overwrite bytes }
  if writer.tape.hasAhead bytes.length then (.ok (), moved) else (.error .bufferFull, moved)

/-- Write fields one after the other, going on after those that do not fit: what each of them comes to
and the writer after the last. -/
def writeAll : List Field → Writer → List (Except EncodeError Unit) × Writer
  | [], writer => ([], writer)
  | field :: rest, writer =>
      let (answer, moved) := writer.write field
      let (answers, last) := writeAll rest moved
      (answer :: answers, last)

end Writer

end GeoWire
