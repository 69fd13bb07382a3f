import GeoWire.Bytes.Tape
import GeoWire.Decode.Error
import GeoWire.Field
import GeoWire.Format.Native

/-!
Reading fields from a buffer. A field is read at the position in the byte order that is set; one
that the buffer is too short for leaves the reader at the end.
-/

set_option autoImplicit false

namespace GeoWire

/-- A buffer being read, with the byte order once it is known. -/
structure Reader where
  tape : Tape
  order? : Option ByteOrder
deriving DecidableEq, Repr

namespace Reader

/-- Read from the start of a buffer, the byte order not being known. -/
def ofBytes (bytes : List UInt8) : Reader :=
  ⟨.ofBytes bytes, none⟩

def position (reader : Reader) : Nat :=
  reader.tape.position

def remaining (reader : Reader) : Nat :=
  reader.tape.remaining

def setOrder (order : ByteOrder) (reader : Reader) : Reader :=
  { reader with order? := some order }

def pushBack (reader : Reader) : Reader :=
  { reader with tape := reader.tape.back }

/-- The byte order to read a field in. A single byte is the same in both and needs none. -/
def orderFor? (type : FieldType) (reader : Reader) : Option ByteOrder :=
  match type with
  | .byte => some .little
  | .int16 | .int32 | .word32 | .int64 | .double => reader.order?

def read (type : FieldType) (reader : Reader) : Except DecodeError type.Value × Reader :=
  match reader.orderFor? type with
  | none => (.error .byteOrderUnknown, reader)
  | some order =>
      let moved := { reader with tape := reader.tape.advance type.width }
      if reader.tape.hasAhead type.width then
        (.ok (type.decode order (reader.tape.ahead.take type.width)), moved)
      else (.error (.truncated reader.position type.width), moved)

@[simp] theorem order?_read (type : FieldType) (reader : Reader) :
    (reader.read type).2.order? = reader.order? := by
  unfold read
  split
  · rfl
  · dsimp only
    split <;> rfl

@[simp] theorem contents_read (type : FieldType) (reader : Reader) :
    (reader.read type).2.tape.contents = reader.tape.contents := by
  unfold read
  split
  · rfl
  · dsimp only
    split <;> exact Tape.contents_advance _ _

theorem read_byte (behind rest : List UInt8) (byte : UInt8) (known : Option ByteOrder) :
    read .byte ⟨⟨behind, byte :: rest⟩, known⟩ = (.ok byte, ⟨⟨byte :: behind, rest⟩, known⟩) := by
  have value : FieldType.decode .little .byte [byte] = byte := by
    rw [← FieldType.encode_byte .little byte]
    exact FieldType.decode_encode .little .byte byte
  simp [read, orderFor?, FieldType.width, Tape.hasAhead, Tape.advance, value]

/-- Read fields of the given types one after the other, going on after a failure: what each of them
comes to and the reader after the last. -/
def readAll : List FieldType → Reader → List (Except DecodeError Field) × Reader
  | [], reader => ([], reader)
  | type :: rest, reader =>
      let (answer, moved) := reader.read type
      let (answers, last) := readAll rest moved
      (answer.map (Field.mk type) :: answers, last)

/-- Read the first byte of a header and say whether it opens a native one, which also sets the byte
order. -/
def readHeaderByte (reader : Reader) : Except DecodeError Bool × Reader :=
  match reader.read .byte with
  | (.error cause, moved) => (.error cause, moved)
  | (.ok lead, moved) =>
      if Native.isLead lead then (.ok true, moved.setOrder (Native.orderOfLead lead))
      else (.ok false, moved)

/-- Read how many items follow, refusing more than the bytes left can hold at the given number of
bytes for each. -/
def readCount (itemSize : Nat) (reader : Reader) : Except DecodeError Nat × Reader :=
  match reader.read .word32 with
  | (.error cause, moved) => (.error cause, moved)
  | (.ok count, moved) =>
      if count.toNat * itemSize ≤ moved.remaining then (.ok count.toNat, moved)
      else (.error (.countTooLarge count.toNat moved.remaining), moved)

@[simp] theorem order?_readCount (itemSize : Nat) (reader : Reader) :
    (reader.readCount itemSize).2.order? = reader.order? := by
  have kept := order?_read .word32 reader
  unfold readCount
  split
  · rename_i answered
    rwa [answered] at kept
  · rename_i answered
    rw [answered] at kept
    split <;> exact kept

@[simp] theorem contents_readCount (itemSize : Nat) (reader : Reader) :
    (reader.readCount itemSize).2.tape.contents = reader.tape.contents := by
  have kept := contents_read .word32 reader
  unfold readCount
  split
  · rename_i answered
    rwa [answered] at kept
  · rename_i answered
    rw [answered] at kept
    split <;> exact kept

end Reader

end GeoWire
