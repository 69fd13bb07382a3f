import GeoWire.Bytes.Digits
import GeoWire.Bytes.Order
import GeoWire.Ordinate

/-!
Fields of fixed width: the numbers a blob is made of. `decode_encode` says that the bytes of a field
read back as its value in either byte order, and `encode_decode` that no other bytes do.
-/

set_option autoImplicit false

namespace GeoWire

inductive FieldType where
  | byte
  | int16
  | int32
  | word32
  | int64
  | double
deriving DecidableEq, Repr

namespace FieldType

abbrev Value : FieldType → Type
  | .byte => UInt8
  | .int16 => Int16
  | .int32 => Int32
  | .word32 => UInt32
  | .int64 => Int64
  | .double => Ordinate

def width : FieldType → Nat
  | .byte => 1
  | .int16 => 2
  | .int32 | .word32 => 4
  | .int64 | .double => 8

/-- The bits of a value as a number: two's complement for signed integers, the pattern of a
double. -/
def toBits : (type : FieldType) → type.Value → Nat
  | .byte, value => value.toNat
  | .int16, value => value.toUInt16.toNat
  | .int32, value => value.toUInt32.toNat
  | .word32, value => value.toNat
  | .int64, value => value.toUInt64.toNat
  | .double, value => value.bits.toNat

def ofBits : (type : FieldType) → Nat → type.Value
  | .byte, bits => UInt8.ofNat bits
  | .int16, bits => (UInt16.ofNat bits).toInt16
  | .int32, bits => (UInt32.ofNat bits).toInt32
  | .word32, bits => UInt32.ofNat bits
  | .int64, bits => (UInt64.ofNat bits).toInt64
  | .double, bits => ⟨UInt64.ofNat bits⟩

def encode (order : ByteOrder) (type : FieldType) (value : type.Value) : List UInt8 :=
  order.arrange (Bytes.digits type.width (type.toBits value))

def decode (order : ByteOrder) (type : FieldType) (bytes : List UInt8) : type.Value :=
  type.ofBits (Bytes.value (order.arrange bytes))

theorem ofBits_toBits (type : FieldType) (value : type.Value) :
    type.ofBits (type.toBits value) = value := by
  cases type <;> simp [ofBits, toBits]

theorem toBits_ofBits (type : FieldType) (bits : Nat) :
    type.toBits (type.ofBits bits) = bits % Bytes.valueCount type.width := by
  cases type <;> simp [ofBits, toBits, width, Bytes.valueCount]

theorem toBits_lt (type : FieldType) (value : type.Value) :
    type.toBits value < Bytes.valueCount type.width := by
  rw [← type.ofBits_toBits value, toBits_ofBits]
  exact Nat.mod_lt _ (Bytes.valueCount_pos _)

@[simp] theorem length_encode (order : ByteOrder) (type : FieldType) (value : type.Value) :
    (type.encode order value).length = type.width := by
  simp [encode]

@[simp] theorem encode_byte (order : ByteOrder) (value : UInt8) :
    encode order .byte value = [value] := by
  cases order <;> simp [encode, ByteOrder.arrange, width, toBits, Bytes.digits]

theorem decode_encode (order : ByteOrder) (type : FieldType) (value : type.Value) :
    type.decode order (type.encode order value) = value := by
  rw [decode, encode, ByteOrder.arrange_arrange, Bytes.value_digits,
    Nat.mod_eq_of_lt (type.toBits_lt value), ofBits_toBits]

theorem encode_decode (order : ByteOrder) (type : FieldType) {bytes : List UInt8}
    (fits : bytes.length = type.width) :
    type.encode order (type.decode order bytes) = bytes := by
  have arranged : (order.arrange bytes).length = type.width := by simp [fits]
  have bound := Bytes.value_lt (order.arrange bytes)
  rw [arranged] at bound
  rw [encode, decode, toBits_ofBits, Nat.mod_eq_of_lt bound, ← arranged, Bytes.digits_value,
    ByteOrder.arrange_arrange]

end FieldType

/-- A value that is written as one field. -/
structure Field where
  type : FieldType
  value : type.Value

def Field.bytes (order : ByteOrder) (field : Field) : List UInt8 :=
  field.type.encode order field.value

end GeoWire
