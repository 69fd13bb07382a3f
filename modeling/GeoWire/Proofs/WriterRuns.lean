import GeoWire.Proofs.EmissionOutcome
import Mathlib.Algebra.Group.Int.Defs
import Mathlib.Algebra.GroupWithZero.Nat

/-!
# Runs of writers

A writer into a buffer of zeros keeps the first of the bytes that it is given, as many as the buffer
holds. Whether a field fits is a matter of the widths of all fields up to it, those included that did
not fit.
-/

set_option autoImplicit false

namespace GeoWire

/-!
## Encodings
-/

namespace FieldType

/-- The number that a value stands for, signed where the type is. A double stands for its pattern. -/
def number : (type : FieldType) → type.Value → Int
  | .byte, value => value.toNat
  | .int16, value => value.toInt
  | .int32, value => value.toInt
  | .word32, value => value.toNat
  | .int64, value => value.toInt
  | .double, value => value.bits.toNat

theorem width_pos (type : FieldType) : 0 < type.width := by
  cases type <;> decide

theorem toNat_eq_toInt_emod {width : Nat} (bits : BitVec width) :
    (bits.toNat : Int) = bits.toInt % (2 ^ width : Nat) := by
  rw [BitVec.toInt_eq_toNat_bmod, Int.bmod_emod, ← Int.natCast_emod, Nat.mod_eq_of_lt bits.isLt]

/-- A signed number is encoded as its two's complement, any other as it is. -/
theorem toBits_eq_number_emod (type : FieldType) (value : type.Value) :
    (type.toBits value : Int) = type.number value % 256 ^ type.width := by
  have unsigned {number bound : Nat} (fits : number < bound) :
      (number : Int) = number % (bound : Int) := by
    rw [← Int.natCast_emod, Nat.mod_eq_of_lt fits]
  cases type with
  | byte => exact unsigned value.toNat_lt
  | int16 => exact toNat_eq_toInt_emod value.toBitVec
  | int32 => exact toNat_eq_toInt_emod value.toBitVec
  | word32 => exact unsigned value.toNat_lt
  | int64 => exact toNat_eq_toInt_emod value.toBitVec
  | double => exact unsigned value.bits.toNat_lt

theorem value_arrange_encode (order : ByteOrder) (type : FieldType) (value : type.Value) :
    Bytes.value (order.arrange (type.encode order value)) = type.toBits value := by
  rw [encode, ByteOrder.arrange_arrange, Bytes.value_digits, Nat.mod_eq_of_lt (type.toBits_lt value)]

end FieldType

namespace Field

def totalWidth (fields : List Field) : Nat :=
  (fields.map fun field => field.type.width).sum

@[simp] theorem totalWidth_nil : totalWidth [] = 0 :=
  rfl

@[simp] theorem totalWidth_cons (field : Field) (rest : List Field) :
    totalWidth (field :: rest) = field.type.width + totalWidth rest := by
  simp [totalWidth]

theorem totalWidth_le_of_isPrefix {front fields : List Field} (isFront : front <+: fields) :
    totalWidth front ≤ totalWidth fields := by
  obtain ⟨further, rfl⟩ := isFront
  simp only [totalWidth, List.map_append, List.sum_append_nat]
  exact Nat.le_add_right _ _

theorem length_flatMap_bytes (order : ByteOrder) (fields : List Field) :
    (fields.flatMap (bytes order)).length = totalWidth fields := by
  rw [List.length_flatMap, totalWidth]
  simp only [length_bytes]

end Field

/-!
## Writers
-/

namespace Writer

variable {length : Nat} {order : ByteOrder}

/-- A writer into a buffer of zeros that was given some bytes. Those beyond the end are lost. -/
def given (length : Nat) (order : ByteOrder) (bytes : List UInt8) : Writer where
  tape := ⟨(bytes.take length).reverse, .replicate (length - bytes.length) 0⟩
  order := order

theorem position_given (bytes : List UInt8) :
    (given length order bytes).position = min length bytes.length := by
  simp [given, position, Tape.position]

theorem contents_given (bytes : List UInt8) :
    (given length order bytes).contents =
      bytes.take length ++ .replicate (length - bytes.length) 0 := by
  simp [given, contents, Tape.contents]

theorem capacity_given (bytes : List UInt8) : (given length order bytes).capacity = length := by
  simp only [given, capacity, Tape.contents, List.reverse_reverse, List.length_append,
    List.length_take, List.length_replicate]
  omega

/-- A field is given to the writer in any case and fits if the bytes up to its end do. -/
theorem write_given (field : Field) (bytes : List UInt8) :
    (given length order bytes).write field =
      (if bytes.length + field.type.width ≤ length then .ok () else .error .bufferFull,
        given length order (bytes ++ field.bytes order)) := by
  have width := field.length_bytes order
  have moved : (given length order bytes).tape.overwrite (field.bytes order) =
      (given length order (bytes ++ field.bytes order)).tape := by
    rw [Tape.overwrite_eq]
    simp only [given, Tape.remaining, List.length_replicate, List.take_append, List.reverse_append,
      List.drop_replicate, List.length_append, Nat.sub_sub]
  have room : (given length order bytes).tape.hasAhead (field.bytes order).length = true ↔
      bytes.length + field.type.width ≤ length := by
    have someByte := field.type.width_pos
    rw [Tape.hasAhead_iff, width]
    simp only [given, Tape.remaining, List.length_replicate]
    omega
  have sameOrder : (given length order bytes).order = order := rfl
  simp only [write, sameOrder, moved, room]
  split <;> rfl

theorem snd_writeAll_given (fields : List Field) (bytes : List UInt8) :
    ((given length order bytes).writeAll fields).2 =
      given length order (bytes ++ fields.flatMap (Field.bytes order)) := by
  induction fields generalizing bytes with
  | nil => simp [writeAll]
  | cons field rest ih =>
      rw [writeAll, write_given]
      simp only [ih, List.flatMap_cons, List.append_assoc]

theorem getElem?_writeAll_given (fields : List Field) (bytes : List UInt8) (index : Nat) :
    ((given length order bytes).writeAll fields).1[index]? =
      fields[index]?.map fun _ =>
        if bytes.length + Field.totalWidth (fields.take (index + 1)) ≤ length then .ok ()
        else .error .bufferFull := by
  induction fields generalizing bytes index with
  | nil => rfl
  | cons field rest ih =>
      rw [writeAll, write_given]
      cases index with
      | zero => simp
      | succ index =>
          simp only [List.getElem?_cons_succ, ih, List.take_succ_cons, Field.totalWidth_cons,
            List.length_append, Field.length_bytes, Nat.add_assoc]

theorem zeroed_eq_given (length : Nat) (order : ByteOrder) :
    zeroed length order = given length order [] := by
  simp [zeroed, given, Tape.ofBytes]

theorem snd_writeAll_zeroed (length : Nat) (order : ByteOrder) (fields : List Field) :
    ((zeroed length order).writeAll fields).2 =
      given length order (fields.flatMap (Field.bytes order)) := by
  rw [zeroed_eq_given]
  exact snd_writeAll_given fields []

theorem getElem?_writeAll_zeroed (length : Nat) (order : ByteOrder) (fields : List Field)
    (index : Nat) :
    ((zeroed length order).writeAll fields).1[index]? = fields[index]?.map fun _ =>
      if Field.totalWidth (fields.take (index + 1)) ≤ length then .ok ()
      else .error .bufferFull := by
  rw [zeroed_eq_given, getElem?_writeAll_given]
  simp only [List.length_nil, Nat.zero_add]

theorem contents_writeAll_of_fits {fields : List Field} (order : ByteOrder)
    (fits : Field.totalWidth fields ≤ length) :
    ((zeroed length order).writeAll fields).2.contents =
      fields.flatMap (Field.bytes order) ++ .replicate (length - Field.totalWidth fields) 0 := by
  have width := Field.length_flatMap_bytes order fields
  have whole : (fields.flatMap (Field.bytes order)).length ≤ length := width ▸ fits
  simp only [snd_writeAll_zeroed, contents_given, List.take_of_length_le whole, width]

theorem length_writeAll (fields : List Field) (writer : Writer) :
    (writer.writeAll fields).1.length = fields.length := by
  induction fields generalizing writer with
  | nil => rfl
  | cons field rest ih => simp only [writeAll, List.length_cons, ih]

/-- After any fields the writer is where their widths have brought it, those that did not fit
included, or at the end of the buffer, and the buffer holds the first of their bytes and zeros. A field
fits as long as the widths up to it do, and none does after one that did not. The bytes of a field are
the digits of its number, in two's complement, in the order of the writer. -/
theorem writeAll_zeroed (length : Nat) (order : ByteOrder) (fields : List Field) :
    let answers := ((zeroed length order).writeAll fields).1
    let writer := ((zeroed length order).writeAll fields).2
    (writer.position = min length (Field.totalWidth fields) ∧
      writer.contents = (fields.flatMap (Field.bytes order)).take length ++
        .replicate (length - Field.totalWidth fields) 0 ∧
      writer.capacity = length ∧ writer.order = order) ∧
    (answers.length = fields.length ∧
      ∀ index, index < fields.length → answers[index]? = some
        (if Field.totalWidth (fields.take (index + 1)) ≤ length then .ok ()
          else .error .bufferFull)) ∧
    (∀ index later cause, answers[index]? = some (.error cause) → index ≤ later →
      later < fields.length → answers[later]? = some (.error .bufferFull)) ∧
    ∀ field ∈ fields, (field.bytes order).length = field.type.width ∧
      (Bytes.value (order.arrange (field.bytes order)) : Int) =
        field.type.number field.value % 256 ^ field.type.width := by
  intro answers writer
  have last : writer = given length order (fields.flatMap (Field.bytes order)) :=
    snd_writeAll_zeroed length order fields
  have answer {index : Nat} (within : index < fields.length) : answers[index]? = some
      (if Field.totalWidth (fields.take (index + 1)) ≤ length then .ok ()
        else .error .bufferFull) := by
    have answered := getElem?_writeAll_zeroed length order fields index
    rwa [List.getElem?_eq_getElem within] at answered
  refine ⟨⟨?_, ?_, ?_, ?_⟩, ⟨length_writeAll fields _, fun _ => answer⟩, ?_, ?_⟩
  · rw [last, position_given, Field.length_flatMap_bytes]
  · rw [last, contents_given, Field.length_flatMap_bytes]
  · rw [last, capacity_given]
  · rw [last, given]
  · intro index later cause failed before within
    rw [answer (Nat.lt_of_le_of_lt before within), Option.some.injEq] at failed
    have tooWide : ¬ Field.totalWidth (fields.take (index + 1)) ≤ length := by
      intro fits
      rw [if_pos fits] at failed
      cases failed
    have wider := Field.totalWidth_le_of_isPrefix
      (List.take_prefix_take_left (l := fields) (Nat.add_le_add_right before 1))
    rw [answer within, if_neg (by omega)]
  · intro field _
    refine ⟨field.length_bytes order, ?_⟩
    rw [Field.bytes, FieldType.value_arrange_encode, FieldType.toBits_eq_number_emod]

/-- A negative number, a word of which only three bytes fit, and a byte after it. -/
theorem writeAll_zeroed_full :
    let fields : List Field := [⟨.int16, (-2 : Int16)⟩, ⟨.word32, (0x01020304 : UInt32)⟩,
      ⟨.byte, (5 : UInt8)⟩]
    let answers := ((zeroed 5 .big).writeAll fields).1
    let writer := ((zeroed 5 .big).writeAll fields).2
    writer.position = 5 ∧ writer.contents = [0xff, 0xfe, 1, 2, 3] ∧
      answers[0]? = some (.ok ()) ∧ answers[1]? = some (.error .bufferFull) ∧
      answers[2]? = some (.error .bufferFull) := by
  intro fields answers writer
  obtain ⟨⟨position, contents, _, _⟩, ⟨_, answered⟩, stays, _⟩ := writeAll_zeroed 5 .big fields
  have filled : (fields.flatMap (Field.bytes .big)).take 5 = [0xff, 0xfe, 1, 2, 3] := by decide
  rw [filled] at contents
  have failed : answers[1]? = some (.error .bufferFull) := answered 1 (by decide)
  exact ⟨position, contents, answered 0 (by decide), failed,
    stays 1 2 .bufferFull failed (by decide) (by decide)⟩

end Writer

end GeoWire
