import GeoWire.Proofs.Acceptance
import GeoWire.Proofs.WriterRuns

/-!
# Reading back

Fields that were written one after the other into a buffer with room for all of them are read back as
they were, with the reader keeping step with the writer.
-/

set_option autoImplicit false

namespace GeoWire

namespace Reader

theorem read_of_short {type : FieldType} {reader : Reader} {order : ByteOrder}
    (known : reader.order? = some order) (short : reader.remaining < type.width) :
    (reader.read type).1 = .error (.truncated reader.position type.width) := by
  have readsIn : type.ReadsIn reader.order? order := .inr known
  simp only [read_of_readsIn readsIn, if_neg (Nat.not_le_of_lt short)]

/-- Reading goes over the bytes of the fields and returns each of them. -/
theorem readAll_bytes (order : ByteOrder) (fields : List Field) (behind rest : List UInt8) :
    readAll (fields.map Field.type)
        ⟨⟨behind, fields.flatMap (Field.bytes order) ++ rest⟩, some order⟩ =
      (fields.map .ok,
        ⟨⟨(fields.flatMap (Field.bytes order)).reverse ++ behind, rest⟩, some order⟩) := by
  induction fields generalizing behind with
  | nil => rfl
  | cons field others ih =>
      have readsIn : field.type.ReadsIn (some order) order := .inr rfl
      rw [List.map_cons, readAll, List.flatMap_cons, List.append_assoc, Field.bytes,
        read_encode readsIn field.value]
      simp only [ih, List.map_cons, List.reverse_append, List.append_assoc]
      rfl

/-- The reader after some of the reads. -/
theorem snd_readAll_take (order : ByteOrder) (fields : List Field) (rest : List UInt8) (index : Nat) :
    (readAll ((fields.map Field.type).take index)
        ⟨⟨[], fields.flatMap (Field.bytes order) ++ rest⟩, some order⟩).2 =
      ⟨⟨((fields.take index).flatMap (Field.bytes order)).reverse,
        (fields.drop index).flatMap (Field.bytes order) ++ rest⟩, some order⟩ := by
  have parted : fields.flatMap (Field.bytes order) =
      (fields.take index).flatMap (Field.bytes order) ++
        (fields.drop index).flatMap (Field.bytes order) := by
    simp only [← List.flatMap_append, List.take_append_drop]
  simp only [parted, List.append_assoc, ← List.map_take, readAll_bytes, List.append_nil]

/-- Fields that were written into a buffer with room for all of them are read back by their types.
After as many reads as writes the reader is where the writer was, and a field that is wider than what
is left there is refused with that place and its width. -/
theorem readAll_writeAll (order : ByteOrder) (fields : List Field) (length : Nat)
    (fits : Field.totalWidth fields ≤ length) :
    let writer := Writer.zeroed length order
    let reader := (ofBytes (writer.writeAll fields).2.contents).setOrder order
    let types := fields.map Field.type
    (writer.writeAll fields).1 = fields.map (fun _ => .ok ()) ∧
    (reader.readAll types).1 = fields.map .ok ∧
    ∀ index,
      let written := (writer.writeAll (fields.take index)).2
      let moved := (reader.readAll (types.take index)).2
      moved.position = written.position ∧
        ∀ type : FieldType, moved.remaining < type.width →
          (moved.read type).1 = .error (.truncated written.position type.width) := by
  intro writer reader types
  have start : reader = ⟨⟨[], fields.flatMap (Field.bytes order) ++
      .replicate (length - Field.totalWidth fields) 0⟩, some order⟩ := by
    simp only [reader, writer, Writer.contents_writeAll_of_fits order fits]
    rfl
  have front_le (index : Nat) : Field.totalWidth (fields.take index) ≤ length :=
    Nat.le_trans (Field.totalWidth_le_of_isPrefix (List.take_prefix index fields)) fits
  refine ⟨?_, ?_, ?_⟩
  · apply List.ext_getElem?
    intro index
    simp only [writer, Writer.getElem?_writeAll_zeroed, if_pos (front_le (index + 1)),
      List.getElem?_map]
  · simp only [start, types, readAll_bytes]
  · intro index written moved
    have writes : written = Writer.given length order _ :=
      Writer.snd_writeAll_zeroed length order (fields.take index)
    have reads : moved =
        ⟨⟨((fields.take index).flatMap (Field.bytes order)).reverse, _⟩, some order⟩ :=
      start ▸ snd_readAll_take order fields _ index
    have samePosition : moved.position = written.position := by
      simp only [reads, writes, position, Tape.position, List.length_reverse,
        Writer.position_given, Field.length_flatMap_bytes, Nat.min_eq_right (front_le index)]
    refine ⟨samePosition, ?_⟩
    intro type short
    have known : moved.order? = some order := by rw [reads]
    rw [← samePosition]
    exact read_of_short known short

/-- A byte, a negative number and a signalling NaN, in a buffer with one byte more. -/
theorem readAll_writeAll_signalling :
    let fields : List Field := [⟨.byte, (7 : UInt8)⟩, ⟨.int16, (-2 : Int16)⟩,
      ⟨.double, ⟨0x7ff0000000000001⟩⟩]
    let types : List FieldType := [.byte, .int16, .double]
    let reader := (ofBytes ((Writer.zeroed 12 .big).writeAll fields).2.contents).setOrder .big
    (reader.readAll types).1 = fields.map .ok ∧
      ((reader.readAll types).2.read .word32).1 = .error (.truncated 11 4) := by
  intro fields types reader
  obtain ⟨_, values, steps⟩ := readAll_writeAll .big fields 12 (by decide)
  obtain ⟨_, refused⟩ := steps 3
  exact ⟨values, refused .word32 (by decide)⟩

end Reader

end GeoWire
