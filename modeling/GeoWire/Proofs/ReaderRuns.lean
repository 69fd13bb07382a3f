import GeoWire.Proofs.Acceptance
import GeoWire.Proofs.WriterRuns
import GeoWire.Reader.Operation

/-!
# Runs of readers

A reader never leaves its buffer. A field is taken from the buffer at the position, in the order that is
set, and moves the position over it; one that is cut off moves it to the end. Once an order is set there
is always one.
-/

set_option autoImplicit false

namespace GeoWire

namespace Reader

/-!
## Single operations
-/

section Operations

variable {type : FieldType} {reader : Reader}

theorem read_of_unknown (unknown : reader.order? = none) (wide : type ≠ .byte) :
    reader.read type = (.error .byteOrderUnknown, reader) := by
  have unordered : reader.orderFor? type = none := by
    cases type with
    | byte => exact absurd rfl wide
    | int16 | int32 | word32 | int64 | double => exact unknown
  simp only [read, unordered]

theorem readHeaderByte_cons (behind rest : List UInt8) (lead : UInt8) (known : Option ByteOrder) :
    readHeaderByte ⟨⟨behind, lead :: rest⟩, known⟩ =
      (.ok (Native.isLead lead), ⟨⟨lead :: behind, rest⟩,
        if Native.isLead lead then some (Native.orderOfLead lead) else known⟩) := by
  rw [readHeaderByte, read_byte]
  cases native : Native.isLead lead <;> simp only [native] <;> rfl

theorem contents_readHeaderByte (reader : Reader) :
    reader.readHeaderByte.2.tape.contents = reader.tape.contents := by
  obtain ⟨⟨behind, _ | ⟨lead, rest⟩⟩, known⟩ := reader
  · rfl
  · rw [readHeaderByte_cons]
    simp [Tape.contents]

theorem contents_perform (operation : Operation) (reader : Reader) :
    (reader.perform operation).2.tape.contents = reader.tape.contents := by
  cases operation with
  | read type => exact reader.contents_read type
  | readHeaderByte => exact reader.contents_readHeaderByte
  | pushBack => exact reader.tape.contents_back
  | setOrder order => rfl

theorem order?_perform (operation : Operation) (reader : Reader) :
    (reader.perform operation).2.order? = reader.order? ∨
      (∃ order, operation = .setOrder order ∧ (reader.perform operation).2.order? = some order) ∨
      operation = .readHeaderByte ∧ ∃ lead, reader.tape.ahead.head? = some lead ∧
        Native.isLead lead = true ∧
        (reader.perform operation).2.order? = some (Native.orderOfLead lead) := by
  cases operation with
  | read type => exact .inl (reader.order?_read type)
  | readHeaderByte =>
      obtain ⟨⟨behind, _ | ⟨lead, rest⟩⟩, known⟩ := reader
      · exact .inl rfl
      · rw [perform, readHeaderByte_cons]
        cases native : Native.isLead lead with
        | true => exact .inr (.inr ⟨rfl, lead, rfl, native, rfl⟩)
        | false => exact .inl rfl
  | pushBack => exact .inl rfl
  | setOrder order => exact .inr (.inl ⟨order, rfl, rfl⟩)

theorem isSome_order?_perform (known : reader.order?.isSome = true) (operation : Operation) :
    (reader.perform operation).2.order?.isSome = true := by
  rcases reader.order?_perform operation with kept | ⟨_, _, set⟩ | ⟨_, _, _, _, set⟩
  · rwa [kept]
  · rw [set]; rfl
  · rw [set]; rfl

end Operations

/-!
## Runs
-/

theorem contents_performAll (operations : List Operation) (reader : Reader) :
    (reader.performAll operations).tape.contents = reader.tape.contents := by
  induction operations generalizing reader with
  | nil => rfl
  | cons operation rest ih => exact (ih _).trans (reader.contents_perform operation)

theorem isSome_order?_performAll {reader : Reader} (known : reader.order?.isSome = true)
    (operations : List Operation) : (reader.performAll operations).order?.isSome = true := by
  induction operations generalizing reader with
  | nil => exact known
  | cons operation rest ih => exact ih (isSome_order?_perform known operation)

section Buffer

variable {buffer : List UInt8} {reader : Reader}

theorem position_add_remaining (held : reader.tape.contents = buffer) :
    reader.position + reader.remaining = buffer.length := by
  rw [← held]
  exact reader.tape.length_contents.symm

theorem ahead_eq_drop (held : reader.tape.contents = buffer) :
    reader.tape.ahead = buffer.drop reader.position := by
  rw [← held]
  exact reader.tape.drop_contents.symm

theorem head?_ahead (held : reader.tape.contents = buffer) :
    reader.tape.ahead.head? = buffer[reader.position]? := by
  rw [ahead_eq_drop held, List.head?_drop]

/-- A field that fits is read from the buffer at the position. -/
theorem read_of_fits (held : reader.tape.contents = buffer) {type : FieldType} {order : ByteOrder}
    (readsIn : type.ReadsIn reader.order? order)
    (fits : reader.position + type.width ≤ buffer.length) :
    let field := (buffer.drop reader.position).take type.width
    (∃ value, (reader.read type).1 = .ok value ∧ type.encode order value = field ∧
      (Bytes.value (order.arrange field) : Int) = type.number value % 256 ^ type.width) ∧
      (reader.read type).2.position = reader.position + type.width := by
  intro field
  have length := position_add_remaining held
  have enough : type.width ≤ reader.remaining := by omega
  have whole : field.length = type.width := by
    simp only [field, List.length_take, List.length_drop]
    omega
  have spelled := type.encode_decode order whole
  have taken : reader.tape.ahead.take type.width = field := by rw [ahead_eq_drop held]
  simp only [read_of_readsIn readsIn, if_pos enough, taken]
  refine ⟨⟨type.decode order field, rfl, spelled, ?_⟩, ?_⟩
  · rw [← FieldType.toBits_eq_number_emod, ← FieldType.value_arrange_encode order, spelled]
  · exact (reader.tape.position_advance type.width).trans
      (congrArg (reader.position + ·) (Nat.min_eq_left enough))

/-- A field that is cut off is refused where it begins. -/
theorem read_of_cutOff (held : reader.tape.contents = buffer) {type : FieldType} {order : ByteOrder}
    (readsIn : type.ReadsIn reader.order? order)
    (cutOff : buffer.length < reader.position + type.width) :
    (reader.read type).1 = .error (.truncated reader.position type.width) ∧
      (reader.read type).2.position = buffer.length := by
  have length := position_add_remaining held
  have lacking : ¬ type.width ≤ reader.remaining := by omega
  simp only [read_of_readsIn readsIn, if_neg lacking, true_and]
  have rest : min type.width reader.remaining = reader.remaining := by omega
  exact (reader.tape.position_advance type.width).trans
    ((congrArg (reader.position + ·) rest).trans length)

theorem readHeaderByte_of_lead (held : reader.tape.contents = buffer) {lead : UInt8}
    (first : buffer[reader.position]? = some lead) :
    reader.readHeaderByte.1 = .ok (Native.isLead lead) ∧
      reader.readHeaderByte.2.position = reader.position + 1 ∧
      reader.readHeaderByte.2.order? =
        if Native.isLead lead then some (Native.orderOfLead lead) else reader.order? := by
  rw [← head?_ahead held] at first
  obtain ⟨⟨behind, _ | ⟨_, rest⟩⟩, known⟩ := reader
  · cases first
  · cases first
    rw [readHeaderByte_cons]
    exact ⟨rfl, rfl, rfl⟩

theorem readHeaderByte_of_end (held : reader.tape.contents = buffer)
    (atEnd : reader.position = buffer.length) :
    reader.readHeaderByte = (.error (.truncated reader.position 1), reader) := by
  have first : reader.tape.ahead.head? = none := by
    rw [head?_ahead held, atEnd, List.getElem?_eq_none (Nat.le_refl _)]
  obtain ⟨⟨behind, _ | ⟨_, rest⟩⟩, known⟩ := reader
  · rfl
  · cases first

end Buffer

/-- What holds of a reader after any operations, and of what it does next. It is inside its buffer, with
the bytes that are left behind the position. Once an order is set there always is one, and it changes
only as it is set or by the lead byte of a native header. A wide field without an order is refused and
nothing moves. Any other field is read at the position, or refused where it begins with the end as the
new position. -/
theorem performAll_inside (buffer : List UInt8) (earlier : List Operation) :
    let reader := (ofBytes buffer).performAll earlier
    (reader.position ≤ buffer.length ∧ reader.position + reader.remaining = buffer.length) ∧
    (reader.order?.isSome = true →
      ∀ later, (reader.performAll later).order?.isSome = true) ∧
    (∀ operation, (reader.perform operation).2.order? = reader.order? ∨
      (∃ order, operation = .setOrder order ∧
        (reader.perform operation).2.order? = some order) ∨
      operation = .readHeaderByte ∧ ∃ lead, buffer[reader.position]? = some lead ∧
        Native.isLead lead = true ∧
        (reader.perform operation).2.order? = some (Native.orderOfLead lead)) ∧
    (∀ type, type ≠ .byte → reader.order? = none →
      reader.perform (.read type) = (.error .byteOrderUnknown, reader)) ∧
    (∀ type order, type.ReadsIn reader.order? order →
      let field := (buffer.drop reader.position).take type.width
      let answered := reader.perform (.read type)
      (reader.position + type.width ≤ buffer.length →
        (∃ value, answered.1 = .ok value ∧ type.encode order value = field ∧
          (Bytes.value (order.arrange field) : Int) = type.number value % 256 ^ type.width) ∧
        answered.2.position = reader.position + type.width) ∧
      (buffer.length < reader.position + type.width →
        answered.1 = .error (.truncated reader.position type.width) ∧
          answered.2.position = buffer.length)) ∧
    (∀ lead, buffer[reader.position]? = some lead →
      let answered := reader.perform .readHeaderByte
      answered.1 = .ok (Native.isLead lead) ∧ answered.2.position = reader.position + 1 ∧
        answered.2.order? =
          if Native.isLead lead then some (Native.orderOfLead lead) else reader.order?) ∧
    (reader.position = buffer.length →
      reader.perform .readHeaderByte = (.error (.truncated reader.position 1), reader)) ∧
    (reader.perform .pushBack).2.position = reader.position - 1 ∧
    ∀ order, (reader.perform (.setOrder order)).2 = ⟨reader.tape, some order⟩ := by
  intro reader
  have held : reader.tape.contents = buffer := contents_performAll earlier (ofBytes buffer)
  have length := position_add_remaining held
  refine ⟨⟨by omega, length⟩, isSome_order?_performAll, ?_, ?_, ?_, ?_, ?_, ?_, fun _ => rfl⟩
  · intro operation
    rw [← head?_ahead held]
    exact reader.order?_perform operation
  · intro type wide unknown
    exact read_of_unknown unknown wide
  · intro type order readsIn field answered
    exact ⟨read_of_fits held readsIn, read_of_cutOff held readsIn⟩
  · intro lead first
    exact readHeaderByte_of_lead held first
  · intro atEnd
    exact readHeaderByte_of_end held atEnd
  · exact reader.tape.position_back

/-- A lead byte of a standard header, a field that is refused for want of an order, a native lead byte,
a negative number after it, a double that is cut off, and the last byte again. -/
theorem performAll_inside_cutOff :
    let buffer : List UInt8 := [1, 9, 0xfe, 0xff, 7]
    let unordered := (ofBytes buffer).performAll [.readHeaderByte]
    let ordered := (ofBytes buffer).performAll [.readHeaderByte, .read .int16, .readHeaderByte]
    let atEnd := (ofBytes buffer).performAll [.readHeaderByte, .readHeaderByte, .read .double]
    unordered.perform (.read .int16) = (.error .byteOrderUnknown, unordered) ∧
      (∀ later, (ordered.performAll later).order?.isSome = true) ∧
      ((∃ value : Int16, (ordered.perform (.read .int16)).1 = .ok value ∧
        FieldType.encode .little .int16 value = [0xfe, 0xff]) ∧
        (ordered.perform (.read .int16)).2.position = 4) ∧
      ((ordered.perform (.read .double)).1 = .error (.truncated 2 8) ∧
        (ordered.perform (.read .double)).2.position = 5) ∧
      atEnd.perform .readHeaderByte = (.error (.truncated 5 1), atEnd) ∧
      (atEnd.perform .pushBack).2.position = 4 := by
  intro buffer unordered ordered atEnd
  have known : ordered.order? = some .little := by decide
  have second : ordered.position = 2 := by decide
  have last : atEnd.position = 5 := by decide
  obtain ⟨_, _, _, refused, _⟩ := performAll_inside buffer [.readHeaderByte]
  obtain ⟨_, stays, _, _, fields, _⟩ :=
    performAll_inside buffer [.readHeaderByte, .read .int16, .readHeaderByte]
  obtain ⟨_, _, _, _, _, _, ended, back, _⟩ :=
    performAll_inside buffer [.readHeaderByte, .readHeaderByte, .read .double]
  obtain ⟨⟨value, read, spelled, _⟩, moved⟩ := (fields .int16 .little (.inr known)).1 (by decide)
  obtain ⟨cutOff, moves⟩ := (fields .double .little (.inr known)).2 (by decide)
  change _ = Except.error (DecodeError.truncated ordered.position 8) at cutOff
  have refusedAtEnd : atEnd.perform .readHeaderByte =
      (.error (.truncated atEnd.position 1), atEnd) := ended last
  rw [second] at cutOff
  rw [last] at refusedAtEnd
  exact ⟨refused .int16 (by decide) (by decide), stays (by decide),
    ⟨⟨value, read, spelled.trans (by decide)⟩, moved.trans (by decide)⟩, ⟨cutOff, moves⟩,
    refusedAtEnd, back.trans (by decide)⟩

end Reader

end GeoWire
