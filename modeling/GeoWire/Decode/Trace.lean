import GeoWire.Decode.Decoder

/-!
What a decoder asks of a reader on its way: every field and count that it reads, each with the reader
as it is before, up to the end of the run or to the first that cannot be read.
-/

set_option autoImplicit false

namespace GeoWire

/-- Something that a decoder asks for. -/
inductive Query where
  | field (type : FieldType)
  | count (itemSize : Nat)
deriving DecidableEq, Repr

/-- The type of the field that is read for a query. A count is a word. -/
def Query.type : Query → FieldType
  | .field type => type
  | .count _ => .word32

/-- A query, and the reader to which it is put. -/
structure Access where
  query : Query
  reader : Reader
deriving DecidableEq, Repr

/-- The byte order that the next byte of the reader declares when it is taken for a marker. -/
def Access.marked? (access : Access) : Option ByteOrder :=
  access.reader.tape.ahead.head?.bind ByteOrder.ofMarker?

/-- The byte order that the last single byte among the accesses declares. -/
def declaredOrder? (accesses : List Access) : Option ByteOrder :=
  (accesses.filter (·.query = .field .byte)).getLast?.bind Access.marked?

namespace Decoder

/-- The accesses of a run in their order. The last of them may have failed. -/
def trace {α : Type} : Decoder α → Reader → List Access
  | .done _, _ | .fail _, _ => []
  | .readField type next, reader =>
      ⟨.field type, reader⟩ ::
        match reader.read type with
        | (.ok value, moved) => (next value).trace moved
        | (.error _, _) => []
  | .readCount itemSize next, reader =>
      ⟨.count itemSize, reader⟩ ::
        match reader.readCount itemSize with
        | (.ok items, moved) => (next items).trace moved
        | (.error _, _) => []
  | .switchOrder order next, reader => next.trace (reader.setOrder order)

theorem trace_readField_byte {α : Type} (next : UInt8 → Decoder α) (behind rest : List UInt8)
    (byte : UInt8) (known : Option ByteOrder) :
    (readField .byte next).trace ⟨⟨behind, byte :: rest⟩, known⟩ =
      ⟨.field .byte, ⟨⟨behind, byte :: rest⟩, known⟩⟩ ::
        (next byte).trace ⟨⟨byte :: behind, rest⟩, known⟩ := by
  rw [trace, Reader.read_byte]

theorem trace_bind {α β : Type} (first : Decoder α) (continuation : α → Decoder β)
    (reader : Reader) :
    (first >>= continuation).trace reader = first.trace reader ++
      match first.run reader with
      | (.ok value, moved) => (continuation value).trace moved
      | (.error _, _) => [] := by
  show (first.andThen continuation).trace reader = _
  induction first generalizing reader with
  | done value => rfl
  | fail cause => rfl
  | readField type next ih =>
      simp only [andThen, trace, run]
      rcases reader.read type with ⟨_ | value, moved⟩
      · rfl
      · exact congrArg _ (ih value moved)
  | readCount itemSize next ih =>
      simp only [andThen, trace, run]
      rcases reader.readCount itemSize with ⟨_ | items, moved⟩
      · rfl
      · exact congrArg _ (ih items moved)
  | switchOrder order next ih => exact ih (reader.setOrder order)

theorem contents_of_mem_trace {α : Type} {decoder : Decoder α} {reader : Reader} {access : Access}
    (belongs : access ∈ decoder.trace reader) :
    access.reader.tape.contents = reader.tape.contents := by
  induction decoder generalizing reader with
  | done value => cases belongs
  | fail cause => cases belongs
  | readField type next ih =>
      have kept := reader.contents_read type
      rw [trace] at belongs
      rcases List.mem_cons.mp belongs with rfl | belongs
      · rfl
      · generalize reader.read type = outcome at kept belongs
        rcases outcome with ⟨_ | value, moved⟩
        · cases belongs
        · exact (ih value belongs).trans kept
  | readCount itemSize next ih =>
      have kept := reader.contents_readCount itemSize
      rw [trace] at belongs
      rcases List.mem_cons.mp belongs with rfl | belongs
      · rfl
      · generalize reader.readCount itemSize = outcome at kept belongs
        rcases outcome with ⟨_ | items, moved⟩
        · cases belongs
        · exact (ih items belongs).trans kept
  | switchOrder order next ih =>
      rw [trace] at belongs
      have kept := ih belongs
      exact kept

end Decoder

end GeoWire
