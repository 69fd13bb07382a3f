import GeoWire.Proofs.BlobSteps

/-!
# Displacement

Reading from the middle of a buffer is reading the rest of it as a buffer of its own. The bytes before
show in reported positions alone, and a byte order that is left over from before is never used.
-/

set_option autoImplicit false

namespace GeoWire

/-- The cause that is found when so many bytes stand before the buffer. -/
def DecodeError.shift (offset : Nat) : DecodeError → DecodeError
  | .truncated position needed => .truncated (offset + position) needed
  | .trailingBytes position remaining => .trailingBytes (offset + position) remaining
  | cause => cause

theorem DecodeError.Justified.shift_eq {isNative : Bool} {inside : BodyContext → Prop}
    {cause : DecodeError} (justified : cause.Justified isNative inside) (offset : Nat) :
    cause.shift offset = cause := by
  cases justified <;> rfl

namespace Reader

/-- The reader in a buffer that has further bytes before it, the nearest first. -/
def precededBy (bytes : List UInt8) (reader : Reader) : Reader :=
  ⟨⟨reader.tape.behind ++ bytes, reader.tape.ahead⟩, reader.order?⟩

theorem position_precededBy (bytes : List UInt8) (reader : Reader) :
    (reader.precededBy bytes).position = bytes.length + reader.position := by
  simp [position, Tape.position, precededBy, Nat.add_comm]

@[simp] theorem remaining_precededBy (bytes : List UInt8) (reader : Reader) :
    (reader.precededBy bytes).remaining = reader.remaining :=
  rfl

end Reader

namespace Decoder

variable {α : Type} (bytes : List UInt8) (reader : Reader)

/-!
## Bytes before a buffer
-/

/-- An outcome when further bytes stand before the buffer. -/
def displaced (outcome : Except DecodeError α × Reader) : Except DecodeError α × Reader :=
  (outcome.1.mapError (·.shift bytes.length), outcome.2.precededBy bytes)

theorem read_precededBy (type : FieldType) :
    (reader.precededBy bytes).read type = displaced bytes (reader.read type) := by
  have sameOrder : (reader.precededBy bytes).orderFor? type = reader.orderFor? type := by
    cases type <;> rfl
  have sameFits : (reader.precededBy bytes).tape.hasAhead type.width =
      reader.tape.hasAhead type.width := rfl
  cases selected : reader.orderFor? type with
  | none =>
      simp only [Reader.read, sameOrder, selected]
      rfl
  | some order =>
      simp only [Reader.read, sameOrder, selected, sameFits, Reader.position_precededBy]
      split <;> simp [displaced, DecodeError.shift, Reader.precededBy, Tape.advance]

theorem readCount_precededBy (itemSize : Nat) :
    (reader.precededBy bytes).readCount itemSize = displaced bytes (reader.readCount itemSize) := by
  simp only [Reader.readCount, read_precededBy]
  rcases reader.read .word32 with ⟨_ | count, moved⟩
  · rfl
  · by_cases fits : count.toNat * itemSize ≤ moved.remaining <;>
      simp [displaced, DecodeError.shift, fits]

variable {bytes} {law : OrderState → Step → Prop} {returns : OrderState → α → Prop}
  {state : OrderState} {reader}

theorem run_readField_precededBy {type : FieldType} {next : type.Value → Decoder α}
    (further : ∀ value moved, (next value).run (moved.precededBy bytes) =
      displaced bytes ((next value).run moved)) :
    (readField type next).run (reader.precededBy bytes) =
      displaced bytes ((readField type next).run reader) := by
  simp only [run, read_precededBy]
  rcases reader.read type with ⟨_ | value, moved⟩
  · rfl
  · exact further value moved

/-- A run sees the bytes behind only in the positions that it reports. Refusals report none. -/
theorem Within.run_precededBy {decoder : Decoder α} (within : decoder.Within law returns state)
    (unplaced : ∀ state cause, law state (.refusal cause) → ∀ offset, cause.shift offset = cause) :
    decoder.run (reader.precededBy bytes) = displaced bytes (decoder.run reader) := by
  induction decoder generalizing state reader with
  | done value => rfl
  | fail cause =>
      have same := unplaced state cause within bytes.length
      simp only [run, displaced, Outcome.mapError_error, same]
  | readField type next ih =>
      exact run_readField_precededBy fun value _ => ih value (within.2 value)
  | readCount itemSize next ih =>
      simp only [run, readCount_precededBy]
      rcases reader.readCount itemSize with ⟨_ | items, moved⟩
      · rfl
      · exact ih items (within.2 items)
  | switchOrder order next ih =>
      have same : next.run ((reader.setOrder order).precededBy bytes) = _ := ih within
      exact same

theorem unplaced_of_lawful {isNative : Bool} {root : ByteOrder} {inside : BodyContext → Prop}
    (state : OrderState) (cause : DecodeError)
    (lawful : Lawful isNative root inside state (.refusal cause)) (offset : Nat) :
    cause.shift offset = cause := by
  cases lawful with
  | refusal _ justified => exact justified.shift_eq offset

theorem header_run_precededBy :
    Header.decoder.run (reader.precededBy bytes) = displaced bytes (Header.decoder.run reader) := by
  refine run_readField_precededBy fun lead moved => ?_
  have within : (Header.afterLead lead).Within (Lawful _ _ fun _ => True) _
      ⟨none, ByteOrder.ofMarker? lead⟩ := header_within rfl
  exact within.run_precededBy unplaced_of_lawful

theorem blob_run_precededBy (limit : Nat) :
    (blob limit).run (reader.precededBy bytes) = displaced bytes ((blob limit).run reader) := by
  refine run_readField_precededBy fun lead moved => ?_
  have within : (Header.afterLead lead >>= Header.bodyDecoder limit).Within
      (Lawful _ _ fun _ => True) _ ⟨none, ByteOrder.ofMarker? lead⟩ :=
    blob_within rfl fun _ => trivial
  exact within.run_precededBy unplaced_of_lawful

/-!
## Orders left over
-/

/-- The decoder fails or sets a byte order before it reads anything but single bytes. -/
def SetsOrderFirst : Decoder α → Prop
  | .done _ | .readCount _ _ => False
  | .fail _ | .switchOrder _ _ => True
  | .readField type next => type = .byte ∧ ∀ value, (next value).SetsOrderFirst

theorem SetsOrderFirst.bind {β : Type} {first : Decoder α} (sets : first.SetsOrderFirst)
    (next : α → Decoder β) : (first >>= next).SetsOrderFirst := by
  change (first.andThen next).SetsOrderFirst
  induction first with
  | done value => cases sets
  | fail cause => trivial
  | readField type continuation ih => exact ⟨sets.1, fun value => ih value (sets.2 value)⟩
  | readCount itemSize continuation => cases sets
  | switchOrder order continuation => trivial

theorem header_setsOrderFirst : Header.decoder.SetsOrderFirst := by
  refine ⟨rfl, fun lead => ?_⟩
  change (Header.afterLead lead).SetsOrderFirst
  unfold Header.afterLead
  split
  · trivial
  · refine SetsOrderFirst.bind ?_ _
    unfold orderOfMarker
    split <;> trivial

theorem SetsOrderFirst.run_eq {decoder : Decoder α} (sets : decoder.SetsOrderFirst) (tape : Tape)
    (known other : Option ByteOrder) :
    (decoder.run ⟨tape, known⟩).1 = (decoder.run ⟨tape, other⟩).1 ∧
      (decoder.run ⟨tape, known⟩).2.tape = (decoder.run ⟨tape, other⟩).2.tape := by
  induction decoder generalizing tape with
  | done value => cases sets
  | fail cause => exact ⟨rfl, rfl⟩
  | readField type next ih =>
      obtain ⟨rfl, further⟩ := sets
      obtain ⟨behind, _ | ⟨byte, rest⟩⟩ := tape
      · exact ⟨rfl, rfl⟩
      · rw [run_readField_byte, run_readField_byte]
        exact ih byte (further byte) _
  | readCount itemSize next => cases sets
  | switchOrder order next => exact ⟨rfl, rfl⟩

end Decoder

/-!
## Whole blobs
-/

namespace Reader

theorem readGeometry_precededBy (bytes : List UInt8) (reader : Reader) (limit : Nat) :
    (reader.precededBy bytes).readGeometry limit =
      Decoder.displaced bytes (reader.readGeometry limit) := by
  simp only [readGeometry, Decoder.blob_run_precededBy]
  rcases (Decoder.blob limit).run reader with ⟨_ | value, moved⟩
  · rfl
  · by_cases exhausted : moved.remaining = 0 <;>
      simp [Decoder.displaced, DecodeError.shift, exhausted, position_precededBy]

theorem readGeometry_of_order (tape : Tape) (known other : Option ByteOrder) (limit : Nat) :
    (readGeometry limit ⟨tape, known⟩).1 = (readGeometry limit ⟨tape, other⟩).1 ∧
      (readGeometry limit ⟨tape, known⟩).2.tape = (readGeometry limit ⟨tape, other⟩).2.tape := by
  have sets : (Decoder.blob limit).SetsOrderFirst :=
    Decoder.header_setsOrderFirst.bind (Header.bodyDecoder limit)
  obtain ⟨sameAnswer, sameTape⟩ := sets.run_eq tape known other
  unfold readGeometry
  generalize (Decoder.blob limit).run ⟨tape, known⟩ = left at sameAnswer sameTape
  generalize (Decoder.blob limit).run ⟨tape, other⟩ = right at sameAnswer sameTape
  obtain ⟨answer, leftMoved⟩ := left
  obtain ⟨_, rightMoved⟩ := right
  cases sameAnswer
  cases answer with
  | error cause => exact ⟨rfl, sameTape⟩
  | ok value =>
      have sameRemaining : leftMoved.remaining = rightMoved.remaining :=
        congrArg Tape.remaining sameTape
      have samePosition : leftMoved.position = rightMoved.position :=
        congrArg Tape.position sameTape
      simp only [sameRemaining, samePosition]
      split <;> exact ⟨rfl, sameTape⟩

/-- A procedure that bytes before the buffer only displace, and that forgets what byte order is known
before it, does the same in the middle of a buffer as at the start of the rest. -/
theorem displaced_of_rest {α : Type} {procedure : Reader → Except DecodeError α × Reader}
    (displaces : ∀ bytes reader, procedure (reader.precededBy bytes) =
      Decoder.displaced bytes (procedure reader))
    (forgets : ∀ tape known other, (procedure ⟨tape, known⟩).1 = (procedure ⟨tape, other⟩).1 ∧
      (procedure ⟨tape, known⟩).2.tape = (procedure ⟨tape, other⟩).2.tape)
    (reader : Reader) :
    let rest : Reader := .ofBytes (reader.tape.contents.drop reader.position)
    (procedure reader).1 = (procedure rest).1.mapError (·.shift reader.position) ∧
      (procedure reader).2.position = reader.position + (procedure rest).2.position := by
  intro rest
  have start : rest = ⟨.ofBytes reader.tape.ahead, none⟩ :=
    congrArg ofBytes reader.tape.drop_contents
  have moved : procedure reader =
      Decoder.displaced reader.tape.behind (procedure ⟨.ofBytes reader.tape.ahead, reader.order?⟩) :=
    displaces reader.tape.behind ⟨.ofBytes reader.tape.ahead, reader.order?⟩
  obtain ⟨sameAnswer, sameTape⟩ := forgets (.ofBytes reader.tape.ahead) reader.order? none
  rw [start, moved]
  constructor
  · exact congrArg (Except.mapError _) sameAnswer
  · exact (position_precededBy _ _).trans (congrArg (reader.position + Tape.position ·) sameTape)

/-!
## Looking ahead
-/

/-- Read a header by a look at its first byte. In a standard header the byte is put back and read
again as a marker; in a native one the order has to be known by then. -/
def readHeaderByLook (reader : Reader) : Except DecodeError Header × Reader :=
  match reader.readHeaderByte with
  | (.error cause, moved) => (.error cause, moved)
  | (.ok true, moved) =>
      match moved.order? with
      | none => (.error .byteOrderUnknown, moved)
      | some order => (Header.native (Native.lead order)).run moved
  | (.ok false, moved) => (Decoder.readField .byte Header.standard).run moved.pushBack

theorem readHeaderByLook_eq (reader : Reader) :
    reader.readHeaderByLook = reader.readHeader := by
  obtain ⟨⟨behind, _ | ⟨lead, rest⟩⟩, known⟩ := reader
  · rfl
  · rw [readHeader, Decoder.header_eq, Decoder.run_readField_byte, Header.afterLead,
      readHeaderByLook, readHeaderByte, Reader.read_byte]
    cases native : Native.isLead lead with
    | true =>
        have sameHeader : Header.native (Native.lead (Native.orderOfLead lead)) = Header.native lead := by
          unfold Header.native
          rw [Native.orderOfLead_lead]
        simp only [native, ↓reduceIte, setOrder, sameHeader]
        rfl
    | false =>
        simp only [native, Bool.false_eq_true, ↓reduceIte, pushBack, Tape.back]
        exact Decoder.run_readField_byte _ _ _ _ _

end Reader

/-- Reading from the middle of a buffer is reading the rest of it as a buffer of its own, up to the
positions that are reported. A byte order that is left over from before makes no difference. -/
theorem read_displaced (reader : Reader) (limit : Nat) :
    let rest : Reader := .ofBytes (reader.tape.contents.drop reader.position)
    ((reader.readGeometry limit).1 =
        (rest.readGeometry limit).1.mapError (·.shift reader.position) ∧
      (reader.readGeometry limit).2.position =
        reader.position + (rest.readGeometry limit).2.position) ∧
    (reader.readHeader.1 = rest.readHeader.1.mapError (·.shift reader.position) ∧
      reader.readHeader.2.position = reader.position + rest.readHeader.2.position) ∧
    reader.readHeaderByLook = reader.readHeader ∧
    ∀ known : Option ByteOrder,
      let other : Reader := ⟨reader.tape, known⟩
      ((other.readGeometry limit).1 = (reader.readGeometry limit).1 ∧
        (other.readGeometry limit).2.tape = (reader.readGeometry limit).2.tape) ∧
      other.readHeader.1 = reader.readHeader.1 ∧
        other.readHeader.2.tape = reader.readHeader.2.tape := by
  have blobForgets (tape : Tape) (known other : Option ByteOrder) :=
    Reader.readGeometry_of_order tape known other limit
  have headerForgets := Decoder.header_setsOrderFirst.run_eq
  refine ⟨Reader.displaced_of_rest (fun _ _ => Reader.readGeometry_precededBy _ _ limit)
      blobForgets reader,
    Reader.displaced_of_rest (fun _ _ => Decoder.header_run_precededBy) headerForgets reader,
    reader.readHeaderByLook_eq, fun known => ⟨blobForgets _ _ _, headerForgets _ _ _⟩⟩

/-- A type field that is cut off behind two bytes of something else. -/
example : (Reader.readGeometry 0 ⟨⟨[7, 7], [0, 0]⟩, some .little⟩).1 = .error (.truncated 3 4) := by
  cbv

end GeoWire
