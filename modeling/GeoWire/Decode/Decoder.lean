import GeoWire.Reader

/-!
Decoders as data. A decoder is a tree of steps, each asking for the next field or setting a byte
order, and `run` carries the steps out on a reader. What a decoder does depends on the buffer only
through the answers to its steps.
-/

set_option autoImplicit false

namespace GeoWire

/-- A procedure that reads a value field by field. -/
inductive Decoder (α : Type) where
  | done (value : α)
  | fail (cause : DecodeError)
  | readField (type : FieldType) (next : type.Value → Decoder α)
  /-- Read a count of items that take at least the given number of bytes each. -/
  | readCount (itemSize : Nat) (next : Nat → Decoder α)
  | switchOrder (order : ByteOrder) (next : Decoder α)

namespace Decoder

variable {α β γ : Type}

/-- Go on with a second decoder that depends on what the first has read. -/
def andThen : Decoder α → (α → Decoder β) → Decoder β
  | .done value, continuation => continuation value
  | .fail cause, _ => .fail cause
  | .readField type next, continuation =>
      .readField type fun value => (next value).andThen continuation
  | .readCount itemSize next, continuation =>
      .readCount itemSize fun items => (next items).andThen continuation
  | .switchOrder order next, continuation => .switchOrder order (next.andThen continuation)

instance : Monad Decoder where
  pure := .done
  bind := .andThen

theorem andThen_done (decoder : Decoder α) : decoder.andThen .done = decoder := by
  induction decoder with
  | done value => rfl
  | fail cause => rfl
  | readField type next ih => exact congrArg (readField type) (funext ih)
  | readCount itemSize next ih => exact congrArg (readCount itemSize) (funext ih)
  | switchOrder order next ih => exact congrArg (switchOrder order) ih

theorem andThen_andThen (decoder : Decoder α) (second : α → Decoder β) (third : β → Decoder γ) :
    (decoder.andThen second).andThen third =
      decoder.andThen fun value => (second value).andThen third := by
  induction decoder with
  | done value => rfl
  | fail cause => rfl
  | readField type next ih => exact congrArg (readField type) (funext ih)
  | readCount itemSize next ih => exact congrArg (readCount itemSize) (funext ih)
  | switchOrder order next ih => exact congrArg (switchOrder order) ih

instance : LawfulMonad Decoder :=
  LawfulMonad.mk' Decoder andThen_done (fun _ _ => rfl) andThen_andThen

def require (cause : DecodeError) : Option α → Decoder α
  | some value => .done value
  | none => .fail cause

def one (type : FieldType) : Decoder type.Value :=
  .readField type .done

def countOf (itemSize : Nat) : Decoder Nat :=
  .readCount itemSize .done

def setOrder (order : ByteOrder) : Decoder Unit :=
  .switchOrder order (.done ())

/-- Read the given number of items after others, the latest of which comes first. -/
def replicateAfter (item : Decoder α) (others : List α) : Nat → Decoder (List α)
  | 0 => pure others.reverse
  | items + 1 => do
      let next ← item
      replicateAfter item (next :: others) items

def replicate (item : Decoder α) (items : Nat) : Decoder (List α) :=
  replicateAfter item [] items

theorem replicateAfter_eq (item : Decoder α) (others : List α) (items : Nat) :
    replicateAfter item others items =
      (others.reverse ++ ·) <$> replicate item items := by
  induction items generalizing others with
  | zero => simp [replicate, replicateAfter]
  | succ items ih =>
      rw [replicate, replicateAfter, replicateAfter, map_bind]
      congr 1
      funext next
      rw [ih, ih [next]]
      simp

@[simp] theorem replicate_zero (item : Decoder α) : replicate item 0 = pure [] :=
  rfl

theorem replicate_succ (item : Decoder α) (items : Nat) :
    replicate item (items + 1) =
      item >>= fun first => (first :: ·) <$> replicate item items := by
  rw [replicate, replicateAfter]
  congr 1
  funext first
  exact replicateAfter_eq item [first] items

def counted (itemSize : Nat) (item : Decoder α) : Decoder (List α) := do
  replicate item (← countOf itemSize)

/-- Carry out the steps on a reader, up to the first that fails. The reader is left where the last
step left it. -/
def run : Decoder α → Reader → Except DecodeError α × Reader
  | .done value, reader => (.ok value, reader)
  | .fail cause, reader => (.error cause, reader)
  | .readField type next, reader =>
      match reader.read type with
      | (.ok value, moved) => (next value).run moved
      | (.error cause, moved) => (.error cause, moved)
  | .readCount itemSize next, reader =>
      match reader.readCount itemSize with
      | (.ok items, moved) => (next items).run moved
      | (.error cause, moved) => (.error cause, moved)
  | .switchOrder order next, reader => next.run (reader.setOrder order)

@[simp] theorem run_pure (value : α) (reader : Reader) :
    (pure value : Decoder α).run reader = (.ok value, reader) :=
  rfl

theorem run_readField_byte (next : UInt8 → Decoder α) (behind rest : List UInt8) (byte : UInt8)
    (known : Option ByteOrder) :
    (readField .byte next).run ⟨⟨behind, byte :: rest⟩, known⟩ =
      (next byte).run ⟨⟨byte :: behind, rest⟩, known⟩ := by
  rw [run, Reader.read_byte]

/-- A decoder goes on where the one before it has stopped. -/
theorem run_bind (first : Decoder α) (continuation : α → Decoder β) (reader : Reader) :
    (first >>= continuation).run reader =
      match first.run reader with
      | (.ok value, moved) => (continuation value).run moved
      | (.error cause, moved) => (.error cause, moved) := by
  show (first.andThen continuation).run reader = _
  induction first generalizing reader with
  | done value => rfl
  | fail cause => rfl
  | readField type next ih =>
      simp only [andThen, run]
      rcases reader.read type with ⟨_ | value, moved⟩
      · rfl
      · exact ih value moved
  | readCount itemSize next ih =>
      simp only [andThen, run]
      rcases reader.readCount itemSize with ⟨_ | items, moved⟩
      · rfl
      · exact ih items moved
  | switchOrder order next ih => exact ih (reader.setOrder order)

theorem run_bind_eq_ok_iff {first : Decoder α} {continuation : α → Decoder β}
    {reader moved : Reader} {result : β} :
    (first >>= continuation).run reader = (.ok result, moved) ↔
      ∃ value middle, first.run reader = (.ok value, middle) ∧
        (continuation value).run middle = (.ok result, moved) := by
  rw [run_bind]
  rcases first.run reader with ⟨_ | value, middle⟩
  · simp
  · constructor
    · intro success
      exact ⟨value, middle, rfl, success⟩
    · intro parts
      obtain ⟨_, _, same, success⟩ := parts
      cases same
      exact success

theorem run_countOf (itemSize : Nat) (reader : Reader) :
    (countOf itemSize).run reader = reader.readCount itemSize := by
  simp only [countOf, run]
  rcases reader.readCount itemSize with ⟨_ | items, moved⟩ <;> rfl

/-- A run only moves over the buffer. -/
@[simp] theorem contents_run (decoder : Decoder α) (reader : Reader) :
    (decoder.run reader).2.tape.contents = reader.tape.contents := by
  induction decoder generalizing reader with
  | done value => rfl
  | fail cause => rfl
  | readField type next ih =>
      have kept := reader.contents_read type
      simp only [run]
      generalize reader.read type = outcome at kept ⊢
      rcases outcome with ⟨_ | value, moved⟩
      · exact kept
      · exact (ih value moved).trans kept
  | readCount itemSize next ih =>
      have kept := reader.contents_readCount itemSize
      simp only [run]
      generalize reader.readCount itemSize = outcome at kept ⊢
      rcases outcome with ⟨_ | items, moved⟩
      · exact kept
      · exact (ih items moved).trans kept
  | switchOrder order next ih => exact ih (reader.setOrder order)

end Decoder

end GeoWire
