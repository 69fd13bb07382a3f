import GeoWire.Encode.Layout

/-!
# Emission outcomes

What running an emission does to any writer, and the number of bytes or the cause that an emission
comes to on its own.
-/

set_option autoImplicit false

namespace GeoWire

@[simp] theorem Field.length_bytes (order : ByteOrder) (field : Field) :
    (field.bytes order).length = field.type.width :=
  FieldType.length_encode order field.type field.value

@[simp] theorem Tape.overwrite_nil (tape : Tape) : tape.overwrite [] = tape := by
  simp [overwrite]

theorem Tape.overwrite_of_remaining_eq_zero {tape : Tape} (bytes : List UInt8)
    (exhausted : tape.remaining = 0) : tape.overwrite bytes = tape := by
  obtain ⟨behind, ahead⟩ := tape
  cases List.eq_nil_of_length_eq_zero exhausted
  cases bytes <;> rfl

theorem Tape.overwrite_append (first second : List UInt8) (tape : Tape) :
    tape.overwrite (first ++ second) = (tape.overwrite first).overwrite second := by
  induction first generalizing tape with
  | nil => rw [List.nil_append, tape.overwrite_nil]
  | cons byte rest ih =>
      obtain ⟨behind, ahead⟩ := tape
      cases ahead with
      | nil => cases second <;> rfl
      | cons replaced further => exact ih ⟨byte :: behind, further⟩

theorem Tape.remaining_overwrite (bytes : List UInt8) (tape : Tape) :
    (tape.overwrite bytes).remaining = tape.remaining - bytes.length := by
  rw [overwrite_eq]
  exact List.length_drop

/-!
## Writers
-/

/-- A writer that has moved over some bytes and left all others of the buffer as they were. -/
structure Writer.Advances (size : Nat) (before after : Writer) : Prop where
  order : after.order = before.order
  position : after.position = before.position + size
  capacity : after.capacity = before.capacity
  unchanged : ∀ index, index < before.position ∨ before.position + size ≤ index →
    after.contents[index]? = before.contents[index]?

theorem Tape.getElem?_contents_overwrite {bytes : List UInt8} {tape : Tape} {index : Nat}
    (fits : bytes.length ≤ tape.remaining)
    (outside : index < tape.position ∨ tape.position + bytes.length ≤ index) :
    (tape.overwrite bytes).contents[index]? = tape.contents[index]? := by
  obtain ⟨behind, ahead⟩ := tape
  simp only [remaining, position] at fits outside
  have written : (Tape.overwrite bytes ⟨behind, ahead⟩).contents =
      behind.reverse ++ (bytes ++ ahead.drop bytes.length) := by
    rw [overwrite_eq, contents, remaining, List.take_of_length_le fits]
    simp
  rw [written, contents]
  rcases outside with before | after
  · have early : index < behind.reverse.length := by simpa using before
    rw [List.getElem?_append_left early, List.getElem?_append_left early]
  · have late : behind.reverse.length ≤ index := by
      rw [List.length_reverse]
      omega
    have beyond : bytes.length ≤ index - behind.reverse.length := by
      rw [List.length_reverse]
      omega
    rw [List.getElem?_append_right late, List.getElem?_append_right late,
      List.getElem?_append_right beyond, List.getElem?_drop, Nat.add_sub_cancel' beyond]

namespace Writer

theorem advances_overwrite {writer : Writer} {bytes : List UInt8}
    (fits : bytes.length ≤ writer.remaining) :
    Advances bytes.length writer { writer with tape := writer.tape.overwrite bytes } where
  order := rfl
  position := by
    rw [position, Tape.position_overwrite]
    exact congrArg (writer.position + ·) (Nat.min_eq_left fits)
  capacity := Tape.length_contents_overwrite bytes writer.tape
  unchanged := fun _ outside => Tape.getElem?_contents_overwrite fits outside

end Writer

/-!
## Emissions
-/

namespace Emission

def ending (emission : Emission) : Except EncodeError Unit :=
  match emission.cause? with
  | none => .ok ()
  | some cause => .error cause

/-- What an emission comes to: the number of its bytes, or the cause for which it stops. -/
def outcome : Emission → Except EncodeError Nat
  | .finished => .ok 0
  | .stopped cause => .error cause
  | .put field rest => (field.type.width + ·) <$> rest.outcome

theorem outcome_eq (emission : Emission) :
    emission.outcome = (fun _ => emission.width) <$> emission.ending := by
  induction emission with
  | finished => rfl
  | stopped cause => rfl
  | put field rest ih =>
      have sameEnding : (put field rest).ending = rest.ending := rfl
      rw [outcome, ih, sameEnding, width, ← comp_map]
      rfl

theorem outcome_append (first second : Emission) :
    (first ++ second).outcome =
      first.outcome >>= fun firstWidth => (firstWidth + ·) <$> second.outcome := by
  induction first with
  | finished =>
      change second.outcome = (0 + ·) <$> second.outcome
      simp only [Nat.zero_add, id_map']
  | stopped cause => rfl
  | put field rest ih =>
      rw [put_append, outcome, outcome, ih]
      simp only [map_bind, bind_map_left, Functor.map_map, Nat.add_assoc]

theorem outcome_ofFields (fields : List Field) :
    (ofFields fields).outcome = .ok (Layout.total (fields.map fun field => field.type.width)) := by
  induction fields with
  | nil => rfl
  | cons field rest ih =>
      rw [ofFields, outcome, ih]
      rfl

theorem outcome_concat {α : Type} {items : List α} {emission : α → Emission}
    {size : α → Except EncodeError Nat} (each : ∀ item ∈ items, (emission item).outcome = size item) :
    (concat (items.map emission)).outcome = Layout.total <$> items.mapM size := by
  induction items with
  | nil => rfl
  | cons item rest ih =>
      obtain ⟨first, others⟩ := List.forall_mem_cons.mp each
      rw [List.map_cons, concat, outcome_append, first, ih others]
      simp [Layout.total]

theorem length_bytes (order : ByteOrder) (emission : Emission) :
    (emission.bytes order).length = emission.width := by
  induction emission with
  | finished => rfl
  | stopped cause => rfl
  | put field rest ih => simp [bytes, width, ih]

/-- Running an emission overwrites what is ahead by its bytes, as many as fit. It ends as the
emission does when all of them fit, and otherwise because the buffer is full. -/
theorem run_eq (emission : Emission) (writer : Writer) :
    emission.run writer =
      (if emission.width ≤ writer.remaining then emission.ending else .error .bufferFull,
        { writer with tape := writer.tape.overwrite (emission.bytes writer.order) }) := by
  induction emission generalizing writer with
  | finished => simp [run, width, ending, cause?, bytes]
  | stopped cause => simp [run, width, ending, cause?, bytes]
  | put field rest ih =>
      simp only [run, Writer.write, bytes, Tape.overwrite_append]
      by_cases fits : field.type.width ≤ writer.remaining
      · have hasRoom : writer.tape.hasAhead (field.bytes writer.order).length = true := by
          rw [Tape.hasAhead_iff, Field.length_bytes]
          exact fits
        have restFits :
            rest.width ≤ (writer.tape.overwrite (field.bytes writer.order)).remaining ↔
              (put field rest).width ≤ writer.remaining := by
          rw [Tape.remaining_overwrite, Field.length_bytes, width]
          have same : writer.tape.remaining = writer.remaining := rfl
          omega
        rw [if_pos hasRoom]
        simp only [ih, Writer.remaining, restFits]
        rfl
      · have noRoom : ¬ writer.tape.hasAhead (field.bytes writer.order).length = true := by
          rw [Tape.hasAhead_iff, Field.length_bytes]
          exact fits
        have tooWide : ¬ (put field rest).width ≤ writer.remaining := by
          rw [width]
          omega
        have exhausted : (writer.tape.overwrite (field.bytes writer.order)).remaining = 0 := by
          rw [Tape.remaining_overwrite, Field.length_bytes]
          have same : writer.tape.remaining = writer.remaining := rfl
          omega
        -- The field that does not fit has filled the buffer, so the others overwrite nothing.
        rw [if_neg noRoom, if_neg tooWide, Tape.overwrite_of_remaining_eq_zero _ exhausted]

/-!
## Bytes yielded
-/

/-- An emission that ends well and puts the given bytes. -/
inductive Yields (order : ByteOrder) : Emission → List UInt8 → Prop where
  | finished : Yields order .finished []
  | put {field : Field} {rest : Emission} {bytes : List UInt8} :
      Yields order rest bytes → Yields order (.put field rest) (field.bytes order ++ bytes)

variable {order : ByteOrder}

theorem yields_bytes {emission : Emission} (ended : emission.ending = .ok ()) :
    emission.Yields order (emission.bytes order) := by
  induction emission with
  | finished => exact .finished
  | stopped cause => cases ended
  | put field rest ih => exact .put (ih ended)

theorem Yields.append {first second : Emission} {left right : List UInt8}
    (firstYields : first.Yields order left) (secondYields : second.Yields order right) :
    (first ++ second).Yields order (left ++ right) := by
  induction firstYields with
  | finished => exact secondYields
  | put _ ih =>
      rw [List.append_assoc]
      exact .put ih

theorem yields_append_iff {first second : Emission} {bytes : List UInt8} :
    (first ++ second).Yields order bytes ↔
      ∃ left right, first.Yields order left ∧ second.Yields order right ∧ bytes = left ++ right := by
  constructor
  · intro yields
    induction first generalizing bytes with
    | finished => exact ⟨[], bytes, .finished, yields, rfl⟩
    | stopped cause => cases yields
    | put field rest ih =>
        rw [put_append] at yields
        cases yields with
        | put further =>
            obtain ⟨left, right, restYields, secondYields, rfl⟩ := ih further
            exact ⟨field.bytes order ++ left, right, .put restYields, secondYields,
              (List.append_assoc _ _ _).symm⟩
  · intro parts
    obtain ⟨left, right, firstYields, secondYields, rfl⟩ := parts
    exact firstYields.append secondYields

theorem yields_ofFields_iff {fields : List Field} {bytes : List UInt8} :
    (ofFields fields).Yields order bytes ↔ bytes = fields.flatMap (Field.bytes order) := by
  induction fields generalizing bytes with
  | nil =>
      constructor
      · intro yields
        cases yields
        rfl
      · intro same
        subst same
        exact .finished
  | cons field rest ih =>
      constructor
      · intro yields
        cases yields with
        | put further => rw [ih.mp further, List.flatMap_cons]
      · intro same
        subst same
        exact .put (ih.mpr rfl)

end Emission

end GeoWire
