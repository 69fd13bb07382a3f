import GeoWire.Decode.Trace
import GeoWire.Proofs.Acceptance

/-!
# Lawful steps

A law says which queries and refusals are allowed, knowing the byte order that is set and the one that
the last single byte declared. A decoder whose steps are lawful by their form takes lawful steps in
every run.
-/

set_option autoImplicit false

namespace GeoWire

/-- What is known of byte orders between two steps. -/
structure OrderState where
  set? : Option ByteOrder
  /-- The order that the last single byte declares when it is taken for a marker. -/
  declared? : Option ByteOrder

namespace OrderState

def afterField : (type : FieldType) → type.Value → OrderState → OrderState
  | .byte, marker, state => { state with declared? := ByteOrder.ofMarker? marker }
  | .int16, _, state | .int32, _, state | .word32, _, state | .int64, _, state
  | .double, _, state => state

/-- The state in which a reader is left by accesses. -/
def after (accesses : List Access) (reader : Reader) : OrderState :=
  ⟨reader.order?, declaredOrder? accesses⟩

end OrderState

/-- A step that a law can forbid. -/
inductive Step where
  | query (query : Query)
  | refusal (cause : DecodeError)

/-!
## States of runs
-/

theorem declaredOrder?_append_byte (accesses : List Access) (reader : Reader) :
    declaredOrder? (accesses ++ [⟨.field .byte, reader⟩]) =
      Access.marked? ⟨.field .byte, reader⟩ := by
  simp [declaredOrder?, List.filter_append]

theorem declaredOrder?_append {access : Access} (wide : access.query ≠ .field .byte)
    (accesses : List Access) : declaredOrder? (accesses ++ [access]) = declaredOrder? accesses := by
  simp [declaredOrder?, List.filter_append, wide]

namespace OrderState

theorem after_readField {type : FieldType} {reader moved : Reader} {value : type.Value}
    (answered : reader.read type = (.ok value, moved)) (history : List Access) :
    after (history ++ [⟨.field type, reader⟩]) moved = (after history reader).afterField type value := by
  obtain ⟨order, _, sameOrder, passed, _⟩ := Reader.read_eq_ok answered
  cases type with
  | byte =>
      rw [FieldType.encode_byte] at passed
      simp only [after, afterField, declaredOrder?_append_byte, Access.marked?, passed, sameOrder]
      rfl
  | int16 | int32 | word32 | int64 | double =>
      rw [after, sameOrder, declaredOrder?_append (by simp)]
      rfl

theorem after_readCount {itemSize items : Nat} {reader moved : Reader}
    (answered : reader.readCount itemSize = (.ok items, moved)) (history : List Access) :
    after (history ++ [⟨.count itemSize, reader⟩]) moved = after history reader := by
  obtain ⟨_, _, _, _, sameOrder, _⟩ := Reader.readCount_eq_ok answered
  rw [after, sameOrder, declaredOrder?_append (by simp)]
  rfl

end OrderState

/-!
## Accesses that fail
-/

namespace Access

/-- The access cannot be answered, for the given cause. -/
inductive Fails : Access → DecodeError → Reader → Prop where
  | field {type : FieldType} {reader moved : Reader} {cause : DecodeError} :
      reader.read type = (.error cause, moved) → Fails ⟨.field type, reader⟩ cause moved
  | count {itemSize : Nat} {reader moved : Reader} {cause : DecodeError} :
      reader.readCount itemSize = (.error cause, moved) → Fails ⟨.count itemSize, reader⟩ cause moved

/-- A single byte is asked for, or the byte order is known. -/
def Readable (access : Access) : Prop :=
  access.query = .field .byte ∨ access.reader.order?.isSome = true

variable {access : Access} {cause : DecodeError} {moved : Reader}

theorem Fails.order?_eq (fails : access.Fails cause moved) :
    moved.order? = access.reader.order? := by
  cases fails with
  | field failed => exact (congrArg (·.2.order?) failed).symm.trans (Reader.order?_read _ _)
  | count failed => exact (congrArg (·.2.order?) failed).symm.trans (Reader.order?_readCount _ _)

theorem Readable.orderFor?_ne_none (readable : access.Readable) :
    access.reader.orderFor? access.query.type ≠ none := by
  obtain ⟨query, reader⟩ := access
  rcases readable with rfl | known
  · exact Option.some_ne_none _
  · cases query with
    | count => exact Option.isSome_iff_ne_none.mp known
    | field type =>
        cases type with
        | byte => exact Option.some_ne_none _
        | int16 | int32 | word32 | int64 | double => exact Option.isSome_iff_ne_none.mp known

/-- Where the order is known, a field only fails at the end of the buffer, and a count there or by its
guard. -/
theorem Fails.cause_eq (fails : access.Fails cause moved) (readable : access.Readable) :
    cause = .truncated access.reader.position access.query.type.width ∧
        access.reader.remaining < access.query.type.width ∧ moved.remaining = 0 ∨
      ∃ itemSize, ∃ count : UInt32, access.query = .count itemSize ∧
        access.reader.read .word32 = (.ok count, moved) ∧
        cause = .countTooLarge count.toNat moved.remaining ∧
        moved.remaining < count.toNat * itemSize := by
  have ordered := readable.orderFor?_ne_none
  cases fails with
  | field failed =>
      rcases Reader.read_eq_error failed with ⟨unknown, _⟩ | lacking
      · exact absurd unknown ordered
      · exact .inl lacking
  | count failed =>
      rcases Reader.readCount_eq_error failed with failed | ⟨count, forbidden⟩
      · rcases Reader.read_eq_error failed with ⟨unknown, _⟩ | lacking
        · exact absurd unknown ordered
        · exact .inl lacking
      · exact .inr ⟨_, count, rfl, forbidden⟩

end Access

namespace Decoder

variable {α β : Type} {law : OrderState → Step → Prop}

/-- From the state on, every step is lawful whatever is answered, and so is what is returned. -/
def Within (law : OrderState → Step → Prop) (returns : OrderState → α → Prop) :
    OrderState → Decoder α → Prop
  | state, .done value => returns state value
  | state, .fail cause => law state (.refusal cause)
  | state, .readField type next =>
      law state (.query (.field type)) ∧
        ∀ value, (next value).Within law returns (state.afterField type value)
  | state, .readCount itemSize next =>
      law state (.query (.count itemSize)) ∧ ∀ items, (next items).Within law returns state
  | state, .switchOrder order next => next.Within law returns { state with set? := some order }

theorem Within.bind {first : Decoder α} {next : α → Decoder β} {middle : OrderState → α → Prop}
    {returns : OrderState → β → Prop} {state : OrderState}
    (left : first.Within law middle state)
    (right : ∀ state value, middle state value → (next value).Within law returns state) :
    (first >>= next).Within law returns state := by
  change (first.andThen next).Within law returns state
  induction first generalizing state with
  | done value => exact right state value left
  | fail cause => exact left
  | readField type continuation ih => exact ⟨left.1, fun value => ih value (left.2 value)⟩
  | readCount itemSize continuation ih => exact ⟨left.1, fun items => ih items (left.2 items)⟩
  | switchOrder order continuation ih => exact ih left

/-!
## Invariants
-/

/-- Wherever the invariant holds, every step is lawful and the invariant holds again at the end. -/
def Keeps (law : OrderState → Step → Prop) (invariant : OrderState → Prop) (decoder : Decoder α) :
    Prop :=
  ∀ state, invariant state → decoder.Within law (fun state _ => invariant state) state

variable {invariant : OrderState → Prop}

theorem keeps_pure (value : α) : (pure value : Decoder α).Keeps law invariant :=
  fun _ holds => holds

theorem Keeps.bind {first : Decoder α} {next : α → Decoder β} (left : first.Keeps law invariant)
    (right : ∀ value, (next value).Keeps law invariant) :
    (first >>= next).Keeps law invariant :=
  fun state holds => (left state holds).bind fun state value => right value state

theorem Keeps.map {transform : α → β} {decoder : Decoder α} (keeps : decoder.Keeps law invariant) :
    (transform <$> decoder).Keeps law invariant := by
  rw [← bind_pure_comp]
  exact keeps.bind fun _ => keeps_pure _

theorem Keeps.counted {item : Decoder α} {itemSize : Nat} (keeps : item.Keeps law invariant)
    (lawful : ∀ state, invariant state → law state (.query (.count itemSize))) :
    (counted itemSize item).Keeps law invariant := by
  have replicated (items : Nat) : (replicate item items).Keeps law invariant := by
    induction items with
    | zero => exact keeps_pure []
    | succ items ih =>
        rw [replicate_succ]
        exact keeps.bind fun _ => ih.map
  intro state holds
  exact ⟨lawful state holds, fun items => replicated items state holds⟩

/-!
## Runs
-/

/-- A run after some accesses. Every query is lawful in the state that the accesses before it have led
to, and so is what is returned; a run fails for a lawful cause or because its last access cannot be
answered. -/
structure LawfulRun (law : OrderState → Step → Prop) (returns : OrderState → α → Prop)
    (history : List Access) (decoder : Decoder α) (reader : Reader) : Prop where
  lawful {earlier later : List Access} {access : Access} :
    decoder.trace reader = earlier ++ access :: later →
      law (.after (history ++ earlier) access.reader) (.query access.query)
  returned {value : α} {moved : Reader} :
    decoder.run reader = (.ok value, moved) →
      returns (.after (history ++ decoder.trace reader) moved) value
  failed {cause : DecodeError} {moved : Reader} :
    decoder.run reader = (.error cause, moved) →
      law (.after (history ++ decoder.trace reader) moved) (.refusal cause) ∨
        ∃ earlier access, decoder.trace reader = earlier ++ [access] ∧ access.Fails cause moved

variable {decoder further : Decoder α} {returns : OrderState → α → Prop} {history : List Access}
  {reader moved : Reader} {access : Access}

theorem LawfulRun.cons (lawful : law (.after history access.reader) (.query access.query))
    (traced : decoder.trace reader = access :: further.trace moved)
    (ran : decoder.run reader = further.run moved)
    (rest : LawfulRun law returns (history ++ [access]) further moved) :
    LawfulRun law returns history decoder reader where
  lawful := by
    intro earlier later other split
    rw [traced] at split
    cases earlier with
    | nil =>
        cases split
        rw [List.append_nil]
        exact lawful
    | cons first earlier =>
        obtain ⟨rfl, remainder⟩ := List.cons.inj split
        rw [List.append_cons]
        exact rest.lawful remainder
  returned := by
    intro value final success
    rw [ran] at success
    rw [traced, List.append_cons]
    exact rest.returned success
  failed := by
    intro cause final failed
    rw [ran] at failed
    rw [traced, List.append_cons]
    rcases rest.failed failed with refused | ⟨earlier, last, split, fails⟩
    · exact .inl refused
    · exact .inr ⟨access :: earlier, last, congrArg _ split, fails⟩

theorem LawfulRun.of_fails (access : Access) {cause : DecodeError}
    (lawful : law (.after history access.reader) (.query access.query))
    (traced : decoder.trace reader = [access]) (ran : decoder.run reader = (.error cause, moved))
    (fails : access.Fails cause moved) : LawfulRun law returns history decoder reader where
  lawful := by
    intro earlier later other split
    rw [traced] at split
    cases earlier with
    | nil =>
        cases split
        rw [List.append_nil]
        exact lawful
    | cons first earlier => simp at split
  returned := by
    intro value final success
    rw [ran] at success
    cases success
  failed := by
    intro other final failed
    rw [ran] at failed
    cases failed
    exact .inr ⟨[], access, traced, fails⟩

section Bind

variable {first : Decoder α} {next : α → Decoder β} {middle : OrderState → α → Prop}
  {results : OrderState → β → Prop}

theorem LawfulRun.bind_of_error {cause : DecodeError} (left : LawfulRun law middle history first reader)
    (ran : first.run reader = (.error cause, moved)) :
    LawfulRun law results history (first >>= next) reader := by
  have traced : (first >>= next).trace reader = first.trace reader := by
    simp only [trace_bind, ran, List.append_nil]
  have stopped : (first >>= next).run reader = (.error cause, moved) := by
    simp only [run_bind, ran]
  constructor
  · intro earlier later access split
    exact left.lawful (traced ▸ split)
  · intro value final success
    rw [stopped] at success
    cases success
  · intro other final failed
    rw [stopped] at failed
    cases failed
    rw [traced]
    exact left.failed ran

theorem LawfulRun.bind_of_ok {value : α} (left : LawfulRun law middle history first reader)
    (ran : first.run reader = (.ok value, moved))
    (rest : LawfulRun law results (history ++ first.trace reader) (next value) moved) :
    LawfulRun law results history (first >>= next) reader := by
  have traced : (first >>= next).trace reader = first.trace reader ++ (next value).trace moved := by
    simp only [trace_bind, ran]
  have further : (first >>= next).run reader = (next value).run moved := by
    simp only [run_bind, ran]
  constructor
  · intro earlier later access split
    rw [traced] at split
    -- The access belongs to the second run, opens it, or belongs to the first.
    rcases List.append_eq_append_iff.mp split with
      ⟨between, rfl, inRest⟩ | ⟨_ | ⟨_, between⟩, whole, inFirst⟩
    · rw [← List.append_assoc]
      exact rest.lawful inRest
    · rw [List.append_nil] at whole
      rw [← whole, ← List.append_nil (_ ++ _)]
      exact rest.lawful inFirst.symm
    · obtain ⟨rfl, _⟩ := List.cons.inj inFirst
      exact left.lawful whole
  · intro result final success
    rw [further] at success
    rw [traced, ← List.append_assoc]
    exact rest.returned success
  · intro cause final failed
    rw [further] at failed
    rw [traced, ← List.append_assoc]
    rcases rest.failed failed with refused | ⟨earlier, access, split, fails⟩
    · exact .inl refused
    · exact .inr ⟨first.trace reader ++ earlier, access, by rw [split, List.append_assoc], fails⟩

theorem LawfulRun.bind (left : LawfulRun law middle history first reader)
    (right : ∀ value moved, first.run reader = (.ok value, moved) →
      LawfulRun law results (history ++ first.trace reader) (next value) moved) :
    LawfulRun law results history (first >>= next) reader := by
  cases ran : first.run reader with
  | mk answer moved =>
      cases answer with
      | error cause => exact left.bind_of_error ran
      | ok value => exact left.bind_of_ok ran (right value moved ran)

end Bind

theorem Within.lawfulRun (within : decoder.Within law returns (.after history reader)) :
    LawfulRun law returns history decoder reader := by
  induction decoder generalizing history reader with
  | done value =>
      constructor
      · intro earlier later access split
        simp [trace] at split
      · intro result moved success
        cases success
        rw [trace, List.append_nil]
        exact within
      · intro cause moved failed
        cases failed
  | fail cause =>
      constructor
      · intro earlier later access split
        simp [trace] at split
      · intro value moved success
        cases success
      · intro given moved failed
        cases failed
        rw [trace, List.append_nil]
        exact .inl within
  | readField type next ih =>
      obtain ⟨lawful, further⟩ := within
      cases answered : reader.read type with
      | mk answer moved =>
          cases answer with
          | error cause =>
              exact .of_fails ⟨.field type, reader⟩ lawful (by simp [trace, answered])
                (by simp [run, answered]) (.field answered)
          | ok value =>
              have rest := further value
              rw [← OrderState.after_readField answered] at rest
              exact .cons lawful (by simp [trace, answered]) (by simp [run, answered]) (ih value rest)
  | readCount itemSize next ih =>
      obtain ⟨lawful, further⟩ := within
      cases answered : reader.readCount itemSize with
      | mk answer moved =>
          cases answer with
          | error cause =>
              exact .of_fails ⟨.count itemSize, reader⟩ lawful (by simp [trace, answered])
                (by simp [run, answered]) (.count answered)
          | ok items =>
              have rest := further items
              rw [← OrderState.after_readCount answered] at rest
              exact .cons lawful (by simp [trace, answered]) (by simp [run, answered]) (ih items rest)
  | switchOrder order next ih =>
      have rest : LawfulRun law returns history next (reader.setOrder order) := ih within
      exact ⟨rest.lawful, rest.returned, rest.failed⟩

end Decoder

end GeoWire
