import GeoWire.Writer

/-!
Emissions: the fields that an encoding puts on the wire, as data, together with how it ends. `run`
writes them one after the other.
-/

set_option autoImplicit false

namespace GeoWire

/-- A sequence of fields that ends well or with a cause for going no further. -/
inductive Emission where
  | finished
  | stopped (cause : EncodeError)
  | put (field : Field) (rest : Emission)

namespace Emission

/-- Go on with a second emission, unless the first stops. -/
def andThen : Emission → Emission → Emission
  | .finished, second => second
  | .stopped cause, _ => .stopped cause
  | .put field rest, second => .put field (rest.andThen second)

instance : Append Emission :=
  ⟨andThen⟩

def ofFields : List Field → Emission
  | [] => .finished
  | field :: rest => .put field (ofFields rest)

def concat : List Emission → Emission
  | [] => .finished
  | emission :: rest => emission ++ concat rest

def width : Emission → Nat
  | .finished | .stopped _ => 0
  | .put field rest => field.type.width + rest.width

def bytes (order : ByteOrder) : Emission → List UInt8
  | .finished | .stopped _ => []
  | .put field rest => field.bytes order ++ rest.bytes order

def cause? : Emission → Option EncodeError
  | .finished => none
  | .stopped cause => some cause
  | .put _ rest => rest.cause?

def run : Emission → Writer → Except EncodeError Unit × Writer
  | .finished, writer => (.ok (), writer)
  | .stopped cause, writer => (.error cause, writer)
  | .put field rest, writer =>
      match writer.write field with
      | (.ok _, moved) => rest.run moved
      | (.error cause, moved) => (.error cause, moved)

@[simp] theorem finished_append (second : Emission) : .finished ++ second = second :=
  rfl

@[simp] theorem stopped_append (cause : EncodeError) (second : Emission) :
    .stopped cause ++ second = .stopped cause :=
  rfl

@[simp] theorem put_append (field : Field) (rest second : Emission) :
    .put field rest ++ second = .put field (rest ++ second) :=
  rfl

/-- The second of two emissions is written where the first has stopped, if it ended well. -/
theorem run_append (first second : Emission) (writer : Writer) :
    (first ++ second).run writer =
      match first.run writer with
      | (.ok _, moved) => second.run moved
      | (.error cause, moved) => (.error cause, moved) := by
  induction first generalizing writer with
  | finished => rfl
  | stopped cause => rfl
  | put field rest ih =>
      rw [put_append]
      simp only [run]
      rcases writer.write field with ⟨_ | _, moved⟩
      · rfl
      · exact ih moved

end Emission

end GeoWire
