/-!
A buffer with a position in it, held as the bytes behind the position and the bytes ahead of it, so
that no position outside the buffer can be held.
-/

set_option autoImplicit false

namespace GeoWire

/-- A buffer and a position between two of its bytes. -/
structure Tape where
  /-- The bytes before the position, the nearest first. -/
  behind : List UInt8
  /-- The bytes after the position, the nearest first. -/
  ahead : List UInt8
deriving DecidableEq, Repr

namespace Tape

def ofBytes (bytes : List UInt8) : Tape :=
  ⟨[], bytes⟩

def contents (tape : Tape) : List UInt8 :=
  tape.behind.reverse ++ tape.ahead

def position (tape : Tape) : Nat :=
  tape.behind.length

def remaining (tape : Tape) : Nat :=
  tape.ahead.length

/-- Whether there are at least the given number of bytes after the position. Only as many are looked
at. -/
def hasAhead (count : Nat) (tape : Tape) : Bool :=
  (tape.ahead.take count).length == count

/-- Move over the given number of bytes, or to the end if there are fewer. -/
def advance (count : Nat) (tape : Tape) : Tape where
  behind := (tape.ahead.take count).reverse ++ tape.behind
  ahead := tape.ahead.drop count

/-- Replace the bytes after the position by the given ones, as many as fit, and move over them. -/
def overwrite (bytes : List UInt8) (tape : Tape) : Tape :=
  match bytes, tape.ahead with
  | byte :: rest, _ :: further => overwrite rest ⟨byte :: tape.behind, further⟩
  | _, _ => tape

def back (tape : Tape) : Tape :=
  match tape.behind with
  | [] => tape
  | nearest :: further => ⟨further, nearest :: tape.ahead⟩

theorem length_contents (tape : Tape) :
    tape.contents.length = tape.position + tape.remaining := by
  simp [contents, position, remaining]

theorem drop_contents (tape : Tape) : tape.contents.drop tape.position = tape.ahead := by
  have whole : tape.behind.reverse.length = tape.position := List.length_reverse
  rw [contents, List.drop_left' whole]

@[simp] theorem contents_advance (count : Nat) (tape : Tape) :
    (tape.advance count).contents = tape.contents := by
  simp [contents, advance]

@[simp] theorem contents_back (tape : Tape) : tape.back.contents = tape.contents := by
  rcases tape with ⟨_ | ⟨nearest, further⟩, ahead⟩ <;> simp [contents, back]

theorem position_advance (count : Nat) (tape : Tape) :
    (tape.advance count).position = tape.position + min count tape.remaining := by
  simp [position, advance, remaining, Nat.add_comm]

theorem position_back (tape : Tape) : tape.back.position = tape.position - 1 := by
  rcases tape with ⟨_ | ⟨nearest, further⟩, ahead⟩ <;> rfl

theorem hasAhead_iff {count : Nat} {tape : Tape} :
    tape.hasAhead count = true ↔ count ≤ tape.remaining := by
  simp only [hasAhead, remaining, List.length_take, beq_iff_eq]
  omega

/-- What is overwritten is as long as the bytes written, or ends at the end of the buffer. -/
theorem overwrite_eq (bytes : List UInt8) (tape : Tape) :
    tape.overwrite bytes =
      ⟨(bytes.take tape.remaining).reverse ++ tape.behind, tape.ahead.drop bytes.length⟩ := by
  induction bytes generalizing tape with
  | nil => simp [overwrite]
  | cons byte rest ih =>
      rcases tape with ⟨behind, _ | ⟨_, further⟩⟩
      · simp [overwrite, remaining]
      · simp [overwrite, remaining, ih]

theorem position_overwrite (bytes : List UInt8) (tape : Tape) :
    (tape.overwrite bytes).position = tape.position + min bytes.length tape.remaining := by
  simp [overwrite_eq, position, remaining, Nat.add_comm, Nat.min_comm]

@[simp] theorem length_contents_overwrite (bytes : List UInt8) (tape : Tape) :
    (tape.overwrite bytes).contents.length = tape.contents.length := by
  rw [length_contents, length_contents, position_overwrite]
  simp only [overwrite_eq, remaining, List.length_drop]
  omega

end Tape

end GeoWire
