import GeoWire.Codec
import GeoWire.Proofs.AcceptedBlobs
import GeoWire.Proofs.Refusals

/-!
# Longer buffers

How the bytes after a blob change what is read. A decoder does the same with a longer buffer, unless
the shorter one lacked bytes; what is left over then decides whether the whole buffer is a blob.
-/

set_option autoImplicit false

namespace GeoWire

/-- The same reader with further bytes at the end of its buffer. -/
def Reader.extend (more : List UInt8) (reader : Reader) : Reader :=
  { reader with tape := { reader.tape with ahead := reader.tape.ahead ++ more } }

/-- The buffer was too short, or the same was answered and the further bytes are still ahead. -/
inductive Extends {α : Type} (more : List UInt8) :
    Except DecodeError α × Reader → Except DecodeError α × Reader → Prop where
  | short {cause : DecodeError} {moved : Reader} {longer : Except DecodeError α × Reader} :
      cause.isShortage = true → Extends more (.error cause, moved) longer
  | refused {cause : DecodeError} {moved : Reader} :
      cause.isShortage = false → Extends more (.error cause, moved) (.error cause, moved.extend more)
  | finished {value : α} {moved : Reader} :
      Extends more (.ok value, moved) (.ok value, moved.extend more)

namespace Reader

variable (more : List UInt8)

theorem remaining_extend (reader : Reader) :
    (reader.extend more).remaining = reader.remaining + more.length :=
  List.length_append

theorem read_extend (type : FieldType) (reader : Reader) :
    Extends more (reader.read type) ((reader.extend more).read type) := by
  have sameOrder : (reader.extend more).orderFor? type = reader.orderFor? type := by
    cases type <;> rfl
  unfold read
  rw [sameOrder]
  cases reader.orderFor? type with
  | none => exact .refused rfl
  | some order =>
      cases fits : reader.tape.hasAhead type.width with
      | false =>
          simp only [Bool.false_eq_true, ↓reduceIte]
          exact .short rfl
      | true =>
          have enough : type.width ≤ reader.tape.ahead.length := Tape.hasAhead_iff.mp fits
          have fitsLonger : (reader.extend more).tape.hasAhead type.width = true := by
            have longer : (reader.extend more).tape.remaining = _ := reader.remaining_extend more
            rw [Tape.hasAhead_iff, longer]
            exact Nat.le_add_right_of_le enough
          have taken : (reader.extend more).tape.ahead.take type.width =
              reader.tape.ahead.take type.width :=
            List.take_append_of_le_length enough
          have moved : (reader.extend more).tape.advance type.width =
              { reader.tape.advance type.width with
                ahead := (reader.tape.advance type.width).ahead ++ more } := by
            simp only [Tape.advance, taken]
            rw [Tape.mk.injEq]
            exact ⟨rfl, List.drop_append_of_le_length enough⟩
          simp only [fitsLonger, ↓reduceIte, taken, moved]
          exact .finished

theorem readCount_extend (itemSize : Nat) (reader : Reader) :
    Extends more (reader.readCount itemSize) ((reader.extend more).readCount itemSize) := by
  unfold readCount
  have answered := read_extend more .word32 reader
  generalize reader.read .word32 = short at answered
  generalize (reader.extend more).read .word32 = long at answered
  cases answered with
  | short lacking => exact .short lacking
  | refused refusal => exact .refused refusal
  | @finished count moved =>
      by_cases fits : count.toNat * itemSize ≤ moved.remaining
      · have fitsLonger : count.toNat * itemSize ≤ (moved.extend more).remaining := by
          rw [remaining_extend]
          exact Nat.le_add_right_of_le fits
        simp only [if_pos fits, if_pos fitsLonger]
        exact .finished
      · simp only [if_neg fits]
        exact .short rfl

end Reader

theorem Decoder.run_extend {α : Type} (more : List UInt8) (decoder : Decoder α) (reader : Reader) :
    Extends more (decoder.run reader) (decoder.run (reader.extend more)) := by
  induction decoder generalizing reader with
  | done value => exact .finished
  | fail cause =>
      cases lacking : cause.isShortage with
      | false => exact .refused lacking
      | true => exact .short lacking
  | readField type next ih =>
      unfold run
      have answered := Reader.read_extend more type reader
      generalize reader.read type = short at answered
      generalize (reader.extend more).read type = long at answered
      cases answered with
      | short lacking => exact .short lacking
      | refused refusal => exact .refused refusal
      | finished => exact ih _ _
  | readCount itemSize next ih =>
      unfold run
      have answered := Reader.readCount_extend more itemSize reader
      generalize reader.readCount itemSize = short at answered
      generalize (reader.extend more).readCount itemSize = long at answered
      cases answered with
      | short lacking => exact .short lacking
      | refused refusal => exact .refused refusal
      | finished => exact ih _ _
  | switchOrder order next ih => exact ih (reader.setOrder order)

/-!
## Whole blobs
-/

/-- How a buffer and a longer one are read: as a blob with bytes after it, with more bytes after it,
refused for the same cause, or the shorter one as lacking bytes. -/
inductive Outgrows (size extra : Nat) : Except DecodeError ReferencedGeometry →
    Except DecodeError ReferencedGeometry → Prop where
  | read {value : ReferencedGeometry} :
      Outgrows size extra (.ok value) (.error (.trailingBytes size extra))
  | trailing {position remaining : Nat} :
      Outgrows size extra (.error (.trailingBytes position remaining))
        (.error (.trailingBytes position (remaining + extra)))
  | refused {cause : DecodeError} :
      cause.isShortage = false →
      (∀ position remaining, cause ≠ .trailingBytes position remaining) →
      Outgrows size extra (.error cause) (.error cause)
  | short {cause : DecodeError} {longer : Except DecodeError ReferencedGeometry} :
      cause.isShortage = true → Outgrows size extra (.error cause) longer

theorem Decoder.trailing_not_refused {limit : Nat} {reader moved : Reader} {cause : DecodeError}
    (failed : (blob limit).run reader = (.error cause, moved)) (position remaining : Nat) :
    cause ≠ .trailingBytes position remaining := by
  intro trailing
  subst trailing
  rcases refusal_of_blob_eq_error failed with ⟨_, _, justified⟩ | lacking
  · cases justified
  · cases lacking

theorem Decoder.position_of_run_eq_ok {α : Type} {decoder : Decoder α} {bytes : List UInt8}
    {value : α} {moved : Reader} (ran : decoder.run (Reader.ofBytes bytes) = (.ok value, moved)) :
    moved.position + moved.remaining = bytes.length := by
  obtain ⟨passed, ⟨ahead, behind⟩, _⟩ := accepts_of_run_eq_ok ran
  have whole : bytes = passed ++ moved.tape.ahead := ahead
  rw [whole, Reader.position, Reader.remaining, Tape.position, Tape.remaining, behind]
  simp [Reader.ofBytes, Tape.ofBytes]

theorem decode_outgrows (codec : Codec) (blob : List UInt8) {more : List UInt8} (extra : more ≠ []) :
    Outgrows blob.length more.length (codec.decode blob) (codec.decode (blob ++ more)) := by
  have extended : (Reader.ofBytes blob).extend more = Reader.ofBytes (blob ++ more) := rfl
  have ran := Decoder.run_extend more (Decoder.blob codec.limit) (Reader.ofBytes blob)
  rw [extended] at ran
  unfold Codec.decode Reader.readGeometry
  cases shorter : (Decoder.blob codec.limit).run (Reader.ofBytes blob) with
  | mk answer moved =>
      rw [shorter] at ran
      generalize (Decoder.blob codec.limit).run (Reader.ofBytes (blob ++ more)) = longer at ran
      cases ran with
      | short lacking => exact .short lacking
      | refused refusal => exact .refused refusal (Decoder.trailing_not_refused shorter)
      | @finished value =>
          have left : (moved.extend more).remaining ≠ 0 := by
            have someMore := List.length_pos_iff.mpr extra
            rw [Reader.remaining_extend]
            omega
          simp only [if_neg left]
          by_cases exhausted : moved.remaining = 0
          · have atEnd := Decoder.position_of_run_eq_ok shorter
            have position : (moved.extend more).position = blob.length := by
              rw [exhausted] at atEnd
              exact atEnd
            simp only [exhausted, ↓reduceIte, position, Reader.remaining_extend, Nat.zero_add]
            exact .read
          · simp only [if_neg exhausted, Reader.remaining_extend]
            exact .trailing

theorem decode_front {codec : Codec} {blob front : List UInt8} {value : ReferencedGeometry}
    (decoded : codec.decode blob = .ok value) (isFront : front <+: blob) (proper : front ≠ blob) :
    ∃ cause, codec.decode front = .error cause ∧ cause.isShortage = true := by
  obtain ⟨more, rfl⟩ := isFront
  have extra : more ≠ [] := by
    intro none
    subst none
    exact proper (List.append_nil front).symm
  have outgrown := decode_outgrows codec front extra
  rw [decoded] at outgrown
  generalize codec.decode front = outcome at outgrown
  cases outgrown with
  | short lacking => exact ⟨_, rfl, lacking⟩

/-- Blobs delimit themselves. With bytes after it a blob is refused for these bytes, and a proper
front of it for the bytes that it lacks; any other refusal stays as it is when bytes follow. -/
theorem decode_append (codec : Codec) (blob : List UInt8) {more : List UInt8} (extra : more ≠ []) :
    (∀ value, codec.decode blob = .ok value →
      codec.decode (blob ++ more) = .error (.trailingBytes blob.length more.length) ∧
        ∀ front, front <+: blob → front ≠ blob →
          (∃ position needed, codec.decode front = .error (.truncated position needed)) ∨
            ∃ count remaining, codec.decode front = .error (.countTooLarge count remaining)) ∧
    (∀ position remaining, codec.decode blob = .error (.trailingBytes position remaining) →
      codec.decode (blob ++ more) = .error (.trailingBytes position (remaining + more.length))) ∧
    ∀ cause, codec.decode blob = .error cause →
      (∀ position needed, cause ≠ .truncated position needed) →
      (∀ count remaining, cause ≠ .countTooLarge count remaining) →
      (∀ position remaining, cause ≠ .trailingBytes position remaining) →
      codec.decode (blob ++ more) = .error cause := by
  have outgrown := decode_outgrows codec blob extra
  refine ⟨?_, ?_, ?_⟩
  · intro value decoded
    refine ⟨?_, ?_⟩
    · rw [decoded] at outgrown
      generalize codec.decode (blob ++ more) = longer at outgrown ⊢
      cases outgrown with
      | read => rfl
    · intro front isFront proper
      obtain ⟨cause, failed, lacking⟩ := decode_front decoded isFront proper
      cases cause with
      | truncated position needed => exact .inl ⟨position, needed, failed⟩
      | countTooLarge count remaining => exact .inr ⟨count, remaining, failed⟩
      | _ => cases lacking
  · intro position remaining failed
    rw [failed] at outgrown
    generalize codec.decode (blob ++ more) = longer at outgrown ⊢
    cases outgrown with
    | trailing => rfl
    | refused _ notTrailing => exact absurd rfl (notTrailing position remaining)
    | short lacking => cases lacking
  · intro cause failed notTruncated notCount notTrailing
    rw [failed] at outgrown
    generalize codec.decode (blob ++ more) = longer at outgrown ⊢
    cases outgrown with
    | trailing => exact absurd rfl (notTrailing _ _)
    | refused => rfl
    | short lacking =>
        cases cause with
        | truncated position needed => exact absurd rfl (notTruncated position needed)
        | countTooLarge count remaining => exact absurd rfl (notCount count remaining)
        | _ => cases lacking

/-- A line string of one coordinate, cut off before its coordinate and with bytes after it, and a
marker that stands for no byte order. -/
theorem decode_append_lineString :
    let codec : Codec := ⟨.big, 0⟩
    let front : List UInt8 := [1, 2, 0, 0, 0, 1, 0, 0, 0, 0]
    let blob := front ++ [0, 0, 0, 0, 0, 0, 0, 0, 0, 0, 0, 0, 0, 0xf0, 0x3f]
    codec.decode (blob ++ [7]) = .error (.trailingBytes 25 1) ∧
      ((∃ position needed, codec.decode front = .error (.truncated position needed)) ∨
        ∃ count remaining, codec.decode front = .error (.countTooLarge count remaining)) ∧
      codec.decode ((blob ++ [7]) ++ [8, 9]) = .error (.trailingBytes 25 3) ∧
      codec.decode ([2] ++ [7]) = .error (.invalidByteOrder 2) := by
  intro codec front blob
  have decoded : codec.decode blob = .ok
      ⟨-1, .lineString [.xy ⟨0⟩ ⟨0x3ff0000000000000⟩]⟩ := by cbv
  obtain ⟨followed, fronts⟩ := (decode_append codec blob (List.cons_ne_nil 7 [])).1 _ decoded
  have further := (decode_append codec (blob ++ [7]) (List.cons_ne_nil 8 [9])).2.1 _ _ followed
  have refused := (decode_append codec [2] (List.cons_ne_nil 7 [])).2.2 (.invalidByteOrder 2) rfl
    (by simp) (by simp) (by simp)
  exact ⟨followed, fronts front (List.prefix_append _ _) (by decide), further, refused⟩

end GeoWire
