import GeoWire.Proofs.BlobSteps

/-!
# Truthful causes

What the cause for which a geometry cannot be read says of the buffer is so: offsets and lengths fit
the buffer and the position that the reader is left at, and whatever is called unknown, unexpected or
too large is so.
-/

set_option autoImplicit false

namespace GeoWire

theorem Dimension.size_bounds (dimension : Dimension) : 2 ≤ dimension.size ∧ dimension.size ≤ 4 := by
  cases dimension <;> decide

theorem Dimension.size_ne {left right : Dimension} (leftWritable : left ≠ .xym)
    (rightWritable : right ≠ .xym) (different : left ≠ right) : left.size ≠ right.size := by
  cases left <;> cases right <;> simp_all [size]

theorem ByteOrder.ofMarker?_eq_none_iff {byte : UInt8} :
    ofMarker? byte = none ↔ byte ≠ 0 ∧ byte ≠ 1 := by
  unfold ofMarker?
  split
  · simp_all
  · split <;> simp_all

/-- What a cause says of a buffer, when a reader is moved over the buffer until reading a geometry
fails. -/
def DecodeError.TrueOf (limit : Nat) (reader moved : Reader) : DecodeError → Prop
  | .truncated position needed =>
      position ≤ reader.tape.contents.length ∧
        reader.tape.contents.length < position + needed ∧
        moved.position = reader.tape.contents.length ∧
        ∃ earlier access, (Decoder.blob limit).trace reader = earlier ++ [access] ∧
          access.reader.position = position ∧ access.query.type.width = needed
  | .countTooLarge count remaining =>
      remaining = moved.remaining ∧
        ∃ header earlier before, ∃ items : Counted, ∃ word : UInt32,
          reader.readHeader.1 = .ok header ∧
          (Decoder.blob limit).trace reader =
            earlier ++ [⟨.count (items.leastSize header.dimension), before⟩] ∧
          before.read .word32 = (.ok word, moved) ∧ count = word.toNat ∧
          remaining < count * items.leastSize header.dimension
  | .trailingBytes position remaining =>
      position = moved.position ∧ 0 < remaining ∧
        position + remaining = reader.tape.contents.length
  | .nestingTooDeep depth => depth = limit
  | .invalidByteOrder marker => marker ≠ 0 ∧ marker ≠ 1
  | .unknownKind tag => ¬ (1 ≤ tag ∧ tag ≤ 7)
  | .unsupportedVersion version => 1 ≤ version ∧ version ≤ 31
  | .dimensionMismatch expected found =>
      expected ≠ found ∧ (2 ≤ expected ∧ expected ≤ 4) ∧ (2 ≤ found ∧ found ≤ 4) ∧
        ∃ header, reader.readHeader.1 = .ok header ∧ expected = header.dimension.size
  | .unexpectedElement expected found =>
      expected ≠ found ∧ (expected = .point ∨ expected = .lineString ∨ expected = .polygon)
  | .byteOrderUnknown => False
  | .unsupportedRaster | .unsupportedXym | .ringNotClosed => True

namespace DecodeError

variable {limit : Nat} {reader moved : Reader} {cause : DecodeError}

theorem Justified.trueOf {isNative : Bool}
    (justified : cause.Justified isNative (reader.Announces limit)) :
    cause.TrueOf limit reader moved := by
  cases justified with
  | unsupportedXym | unsupportedRaster | ringNotClosed => trivial
  | unknownKind unknown =>
      have outside := Kind.ofTag?_eq_none_iff.mp unknown
      intro inside
      omega
  | unsupportedVersion _ otherVersion small =>
      exact ⟨Nat.pos_of_ne_zero otherVersion, Nat.le_of_lt_succ small⟩
  | invalidByteOrder _ unknown => exact ByteOrder.ofMarker?_eq_none_iff.mp unknown
  | dimensionMismatch _ announced foundWritable different =>
      obtain ⟨header, read, writable, rfl⟩ := announced
      exact ⟨Dimension.size_ne writable foundWritable different.symm, Dimension.size_bounds _,
        Dimension.size_bounds _, header, read, rfl⟩
  | @unexpectedElement multi _ _ held different =>
      refine ⟨different.symm, ?_⟩
      cases multi <;> cases held <;> simp
  | nestingTooDeep announced =>
      obtain ⟨header, _, _, rfl⟩ := announced
      rfl

/-- Of an access that fails the cause tells where the buffer ends or what is left behind a count. -/
theorem trueOf_of_fails {earlier : List Access} {access : Access}
    (traced : (Decoder.blob limit).trace reader = earlier ++ [access])
    (fails : access.Fails cause moved)
    (contents : moved.tape.contents = reader.tape.contents) : cause.TrueOf limit reader moved := by
  have belongs : access ∈ (Decoder.blob limit).trace reader := by simp [traced]
  obtain ⟨readable, guards⟩ := Decoder.readable_of_mem_trace belongs
  rcases fails.cause_eq readable with ⟨rfl, lacking, exhausted⟩ |
    ⟨itemSize, word, asked, answered, rfl, forbidden⟩
  · have before : access.reader.position + access.reader.remaining = reader.tape.contents.length := by
      rw [← Decoder.contents_of_mem_trace belongs]
      exact access.reader.tape.length_contents.symm
    have after : moved.position + moved.remaining = reader.tape.contents.length := by
      rw [← contents]
      exact moved.tape.length_contents.symm
    refine ⟨?_, ?_, ?_, earlier, access, traced, rfl, rfl⟩ <;> omega
  · obtain ⟨header, read, items, rfl⟩ := guards itemSize asked
    obtain ⟨_, before⟩ := access
    cases asked
    exact ⟨rfl, header, earlier, before, items, word, read, traced, answered, rfl, forbidden⟩

end DecodeError

/-- A geometry that cannot be read is refused for a true cause, and the reader stays in its buffer. -/
theorem cause_trueOf_of_readGeometry_eq_error {limit : Nat} {reader moved : Reader}
    {cause : DecodeError} (failed : reader.readGeometry limit = (.error cause, moved)) :
    cause.TrueOf limit reader moved ∧ moved.tape.contents = reader.tape.contents ∧
      moved.position ≤ reader.tape.contents.length := by
  have contents : moved.tape.contents = reader.tape.contents := by
    have kept := (Decoder.blob limit).contents_run reader
    rwa [← Reader.snd_readGeometry, failed] at kept
  have whole : moved.position + moved.remaining = reader.tape.contents.length := by
    rw [← contents]
    exact moved.tape.length_contents.symm
  refine ⟨?_, contents, Nat.le.intro whole⟩
  rcases Reader.readGeometry_eq_error_iff.mp failed with ran | ⟨_, left, rfl⟩
  · rcases Decoder.cause_of_blob_eq_error ran with ⟨_, _, justified⟩ | ⟨earlier, access, traced, fails⟩
    · exact justified.trueOf
    · exact DecodeError.trueOf_of_fails traced fails contents
  · exact ⟨rfl, Nat.pos_of_ne_zero left, whole⟩

/-- A point cut off in a collection, a member with a Z in a planar multipoint, two members counted
before a single byte, and a byte behind an empty multipoint. -/
theorem cause_trueOf_of_readGeometry_eq_error_multiPoint :
    let cutOff : Reader := .ofBytes [0, 0, 0, 0, 7, 0, 0, 0, 1, 1, 1, 0, 0, 0, 9]
    let mixed : Reader := .ofBytes [0, 0, 0, 0, 4, 0, 0, 0, 1, 0, 0x80, 0, 0, 1]
    let overcounted : Reader := .ofBytes [0, 0, 0, 0, 4, 0, 0, 0, 2, 1]
    let followed : Reader := .ofBytes [0, 0, 0, 0, 4, 0, 0, 0, 0, 5]
    ((cutOff.readGeometry 1).1 = .error (.truncated 14 8) ∧
      (DecodeError.truncated 14 8).TrueOf 1 cutOff (cutOff.readGeometry 1).2) ∧
    ((mixed.readGeometry 1).1 = .error (.dimensionMismatch 2 3) ∧
      (DecodeError.dimensionMismatch 2 3).TrueOf 1 mixed (mixed.readGeometry 1).2) ∧
    ((overcounted.readGeometry 1).1 = .error (.countTooLarge 2 1) ∧
      (DecodeError.countTooLarge 2 1).TrueOf 1 overcounted (overcounted.readGeometry 1).2) ∧
    (followed.readGeometry 1).1 = .error (.trailingBytes 9 1) ∧
      (DecodeError.trailingBytes 9 1).TrueOf 1 followed (followed.readGeometry 1).2 := by
  intro cutOff mixed overcounted followed
  have cutOffFailed : (cutOff.readGeometry 1).1 = .error (.truncated 14 8) := by cbv
  have mixedFailed : (mixed.readGeometry 1).1 = .error (.dimensionMismatch 2 3) := by cbv
  have overcountedFailed : (overcounted.readGeometry 1).1 = .error (.countTooLarge 2 1) := by cbv
  have followedFailed : (followed.readGeometry 1).1 = .error (.trailingBytes 9 1) := by cbv
  exact ⟨⟨cutOffFailed, (cause_trueOf_of_readGeometry_eq_error (Prod.ext cutOffFailed rfl)).1⟩,
    ⟨mixedFailed, (cause_trueOf_of_readGeometry_eq_error (Prod.ext mixedFailed rfl)).1⟩,
    ⟨overcountedFailed, (cause_trueOf_of_readGeometry_eq_error (Prod.ext overcountedFailed rfl)).1⟩,
    followedFailed, (cause_trueOf_of_readGeometry_eq_error (Prod.ext followedFailed rfl)).1⟩

end GeoWire
