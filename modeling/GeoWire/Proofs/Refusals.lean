import GeoWire.Proofs.BlobSteps

/-!
# Refusals

A blob is refused for a cause that what was read of it justifies, or because the buffer is too short
for what it announces.
-/

set_option autoImplicit false

namespace GeoWire

/-- Whether a buffer was found too short, so that more bytes can change the outcome. -/
def DecodeError.isShortage : DecodeError → Bool
  | .truncated _ _ | .countTooLarge _ _ => true
  | .invalidByteOrder _ | .byteOrderUnknown | .unsupportedRaster | .unsupportedVersion _
  | .unsupportedXym | .unknownKind _ | .unexpectedElement _ _ | .ringNotClosed
  | .dimensionMismatch _ _ | .nestingTooDeep _ | .trailingBytes _ _ => false

theorem DecodeError.Justified.isShortage_eq_false {isNative : Bool} {inside : BodyContext → Prop}
    {cause : DecodeError} (justified : cause.Justified isNative inside) :
    cause.isShortage = false := by
  cases justified <;> rfl

theorem Access.Fails.isShortage {access : Access} {cause : DecodeError} {moved : Reader}
    (fails : access.Fails cause moved) (readable : access.Readable) : cause.isShortage = true := by
  rcases fails.cause_eq readable with ⟨rfl, _⟩ | ⟨_, _, _, _, rfl, _⟩ <;> rfl

theorem Decoder.refusal_of_blob_eq_error {limit : Nat} {reader moved : Reader} {cause : DecodeError}
    (failed : (blob limit).run reader = (.error cause, moved)) :
    (∃ lead, reader.tape.ahead.head? = some lead ∧
        cause.Justified (Native.isLead lead) (reader.Announces limit)) ∨
      cause.isShortage = true := by
  rcases cause_of_blob_eq_error failed with justified | ⟨earlier, access, traced, fails⟩
  · exact .inl justified
  · have belongs : access ∈ (blob limit).trace reader := by simp [traced]
    exact .inr (fails.isShortage (readable_of_mem_trace belongs).1)

end GeoWire
