import GeoWire.Proofs.Displacement
import GeoWire.Proofs.Refusals

/-!
# Declared byte orders

A field of several bytes is only ever read in an order that the blob has declared before it: the root
of a native blob declares it once, the markers of a standard blob again and again. What a blob can be
refused for depends on the family that its first byte announces.
-/

set_option autoImplicit false

namespace GeoWire

/-!
## Refused blobs
-/

/-- Causes of the one dialect family are not given for the other. -/
def DecodeError.Fits (cause : DecodeError) : (isNative : Bool) → Prop
  | true => (∀ marker, cause ≠ .invalidByteOrder marker) ∧
      ∀ expected found, cause ≠ .dimensionMismatch expected found
  | false => cause ≠ .unsupportedRaster ∧ ∀ version, cause ≠ .unsupportedVersion version

theorem DecodeError.Justified.fits {isNative : Bool} {inside : BodyContext → Prop}
    {cause : DecodeError} (justified : cause.Justified isNative inside) : cause.Fits isNative := by
  cases justified <;> cases isNative <;> simp_all [Fits]

theorem DecodeError.fits_of_isShortage {cause : DecodeError} (lacking : cause.isShortage = true)
    (isNative : Bool) : cause.Fits isNative := by
  cases cause with
  | truncated | countTooLarge => cases isNative <;> simp [Fits]
  | _ => cases lacking

namespace Reader

theorem readGeometry_of_readHeader_eq_error {limit : Nat} {reader : Reader} {cause : DecodeError}
    (failed : reader.readHeader.1 = .error cause) :
    (reader.readGeometry limit).1 = .error cause := by
  have ran : Header.decoder.run reader = (.error cause, reader.readHeader.2) := Prod.ext failed rfl
  have blobFailed : (Header.decoder >>= Header.bodyDecoder limit).run reader =
      (.error cause, reader.readHeader.2) := by
    simp only [Decoder.run_bind, ran]
  exact congrArg Prod.fst (readGeometry_eq_error_iff.mpr (.inl blobFailed))

/-- A geometry is refused for a justified cause, for lack of bytes or for bytes left over. -/
theorem cause_of_readGeometry_eq_error {limit : Nat} {reader : Reader} {cause : DecodeError}
    (failed : (reader.readGeometry limit).1 = .error cause) :
    (∃ lead, reader.tape.ahead.head? = some lead ∧
        cause.Justified (Native.isLead lead) (reader.Announces limit)) ∨
      cause.isShortage = true ∨ ∃ position remaining, cause = .trailingBytes position remaining := by
  have failed : reader.readGeometry limit = (.error cause, (reader.readGeometry limit).2) :=
    Prod.ext failed rfl
  rcases readGeometry_eq_error_iff.mp failed with ran | ⟨_, _, trailing⟩
  · exact (Decoder.refusal_of_blob_eq_error ran).imp_right .inl
  · exact .inr (.inr ⟨_, _, trailing⟩)

theorem readGeometry_ne_byteOrderUnknown (reader : Reader) (limit : Nat) :
    (reader.readGeometry limit).1 ≠ .error .byteOrderUnknown := by
  intro failed
  rcases cause_of_readGeometry_eq_error failed with ⟨_, _, justified⟩ | lacking | ⟨_, _, trailing⟩
  · cases justified
  · cases lacking
  · cases trailing

theorem fits_of_readGeometry_eq_error {limit : Nat} {reader : Reader} {cause : DecodeError}
    {lead : UInt8} (first : reader.tape.ahead.head? = some lead)
    (failed : (reader.readGeometry limit).1 = .error cause) : cause.Fits (Native.isLead lead) := by
  rcases cause_of_readGeometry_eq_error failed with ⟨_, same, justified⟩ | lacking | ⟨_, _, rfl⟩
  · cases first.symm.trans same
    exact justified.fits
  · exact DecodeError.fits_of_isShortage lacking _
  · cases Native.isLead lead <;> simp [DecodeError.Fits]

end Reader

/-!
## Orders on the way
-/

section Orders

variable {limit : Nat} {behind rest : List UInt8} {lead : UInt8} {known : Option ByteOrder}

theorem Decoder.order?_of_mem_trace (native : Native.isLead lead = true) {access : Access}
    (belongs : access ∈ ((blob limit).trace ⟨⟨behind, lead :: rest⟩, known⟩).tail) :
    access.reader.order? = some (Native.orderOfLead lead) := by
  rw [blob_eq, trace_readField_byte, List.tail_cons] at belongs
  obtain ⟨earlier, later, split⟩ := List.append_of_mem belongs
  exact ((blob_lawfulRun limit behind rest lead known).lawful split).bound native

theorem Decoder.order?_of_run (native : Native.isLead lead = true) :
    ((blob limit).run ⟨⟨behind, lead :: rest⟩, known⟩).2.order? =
      some (Native.orderOfLead lead) := by
  have lawfulRun := blob_lawfulRun limit behind rest lead known
  rw [blob_eq, run_readField_byte]
  generalize ran : (Header.afterLead lead >>= Header.bodyDecoder limit).run
    ⟨⟨lead :: behind, rest⟩, known⟩ = outcome
  obtain ⟨answer, moved⟩ := outcome
  cases answer with
  | ok value => exact (lawfulRun.returned ran).bound native
  | error cause =>
      rcases lawfulRun.failed ran with refused | ⟨earlier, access, split, fails⟩
      · exact refused.bound native
      · exact fails.order?_eq.trans ((lawfulRun.lawful split).bound native)

/-- A wide field of a standard blob is read in the order that the last single byte before it
declares. -/
theorem Decoder.declared_of_trace (standard : Native.isLead lead = false) {access : Access}
    {earlier later : List Access}
    (split : (blob limit).trace ⟨⟨behind, lead :: rest⟩, known⟩ = earlier ++ access :: later)
    (wide : access.query ≠ .field .byte) :
    ∃ order, access.reader.order? = some order ∧ declaredOrder? earlier = some order := by
  rw [blob_eq, trace_readField_byte] at split
  cases earlier with
  | nil =>
      cases split
      exact absurd rfl wide
  | cons first earlier =>
      obtain ⟨rfl, remainder⟩ := List.cons.inj split
      have lawful := (blob_lawfulRun limit behind rest lead known).lawful remainder
      rw [standard] at lawful
      generalize asked : access.query = query at lawful wide
      cases lawful with
      | byte => exact absurd rfl wide
      | field settled | count _ _ settled => exact OrderState.settled_standard_iff.mp settled

theorem Header.order_of_readHeader (native : Native.isLead lead = true) {header : Header}
    (read : (Reader.readHeader ⟨⟨behind, lead :: rest⟩, known⟩).1 = .ok header) :
    header.order = Native.orderOfLead lead := by
  cases ran : Reader.readHeader ⟨⟨behind, lead :: rest⟩, known⟩ with
  | mk answer moved =>
      rw [ran] at read
      cases read
      obtain ⟨bytes, _, accepted⟩ := Decoder.accepts_of_run_eq_ok ran
      have last := (Decoder.accepts_header_iff.mp accepted).1
      rw [Reader.readHeader, Decoder.header_eq, Decoder.run_readField_byte] at ran
      have settled := (Decoder.header_lawfulRun (fun _ => False) behind rest lead known).returned ran
      exact Option.some.inj (last.symm.trans (settled.1.bound native))

end Orders

/-!
## Orders and families
-/

/-- The byte order is known whenever a wide field is read, and a blob is refused for causes of its
family alone. In a native blob the order is that of the root from the first byte on, in a standard one
it is the order that the last byte order marker declares. -/
theorem read_in_declared_order (reader : Reader) (limit : Nat) :
    (reader.readGeometry limit).1 ≠ .error .byteOrderUnknown ∧
    reader.readHeader.1 ≠ .error .byteOrderUnknown ∧
    reader.readHeaderByLook = reader.readHeader ∧
    Header.decoder.trace reader <+: (Decoder.blob limit).trace reader ∧
    ∀ lead, reader.tape.ahead.head? = some lead →
      (Native.isLead lead = true →
        (∀ cause, (reader.readGeometry limit).1 = .error cause ∨ reader.readHeader.1 = .error cause →
          (∀ marker, cause ≠ .invalidByteOrder marker) ∧
            ∀ expected found, cause ≠ .dimensionMismatch expected found) ∧
        (∀ header, reader.readHeader.1 = .ok header → header.order = Native.orderOfLead lead) ∧
        (∀ access ∈ ((Decoder.blob limit).trace reader).tail,
          access.reader.order? = some (Native.orderOfLead lead)) ∧
        (reader.readGeometry limit).2.order? = some (Native.orderOfLead lead)) ∧
      (Native.isLead lead = false →
        (∀ cause, (reader.readGeometry limit).1 = .error cause ∨ reader.readHeader.1 = .error cause →
          cause ≠ .unsupportedRaster ∧ ∀ version, cause ≠ .unsupportedVersion version) ∧
        ∀ earlier access later, (Decoder.blob limit).trace reader = earlier ++ access :: later →
          access.query ≠ .field .byte →
            ∃ order, access.reader.order? = some order ∧ declaredOrder? earlier = some order) := by
  have known := reader.readGeometry_ne_byteOrderUnknown limit
  refine ⟨known, fun failed => known (Reader.readGeometry_of_readHeader_eq_error failed),
    reader.readHeaderByLook_eq, ?_, ?_⟩
  · change _ <+: (Header.decoder >>= Header.bodyDecoder limit).trace reader
    rw [Decoder.trace_bind]
    exact List.prefix_append _ _
  · intro lead first
    have fits (cause : DecodeError)
        (failed : (reader.readGeometry limit).1 = .error cause ∨ reader.readHeader.1 = .error cause) :
        cause.Fits (Native.isLead lead) :=
      Reader.fits_of_readGeometry_eq_error first
        (failed.elim id fun failed => Reader.readGeometry_of_readHeader_eq_error failed)
    rw [Reader.snd_readGeometry]
    obtain ⟨⟨behind, _ | ⟨_, rest⟩⟩, known⟩ := reader
    · cases first
    · cases first
      constructor
      · intro native
        rw [native] at fits
        exact ⟨fits, fun header => Header.order_of_readHeader native,
          fun access => Decoder.order?_of_mem_trace native, Decoder.order?_of_run native⟩
      · intro standard
        rw [standard] at fits
        exact ⟨fits, fun earlier access later => Decoder.declared_of_trace standard⟩

/-- A native line string that lacks its coordinate, after a little-endian read, and a little-endian
point that lacks an ordinate in a big-endian collection. -/
theorem read_in_declared_order_mixedOrders :
    let native : Reader := ⟨⟨[7], [8, 0x20, 0, 2, 0, 0, 0, 1]⟩, some .little⟩
    let count : Access := ⟨.count 16, ⟨⟨[2, 0, 0x20, 8, 7], [0, 0, 0, 1]⟩, some .big⟩⟩
    let standard : Reader := ⟨⟨[7], [0, 0, 0, 0, 7, 0, 0, 0, 1, 1, 1, 0, 0, 0, 9]⟩, some .big⟩
    let double : Access :=
      ⟨.field .double, ⟨⟨[0, 0, 0, 1, 1, 1, 0, 0, 0, 7, 0, 0, 0, 0, 7], [9]⟩, some .little⟩⟩
    ((native.readGeometry 0).1 = .error (.countTooLarge 1 0) ∧
      (∃ header, native.readHeader.1 = .ok header ∧ header.order = .big) ∧
      count ∈ (Decoder.blob 0).trace native ∧ count.reader.order? = some .big ∧
      (native.readGeometry 0).2.order? = some .big) ∧
    (standard.readGeometry 1).1 = .error (.truncated 15 8) ∧
      ∃ earlier, (Decoder.blob 1).trace standard = earlier ++ [double] ∧
        ∃ order, double.reader.order? = some order ∧ declaredOrder? earlier = some order := by
  intro native count standard double
  obtain ⟨_, _, _, _, nativeFamily⟩ := read_in_declared_order native 0
  obtain ⟨_, _, _, _, standardFamily⟩ := read_in_declared_order standard 1
  obtain ⟨_, headerOrder, orders, finalOrder⟩ := (nativeFamily 8 rfl).1 (by decide)
  obtain ⟨_, declared⟩ := (standardFamily 0 rfl).2 (by decide)
  have belongs : count ∈ ((Decoder.blob 0).trace native).tail := by
    have traced : (Decoder.blob 0).trace native =
        [⟨.field .byte, native⟩,
          ⟨.field .byte, ⟨⟨[8, 7], [0x20, 0, 2, 0, 0, 0, 1]⟩, some .big⟩⟩,
          ⟨.field .byte, ⟨⟨[0x20, 8, 7], [0, 2, 0, 0, 0, 1]⟩, some .big⟩⟩,
          ⟨.field .byte, ⟨⟨[0, 0x20, 8, 7], [2, 0, 0, 0, 1]⟩, some .big⟩⟩, count] := by cbv
    rw [traced]
    decide
  have split : (Decoder.blob 1).trace standard =
      [⟨.field .byte, standard⟩,
        ⟨.field .word32, ⟨⟨[0, 7], [0, 0, 0, 7, 0, 0, 0, 1, 1, 1, 0, 0, 0, 9]⟩, some .big⟩⟩,
        ⟨.count 1, ⟨⟨[7, 0, 0, 0, 0, 7], [0, 0, 0, 1, 1, 1, 0, 0, 0, 9]⟩, some .big⟩⟩,
        ⟨.field .byte, ⟨⟨[1, 0, 0, 0, 7, 0, 0, 0, 0, 7], [1, 1, 0, 0, 0, 9]⟩, some .big⟩⟩,
        ⟨.field .word32, ⟨⟨[1, 1, 0, 0, 0, 7, 0, 0, 0, 0, 7], [1, 0, 0, 0, 9]⟩, some .little⟩⟩] ++
        [double] := by cbv
  have header : native.readHeader.1 = .ok ⟨.nativeVector, 0, .big, -1, .xy, .lineString⟩ := by cbv
  exact ⟨⟨by cbv, ⟨_, header, headerOrder _ header⟩, List.mem_of_mem_tail belongs,
    orders count belongs, finalOrder⟩, by cbv, _, split, declared _ _ [] split (by decide)⟩

end GeoWire
