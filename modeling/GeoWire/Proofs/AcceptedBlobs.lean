import GeoWire.Proofs.BodyAcceptance

/-!
# Accepted blobs

Reading a geometry succeeds exactly on the blobs of the grammar whose levels of members are allowed.
The first byte tells which of the two dialect families a blob belongs to, and the bits that the
native family leaves free have no influence at all.
-/

set_option autoImplicit false

namespace GeoWire

open Grammar

namespace Decoder

theorem blob_honest (limit : Nat) : (blob limit).HonestGuards :=
  header_honest.bind fun _ => (body_honest _ _ _).bind fun _ => trivial

/-- An accepted blob is an accepted header with a body that spells the tree. -/
theorem parts_of_accepts_blob {limit : Nat} {known final : Option ByteOrder} {bytes : List UInt8}
    {value : ReferencedGeometry} (accepted : (blob limit).Accepts known bytes value final) :
    ∃ header head body, bytes = head ++ body ∧
      Header.decoder.Accepts known head header (some header.order) ∧ header.srid = value.srid ∧
      value.geometry.kind = header.kind ∧ value.geometry.nesting ≤ limit ∧
      Body header.dialect.isNative header.dimension header.order value.geometry body := by
  obtain ⟨head, further, header, _, rfl, headed, bodied⟩ := accepts_bind_iff.mp accepted
  obtain ⟨body, last, geometry, _, rfl, read, finished⟩ := accepts_bind_iff.mp bodied
  obtain ⟨rfl, rfl, rfl⟩ := accepts_pure_iff.mp finished
  obtain ⟨rfl, _⟩ := accepts_header_iff.mp headed
  obtain ⟨_, same, _, ⟨sameKind, bounded⟩, spelled⟩ := (body_readsBodies _ _ _).sound read
  cases same
  rw [List.append_nil]
  exact ⟨header, head, body, rfl, headed, rfl, sameKind, bounded, spelled⟩

private theorem blob_sound {limit : Nat} {known final : Option ByteOrder} {bytes : List UInt8}
    {value : ReferencedGeometry} (accepted : (blob limit).Accepts known bytes value final) :
    (StandardBlob value bytes ∨ NativeBlob value bytes) ∧ value.geometry.nesting ≤ limit := by
  obtain ⟨header, head, body, rfl, headed, sameValueSrid, sameKind, bounded, spelled⟩ :=
    parts_of_accepts_blob accepted
  obtain ⟨_, srid?, sameSrid, _, dialect⟩ := accepts_header_iff.mp headed
  have sameValue : value = ⟨srid?.getD ReferencedGeometry.noSrid, value.geometry⟩ := by
    rw [← sameSrid, sameValueSrid]
  refine ⟨?_, bounded⟩
  rw [sameValue]
  rcases dialect with ⟨dialect, spelledHead⟩ | ⟨dialect, spelledHead⟩
  · rw [dialect] at spelled
    rw [← sameKind] at spelledHead
    exact .inr (spelledHead.blob spelled)
  · have standard : header.dialect.isNative = false := by
      rw [dialect]
      cases srid? <;> rfl
    rw [standard] at spelled
    rw [← sameKind] at spelledHead
    exact .inl (.root spelledHead spelled)

private theorem blob_of_parts {limit : Nat} {known : Option ByteOrder} {header : Header}
    {head body : List UInt8} {geometry : Geometry}
    (headed : Header.decoder.Accepts known head header (some header.order))
    (sameKind : geometry.kind = header.kind)
    (spelled : Body header.dialect.isNative header.dimension header.order geometry body)
    (bounded : geometry.nesting ≤ limit) :
    ∃ final, (blob limit).Accepts known (head ++ body) ⟨header.srid, geometry⟩ final := by
  have reads := body_readsBodies (header.bodyContext limit) limit header.kind
  obtain ⟨final, read, _⟩ := reads.complete spelled ⟨sameKind, bounded⟩
  have finished : (pure ⟨header.srid, geometry⟩ : Decoder ReferencedGeometry).Accepts final []
      ⟨header.srid, geometry⟩ final := .done
  refine ⟨final, headed.bind ?_⟩
  rw [← List.append_nil body]
  exact read.bind finished

private theorem blob_complete {limit : Nat} (known : Option ByteOrder) {bytes : List UInt8}
    {value : ReferencedGeometry} (spelled : StandardBlob value bytes ∨ NativeBlob value bytes)
    (bounded : value.geometry.nesting ≤ limit) :
    ∃ final, (blob limit).Accepts known bytes value final := by
  rcases spelled with spelled | spelled
  · cases spelled with
    | @root dimension order srid? geometry head body header spelled =>
        let announced : Header := ⟨if srid?.isSome then .ewkb else .wkb, 0, order,
          srid?.getD ReferencedGeometry.noSrid, dimension, geometry.kind⟩
        have headed : Header.decoder.Accepts known head announced (some order) :=
          accepts_header_iff.mpr ⟨rfl, srid?, rfl, rfl, .inr ⟨rfl, header⟩⟩
        have standard : announced.dialect.isNative = false := by
          cases srid? <;> rfl
        exact blob_of_parts headed rfl (standard ▸ spelled) bounded
  · cases spelled with
    | @root lead form flags dimension srid? geometry body native isVector version parts writable
        spelled =>
        let announced : Header := ⟨.nativeVector, 0, Native.orderOfLead lead,
          srid?.getD ReferencedGeometry.noSrid, dimension, geometry.kind⟩
        have header : NativeHeader dimension (Native.orderOfLead lead) geometry.kind srid? _ :=
          ⟨lead, form, flags, native, isVector, version, parts, writable, rfl, rfl⟩
        have headed : Header.decoder.Accepts known _ announced (some announced.order) :=
          accepts_header_iff.mpr ⟨rfl, srid?, rfl, rfl, .inl ⟨rfl, header⟩⟩
        simpa using blob_of_parts headed rfl spelled bounded

end Decoder

theorem Reader.accepts_of_readGeometry_eq_ok {limit : Nat} {reader : Reader}
    {value : ReferencedGeometry} (success : (reader.readGeometry limit).1 = .ok value) :
    ∃ final, (Decoder.blob limit).Accepts reader.order? reader.tape.ahead value final := by
  cases ran : (Decoder.blob limit).run reader with
  | mk answer moved =>
      cases answer with
      | error cause => simp [readGeometry, ran] at success
      | ok result =>
          simp only [readGeometry, ran] at success
          split at success
          · rename_i exhausted
            cases success
            obtain ⟨bytes, passed, accepted⟩ := Decoder.accepts_of_run_eq_ok ran
            have allRead : reader.tape.ahead = bytes := by
              rw [passed.1, List.eq_nil_of_length_eq_zero exhausted, List.append_nil]
            exact ⟨_, allRead ▸ accepted⟩
          · cases success

/-- Reading a geometry at any position, whatever byte order is known there, succeeds exactly when
the bytes up to the end of the buffer are a blob with few enough levels. -/
theorem Reader.readGeometry_eq_ok_iff {limit : Nat} {reader : Reader}
    {value : ReferencedGeometry} :
    (reader.readGeometry limit).1 = .ok value ↔
      (StandardBlob value reader.tape.ahead ∨ NativeBlob value reader.tape.ahead) ∧
        value.geometry.nesting ≤ limit := by
  constructor
  · intro success
    obtain ⟨_, accepted⟩ := Reader.accepts_of_readGeometry_eq_ok success
    exact Decoder.blob_sound accepted
  · intro spelled
    obtain ⟨spelled, bounded⟩ := spelled
    obtain ⟨final, accepted⟩ := Decoder.blob_complete reader.order? spelled bounded
    have ran := accepted.run_eq (Decoder.blob_honest limit) reader.tape.behind []
    rw [List.append_nil] at ran
    simp only [readGeometry, ran]
    rfl

/-!
## Standard blobs
-/

private theorem standardBlob_lead {value : ReferencedGeometry} {bytes : List UInt8}
    (spelled : StandardBlob value bytes) : ∃ lead ∈ bytes.head?, Native.isLead lead = false := by
  cases spelled with
  | root header _ =>
      cases header with
      | fields _ => exact ⟨_, rfl, Native.isLead_marker _⟩

private theorem nativeBlob_lead {value : ReferencedGeometry} {bytes : List UInt8}
    (spelled : NativeBlob value bytes) : ∃ lead ∈ bytes.head?, Native.isLead lead = true := by
  cases spelled with
  | @root lead _ _ _ _ _ _ native => exact ⟨lead, rfl, native⟩

/-- A buffer that does not begin with a native lead byte is read exactly when it is a standard blob
with few enough levels. -/
theorem readGeometry_eq_ok_iff_standardBlob {bytes : List UInt8}
    (standard : ∀ lead ∈ bytes.head?, Native.isLead lead = false) (limit : Nat)
    (value : ReferencedGeometry) :
    ((Reader.ofBytes bytes).readGeometry limit).1 = .ok value ↔
      StandardBlob value bytes ∧ value.geometry.nesting ≤ limit := by
  rw [Reader.readGeometry_eq_ok_iff]
  change (StandardBlob value bytes ∨ NativeBlob value bytes) ∧ _ ↔ _
  have foreign : ¬ NativeBlob value bytes := by
    intro spelled
    obtain ⟨lead, first, native⟩ := nativeBlob_lead spelled
    rw [standard lead first] at native
    cases native
  rw [or_iff_left foreign]

/-- A big-endian root with an SRID around a little-endian point with an ISO code and an SRID. -/
theorem readGeometry_mixedOrders :
    let bytes : List UInt8 :=
      [0, 0xa0, 0, 0, 4, 0, 0, 0x10, 0xe6, 0, 0, 0, 1,
        1, 0xe9, 3, 0, 0x20, 7, 0, 0, 0, 0, 0, 0, 0, 0, 0, 0xf0, 0x3f,
        0, 0, 0, 0, 0, 0, 0, 0xc0, 1, 0, 0, 0, 0, 0, 0xf8, 0x7f]
    let value : ReferencedGeometry :=
      ⟨4326, .multiPoint [⟨some (.xyz ⟨0x3ff0000000000000⟩ ⟨0xc000000000000000⟩
        ⟨0x7ff8000000000001⟩)⟩]⟩
    (∀ lead ∈ bytes.head?, Native.isLead lead = false) ∧
      StandardBlob value bytes ∧ value.geometry.nesting ≤ 1 := by
  have standard {rest : List UInt8} :
      ∀ lead ∈ List.head? (0 :: rest), Native.isLead lead = false := by
    intro lead first
    cases first
    rfl
  refine ⟨standard, (readGeometry_eq_ok_iff_standardBlob standard 1 _).mp ?_⟩
  rfl

/-!
## Native blobs
-/

/-- The bytes ahead, the position and the byte order agree; the bytes behind may differ. -/
structure Reader.Alike (left right : Reader) : Prop where
  ahead : left.tape.ahead = right.tape.ahead
  position : left.position = right.position
  order : left.order? = right.order?

namespace Decoder

variable {α β : Type}

/-- The same cause, or the same value with readers left alike. -/
inductive RunsAlike : Except DecodeError α × Reader → Except DecodeError α × Reader → Prop where
  | failed {cause : DecodeError} {left right : Reader} :
      RunsAlike (.error cause, left) (.error cause, right)
  | finished {value : α} {left right : Reader} :
      left.Alike right → RunsAlike (.ok value, left) (.ok value, right)

private theorem read_alike {left right : Reader} (alike : left.Alike right) (type : FieldType) :
    RunsAlike (left.read type) (right.read type) := by
  obtain ⟨⟨leftBehind, ahead⟩, known⟩ := left
  obtain ⟨⟨rightBehind, _⟩, _⟩ := right
  obtain ⟨rfl, position, rfl⟩ := alike
  simp only [Reader.position, Tape.position] at position
  have sameOrder : Reader.orderFor? type ⟨⟨leftBehind, ahead⟩, known⟩ =
      Reader.orderFor? type ⟨⟨rightBehind, ahead⟩, known⟩ := by
    cases type <;> rfl
  have sameFits : Tape.hasAhead type.width ⟨leftBehind, ahead⟩ =
      Tape.hasAhead type.width ⟨rightBehind, ahead⟩ := rfl
  cases selected : Reader.orderFor? type ⟨⟨rightBehind, ahead⟩, known⟩ with
  | none =>
      simp only [Reader.read, sameOrder, selected]
      exact .failed
  | some order =>
      cases fits : Tape.hasAhead type.width ⟨rightBehind, ahead⟩ with
      | true =>
          simp only [Reader.read, sameOrder, selected, sameFits, fits, ↓reduceIte]
          refine .finished ⟨rfl, ?_, rfl⟩
          simp [Reader.position, Tape.position, Tape.advance, position]
      | false =>
          simp only [Reader.read, sameOrder, selected, sameFits, fits, Bool.false_eq_true,
            ↓reduceIte, Reader.position, Tape.position, position]
          exact .failed

/-- What a decoder does depends on the bytes behind only through their number. -/
theorem run_alike (decoder : Decoder α) {left right : Reader} (alike : left.Alike right) :
    RunsAlike (decoder.run left) (decoder.run right) := by
  induction decoder generalizing left right with
  | done value => exact .finished alike
  | fail cause => exact .failed
  | readField type next ih =>
      rw [run, run]
      have answered := read_alike alike type
      generalize left.read type = leftRead at answered
      generalize right.read type = rightRead at answered
      cases answered with
      | failed => exact .failed
      | finished moved => exact ih _ moved
  | readCount itemSize next ih =>
      rw [run, run, Reader.readCount, Reader.readCount]
      have answered := read_alike alike .word32
      generalize left.read .word32 = leftRead at answered
      generalize right.read .word32 = rightRead at answered
      cases answered with
      | failed => exact .failed
      | @finished count leftMoved rightMoved moved =>
          have sameRemaining : leftMoved.remaining = rightMoved.remaining :=
            congrArg List.length moved.ahead
          simp only [sameRemaining]
          by_cases fits : count.toNat * itemSize ≤ rightMoved.remaining
          · simp only [if_pos fits]
            exact ih count.toNat moved
          · simp only [if_neg fits]
            exact .failed
  | switchOrder order next ih => exact ih ⟨alike.ahead, alike.position, rfl⟩

theorem RunsAlike.bind {first second : Decoder α} {left right : Reader}
    (alike : RunsAlike (first.run left) (second.run right)) (next : α → Decoder β) :
    RunsAlike ((first >>= next).run left) ((second >>= next).run right) := by
  rw [run_bind, run_bind]
  generalize first.run left = leftRun at alike
  generalize second.run right = rightRun at alike
  cases alike with
  | failed => exact .failed
  | finished moved => exact (next _).run_alike moved

theorem run_byte_bind (next : UInt8 → Decoder β) (behind rest : List UInt8) (byte : UInt8)
    (known : Option ByteOrder) :
    (one .byte >>= next).run ⟨⟨behind, byte :: rest⟩, known⟩ =
      (next byte).run ⟨⟨byte :: behind, rest⟩, known⟩ :=
  run_readField_byte next behind rest byte known

end Decoder

/-- The same buffer with the bits cleared that a native header leaves free. -/
def Native.clearFreeBits : List UInt8 → List UInt8
  | lead :: form :: flags :: rest =>
      Native.lead (Native.orderOfLead lead) :: (form &&& 0x3f) :: (flags &&& 0x83) :: rest
  | [lead, form] => [Native.lead (Native.orderOfLead lead), form &&& 0x3f]
  | [lead] => [Native.lead (Native.orderOfLead lead)]
  | [] => []

private theorem readGeometry_eq_of_alike {limit : Nat} {left right : Reader}
    (alike : Decoder.RunsAlike ((Decoder.blob limit).run left) ((Decoder.blob limit).run right)) :
    (left.readGeometry limit).1 = (right.readGeometry limit).1 := by
  unfold Reader.readGeometry
  generalize (Decoder.blob limit).run left = leftRun at alike
  generalize (Decoder.blob limit).run right = rightRun at alike
  cases alike with
  | failed => rfl
  | @finished value leftMoved rightMoved moved =>
      have sameRemaining : leftMoved.remaining = rightMoved.remaining :=
        congrArg List.length moved.ahead
      simp only [sameRemaining, moved.position]
      split <;> rfl

private theorem clearForm (form : UInt8) :
    Native.isVectorForm (form &&& 0x3f) = Native.isVectorForm form ∧
      Native.versionOfForm (form &&& 0x3f) = Native.versionOfForm form := by
  have masked : (form &&& 0x3f).toNat = form.toNat % 2 ^ 6 := by
    rw [UInt8.toNat_and]
    exact Nat.and_two_pow_sub_one_eq_mod form.toNat 6
  constructor
  · rw [Native.isVectorForm, Native.isVectorForm, masked, Nat.testBit_mod_two_pow]
    rfl
  · rw [Native.versionOfForm, Native.versionOfForm, masked]
    omega

private theorem clearFlags (flags : UInt8) :
    Native.Flags.ofByte (flags &&& 0x83) = Native.Flags.ofByte flags := by
  have masked {bit : Nat} (kept : (0x83 : Nat).testBit bit = true) :
      (flags &&& 0x83).toNat.testBit bit = flags.toNat.testBit bit := by
    rw [UInt8.toNat_and, Nat.testBit_and]
    exact (congrArg (flags.toNat.testBit bit && ·) kept).trans (Bool.and_true _)
  rw [Native.Flags.ofByte, masked (by decide), masked (by decide), masked (by decide)]
  rfl

/-- Both runs ask for the same fields. Only bytes behind the position differ. -/
private theorem native_header_alike {lead : UInt8} (native : Native.isLead lead = true)
    (rest : List UInt8) :
    Decoder.RunsAlike
      (Header.decoder.run (Reader.ofBytes (Native.clearFreeBits (lead :: rest))))
      (Header.decoder.run (Reader.ofBytes (lead :: rest))) := by
  have sameHeader : Header.native (Native.lead (Native.orderOfLead lead)) = Header.native lead := by
    unfold Header.native
    rw [Native.orderOfLead_lead]
  have afterLead (rest : List UInt8) : Header.decoder.run (Reader.ofBytes (lead :: rest)) =
      (Header.native lead).run ⟨⟨[lead], rest⟩, none⟩ := by
    refine (Decoder.run_byte_bind _ _ _ _ _).trans ?_
    rw [if_pos native]
  have afterCleared (rest : List UInt8) :
      Header.decoder.run (Reader.ofBytes (Native.lead (Native.orderOfLead lead) :: rest)) =
        (Header.native lead).run ⟨⟨[Native.lead (Native.orderOfLead lead)], rest⟩, none⟩ := by
    refine (Decoder.run_byte_bind _ _ _ _ _).trans ?_
    rw [if_pos (Native.isLead_lead _), sameHeader]
  cases rest with
  | nil =>
      rw [Native.clearFreeBits, afterLead, afterCleared]
      exact Decoder.run_alike _ ⟨rfl, rfl, rfl⟩
  | cons form rest =>
      obtain ⟨sameVector, sameVersion⟩ := clearForm form
      have afterForm (lead form : UInt8) (behind rest : List UInt8) :
          (Header.native lead).run ⟨⟨behind, form :: rest⟩, none⟩ = _ :=
        Decoder.run_byte_bind _ behind rest form (some (Native.orderOfLead lead))
      cases rest with
      | nil =>
          rw [Native.clearFreeBits, afterLead, afterCleared, afterForm, afterForm, sameVector,
            sameVersion]
          exact Decoder.run_alike _ ⟨rfl, rfl, rfl⟩
      | cons flags rest =>
          rw [Native.clearFreeBits, afterLead, afterCleared, afterForm, afterForm, sameVector,
            sameVersion]
          by_cases isVector : Native.isVectorForm form = true
          · by_cases version : Native.versionOfForm form = Native.version.toNat
            · simp only [if_pos isVector, if_pos version]
              rw [Decoder.run_byte_bind, Decoder.run_byte_bind, clearFlags]
              exact Decoder.run_alike _ ⟨rfl, rfl, rfl⟩
            · simp only [if_pos isVector, if_neg version]
              exact .failed
          · simp only [if_neg isVector]
            exact .failed

private theorem orderOfLead_eq_little_iff {lead : UInt8} :
    Native.orderOfLead lead = .little ↔ lead = 9 := by
  unfold Native.orderOfLead
  split <;> simp_all

private theorem lead_eq_nine_iff {lead : UInt8} (native : Native.isLead lead = true) :
    lead = 9 ↔ lead &&& 0xf7 = 1 := by
  have all : ∀ number : Fin 256, Native.isLead (.ofNat number) = true →
      (UInt8.ofNat number = 9 ↔ UInt8.ofNat number &&& 0xf7 = 1) := by
    decide +kernel
  have numbered := all ⟨lead.toNat, lead.toNat_lt⟩
  rw [UInt8.ofNat_toNat] at numbered
  exact numbered native

/-- A buffer that begins with a native lead byte is read exactly when it is a native blob with few
enough levels. The bits that the header leaves free change neither a value nor a cause. -/
theorem readGeometry_eq_ok_iff_nativeBlob {lead : UInt8} (native : Native.isLead lead = true)
    (rest : List UInt8) (limit : Nat) :
    (∀ value, ((Reader.ofBytes (lead :: rest)).readGeometry limit).1 = .ok value ↔
        NativeBlob value (lead :: rest) ∧ value.geometry.nesting ≤ limit) ∧
      (Native.orderOfLead lead = .little ↔ lead &&& 0xf7 = 1) ∧
      ((Reader.ofBytes (Native.clearFreeBits (lead :: rest))).readGeometry limit).1 =
        ((Reader.ofBytes (lead :: rest)).readGeometry limit).1 := by
  refine ⟨?_, ?_, readGeometry_eq_of_alike ((native_header_alike native rest).bind _)⟩
  · intro value
    rw [Reader.readGeometry_eq_ok_iff]
    change (StandardBlob value (lead :: rest) ∨ NativeBlob value (lead :: rest)) ∧ _ ↔ _
    have foreign : ¬ StandardBlob value (lead :: rest) := by
      intro spelled
      obtain ⟨first, same, standard⟩ := standardBlob_lead spelled
      cases same
      rw [native] at standard
      cases standard
    rw [or_iff_right foreign]
  · rw [orderOfLead_eq_little_iff, lead_eq_nine_iff native]

/-- A big-endian point behind header bytes with every free bit set. -/
theorem readGeometry_freeBits :
    let rest : List UInt8 := [0xe0, 0x7c, 1, 0x3f, 0xf0, 0, 0, 0, 0, 0, 0, 0xc0, 0, 0, 0, 0, 0, 0, 0]
    let value : ReferencedGeometry :=
      ⟨-1, .point ⟨some (.xy ⟨0x3ff0000000000000⟩ ⟨0xc000000000000000⟩)⟩⟩
    Native.isLead 0xff = true ∧ NativeBlob value (0xff :: rest) ∧ value.geometry.nesting ≤ 0 := by
  refine ⟨by decide, ((readGeometry_eq_ok_iff_nativeBlob (by decide) _ 0).1 _).mp ?_⟩
  rfl

end GeoWire
