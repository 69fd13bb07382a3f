import GeoWire.Decode.Body
import GeoWire.Proofs.HeaderAcceptance
import GeoWire.Proofs.LawfulSteps

/-!
# Steps of blobs

What the decoders of headers and bodies can ask for and refuse, said once for both dialect families.
In a native blob the root settles the byte order for every field. In a standard one a single byte is
always a marker, and wider fields wait for the order that it declares.
-/

set_option autoImplicit false

namespace GeoWire

/-- What a count stands before. -/
inductive Counted where
  | coordinates
  | rings
  | members
deriving DecidableEq, Repr

/-- The least number of bytes that an item takes. -/
def Counted.leastSize (dimension : Dimension) : Counted → Nat
  | .coordinates => dimension.size * 8
  | .rings => 4
  | .members => 1

/-- A cause that what was read gives reason for, in a blob of a dialect family whose bodies are read
in given contexts. -/
inductive DecodeError.Justified (isNative : Bool) (inside : BodyContext → Prop) :
    DecodeError → Prop where
  | unsupportedXym : Justified isNative inside .unsupportedXym
  | unknownKind {tag : Nat} :
      Kind.ofTag? tag = none → Justified isNative inside (.unknownKind tag)
  | unsupportedRaster : isNative = true → Justified isNative inside .unsupportedRaster
  | unsupportedVersion {version : Nat} :
      isNative = true → version ≠ 0 → version < 32 →
      Justified isNative inside (.unsupportedVersion version)
  | invalidByteOrder {marker : UInt8} :
      isNative = false → ByteOrder.ofMarker? marker = none →
      Justified isNative inside (.invalidByteOrder marker)
  | dimensionMismatch {context : BodyContext} {found : Dimension} :
      isNative = false → inside context → found ≠ .xym → found ≠ context.dimension →
      Justified isNative inside (.dimensionMismatch context.dimension.size found.size)
  | unexpectedElement {multi expected found : Kind} :
      multi.element? = some expected → found ≠ expected →
      Justified isNative inside (.unexpectedElement expected found)
  | ringNotClosed : Justified isNative inside .ringNotClosed
  | nestingTooDeep {context : BodyContext} :
      inside context → Justified isNative inside (.nestingTooDeep context.limit)

namespace OrderState

/-- The order of the root is set, in a native blob. -/
def Bound (isNative : Bool) (root : ByteOrder) (state : OrderState) : Prop :=
  isNative = true → state.set? = some root

/-- The order is known in which a field of several bytes has to be read: that of the root of a native
blob, or the one declared last in a standard blob. -/
inductive Settled : (isNative : Bool) → (root : ByteOrder) → OrderState → Prop where
  | native {root : ByteOrder} {declared? : Option ByteOrder} :
      Settled true root ⟨some root, declared?⟩
  | standard {root order : ByteOrder} : Settled false root ⟨some order, some order⟩

variable {isNative : Bool} {root : ByteOrder} {state : OrderState}

theorem Settled.bound (settled : state.Settled isNative root) : state.Bound isNative root := by
  intro native
  cases settled with
  | native => rfl
  | standard => cases native

theorem Settled.isSome (settled : state.Settled isNative root) : state.set?.isSome = true := by
  cases settled <;> rfl

theorem bound_standard : state.Bound false root :=
  fun native => nomatch native

theorem settled_standard_iff :
    state.Settled false root ↔
      ∃ order, state.set? = some order ∧ state.declared? = some order := by
  constructor
  · intro settled
    cases settled with
    | @standard _ order => exact ⟨order, rfl, rfl⟩
  · intro parts
    obtain ⟨order, set, declared⟩ := parts
    obtain ⟨_, _⟩ := state
    cases set
    cases declared
    exact .standard

end OrderState

/-- The law of blobs. Wide fields and counts wait until the order is settled, a count guards the least
size of its items, and refusals are justified. -/
inductive Lawful (isNative : Bool) (root : ByteOrder) (inside : BodyContext → Prop) :
    OrderState → Step → Prop where
  | byte {state : OrderState} :
      state.Bound isNative root → Lawful isNative root inside state (.query (.field .byte))
  | field {state : OrderState} {type : FieldType} :
      state.Settled isNative root → Lawful isNative root inside state (.query (.field type))
  | count {state : OrderState} {context : BodyContext} (items : Counted) :
      inside context → state.Settled isNative root →
      Lawful isNative root inside state (.query (.count (items.leastSize context.dimension)))
  | refusal {state : OrderState} {cause : DecodeError} :
      state.Bound isNative root → cause.Justified isNative inside →
      Lawful isNative root inside state (.refusal cause)

namespace Lawful

variable {isNative : Bool} {root : ByteOrder} {inside : BodyContext → Prop} {state : OrderState}
  {step : Step} {query : Query} {itemSize : Nat}

theorem bound (lawful : Lawful isNative root inside state step) : state.Bound isNative root := by
  cases lawful with
  | byte bound | refusal bound => exact bound
  | field settled | count _ _ settled => exact settled.bound

theorem known (lawful : Lawful isNative root inside state (.query query)) :
    query = .field .byte ∨ state.set?.isSome = true := by
  cases lawful with
  | byte => exact .inl rfl
  | field settled | count _ _ settled => exact .inr settled.isSome

theorem itemSize_eq (lawful : Lawful isNative root inside state (.query (.count itemSize))) :
    ∃ context, inside context ∧ ∃ items : Counted, itemSize = items.leastSize context.dimension := by
  cases lawful with
  | @count context items allowed _ => exact ⟨context, allowed, items, rfl⟩

end Lawful

/-- Read a header after its first byte. -/
def Header.afterLead (lead : UInt8) : Decoder Header :=
  if Native.isLead lead then native lead else standard lead

/-- Read the body that a root header announces. -/
def Header.bodyDecoder (limit : Nat) (header : Header) : Decoder ReferencedGeometry := do
  let geometry ← Decoder.body (header.bodyContext limit) limit header.kind
  pure ⟨header.srid, geometry⟩

theorem Decoder.header_eq : Header.decoder = .readField .byte Header.afterLead :=
  rfl

theorem Decoder.blob_eq (limit : Nat) :
    blob limit = .readField .byte fun lead => Header.afterLead lead >>= Header.bodyDecoder limit :=
  rfl

theorem TypeField.lt_of_flagsOfThousands?_eq_none {thousands : Nat}
    (noFlags : flagsOfThousands? thousands = none) : 3 < thousands := by
  match thousands with
  | 0 | 1 | 2 | 3 => cases noFlags
  | rest + 4 => omega

namespace Decoder

variable {α : Type} {isNative : Bool} {root : ByteOrder} {inside : BodyContext → Prop}
  {state : OrderState} {returns : OrderState → α → Prop}

/-!
## Parts of headers
-/

theorem kind_justified {tag : Nat} {cause : DecodeError} (failed : Kind.onWire tag = .error cause) :
    cause.Justified isNative inside := by
  unfold Kind.onWire at failed
  split at failed <;> cases failed
  exact .unknownKind ‹_›

theorem dimension_justified {hasZ hasM : Bool} {cause : DecodeError}
    (failed : Dimension.onWire hasZ hasM = .error cause) : cause.Justified isNative inside := by
  unfold Dimension.onWire at failed
  split at failed <;> cases failed
  exact .unsupportedXym

theorem typeField_justified {code : UInt32} {cause : DecodeError}
    (failed : TypeField.ofCode code = .error cause) : cause.Justified isNative inside := by
  unfold TypeField.ofCode at failed
  simp only at failed
  split at failed
  · rename_i noFlags
    cases failed
    have large := TypeField.lt_of_flagsOfThousands?_eq_none noFlags
    exact .unknownKind (Kind.ofTag?_eq_none_iff.mpr (by omega))
  · rcases Outcome.bind_eq_error_iff.mp failed with refused | ⟨dimension, _, failed⟩
    · exact dimension_justified refused
    · rcases Outcome.bind_eq_error_iff.mp failed with refused | ⟨kind, _, failed⟩
      · exact kind_justified refused
      · cases failed

theorem ofExcept_within {outcome : Except DecodeError α} (bound : state.Bound isNative root)
    (justified : ∀ cause, outcome = .error cause → cause.Justified isNative inside)
    (returned : ∀ value, outcome = .ok value → returns state value) :
    (ofExcept outcome).Within (Lawful isNative root inside) returns state := by
  cases outcome with
  | ok value => exact returned value rfl
  | error cause => exact .refusal bound (justified cause rfl)

theorem field_keeps (type : FieldType) (wide : type ≠ .byte) :
    (one type).Keeps (Lawful isNative root inside) (OrderState.Settled isNative root) := by
  intro state settled
  cases type with
  | byte => exact absurd rfl wide
  | int16 | int32 | word32 | int64 | double => exact ⟨.field settled, fun _ => settled⟩

theorem sridIf_keeps (isThere : Bool) :
    (sridIf isThere).Keeps (Lawful isNative root inside) (OrderState.Settled isNative root) := by
  cases isThere
  · exact keeps_pure _
  · exact field_keeps .int32 (by decide)

theorem dimension_within (settled : state.Settled isNative root) (hasZ hasM : Bool) :
    (ofExcept (Dimension.onWire hasZ hasM)).Within (Lawful isNative root inside)
      (fun state dimension => state.Settled isNative root ∧ dimension ≠ .xym) state :=
  ofExcept_within settled.bound (fun _ => dimension_justified) fun _ read =>
    ⟨settled, (Dimension.onWire_eq_ok_iff.mp read).2.2⟩

theorem typeField_within (settled : state.Settled isNative root) :
    typeField.Within (Lawful isNative root inside)
      (fun state field => state.Settled isNative root ∧ field.dimension ≠ .xym) state := by
  refine (field_keeps .word32 (by decide) state settled).bind fun state code settled => ?_
  refine ofExcept_within settled.bound (fun _ => typeField_justified) fun field read => ⟨settled, ?_⟩
  obtain ⟨_, _, _, _, _, writable, _⟩ := TypeField.ofCode_eq_ok_iff.mp read
  exact writable

theorem byte_keeps :
    (one .byte).Keeps (Lawful true root inside) (OrderState.Settled true root) := by
  intro state settled
  obtain ⟨rfl⟩ := settled
  exact ⟨.byte fun _ => rfl, fun _ => .native⟩

theorem kindByte_keeps :
    kindByte.Keeps (Lawful true root inside) (OrderState.Settled true root) :=
  byte_keeps.bind fun _ _ settled =>
    ofExcept_within settled.bound (fun _ => kind_justified) fun _ _ => settled

/-- A marker that was read last is the order that is set next. -/
theorem orderOfMarker_within {marker : UInt8}
    (declared : state.declared? = ByteOrder.ofMarker? marker) :
    (orderOfMarker marker).Within (Lawful false root inside)
      (fun state _ => state.Settled false root) state := by
  unfold orderOfMarker
  cases announced : ByteOrder.ofMarker? marker with
  | none => exact .refusal OrderState.bound_standard (.invalidByteOrder rfl announced)
  | some order =>
      rw [announced] at declared
      obtain ⟨_, _⟩ := state
      cases declared
      exact .standard

/-!
## Headers
-/

theorem native_within (lead : UInt8) (state : OrderState) :
    (Header.native lead).Within (Lawful true (Native.orderOfLead lead) inside)
      (fun state header => state.Settled true (Native.orderOfLead lead) ∧
        header.dialect.isNative = true ∧ header.dimension ≠ .xym) state := by
  have started : (setOrder (Native.orderOfLead lead)).Within
      (Lawful true (Native.orderOfLead lead) inside)
      (fun state _ => state.Settled true (Native.orderOfLead lead)) state := .native
  refine started.bind fun state _ settled => (byte_keeps state settled).bind fun state form settled => ?_
  split
  · split
    · refine (byte_keeps state settled).bind fun state flags settled =>
        (dimension_within settled _ _).bind fun state dimension parts => ?_
      obtain ⟨settled, writable⟩ := parts
      exact (sridIf_keeps _ state settled).bind fun state srid settled =>
        (kindByte_keeps state settled).bind fun state kind settled => ⟨settled, rfl, writable⟩
    · rename_i otherVersion
      refine .refusal settled.bound (.unsupportedVersion rfl otherVersion ?_)
      exact Nat.mod_lt _ (by decide)
  · exact .refusal settled.bound (.unsupportedRaster rfl)

theorem standard_within {marker : UInt8} (declared : state.declared? = ByteOrder.ofMarker? marker) :
    (Header.standard marker).Within (Lawful false root inside)
      (fun state header => state.Settled false root ∧
        header.dialect.isNative = false ∧ header.dimension ≠ .xym) state := by
  refine (orderOfMarker_within declared).bind fun state order settled =>
    (typeField_within settled).bind fun state field parts => ?_
  obtain ⟨settled, writable⟩ := parts
  refine (sridIf_keeps _ state settled).bind fun state srid settled => ⟨settled, ?_, writable⟩
  cases field.hasSrid <;> rfl

theorem header_within {lead : UInt8} (declared : state.declared? = ByteOrder.ofMarker? lead) :
    (Header.afterLead lead).Within
      (Lawful (Native.isLead lead) (Native.orderOfLead lead) inside)
      (fun state header => state.Settled (Native.isLead lead) (Native.orderOfLead lead) ∧
        header.dialect.isNative = Native.isLead lead ∧ header.dimension ≠ .xym) state := by
  unfold Header.afterLead
  cases native : Native.isLead lead with
  | true => exact native_within lead state
  | false => exact standard_within declared

theorem memberKind_keeps {context : BodyContext} (allowed : inside context)
    (writable : context.dimension ≠ .xym) :
    (memberKind context).Keeps (Lawful context.isNative root inside)
      (OrderState.Settled context.isNative root) := by
  obtain ⟨isNative, dimension, limit⟩ := context
  cases isNative with
  | true => exact kindByte_keeps
  | false =>
      intro state settled
      refine ⟨.byte OrderState.bound_standard, fun marker => ?_⟩
      refine (orderOfMarker_within rfl).bind fun state order settled =>
        (typeField_within settled).bind fun state field parts => ?_
      obtain ⟨settled, fieldWritable⟩ := parts
      split
      · exact (sridIf_keeps _ state settled).bind fun state srid settled => settled
      · rename_i otherDimension
        exact .refusal settled.bound (.dimensionMismatch rfl allowed fieldWritable otherDimension)

/-!
## Bodies
-/

theorem coordinate_keeps (dimension : Dimension) :
    (coordinate dimension).Keeps (Lawful isNative root inside)
      (OrderState.Settled isNative root) := by
  have double : (one .double).Keeps (Lawful isNative root inside)
      (OrderState.Settled isNative root) := field_keeps .double (by decide)
  have ordinate (isThere : Bool) : (ordinateIf isThere).Keeps (Lawful isNative root inside)
      (OrderState.Settled isNative root) := by
    cases isThere
    · exact keeps_pure _
    · exact double.map
  exact double.bind fun x => double.bind fun y =>
    (ordinate _).bind fun z? => (ordinate _).bind fun m? => keeps_pure _

variable {context : BodyContext}

theorem counted_keeps {item : Decoder α} (allowed : inside context) (items : Counted)
    (keeps : item.Keeps (Lawful isNative root inside) (OrderState.Settled isNative root)) :
    (counted (items.leastSize context.dimension) item).Keeps (Lawful isNative root inside)
      (OrderState.Settled isNative root) :=
  keeps.counted fun _ settled => .count items allowed settled

theorem ring_keeps (allowed : inside context) :
    (ring context.dimension).Keeps (Lawful isNative root inside)
      (OrderState.Settled isNative root) := by
  refine (counted_keeps allowed .coordinates (coordinate_keeps _)).bind fun line => ?_
  cases Ring.ofClosed? line with
  | none => exact fun _ settled => .refusal settled.bound .ringNotClosed
  | some ring => exact keeps_pure ring

theorem elements_keeps (allowed : inside context) (writable : context.dimension ≠ .xym)
    {multi expected : Kind} (held : multi.element? = some expected) {decoder : Decoder α}
    (keeps : decoder.Keeps (Lawful context.isNative root inside)
      (OrderState.Settled context.isNative root)) :
    (elements context expected decoder).Keeps (Lawful context.isNative root inside)
      (OrderState.Settled context.isNative root) := by
  refine counted_keeps allowed .members ((memberKind_keeps allowed writable).bind fun found => ?_)
  split
  · exact keeps
  · rename_i otherKind
    exact fun _ settled => .refusal settled.bound (.unexpectedElement held otherKind)

theorem body_keeps (allowed : inside context) (writable : context.dimension ≠ .xym) (levels : Nat)
    (kind : Kind) :
    (body context levels kind).Keeps (Lawful context.isNative root inside)
      (OrderState.Settled context.isNative root) := by
  have points : (point context.dimension).Keeps (Lawful context.isNative root inside)
      (OrderState.Settled context.isNative root) :=
    (coordinate_keeps _).bind fun _ => keeps_pure _
  have lines : (lineString context.dimension).Keeps (Lawful context.isNative root inside)
      (OrderState.Settled context.isNative root) :=
    counted_keeps allowed .coordinates (coordinate_keeps _)
  have polygons : (polygon context.dimension).Keeps (Lawful context.isNative root inside)
      (OrderState.Settled context.isNative root) :=
    (counted_keeps allowed .rings (ring_keeps allowed)).map
  -- Members are read by the body decoder of one level less, so the levels left carry the induction.
  induction levels generalizing kind with
  | zero =>
      cases kind with
      | point => exact points.map
      | lineString => exact lines.map
      | polygon => exact polygons.map
      | multiPoint | multiLineString | multiPolygon | collection =>
          exact fun _ settled => .refusal settled.bound (.nestingTooDeep allowed)
  | succ levels ih =>
      cases kind with
      | point => exact points.map
      | lineString => exact lines.map
      | polygon => exact polygons.map
      | multiPoint =>
          have held : Kind.multiPoint.element? = some .point := rfl
          exact (elements_keeps allowed writable held points).map
      | multiLineString =>
          have held : Kind.multiLineString.element? = some .lineString := rfl
          exact (elements_keeps allowed writable held lines).map
      | multiPolygon =>
          have held : Kind.multiPolygon.element? = some .polygon := rfl
          exact (elements_keeps allowed writable held polygons).map
      | collection =>
          exact (counted_keeps allowed .members ((memberKind_keeps allowed writable).bind ih)).map

/-!
## Whole blobs
-/

theorem bodyDecoder_within {limit : Nat} {header : Header} (allowed : inside (header.bodyContext limit))
    (writable : header.dimension ≠ .xym)
    (settled : state.Settled header.dialect.isNative root) :
    (header.bodyDecoder limit).Within (Lawful header.dialect.isNative root inside)
      (fun state _ => state.Settled header.dialect.isNative root) state := by
  have body := body_keeps allowed writable limit header.kind state settled
  exact body.bind fun _ _ settled => settled

/-- After the first byte of a blob every step is lawful. -/
theorem blob_within {limit : Nat} {lead : UInt8}
    (declared : state.declared? = ByteOrder.ofMarker? lead)
    (allowed : ∀ header : Header, inside (header.bodyContext limit)) :
    (Header.afterLead lead >>= Header.bodyDecoder limit).Within
      (Lawful (Native.isLead lead) (Native.orderOfLead lead) inside)
      (fun state _ => state.Settled (Native.isLead lead) (Native.orderOfLead lead)) state := by
  refine (header_within declared).bind fun state header parts => ?_
  obtain ⟨settled, family, writable⟩ := parts
  rw [← family] at settled ⊢
  exact bodyDecoder_within (allowed header) writable settled

end Decoder

/-!
## Runs
-/

namespace Decoder

/-- After the first byte of a header every step is lawful, whatever bodies may follow. -/
theorem header_lawfulRun (inside : BodyContext → Prop) (behind rest : List UInt8) (lead : UInt8)
    (known : Option ByteOrder) :
    LawfulRun (Lawful (Native.isLead lead) (Native.orderOfLead lead) inside)
      (fun state header => state.Settled (Native.isLead lead) (Native.orderOfLead lead) ∧
        header.dialect.isNative = Native.isLead lead ∧ header.dimension ≠ .xym)
      [⟨.field .byte, ⟨⟨behind, lead :: rest⟩, known⟩⟩] (Header.afterLead lead)
      ⟨⟨lead :: behind, rest⟩, known⟩ :=
  (header_within rfl).lawfulRun

end Decoder

/-- The header that the reader can read announces bodies in the given context. -/
def Reader.Announces (limit : Nat) (reader : Reader) (context : BodyContext) : Prop :=
  ∃ header, reader.readHeader.1 = .ok header ∧ header.dimension ≠ .xym ∧
    header.bodyContext limit = context

namespace Decoder

/-- After the first byte of a blob every step is lawful, in the context that its header announces. -/
theorem blob_lawfulRun (limit : Nat) (behind rest : List UInt8) (lead : UInt8)
    (known : Option ByteOrder) :
    LawfulRun (Lawful (Native.isLead lead) (Native.orderOfLead lead)
        (Reader.Announces limit ⟨⟨behind, lead :: rest⟩, known⟩))
      (fun state _ => state.Settled (Native.isLead lead) (Native.orderOfLead lead))
      [⟨.field .byte, ⟨⟨behind, lead :: rest⟩, known⟩⟩]
      (Header.afterLead lead >>= Header.bodyDecoder limit) ⟨⟨lead :: behind, rest⟩, known⟩ := by
  have headed := header_lawfulRun (Reader.Announces limit ⟨⟨behind, lead :: rest⟩, known⟩)
    behind rest lead known
  refine headed.bind fun header moved ran => ?_
  obtain ⟨settled, family, writable⟩ := headed.returned ran
  have announced : (Reader.readHeader ⟨⟨behind, lead :: rest⟩, known⟩).1 = .ok header := by
    rw [Reader.readHeader, header_eq, run_readField_byte, ran]
  rw [← family] at settled ⊢
  exact (bodyDecoder_within ⟨header, announced, writable, rfl⟩ writable settled).lawfulRun

variable {limit : Nat} {reader : Reader}

/-- Whenever a blob asks for a wide field the order is known, and its counts guard the least size of
their items. -/
theorem readable_of_mem_trace {access : Access} (belongs : access ∈ (blob limit).trace reader) :
    access.Readable ∧ ∀ itemSize, access.query = .count itemSize →
      ∃ header, reader.readHeader.1 = .ok header ∧
        ∃ items : Counted, itemSize = items.leastSize header.dimension := by
  obtain ⟨⟨behind, _ | ⟨lead, rest⟩⟩, known⟩ := reader
  · cases List.mem_singleton.mp belongs
    exact ⟨.inl rfl, fun _ asked => nomatch asked⟩
  · rw [blob_eq, trace_readField_byte] at belongs
    rcases List.mem_cons.mp belongs with rfl | belongs
    · exact ⟨.inl rfl, fun _ asked => nomatch asked⟩
    · obtain ⟨earlier, later, split⟩ := List.append_of_mem belongs
      have lawful := (blob_lawfulRun limit behind rest lead known).lawful split
      refine ⟨lawful.known, fun itemSize asked => ?_⟩
      rw [asked] at lawful
      obtain ⟨context, ⟨header, announced, _, rfl⟩, items, sameSize⟩ := lawful.itemSize_eq
      exact ⟨header, announced, items, sameSize⟩

/-- A blob is refused for a justified cause, or because its last access cannot be answered. -/
theorem cause_of_blob_eq_error {cause : DecodeError} {moved : Reader}
    (failed : (blob limit).run reader = (.error cause, moved)) :
    (∃ lead, reader.tape.ahead.head? = some lead ∧
        cause.Justified (Native.isLead lead) (reader.Announces limit)) ∨
      ∃ earlier access, (blob limit).trace reader = earlier ++ [access] ∧
        access.Fails cause moved := by
  obtain ⟨⟨behind, _ | ⟨lead, rest⟩⟩, known⟩ := reader
  · cases failed
    exact .inr ⟨[], _, rfl, .field rfl⟩
  · rw [blob_eq, run_readField_byte] at failed
    rw [blob_eq, trace_readField_byte]
    rcases (blob_lawfulRun limit behind rest lead known).failed failed with
      refused | ⟨earlier, access, split, fails⟩
    · cases refused with
      | refusal _ justified => exact .inl ⟨lead, rfl, justified⟩
    · exact .inr ⟨_ :: earlier, access, congrArg _ split, fails⟩

end Decoder

namespace Reader

variable {limit : Nat} {reader moved : Reader} {cause : DecodeError}

/-- Reading fails where the decoder does, or because bytes are left over behind it. -/
theorem readGeometry_eq_error_iff :
    reader.readGeometry limit = (.error cause, moved) ↔
      (Decoder.blob limit).run reader = (.error cause, moved) ∨
        (∃ value, (Decoder.blob limit).run reader = (.ok value, moved)) ∧ moved.remaining ≠ 0 ∧
          cause = .trailingBytes moved.position moved.remaining := by
  unfold readGeometry
  rcases (Decoder.blob limit).run reader with ⟨_ | value, after⟩
  · simp
  · dsimp only
    split
    · simp only [Prod.mk.injEq, reduceCtorEq, false_and, false_or, false_iff, not_and]
      rintro ⟨_, _, rfl⟩ left
      exact absurd ‹_› left
    · constructor
      · intro failed
        cases failed
        exact .inr ⟨⟨value, rfl⟩, ‹_›, rfl⟩
      · rintro (failed | ⟨⟨_, success⟩, _, rfl⟩)
        · cases failed
        · cases success
          rfl

theorem snd_readGeometry (reader : Reader) (limit : Nat) :
    (reader.readGeometry limit).2 = ((Decoder.blob limit).run reader).2 := by
  unfold readGeometry
  rcases (Decoder.blob limit).run reader with ⟨_ | value, moved⟩
  · rfl
  · dsimp only
    split <;> rfl

end Reader

end GeoWire
