import GeoWire.Decode.Body
import GeoWire.Grammar
import GeoWire.Proofs.Acceptance
import GeoWire.Proofs.Outcome

/-!
# Accepted headers

The headers that the decoders accept are those of the grammar. A member of a standard tree may switch
the byte order, whatever order was known before it; a member of a native tree keeps it.
-/

set_option autoImplicit false

namespace GeoWire

/-!
## Type fields
-/

theorem Dimension.onWire_eq_ok_iff {hasZ hasM : Bool} {dimension : Dimension} :
    Dimension.onWire hasZ hasM = .ok dimension ↔
      dimension.hasZ = hasZ ∧ dimension.hasM = hasM ∧ dimension ≠ .xym := by
  cases hasZ <;> cases hasM <;> cases dimension <;> simp [onWire, ofFlags, Dimension.hasZ, Dimension.hasM]

theorem Kind.onWire_eq_ok_iff {tag : Nat} {kind : Kind} :
    Kind.onWire tag = .ok kind ↔ tag = kind.tag := by
  rw [← Kind.ofTag?_eq_some_iff, onWire]
  cases Kind.ofTag? tag <;> simp

theorem Kind.tag_lt (kind : Kind) : kind.tag < 1000 := by
  cases kind <;> decide

@[simp] theorem Native.isLead_marker (order : ByteOrder) : Native.isLead order.marker = false := by
  cases order <;> decide

namespace TypeField

theorem flagsOfThousands?_eq_some_iff {thousands : Nat} {hasZ hasM : Bool} :
    flagsOfThousands? thousands = some (hasZ, hasM) ↔
      thousands ≤ 3 ∧ (hasZ = true ↔ thousands = 1 ∨ thousands = 3) ∧
        (hasM = true ↔ thousands = 2 ∨ thousands = 3) := by
  match thousands with
  | 0 | 1 | 2 | 3 => cases hasZ <;> cases hasM <;> simp [flagsOfThousands?]
  | rest + 4 => simp [flagsOfThousands?]

theorem ofCode_eq_ok_iff {code : UInt32} {field : TypeField} :
    ofCode code = .ok field ↔
      Grammar.SpellsType code field.kind field.dimension field.hasSrid := by
  constructor
  · intro success
    unfold ofCode at success
    cases thousands : flagsOfThousands? (code.toNat % 0x20000000 / 1000) with
    | none =>
        simp only [thousands] at success
        cases success
    | some flags =>
        obtain ⟨thousandsZ, thousandsM⟩ := flags
        simp only [thousands] at success
        obtain ⟨dimension, onWire, success⟩ := Outcome.bind_eq_ok_iff.mp success
        obtain ⟨kind, tagged, success⟩ := Outcome.bind_eq_ok_iff.mp success
        cases success
        obtain ⟨sameZ, sameM, writable⟩ := Dimension.onWire_eq_ok_iff.mp onWire
        obtain ⟨bound, zs, ms⟩ := flagsOfThousands?_eq_some_iff.mp thousands
        rw [Kind.onWire_eq_ok_iff] at tagged
        refine ⟨_, bound, ?_, ?_, ?_, writable, rfl⟩
        · simp only [← tagged]
          omega
        · rw [sameZ, Bool.or_eq_true, zs]
        · rw [sameM, Bool.or_eq_true, ms]
  · intro parts
    obtain ⟨thousands, bound, base, zs, ms, writable, srid⟩ := parts
    have tagBound := field.kind.tag_lt
    have quotient : code.toNat % 0x20000000 / 1000 = thousands := by omega
    have remainder : code.toNat % 0x20000000 % 1000 = field.kind.tag := by omega
    obtain ⟨thousandsZ, thousandsM, flags⟩ :
        ∃ hasZ hasM, flagsOfThousands? thousands = some (hasZ, hasM) :=
      ⟨decide (thousands = 1 ∨ thousands = 3), decide (thousands = 2 ∨ thousands = 3),
        flagsOfThousands?_eq_some_iff.mpr ⟨bound, decide_eq_true_iff, decide_eq_true_iff⟩⟩
    obtain ⟨_, thousandsZs, thousandsMs⟩ := flagsOfThousands?_eq_some_iff.mp flags
    have onWire : Dimension.onWire (code.toNat.testBit 31 || thousandsZ)
        (code.toNat.testBit 30 || thousandsM) = .ok field.dimension := by
      refine Dimension.onWire_eq_ok_iff.mpr ⟨?_, ?_, writable⟩
      · rw [Bool.eq_iff_iff, zs, Bool.or_eq_true, thousandsZs]
      · rw [Bool.eq_iff_iff, ms, Bool.or_eq_true, thousandsMs]
    have tagged : Kind.onWire (code.toNat % 0x20000000 % 1000) = .ok field.kind :=
      Kind.onWire_eq_ok_iff.mpr remainder
    simp only [ofCode, quotient, flags]
    refine Outcome.bind_eq_ok_iff.mpr ⟨_, onWire, Outcome.bind_eq_ok_iff.mpr ⟨_, tagged, ?_⟩⟩
    rw [← srid]

end TypeField

/-!
## Parts of headers
-/

namespace Decoder

open Grammar

variable {known final : Option ByteOrder} {order : ByteOrder} {bytes : List UInt8}

theorem accepts_byte_iff {value : UInt8} :
    (one .byte).Accepts known bytes value final ↔ bytes = [value] ∧ final = known := by
  rw [accepts_one_iff]
  constructor
  · intro accepted
    obtain ⟨order, _, rfl, rfl⟩ := accepted
    exact ⟨FieldType.encode_byte order value, rfl⟩
  · intro parts
    obtain ⟨rfl, rfl⟩ := parts
    exact ⟨.little, .inl rfl, (FieldType.encode_byte .little value).symm, rfl⟩

theorem accepts_ofExcept_iff {α : Type} {outcome : Except DecodeError α} {result : α} :
    (ofExcept outcome).Accepts known bytes result final ↔
      bytes = [] ∧ outcome = .ok result ∧ final = known := by
  cases outcome with
  | error cause => simp [ofExcept]
  | ok value =>
      change (pure value : Decoder α).Accepts known bytes result final ↔ _
      rw [accepts_pure_iff, Except.ok.injEq, eq_comm (a := value)]

theorem accepts_kindByte_iff {kind : Kind} :
    kindByte.Accepts known bytes kind final ↔ bytes = [.ofNat kind.tag] ∧ final = known := by
  rw [kindByte, accepts_bind_iff]
  constructor
  · intro accepted
    obtain ⟨head, tail, tag, middle, rfl, read, checked⟩ := accepted
    obtain ⟨rfl, rfl⟩ := accepts_byte_iff.mp read
    obtain ⟨rfl, tagged, rfl⟩ := accepts_ofExcept_iff.mp checked
    refine ⟨?_, rfl⟩
    rw [← Kind.onWire_eq_ok_iff.mp tagged, UInt8.ofNat_toNat, List.append_nil]
  · intro parts
    obtain ⟨rfl, rfl⟩ := parts
    refine ⟨_, [], _, final, (List.append_nil _).symm, accepts_byte_iff.mpr ⟨rfl, rfl⟩,
      accepts_ofExcept_iff.mpr ⟨rfl, Kind.onWire_eq_ok_iff.mpr ?_, rfl⟩⟩
    cases kind <;> rfl

theorem accepts_typeField_iff {field : TypeField} :
    typeField.Accepts (some order) bytes field final ↔
      final = some order ∧ ∃ code, bytes = FieldType.encode order .word32 code ∧
        SpellsType code field.kind field.dimension field.hasSrid := by
  rw [typeField, accepts_bind_iff]
  constructor
  · intro accepted
    obtain ⟨head, tail, code, middle, rfl, read, checked⟩ := accepted
    obtain ⟨_, readsIn, rfl, rfl⟩ := accepts_one_iff.mp read
    obtain ⟨rfl, spelled, rfl⟩ := accepts_ofExcept_iff.mp checked
    rcases readsIn with impossible | sameOrder
    · cases impossible
    · cases sameOrder
      exact ⟨rfl, code, List.append_nil _, TypeField.ofCode_eq_ok_iff.mp spelled⟩
  · intro parts
    obtain ⟨rfl, code, rfl, spelled⟩ := parts
    exact ⟨_, [], code, some order, (List.append_nil _).symm,
      accepts_one_iff.mpr ⟨order, .inr rfl, rfl, rfl⟩,
      accepts_ofExcept_iff.mpr ⟨rfl, TypeField.ofCode_eq_ok_iff.mpr spelled, rfl⟩⟩

theorem accepts_sridIf_iff {isThere : Bool} {srid : Int32} :
    (sridIf isThere).Accepts (some order) bytes srid final ↔
      final = some order ∧ ∃ srid? : Option Int32, srid?.isSome = isThere ∧
        srid = srid?.getD ReferencedGeometry.noSrid ∧
        bytes = srid?.toList.flatMap (FieldType.encode order .int32) := by
  cases isThere with
  | false =>
      simp only [sridIf, Bool.false_eq_true, ↓reduceIte, accepts_pure_iff]
      constructor
      · intro accepted
        obtain ⟨rfl, rfl, rfl⟩ := accepted
        exact ⟨rfl, none, rfl, rfl, rfl⟩
      · intro parts
        obtain ⟨rfl, srid?, absent, rfl, rfl⟩ := parts
        cases srid? with
        | none => exact ⟨rfl, rfl, rfl⟩
        | some _ => cases absent
  | true =>
      change (one .int32).Accepts (some order) bytes srid final ↔ _
      constructor
      · intro read
        obtain ⟨_, impossible | sameOrder, rfl, rfl⟩ := accepts_one_iff.mp read
        · cases impossible
        · cases sameOrder
          exact ⟨rfl, some srid, rfl, rfl, by simp⟩
      · intro parts
        obtain ⟨rfl, srid?, present, rfl, rfl⟩ := parts
        cases srid? with
        | none => cases present
        | some value => exact accepts_one_iff.mpr ⟨order, .inr rfl, List.append_nil _, rfl⟩

theorem accepts_orderOfMarker_iff {marker : UInt8} :
    (orderOfMarker marker).Accepts known bytes order final ↔
      bytes = [] ∧ marker = order.marker ∧ final = some order := by
  rw [← ByteOrder.ofMarker?_eq_some_iff, orderOfMarker]
  cases announced : ByteOrder.ofMarker? marker with
  | none => simp
  | some found =>
      simp only [accepts_bind_iff, accepts_setOrder_iff, accepts_pure_iff, Option.some.injEq]
      constructor
      · intro accepted
        obtain ⟨head, tail, _, middle, rfl, ⟨rfl, rfl⟩, rfl, rfl, rfl⟩ := accepted
        exact ⟨rfl, rfl, rfl⟩
      · intro parts
        obtain ⟨rfl, rfl, rfl⟩ := parts
        exact ⟨[], [], (), some found, rfl, ⟨rfl, rfl⟩, rfl, rfl, rfl⟩

end Decoder

/-!
## Headers
-/

namespace Grammar

theorem standardHeader_cons_iff {dimension : Dimension} {order : ByteOrder} {kind : Kind}
    {srid? : Option Int32} {marker : UInt8} {bytes : List UInt8} :
    StandardHeader dimension order kind srid? (marker :: bytes) ↔
      marker = order.marker ∧ ∃ code, SpellsType code kind dimension srid?.isSome ∧
        bytes = FieldType.encode order .word32 code ++
          srid?.toList.flatMap (FieldType.encode order .int32) := by
  constructor
  · intro header
    cases header with
    | fields spelled => exact ⟨rfl, _, spelled, rfl⟩
  · intro parts
    obtain ⟨rfl, code, spelled, rfl⟩ := parts
    exact .fields spelled

/-- A native header: lead byte, form byte, flags, the SRID that they announce and the kind. -/
def NativeHeader (dimension : Dimension) (order : ByteOrder) (kind : Kind) (srid? : Option Int32)
    (bytes : List UInt8) : Prop :=
  ∃ lead form flags, Native.isLead lead = true ∧ Native.isVectorForm form = true ∧
    Native.versionOfForm form = Native.version.toNat ∧
    Native.Flags.ofByte flags = ⟨dimension.hasZ, dimension.hasM, srid?.isSome⟩ ∧
    dimension ≠ .xym ∧ order = Native.orderOfLead lead ∧
    bytes = lead :: form :: flags ::
      (srid?.toList.flatMap (FieldType.encode order .int32) ++ [.ofNat kind.tag])

theorem NativeHeader.blob {dimension : Dimension} {order : ByteOrder} {geometry : Geometry}
    {srid? : Option Int32} {head body : List UInt8}
    (header : NativeHeader dimension order geometry.kind srid? head)
    (spelled : Body true dimension order geometry body) :
    NativeBlob ⟨srid?.getD ReferencedGeometry.noSrid, geometry⟩ (head ++ body) := by
  obtain ⟨lead, form, flags, native, isVector, version, parts, writable, rfl, rfl⟩ := header
  have whole := NativeBlob.root native isVector version parts writable spelled
  simpa using whole

end Grammar

namespace Decoder

open Grammar

variable {known final : Option ByteOrder} {bytes : List UInt8}

theorem accepts_standard_iff {marker : UInt8} {header : Header} :
    (Header.standard marker).Accepts known bytes header final ↔
      final = some header.order ∧ ∃ srid?,
        header = ⟨if srid?.isSome then .ewkb else .wkb, 0, header.order,
          srid?.getD ReferencedGeometry.noSrid, header.dimension, header.kind⟩ ∧
        StandardHeader header.dimension header.order header.kind srid? (marker :: bytes) := by
  simp only [Header.standard, accepts_bind_iff, accepts_orderOfMarker_iff, accepts_pure_iff]
  constructor
  · intro accepted
    obtain ⟨_, _, order, _, rfl, ⟨rfl, rfl, rfl⟩, _, _, field, middle, rfl, read, _, _, srid, _,
      rfl, announced, rfl, rfl, rfl⟩ := accepted
    obtain ⟨rfl, code, rfl, spelled⟩ := accepts_typeField_iff.mp read
    obtain ⟨rfl, srid?, present, rfl, rfl⟩ := accepts_sridIf_iff.mp announced
    refine ⟨rfl, srid?, by rw [present], ?_⟩
    rw [← present] at spelled
    exact standardHeader_cons_iff.mpr ⟨rfl, code, spelled, by simp⟩
  · intro parts
    obtain ⟨rfl, srid?, shape, fields⟩ := parts
    obtain ⟨rfl, code, spelled, rfl⟩ := standardHeader_cons_iff.mp fields
    refine ⟨[], _, header.order, some header.order, rfl, ⟨rfl, rfl, rfl⟩, _, _,
      ⟨header.kind, header.dimension, srid?.isSome⟩, _, rfl,
      accepts_typeField_iff.mpr ⟨rfl, code, rfl, spelled⟩, _, [],
      srid?.getD ReferencedGeometry.noSrid, _, (List.append_nil _).symm,
      accepts_sridIf_iff.mpr ⟨rfl, srid?, rfl, rfl, rfl⟩, rfl, shape, rfl⟩

theorem accepts_native_iff {lead : UInt8} (native : Native.isLead lead = true) {header : Header} :
    (Header.native lead).Accepts known bytes header final ↔
      final = some header.order ∧ ∃ srid?,
        header = ⟨.nativeVector, 0, header.order, srid?.getD ReferencedGeometry.noSrid,
          header.dimension, header.kind⟩ ∧
        NativeHeader header.dimension header.order header.kind srid? (lead :: bytes) := by
  simp only [Header.native, accepts_bind_iff, accepts_setOrder_iff]
  constructor
  · intro accepted
    obtain ⟨_, _, _, _, rfl, ⟨rfl, rfl⟩, _, _, form, _, rfl, readForm, checked⟩ := accepted
    obtain ⟨rfl, rfl⟩ := accepts_byte_iff.mp readForm
    split at checked
    · rename_i isVector
      split at checked
      · rename_i version
        simp only [accepts_bind_iff, accepts_pure_iff] at checked
        obtain ⟨_, _, flags, _, rfl, readFlags, _, _, dimension, _, rfl, flagged, _, _, srid, _, rfl,
          announced, _, _, kind, _, rfl, tagged, rfl, rfl, rfl⟩ := checked
        obtain ⟨rfl, rfl⟩ := accepts_byte_iff.mp readFlags
        obtain ⟨rfl, onWire, rfl⟩ := accepts_ofExcept_iff.mp flagged
        obtain ⟨rfl, srid?, present, rfl, rfl⟩ := accepts_sridIf_iff.mp announced
        obtain ⟨rfl, rfl⟩ := accepts_kindByte_iff.mp tagged
        obtain ⟨sameZ, sameM, writable⟩ := Dimension.onWire_eq_ok_iff.mp onWire
        refine ⟨rfl, srid?, rfl, lead, form, flags, native, isVector, version, ?_, writable, rfl, ?_⟩
        · rw [sameZ, sameM, present]
        · simp
      · exact absurd checked not_accepts_fail
    · exact absurd checked not_accepts_fail
  · intro parts
    obtain ⟨rfl, srid?, shape, _, form, flags, _, isVector, version, parts, writable, order, spelled⟩ :=
      parts
    obtain ⟨rfl, rfl⟩ := List.cons.inj spelled
    have sameZ := congrArg Native.Flags.hasZ parts
    have sameM := congrArg Native.Flags.hasM parts
    have present := congrArg Native.Flags.hasSrid parts
    refine ⟨[], _, (), _, rfl, ⟨rfl, rfl⟩, [form], _, form, _, rfl,
      accepts_byte_iff.mpr ⟨rfl, rfl⟩, ?_⟩
    rw [if_pos isVector, if_pos version]
    simp only [accepts_bind_iff, accepts_pure_iff]
    refine ⟨[flags], _, flags, _, rfl, accepts_byte_iff.mpr ⟨rfl, rfl⟩, [], _, header.dimension, _,
      rfl, accepts_ofExcept_iff.mpr ⟨rfl, ?_, rfl⟩, _, _, srid?.getD ReferencedGeometry.noSrid, _,
      rfl, accepts_sridIf_iff.mpr ⟨rfl, srid?, present.symm, rfl, ?_⟩, _, [], header.kind, _,
      (List.append_nil _).symm, accepts_kindByte_iff.mpr ⟨rfl, rfl⟩, rfl, ?_, ?_⟩
    · exact Dimension.onWire_eq_ok_iff.mpr ⟨sameZ.symm, sameM.symm, writable⟩
    · rw [order]
    · rw [← order]
      exact shape
    · rw [order]

/-- A header decoder accepts native headers behind a lead byte and standard ones behind others. -/
theorem accepts_header_iff {header : Header} :
    Header.decoder.Accepts known bytes header final ↔
      final = some header.order ∧ ∃ srid?,
        header.srid = srid?.getD ReferencedGeometry.noSrid ∧ header.version = 0 ∧
        (header.dialect = .nativeVector ∧
            NativeHeader header.dimension header.order header.kind srid? bytes ∨
          header.dialect = (if srid?.isSome then .ewkb else .wkb) ∧
            StandardHeader header.dimension header.order header.kind srid? bytes) := by
  rw [Header.decoder, accepts_bind_iff]
  constructor
  · intro accepted
    obtain ⟨_, tail, lead, middle, rfl, read, accepted⟩ := accepted
    obtain ⟨rfl, rfl⟩ := accepts_byte_iff.mp read
    split at accepted
    · rename_i native
      obtain ⟨rfl, srid?, shape, spelled⟩ := (accepts_native_iff native).mp accepted
      refine ⟨rfl, srid?, ?_, ?_, .inl ⟨?_, spelled⟩⟩ <;> rw [shape]
    · obtain ⟨rfl, srid?, shape, spelled⟩ := accepts_standard_iff.mp accepted
      refine ⟨rfl, srid?, ?_, ?_, .inr ⟨?_, spelled⟩⟩ <;> rw [shape]
  · intro parts
    obtain ⟨rfl, srid?, sameSrid, sameVersion, ⟨dialect, spelled⟩ | ⟨dialect, spelled⟩⟩ := parts
    · rcases header with ⟨_, _, order, _, dimension, kind⟩
      cases sameSrid
      cases sameVersion
      cases dialect
      have further := spelled
      obtain ⟨lead, form, flags, native, _, _, _, _, _, rfl⟩ := spelled
      refine ⟨[lead], _, lead, known, rfl, accepts_byte_iff.mpr ⟨rfl, rfl⟩, ?_⟩
      rw [if_pos native]
      exact (accepts_native_iff native).mpr ⟨rfl, srid?, rfl, further⟩
    · rcases header with ⟨_, _, order, _, dimension, kind⟩
      cases sameSrid
      cases sameVersion
      cases dialect
      cases bytes with
      | nil => cases spelled
      | cons marker bytes =>
          refine ⟨[marker], bytes, marker, known, rfl, accepts_byte_iff.mpr ⟨rfl, rfl⟩, ?_⟩
          obtain ⟨rfl, _⟩ := standardHeader_cons_iff.mp spelled
          rw [if_neg (by simp)]
          exact accepts_standard_iff.mpr ⟨rfl, srid?, rfl, spelled⟩

/-- In a native tree the order known before a member is that of the root. In a standard tree it has
no influence. -/
theorem accepts_memberKind_iff {context : BodyContext} {outer : ByteOrder}
    (settled : context.isNative = true → known = some outer) {kind : Kind} :
    (memberKind context).Accepts known bytes kind final ↔
      ∃ inner, final = some inner ∧
        MemberHeader context.dimension context.isNative outer inner kind bytes := by
  rcases context with ⟨_ | _, dimension, limit⟩
  · simp only [memberKind, Bool.false_eq_true, ↓reduceIte, accepts_bind_iff,
      accepts_orderOfMarker_iff]
    constructor
    · intro accepted
      obtain ⟨_, _, marker, _, rfl, read, _, _, order, _, rfl, ⟨rfl, rfl, rfl⟩, _, _, field, _, rfl,
        readType, checked⟩ := accepted
      obtain ⟨rfl, rfl⟩ := accepts_byte_iff.mp read
      obtain ⟨rfl, code, rfl, spelled⟩ := accepts_typeField_iff.mp readType
      split at checked
      · rename_i sameDimension
        simp only [accepts_bind_iff, accepts_pure_iff] at checked
        obtain ⟨_, _, srid, _, rfl, announced, rfl, rfl, rfl⟩ := checked
        obtain ⟨rfl, srid?, present, rfl, rfl⟩ := accepts_sridIf_iff.mp announced
        rw [← present, sameDimension] at spelled
        exact ⟨order, rfl, .standard (standardHeader_cons_iff.mpr ⟨rfl, code, spelled, by simp⟩)⟩
      · exact absurd checked not_accepts_fail
    · intro parts
      obtain ⟨inner, rfl, header⟩ := parts
      cases header with
      | @standard _ _ _ srid? _ header =>
          cases header with
          | @fields code spelled =>
              refine ⟨[inner.marker], _, inner.marker, known, rfl, accepts_byte_iff.mpr ⟨rfl, rfl⟩,
                [], _, inner, _, rfl, ⟨rfl, rfl, rfl⟩, _, _, ⟨kind, dimension, srid?.isSome⟩, _,
                rfl, accepts_typeField_iff.mpr ⟨rfl, code, rfl, spelled⟩, ?_⟩
              rw [if_pos rfl]
              exact accepts_bind_iff.mpr ⟨_, [], srid?.getD ReferencedGeometry.noSrid, _,
                (List.append_nil _).symm, accepts_sridIf_iff.mpr ⟨rfl, srid?, rfl, rfl, rfl⟩,
                accepts_pure_iff.mpr ⟨rfl, rfl, rfl⟩⟩
  · cases settled rfl
    change kindByte.Accepts (some outer) bytes kind final ↔ _
    rw [accepts_kindByte_iff]
    constructor
    · intro accepted
      obtain ⟨rfl, rfl⟩ := accepted
      exact ⟨outer, rfl, .native⟩
    · intro parts
      obtain ⟨inner, rfl, header⟩ := parts
      cases header
      exact ⟨rfl, rfl⟩

end Decoder

end GeoWire
