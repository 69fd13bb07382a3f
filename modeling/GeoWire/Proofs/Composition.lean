import GeoWire.Proofs.EncodingOutcome
import GeoWire.Proofs.RoundTrip

/-!
# Composition of encodings

The blob of a geometry with members, put together from the blobs of these members on their own.
-/

set_option autoImplicit false

namespace GeoWire

/-- What a native blob has before the kind of its root: the three bytes that open it, and the SRID if
there is one. -/
def Native.opening (order : ByteOrder) (dimension : Dimension) (srid : Int32) : List UInt8 :=
  lead order :: form version ::
    Flags.toByte ⟨dimension.hasZ, dimension.hasM, srid != ReferencedGeometry.noSrid⟩ ::
    if srid != ReferencedGeometry.noSrid then FieldType.encode order .int32 srid else []

theorem TypeField.code_with_srid (kind : Kind) (dimension : Dimension) :
    TypeField.code ⟨kind, dimension, true⟩ =
      TypeField.code ⟨kind, dimension, false⟩ ||| 0x20000000 := by
  cases kind <;> cases dimension <;> rfl

namespace Geometry

theorem Countable.length_keptMembers {geometry : Geometry} (countable : geometry.Countable) :
    geometry.keptMembers.length < UInt32.size := by
  cases countable with
  | point | lineString | linearRing | polygon => exact (by decide : 0 < UInt32.size)
  | multiPoint fits | multiLineString fits _ | multiPolygon fits _ =>
      rw [keptMembers, members, List.filter_map, List.length_map]
      exact fits
  | collection fits _ => exact fits

theorem anyCoord_of_member {geometry member : Geometry} {holds : Coordinate → Bool}
    (none : geometry.anyCoord holds = false) (belongs : member ∈ geometry.members) :
    member.anyCoord holds = false := by
  rw [anyCoord_eq_any_coords, List.any_eq_false] at none ⊢
  intro coord held
  exact none coord (mem_coords_iff_own_or_member.mpr (.inr ⟨member, belongs, held⟩))

end Geometry

namespace ReferencedGeometry

variable {value : ReferencedGeometry} {format : Format} {order : ByteOrder} {limit : Nat}
  {blob : List UInt8}

theorem encode_nested (nested : value.geometry.nesting ≠ 0)
    (written : value.encode format order limit = .ok (some blob)) :
    blob = (value.rootLayout format limit).headerBytes order value.geometry.kind ++
      (Grammar.countBytes order value.geometry.keptMembers.length ++
        value.geometry.keptMembers.flatMap fun member =>
          (member.emission (value.rootLayout format limit).inner order).bytes order) := by
  obtain ⟨_, _, _, ⟨_, measured⟩, rfl⟩ := encode_eq_ok_some_iff_measured.mp written
  obtain ⟨room, _⟩ :=
    (Layout.allows_nested_iff nested).mp (Geometry.allows_of_encodedSize_eq_ok measured)
  exact Geometry.bytes_of_nested nested room (Geometry.emission_of_encodedSize_eq_ok measured order).1

/-- A member that is written alone, in a format of the same family and with any SRID, has the bytes
that it has in the tree, except for its header. -/
theorem encode_member (nested : value.geometry.nesting ≠ 0)
    (written : value.encode format order (limit + 1) = .ok (some blob)) {member : Geometry}
    (kept : member ∈ value.geometry.keptMembers)
    (sameDimension : member.dimension = value.geometry.dimension) {alone : Format}
    (checked : alone.checkWritable = .ok ())
    (family : format.dialect.isNative = alone.dialect.isNative) (srid : Int32) :
    ∃ content,
      (member.emission (value.rootLayout format (limit + 1)).inner order).bytes order =
        (value.rootLayout format (limit + 1)).inner.headerBytes order member.kind ++ content ∧
      ReferencedGeometry.encode alone order limit ⟨srid, member⟩ = .ok (some
        ((rootLayout alone limit ⟨srid, member⟩).headerBytes order member.kind ++ content)) := by
  obtain ⟨_, _, spatial, ⟨_, measured⟩, _⟩ := encode_eq_ok_some_iff_measured.mp written
  obtain ⟨belongs, inhabited⟩ := Geometry.mem_keptMembers_iff.mp kept
  have countable := (Geometry.countable_of_encodedSize_eq_ok measured).of_member kept
  have insideAllowed := ((Layout.allows_nested_iff nested).mp
    (Geometry.allows_of_encodedSize_eq_ok measured)).2 member kept
  have allowed :
      (rootLayout alone limit ⟨srid, member⟩).Allows member.withoutEmpty.nesting := by
    simp only [Layout.Allows, Layout.inner, rootLayout] at insideAllowed ⊢
    omega
  obtain ⟨size, sized⟩ := (member.encodedSize_verdict _).exists_ok countable allowed
  have parallel : (value.rootLayout format (limit + 1)).inner.Parallel
      (rootLayout alone limit ⟨srid, member⟩) :=
    ⟨family, sameDimension.symm⟩
  obtain ⟨content, inside, outside⟩ :=
    Geometry.bytes_parallel parallel insideAllowed allowed order
  refine ⟨content, inside, ?_⟩
  rw [encode_of_measured checked inhabited (Geometry.anyCoord_of_member spatial belongs) sized order,
    outside]

theorem headerBytes_standard (standard : format.dialect.isNative = false) (kind : Kind) :
    (value.rootLayout format limit).headerBytes order kind =
      order.marker :: FieldType.encode order .word32
          (TypeField.code ⟨kind, value.geometry.dimension, format.dialect.embedsSrid value.srid⟩) ++
        if format.dialect.embedsSrid value.srid then FieldType.encode order .int32 value.srid
        else [] := by
  have isStandard : (value.rootLayout format limit).format.dialect.isNative = false := standard
  rw [Layout.headerBytes_of_standard isStandard]
  cases embedded : format.dialect.embedsSrid value.srid <;>
    simp [rootLayout, Layout.typeField, Layout.headerSrid?, Layout.isRoot, embedded]

theorem headerBytes_native (native : format.dialect = .nativeVector)
    (version : format.version = Native.version) (kind : Kind) :
    (value.rootLayout format limit).headerBytes order kind =
      Native.opening order value.geometry.dimension value.srid ++ [.ofNat kind.tag] := by
  have isNative : (value.rootLayout format limit).format.dialect.isNative = true :=
    congrArg Dialect.isNative native
  have embedded : format.dialect.embedsSrid value.srid = (value.srid != noSrid) := by
    rw [native]
    rfl
  rw [Layout.headerBytes_of_nativeRoot isNative rfl]
  simp only [rootLayout, Layout.headerSrid?, Layout.isRoot, Layout.nativeFlags, Native.opening,
    embedded, version]
  cases value.srid != noSrid <;> simp

section Alone

variable (nested : value.geometry.nesting ≠ 0)
  (written : value.encode format order (limit + 1) = .ok (some blob)) {member : Geometry}
  (kept : member ∈ value.geometry.keptMembers)
  (sameDimension : member.dimension = value.geometry.dimension) (srid : Int32)

include nested written kept sameDimension

theorem encode_standard_member (standard : format.dialect.isNative = false) (version : UInt8) :
    ReferencedGeometry.encode ⟨.wkb, version⟩ order limit ⟨srid, member⟩ = .ok (some
      ((member.emission (value.rootLayout format (limit + 1)).inner order).bytes order)) := by
  obtain ⟨content, inside, alone⟩ := encode_member nested written kept sameDimension
    (rfl : Format.checkWritable ⟨.wkb, version⟩ = .ok ()) standard srid
  have parallel : (value.rootLayout format (limit + 1)).inner.Parallel
      (rootLayout ⟨.wkb, version⟩ limit ⟨srid, member⟩) :=
    ⟨standard, sameDimension.symm⟩
  have sameHeader := parallel.header_eq standard rfl order member.kind
  rw [alone, inside, Layout.headerBytes, Layout.headerBytes, sameHeader]

theorem encode_native_member (native : format.dialect.isNative = true) :
    ReferencedGeometry.encode .native order limit ⟨srid, member⟩ = .ok (some
      (Native.opening order value.geometry.dimension srid ++
        (member.emission (value.rootLayout format (limit + 1)).inner order).bytes order)) := by
  obtain ⟨content, inside, alone⟩ := encode_member nested written kept sameDimension
    (rfl : Format.checkWritable .native = .ok ()) native srid
  rw [alone, inside, headerBytes_native rfl rfl, sameDimension,
    Layout.headerBytes_of_nativeMember native, List.append_assoc]

end Alone

/-- Encodings are put together from encodings. If its members have the dimension of the tree, then a
blob is a header, the number of members that are not empty and what encoding them one by one with
one level less gives: their blobs in the dialect without SRIDs, or their native blobs without the
opening. -/
theorem encode_eq_of_members {srid : Int32} {geometry : Geometry} (nested : geometry.nesting ≠ 0)
    (uniform : ∀ member ∈ geometry.keptMembers, member.dimension = geometry.dimension)
    (written : ReferencedGeometry.encode format order (limit + 1) ⟨srid, geometry⟩ =
      .ok (some blob)) :
    geometry.keptMembers.length < UInt32.size ∧ ∃ part : Geometry → List UInt8,
      (format.dialect.isNative = false →
        ∀ member ∈ geometry.keptMembers, ∀ srid version,
          ReferencedGeometry.encode ⟨.wkb, version⟩ order limit ⟨srid, member⟩ =
            .ok (some (part member))) ∧
      (format.dialect = .wkb → blob =
        order.marker :: FieldType.encode order .word32
            (TypeField.code ⟨geometry.kind, geometry.dimension, false⟩) ++
          (Grammar.countBytes order geometry.keptMembers.length ++
            geometry.keptMembers.flatMap part)) ∧
      (format.dialect = .ewkb → srid ≠ noSrid → blob =
        order.marker :: FieldType.encode order .word32
            (TypeField.code ⟨geometry.kind, geometry.dimension, false⟩ ||| 0x20000000) ++
          FieldType.encode order .int32 srid ++
          (Grammar.countBytes order geometry.keptMembers.length ++
            geometry.keptMembers.flatMap part)) ∧
      (format.dialect = .nativeVector →
        (∀ member ∈ geometry.keptMembers, ∀ srid,
          ReferencedGeometry.encode .native order limit ⟨srid, member⟩ =
            .ok (some (Native.opening order geometry.dimension srid ++ part member))) ∧
        blob = Native.opening order geometry.dimension srid ++ [.ofNat geometry.kind.tag] ++
          (Grammar.countBytes order geometry.keptMembers.length ++
            geometry.keptMembers.flatMap part)) := by
  obtain ⟨checked, _, _, ⟨_, measured⟩, _⟩ := encode_eq_ok_some_iff_measured.mp written
  have countable := Geometry.countable_of_encodedSize_eq_ok measured
  have whole := encode_nested nested written
  refine ⟨countable.length_keptMembers, fun member =>
    (member.emission (rootLayout format (limit + 1) ⟨srid, geometry⟩).inner order).bytes order,
    ?_, ?_, ?_, ?_⟩
  · intro standard member kept srid version
    exact encode_standard_member nested written kept (uniform member kept) srid standard version
  · intro wkb
    have unembedded : format.dialect.embedsSrid srid = false := by
      rw [wkb]
      rfl
    rw [headerBytes_standard (congrArg Dialect.isNative wkb)] at whole
    simpa only [unembedded, Bool.false_eq_true, if_false, List.append_nil] using whole
  · intro ewkb referenced
    have embedded : format.dialect.embedsSrid srid = true := by
      rw [ewkb]
      exact bne_iff_ne.mpr referenced
    rw [headerBytes_standard (congrArg Dialect.isNative ewkb)] at whole
    simpa only [embedded, if_true, TypeField.code_with_srid] using whole
  · intro native
    have family : format.dialect.isNative = true := congrArg Dialect.isNative native
    refine ⟨?_, ?_⟩
    · intro member kept srid
      exact encode_native_member nested written kept (uniform member kept) srid family
    · rwa [headerBytes_native native (Format.version_of_checkWritable checked family)] at whole

/-- A collection of a multi-point with one empty member, an empty line string and a line string. -/
theorem encode_eq_of_members_nested :
    let points : Geometry := .multiPoint [.empty, ⟨some (.xyz ⟨1⟩ ⟨2⟩ ⟨3⟩)⟩]
    let line : Geometry := .lineString [.xyz ⟨4⟩ ⟨5⟩ ⟨6⟩]
    let geometry : Geometry := .collection [points, .lineString [], line]
    (∃ part : Geometry → List UInt8,
      ReferencedGeometry.encode .wkb .big 1 ⟨7, points⟩ = .ok (some (part points)) ∧
      ReferencedGeometry.encode .wkb .big 1 ⟨-1, line⟩ = .ok (some (part line)) ∧
      ReferencedGeometry.encode .ewkb .big 2 ⟨4326, geometry⟩ = .ok (some
        ([0, 0xa0, 0, 0, 7, 0, 0, 0x10, 0xe6, 0, 0, 0, 2] ++ (part points ++ part line)))) ∧
    ∃ part : Geometry → List UInt8,
      ReferencedGeometry.encode .native .little 1 ⟨4326, points⟩ = .ok (some
        ([9, 0x20, 0x81, 0xe6, 0x10, 0, 0] ++ part points)) ∧
      ReferencedGeometry.encode .native .little 2 ⟨-1, geometry⟩ = .ok (some
        ([9, 0x20, 1, 7, 2, 0, 0, 0] ++ (part points ++ part line))) := by
  intro points line geometry
  have uniform : ∀ member ∈ geometry.keptMembers, member.dimension = geometry.dimension := by decide
  have planned : plan .ewkb 2 ⟨4326, geometry⟩ =
      .ok (some ⟨rootLayout .ewkb 2 ⟨4326, geometry⟩, 84⟩) := rfl
  have plannedNative : plan .native 2 ⟨-1, geometry⟩ =
      .ok (some ⟨rootLayout .native 2 ⟨-1, geometry⟩, 67⟩) := rfl
  have encoded := encode_of_plan planned .big
  have encodedNative := encode_of_plan plannedNative .little
  obtain ⟨_, part, alone, _, whole, _⟩ := encode_eq_of_members (by decide) uniform encoded
  obtain ⟨_, partNative, _, _, _, native⟩ :=
    encode_eq_of_members (by decide) uniform encodedNative
  have keepsPoints : points ∈ geometry.keptMembers := .head _
  have keepsLine : line ∈ geometry.keptMembers := .tail _ (.head _)
  refine ⟨⟨part, alone rfl points keepsPoints 7 0, alone rfl line keepsLine (-1) 0, ?_⟩,
    partNative, (native rfl).1 points keepsPoints 4326, ?_⟩
  · have typeBytes : FieldType.encode .big .word32
        (TypeField.code ⟨geometry.kind, geometry.dimension, false⟩ ||| 0x20000000) =
          [0xa0, 0, 0, 7] := by decide
    have sridBytes : FieldType.encode .big .int32 4326 = [0, 0, 0x10, 0xe6] := by decide
    have count : Grammar.countBytes .big geometry.keptMembers.length = [0, 0, 0, 2] := by decide
    have members : geometry.keptMembers.flatMap part = part points ++ (part line ++ []) := rfl
    rw [encoded, whole rfl (by decide), typeBytes, sridBytes, count, members, List.append_nil]
    rfl
  · have opening : Native.opening .little geometry.dimension (-1) = [9, 0x20, 1] := by decide
    have count : Grammar.countBytes .little geometry.keptMembers.length = [2, 0, 0, 0] := by decide
    have members : geometry.keptMembers.flatMap partNative =
        partNative points ++ (partNative line ++ []) := rfl
    rw [encodedNative, (native rfl).2, opening, count, members, List.append_nil]
    rfl

end ReferencedGeometry

end GeoWire
