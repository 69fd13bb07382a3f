import GeoWire.Geometry.Normal
import GeoWire.Grammar
import GeoWire.Proofs.EmissionOutcome
import GeoWire.Proofs.HeaderAcceptance
import GeoWire.Proofs.Measurement

/-!
# Spelling of emissions

The bytes of a tree that is written to its end are a header and a body of the grammar, which spell
the tree without its empty members and brought to the dimension of the layout.
-/

set_option autoImplicit false

namespace GeoWire

open Grammar

namespace Layout

def headerBytes (layout : Layout) (order : ByteOrder) (kind : Kind) : List UInt8 :=
  (layout.header order kind).flatMap (Field.bytes order)

/-- The bytes are the header of a geometry in this place and a body that spells it. -/
def Writes (layout : Layout) (order : ByteOrder) (geometry : Geometry) (bytes : List UInt8) : Prop :=
  ∃ body, Body layout.format.dialect.isNative layout.dimension order geometry body ∧
    bytes = layout.headerBytes order geometry.kind ++ body

variable {layout : Layout} {order : ByteOrder}

/-!
## Headers
-/

theorem sridFields_bytes (layout : Layout) (order : ByteOrder) :
    layout.sridFields.flatMap (Field.bytes order) =
      layout.headerSrid?.toList.flatMap (FieldType.encode order .int32) := by
  rw [sridFields, List.flatMap_map]
  rfl

theorem kindField_bytes (order : ByteOrder) (kind : Kind) :
    (kindField kind).bytes order = [.ofNat kind.tag] :=
  FieldType.encode_byte order _

theorem headerBytes_of_standard {layout : Layout} (standard : layout.format.dialect.isNative = false)
    (order : ByteOrder) (kind : Kind) :
    layout.headerBytes order kind =
      order.marker :: FieldType.encode order .word32 (layout.typeField kind).code ++
        layout.headerSrid?.toList.flatMap (FieldType.encode order .int32) := by
  rw [← layout.sridFields_bytes order]
  cases root : layout.isRoot <;>
    simp [headerBytes, header, standard, root, Field.bytes]

theorem headerBytes_of_nativeRoot {layout : Layout} (native : layout.format.dialect.isNative = true)
    (root : layout.isRoot = true) (order : ByteOrder) (kind : Kind) :
    layout.headerBytes order kind =
      Native.lead order :: Native.form layout.format.version :: layout.nativeFlags.toByte ::
        (layout.headerSrid?.toList.flatMap (FieldType.encode order .int32) ++
          [.ofNat kind.tag]) := by
  rw [← layout.sridFields_bytes order]
  simp [headerBytes, header, native, root, kindField, Field.bytes]

theorem headerBytes_of_nativeMember (native : layout.format.dialect.isNative = true)
    (order : ByteOrder) (kind : Kind) :
    layout.inner.headerBytes order kind = [.ofNat kind.tag] := by
  have notRoot : layout.inner.isRoot = false := rfl
  have innerNative : layout.inner.format.dialect.isNative = true := native
  simp [headerBytes, header, innerNative, notRoot, kindField_bytes]

theorem standardHeader_headerBytes (layout : Layout) (writable : layout.dimension ≠ .xym)
    (standard : layout.format.dialect.isNative = false) (kind : Kind) (order : ByteOrder) :
    StandardHeader layout.dimension order kind layout.headerSrid? (layout.headerBytes order kind) := by
  have spelled : SpellsType (layout.typeField kind).code kind layout.dimension
      layout.headerSrid?.isSome :=
    TypeField.ofCode_eq_ok_iff.mp (TypeField.ofCode_code writable)
  rw [headerBytes_of_standard standard]
  exact .fields spelled

theorem nativeHeader_headerBytes (layout : Layout) (writable : layout.dimension ≠ .xym)
    (native : layout.format.dialect.isNative = true) (root : layout.isRoot = true)
    (version : layout.format.version = Native.version) (kind : Kind) (order : ByteOrder) :
    NativeHeader layout.dimension order kind layout.headerSrid? (layout.headerBytes order kind) := by
  refine ⟨Native.lead order, Native.form Native.version, layout.nativeFlags.toByte,
    Native.isLead_lead order, rfl, rfl, Native.Flags.ofByte_toByte _, writable,
    (Native.orderOfLead_lead order).symm, ?_⟩
  rw [headerBytes_of_nativeRoot native root, version]

theorem memberHeader_headerBytes (writable : layout.dimension ≠ .xym) (kind : Kind) :
    MemberHeader layout.dimension layout.format.dialect.isNative order order kind
      (layout.inner.headerBytes order kind) := by
  cases native : layout.format.dialect.isNative with
  | false => exact .standard (layout.inner.standardHeader_headerBytes writable native kind order)
  | true =>
      rw [headerBytes_of_nativeMember native]
      exact .native

/-!
## Coordinates and counts
-/

theorem coordinate_bytes (layout : Layout) (order : ByteOrder) (coord : Coordinate) :
    (layout.coordinate coord).flatMap (Field.bytes order) =
      coordinateBytes order (coord.project layout.dimension) := by
  rw [coordinate, List.flatMap_map]
  cases layout.dimension <;> rfl

theorem coordinates_bytes (layout : Layout) (order : ByteOrder) (line : LineString) :
    (line.flatMap layout.coordinate).flatMap (Field.bytes order) =
      (LineString.project layout.dimension line).flatMap (coordinateBytes order) := by
  simp only [List.flatMap_assoc, coordinate_bytes, LineString.project, List.flatMap_map]

theorem yields_count_iff {items : Nat} {bytes : List UInt8} :
    (count items).Yields order bytes ↔ items < UInt32.size ∧ bytes = countBytes order items := by
  unfold count
  split
  · rename_i fits
    have bytesOfCount : [(⟨.word32, .ofNat items⟩ : Field)].flatMap (Field.bytes order) =
        countBytes order items :=
      List.append_nil _
    rw [Emission.yields_ofFields_iff, bytesOfCount]
    exact (and_iff_right fits).symm
  · rename_i overflows
    constructor
    · intro yields
      cases yields
    · intro fits
      exact absurd fits.1 overflows

theorem coordinates_yields {line : LineString} {bytes : List UInt8}
    (yields : (layout.coordinates line).Yields order bytes) :
    Spellable layout.dimension (LineString.project layout.dimension line) ∧
      bytes = lineBytes order (LineString.project layout.dimension line) := by
  obtain ⟨counted, coords, countYields, coordsYield, rfl⟩ := Emission.yields_append_iff.mp yields
  obtain ⟨fits, rfl⟩ := yields_count_iff.mp countYields
  have length : (LineString.project layout.dimension line).length = line.length := List.length_map _
  rw [Emission.yields_ofFields_iff.mp coordsYield, coordinates_bytes, lineBytes, length]
  refine ⟨⟨by rwa [length], ?_⟩, rfl⟩
  intro coord member
  obtain ⟨original, _, rfl⟩ := List.mem_map.mp member
  exact original.dimension_project layout.dimension

/-!
## Parts of a tree
-/

theorem point_yields {pt : Point} {bytes : List UInt8} (inhabited : pt.isEmpty = false)
    (yields : (layout.point order pt).Yields order bytes) :
    layout.Writes order (.point (pt.project layout.dimension)) bytes := by
  obtain ⟨coord?⟩ := pt
  cases coord? with
  | none => cases inhabited
  | some coord =>
      have fields := Emission.yields_ofFields_iff.mp yields
      rw [List.flatMap_append, Option.getD_some, coordinate_bytes] at fields
      have spelled : Body layout.format.dialect.isNative layout.dimension order _ _ :=
        .point (coord.dimension_project layout.dimension)
      have position : pointOf (coord.project layout.dimension) =
          Point.project layout.dimension ⟨some coord⟩ := by
        have sameX : (coord.project layout.dimension).isNaNPosition = coord.isNaNPosition := rfl
        change coord.isNaNPosition = false at inhabited
        simp [pointOf, sameX, inhabited, Point.project]
      rw [position] at spelled
      exact ⟨_, spelled, fields⟩

theorem lineString_yields {line : LineString} {bytes : List UInt8}
    (yields : (layout.lineString order line).Yields order bytes) :
    layout.Writes order (.lineString (LineString.project layout.dimension line)) bytes := by
  obtain ⟨head, body, headYields, bodyYields, rfl⟩ := Emission.yields_append_iff.mp yields
  obtain ⟨spellable, rfl⟩ := coordinates_yields bodyYields
  exact ⟨_, .lineString spellable, by rw [Emission.yields_ofFields_iff.mp headYields]; rfl⟩

theorem rings_yields {rings : List Ring} {bytes : List UInt8}
    (yields : (Emission.concat (rings.map fun ring => layout.coordinates ring.coords)).Yields order
      bytes) :
    (∀ ring ∈ rings.map (Ring.project layout.dimension), Spellable layout.dimension ring.coords) ∧
      bytes = (rings.map (Ring.project layout.dimension)).flatMap fun ring =>
        lineBytes order ring.coords := by
  induction rings generalizing bytes with
  | nil =>
      cases yields
      simp
  | cons ring rest ih =>
      obtain ⟨first, others, firstYields, othersYield, rfl⟩ := Emission.yields_append_iff.mp yields
      obtain ⟨spellable, rfl⟩ := coordinates_yields firstYields
      obtain ⟨restSpellable, rfl⟩ := ih othersYield
      rw [List.map_cons]
      exact ⟨List.forall_mem_cons.mpr ⟨spellable, restSpellable⟩, rfl⟩

theorem polygon_yields {poly : Polygon} {bytes : List UInt8}
    (yields : (layout.polygon order poly).Yields order bytes) :
    layout.Writes order (.polygon (poly.project layout.dimension)) bytes := by
  obtain ⟨front, rings, frontYields, ringsYield, rfl⟩ := Emission.yields_append_iff.mp yields
  obtain ⟨head, counted, headYields, countYields, rfl⟩ := Emission.yields_append_iff.mp frontYields
  obtain ⟨fits, rfl⟩ := yields_count_iff.mp countYields
  obtain ⟨spellable, rfl⟩ := rings_yields ringsYield
  have spelled : Body layout.format.dialect.isNative layout.dimension order _ _ :=
    .polygon (by rwa [List.length_map]) spellable
  rw [List.length_map] at spelled
  refine ⟨_, spelled, ?_⟩
  rw [Emission.yields_ofFields_iff.mp headYields, List.append_assoc]
  rfl

/-!
## Members
-/

section Members

variable {α β : Type} {project : α → β} {toGeometry : β → Geometry}

theorem concat_yields {items : List α} {element : α → Emission}
    (writable : layout.dimension ≠ .xym)
    (each : ∀ item ∈ items, ∀ bytes, (element item).Yields order bytes →
      layout.inner.Writes order (toGeometry (project item)) bytes)
    {bytes : List UInt8} (yields : (Emission.concat (items.map element)).Yields order bytes) :
    Members layout.format.dialect.isNative layout.dimension order
      ((items.map project).map toGeometry) bytes := by
  induction items generalizing bytes with
  | nil =>
      cases yields
      exact .nil
  | cons item rest ih =>
      obtain ⟨itemSpells, restSpells⟩ := List.forall_mem_cons.mp each
      obtain ⟨first, others, firstYields, othersYield, rfl⟩ := Emission.yields_append_iff.mp yields
      obtain ⟨body, spelled, rfl⟩ := itemSpells first firstYields
      exact .cons (memberHeader_headerBytes writable _) spelled (ih restSpells othersYield)

theorem elements_yields {kind : Kind} {items : List α} {element : Layout → ByteOrder → α → Emission}
    (writable : layout.dimension ≠ .xym)
    (each : ∀ item ∈ items, ∀ bytes, (element layout.inner order item).Yields order bytes →
      layout.inner.Writes order (toGeometry (project item)) bytes)
    {bytes : List UInt8} (yields : (layout.elements order kind element items).Yields order bytes) :
    ∃ members, (items.map project).length < UInt32.size ∧
      Members layout.format.dialect.isNative layout.dimension order
        ((items.map project).map toGeometry) members ∧
      bytes = layout.headerBytes order kind ++
        (countBytes order (items.map project).length ++ members) := by
  unfold elements at yields
  cases placed : layout.member with
  | error cause =>
      rw [placed] at yields
      cases yields
  | ok member =>
      obtain ⟨_, rfl⟩ := member_eq_ok_iff.mp placed
      rw [placed] at yields
      obtain ⟨front, members, frontYields, membersYield, rfl⟩ := Emission.yields_append_iff.mp yields
      obtain ⟨head, counted, headYields, countYields, rfl⟩ :=
        Emission.yields_append_iff.mp frontYields
      obtain ⟨fits, rfl⟩ := yields_count_iff.mp countYields
      rw [List.length_map]
      refine ⟨members, fits, concat_yields writable each membersYield, ?_⟩
      rw [Emission.yields_ofFields_iff.mp headYields, List.append_assoc]
      rfl

end Members

end Layout

/-!
## Whole trees
-/

/-- A tree that is written to its end is written as its normal form in the dimension of the
layout. -/
theorem Geometry.emission_yields {geometry : Geometry} {layout : Layout} {order : ByteOrder}
    (writable : layout.dimension ≠ .xym) (inhabited : geometry.isEmpty = false)
    {bytes : List UInt8} (yields : (geometry.emission layout order).Yields order bytes) :
    layout.Writes order (geometry.withoutEmpty.conform layout.dimension) bytes := by
  induction geometry generalizing layout bytes with
  | point pt => exact Layout.point_yields inhabited yields
  | lineString line => exact Layout.lineString_yields yields
  | linearRing ring => exact Layout.lineString_yields yields
  | polygon poly => exact Layout.polygon_yields yields
  | multiPoint points =>
      have each : ∀ pt ∈ points.filter fun pt => !pt.isEmpty, ∀ bytes,
          (layout.inner.point order pt).Yields order bytes →
          layout.inner.Writes order (.point (pt.project layout.dimension)) bytes := by
        intro pt belongs bytes pointYields
        have notEmpty : pt.isEmpty = false := by simpa using (List.mem_filter.mp belongs).2
        exact Layout.point_yields notEmpty pointYields
      obtain ⟨members, fits, spelled, rfl⟩ := Layout.elements_yields writable each yields
      exact ⟨_, .multiPoint fits spelled, rfl⟩
  | multiLineString lines =>
      obtain ⟨members, fits, spelled, rfl⟩ := Layout.elements_yields writable
        (fun line _ bytes lineYields => Layout.lineString_yields lineYields) yields
      exact ⟨_, .multiLineString fits spelled, rfl⟩
  | multiPolygon polygons =>
      obtain ⟨members, fits, spelled, rfl⟩ := Layout.elements_yields writable
        (fun poly _ bytes polygonYields => Layout.polygon_yields polygonYields) yields
      exact ⟨_, .multiPolygon fits spelled, rfl⟩
  | collection members ih =>
      rw [emission_collection] at yields
      have each : ∀ inner ∈ members.filter fun inner => !inner.isEmpty, ∀ bytes,
          (inner.emission layout.inner order).Yields order bytes →
          layout.inner.Writes order (id (inner.withoutEmpty.conform layout.dimension)) bytes := by
        intro inner belongs bytes innerYields
        obtain ⟨member, notEmpty⟩ := List.mem_filter.mp belongs
        have innerWritable : layout.inner.dimension ≠ .xym := writable
        exact ih inner member innerWritable (by simpa using notEmpty) innerYields
      obtain ⟨body, fits, spelled, rfl⟩ := Layout.elements_yields writable each yields
      have normal : (members.filter fun inner => !inner.isEmpty).map
            (fun inner => inner.withoutEmpty.conform layout.dimension) =
          conformAll layout.dimension (membersWithoutEmpty members) := by
        rw [conformAll_eq, membersWithoutEmpty_eq, List.map_map]
        rfl
      rw [normal] at fits spelled ⊢
      rw [List.map_id] at spelled
      exact ⟨_, .collection fits spelled, rfl⟩

end GeoWire
