import GeoWire.Codec
import GeoWire.Proofs.BodyLengths
import GeoWire.Proofs.RoundTrip

/-!
# Encoding what was decoded

A tree that was read has one dimension and no linear ring, and it has a body, so that it can be
written in every dialect. What is written says the same without the empty members and is written no
differently when it is read and written again.
-/

set_option autoImplicit false

namespace GeoWire

open Grammar

/-!
## Wire-formed trees
-/

namespace Geometry

/-- Nothing is changed inside the members that are kept. -/
theorem IsNode.of_withoutEmpty {node tree : Geometry} (isNode : node.IsNode tree.withoutEmpty) :
    ∃ original : Geometry, original.IsNode tree ∧ node = original.withoutEmpty := by
  induction tree using nodeInduction with
  | step tree ih =>
      rcases isNode_iff.mp isNode with rfl | ⟨member, belongs, isNode⟩
      · exact ⟨tree, .root, rfl⟩
      · rw [members_withoutEmpty] at belongs
        obtain ⟨kept, isKept, rfl⟩ := List.mem_map.mp belongs
        have belongs := (List.mem_filter.mp isKept).1
        obtain ⟨original, isNode, same⟩ := ih kept belongs isNode
        exact ⟨original, .inside belongs isNode, same⟩

theorem WireFormed.withoutEmpty {node : Geometry} {dimension : Dimension}
    (formed : node.WireFormed dimension) : node.withoutEmpty.WireFormed dimension := by
  cases node with
  | point | lineString | linearRing | polygon => exact formed
  | multiPoint | multiLineString | multiPolygon | collection =>
      constructor
      · exact List.forall_mem_nil _
      · exact List.forall_mem_nil _
      · simp [Geometry.withoutEmpty]
      · simp [Geometry.withoutEmpty]

theorem wireFormed_withoutEmpty {tree : Geometry} {dimension : Dimension}
    (formed : ∀ node : Geometry, node.IsNode tree → node.WireFormed dimension) :
    ∀ node : Geometry, node.IsNode tree.withoutEmpty → node.WireFormed dimension := by
  intro node isNode
  obtain ⟨original, isOriginal, rfl⟩ := isNode.of_withoutEmpty
  exact (formed original isOriginal).withoutEmpty

end Geometry

theorem LineString.project_eq_self {line : LineString} {dimension : Dimension}
    (uniform : ∀ coord ∈ line, coord.dimension = dimension) : line.project dimension = line := by
  have each : ∀ coord ∈ line, coord.project dimension = coord :=
    fun coord held => Coordinate.project_of_dimension_eq (uniform coord held)
  exact (List.map_congr_left each).trans (List.map_id line)

theorem Polygon.project_eq_self {poly : Polygon} {dimension : Dimension}
    (uniform : ∀ coord ∈ poly.coords, coord.dimension = dimension) :
    poly.project dimension = poly := by
  have each : ∀ ring ∈ poly.rings, ring.project dimension = ring := by
    intro ring belongs
    apply Ring.ext
    exact LineString.project_eq_self fun coord held =>
      uniform coord (List.mem_flatMap.mpr ⟨ring, belongs, held⟩)
  obtain ⟨exterior, interiors⟩ := List.forall_mem_cons.mp each
  rw [Polygon.project, exterior, (List.map_congr_left interiors).trans (List.map_id _)]

/-- A wire-formed tree does not change when it is brought to its own dimension. -/
theorem Geometry.conform_eq_self {tree : Geometry} {dimension : Dimension}
    (formed : ∀ node : Geometry, node.IsNode tree → node.WireFormed dimension) :
    tree.conform dimension = tree := by
  induction tree using nodeInduction with
  | step tree ih =>
      have each : ∀ member ∈ tree.members, member.conform dimension = member := by
        intro member belongs
        exact ih member belongs fun node isNode => formed node (.inside belongs isNode)
      have root := formed tree .root
      have items {α : Type} {items : List α} {form : α → Geometry} {project : α → α}
          (each : ∀ member ∈ items.map form, member.conform dimension = member)
          (inner : ∀ item, (form item).conform dimension = form item → project item = item) :
          items.map project = items := by
        refine (List.map_congr_left ?_).trans (List.map_id items)
        exact fun item belongs => inner item (each _ (List.mem_map_of_mem belongs))
      cases tree with
      | point pt =>
          obtain ⟨_ | coord⟩ := pt
          · rfl
          · have uniform := root.uniform coord (.head _)
            rw [conform, Point.project, Option.map_some, Coordinate.project_of_dimension_eq uniform]
      | lineString line => exact congrArg lineString (LineString.project_eq_self root.uniform)
      | linearRing ring => exact absurd rfl (root.ringless ring)
      | polygon poly => exact congrArg polygon (Polygon.project_eq_self root.uniform)
      | multiPoint points => exact congrArg multiPoint (items each fun _ => point.inj)
      | multiLineString lines => exact congrArg multiLineString (items each fun _ => lineString.inj)
      | multiPolygon polygons => exact congrArg multiPolygon (items each fun _ => polygon.inj)
      | collection members =>
          rw [conform, conformAll_eq]
          exact congrArg collection ((List.map_congr_left each).trans (List.map_id members))

theorem Geometry.nesting_withoutEmpty_le (tree : Geometry) :
    tree.withoutEmpty.nesting ≤ tree.nesting := by
  induction tree with
  | collection members ih =>
      rw [nesting_withoutEmpty_collection]
      apply Nat.succ_le_succ
      refine nestingOf_le_iff.mpr (List.forall_mem_map.mpr ?_)
      intro member belongs
      have original := (List.mem_filter.mp belongs).1
      exact Nat.le_trans (ih member original) (nestingOf_le_iff.mp (Nat.le_refl _) member original)
  | _ => exact Nat.le_refl _

theorem Geometry.coords_ne_nil_of_inhabited {tree : Geometry} (inhabited : tree.isEmpty = false) :
    tree.coords ≠ [] := by
  intro none
  rw [isEmpty_of_coords_eq_nil none] at inhabited
  cases inhabited

theorem Geometry.dimension_eq_of_inhabited {tree : Geometry} {dimension : Dimension}
    (formed : ∀ node : Geometry, node.IsNode tree → node.WireFormed dimension)
    (inhabited : tree.isEmpty = false) : tree.dimension = dimension :=
  dimension_eq_of_forall (coords_ne_nil_of_inhabited inhabited) (uniform_of_wireFormed formed)

theorem Geometry.spatial_of_wireFormed {tree : Geometry} {dimension : Dimension}
    (formed : ∀ node : Geometry, node.IsNode tree → node.WireFormed dimension)
    (writable : dimension ≠ .xym) :
    tree.anyCoord (fun coord => coord.dimension == .xym) = false := by
  rw [anyCoord_eq_any_coords, List.any_eq_false]
  intro coord held
  rw [uniform_of_wireFormed formed coord held]
  simpa using writable

/-!
## Writing again
-/

theorem Format.checkWritable_eq_ok_iff {format : Format} :
    format.checkWritable = .ok () ↔ format.dialect = .nativeVector ∧ format.version = Native.version ∨
      format.dialect = .wkb ∨ format.dialect = .ewkb := by
  obtain ⟨dialect, version⟩ := format
  cases dialect <;> simp [checkWritable]

namespace ReferencedGeometry

/-- What a dialect keeps of a value: the tree without its empty members, and the SRID if there is a
place for one. -/
def keptBy (dialect : Dialect) (value : ReferencedGeometry) : ReferencedGeometry :=
  ⟨if dialect.holdsSrid then value.srid else noSrid, value.geometry.withoutEmpty⟩

variable {value : ReferencedGeometry} {format : Format} {limit : Nat}

theorem rootLayout_keptBy
    (dimension : value.geometry.withoutEmpty.dimension = value.geometry.dimension) :
    (value.keptBy format.dialect).rootLayout format limit = value.rootLayout format limit := by
  simp only [rootLayout, keptBy, dimension, Dialect.embedsSrid]
  by_cases holds : format.dialect.holdsSrid = true <;> simp [holds]

/-- The number that says there is no SRID is never embedded. -/
theorem srid_ne_noSrid_of_embedded
    (embedded : (value.rootLayout format limit).srid?.isSome = true) : value.srid ≠ noSrid := by
  intro unreferenced
  simp [rootLayout, Dialect.embedsSrid, unreferenced] at embedded

/-- A tree with a body in some dialect is measured in every other. -/
theorem measured_of_body {isNative : Bool} {dimension : Dimension} {order : ByteOrder}
    {body : List UInt8} (spelled : Body isNative dimension order value.geometry body)
    (bounded : value.geometry.nesting ≤ limit) (format : Format) :
    ∃ size, value.geometry.encodedSize (value.rootLayout format limit) = .ok size := by
  have room : 0 + value.geometry.withoutEmpty.nesting ≤ limit := by
    rw [Nat.zero_add]
    exact Nat.le_trans value.geometry.nesting_withoutEmpty_le bounded
  exact (value.geometry.encodedSize_verdict _).exists_ok spelled.countable (.inr room)

/-- The bytes written of a wire-formed tree are read back as what the dialect keeps. -/
theorem read_bytes_of_wireFormed {size : Nat} (checked : format.checkWritable = .ok ())
    (formed : ∀ node : Geometry, node.IsNode value.geometry →
      node.WireFormed value.geometry.dimension)
    (writable : value.geometry.dimension ≠ .xym) (inhabited : value.geometry.isEmpty = false)
    (measured : value.geometry.encodedSize (value.rootLayout format limit) = .ok size)
    (bounded : value.geometry.nesting ≤ limit) (order : ByteOrder) :
    ((Reader.ofBytes
      ((value.geometry.emission (value.rootLayout format limit) order).bytes order)).readGeometry
        limit).1 = .ok (value.keptBy format.dialect) := by
  obtain ⟨ended, _⟩ := Geometry.emission_of_encodedSize_eq_ok measured order
  have writes := Geometry.emission_yields writable inhabited (Emission.yields_bytes ended)
  have sameTree : value.geometry.withoutEmpty.conform (value.rootLayout format limit).dimension =
      value.geometry.withoutEmpty :=
    Geometry.conform_eq_self (Geometry.wireFormed_withoutEmpty formed)
  rw [sameTree] at writes
  have spelled := writes.blob checked writable rfl
  rw [Reader.readGeometry_eq_ok_iff, keptBy, ← format.dialect.getD_embedded value.srid]
  exact ⟨spelled, Nat.le_trans value.geometry.nesting_withoutEmpty_le bounded⟩

/-- What a dialect keeps of a wire-formed tree is written as the tree itself is. -/
theorem encode_keptBy {dimension : Dimension}
    (formed : ∀ node : Geometry, node.IsNode value.geometry → node.WireFormed dimension)
    (writable : dimension ≠ .xym) (inhabited : value.geometry.isEmpty = false) (order : ByteOrder) :
    (value.keptBy format.dialect).encode format order limit = value.encode format order limit := by
  have keptFormed := Geometry.wireFormed_withoutEmpty formed
  have keptInhabited : value.geometry.withoutEmpty.isEmpty = false := by
    rw [Geometry.isEmpty_withoutEmpty, inhabited]
  have sameDimension : value.geometry.withoutEmpty.dimension = value.geometry.dimension := by
    rw [Geometry.dimension_eq_of_inhabited formed inhabited,
      Geometry.dimension_eq_of_inhabited keptFormed keptInhabited]
  have spatial := Geometry.spatial_of_wireFormed formed writable
  have keptSpatial := Geometry.spatial_of_wireFormed keptFormed writable
  exact encode_congr (rootLayout_keptBy sameDimension) value.geometry.isEmpty_withoutEmpty
    (keptSpatial.trans spatial.symm) value.geometry.withoutEmpty_withoutEmpty order

end ReferencedGeometry

/-- Whatever was read and is not empty is written in every dialect but the raster. What is written is
read as the same tree without its empty members and is written again as it is, and it is not longer
than the original unless the dialect family changes. -/
theorem encode_decoded {codec : Codec} {blob : List UInt8} {value : ReferencedGeometry}
    (decoded : codec.decode blob = .ok value) (inhabited : value.geometry.isEmpty = false)
    (format : Format) (target : format.dialect = .nativeVector ∧ format.version = Native.version ∨
      format.dialect = .wkb ∨ format.dialect = .ewkb) :
    ∃ header again, Header.peek blob = .ok header ∧ codec.encode format value = .ok (some again) ∧
      codec.decode again = .ok (value.keptBy format.dialect) ∧
      codec.encode format (value.keptBy format.dialect) = .ok (some again) ∧
      (header.dialect.isNative = format.dialect.isNative → again.length ≤ blob.length) := by
  obtain ⟨_, accepted⟩ := Reader.accepts_of_readGeometry_eq_ok decoded
  obtain ⟨header, head, body, split, headed, sameSrid, _, bounded, spelled⟩ :=
    Decoder.parts_of_accepts_blob accepted
  have whole : blob = head ++ body := split
  have formed (node : Geometry) (isNode : node.IsNode value.geometry) :
      node.WireFormed header.dimension :=
    spelled.node_wireFormed isNode
  have writable := Decoder.writable_of_accepts_header headed
  have checked := Format.checkWritable_eq_ok_iff.mpr target
  have spatial := Geometry.spatial_of_wireFormed formed writable
  have dimension := Geometry.dimension_eq_of_inhabited formed inhabited
  obtain ⟨size, measured⟩ := ReferencedGeometry.measured_of_body spelled bounded format
  have encoded :=
    ReferencedGeometry.encode_of_measured checked inhabited spatial measured codec.order
  refine ⟨header, _, ?_, encoded, ?_, ?_, ?_⟩
  · rw [whole]
    exact Header.peek_append_of_accepts headed body
  · rw [← dimension] at formed writable
    exact ReferencedGeometry.read_bytes_of_wireFormed checked formed writable inhabited measured
      bounded codec.order
  · rw [← encoded]
    exact ReferencedGeometry.encode_keptBy formed writable inhabited codec.order
  · intro family
    obtain ⟨_, width⟩ := Geometry.emission_of_encodedSize_eq_ok measured codec.order
    rw [family, ← dimension] at spelled
    have bodyFits := spelled.size_le inhabited measured
    have headFits : (value.rootLayout format codec.limit).headerSize ≤ head.length :=
      Decoder.headerSize_le_of_accepts_header headed rfl family fun embedded =>
        sameSrid ▸ ReferencedGeometry.srid_ne_noSrid_of_embedded embedded
    rw [Emission.length_bytes, width, whole, List.length_append]
    omega

/-- A collection with thousands for Z, which announces that there is no SRID, of a point with an SRID
of its own in the other byte order, a polygon without rings and a multi-point of two NaN. -/
theorem encode_decoded_mixedOrders :
    let codec : Codec := ⟨.little, 2⟩
    let blob : List UInt8 :=
      [0, 0x20, 0, 3, 0xef, 0xff, 0xff, 0xff, 0xff, 0, 0, 0, 3,
        1, 0xe9, 3, 0, 0x20, 7, 0, 0, 0, 0, 0, 0, 0, 0, 0, 0xf0, 0x3f, 1, 0, 0, 0, 0, 0, 0xf8, 0x7f,
        0, 0, 0, 0, 0, 0, 0, 0x40,
        0, 0x80, 0, 0, 3, 0, 0, 0, 0,
        1, 4, 0, 0, 0x80, 1, 0, 0, 0, 0, 0x80, 0, 0, 1, 0x7f, 0xf8, 0, 0, 0, 0, 0, 0,
        0xff, 0xf8, 0, 0, 0, 0, 0, 0, 0, 0, 0, 0, 0, 0, 0, 0]
    let placed : Geometry :=
      .point ⟨some (.xyz ⟨0x3ff0000000000000⟩ ⟨0x7ff8000000000001⟩ ⟨0x4000000000000000⟩)⟩
    let read : ReferencedGeometry :=
      ⟨-1, .collection [placed, .polygon .empty, .multiPoint [.empty]]⟩
    let kept : ReferencedGeometry := ⟨-1, .collection [placed]⟩
    codec.decode blob = .ok read ∧ read.geometry.isEmpty = false ∧
      ∃ again, codec.encode .ewkb read = .ok (some again) ∧ codec.decode again = .ok kept ∧
        codec.encode .ewkb kept = .ok (some again) ∧ again.length ≤ blob.length := by
  intro codec blob placed read kept
  have decoded : codec.decode blob = .ok read := by cbv
  have peeked : Header.peek blob = .ok ⟨.ewkb, 0, .big, -1, .xyz, .collection⟩ := by cbv
  obtain ⟨header, again, samePeeked, encoded, reread, encodedAgain, shorter⟩ :=
    encode_decoded decoded (by decide) .ewkb (.inr (.inr rfl))
  cases peeked.symm.trans samePeeked
  exact ⟨decoded, by decide, again, encoded, reread, encodedAgain, shorter rfl⟩

end GeoWire
