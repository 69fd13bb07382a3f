import GeoWire.Geometry.Count
import GeoWire.Proofs.BodyLengths
import GeoWire.Proofs.EncodingOutcome
import Mathlib.Algebra.BigOperators.Group.List.Basic

/-!
# Encoded lengths

The length of an encoding from three numbers of the tree without its empty members: its geometries,
each of which has a header, the coordinates that they hold and the counts in front of these.
-/

set_option autoImplicit false

namespace GeoWire

/-!
## Sums of sizes
-/

theorem Geometry.sum_map_nodes (measure : Geometry → Nat) (tree : Geometry) :
    (tree.nodes.map measure).sum =
      measure tree + (tree.members.map fun member => (member.nodes.map measure).sum).sum := by
  rw [nodes_eq, List.map_cons, List.sum_cons, List.map_flatMap, List.flatMap_def, List.sum_flatten,
    List.map_map]
  rfl

namespace Layout

theorem total_eq_sum (sizes : List Nat) : total sizes = sizes.sum := by
  induction sizes with
  | nil => rfl
  | cons size rest ih => rw [total, ih, List.sum_cons]

theorem coordinatesSize_eq_ok {layout : Layout} {line : LineString} {size : Nat}
    (measured : layout.coordinatesSize line = .ok size) :
    size = 4 + layout.coordSize * line.length := by
  obtain ⟨count, counted, measured⟩ := Outcome.bind_eq_ok_iff.mp measured
  cases measured
  rw [countSize_eq_ok counted, Nat.mul_comm]

/-!
## Headers
-/

/-- The number of bytes of the header of every member. -/
def memberHeaderSize (layout : Layout) : Nat :=
  if layout.format.dialect.isNative then 1 else 5

theorem headerSize_inner (layout : Layout) :
    layout.inner.headerSize = layout.memberHeaderSize := by
  have notRoot : layout.inner.isRoot = false := rfl
  have sameFormat : layout.inner.format = layout.format := rfl
  have unreferenced : layout.inner.headerSrid? = none := rfl
  unfold headerSize memberHeaderSize
  rw [notRoot, sameFormat, unreferenced]
  cases layout.format.dialect.isNative <;> rfl

/-- The header of the root has the SRID as well, and three more bytes in the native format. -/
theorem headerSize_of_root {layout : Layout} (root : layout.isRoot = true) :
    layout.headerSize = layout.memberHeaderSize + 4 * layout.srid?.isSome.toNat +
      (if layout.format.dialect.isNative then 3 else 0) := by
  unfold headerSize headerSrid? memberHeaderSize
  rw [root]
  cases layout.format.dialect.isNative <;> cases layout.srid? <;> rfl

/-!
## Geometries
-/

/-- The number of bytes that a geometry takes after its header, its members left aside. -/
def contentSize (layout : Layout) (node : Geometry) : Nat :=
  layout.coordSize * node.ownCoords.length + 4 * node.ownCountFields

theorem sum_coordinatesSize (layout : Layout) (rings : List Ring) :
    (rings.map fun ring => 4 + layout.coordSize * ring.coords.length).sum =
      layout.coordSize * (rings.flatMap Ring.coords).length + 4 * rings.length := by
  induction rings with
  | nil => rfl
  | cons ring rest ih =>
      rw [List.map_cons, List.sum_cons, ih, List.flatMap_cons, List.length_append, List.length_cons,
        Nat.mul_add]
      omega

theorem polygonSize_eq_ok {layout : Layout} {poly : Polygon} {size : Nat}
    (measured : layout.polygonSize poly = .ok size) :
    size = layout.headerSize + layout.contentSize (.polygon poly) := by
  obtain ⟨count, counted, measured⟩ := Outcome.bind_eq_ok_iff.mp measured
  obtain ⟨sizes, each, measured⟩ := Outcome.bind_eq_ok_iff.mp measured
  cases measured
  have rings := Outcome.eq_map_of_mapM_eq_ok each fun ring _ _ found => coordinatesSize_eq_ok found
  rw [countSize_eq_ok counted, total_eq_sum, rings, sum_coordinatesSize]
  simp only [contentSize, Geometry.ownCoords, Polygon.coords, Geometry.ownCountFields]
  omega

/-- A sum over geometries of what the header, the coordinates and the counts of each take. -/
theorem sum_headers_and_contents (layout : Layout) (nodes : List Geometry) :
    (nodes.map fun node => layout.memberHeaderSize + layout.contentSize node).sum =
      layout.memberHeaderSize * nodes.length +
        layout.coordSize * (nodes.map fun node => node.ownCoords.length).sum +
          4 * (nodes.map Geometry.ownCountFields).sum := by
  induction nodes with
  | nil => rfl
  | cons node rest ih =>
      rw [List.map_cons, List.sum_cons, ih, contentSize]
      simp only [List.map_cons, List.sum_cons, List.length_cons, Nat.mul_add]
      omega

end Layout

namespace Geometry

theorem encodedSize_of_flat {geometry : Geometry} {layout : Layout} {size : Nat}
    (flat : geometry.nesting = 0) (inhabited : geometry.isEmpty = false)
    (measured : geometry.encodedSize layout = .ok size) :
    size = layout.headerSize + layout.contentSize geometry := by
  have line {line : LineString} (measured : layout.lineStringSize line = .ok size) :
      size = layout.headerSize + (layout.coordSize * line.length + 4) := by
    obtain ⟨coords, coordsMeasured, measured⟩ := Outcome.bind_eq_ok_iff.mp measured
    cases measured
    rw [Layout.coordinatesSize_eq_ok coordsMeasured, Nat.add_comm 4]
  cases geometry with
  | point pt =>
      cases measured
      -- Only the point without a coordinate takes more bytes than it holds coordinates.
      obtain ⟨_ | coord⟩ := pt
      · cases inhabited
      · simp [Layout.pointSize, Layout.contentSize, ownCoords, ownCountFields]
  | lineString held => exact line measured
  | linearRing ring => exact line measured
  | polygon poly => exact Layout.polygonSize_eq_ok measured
  | multiPoint | multiLineString | multiPolygon | collection => cases flat

theorem nodes_of_flat {geometry : Geometry} (flat : geometry.nesting = 0) :
    geometry.withoutEmpty.nodes = [geometry] := by
  cases geometry with
  | point | lineString | linearRing | polygon => rfl
  | multiPoint | multiLineString | multiPolygon | collection => cases flat

theorem contentSize_of_nested {geometry : Geometry} (nested : geometry.nesting ≠ 0)
    (layout : Layout) : layout.contentSize geometry.withoutEmpty = 4 := by
  cases geometry with
  | point | lineString | linearRing | polygon => exact absurd rfl nested
  | multiPoint | multiLineString | multiPolygon | collection => rfl

/-- A tree is measured with the header and the content of each geometry that is written. The header
of the root is in the place of that of a member. -/
theorem encodedSize_eq_sum {geometry : Geometry} {layout : Layout} {size : Nat}
    (inhabited : geometry.isEmpty = false) (measured : geometry.encodedSize layout = .ok size) :
    size + layout.memberHeaderSize = layout.headerSize + (geometry.withoutEmpty.nodes.map
      fun node => layout.memberHeaderSize + layout.contentSize node).sum := by
  induction geometry using nodeInduction generalizing layout size with
  | step geometry ih =>
      by_cases flat : geometry.nesting = 0
      · rw [encodedSize_of_flat flat inhabited measured, nodes_of_flat flat]
        simp only [List.map_cons, List.map_nil, List.sum_cons, List.sum_nil]
        omega
      · rw [encodedSize_of_nested flat] at measured
        obtain ⟨sizes, each, rfl⟩ := Layout.elementsSize_eq_ok measured
        -- A member is measured in the place of members, where its header has the usual size.
        have members : sizes = geometry.keptMembers.map fun member =>
            (member.withoutEmpty.nodes.map fun node =>
              layout.memberHeaderSize + layout.contentSize node).sum := by
          apply Outcome.eq_map_of_mapM_eq_ok each
          intro member kept found memberMeasured
          obtain ⟨belongs, memberInhabited⟩ := mem_keptMembers_iff.mp kept
          have memberSize := ih member belongs memberInhabited memberMeasured
          rw [layout.headerSize_inner] at memberSize
          exact Nat.add_left_cancel ((Nat.add_comm _ _).trans memberSize)
        have kept : geometry.withoutEmpty.members = geometry.keptMembers.map withoutEmpty :=
          geometry.members_withoutEmpty
        rw [Layout.total_eq_sum, members, sum_map_nodes, contentSize_of_nested flat, kept,
          List.map_map]
        simp only [Function.comp_def]
        omega

end Geometry

/-!
## Blobs
-/

namespace ReferencedGeometry

variable {value : ReferencedGeometry}

theorem encodedSize_of_encode {format : Format} {order : ByteOrder} {limit : Nat}
    {blob : List UInt8} (written : value.encode format order limit = .ok (some blob)) :
    value.geometry.isEmpty = false ∧
      value.geometry.encodedSize (value.rootLayout format limit) = .ok blob.length := by
  obtain ⟨_, inhabited, _, ⟨size, measured⟩, rfl⟩ := encode_eq_ok_some_iff_measured.mp written
  obtain ⟨_, width⟩ := Geometry.emission_of_encodedSize_eq_ok measured order
  rw [Emission.length_bytes, width]
  exact ⟨inhabited, measured⟩

/-- Of the format it only matters that it can be written at all. -/
theorem exists_encode_iff {format : Format} {order : ByteOrder} {limit : Nat} :
    (∃ blob, value.encode format order limit = .ok (some blob)) ↔
      format.checkWritable = .ok () ∧ value.geometry.isEmpty = false ∧
        value.geometry.anyCoord (fun coord => coord.dimension == .xym) = false ∧
        value.geometry.Countable ∧ value.geometry.withoutEmpty.nesting ≤ limit := by
  simp only [encode_eq_ok_some_iff_measured, ← value.allows_rootLayout_iff format]
  constructor
  · intro written
    obtain ⟨_, checked, inhabited, spatial, ⟨_, measured⟩, _⟩ := written
    exact ⟨checked, inhabited, spatial, Geometry.countable_of_encodedSize_eq_ok measured,
      Geometry.allows_of_encodedSize_eq_ok measured⟩
  · intro conditions
    obtain ⟨checked, inhabited, spatial, countable, allowed⟩ := conditions
    have measured := (value.geometry.encodedSize_verdict _).exists_ok countable allowed
    exact ⟨_, checked, inhabited, spatial, measured, rfl⟩

theorem length_of_encode {format : Format} {order : ByteOrder} {limit : Nat} {blob : List UInt8}
    (written : value.encode format order limit = .ok (some blob)) :
    blob.length = 8 * value.geometry.dimension.size * value.geometry.withoutEmpty.coordCount +
      4 * value.geometry.withoutEmpty.countFields +
      4 * (format.dialect.embedsSrid value.srid).toNat +
      (if format.dialect.isNative then 3 + value.geometry.withoutEmpty.nodeCount
        else 5 * value.geometry.withoutEmpty.nodeCount) := by
  obtain ⟨inhabited, measured⟩ := encodedSize_of_encode written
  have whole := Geometry.encodedSize_eq_sum inhabited measured
  have coordSize : (value.rootLayout format limit).coordSize =
      8 * value.geometry.dimension.size :=
    Nat.mul_comm _ _
  rw [Layout.headerSize_of_root rfl, Layout.sum_headers_and_contents, isSome_srid?_rootLayout,
    coordSize] at whole
  have sameFormat : (value.rootLayout format limit).format = format := rfl
  rw [Layout.memberHeaderSize, sameFormat] at whole
  simp only [Geometry.coordCount, Geometry.countFields, Geometry.nodeCount]
  cases native : format.dialect.isNative <;>
    simp only [native, Bool.false_eq_true, if_false, if_true] at whole ⊢ <;> omega

/-- The length of a blob from the tree without its empty members: eight bytes for each ordinate, four
for each count and for an SRID, and five bytes of header for each geometry, or in the native format one
for each and three before the root. The extended form, which is there whenever the native one is, is
longer by the difference of their headers. -/
theorem length_blob (value : ReferencedGeometry) :
    let kept := value.geometry.withoutEmpty
    (∀ (format : Format) (order : ByteOrder) (limit : Nat) (blob : List UInt8),
      value.encode format order limit = .ok (some blob) →
      blob.length = 8 * value.geometry.dimension.size * kept.coordCount + 4 * kept.countFields +
        4 * (format.dialect.embedsSrid value.srid).toNat +
        (if format.dialect.isNative then 3 + kept.nodeCount else 5 * kept.nodeCount)) ∧
    (∀ (version : UInt8) (order : ByteOrder) (limit : Nat),
      (∃ blob, value.encode ⟨.ewkb, version⟩ order limit = .ok (some blob)) ↔
        ∃ blob, value.encode .native order limit = .ok (some blob)) ∧
    ∀ (version : UInt8) (order nativeOrder : ByteOrder) (limit nativeLimit : Nat)
      (extended native : List UInt8),
      value.encode ⟨.ewkb, version⟩ order limit = .ok (some extended) →
      value.encode .native nativeOrder nativeLimit = .ok (some native) →
      native.length < extended.length ∧
        extended.length = native.length + (4 * kept.nodeCount - 3) := by
  intro kept
  refine ⟨fun _ _ _ _ => length_of_encode, ?_, ?_⟩
  · intro version order limit
    simp only [exists_encode_iff]
    rfl
  · intro version order nativeOrder limit nativeLimit extended native extendedWritten nativeWritten
    have extendedLength := length_of_encode extendedWritten
    have nativeLength := length_of_encode nativeWritten
    have sameSrid : Dialect.embedsSrid .ewkb value.srid =
        Dialect.embedsSrid Format.native.dialect value.srid := rfl
    have extendedHeaders : Dialect.isNative .ewkb = false := rfl
    have nativeHeaders : Format.native.dialect.isNative = true := rfl
    rw [sameSrid, extendedHeaders] at extendedLength
    rw [nativeHeaders] at nativeLength
    have someNode : 0 < value.geometry.withoutEmpty.nodeCount := kept.nodeCount_pos
    simp only [Bool.false_eq_true, if_false, if_true, kept] at extendedLength nativeLength ⊢
    omega

/-- A collection of a spatial point, a multi-point with one empty member, a polygon with a hole and an
empty line string: five geometries, six coordinates and five counts. -/
theorem length_blob_nested :
    let ring : Ring := ⟨[.xy ⟨3⟩ ⟨4⟩, .xy ⟨5⟩ ⟨4⟩, .xy ⟨3⟩ ⟨4⟩], rfl⟩
    let hole : Ring := ⟨[.xy ⟨5⟩ ⟨6⟩], rfl⟩
    let value : ReferencedGeometry := ⟨4326, .collection [.point ⟨some (.xyz ⟨1⟩ ⟨2⟩ ⟨3⟩)⟩,
      .multiPoint [.empty, ⟨some (.xy ⟨3⟩ ⟨4⟩)⟩], .polygon ⟨ring, [hole]⟩, .lineString []]⟩
    ∃ extended native, value.encode .ewkb .big 2 = .ok (some extended) ∧
      value.encode .native .little 2 = .ok (some native) ∧
      extended.length = 8 * 3 * 6 + 4 * 5 + 4 + 5 * 5 ∧
      extended.length = native.length + (4 * 5 - 3) := by
  intro ring hole value
  obtain ⟨lengths, written, longer⟩ := length_blob value
  obtain ⟨plan, planned⟩ : ∃ plan, value.plan ⟨.ewkb, 0⟩ 2 = .ok (some plan) := ⟨_, rfl⟩
  have isWritten (order : ByteOrder) := encode_of_plan planned order
  obtain ⟨native, nativeWritten⟩ := (written 0 .little 2).mp ⟨_, isWritten .little⟩
  have length := lengths _ .big 2 _ (isWritten .big)
  have difference := (longer 0 .big .little 2 2 _ native (isWritten .big) nativeWritten).2
  have coords : value.geometry.withoutEmpty.coordCount = 6 := by decide
  have nodes : value.geometry.withoutEmpty.nodeCount = 5 := by decide
  rw [coords, nodes] at length
  rw [nodes] at difference
  exact ⟨_, native, isWritten .big, nativeWritten, length, difference⟩

end ReferencedGeometry

end GeoWire
