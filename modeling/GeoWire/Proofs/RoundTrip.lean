import GeoWire.Proofs.AcceptedBlobs
import GeoWire.Proofs.PassAgreement
import GeoWire.Proofs.Spelling
import GeoWire.Proofs.TreeCoordinates

/-!
# Round trip

A blob that was written is a blob of the grammar, so that it is read back, under the same limit, as
the normal form of the tree.
-/

set_option autoImplicit false

namespace GeoWire

open Grammar

theorem Geometry.nesting_conform (geometry : Geometry) (dimension : Dimension) :
    (geometry.conform dimension).nesting = geometry.nesting := by
  induction geometry with
  | collection members ih =>
      rw [conform, nesting, nesting, conformAll_eq]
      apply congrArg (· + 1)
      induction members with
      | nil => rfl
      | cons member rest others =>
          obtain ⟨first, remaining⟩ := List.forall_mem_cons.mp ih
          rw [List.map_cons, nestingOf, nestingOf, first, others remaining]
  | _ => rfl

theorem Geometry.nesting_normal_le {geometry : Geometry} {layout : Layout} {size : Nat}
    (measured : geometry.encodedSize layout = .ok size) (root : layout.depth = 0) :
    geometry.normal.nesting ≤ layout.limit := by
  rw [normal, nesting_conform]
  rcases allows_of_encodedSize_eq_ok measured with flat | room
  · rw [flat]
    exact Nat.zero_le _
  · rwa [root, Nat.zero_add] at room

theorem Dialect.getD_embedded (dialect : Dialect) (srid : Int32) :
    (if dialect.embedsSrid srid then some srid else none).getD ReferencedGeometry.noSrid =
      if dialect.holdsSrid then srid else ReferencedGeometry.noSrid := by
  unfold embedsSrid
  cases dialect.holdsSrid with
  | false => rfl
  | true =>
      by_cases unreferenced : srid = ReferencedGeometry.noSrid
      · simp [unreferenced]
      · simp [unreferenced]

theorem Format.version_of_checkWritable {format : Format} (checked : format.checkWritable = .ok ())
    (native : format.dialect.isNative = true) : format.version = Native.version := by
  unfold checkWritable at checked
  split at checked
  · cases checked
  · split at checked
    · assumption
    · cases checked
  · rename_i dialect
    rw [dialect] at native
    cases native
  · rename_i dialect
    rw [dialect] at native
    cases native

/-- A root that is written in a writable format is a blob of the grammar. -/
theorem Layout.Writes.blob {layout : Layout} {order : ByteOrder} {geometry : Geometry}
    {bytes : List UInt8} (writes : layout.Writes order geometry bytes)
    (checked : layout.format.checkWritable = .ok ()) (writable : layout.dimension ≠ .xym)
    (root : layout.isRoot = true) :
    StandardBlob ⟨layout.srid?.getD ReferencedGeometry.noSrid, geometry⟩ bytes ∨
      NativeBlob ⟨layout.srid?.getD ReferencedGeometry.noSrid, geometry⟩ bytes := by
  obtain ⟨body, spelled, rfl⟩ := writes
  have srid : layout.headerSrid? = layout.srid? := by simp [headerSrid?, root]
  cases native : layout.format.dialect.isNative with
  | false =>
      have header := layout.standardHeader_headerBytes writable native geometry.kind order
      rw [srid] at header
      rw [native] at spelled
      exact .inl (.root header spelled)
  | true =>
      have version := Format.version_of_checkWritable checked native
      have header := layout.nativeHeader_headerBytes writable native root version geometry.kind order
      rw [srid] at header
      rw [native] at spelled
      exact .inr (header.blob spelled)

theorem ReferencedGeometry.writes_of_encode {format : Format} {order : ByteOrder} {limit : Nat}
    {value : ReferencedGeometry} {blob : List UInt8}
    (written : value.encode format order limit = .ok (some blob)) :
    format.checkWritable = .ok () ∧ value.geometry.dimension ≠ .xym ∧
      value.geometry.normal.nesting ≤ limit ∧
      (value.rootLayout format limit).Writes order value.geometry.normal blob := by
  obtain ⟨checked, inhabited, spatial, ⟨size, measured⟩, rfl⟩ :=
    encode_eq_ok_some_iff_measured.mp written
  have writable : value.geometry.dimension ≠ .xym := Geometry.dimension_ne_xym spatial
  obtain ⟨ended, _⟩ := Geometry.emission_of_encodedSize_eq_ok measured order
  exact ⟨checked, writable, Geometry.nesting_normal_le measured rfl,
    Geometry.emission_yields writable inhabited (Emission.yields_bytes ended)⟩

/-- What was written is read back under the same limit: the tree without its empty members, in one
dimension and without linear rings, and the SRID if the dialect holds one. -/
theorem readGeometry_encode {format : Format} {order : ByteOrder} {limit : Nat}
    {value : ReferencedGeometry} {blob : List UInt8}
    (written : value.encode format order limit = .ok (some blob)) :
    ((Reader.ofBytes blob).readGeometry limit).1 = .ok
      ⟨if format.dialect.holdsSrid then value.srid else ReferencedGeometry.noSrid,
        value.geometry.normal⟩ := by
  obtain ⟨plan, planned, rfl⟩ := ReferencedGeometry.encode_eq_ok_some_iff.mp written
  obtain ⟨checked, inhabited, spatial, sameLayout, measured⟩ :=
    ReferencedGeometry.plan_eq_ok_some planned
  rw [sameLayout] at measured ⊢
  have writable : value.geometry.dimension ≠ .xym := Geometry.dimension_ne_xym spatial
  obtain ⟨ended, _⟩ := Geometry.emission_of_encodedSize_eq_ok measured order
  have writes := Geometry.emission_yields writable inhabited (Emission.yields_bytes ended)
  have spelled := writes.blob checked writable rfl
  have bounded := Geometry.nesting_normal_le measured rfl
  rw [Reader.readGeometry_eq_ok_iff, ← format.dialect.getD_embedded value.srid]
  exact ⟨spelled, bounded⟩

/-- A collection of a spatial point with a NaN payload, an empty multi-point and a planar ring. -/
theorem readGeometry_encode_mixedDimensions :
    let pt : Geometry := .point ⟨some (.xyz ⟨1⟩ ⟨2⟩ ⟨0x7ff8000000000001⟩)⟩
    let ring : Ring := ⟨[.xy ⟨3⟩ ⟨4⟩, .xy ⟨3⟩ ⟨4⟩], rfl⟩
    let corner : Coordinate := .xyz ⟨3⟩ ⟨4⟩ ⟨0x7ff8000000000000⟩
    let value : ReferencedGeometry :=
      ⟨4326, .collection [pt, .multiPoint [.empty], .linearRing ring]⟩
    ∃ blob, value.encode .ewkb .big 1 = .ok (some blob) ∧
      ((Reader.ofBytes blob).readGeometry 1).1 =
        .ok ⟨4326, .collection [pt, .lineString [corner, corner]]⟩ := by
  intro pt ring corner value
  have planned : value.plan .ewkb 1 = .ok (some ⟨value.rootLayout .ewkb 1, 99⟩) := rfl
  have encoded :=
    ReferencedGeometry.encode_eq_ok_some_iff.mpr ⟨_, planned, Eq.refl (Emission.bytes .big _)⟩
  exact ⟨_, encoded, readGeometry_encode encoded⟩

end GeoWire
