import GeoWire.Proofs.Placement

/-!
# Outcomes of encoding

What encoding a countable tree comes to: the checks in their order, each of which alone decides for
its refusal, and otherwise a blob.
-/

set_option autoImplicit false

namespace GeoWire

/-!
## Checks
-/

theorem Coordinate.dimension_eq_xym_iff {coord : Coordinate} :
    coord.dimension = .xym ↔ coord.m?.isSome = true ∧ coord.z? = none := by
  rcases coord with ⟨x, y, _ | z, _ | m⟩ <;> simp [dimension, Dimension.ofFlags]

theorem Geometry.anyCoord_xym_iff {geometry : Geometry} :
    geometry.anyCoord (fun coord => coord.dimension == .xym) = true ↔
      ∃ coord ∈ geometry.coords, coord.m?.isSome = true ∧ coord.z? = none := by
  simp only [anyCoord_eq_any_coords, List.any_eq_true, beq_iff_eq, Coordinate.dimension_eq_xym_iff]

theorem Format.checkWritable_eq (format : Format) :
    format.checkWritable =
      if format.dialect = .nativeRaster then .error .unsupportedRaster
      else if format.dialect = .nativeVector ∧ format.version ≠ Native.version then
        .error (.unsupportedVersion format.version)
      else .ok () := by
  obtain ⟨dialect, version⟩ := format
  cases dialect <;> simp [checkWritable]

/-- Nothing but a coordinate with M and no Z is refused as such. -/
theorem ReferencedGeometry.anyCoord_xym_of_encode_eq_error {value : ReferencedGeometry}
    {format : Format} {order : ByteOrder} {limit : Nat}
    (refused : value.encode format order limit = .error .unsupportedXym) :
    value.geometry.anyCoord (fun coord => coord.dimension == .xym) = true := by
  have failed := encode_eq_error_iff.mp refused
  unfold plan at failed
  rw [Format.checkWritable_eq] at failed
  split at failed
  · cases failed
  split at failed
  · cases failed
  rw [Outcome.ok_bind] at failed
  split at failed
  · cases failed
  split at failed
  · assumption
  · rcases Outcome.bind_eq_error_iff.mp failed with unmeasured | ⟨_, _, impossible⟩
    · have verdict := value.geometry.encodedSize_verdict (value.rootLayout format limit)
      rw [unmeasured] at verdict
      cases verdict
    · cases impossible

/-!
## Levels
-/

theorem ReferencedGeometry.allows_rootLayout_iff (value : ReferencedGeometry) (format : Format)
    {limit levels : Nat} : (value.rootLayout format limit).Allows levels ↔ levels ≤ limit := by
  simp only [Layout.Allows, rootLayout]
  omega

/-- A countable tree is measured unless it has too many levels. -/
theorem Geometry.encodedSize_of_tooDeep {geometry : Geometry} (countable : geometry.Countable)
    {layout : Layout} (tooDeep : ¬ layout.Allows geometry.withoutEmpty.nesting) :
    geometry.encodedSize layout = .error (.nestingTooDeep layout.limit) := by
  cases measured : geometry.encodedSize layout with
  | error cause => rw [cause_of_encodedSize_eq_error countable measured]
  | ok size => exact absurd (allows_of_encodedSize_eq_ok measured) tooDeep

/-!
## Bytes
-/

theorem Layout.headerBytes_ne_nil (layout : Layout) (order : ByteOrder) (kind : Kind) :
    layout.headerBytes order kind ≠ [] := by
  cases native : layout.format.dialect.isNative <;> cases root : layout.isRoot <;>
    simp [headerBytes, header, native, root, kindField, Field.bytes]

theorem Geometry.bytes_ne_nil {geometry : Geometry} {layout : Layout}
    (allowed : layout.Allows geometry.withoutEmpty.nesting) (order : ByteOrder) :
    (geometry.emission layout order).bytes order ≠ [] := by
  obtain ⟨content, written, _⟩ := bytes_parallel (.refl layout) allowed allowed order
  rw [written]
  exact List.append_ne_nil_of_left_ne_nil (layout.headerBytes_ne_nil order geometry.kind) content

/-!
## Whole trees
-/

namespace ReferencedGeometry

variable {value : ReferencedGeometry}

/-- The outcome of encoding, check by check. -/
theorem encode_eq_of_countable (countable : value.geometry.Countable) (format : Format)
    (order : ByteOrder) (limit : Nat) :
    value.encode format order limit =
      if format.dialect = .nativeRaster then .error .unsupportedRaster
      else if format.dialect = .nativeVector ∧ format.version ≠ Native.version then
        .error (.unsupportedVersion format.version)
      else if value.geometry.isEmpty then .ok none
      else if ∃ coord ∈ value.geometry.coords, coord.m?.isSome = true ∧ coord.z? = none then
        .error .unsupportedXym
      else if limit < value.geometry.withoutEmpty.nesting then .error (.nestingTooDeep limit)
      else .ok (some
        ((value.geometry.emission (value.rootLayout format limit) order).bytes order)) := by
  rw [encode_eq, plan, Format.checkWritable_eq]
  split
  · rfl
  split
  · rfl
  rw [Outcome.ok_bind]
  split
  · rfl
  simp only [Geometry.anyCoord_xym_iff]
  split
  · rfl
  split
  · rename_i tooDeep
    have denied := mt (value.allows_rootLayout_iff format).mp (Nat.not_le_of_lt tooDeep)
    rw [Geometry.encodedSize_of_tooDeep countable denied]
    rfl
  · rename_i room
    have allowed := (value.allows_rootLayout_iff format).mpr (Nat.le_of_not_lt room)
    obtain ⟨size, measured⟩ :=
      (value.geometry.encodedSize_verdict _).exists_ok countable allowed
    rw [measured]
    rfl

/-- A higher limit changes nothing and a lower one refuses the tree that has more levels. -/
theorem encode_of_limit {format : Format} {order : ByteOrder} {higher : Nat} {blob : List UInt8}
    (written : value.encode format order higher = .ok (some blob)) (limit : Nat) :
    value.encode format order limit =
      if limit < value.geometry.withoutEmpty.nesting then .error (.nestingTooDeep limit)
      else .ok (some blob) := by
  obtain ⟨checked, inhabited, spatial, ⟨_, measured⟩, rfl⟩ :=
    encode_eq_ok_some_iff_measured.mp written
  have countable := Geometry.countable_of_encodedSize_eq_ok measured
  have higherAllowed := Geometry.allows_of_encodedSize_eq_ok measured
  split
  · rename_i tooDeep
    have denied := mt (value.allows_rootLayout_iff format).mp (Nat.not_le_of_lt tooDeep)
    rw [encode_eq_error_iff]
    unfold plan
    simp only [checked, inhabited, spatial, Geometry.encodedSize_of_tooDeep countable denied]
    rfl
  · rename_i room
    have allowed := (value.allows_rootLayout_iff format).mpr (Nat.le_of_not_lt room)
    obtain ⟨size, sized⟩ := (value.geometry.encodedSize_verdict _).exists_ok countable allowed
    have parallel : (value.rootLayout format limit).Parallel (value.rootLayout format higher) :=
      ⟨rfl, rfl⟩
    rw [encode_of_measured checked inhabited spatial sized order,
      Geometry.emission_congr parallel allowed higherAllowed rfl]

theorem encode_eq_of_version (countable : value.geometry.Countable) {format : Format}
    (standard : format.dialect.isNative = false) (version : UInt8) (order : ByteOrder)
    (limit : Nat) :
    value.encode ⟨format.dialect, version⟩ order limit = value.encode format order limit := by
  have notVector : format.dialect ≠ .nativeVector := by
    intro native
    rw [native] at standard
    cases standard
  rw [encode_eq_of_countable countable, encode_eq_of_countable countable]
  simp only [notVector, false_and, if_false]
  by_cases tooDeep : limit < value.geometry.withoutEmpty.nesting
  · simp only [if_pos tooDeep]
  · have parallel : (value.rootLayout ⟨format.dialect, version⟩ limit).Parallel
        (value.rootLayout format limit) :=
      ⟨rfl, rfl⟩
    have room := Nat.le_of_not_lt tooDeep
    rw [Geometry.emission_congr parallel ((value.allows_rootLayout_iff _).mpr room)
      ((value.allows_rootLayout_iff _).mpr room) (parallel.header_eq standard rfl order _)]

/-- What encoding a countable tree comes to. The checks come in this order, and only the levels of
members that are not empty count, as `Geometry.nesting_withoutEmpty_collection` says of collections.
No version but that of a native format is looked at. -/
theorem encode_outcome (countable : value.geometry.Countable) (format : Format) (order : ByteOrder)
    (limit : Nat) :
    (∃ blob, blob ≠ [] ∧ value.encode format order limit =
      if format.dialect = .nativeRaster then .error .unsupportedRaster
      else if format.dialect = .nativeVector ∧ format.version ≠ Native.version then
        .error (.unsupportedVersion format.version)
      else if value.geometry.isEmpty then .ok none
      else if ∃ coord ∈ value.geometry.coords, coord.m?.isSome = true ∧ coord.z? = none then
        .error .unsupportedXym
      else if limit < value.geometry.withoutEmpty.nesting then .error (.nestingTooDeep limit)
      else .ok (some blob)) ∧
    (format.dialect.isNative = false → ∀ version,
      value.encode ⟨format.dialect, version⟩ order limit = value.encode format order limit) := by
  refine ⟨?_, fun standard version => encode_eq_of_version countable standard version order limit⟩
  rw [encode_eq_of_countable countable]
  by_cases tooDeep : limit < value.geometry.withoutEmpty.nesting
  · refine ⟨[0], List.cons_ne_nil _ _, ?_⟩
    simp only [if_pos tooDeep]
  · have allowed := (value.allows_rootLayout_iff format).mpr (Nat.le_of_not_lt tooDeep)
    exact ⟨_, Geometry.bytes_ne_nil allowed order, rfl⟩

/-- A collection of a multi-point with one empty member and of an empty collection that is nested
deeper. It has two levels. -/
theorem encode_outcome_emptyMembers :
    let deep : Geometry := .collection [.collection [.collection [.lineString []]]]
    let geometry : Geometry :=
      .collection [deep, .multiPoint [.empty, ⟨some (.xyz ⟨1⟩ ⟨2⟩ ⟨3⟩)⟩]]
    let value : ReferencedGeometry := ⟨4326, geometry⟩
    (∃ blob, blob ≠ [] ∧ value.encode .ewkb .big 2 = .ok (some blob) ∧
      ∀ version, value.encode ⟨.ewkb, version⟩ .big 2 = .ok (some blob)) ∧
    value.encode .ewkb .big 1 = .error (.nestingTooDeep 1) ∧
    value.encode ⟨.nativeVector, 1⟩ .big 2 = .error (.unsupportedVersion 1) := by
  intro deep geometry value
  have measured : value.geometry.encodedSize (value.rootLayout .ewkb 2) = .ok 51 := rfl
  have countable := Geometry.countable_of_encodedSize_eq_ok measured
  obtain ⟨⟨blob, inhabited, written⟩, sameVersions⟩ := encode_outcome countable .ewkb .big 2
  obtain ⟨⟨_, _, tooDeep⟩, _⟩ := encode_outcome countable .ewkb .big 1
  obtain ⟨⟨_, _, unsupported⟩, _⟩ := encode_outcome countable ⟨.nativeVector, 1⟩ .big 2
  exact ⟨⟨blob, inhabited, written, fun version => (sameVersions rfl version).trans written⟩,
    tooDeep, unsupported⟩

end ReferencedGeometry

end GeoWire
