import GeoWire.Encode.Plan
import GeoWire.Proofs.EmissionOutcome
import GeoWire.Proofs.Measurement
import GeoWire.Proofs.Outcome

/-!
# Agreement of the two passes

The fields of a countable tree come to exactly what measuring it gives, so that a buffer of the
measured length is filled and every measured failure is met again by writing.
-/

set_option autoImplicit false

namespace GeoWire

namespace Layout

/-!
## Parts of a tree
-/

theorem outcome_header (layout : Layout) (order : ByteOrder) (kind : Kind) :
    (Emission.ofFields (layout.header order kind)).outcome = .ok layout.headerSize := by
  rw [Emission.outcome_ofFields]
  cases native : layout.format.dialect.isNative <;> cases root : layout.isRoot <;>
    cases srid : layout.headerSrid? <;>
    simp [header, headerSize, native, root, srid, sridFields, kindField, FieldType.width, total]

theorem widths_coordinate (layout : Layout) (coord : Coordinate) :
    total ((layout.coordinate coord).map fun field => field.type.width) = layout.coordSize := by
  rw [coordinate, coordSize]
  cases layout.dimension <;>
    simp [Coordinate.ordinates, Dimension.hasZ, Dimension.hasM, Dimension.size, FieldType.width,
      total]

theorem outcome_count (items : Nat) : (count items).outcome = countSize items := by
  unfold count countSize
  split <;> rfl

theorem outcome_coordinates (layout : Layout) (line : LineString) :
    (layout.coordinates line).outcome = layout.coordinatesSize line := by
  have widths : total ((line.flatMap layout.coordinate).map fun field => field.type.width) =
      line.length * layout.coordSize := by
    induction line with
    | nil => simp [total]
    | cons coord rest ih =>
        rw [List.flatMap_cons, List.map_append, total_append, widths_coordinate, ih,
          List.length_cons, Nat.succ_mul, Nat.add_comm]
  rw [coordinates, Emission.outcome_append, outcome_count, Emission.outcome_ofFields, widths]
  rfl

theorem outcome_point (layout : Layout) (order : ByteOrder) (pt : Point) :
    (layout.point order pt).outcome = .ok layout.pointSize := by
  have header := layout.outcome_header order .point
  rw [Emission.outcome_ofFields, Except.ok.injEq] at header
  rw [point, Emission.outcome_ofFields, List.map_append, total_append, header,
    widths_coordinate]
  rfl

theorem outcome_lineString (layout : Layout) (order : ByteOrder) (line : LineString) :
    (layout.lineString order line).outcome = layout.lineStringSize line := by
  rw [lineString, Emission.outcome_append, outcome_header, outcome_coordinates]
  rfl

theorem outcome_polygon (layout : Layout) (order : ByteOrder) (poly : Polygon) :
    (layout.polygon order poly).outcome = layout.polygonSize poly := by
  have rings := Emission.outcome_concat fun ring (_ : ring ∈ poly.rings) =>
    layout.outcome_coordinates ring.coords
  rw [polygon, Emission.outcome_append, Emission.outcome_append, outcome_header, outcome_count, rings]
  simp [polygonSize]

theorem outcome_elements {α : Type} (layout : Layout) (order : ByteOrder) (kind : Kind)
    {element : Layout → ByteOrder → α → Emission}
    {elementSize : Layout → α → Except EncodeError Nat} {items : List α}
    (countable : items.length < UInt32.size)
    (each : ∀ item ∈ items, ∀ member : Layout,
      (element member order item).outcome = elementSize member item) :
    (layout.elements order kind element items).outcome =
      layout.elementsSize elementSize items := by
  unfold elements elementsSize
  cases layout.member with
  | error cause => rfl
  | ok member =>
      have counted : countSize items.length = .ok 4 := if_pos countable
      have members := Emission.outcome_concat fun item belongs => each item belongs member
      simp only
      rw [Emission.outcome_append, Emission.outcome_append, outcome_header, outcome_count, counted,
        members]
      cases measured : items.mapM (elementSize member) with
      | error cause => simp [measured]
      | ok sizes =>
          simp only [Outcome.ok_bind, Outcome.map_ok, measured]
          rfl

end Layout

/-!
## Whole trees
-/

namespace Geometry

theorem outcome_emission {geometry : Geometry} (countable : geometry.Countable) (layout : Layout)
    (order : ByteOrder) : (geometry.emission layout order).outcome = geometry.encodedSize layout := by
  induction geometry generalizing layout with
  | point pt => exact layout.outcome_point order pt
  | lineString line => exact layout.outcome_lineString order line
  | linearRing ring => exact layout.outcome_lineString order ring.coords
  | polygon poly => exact layout.outcome_polygon order poly
  | multiPoint points =>
      cases countable with
      | multiPoint fits =>
          rw [encodedSize_multiPoint]
          exact layout.outcome_elements order .multiPoint fits fun pt _ member =>
            member.outcome_point order pt
  | multiLineString lines =>
      cases countable with
      | multiLineString fits _ =>
          exact layout.outcome_elements order .multiLineString fits fun line _ member =>
            member.outcome_lineString order line
  | multiPolygon polygons =>
      cases countable with
      | multiPolygon fits _ =>
          exact layout.outcome_elements order .multiPolygon fits fun poly _ member =>
            member.outcome_polygon order poly
  | collection members ih =>
      cases countable with
      | collection fits each =>
          rw [emission_collection, encodedSize_collection]
          apply layout.outcome_elements order .collection fits
          intro inner belongs member
          exact ih inner (List.mem_filter.mp belongs).1 (each inner belongs) member

theorem countable_of_encodedSize_eq_ok {geometry : Geometry} {layout : Layout} {size : Nat}
    (measured : geometry.encodedSize layout = .ok size) : geometry.Countable := by
  have verdict := geometry.encodedSize_verdict layout
  rw [measured] at verdict
  cases verdict with
  | measured countable _ => exact countable

theorem allows_of_encodedSize_eq_ok {geometry : Geometry} {layout : Layout} {size : Nat}
    (measured : geometry.encodedSize layout = .ok size) :
    layout.Allows geometry.withoutEmpty.nesting := by
  have verdict := geometry.encodedSize_verdict layout
  rw [measured] at verdict
  cases verdict with
  | measured _ allowed => exact allowed

theorem emission_of_encodedSize_eq_ok {geometry : Geometry} {layout : Layout} {size : Nat}
    (measured : geometry.encodedSize layout = .ok size) (order : ByteOrder) :
    (geometry.emission layout order).ending = .ok () ∧
      (geometry.emission layout order).width = size := by
  have countable := countable_of_encodedSize_eq_ok measured
  have outcome := outcome_emission countable layout order
  rw [measured, Emission.outcome_eq] at outcome
  cases ended : (geometry.emission layout order).ending with
  | error cause =>
      rw [ended] at outcome
      cases outcome
  | ok done =>
      rw [ended] at outcome
      cases outcome
      exact ⟨rfl, rfl⟩

theorem emission_of_encodedSize_eq_error {geometry : Geometry} {layout : Layout}
    {cause : EncodeError} (countable : geometry.Countable)
    (failed : geometry.encodedSize layout = .error cause) (order : ByteOrder) :
    (geometry.emission layout order).ending = .error cause := by
  have outcome := outcome_emission countable layout order
  rw [failed, Emission.outcome_eq] at outcome
  cases ended : (geometry.emission layout order).ending with
  | error other =>
      rw [ended] at outcome
      cases outcome
      rfl
  | ok done =>
      rw [ended] at outcome
      cases outcome

/-- On a countable tree measuring can only fail because of the levels. -/
theorem cause_of_encodedSize_eq_error {geometry : Geometry} {layout : Layout}
    {cause : EncodeError} (countable : geometry.Countable)
    (failed : geometry.encodedSize layout = .error cause) :
    cause = .nestingTooDeep layout.limit := by
  have verdict := geometry.encodedSize_verdict layout
  rw [failed] at verdict
  cases verdict with
  | tooDeep _ => rfl
  | overflow uncountable => exact absurd countable uncountable

end Geometry

/-!
## Writing into a buffer
-/

theorem Emission.run_advances {emission : Emission} {writer : Writer}
    (fits : emission.width ≤ writer.remaining) :
    (emission.run writer).1 = emission.ending ∧
      Writer.Advances emission.width writer (emission.run writer).2 := by
  rw [Emission.run_eq, if_pos fits]
  refine ⟨rfl, ?_⟩
  have width := emission.length_bytes writer.order
  rw [← width] at fits
  rw [← width]
  exact Writer.advances_overwrite fits

/-- A buffer of just the right length is filled by the bytes of the emission. -/
theorem Emission.contents_run_zeroed (emission : Emission) (order : ByteOrder) :
    (emission.run (.zeroed emission.width order)).2.contents = emission.bytes order := by
  have width := emission.length_bytes order
  rw [Emission.run_eq]
  change (Tape.overwrite (emission.bytes order) (.ofBytes (.replicate emission.width 0))).contents = _
  rw [Tape.overwrite_eq, Tape.contents]
  simp [Tape.ofBytes, Tape.remaining, width, List.take_of_length_le (Nat.le_of_eq width)]

theorem Plan.write_eq {plan : Plan} {geometry : Geometry}
    (measured : geometry.encodedSize plan.layout = .ok plan.size) (order : ByteOrder) :
    plan.write order geometry = .ok ((geometry.emission plan.layout order).bytes order) := by
  obtain ⟨ending, width⟩ := Geometry.emission_of_encodedSize_eq_ok measured order
  have filled := (geometry.emission plan.layout order).contents_run_zeroed order
  rw [width] at filled
  have fits : (geometry.emission plan.layout order).width ≤
      (Writer.zeroed plan.size order).remaining := by
    rw [width]
    simp [Writer.remaining, Writer.zeroed, Tape.ofBytes, Tape.remaining]
  obtain ⟨ended, advanced⟩ := Emission.run_advances fits
  rw [ending] at ended
  rw [width] at advanced
  have position : (Writer.zeroed plan.size order).position = 0 := rfl
  have capacity : (Writer.zeroed plan.size order).capacity = plan.size := by
    simp [Writer.capacity, Writer.zeroed, Tape.ofBytes, Tape.contents]
  unfold Plan.write
  cases ran : (geometry.emission plan.layout order).run (.zeroed plan.size order) with
  | mk result filledWriter =>
      rw [ran] at ended advanced filled
      cases ended
      have atEnd : filledWriter.position = plan.size ∧ filledWriter.capacity = plan.size :=
        ⟨by rw [advanced.position, position, Nat.zero_add], advanced.capacity.trans capacity⟩
      simp only [Writer.finish, if_pos atEnd, filled]

namespace ReferencedGeometry

theorem plan_eq_ok_some {format : Format} {limit : Nat} {value : ReferencedGeometry} {plan : Plan}
    (planned : value.plan format limit = .ok (some plan)) :
    format.checkWritable = .ok () ∧ value.geometry.isEmpty = false ∧
      value.geometry.anyCoord (fun coord => coord.dimension == .xym) = false ∧
      plan.layout = value.rootLayout format limit ∧
      value.geometry.encodedSize plan.layout = .ok plan.size := by
  obtain ⟨_, writable, planned⟩ := Outcome.bind_eq_ok_iff.mp planned
  split at planned
  · cases planned
  · rename_i inhabited
    split at planned
    · cases planned
    · rename_i spatial
      obtain ⟨size, measured, planned⟩ := Outcome.bind_eq_ok_iff.mp planned
      cases planned
      exact ⟨writable, Bool.eq_false_iff.mpr inhabited, Bool.eq_false_iff.mpr spatial, rfl, measured⟩

/-- Encoding puts the bytes of the whole emission and nothing else, and it fails only as planning
does. -/
theorem encode_eq (format : Format) (order : ByteOrder) (limit : Nat) (value : ReferencedGeometry) :
    value.encode format order limit = (value.plan format limit).map (Option.map fun plan =>
      (value.geometry.emission plan.layout order).bytes order) := by
  unfold encode
  cases planned : value.plan format limit with
  | error cause => rfl
  | ok plan? =>
      cases plan? with
      | none => rfl
      | some plan =>
          obtain ⟨_, _, _, _, measured⟩ := plan_eq_ok_some planned
          rw [Outcome.ok_bind]
          simp only [Plan.write_eq measured]
          rfl

theorem cause_of_plan_eq_error {format : Format} {limit : Nat} {value : ReferencedGeometry}
    {cause : EncodeError} (failed : value.plan format limit = .error cause) :
    cause = .unsupportedRaster ∨ cause = .unsupportedVersion format.version ∨
      cause = .unsupportedXym ∨ cause = .nestingTooDeep limit ∨
      ∃ count, cause = .countOverflow count := by
  rcases Outcome.bind_eq_error_iff.mp failed with refused | ⟨_, _, failed⟩
  · unfold Format.checkWritable at refused
    split at refused
    · cases refused
      exact .inl rfl
    · split at refused
      · cases refused
      · cases refused
        exact .inr (.inl rfl)
    · cases refused
    · cases refused
  · split at failed
    · cases failed
    · split at failed
      · cases failed
        exact .inr (.inr (.inl rfl))
      · rcases Outcome.bind_eq_error_iff.mp failed with unmeasured | ⟨_, _, impossible⟩
        · have verdict := value.geometry.encodedSize_verdict (value.rootLayout format limit)
          rw [unmeasured] at verdict
          cases verdict with
          | tooDeep _ => exact .inr (.inr (.inr (.inl rfl)))
          | overflow _ => exact .inr (.inr (.inr (.inr ⟨_, rfl⟩)))
        · cases impossible

theorem encode_eq_ok_some_iff {format : Format} {order : ByteOrder} {limit : Nat}
    {value : ReferencedGeometry} {blob : List UInt8} :
    value.encode format order limit = .ok (some blob) ↔
      ∃ plan, value.plan format limit = .ok (some plan) ∧
        (value.geometry.emission plan.layout order).bytes order = blob := by
  rw [encode_eq]
  cases value.plan format limit with
  | error cause => simp [Except.map]
  | ok plan? => simp [Except.map]

theorem encode_of_plan {format : Format} {limit : Nat} {value : ReferencedGeometry} {plan : Plan}
    (planned : value.plan format limit = .ok (some plan)) (order : ByteOrder) :
    value.encode format order limit =
      .ok (some ((value.geometry.emission plan.layout order).bytes order)) :=
  encode_eq_ok_some_iff.mpr ⟨plan, planned, rfl⟩

/-- A tree that is neither empty nor refused is written once it is measured. -/
theorem encode_of_measured {format : Format} {limit : Nat} {value : ReferencedGeometry} {size : Nat}
    (checked : format.checkWritable = .ok ()) (inhabited : value.geometry.isEmpty = false)
    (spatial : value.geometry.anyCoord (fun coord => coord.dimension == .xym) = false)
    (measured : value.geometry.encodedSize (value.rootLayout format limit) = .ok size)
    (order : ByteOrder) :
    value.encode format order limit =
      .ok (some ((value.geometry.emission (value.rootLayout format limit) order).bytes order)) := by
  have planned :
      value.plan format limit = .ok (some ⟨value.rootLayout format limit, size⟩) := by
    unfold plan
    simp only [checked, inhabited, spatial, measured]
    rfl
  exact encode_of_plan planned order

/-- When a tree is written, and the bytes that are written. -/
theorem encode_eq_ok_some_iff_measured {format : Format} {order : ByteOrder} {limit : Nat}
    {value : ReferencedGeometry} {blob : List UInt8} :
    value.encode format order limit = .ok (some blob) ↔
      format.checkWritable = .ok () ∧ value.geometry.isEmpty = false ∧
        value.geometry.anyCoord (fun coord => coord.dimension == .xym) = false ∧
        (∃ size, value.geometry.encodedSize (value.rootLayout format limit) = .ok size) ∧
        blob = (value.geometry.emission (value.rootLayout format limit) order).bytes order := by
  constructor
  · intro written
    obtain ⟨plan, planned, rfl⟩ := encode_eq_ok_some_iff.mp written
    obtain ⟨checked, inhabited, spatial, sameLayout, measured⟩ := plan_eq_ok_some planned
    rw [sameLayout] at measured ⊢
    exact ⟨checked, inhabited, spatial, ⟨_, measured⟩, rfl⟩
  · intro parts
    obtain ⟨checked, inhabited, spatial, ⟨size, measured⟩, rfl⟩ := parts
    exact encode_of_measured checked inhabited spatial measured order

theorem encode_eq_error_iff {format : Format} {order : ByteOrder} {limit : Nat}
    {value : ReferencedGeometry} {cause : EncodeError} :
    value.encode format order limit = .error cause ↔ value.plan format limit = .error cause := by
  rw [encode_eq]
  cases value.plan format limit with
  | error cause => simp [Except.map]
  | ok plan? => simp [Except.map]

end ReferencedGeometry

/-!
## The two passes
-/

/-- Measuring and writing agree: a measured tree is written into any buffer with room for it and
touches nothing else, a countable tree that is too deep is refused by both, and so no encoding fails
for a reason that only writing could have. -/
theorem encodedSize_agrees_with_run :
    (∀ (geometry : Geometry) (layout : Layout) (size : Nat),
      geometry.encodedSize layout = .ok size →
      ∀ (order : ByteOrder) (writer : Writer), size ≤ writer.remaining →
        ((geometry.emission layout order).run writer).1 = .ok () ∧
          Writer.Advances size writer ((geometry.emission layout order).run writer).2) ∧
    (∀ (geometry : Geometry) (layout : Layout) (cause : EncodeError), geometry.Countable →
      geometry.encodedSize layout = .error cause →
      cause = .nestingTooDeep layout.limit ∧
        ∀ (order : ByteOrder) (writer : Writer),
          ((geometry.emission layout order).run writer).1 =
            if (geometry.emission layout order).width ≤ writer.remaining then
              .error (.nestingTooDeep layout.limit)
            else .error .bufferFull) ∧
    ∀ (value : ReferencedGeometry) (format : Format) (order : ByteOrder) (limit : Nat),
      (∀ expected written,
        value.encode format order limit ≠ .error (.sizeMismatch expected written)) ∧
      value.encode format order limit ≠ .error .bufferFull ∧
      ∀ blob, value.encode format order limit = .ok (some blob) →
        value.geometry.encodedSize (value.rootLayout format limit) = .ok blob.length := by
  refine ⟨?_, ?_, ?_⟩
  · intro geometry layout size measured order writer fits
    obtain ⟨ending, width⟩ := Geometry.emission_of_encodedSize_eq_ok measured order
    rw [← width] at fits ⊢
    rw [← ending]
    exact Emission.run_advances fits
  · intro geometry layout cause countable failed
    have tooDeep := Geometry.cause_of_encodedSize_eq_error countable failed
    refine ⟨tooDeep, ?_⟩
    intro order writer
    have ending := Geometry.emission_of_encodedSize_eq_error countable failed order
    rw [Emission.run_eq, ending, tooDeep]
  · intro value format order limit
    have refusals {cause : EncodeError}
        (failed : value.encode format order limit = .error cause) :=
      ReferencedGeometry.cause_of_plan_eq_error (ReferencedGeometry.encode_eq_error_iff.mp failed)
    refine ⟨?_, ?_, ?_⟩
    · intro expected written mismatch
      simpa using refusals mismatch
    · intro full
      simpa using refusals full
    · intro blob written
      obtain ⟨plan, planned, rfl⟩ := ReferencedGeometry.encode_eq_ok_some_iff.mp written
      obtain ⟨_, _, _, sameLayout, measured⟩ := ReferencedGeometry.plan_eq_ok_some planned
      obtain ⟨_, width⟩ := Geometry.emission_of_encodedSize_eq_ok measured order
      rw [Emission.length_bytes, width, ← sameLayout]
      exact measured

/-- A collection of a multi-point with one empty member and an empty line string, in a buffer with
more room than it takes, and refused where only one level is allowed. -/
theorem encodedSize_agrees_with_run_nested :
    let geometry : Geometry :=
      .collection [.multiPoint [.empty, ⟨some (.xy ⟨0⟩ ⟨0⟩)⟩], .lineString []]
    let layout (limit : Nat) : Layout := ⟨.ewkb, .xy, some 4326, 0, limit⟩
    let writer : Writer := ⟨⟨[7], .replicate 45 7⟩, .big⟩
    ((geometry.emission (layout 2) .big).run writer).1 = .ok () ∧
      Writer.Advances 43 writer ((geometry.emission (layout 2) .big).run writer).2 ∧
      ((geometry.emission (layout 1) .big).run writer).1 = .error (.nestingTooDeep 1) ∧
      ∃ blob, ReferencedGeometry.encode .ewkb .big 2 ⟨4326, geometry⟩ = .ok (some blob) ∧
        geometry.encodedSize (layout 2) = .ok blob.length := by
  intro geometry layout writer
  obtain ⟨writes, refuses, encodes⟩ := encodedSize_agrees_with_run
  have measured : geometry.encodedSize (layout 2) = .ok 43 := rfl
  have countable := Geometry.countable_of_encodedSize_eq_ok measured
  obtain ⟨written, advanced⟩ := writes geometry (layout 2) 43 measured .big writer (by decide)
  obtain ⟨_, refused⟩ := refuses geometry (layout 1) _ countable rfl
  obtain ⟨_, _, sized⟩ := encodes ⟨4326, geometry⟩ .ewkb .big 2
  have rootLayout : ReferencedGeometry.rootLayout .ewkb 2 ⟨4326, geometry⟩ = layout 2 := rfl
  rw [rootLayout] at sized
  have tooDeep :
      ((geometry.emission (layout 1) .big).run writer).1 = .error (.nestingTooDeep 1) := by
    rw [refused .big writer]
    rfl
  have planned : ReferencedGeometry.plan .ewkb 2 ⟨4326, geometry⟩ = .ok (some ⟨layout 2, 43⟩) := rfl
  have encoded :=
    ReferencedGeometry.encode_eq_ok_some_iff.mpr ⟨_, planned, Eq.refl (Emission.bytes .big _)⟩
  exact ⟨written, advanced, tooDeep, _, encoded, sized _ encoded⟩

end GeoWire
