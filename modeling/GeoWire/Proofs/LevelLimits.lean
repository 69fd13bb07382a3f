import GeoWire.Proofs.EncodingOutcome
import GeoWire.Proofs.Refusals
import GeoWire.Proofs.RoundTrip

/-!
# Limits of levels

A limit only stops what has too many levels: whatever is not stopped comes out the same under any
higher limit, and a blob is stopped under the limits under which the tree it was written from is.
-/

set_option autoImplicit false

namespace GeoWire

namespace Decoder

variable {α β : Type}

/-- The first decoder does the same as the second, except that it may stop for the limit. -/
inductive GatedBy (limit : Nat) : Decoder α → Decoder α → Prop where
  | gate {further : Decoder α} : GatedBy limit (.fail (.nestingTooDeep limit)) further
  | done {value : α} : GatedBy limit (.done value) (.done value)
  | fail {cause : DecodeError} : GatedBy limit (.fail cause) (.fail cause)
  | readField {type : FieldType} {next further : type.Value → Decoder α} :
      (∀ value, GatedBy limit (next value) (further value)) →
      GatedBy limit (.readField type next) (.readField type further)
  | readCount {itemSize : Nat} {next further : Nat → Decoder α} :
      (∀ items, GatedBy limit (next items) (further items)) →
      GatedBy limit (.readCount itemSize next) (.readCount itemSize further)
  | switchOrder {order : ByteOrder} {next further : Decoder α} :
      GatedBy limit next further →
      GatedBy limit (.switchOrder order next) (.switchOrder order further)

variable {limit : Nat}

@[refl] theorem GatedBy.refl (decoder : Decoder α) : GatedBy limit decoder decoder := by
  induction decoder with
  | done => exact .done
  | fail => exact .fail
  | readField _ _ ih => exact .readField ih
  | readCount _ _ ih => exact .readCount ih
  | switchOrder _ _ ih => exact .switchOrder ih

theorem GatedBy.bind {first ungated : Decoder α} {next further : α → Decoder β}
    (gated : GatedBy limit first ungated)
    (later : ∀ value, GatedBy limit (next value) (further value)) :
    GatedBy limit (first >>= next) (ungated >>= further) := by
  change GatedBy limit (first.andThen next) (ungated.andThen further)
  induction gated with
  | gate => exact .gate
  | done => exact later _
  | fail => exact .fail
  | readField _ ih => exact .readField ih
  | readCount _ ih => exact .readCount ih
  | switchOrder _ ih => exact .switchOrder ih

theorem GatedBy.map {transform : α → β} {first ungated : Decoder α}
    (gated : GatedBy limit first ungated) :
    GatedBy limit (transform <$> first) (transform <$> ungated) := by
  rw [← bind_pure_comp, ← bind_pure_comp]
  exact gated.bind fun _ => .refl _

theorem GatedBy.counted {item ungated : Decoder α} (gated : GatedBy limit item ungated)
    (itemSize : Nat) : GatedBy limit (counted itemSize item) (counted itemSize ungated) := by
  refine .readCount fun items => ?_
  change GatedBy limit (replicate item items) (replicate ungated items)
  induction items with
  | zero => exact .refl _
  | succ items ih =>
      rw [replicate_succ, replicate_succ]
      exact gated.bind fun _ => ih.map

theorem GatedBy.run_eq {decoder ungated : Decoder α} (gated : GatedBy limit decoder ungated)
    (reader : Reader) :
    decoder.run reader = ungated.run reader ∨
      (decoder.run reader).1 = .error (.nestingTooDeep limit) := by
  induction gated generalizing reader with
  | gate => exact .inr rfl
  | done => exact .inl rfl
  | fail => exact .inl rfl
  | @readField type _ _ _ ih =>
      rw [run, run]
      rcases reader.read type with ⟨_ | value, moved⟩
      · exact .inl rfl
      · exact ih value moved
  | @readCount itemSize _ _ _ ih =>
      rw [run, run]
      rcases reader.readCount itemSize with ⟨_ | items, moved⟩
      · exact .inl rfl
      · exact ih items moved
  | switchOrder _ ih => exact ih (reader.setOrder _)

theorem body_gatedBy {isNative : Bool} {dimension : Dimension} {lower higher levels more : Nat}
    (fewer : levels ≤ more) (kind : Kind) :
    GatedBy lower (body ⟨isNative, dimension, lower⟩ levels kind)
      (body ⟨isNative, dimension, higher⟩ more kind) := by
  -- Both sides lose one level with each member, so the levels of the lower limit carry the induction.
  induction levels generalizing more kind with
  | zero =>
      cases kind with
      | point | lineString | polygon => cases more <;> exact .refl _
      | multiPoint | multiLineString | multiPolygon | collection => exact .gate
  | succ levels ih =>
      obtain ⟨rest, rfl⟩ := Nat.exists_eq_add_of_le' fewer
      cases kind with
      | point | lineString | polygon => exact .refl _
      | multiPoint | multiLineString | multiPolygon => exact .refl _
      | collection =>
          have inner : GatedBy lower
              (memberKind ⟨isNative, dimension, lower⟩ >>=
                body ⟨isNative, dimension, lower⟩ levels)
              (memberKind ⟨isNative, dimension, higher⟩ >>=
                body ⟨isNative, dimension, higher⟩ (rest + levels)) :=
            (GatedBy.refl _).bind (ih (Nat.le_add_left levels rest))
          exact (inner.counted 1).map

theorem blob_gatedBy {lower higher : Nat} (le : lower ≤ higher) :
    GatedBy lower (blob lower) (blob higher) :=
  (GatedBy.refl Header.decoder).bind fun header =>
    (body_gatedBy le header.kind).bind fun _ => .refl _

end Decoder

/-!
## Reading
-/

namespace Reader

theorem readGeometry_gated {lower higher : Nat} (le : lower ≤ higher) (reader : Reader) :
    reader.readGeometry lower = reader.readGeometry higher ∨
      (reader.readGeometry lower).1 = .error (.nestingTooDeep lower) := by
  rcases (Decoder.blob_gatedBy le).run_eq reader with same | stopped
  · left
    rw [readGeometry, readGeometry, same]
  · right
    unfold readGeometry
    split
    · rename_i ran
      rw [ran] at stopped
      exact stopped
    · rename_i ran
      rw [ran] at stopped
      cases stopped

/-- No other limit is named when the levels are too many. -/
theorem limit_of_readGeometry_eq_error {limit named : Nat} {reader : Reader}
    (stopped : (reader.readGeometry limit).1 = .error (.nestingTooDeep named)) : named = limit := by
  have failed : reader.readGeometry limit =
      (.error (.nestingTooDeep named), (reader.readGeometry limit).2) := Prod.ext stopped rfl
  rcases readGeometry_eq_error_iff.mp failed with ran | ⟨_, _, trailing⟩
  · rcases Decoder.refusal_of_blob_eq_error ran with ⟨_, _, justified⟩ | lacking
    · cases justified with
      | nestingTooDeep announced =>
          obtain ⟨header, _, _, rfl⟩ := announced
          rfl
    · cases lacking
  · cases trailing

/-- A blob is stopped under exactly the limits that its tree exceeds. -/
theorem readGeometry_of_limit {reader : Reader} {higher : Nat} {value : ReferencedGeometry}
    (read : (reader.readGeometry higher).1 = .ok value) (limit : Nat) :
    (reader.readGeometry limit).1 =
      if value.geometry.nesting ≤ limit then .ok value else .error (.nestingTooDeep limit) := by
  obtain ⟨spelled, bounded⟩ := readGeometry_eq_ok_iff.mp read
  split
  · rename_i room
    exact readGeometry_eq_ok_iff.mpr ⟨spelled, room⟩
  · rename_i tooDeep
    have le : limit ≤ higher := by omega
    rcases reader.readGeometry_gated le with same | stopped
    · rw [← same] at read
      exact absurd (readGeometry_eq_ok_iff.mp read).2 tooDeep
    · exact stopped

end Reader

/-!
## Limits on both sides
-/

theorem Geometry.nesting_normal (geometry : Geometry) :
    geometry.normal.nesting = geometry.withoutEmpty.nesting :=
  geometry.withoutEmpty.nesting_conform geometry.dimension

theorem ReferencedGeometry.read_of_encode {format : Format} {order : ByteOrder} {limit : Nat}
    {value : ReferencedGeometry} {blob : List UInt8}
    (written : value.encode format order limit = .ok (some blob)) :
    ∃ srid, ((Reader.ofBytes blob).readGeometry limit).1 = .ok ⟨srid, value.geometry.normal⟩ := by
  obtain ⟨checked, writable, bounded, writes⟩ := writes_of_encode written
  have spelled := writes.blob checked writable rfl
  exact ⟨_, Reader.readGeometry_eq_ok_iff.mpr ⟨spelled, bounded⟩⟩

/-- A limit only stops. What a lower limit does not stop is the same under a higher one, a stop names
the limit, and what was read or written under one limit is stopped under another exactly if the tree
has more levels. -/
theorem limit_only_stops :
    (∀ (reader : Reader) (lower higher : Nat), lower ≤ higher →
      (∀ named, (reader.readGeometry lower).1 ≠ .error (.nestingTooDeep named)) →
      reader.readGeometry higher = reader.readGeometry lower) ∧
    (∀ (reader : Reader) (limit named : Nat),
      (reader.readGeometry limit).1 = .error (.nestingTooDeep named) → named = limit) ∧
    (∀ (reader : Reader) (higher : Nat) (value : ReferencedGeometry),
      (reader.readGeometry higher).1 = .ok value → ∀ limit, (reader.readGeometry limit).1 =
        if value.geometry.nesting ≤ limit then .ok value else .error (.nestingTooDeep limit)) ∧
    ∀ (value : ReferencedGeometry) (format : Format) (order : ByteOrder) (higher : Nat)
      (blob : List UInt8), value.encode format order higher = .ok (some blob) → ∀ limit,
        ((Reader.ofBytes blob).readGeometry limit).1 = .error (.nestingTooDeep limit) ↔
          value.encode format order limit = .error (.nestingTooDeep limit) := by
  refine ⟨?_, fun _ _ _ => Reader.limit_of_readGeometry_eq_error,
    fun _ _ _ => Reader.readGeometry_of_limit, ?_⟩
  · intro reader lower higher le passed
    rcases reader.readGeometry_gated le with same | stopped
    · exact same.symm
    · exact absurd stopped (passed lower)
  · intro value format order higher blob written limit
    obtain ⟨srid, read⟩ := ReferencedGeometry.read_of_encode written
    rw [Reader.readGeometry_of_limit read, ReferencedGeometry.encode_of_limit written,
      Geometry.nesting_normal]
    by_cases tooDeep : limit < value.geometry.withoutEmpty.nesting
    · simp only [if_pos tooDeep, if_neg (Nat.not_le_of_lt tooDeep)]
    · simp [if_neg tooDeep, if_pos (Nat.le_of_not_lt tooDeep)]

/-- A blob with an empty multi-point, which counts as a level when it is read, and a tree whose empty
multi-point does not count when it is written. -/
theorem limit_only_stops_emptyMembers :
    let bytes : List UInt8 := [1, 7, 0, 0, 0, 1, 0, 0, 0, 1, 4, 0, 0, 0, 0, 0, 0, 0]
    let value : ReferencedGeometry :=
      .unreferenced (.collection [.multiPoint [], .point ⟨some (.xy ⟨1⟩ ⟨2⟩)⟩])
    (((Reader.ofBytes bytes).readGeometry 1).1 = .error (.nestingTooDeep 1) ∧
      (Reader.ofBytes bytes).readGeometry 9 = (Reader.ofBytes bytes).readGeometry 2) ∧
    ∃ blob, value.encode .wkb .big 7 = .ok (some blob) ∧
      ((Reader.ofBytes blob).readGeometry 0).1 = .error (.nestingTooDeep 0) ∧
      ((Reader.ofBytes blob).readGeometry 1).1 ≠ .error (.nestingTooDeep 1) := by
  intro bytes value
  obtain ⟨passes, _, stops, agrees⟩ := limit_only_stops
  have decoded : ((Reader.ofBytes bytes).readGeometry 2).1 =
      .ok (.unreferenced (.collection [.multiPoint []])) := by cbv
  have passed (named : Nat) :
      ((Reader.ofBytes bytes).readGeometry 2).1 ≠ .error (.nestingTooDeep named) := by
    rw [decoded]
    intro stopped
    cases stopped
  have planned : value.plan .wkb 7 = .ok (some ⟨value.rootLayout .wkb 7, 30⟩) := rfl
  have plannedLower : value.plan .wkb 1 = .ok (some ⟨value.rootLayout .wkb 1, 30⟩) := rfl
  have encoded := ReferencedGeometry.encode_of_plan planned .big
  refine ⟨⟨stops _ 2 _ decoded 1, passes _ 2 9 (by decide) passed⟩, _, encoded, ?_, ?_⟩
  · exact (agrees _ _ _ _ _ encoded 0).mpr (ReferencedGeometry.encode_eq_error_iff.mpr rfl)
  · rw [ne_eq, agrees _ _ _ _ _ encoded 1, ReferencedGeometry.encode_eq_error_iff, plannedLower]
    intro stopped
    cases stopped

end GeoWire
