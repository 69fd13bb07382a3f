import GeoWire.Encode.Tree
import GeoWire.Geometry.Nesting
import GeoWire.Geometry.Normal
import GeoWire.Proofs.Outcome

/-!
# Measurement

When measuring a tree succeeds and with which cause it fails otherwise, and that the fields of a tree
come to the number of bytes measured or stop for the cause found by measuring.
-/

set_option autoImplicit false

namespace GeoWire

/-!
## Countable geometries
-/

def Polygon.Countable (poly : Polygon) : Prop :=
  poly.rings.length < UInt32.size ∧ ∀ ring ∈ poly.rings, ring.coords.length < UInt32.size

/-- Every count that a geometry is written with has a 32-bit form. Empty members are not written. -/
inductive Geometry.Countable : Geometry → Prop where
  | point {pt : Point} : Countable (.point pt)
  | lineString {line : LineString} : line.length < UInt32.size → Countable (.lineString line)
  | linearRing {ring : Ring} : ring.coords.length < UInt32.size → Countable (.linearRing ring)
  | polygon {poly : Polygon} : poly.Countable → Countable (.polygon poly)
  | multiPoint {points : List Point} :
      (points.filter fun pt => !pt.isEmpty).length < UInt32.size → Countable (.multiPoint points)
  | multiLineString {lines : List LineString} :
      (lines.filter fun line => !line.isEmpty).length < UInt32.size →
      (∀ line ∈ lines.filter fun line => !line.isEmpty, line.length < UInt32.size) →
      Countable (.multiLineString lines)
  | multiPolygon {polygons : List Polygon} :
      (polygons.filter fun poly => !poly.isEmpty).length < UInt32.size →
      (∀ poly ∈ polygons.filter fun poly => !poly.isEmpty, poly.Countable) →
      Countable (.multiPolygon polygons)
  | collection {members : List Geometry} :
      (members.filter fun inner => !inner.isEmpty).length < UInt32.size →
      (∀ inner ∈ members.filter fun inner => !inner.isEmpty, Countable inner) →
      Countable (.collection members)

/-!
## Verdicts
-/

/-- A measurement succeeds when all counts and levels are allowed, and fails for what is not. -/
inductive Verdict {α : Type} (limit : Nat) (countable allowed : Prop) :
    Except EncodeError α → Prop where
  | measured {value : α} : countable → allowed → Verdict limit countable allowed (.ok value)
  | tooDeep : ¬ allowed → Verdict limit countable allowed (.error (.nestingTooDeep limit))
  | overflow {count : Nat} :
      ¬ countable → Verdict limit countable allowed (.error (.countOverflow count))

namespace Verdict

variable {α β : Type} {limit : Nat} {countable allowed : Prop}

theorem congr {countable' allowed' : Prop} {outcome : Except EncodeError α}
    (sameCountable : countable ↔ countable') (sameAllowed : allowed ↔ allowed')
    (verdict : Verdict limit countable allowed outcome) :
    Verdict limit countable' allowed' outcome := by
  rw [← sameCountable, ← sameAllowed]
  exact verdict

theorem exists_ok {outcome : Except EncodeError α} (verdict : Verdict limit countable allowed outcome)
    (isCountable : countable) (isAllowed : allowed) : ∃ value, outcome = .ok value := by
  cases verdict with
  | measured _ _ => exact ⟨_, rfl⟩
  | tooDeep denied => exact absurd isAllowed denied
  | overflow uncountable => exact absurd isCountable uncountable

theorem bind {laterCountable laterAllowed : Prop} {first : Except EncodeError α}
    {next : α → Except EncodeError β} (verdict : Verdict limit countable allowed first)
    (later : ∀ value, first = .ok value → Verdict limit laterCountable laterAllowed (next value)) :
    Verdict limit (countable ∧ laterCountable) (allowed ∧ laterAllowed) (first >>= next) := by
  cases verdict with
  | tooDeep denied => exact .tooDeep fun both => denied both.1
  | overflow uncountable => exact .overflow fun both => uncountable both.1
  | @measured value isCountable isAllowed =>
      have further := later value rfl
      change Verdict limit _ _ (next value)
      generalize next value = outcome at further
      cases further with
      | measured laterCountable laterAllowed =>
          exact .measured ⟨isCountable, laterCountable⟩ ⟨isAllowed, laterAllowed⟩
      | tooDeep denied => exact .tooDeep fun both => denied both.2
      | overflow uncountable => exact .overflow fun both => uncountable both.2

theorem map {transform : α → β} {outcome : Except EncodeError α}
    (verdict : Verdict limit countable allowed outcome) :
    Verdict limit countable allowed (transform <$> outcome) := by
  cases verdict with
  | measured isCountable isAllowed => exact .measured isCountable isAllowed
  | tooDeep denied => exact .tooDeep denied
  | overflow uncountable => exact .overflow uncountable

/-- A part of the measurement that is followed by arithmetic alone. -/
theorem then_pure {outcome : Except EncodeError α} (verdict : Verdict limit countable allowed outcome)
    (transform : α → β) :
    Verdict limit countable allowed (outcome >>= fun value => pure (transform value)) := by
  rw [bind_pure_comp]
  exact verdict.map

theorem mapM {items : List α} {measure : α → Except EncodeError β} {countable allowed : α → Prop}
    (each : ∀ item ∈ items, Verdict limit (countable item) (allowed item) (measure item)) :
    Verdict limit (∀ item ∈ items, countable item) (∀ item ∈ items, allowed item)
      (items.mapM measure) := by
  induction items with
  | nil => exact .measured (by simp) (by simp)
  | cons item items ih =>
      obtain ⟨first, others⟩ := List.forall_mem_cons.mp each
      rw [List.mapM_cons]
      apply congr List.forall_mem_cons.symm List.forall_mem_cons.symm
      exact first.bind fun value _ => (ih others).then_pure (value :: ·)

end Verdict

namespace Layout

/-- The place of a member, whether or not members are allowed. -/
def inner (layout : Layout) : Layout :=
  { layout with depth := layout.depth + 1 }

/-- A geometry at this place may have the given number of levels below it. -/
def Allows (layout : Layout) (levels : Nat) : Prop :=
  levels = 0 ∨ layout.depth + levels ≤ layout.limit

theorem member_eq_ok_iff {layout member : Layout} :
    layout.member = .ok member ↔
      layout.depth < layout.limit ∧ member = layout.inner := by
  unfold Layout.member inner
  split
  · rename_i permitted
    simp only [Except.ok.injEq, permitted, true_and]
    exact eq_comm
  · rename_i denied
    simp [denied]

theorem member_verdict (layout : Layout) :
    Verdict layout.limit True (layout.depth < layout.limit) layout.member := by
  unfold Layout.member
  split
  · exact .measured trivial ‹_›
  · exact .tooDeep ‹_›

theorem countSize_verdict (limit items : Nat) :
    Verdict limit (items < UInt32.size) True (countSize items) := by
  unfold countSize
  split
  · exact .measured ‹_› trivial
  · exact .overflow ‹_›

theorem coordinatesSize_verdict (layout : Layout) (line : LineString) (limit : Nat) :
    Verdict limit (line.length < UInt32.size) True (layout.coordinatesSize line) :=
  (countSize_verdict limit _).then_pure fun count => count + line.length * layout.coordSize

theorem lineStringSize_verdict (layout : Layout) (line : LineString) (limit : Nat) :
    Verdict limit (line.length < UInt32.size) True (layout.lineStringSize line) :=
  (coordinatesSize_verdict layout line limit).then_pure fun coords => layout.headerSize + coords

theorem polygonSize_verdict (layout : Layout) (poly : Polygon) (limit : Nat) :
    Verdict limit poly.Countable True (layout.polygonSize poly) := by
  have rings : Verdict limit (∀ ring ∈ poly.rings, ring.coords.length < UInt32.size)
      (∀ ring ∈ poly.rings, True) (poly.rings.mapM fun ring => layout.coordinatesSize ring.coords) :=
    .mapM fun ring _ => coordinatesSize_verdict layout ring.coords limit
  unfold Layout.polygonSize
  have whole := (countSize_verdict limit poly.rings.length).bind fun count _ =>
    rings.then_pure fun sizes => layout.headerSize + count + total sizes
  apply whole.congr
  · simp [Polygon.Countable]
  · simp

theorem allows_succ_iff {α : Type} {layout : Layout} {items : List α} {levels : α → Nat}
    {most : Nat} (most_le_iff : ∀ {bound : Nat}, most ≤ bound ↔ ∀ item ∈ items, levels item ≤ bound) :
    layout.Allows (most + 1) ↔ layout.depth < layout.limit ∧
      ∀ item ∈ items, layout.inner.Allows (levels item) := by
  constructor
  · intro allowed
    have room : layout.depth + (most + 1) ≤ layout.limit := by
      rcases allowed with impossible | room
      · cases impossible
      · exact room
    refine ⟨by omega, ?_⟩
    intro item member
    have itemLevels := most_le_iff.mp (Nat.le_refl most) item member
    exact .inr (by simp only [inner]; omega)
  · intro allowed
    obtain ⟨room, each⟩ := allowed
    have bounded : most ≤ layout.limit - (layout.depth + 1) := by
      apply most_le_iff.mpr
      intro item member
      rcases each item member with flat | room
      · omega
      · simp only [inner] at room
        omega
    exact .inr (by omega)

theorem elementsSize_verdict {α : Type} (layout : Layout)
    {elementSize : Layout → α → Except EncodeError Nat} {items : List α} {countable : α → Prop}
    {levels : α → Nat} {most : Nat}
    (each : ∀ item ∈ items, ∀ member : Layout,
      Verdict member.limit (countable item) (member.Allows (levels item)) (elementSize member item))
    (most_le_iff : ∀ {bound : Nat}, most ≤ bound ↔ ∀ item ∈ items, levels item ≤ bound) :
    Verdict layout.limit (items.length < UInt32.size ∧ ∀ item ∈ items, countable item)
      (layout.Allows (most + 1)) (layout.elementsSize elementSize items) := by
  have later : ∀ member, layout.member = .ok member →
      Verdict layout.limit ((∀ item ∈ items, countable item) ∧ items.length < UInt32.size)
        ((∀ item ∈ items, layout.inner.Allows (levels item)) ∧ True) (do
        let sizes ← items.mapM (elementSize member)
        let count ← countSize items.length
        pure (layout.headerSize + count + total sizes)) := by
    intro member placed
    obtain ⟨_, rfl⟩ := member_eq_ok_iff.mp placed
    have measured := Verdict.mapM fun item belongs =>
      each item belongs layout.inner
    exact measured.bind fun sizes _ =>
      (countSize_verdict layout.limit items.length).then_pure fun count =>
        layout.headerSize + count + total sizes
  apply (layout.member_verdict.bind later).congr
  · simp [and_comm]
  · rw [allows_succ_iff most_le_iff]
    simp

theorem total_map_const {α : Type} (items : List α) (size : Nat) :
    total (items.map fun _ => size) = items.length * size := by
  induction items with
  | nil => exact (Nat.zero_mul size).symm
  | cons item rest ih =>
      simp only [List.map_cons, total, ih, List.length_cons, Nat.succ_mul]
      exact Nat.add_comm _ _

/-- Multiplying the size of a point comes to the same as adding up the sizes. -/
theorem multiPointSize_eq (layout : Layout) (points : List Point) :
    layout.multiPointSize points =
      layout.elementsSize (fun member _ => .ok member.pointSize) points := by
  have sizes (member : Layout) :
      (points.mapM fun _ => .ok member.pointSize : Except EncodeError (List Nat)) =
        .ok (points.map fun _ => member.pointSize) :=
    Outcome.mapM_eq_ok fun _ _ => rfl
  simp only [multiPointSize, elementsSize, sizes, Outcome.ok_bind, total_map_const]

end Layout

/-!
## Members as elements
-/

namespace Geometry

theorem encodedSize_multiPoint (layout : Layout) (points : List Point) :
    encodedSize layout (.multiPoint points) =
      layout.elementsSize (fun member _ => .ok member.pointSize)
        (points.filter fun pt => !pt.isEmpty) :=
  layout.multiPointSize_eq _

theorem encodedSizeOf_eq (layout : Layout) (members : List Geometry) :
    encodedSizeOf layout members =
      Layout.total <$> (members.filter fun inner => !inner.isEmpty).mapM (encodedSize layout) := by
  induction members with
  | nil => rfl
  | cons member rest ih =>
      cases isEmpty : member.isEmpty with
      | true => simp [encodedSizeOf, isEmpty, ih]
      | false => simp [encodedSizeOf, isEmpty, ih, Layout.total]

theorem emissionOf_eq (layout : Layout) (order : ByteOrder) (members : List Geometry) :
    emissionOf layout order members =
      .concat ((members.filter fun inner => !inner.isEmpty).map (emission layout order)) := by
  induction members with
  | nil => rfl
  | cons member rest ih =>
      cases isEmpty : member.isEmpty with
      | true => simp [emissionOf, isEmpty, ih]
      | false => simp [emissionOf, isEmpty, ih, Emission.concat]

theorem encodedSize_collection (layout : Layout) (members : List Geometry) :
    encodedSize layout (.collection members) =
      layout.elementsSize encodedSize (members.filter fun inner => !inner.isEmpty) := by
  simp [encodedSize, Layout.elementsSize, encodedSizeOf_eq]

theorem emission_collection (layout : Layout) (order : ByteOrder) (members : List Geometry) :
    emission layout order (.collection members) =
      layout.elements order .collection emission
        (members.filter fun inner => !inner.isEmpty) := by
  simp only [emission, Layout.elements, emissionOf_eq]

/-- Of the members of a collection only those that are not empty count for its levels. -/
theorem nesting_withoutEmpty_collection (members : List Geometry) :
    (collection members).withoutEmpty.nesting =
      nestingOf ((members.filter fun inner => !inner.isEmpty).map withoutEmpty) + 1 := by
  simp only [withoutEmpty, nesting, membersWithoutEmpty_eq]

/-- Measuring succeeds exactly on countable geometries whose written levels are allowed. -/
theorem encodedSize_verdict (geometry : Geometry) (layout : Layout) :
    Verdict layout.limit geometry.Countable (layout.Allows geometry.withoutEmpty.nesting)
      (geometry.encodedSize layout) := by
  have flat {countable : Prop} {place : Layout} {size : Except EncodeError Nat}
      (verdict : Verdict place.limit countable True size) :
      Verdict place.limit countable (place.Allows 0) size :=
    verdict.congr Iff.rfl ⟨fun _ => .inl rfl, fun _ => trivial⟩
  have levelless {α : Type} {items : List α} {bound : Nat} :
      0 ≤ bound ↔ ∀ item ∈ items, 0 ≤ bound := by
    simp
  -- A member is measured one place further in, so the hypotheses have to hold in every place.
  induction geometry generalizing layout with
  | point pt => exact flat (.measured .point trivial)
  | lineString line =>
      refine flat ((layout.lineStringSize_verdict line _).congr ⟨.lineString, ?_⟩ Iff.rfl)
      intro countable
      cases countable with
      | lineString fits => exact fits
  | linearRing ring =>
      refine flat ((layout.lineStringSize_verdict ring.coords _).congr ⟨.linearRing, ?_⟩ Iff.rfl)
      intro countable
      cases countable with
      | linearRing fits => exact fits
  | polygon poly =>
      refine flat ((layout.polygonSize_verdict poly _).congr ⟨.polygon, ?_⟩ Iff.rfl)
      intro countable
      cases countable with
      | polygon fits => exact fits
  | multiPoint points =>
      have sized (member : Layout) : Verdict member.limit True True (.ok member.pointSize) :=
        .measured trivial trivial
      have whole := layout.elementsSize_verdict
        (fun pt (_ : pt ∈ points.filter fun pt => !pt.isEmpty) member => flat (sized member))
        levelless
      rw [encodedSize_multiPoint]
      refine whole.congr ⟨fun counted => .multiPoint counted.1, ?_⟩ Iff.rfl
      intro countable
      cases countable with
      | multiPoint fits => exact ⟨fits, fun _ _ => trivial⟩
  | multiLineString lines =>
      have whole := layout.elementsSize_verdict
        (fun line (_ : line ∈ lines.filter fun line => !line.isEmpty) member =>
          flat (member.lineStringSize_verdict line _)) levelless
      refine whole.congr ⟨fun counted => .multiLineString counted.1 counted.2, ?_⟩ Iff.rfl
      intro countable
      cases countable with
      | multiLineString fits each => exact ⟨fits, each⟩
  | multiPolygon polygons =>
      have whole := layout.elementsSize_verdict
        (fun poly (_ : poly ∈ polygons.filter fun poly => !poly.isEmpty) member =>
          flat (member.polygonSize_verdict poly _)) levelless
      refine whole.congr ⟨fun counted => .multiPolygon counted.1 counted.2, ?_⟩ Iff.rfl
      intro countable
      cases countable with
      | multiPolygon fits each => exact ⟨fits, each⟩
  | collection members ih =>
      have deepest {bound : Nat} :
          nestingOf ((members.filter fun inner => !inner.isEmpty).map withoutEmpty) ≤ bound ↔
            ∀ inner ∈ members.filter fun inner => !inner.isEmpty,
              inner.withoutEmpty.nesting ≤ bound :=
        nestingOf_le_iff.trans List.forall_mem_map
      have whole := layout.elementsSize_verdict
        (fun inner belongs member => ih inner (List.mem_filter.mp belongs).1 member) deepest
      rw [encodedSize_collection, nesting_withoutEmpty_collection]
      refine whole.congr ⟨fun counted => .collection counted.1 counted.2, ?_⟩ Iff.rfl
      intro countable
      cases countable with
      | collection fits each => exact ⟨fits, each⟩

end Geometry

end GeoWire
