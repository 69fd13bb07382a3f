import GeoWire.Proofs.EmptyMembers
import GeoWire.Proofs.Spelling

/-!
# Places in a tree

What is written of a geometry with members, and how little of its place in a tree a geometry depends
on: the dialect family and the dimension, once its levels are allowed there.
-/

set_option autoImplicit false

namespace GeoWire

namespace Emission

theorem append_assoc (first second third : Emission) :
    first ++ second ++ third = first ++ (second ++ third) := by
  induction first with
  | finished => rfl
  | stopped cause => rfl
  | put field rest ih => rw [put_append, put_append, put_append, ih]

theorem ofFields_append (first second : List Field) :
    ofFields (first ++ second) = ofFields first ++ ofFields second := by
  induction first with
  | nil => rfl
  | cons field rest ih => rw [List.cons_append, ofFields, ofFields, put_append, ih]

theorem bytes_ofFields_append (order : ByteOrder) (fields : List Field) (rest : Emission) :
    (ofFields fields ++ rest).bytes order =
      fields.flatMap (Field.bytes order) ++ rest.bytes order := by
  induction fields with
  | nil => rfl
  | cons field others ih =>
      rw [ofFields, put_append, bytes, ih, List.flatMap_cons, List.append_assoc]

theorem yields_iff {emission : Emission} {order : ByteOrder} {bytes : List UInt8} :
    emission.Yields order bytes ↔ emission.ending = .ok () ∧ bytes = emission.bytes order := by
  constructor
  · intro yields
    induction yields with
    | finished => exact ⟨rfl, rfl⟩
    | put _ ih => exact ⟨ih.1, congrArg (_ ++ ·) ih.2⟩
  · intro ended
    obtain ⟨ended, rfl⟩ := ended
    exact yields_bytes ended

theorem yields_concat {α : Type} {order : ByteOrder} {items : List α} {emission : α → Emission}
    {bytes : List UInt8} (yields : (concat (items.map emission)).Yields order bytes) :
    bytes = items.flatMap fun item => (emission item).bytes order := by
  induction items generalizing bytes with
  | nil =>
      cases yields
      rfl
  | cons item rest ih =>
      obtain ⟨first, others, firstYields, othersYield, rfl⟩ := yields_append_iff.mp yields
      rw [List.flatMap_cons, (yields_iff.mp firstYields).2, ih othersYield]

end Emission

/-!
## Geometries with members
-/

namespace Geometry

/-- The members that are written. -/
def keptMembers (geometry : Geometry) : List Geometry :=
  geometry.members.filter fun member => !member.isEmpty

theorem mem_keptMembers_iff {geometry member : Geometry} :
    member ∈ geometry.keptMembers ↔ member ∈ geometry.members ∧ member.isEmpty = false := by
  simp [keptMembers]

theorem nesting_le_succ_iff {geometry : Geometry} (nested : geometry.nesting ≠ 0) {levels : Nat} :
    geometry.nesting ≤ levels + 1 ↔ ∀ member ∈ geometry.members, member.nesting ≤ levels := by
  cases geometry with
  | point | lineString | linearRing | polygon => exact absurd rfl nested
  | multiPoint | multiLineString | multiPolygon => simp [nesting, members]
  | collection members => rw [nesting, Nat.add_le_add_iff_right, nestingOf_le_iff, Geometry.members]

theorem nesting_withoutEmpty_ne_zero {geometry : Geometry} (nested : geometry.nesting ≠ 0) :
    geometry.withoutEmpty.nesting ≠ 0 := by
  cases geometry with
  | point | lineString | linearRing | polygon => exact absurd rfl nested
  | multiPoint | multiLineString | multiPolygon | collection => exact Nat.succ_ne_zero _

theorem emission_of_nested {geometry : Geometry} (nested : geometry.nesting ≠ 0) (layout : Layout)
    (order : ByteOrder) :
    geometry.emission layout order =
      layout.elements order geometry.kind emission geometry.keptMembers := by
  cases geometry with
  | point | lineString | linearRing | polygon => exact absurd rfl nested
  | multiPoint | multiLineString | multiPolygon =>
      rw [keptMembers, members, List.filter_map, emission]
      refine (layout.elements_map order _ ?_).symm
      exact fun _ _ _ => rfl
  | collection members => exact emission_collection layout order members

theorem Countable.of_member {geometry member : Geometry} (countable : geometry.Countable)
    (kept : member ∈ geometry.keptMembers) : member.Countable := by
  obtain ⟨belongs, inhabited⟩ := mem_keptMembers_iff.mp kept
  have item {α : Type} {items : List α} {form : α → Geometry} {isEmpty : α → Bool}
      (each : ∀ item ∈ items.filter fun item => !isEmpty item, (form item).Countable)
      (sameEmpty : ∀ item, (form item).isEmpty = isEmpty item)
      (belongs : member ∈ items.map form) : member.Countable := by
    obtain ⟨item, isItem, rfl⟩ := List.mem_map.mp belongs
    rw [sameEmpty] at inhabited
    exact each item (List.mem_filter.mpr ⟨isItem, by simpa using inhabited⟩)
  cases countable with
  | point | lineString | linearRing | polygon => cases belongs
  | multiPoint => exact item (fun _ _ => .point) (fun _ => rfl) belongs
  | multiLineString _ each =>
      exact item (fun line isKept => .lineString (each line isKept)) (fun _ => rfl) belongs
  | multiPolygon _ each =>
      exact item (fun poly isKept => .polygon (each poly isKept)) (fun _ => rfl) belongs
  | collection _ each => exact each member kept

end Geometry

namespace Layout

/-- A geometry with members is allowed when a level is left for them and each of them is allowed
there. -/
theorem allows_nested_iff {layout : Layout} {geometry : Geometry} (nested : geometry.nesting ≠ 0) :
    layout.Allows geometry.withoutEmpty.nesting ↔ layout.depth < layout.limit ∧
      ∀ member ∈ geometry.keptMembers, layout.inner.Allows member.withoutEmpty.nesting := by
  have stillNested := Geometry.nesting_withoutEmpty_ne_zero nested
  obtain ⟨most, levels⟩ := Nat.exists_eq_succ_of_ne_zero stillNested
  have most_le_iff {bound : Nat} : most ≤ bound ↔
      ∀ member ∈ geometry.keptMembers, member.withoutEmpty.nesting ≤ bound := by
    rw [← Nat.succ_le_succ_iff, ← levels, Geometry.nesting_le_succ_iff stillNested,
      Geometry.members_withoutEmpty, List.forall_mem_map]
    rfl
  rw [levels]
  exact allows_succ_iff most_le_iff

end Layout

namespace Geometry

theorem emission_of_room {geometry : Geometry} (nested : geometry.nesting ≠ 0) {layout : Layout}
    (room : layout.depth < layout.limit) (order : ByteOrder) :
    geometry.emission layout order = .ofFields (layout.header order geometry.kind) ++
      (Layout.count geometry.keptMembers.length ++
        .concat (geometry.keptMembers.map (emission layout.inner order))) := by
  have placed : layout.member = .ok layout.inner := Layout.member_eq_ok_iff.mpr ⟨room, rfl⟩
  rw [emission_of_nested nested, Layout.elements, placed]
  exact Emission.append_assoc _ _ _

/-- What is written of a geometry with members: its header, the number of members that are not empty
and, in the place of members, these members. -/
theorem bytes_of_nested {geometry : Geometry} (nested : geometry.nesting ≠ 0) {layout : Layout}
    (room : layout.depth < layout.limit) {order : ByteOrder}
    (ended : (geometry.emission layout order).ending = .ok ()) :
    (geometry.emission layout order).bytes order =
      layout.headerBytes order geometry.kind ++
        (Grammar.countBytes order geometry.keptMembers.length ++
          geometry.keptMembers.flatMap fun member =>
            (member.emission layout.inner order).bytes order) := by
  have yields : (geometry.emission layout order).Yields order _ := Emission.yields_bytes ended
  rw [emission_of_room nested room] at yields ⊢
  obtain ⟨head, further, headYields, furtherYields, whole⟩ := Emission.yields_append_iff.mp yields
  obtain ⟨counted, members, countYields, membersYield, rfl⟩ :=
    Emission.yields_append_iff.mp furtherYields
  rw [whole, Emission.yields_ofFields_iff.mp headYields, (Layout.yields_count_iff.mp countYields).2,
    Emission.yields_concat membersYield]
  rfl

end Geometry

/-!
## Parallel places
-/

namespace Layout

/-- Two places in trees of one dialect family and dimension. Only the headers of the geometries there
can differ. -/
structure Parallel (left right : Layout) : Prop where
  family : left.format.dialect.isNative = right.format.dialect.isNative
  dimension : left.dimension = right.dimension

variable {left right : Layout}

@[refl] theorem Parallel.refl (layout : Layout) : layout.Parallel layout :=
  ⟨rfl, rfl⟩

theorem Parallel.inner (parallel : left.Parallel right) : left.inner.Parallel right.inner :=
  ⟨parallel.family, parallel.dimension⟩

theorem Parallel.coordinate_eq (parallel : left.Parallel right) :
    left.coordinate = right.coordinate := by
  funext coord
  rw [coordinate, coordinate, parallel.dimension]

theorem Parallel.coordinates_eq (parallel : left.Parallel right) :
    left.coordinates = right.coordinates := by
  funext line
  rw [coordinates, coordinates, parallel.coordinate_eq]

theorem Parallel.header_eq (parallel : left.Parallel right)
    (standard : left.format.dialect.isNative = false) (srid : left.headerSrid? = right.headerSrid?)
    (order : ByteOrder) (kind : Kind) : left.header order kind = right.header order kind := by
  have rightStandard : right.format.dialect.isNative = false := parallel.family ▸ standard
  simp only [header, sridFields, typeField, standard, rightStandard, srid, parallel.dimension]

/-- No header but that of the root holds more than the family, the dimension and the kind. -/
theorem Parallel.header_inner (parallel : left.Parallel right) (order : ByteOrder) (kind : Kind) :
    left.inner.header order kind = right.inner.header order kind := by
  cases standard : left.format.dialect.isNative with
  | false => exact parallel.inner.header_eq standard rfl order kind
  | true =>
      have member {layout : Layout} (native : layout.format.dialect.isNative = true) :
          layout.inner.header order kind = [kindField kind] := by
        have innerNative : layout.inner.format.dialect.isNative = true := native
        have notRoot : layout.inner.isRoot = false := rfl
        simp only [header, innerNative, notRoot]
      rw [member standard, member (parallel.family ▸ standard)]

end Layout

/-- After its header a geometry is written with the same fields in parallel places, if its levels are
allowed in both. -/
theorem Geometry.emission_parallel {geometry : Geometry} {left right : Layout}
    (parallel : left.Parallel right) (leftAllowed : left.Allows geometry.withoutEmpty.nesting)
    (rightAllowed : right.Allows geometry.withoutEmpty.nesting) (order : ByteOrder) :
    ∃ content, geometry.emission left order = .ofFields (left.header order geometry.kind) ++ content ∧
      geometry.emission right order = .ofFields (right.header order geometry.kind) ++ content := by
  induction geometry using nodeInduction generalizing left right with
  | step geometry ih =>
      by_cases nested : geometry.nesting = 0
      · cases geometry with
        | point pt =>
            rw [emission, emission, Layout.point, Layout.point, parallel.coordinate_eq,
              Emission.ofFields_append, Emission.ofFields_append]
            exact ⟨_, rfl, rfl⟩
        | lineString | linearRing =>
            rw [emission, emission, Layout.lineString, Layout.lineString, parallel.coordinates_eq]
            exact ⟨_, rfl, rfl⟩
        | polygon poly =>
            rw [emission, emission, Layout.polygon, Layout.polygon, parallel.coordinates_eq,
              Emission.append_assoc, Emission.append_assoc]
            exact ⟨_, rfl, rfl⟩
        | multiPoint | multiLineString | multiPolygon | collection => cases nested
      · obtain ⟨leftRoom, leftMembers⟩ := (Layout.allows_nested_iff nested).mp leftAllowed
        obtain ⟨rightRoom, rightMembers⟩ := (Layout.allows_nested_iff nested).mp rightAllowed
        have sameMembers : geometry.keptMembers.map (emission left.inner order) =
            geometry.keptMembers.map (emission right.inner order) := by
          apply List.map_congr_left
          intro member kept
          have belongs := (mem_keptMembers_iff.mp kept).1
          obtain ⟨content, leftEmission, rightEmission⟩ :=
            ih member belongs parallel.inner (leftMembers member kept) (rightMembers member kept)
          rw [leftEmission, rightEmission, parallel.header_inner]
        refine ⟨_, emission_of_room nested leftRoom order, ?_⟩
        rw [emission_of_room nested rightRoom, sameMembers]

theorem Geometry.emission_congr {geometry : Geometry} {left right : Layout}
    (parallel : left.Parallel right) (leftAllowed : left.Allows geometry.withoutEmpty.nesting)
    (rightAllowed : right.Allows geometry.withoutEmpty.nesting) {order : ByteOrder}
    (sameHeader : left.header order geometry.kind = right.header order geometry.kind) :
    geometry.emission left order = geometry.emission right order := by
  obtain ⟨content, leftEmission, rightEmission⟩ :=
    emission_parallel parallel leftAllowed rightAllowed order
  rw [leftEmission, rightEmission, sameHeader]

theorem Geometry.bytes_parallel {geometry : Geometry} {left right : Layout}
    (parallel : left.Parallel right) (leftAllowed : left.Allows geometry.withoutEmpty.nesting)
    (rightAllowed : right.Allows geometry.withoutEmpty.nesting) (order : ByteOrder) :
    ∃ content, (geometry.emission left order).bytes order =
        left.headerBytes order geometry.kind ++ content ∧
      (geometry.emission right order).bytes order =
        right.headerBytes order geometry.kind ++ content := by
  obtain ⟨content, leftEmission, rightEmission⟩ :=
    emission_parallel parallel leftAllowed rightAllowed order
  rw [leftEmission, rightEmission, Emission.bytes_ofFields_append, Emission.bytes_ofFields_append]
  exact ⟨_, rfl, rfl⟩

end GeoWire
