import GeoWire.Proofs.PassAgreement
import GeoWire.Proofs.TreeCoordinates
import Mathlib.Logic.Relation

/-!
# Empty members

A tree is measured and written as it is without its empty members. Whether they can be seen in an
encoding at all is then a question of the dimension and the refusal of planar coordinates with M,
which look at every coordinate, those of an empty member included.
-/

set_option autoImplicit false

namespace GeoWire

/-!
## Trees without empty members
-/

namespace Layout

variable {α β : Type} {items : List α} {change : α → β}

theorem elements_map (layout : Layout) (order : ByteOrder) (kind : Kind)
    {element : Layout → ByteOrder → α → Emission} {changed : Layout → ByteOrder → β → Emission}
    (same : ∀ item ∈ items, ∀ member : Layout,
      changed member order (change item) = element member order item) :
    layout.elements order kind changed (items.map change) =
      layout.elements order kind element items := by
  unfold elements
  cases layout.member with
  | error cause => rfl
  | ok member =>
      have sameMembers : (items.map change).map (changed member order) =
          items.map (element member order) := by
        rw [List.map_map]
        exact List.map_congr_left fun item belongs => same item belongs member
      simp only [sameMembers, List.length_map]

theorem elementsSize_map (layout : Layout) {elementSize : Layout → α → Except EncodeError Nat}
    {changedSize : Layout → β → Except EncodeError Nat}
    (same : ∀ item ∈ items, ∀ member : Layout,
      changedSize member (change item) = elementSize member item) :
    layout.elementsSize changedSize (items.map change) =
      layout.elementsSize elementSize items := by
  have sameSizes (member : Layout) :
      (items.map change).mapM (changedSize member) = items.mapM (elementSize member) := by
    rw [List.mapM_map]
    induction items with
    | nil => rfl
    | cons item rest ih =>
        obtain ⟨first, others⟩ := List.forall_mem_cons.mp same
        rw [List.mapM_cons, List.mapM_cons, ih others, Function.comp_apply, first member]
  unfold elementsSize
  simp only [sameSizes, List.length_map]

end Layout

namespace Geometry

theorem isEmpty_withoutEmpty (geometry : Geometry) :
    geometry.withoutEmpty.isEmpty = geometry.isEmpty := by
  induction geometry with
  | point | lineString | linearRing | polygon => rfl
  | multiPoint | multiLineString | multiPolygon =>
      simp [withoutEmpty, isEmpty, List.all_filter]
  | collection members ih =>
      rw [withoutEmpty, isEmpty, isEmpty, areEmpty_eq, areEmpty_eq, membersWithoutEmpty_eq,
        List.all_map, List.all_filter, Bool.eq_iff_iff, List.all_eq_true, List.all_eq_true]
      apply forall₂_congr
      intro member belongs
      simp [ih member belongs]

theorem members_withoutEmpty (tree : Geometry) :
    tree.withoutEmpty.members =
      (tree.members.filter fun member => !member.isEmpty).map withoutEmpty := by
  cases tree with
  | point | lineString | linearRing | polygon => rfl
  | multiPoint | multiLineString | multiPolygon =>
      rw [withoutEmpty, members, members, List.filter_map, List.map_map]
      rfl
  | collection members => exact membersWithoutEmpty_eq members

/-- The members that are written of a tree without empty members. -/
theorem filter_membersWithoutEmpty (members : List Geometry) :
    (membersWithoutEmpty members).filter (fun member => !member.isEmpty) =
      (members.filter fun member => !member.isEmpty).map withoutEmpty := by
  have same : (fun member : Geometry => !member.isEmpty) ∘ withoutEmpty =
      fun member => !member.isEmpty := by
    funext member
    exact congrArg not member.isEmpty_withoutEmpty
  rw [membersWithoutEmpty_eq, List.filter_map, same, List.filter_filter]
  simp only [Bool.and_self]

@[simp] theorem withoutEmpty_withoutEmpty (geometry : Geometry) :
    geometry.withoutEmpty.withoutEmpty = geometry.withoutEmpty := by
  induction geometry with
  | point | lineString | linearRing | polygon => rfl
  | multiPoint | multiLineString | multiPolygon => simp [withoutEmpty, List.filter_filter]
  | collection members ih =>
      rw [withoutEmpty, withoutEmpty, membersWithoutEmpty_eq, filter_membersWithoutEmpty,
        membersWithoutEmpty_eq, List.map_map]
      apply congrArg collection
      exact List.map_congr_left fun member belongs => ih member (List.mem_filter.mp belongs).1

theorem emission_withoutEmpty (geometry : Geometry) (layout : Layout) (order : ByteOrder) :
    geometry.withoutEmpty.emission layout order = geometry.emission layout order := by
  induction geometry generalizing layout with
  | point | lineString | linearRing | polygon => rfl
  | multiPoint | multiLineString | multiPolygon =>
      simp [withoutEmpty, emission, List.filter_filter]
  | collection members ih =>
      rw [withoutEmpty, emission_collection, emission_collection, filter_membersWithoutEmpty]
      exact layout.elements_map order .collection fun inner belongs =>
        ih inner (List.mem_filter.mp belongs).1

theorem encodedSize_withoutEmpty (geometry : Geometry) (layout : Layout) :
    geometry.withoutEmpty.encodedSize layout = geometry.encodedSize layout := by
  induction geometry generalizing layout with
  | point | lineString | linearRing | polygon => rfl
  | multiPoint | multiLineString | multiPolygon =>
      simp [withoutEmpty, encodedSize, List.filter_filter]
  | collection members ih =>
      rw [withoutEmpty, encodedSize_collection, encodedSize_collection, filter_membersWithoutEmpty]
      exact layout.elementsSize_map fun inner belongs => ih inner (List.mem_filter.mp belongs).1

end Geometry

/-- What an encoding depends on: the layout of the root, whether there is anything to write, whether
it is refused, and the tree without its empty members. -/
theorem ReferencedGeometry.encode_congr {left right : ReferencedGeometry} {format : Format}
    {limit : Nat} (layout : left.rootLayout format limit = right.rootLayout format limit)
    (isEmpty : left.geometry.isEmpty = right.geometry.isEmpty)
    (xym : left.geometry.anyCoord (fun coord => coord.dimension == .xym) =
      right.geometry.anyCoord (fun coord => coord.dimension == .xym))
    (written : left.geometry.withoutEmpty = right.geometry.withoutEmpty) (order : ByteOrder) :
    left.encode format order limit = right.encode format order limit := by
  have size (layout : Layout) :
      left.geometry.encodedSize layout = right.geometry.encodedSize layout := by
    rw [← Geometry.encodedSize_withoutEmpty, written, Geometry.encodedSize_withoutEmpty]
  have emission (layout : Layout) :
      left.geometry.emission layout order = right.geometry.emission layout order := by
    rw [← Geometry.emission_withoutEmpty, written, Geometry.emission_withoutEmpty]
  have plan : left.plan format limit = right.plan format limit := by
    unfold ReferencedGeometry.plan
    rw [isEmpty, xym, layout]
    simp only [size]
  rw [encode_eq, encode_eq, plan]
  simp only [emission]

/-!
## Members added anywhere
-/

namespace Geometry

/-- The second tree has one member more, at any place of a multi-geometry or collection at any
depth, and the member has the given property. -/
inductive Gains (added : Geometry → Prop) : Geometry → Geometry → Prop where
  | point {before after : List Point} {pt : Point} : added (.point pt) →
      Gains added (.multiPoint (before ++ after)) (.multiPoint (before ++ pt :: after))
  | lineString {before after : List LineString} {line : LineString} : added (.lineString line) →
      Gains added (.multiLineString (before ++ after)) (.multiLineString (before ++ line :: after))
  | polygon {before after : List Polygon} {poly : Polygon} : added (.polygon poly) →
      Gains added (.multiPolygon (before ++ after)) (.multiPolygon (before ++ poly :: after))
  | member {before after : List Geometry} {inner : Geometry} : added inner →
      Gains added (.collection (before ++ after)) (.collection (before ++ inner :: after))
  | inside {before after : List Geometry} {inner gained : Geometry} : Gains added inner gained →
      Gains added (.collection (before ++ inner :: after)) (.collection (before ++ gained :: after))

variable {added : Geometry → Prop} {left right : Geometry}

theorem Gains.isEmpty_eq (gains : Gains added left right)
    (hollow : ∀ member, added member → member.isEmpty = true) : left.isEmpty = right.isEmpty := by
  induction gains with
  | @point before after pt permitted =>
      have emptyPoint : pt.isEmpty = true := hollow _ permitted
      simp [isEmpty, emptyPoint]
  | @lineString before after line permitted =>
      have emptyLine : line.isEmpty = true := hollow _ permitted
      simp [isEmpty, emptyLine]
  | @polygon before after poly permitted =>
      have emptyPolygon : poly.isEmpty = true := hollow _ permitted
      simp [isEmpty, emptyPolygon]
  | member permitted => simp [isEmpty, areEmpty_eq, hollow _ permitted]
  | inside _ ih => simp [isEmpty, areEmpty_eq, ih]

theorem Gains.withoutEmpty_eq (gains : Gains added left right)
    (hollow : ∀ member, added member → member.isEmpty = true) :
    left.withoutEmpty = right.withoutEmpty := by
  induction gains with
  | @point before after pt permitted =>
      have emptyPoint : pt.isEmpty = true := hollow _ permitted
      simp [withoutEmpty, emptyPoint]
  | @lineString before after line permitted =>
      have emptyLine : line.isEmpty = true := hollow _ permitted
      simp [withoutEmpty, emptyLine]
  | @polygon before after poly permitted =>
      have emptyPolygon : poly.isEmpty = true := hollow _ permitted
      simp [withoutEmpty, emptyPolygon]
  | member permitted => simp [withoutEmpty, membersWithoutEmpty_eq, hollow _ permitted]
  | @inside _ _ inner gained further ih =>
      have sameEmpty := further.isEmpty_eq hollow
      simp only [withoutEmpty, membersWithoutEmpty_eq, List.filter_append, List.map_append]
      cases isEmpty : gained.isEmpty <;> simp [sameEmpty, isEmpty, ih]

theorem Gains.coords_eq (gains : Gains added left right)
    (bare : ∀ member, added member → member.coords = []) : left.coords = right.coords := by
  induction gains with
  | @point before after pt permitted =>
      have none : pt.position? = .none := by simpa [coords] using bare _ permitted
      simp [coords, none]
  | @lineString before after line permitted =>
      have none : line = [] := bare _ permitted
      simp [coords, none]
  | @polygon before after poly permitted =>
      have none : poly.coords = [] := bare _ permitted
      simp [coords, none]
  | member permitted => simp [coords, coordsOf_eq, bare _ permitted]
  | inside _ ih => simp [coords, coordsOf_eq, ih]

/-- What no added member changes is the same after any number of additions and removals. -/
theorem eq_of_eqvGen_gains {β : Type} (read : Geometry → β)
    (step : ∀ left right, Gains added left right → read left = read right)
    (related : Relation.EqvGen (Gains added) left right) : read left = read right :=
  congrArg (Quot.lift read step) (Quot.eqvGen_sound related)

end Geometry

theorem ReferencedGeometry.encode_eq_of_sameDimension {left right : Geometry}
    (isEmpty : left.isEmpty = right.isEmpty) (written : left.withoutEmpty = right.withoutEmpty)
    (dimension : left.dimension = right.dimension)
    (xym : left.anyCoord (fun coord => coord.dimension == .xym) =
      right.anyCoord (fun coord => coord.dimension == .xym))
    (srid : Int32) (format : Format) (order : ByteOrder) (limit : Nat) :
    ReferencedGeometry.encode format order limit ⟨srid, left⟩ =
      ReferencedGeometry.encode format order limit ⟨srid, right⟩ := by
  have layout : rootLayout format limit ⟨srid, left⟩ = rootLayout format limit ⟨srid, right⟩ := by
    simp only [rootLayout, dimension]
  exact encode_congr layout isEmpty xym written order

/-- Members without a coordinate can be added and removed anywhere without any effect. Of empty
members in general this holds as far as they decide neither the dimension nor the refusal. -/
theorem encode_eq_of_emptyMembers (left right : Geometry) :
    (Relation.EqvGen (Geometry.Gains fun member => member.coords = []) left right →
      left.firstCoord? = right.firstCoord? ∧ left.dimension = right.dimension ∧
        left.isEmpty = right.isEmpty ∧
        (∀ holds, left.anyCoord holds = right.anyCoord holds) ∧
        ∀ srid format order limit, ReferencedGeometry.encode format order limit ⟨srid, left⟩ =
          ReferencedGeometry.encode format order limit ⟨srid, right⟩) ∧
    (Relation.EqvGen (Geometry.Gains fun member => member.isEmpty = true) left right →
      left.isEmpty = right.isEmpty ∧
        (left.dimension = right.dimension →
          left.anyCoord (fun coord => coord.dimension == .xym) =
            right.anyCoord (fun coord => coord.dimension == .xym) →
          ∀ srid format order limit, ReferencedGeometry.encode format order limit ⟨srid, left⟩ =
            ReferencedGeometry.encode format order limit ⟨srid, right⟩)) := by
  have bare (member : Geometry) (none : member.coords = []) : member.isEmpty = true :=
    Geometry.isEmpty_of_coords_eq_nil none
  constructor
  · intro related
    have coords : left.coords = right.coords :=
      Geometry.eq_of_eqvGen_gains Geometry.coords
        (fun _ _ gains => gains.coords_eq fun _ => id) related
    have isEmpty : left.isEmpty = right.isEmpty :=
      Geometry.eq_of_eqvGen_gains Geometry.isEmpty (fun _ _ gains => gains.isEmpty_eq bare) related
    have written : left.withoutEmpty = right.withoutEmpty :=
      Geometry.eq_of_eqvGen_gains Geometry.withoutEmpty
        (fun _ _ gains => gains.withoutEmpty_eq bare) related
    have first : left.firstCoord? = right.firstCoord? := by
      rw [Geometry.firstCoord?_eq_head?, Geometry.firstCoord?_eq_head?, coords]
    have dimension : left.dimension = right.dimension := by
      simp only [Geometry.dimension, first]
    have any (holds : Coordinate → Bool) : left.anyCoord holds = right.anyCoord holds := by
      rw [Geometry.anyCoord_eq_any_coords, Geometry.anyCoord_eq_any_coords, coords]
    exact ⟨first, dimension, isEmpty, any,
      ReferencedGeometry.encode_eq_of_sameDimension isEmpty written dimension (any _)⟩
  · intro related
    have isEmpty : left.isEmpty = right.isEmpty :=
      Geometry.eq_of_eqvGen_gains Geometry.isEmpty
        (fun _ _ gains => gains.isEmpty_eq fun _ => id) related
    have written : left.withoutEmpty = right.withoutEmpty :=
      Geometry.eq_of_eqvGen_gains Geometry.withoutEmpty
        (fun _ _ gains => gains.withoutEmpty_eq fun _ => id) related
    exact ⟨isEmpty, ReferencedGeometry.encode_eq_of_sameDimension isEmpty written⟩

/-- A point of two NaN is taken out of a multi-point and an empty line string put in front of it; an
empty polygon is added whose hole has the dimension of the others. -/
theorem encode_eq_of_emptyMembers_nested :
    let placed : Point := ⟨some (.xy ⟨1⟩ ⟨2⟩)⟩
    let unplaced : Point := ⟨some ⟨.missing, .missing, some ⟨1⟩, some ⟨2⟩⟩⟩
    let left : Geometry := .collection [.multiPoint [unplaced, placed]]
    let right : Geometry := .collection [.lineString [], .multiPoint [placed]]
    let ring : Ring := ⟨[.xy ⟨0⟩ ⟨0⟩, .xy ⟨0⟩ ⟨0⟩], rfl⟩
    let alone : Geometry := .multiPolygon [⟨ring, []⟩]
    let joined : Geometry := .multiPolygon [⟨.empty, [ring]⟩, ⟨ring, []⟩]
    (left.dimension = right.dimension ∧
      ∀ srid format order limit, ReferencedGeometry.encode format order limit ⟨srid, left⟩ =
        ReferencedGeometry.encode format order limit ⟨srid, right⟩) ∧
      ∀ srid format order limit, ReferencedGeometry.encode format order limit ⟨srid, alone⟩ =
        ReferencedGeometry.encode format order limit ⟨srid, joined⟩ := by
  intro placed unplaced left right ring alone joined
  have removed : Geometry.Gains (fun member => member.coords = [])
      (.collection ([] ++ .multiPoint ([] ++ [placed]) :: [])) left :=
    .inside (.point rfl)
  have added : Geometry.Gains (fun member => member.coords = [])
      (.collection ([] ++ [.multiPoint [placed]])) right :=
    .member rfl
  have hollow : Geometry.Gains (fun member => member.isEmpty = true)
      (.multiPolygon ([] ++ [⟨ring, []⟩])) joined :=
    .polygon rfl
  obtain ⟨_, dimension, _, _, sameBlob⟩ := (encode_eq_of_emptyMembers left right).1
    (.trans _ _ _ (.symm _ _ (.rel _ _ removed)) (.rel _ _ added))
  obtain ⟨_, sameBlobs⟩ := (encode_eq_of_emptyMembers alone joined).2 (.rel _ _ hollow)
  exact ⟨⟨dimension, sameBlob⟩, sameBlobs rfl rfl⟩

/-- A polygon without an exterior is empty, but the Z of its hole makes a planar tree spatial. -/
theorem emptyMember_decides_dimension :
    let ring : Ring := ⟨[.xy ⟨0⟩ ⟨0⟩, .xy ⟨0⟩ ⟨0⟩], rfl⟩
    let raised : Ring := ⟨[.xyz ⟨0⟩ ⟨0⟩ ⟨1⟩, .xyz ⟨0⟩ ⟨0⟩ ⟨1⟩], rfl⟩
    let alone : Geometry := .multiPolygon [⟨ring, []⟩]
    let joined : Geometry := .multiPolygon [⟨.empty, [raised]⟩, ⟨ring, []⟩]
    Geometry.Gains (fun member => member.isEmpty = true) alone joined ∧
      alone.firstCoord? ≠ joined.firstCoord? ∧ alone.dimension ≠ joined.dimension ∧
      (alone.anyCoord fun coord => coord.dimension.hasZ) ≠
        (joined.anyCoord fun coord => coord.dimension.hasZ) ∧
      ReferencedGeometry.encode .ewkb .little 64 ⟨4326, alone⟩ ≠
        ReferencedGeometry.encode .ewkb .little 64 ⟨4326, joined⟩ := by
  intro ring raised alone joined
  have hollow : Geometry.Gains (fun member => member.isEmpty = true)
      (.multiPolygon ([] ++ [⟨ring, []⟩])) joined :=
    .polygon rfl
  refine ⟨hollow, by decide, by decide, by decide, ?_⟩
  intro same
  have sameLength := congrArg (fun outcome => outcome.toOption.join.map List.length) same
  exact absurd sameLength (by decide)

end GeoWire
