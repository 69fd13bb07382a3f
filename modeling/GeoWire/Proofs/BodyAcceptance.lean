import GeoWire.Geometry.Nesting
import GeoWire.Proofs.HeaderAcceptance

/-!
# Accepted bodies

The bodies that the decoders accept are those of the grammar, up to the levels of members that are
left. Items of fixed byte order come first, then members, whose headers may switch it.
-/

set_option autoImplicit false

namespace GeoWire

open Grammar

theorem Coordinate.dimension_eq_iff {coord : Coordinate} {dimension : Dimension} :
    coord.dimension = dimension ↔
      coord.z?.isSome = dimension.hasZ ∧ coord.m?.isSome = dimension.hasM := by
  rcases coord with ⟨x, y, _ | z, _ | m⟩ <;> cases dimension <;>
    simp [Coordinate.dimension, Dimension.ofFlags, Dimension.hasZ, Dimension.hasM]

/-!
## Items in the order that is set
-/

namespace Decoder

variable {α : Type}

/-- The decoder keeps the byte order and accepts the spellings of valid values in it. -/
structure Spells (item : Decoder α) (valid : α → Prop) (spelling : ByteOrder → α → List UInt8) :
    Prop where
  accepts_iff {known final : Option ByteOrder} {bytes : List UInt8} {value : α} :
    item.Accepts known bytes value final ↔
      ∃ order, known = some order ∧ final = some order ∧ valid value ∧ bytes = spelling order value

theorem Spells.acceptsRow_iff {item : Decoder α} {valid : α → Prop}
    {spelling : ByteOrder → α → List UInt8} (spells : item.Spells valid spelling)
    {order : ByteOrder} {final : Option ByteOrder} {bytes : List UInt8} {values : List α} :
    item.AcceptsRow (some order) bytes values final ↔
      final = some order ∧ (∀ value ∈ values, valid value) ∧
        bytes = values.flatMap (spelling order) := by
  constructor
  · intro row
    generalize start : some order = known at row
    induction row with
    | nil => exact ⟨rfl, by simp, rfl⟩
    | cons accepted _ ih =>
        obtain ⟨_, rfl, rfl, validFirst, rfl⟩ := spells.accepts_iff.mp accepted
        cases start
        obtain ⟨rfl, validRest, rfl⟩ := ih rfl
        exact ⟨rfl, List.forall_mem_cons.mpr ⟨validFirst, validRest⟩, rfl⟩
  · intro parts
    obtain ⟨rfl, allValid, rfl⟩ := parts
    induction values with
    | nil => exact .nil
    | cons value values ih =>
        obtain ⟨validFirst, validRest⟩ := List.forall_mem_cons.mp allValid
        exact .cons (spells.accepts_iff.mpr ⟨order, rfl, rfl, validFirst, rfl⟩) (ih validRest)

theorem Spells.counted {item : Decoder α} {valid : α → Prop}
    {spelling : ByteOrder → α → List UInt8} (spells : item.Spells valid spelling) (itemSize : Nat) :
    (counted itemSize item).Spells
      (fun values => values.length < UInt32.size ∧ ∀ value ∈ values, valid value)
      (fun order values => countBytes order values.length ++ values.flatMap (spelling order)) := by
  constructor
  intro known final bytes values
  rw [accepts_counted_iff]
  constructor
  · intro accepted
    obtain ⟨order, tail, rfl, countable, rfl, row⟩ := accepted
    obtain ⟨rfl, allValid, rfl⟩ := spells.acceptsRow_iff.mp row
    exact ⟨order, rfl, rfl, ⟨countable, allValid⟩, rfl⟩
  · intro parts
    obtain ⟨order, rfl, rfl, ⟨countable, allValid⟩, rfl⟩ := parts
    exact ⟨order, _, rfl, countable, rfl, spells.acceptsRow_iff.mpr ⟨rfl, allValid, rfl⟩⟩

theorem Spells.takesAtLeast {item : Decoder α} {valid : α → Prop}
    {spelling : ByteOrder → α → List UInt8} (spells : item.Spells valid spelling) {size : Nat}
    (large : ∀ order value, valid value → size ≤ (spelling order value).length) :
    item.TakesAtLeast size := by
  intro known final bytes value accepted
  obtain ⟨order, rfl, rfl, validValue, rfl⟩ := spells.accepts_iff.mp accepted
  exact large order value validValue

theorem double_spells :
    (one .double).Spells (fun _ => True) (fun order => FieldType.encode order .double) := by
  constructor
  intro known final bytes value
  rw [accepts_one_iff]
  constructor
  · intro accepted
    obtain ⟨order, impossible | rfl, rfl, rfl⟩ := accepted
    · cases impossible
    · exact ⟨order, rfl, rfl, trivial, rfl⟩
  · intro parts
    obtain ⟨order, rfl, rfl, _, rfl⟩ := parts
    exact ⟨order, .inr rfl, rfl, rfl⟩

theorem accepts_ordinateIf_iff {isThere : Bool} {order : ByteOrder} {final : Option ByteOrder}
    {bytes : List UInt8} {ordinate? : Option Ordinate} :
    (ordinateIf isThere).Accepts (some order) bytes ordinate? final ↔
      final = some order ∧ ordinate?.isSome = isThere ∧
        bytes = ordinate?.toList.flatMap (FieldType.encode order .double) := by
  cases isThere with
  | false =>
      simp only [ordinateIf, Bool.false_eq_true, ↓reduceIte, accepts_pure_iff]
      cases ordinate? with
      | none => simp [and_comm]
      | some _ => simp
  | true =>
      simp only [ordinateIf, ↓reduceIte, accepts_map_iff]
      constructor
      · intro accepted
        obtain ⟨value, read, rfl⟩ := accepted
        obtain ⟨_, same, rfl, _, rfl⟩ := double_spells.accepts_iff.mp read
        cases same
        exact ⟨rfl, rfl, (List.append_nil _).symm⟩
      · intro parts
        obtain ⟨rfl, present, rfl⟩ := parts
        cases ordinate? with
        | none => cases present
        | some value =>
            exact ⟨value, double_spells.accepts_iff.mpr ⟨order, rfl, rfl, trivial, List.append_nil _⟩, rfl⟩

theorem coordinate_spells (dimension : Dimension) :
    (coordinate dimension).Spells (fun coord => coord.dimension = dimension) coordinateBytes := by
  constructor
  intro known final bytes coord
  simp only [coordinate, accepts_bind_iff]
  constructor
  · intro accepted
    obtain ⟨_, _, x, _, rfl, readX, _, _, y, _, rfl, readY, _, _, z?, _, rfl, readZ, _, _, m?, _, rfl,
      readM, finished⟩ := accepted
    obtain ⟨rfl, rfl, rfl⟩ := accepts_pure_iff.mp finished
    obtain ⟨order, rfl, rfl, _, rfl⟩ := double_spells.accepts_iff.mp readX
    obtain ⟨_, same, rfl, _, rfl⟩ := double_spells.accepts_iff.mp readY
    cases same
    obtain ⟨rfl, zs, rfl⟩ := accepts_ordinateIf_iff.mp readZ
    obtain ⟨rfl, ms, rfl⟩ := accepts_ordinateIf_iff.mp readM
    refine ⟨order, rfl, rfl, Coordinate.dimension_eq_iff.mpr ⟨zs, ms⟩, ?_⟩
    simp [coordinateBytes, List.flatMap_append]
  · intro parts
    obtain ⟨order, rfl, rfl, sameDimension, rfl⟩ := parts
    obtain ⟨zs, ms⟩ := Coordinate.dimension_eq_iff.mp sameDimension
    refine ⟨_, _, coord.x, _, ?_, double_spells.accepts_iff.mpr ⟨order, rfl, rfl, trivial, rfl⟩, _, _, coord.y, _,
      rfl, double_spells.accepts_iff.mpr ⟨order, rfl, rfl, trivial, rfl⟩, _, _, coord.z?, _, rfl,
      accepts_ordinateIf_iff.mpr ⟨rfl, zs, rfl⟩, _, _, coord.m?, _, rfl,
      accepts_ordinateIf_iff.mpr ⟨rfl, ms, rfl⟩, .done⟩
    simp [coordinateBytes, List.flatMap_append]

theorem lineString_spells (dimension : Dimension) :
    (lineString dimension).Spells (Spellable dimension) lineBytes :=
  (coordinate_spells dimension).counted _

theorem ring_spells (dimension : Dimension) :
    (ring dimension).Spells (fun ring => Spellable dimension ring.coords)
      (fun order ring => lineBytes order ring.coords) := by
  constructor
  intro known final bytes result
  rw [ring, accepts_bind_iff]
  constructor
  · intro accepted
    obtain ⟨_, _, line, _, rfl, read, checked⟩ := accepted
    obtain ⟨order, rfl, rfl, spellable, rfl⟩ := (lineString_spells dimension).accepts_iff.mp read
    obtain ⟨rfl, closed, rfl⟩ := accepts_require_iff.mp checked
    unfold Ring.ofClosed? at closed
    split at closed
    · cases closed
      exact ⟨order, rfl, rfl, spellable, List.append_nil _⟩
    · cases closed
  · intro parts
    obtain ⟨order, rfl, rfl, spellable, rfl⟩ := parts
    exact ⟨_, [], result.coords, _, (List.append_nil _).symm,
      (lineString_spells dimension).accepts_iff.mpr ⟨order, rfl, rfl, spellable, rfl⟩,
      accepts_require_iff.mpr ⟨rfl, dif_pos result.closed, rfl⟩⟩

theorem polygon_accepts_iff {dimension : Dimension} {known final : Option ByteOrder}
    {bytes : List UInt8} {poly : Polygon} :
    (polygon dimension).Accepts known bytes poly final ↔
      ∃ order rings, known = some order ∧ final = some order ∧ rings.length < UInt32.size ∧
        (∀ ring ∈ rings, Spellable dimension ring.coords) ∧ Polygon.ofRings rings = poly ∧
        bytes = countBytes order rings.length ++
          rings.flatMap fun ring => lineBytes order ring.coords := by
  rw [polygon, accepts_map_iff]
  constructor
  · intro accepted
    obtain ⟨rings, accepted, rfl⟩ := accepted
    obtain ⟨order, rfl, rfl, ⟨countable, spellable⟩, rfl⟩ :=
      ((ring_spells dimension).counted 4).accepts_iff.mp accepted
    exact ⟨order, rings, rfl, rfl, countable, spellable, rfl, rfl⟩
  · intro parts
    obtain ⟨order, rings, rfl, rfl, countable, spellable, rfl, rfl⟩ := parts
    exact ⟨rings, ((ring_spells dimension).counted 4).accepts_iff.mpr
      ⟨order, rfl, rfl, ⟨countable, spellable⟩, rfl⟩, rfl⟩

theorem point_accepts_iff {dimension : Dimension} {known final : Option ByteOrder}
    {bytes : List UInt8} {pt : Point} :
    (point dimension).Accepts known bytes pt final ↔
      ∃ order coord, known = some order ∧ final = some order ∧ coord.dimension = dimension ∧
        pointOf coord = pt ∧ bytes = coordinateBytes order coord := by
  rw [point, bind_pure_comp, accepts_map_iff]
  constructor
  · intro accepted
    obtain ⟨coord, accepted, rfl⟩ := accepted
    obtain ⟨order, rfl, rfl, sameDimension, rfl⟩ := (coordinate_spells dimension).accepts_iff.mp accepted
    exact ⟨order, coord, rfl, rfl, sameDimension, rfl, rfl⟩
  · intro parts
    obtain ⟨order, coord, rfl, rfl, sameDimension, rfl, rfl⟩ := parts
    exact ⟨coord, (coordinate_spells dimension).accepts_iff.mpr
      ⟨order, rfl, rfl, sameDimension, rfl⟩, rfl⟩

/-!
## Bodies of geometries
-/

/-- In a native tree only the order of the root may be known. A standard tree leaves it open. -/
def Settled (isNative : Bool) (order : ByteOrder) (known : Option ByteOrder) : Prop :=
  isNative = true → known = some order

/-- The decoder accepts exactly the bodies of allowed geometries that have the given form. -/
structure ReadsBodies (context : BodyContext) (allowed : Geometry → Prop) (form : α → Geometry)
    (decoder : Decoder α) : Prop where
  sound {known final : Option ByteOrder} {bytes : List UInt8} {value : α} :
    decoder.Accepts known bytes value final →
      ∃ order, known = some order ∧ Settled context.isNative order final ∧ allowed (form value) ∧
        Body context.isNative context.dimension order (form value) bytes
  complete {order : ByteOrder} {bytes : List UInt8} {value : α} :
    Body context.isNative context.dimension order (form value) bytes → allowed (form value) →
      ∃ final, decoder.Accepts (some order) bytes value final ∧
        Settled context.isNative order final

/-- The decoder accepts exactly the members of allowed geometries that have the given form, each
behind a header of its own. -/
structure ReadsMembers (context : BodyContext) (allowed : Geometry → Prop) (form : α → Geometry)
    (item : Decoder α) : Prop where
  sound {outer : ByteOrder} {known final : Option ByteOrder} {bytes : List UInt8} {value : α} :
    Settled context.isNative outer known → item.Accepts known bytes value final →
      ∃ inner head body, bytes = head ++ body ∧ Settled context.isNative outer final ∧
        allowed (form value) ∧
        MemberHeader context.dimension context.isNative outer inner (form value).kind head ∧
        Body context.isNative context.dimension inner (form value) body
  complete {outer inner : ByteOrder} {known : Option ByteOrder} {head body : List UInt8}
      {value : α} :
    Settled context.isNative outer known →
      MemberHeader context.dimension context.isNative outer inner (form value).kind head →
      Body context.isNative context.dimension inner (form value) body → allowed (form value) →
      ∃ final, item.Accepts known (head ++ body) value final ∧
        Settled context.isNative outer final

variable {context : BodyContext} {allowed : Geometry → Prop} {form : α → Geometry}

private theorem settled_inner {isNative : Bool} {dimension : Dimension} {outer inner : ByteOrder}
    {kind : Kind} {head : List UInt8} (header : MemberHeader dimension isNative outer inner kind head)
    {known : Option ByteOrder} (settled : Settled isNative inner known) :
    Settled isNative outer known := by
  cases header with
  | native => exact settled
  | standard _ => exact fun impossible => nomatch impossible

theorem readsMembers_of_bodies {bodyOf : Kind → Decoder α}
    (reads : ∀ kind, (bodyOf kind).ReadsBodies context
      (fun geometry => geometry.kind = kind ∧ allowed geometry) form) :
    (memberKind context >>= bodyOf).ReadsMembers context allowed form where
  sound := by
    intro outer known final bytes value settled accepted
    obtain ⟨head, body, kind, _, rfl, headed, accepted⟩ := accepts_bind_iff.mp accepted
    obtain ⟨inner, rfl, header⟩ := (accepts_memberKind_iff settled).mp headed
    obtain ⟨_, same, settledAfter, ⟨rfl, permitted⟩, spelled⟩ := (reads kind).sound accepted
    cases same
    exact ⟨inner, head, body, rfl, settled_inner header settledAfter, permitted, header, spelled⟩
  complete := by
    intro outer inner known head body value settled header spelled permitted
    obtain ⟨final, accepted, settledAfter⟩ := (reads _).complete spelled ⟨rfl, permitted⟩
    have headed := (accepts_memberKind_iff settled).mpr ⟨inner, rfl, header⟩
    exact ⟨final, headed.bind accepted, settled_inner header settledAfter⟩

theorem ReadsMembers.row_sound {item : Decoder α} (reads : item.ReadsMembers context allowed form)
    {outer : ByteOrder} {known final : Option ByteOrder} {bytes : List UInt8} {values : List α}
    (settled : Settled context.isNative outer known)
    (row : item.AcceptsRow known bytes values final) :
    Settled context.isNative outer final ∧ (∀ value ∈ values, allowed (form value)) ∧
      Members context.isNative context.dimension outer (values.map form) bytes := by
  induction row with
  | nil => exact ⟨settled, by simp, .nil⟩
  | cons accepted _ ih =>
      obtain ⟨inner, head, body, rfl, settledAfter, permitted, header, spelled⟩ :=
        reads.sound settled accepted
      obtain ⟨settledLast, others, members⟩ := ih settledAfter
      exact ⟨settledLast, List.forall_mem_cons.mpr ⟨permitted, others⟩,
        .cons header spelled members⟩

theorem ReadsMembers.row_complete {item : Decoder α}
    (reads : item.ReadsMembers context allowed form) {outer : ByteOrder} {known : Option ByteOrder}
    {bytes : List UInt8} {values : List α} (settled : Settled context.isNative outer known)
    (permitted : ∀ value ∈ values, allowed (form value))
    (members : Members context.isNative context.dimension outer (values.map form) bytes) :
    ∃ final, item.AcceptsRow known bytes values final ∧
      Settled context.isNative outer final := by
  induction values generalizing known bytes with
  | nil =>
      cases members
      exact ⟨known, .nil, settled⟩
  | cons value values ih =>
      obtain ⟨permittedFirst, permittedRest⟩ := List.forall_mem_cons.mp permitted
      rw [List.map_cons] at members
      cases members with
      | cons header spelled others =>
          obtain ⟨middle, accepted, settledAfter⟩ :=
            reads.complete settled header spelled permittedFirst
          obtain ⟨final, row, settledLast⟩ := ih settledAfter permittedRest others
          exact ⟨final, .cons accepted row, settledLast⟩

/-- A count and as many members make the body of a geometry that is made of them. -/
theorem ReadsMembers.counted_readsBodies {item : Decoder α}
    (reads : item.ReadsMembers context allowed form) {make : List α → Geometry} {kind : Kind}
    {levels : Nat}
    (body_iff : ∀ {order : ByteOrder} {values : List α} {bytes : List UInt8},
      Body context.isNative context.dimension order (make values) bytes ↔
        values.length < UInt32.size ∧ ∃ tail, bytes = countBytes order values.length ++ tail ∧
          Members context.isNative context.dimension order (values.map form) tail)
    (made : ∀ {geometry : Geometry}, geometry.kind = kind → ∃ values, make values = geometry)
    (makes : ∀ values, (make values).kind = kind)
    (nesting_le : ∀ {values : List α},
      (make values).nesting ≤ levels ↔ ∀ value ∈ values, allowed (form value)) :
    (make <$> counted 1 item).ReadsBodies context
      (fun geometry => geometry.kind = kind ∧ geometry.nesting ≤ levels) id where
  sound := by
    intro known final bytes geometry accepted
    obtain ⟨values, countedRow, rfl⟩ := accepts_map_iff.mp accepted
    obtain ⟨order, tail, rfl, countable, rfl, row⟩ := accepts_counted_iff.mp countedRow
    obtain ⟨settled, permitted, members⟩ := reads.row_sound (fun _ => rfl) row
    exact ⟨order, rfl, settled, ⟨makes values, nesting_le.mpr permitted⟩,
      body_iff.mpr ⟨countable, tail, rfl, members⟩⟩
  complete := by
    intro order bytes geometry spelled permitted
    obtain ⟨sameKind, bounded⟩ := permitted
    obtain ⟨values, rfl⟩ := made sameKind
    obtain ⟨countable, tail, rfl, members⟩ := body_iff.mp spelled
    obtain ⟨final, row, settled⟩ :=
      reads.row_complete (fun _ => rfl) (nesting_le.mp bounded) members
    exact ⟨final, accepts_map_iff.mpr
      ⟨values, accepts_counted_iff.mpr ⟨order, tail, rfl, countable, rfl, row⟩, rfl⟩, settled⟩

theorem ReadsBodies.map {decoder : Decoder α}
    (reads : decoder.ReadsBodies context (fun _ => True) form) {kind : Kind} {levels : Nat}
    (formed : ∀ {order : ByteOrder} {geometry : Geometry} {bytes : List UInt8},
      Body context.isNative context.dimension order geometry bytes → geometry.kind = kind →
        ∃ value, form value = geometry)
    (forms : ∀ value, (form value).kind = kind) (flat : ∀ value, (form value).nesting = 0) :
    (form <$> decoder).ReadsBodies context
      (fun geometry => geometry.kind = kind ∧ geometry.nesting ≤ levels) id where
  sound := by
    intro known final bytes geometry accepted
    obtain ⟨value, read, rfl⟩ := accepts_map_iff.mp accepted
    obtain ⟨order, rfl, settled, _, spelled⟩ := reads.sound read
    exact ⟨order, rfl, settled, ⟨forms value, by simp [flat]⟩, spelled⟩
  complete := by
    intro order bytes geometry spelled permitted
    obtain ⟨sameKind, _⟩ := permitted
    obtain ⟨value, rfl⟩ := formed spelled sameKind
    obtain ⟨final, read, settled⟩ := reads.complete spelled trivial
    exact ⟨final, accepts_map_iff.mpr ⟨value, read, rfl⟩, settled⟩

theorem point_readsBodies (context : BodyContext) :
    (point context.dimension).ReadsBodies context (fun _ => True) .point where
  sound := by
    intro known final bytes pt accepted
    obtain ⟨order, coord, rfl, rfl, sameDimension, rfl, rfl⟩ := point_accepts_iff.mp accepted
    exact ⟨order, rfl, fun _ => rfl, trivial, .point sameDimension⟩
  complete := by
    intro order bytes pt spelled _
    cases spelled with
    | @point _ coord sameDimension =>
        exact ⟨some order, point_accepts_iff.mpr
          ⟨order, coord, rfl, rfl, sameDimension, rfl, rfl⟩, fun _ => rfl⟩

theorem lineString_readsBodies (context : BodyContext) :
    (lineString context.dimension).ReadsBodies context (fun _ => True) .lineString where
  sound := by
    intro known final bytes line accepted
    obtain ⟨order, rfl, rfl, spellable, rfl⟩ := (lineString_spells _).accepts_iff.mp accepted
    exact ⟨order, rfl, fun _ => rfl, trivial, .lineString spellable⟩
  complete := by
    intro order bytes line spelled _
    cases spelled with
    | lineString spellable =>
        exact ⟨some order, (lineString_spells _).accepts_iff.mpr
          ⟨order, rfl, rfl, spellable, rfl⟩, fun _ => rfl⟩

theorem polygon_readsBodies (context : BodyContext) :
    (polygon context.dimension).ReadsBodies context (fun _ => True) .polygon where
  sound := by
    intro known final bytes poly accepted
    obtain ⟨order, rings, rfl, rfl, countable, spellable, rfl, rfl⟩ :=
      polygon_accepts_iff.mp accepted
    exact ⟨order, rfl, fun _ => rfl, trivial, .polygon countable spellable⟩
  complete := by
    intro order bytes poly spelled _
    cases spelled with
    | @polygon _ rings countable spellable =>
        exact ⟨some order, polygon_accepts_iff.mpr
          ⟨order, rings, rfl, rfl, countable, spellable, rfl, rfl⟩, fun _ => rfl⟩

theorem element_readsMembers {decoder : Decoder α}
    (reads : decoder.ReadsBodies context (fun _ => True) form) {expected : Kind}
    (forms : ∀ value, (form value).kind = expected) :
    (element context expected decoder).ReadsMembers context (fun _ => True) form := by
  apply readsMembers_of_bodies
  intro kind
  by_cases found : kind = expected
  · rw [if_pos found]
    subst found
    constructor
    · intro known final bytes value accepted
      obtain ⟨order, rfl, settled, _, spelled⟩ := reads.sound accepted
      exact ⟨order, rfl, settled, ⟨forms value, trivial⟩, spelled⟩
    · intro order bytes value spelled _
      exact reads.complete spelled trivial
  · rw [if_neg found]
    constructor
    · intro known final bytes value accepted
      exact absurd accepted not_accepts_fail
    · intro order bytes value _ permitted
      obtain ⟨sameKind, _⟩ := permitted
      exact absurd (sameKind.symm.trans (forms value)) found

private theorem flat_body_readsBodies (context : BodyContext) (levels : Nat) :
    (Geometry.point <$> point context.dimension).ReadsBodies context
        (fun geometry => geometry.kind = .point ∧ geometry.nesting ≤ levels) id ∧
      (Geometry.lineString <$> lineString context.dimension).ReadsBodies context
        (fun geometry => geometry.kind = .lineString ∧ geometry.nesting ≤ levels) id ∧
      (Geometry.polygon <$> polygon context.dimension).ReadsBodies context
        (fun geometry => geometry.kind = .polygon ∧ geometry.nesting ≤ levels) id := by
  refine ⟨(point_readsBodies context).map ?_ (fun _ => rfl) (fun _ => rfl),
    (lineString_readsBodies context).map ?_ (fun _ => rfl) (fun _ => rfl),
    (polygon_readsBodies context).map ?_ (fun _ => rfl) (fun _ => rfl)⟩
  all_goals
    intro order geometry bytes spelled sameKind
    cases spelled <;> cases sameKind
    exact ⟨_, rfl⟩

private theorem multi_body_readsBodies (context : BodyContext) (levels : Nat) :
    (Geometry.multiPoint <$> elements context .point (point context.dimension)).ReadsBodies context
        (fun geometry => geometry.kind = .multiPoint ∧ geometry.nesting ≤ levels + 1) id ∧
      (Geometry.multiLineString <$>
          elements context .lineString (lineString context.dimension)).ReadsBodies context
        (fun geometry => geometry.kind = .multiLineString ∧ geometry.nesting ≤ levels + 1) id ∧
      (Geometry.multiPolygon <$>
          elements context .polygon (polygon context.dimension)).ReadsBodies context
        (fun geometry => geometry.kind = .multiPolygon ∧ geometry.nesting ≤ levels + 1) id := by
  refine ⟨(element_readsMembers (point_readsBodies context) fun _ => rfl).counted_readsBodies
      ?_ ?_ (fun _ => rfl) ?_,
    (element_readsMembers (lineString_readsBodies context) fun _ => rfl).counted_readsBodies
      ?_ ?_ (fun _ => rfl) ?_,
    (element_readsMembers (polygon_readsBodies context) fun _ => rfl).counted_readsBodies
      ?_ ?_ (fun _ => rfl) ?_⟩
  case refine_2 | refine_5 | refine_8 =>
    intro geometry sameKind
    cases geometry <;> cases sameKind
    exact ⟨_, rfl⟩
  case refine_3 | refine_6 | refine_9 =>
    intro values
    simp [Geometry.nesting]
  all_goals
    intro order values bytes
    constructor
    · intro spelled
      cases spelled
      rename_i countable members
      exact ⟨countable, _, rfl, members⟩
    · intro parts
      obtain ⟨countable, tail, rfl, members⟩ := parts
      constructor <;> assumption

theorem body_readsBodies (context : BodyContext) (levels : Nat) (kind : Kind) :
    (body context levels kind).ReadsBodies context
      (fun geometry => geometry.kind = kind ∧ geometry.nesting ≤ levels) id := by
  -- Members are read by the body decoder of one level less, so the levels left carry the induction.
  induction levels generalizing kind with
  | zero =>
      obtain ⟨points, lines, polygons⟩ := flat_body_readsBodies context 0
      have nested {kind : Kind}
          (deep : ∀ {geometry : Geometry}, geometry.kind = kind → 0 < geometry.nesting) :
          (fail (.nestingTooDeep context.limit) : Decoder Geometry).ReadsBodies context
            (fun geometry => geometry.kind = kind ∧ geometry.nesting ≤ 0) id := by
        constructor
        · intro known final bytes geometry accepted
          exact absurd accepted not_accepts_fail
        · intro order bytes geometry _ permitted
          obtain ⟨sameKind, bounded⟩ := permitted
          exact absurd (deep sameKind) (Nat.not_lt.mpr bounded)
      cases kind with
      | point => exact points
      | lineString => exact lines
      | polygon => exact polygons
      | multiPoint | multiLineString | multiPolygon | collection =>
          apply nested
          intro geometry sameKind
          cases geometry <;> cases sameKind
          simp [Geometry.nesting]
  | succ levels ih =>
      obtain ⟨points, lines, polygons⟩ := flat_body_readsBodies context (levels + 1)
      obtain ⟨multiPoints, multiLines, multiPolygons⟩ := multi_body_readsBodies context levels
      cases kind with
      | point => exact points
      | lineString => exact lines
      | polygon => exact polygons
      | multiPoint => exact multiPoints
      | multiLineString => exact multiLines
      | multiPolygon => exact multiPolygons
      | collection =>
          refine (readsMembers_of_bodies ih).counted_readsBodies ?_ ?_ (fun _ => rfl) ?_
          · intro order members bytes
            rw [List.map_id]
            constructor
            · intro spelled
              cases spelled with
              | collection countable members => exact ⟨countable, _, rfl, members⟩
            · intro parts
              obtain ⟨countable, tail, rfl, members⟩ := parts
              exact .collection countable members
          · intro geometry sameKind
            cases geometry <;> cases sameKind
            exact ⟨_, rfl⟩
          · intro members
            simp only [Geometry.nesting, Nat.add_le_add_iff_right, id]
            exact Geometry.nestingOf_le_iff

/-!
## Guards
-/

private theorem one_takesAtLeast (type : FieldType) : (one type).TakesAtLeast type.width := by
  intro known final bytes value accepted
  obtain ⟨order, _, rfl, _⟩ := accepts_one_iff.mp accepted
  exact Nat.le_of_eq (type.length_encode order value).symm

private theorem one_honest (type : FieldType) : (one type).HonestGuards :=
  fun _ => trivial

private theorem ofExcept_honest (outcome : Except DecodeError α) :
    (ofExcept outcome).HonestGuards := by
  cases outcome <;> trivial

private theorem orderOfMarker_honest (marker : UInt8) : (orderOfMarker marker).HonestGuards := by
  unfold orderOfMarker
  split <;> trivial

private theorem sridIf_honest (isThere : Bool) : (sridIf isThere).HonestGuards := by
  cases isThere
  · trivial
  · exact one_honest .int32

private theorem typeField_honest : typeField.HonestGuards :=
  (one_honest .word32).bind fun _ => ofExcept_honest _

private theorem kindByte_honest : kindByte.HonestGuards :=
  (one_honest .byte).bind fun _ => ofExcept_honest _

theorem header_honest : Header.decoder.HonestGuards := by
  refine (one_honest .byte).bind fun lead => ?_
  split
  · refine HonestGuards.bind trivial fun _ => (one_honest .byte).bind fun form => ?_
    split
    · split
      · exact (one_honest .byte).bind fun flags => (ofExcept_honest _).bind fun dimension =>
          (sridIf_honest _).bind fun srid => kindByte_honest.bind fun _ => trivial
      · trivial
    · trivial
  · exact (orderOfMarker_honest lead).bind fun order => typeField_honest.bind fun field =>
      (sridIf_honest _).bind fun _ => trivial

private theorem memberKind_honest (context : BodyContext) : (memberKind context).HonestGuards := by
  unfold memberKind
  split
  · exact kindByte_honest
  · refine (one_honest .byte).bind fun marker => (orderOfMarker_honest marker).bind fun order =>
      typeField_honest.bind fun field => ?_
    split
    · exact (sridIf_honest _).bind fun _ => trivial
    · trivial

private theorem memberKind_takesAtLeast (context : BodyContext) :
    (memberKind context).TakesAtLeast 1 := by
  unfold memberKind
  split
  · exact (one_takesAtLeast .byte).bind
  · exact (one_takesAtLeast .byte).bind

theorem length_coordinateBytes (order : ByteOrder) {coord : Coordinate} {dimension : Dimension}
    (sameDimension : coord.dimension = dimension) :
    (coordinateBytes order coord).length = dimension.size * 8 := by
  obtain ⟨zs, ms⟩ := Coordinate.dimension_eq_iff.mp sameDimension
  rcases coord with ⟨x, y, _ | z, _ | m⟩ <;> cases dimension <;>
    simp_all [coordinateBytes, FieldType.width, Dimension.size, Dimension.hasZ, Dimension.hasM]

private theorem coordinate_honest (dimension : Dimension) : (coordinate dimension).HonestGuards := by
  have ordinate (isThere : Bool) : (ordinateIf isThere).HonestGuards := by
    cases isThere
    · trivial
    · exact (one_honest .double).map
  exact (one_honest .double).bind fun x => (one_honest .double).bind fun y =>
    (ordinate _).bind fun z? => (ordinate _).bind fun _ => trivial

private theorem lineString_honest (dimension : Dimension) :
    (lineString dimension).HonestGuards := by
  apply honestGuards_counted (coordinate_honest dimension)
  apply (coordinate_spells dimension).takesAtLeast
  intro order coord sameDimension
  exact Nat.le_of_eq (length_coordinateBytes order sameDimension).symm

private theorem polygon_honest (dimension : Dimension) : (polygon dimension).HonestGuards := by
  have ringHonest : (ring dimension).HonestGuards := by
    refine (lineString_honest dimension).bind fun line => ?_
    cases Ring.ofClosed? line <;> trivial
  refine (honestGuards_counted ringHonest ?_).map
  apply (ring_spells dimension).takesAtLeast
  intro order ring _
  simp [lineBytes, countBytes, FieldType.width]

private theorem elements_honest (context : BodyContext) (expected : Kind) {decoder : Decoder α}
    (honest : decoder.HonestGuards) : (elements context expected decoder).HonestGuards := by
  refine honestGuards_counted ?_ (memberKind_takesAtLeast context).bind
  refine (memberKind_honest context).bind fun found => ?_
  split
  · exact honest
  · trivial

theorem body_honest (context : BodyContext) (levels : Nat) (kind : Kind) :
    (body context levels kind).HonestGuards := by
  have points : (point context.dimension).HonestGuards :=
    (coordinate_honest _).bind fun _ => trivial
  have lines := lineString_honest context.dimension
  have polygons := polygon_honest context.dimension
  -- Members are read by the body decoder of one level less, so the levels left carry the induction.
  induction levels generalizing kind with
  | zero =>
      cases kind with
      | point => exact points.map
      | lineString => exact lines.map
      | polygon => exact polygons.map
      | multiPoint | multiLineString | multiPolygon | collection => trivial
  | succ levels ih =>
      cases kind with
      | point => exact points.map
      | lineString => exact lines.map
      | polygon => exact polygons.map
      | multiPoint => exact (elements_honest context .point points).map
      | multiLineString => exact (elements_honest context .lineString lines).map
      | multiPolygon => exact (elements_honest context .polygon polygons).map
      | collection =>
          exact (honestGuards_counted ((memberKind_honest context).bind ih)
            (memberKind_takesAtLeast context).bind).map

end Decoder

end GeoWire
