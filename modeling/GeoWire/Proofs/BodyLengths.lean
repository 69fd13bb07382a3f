import GeoWire.Proofs.DecodedTrees
import GeoWire.Proofs.EmptyMembers

/-!
# Lengths of bodies

A tree that has a body can be counted, and in the same dialect family it is measured with no more
bytes than any body of it has: the members that are left out have bytes, and no header of a member is
shorter than the one that is written.
-/

set_option autoImplicit false

namespace GeoWire

open Grammar

/-!
## Counts
-/

theorem Polygon.countable_ofRings {rings : List Ring} (counted : rings.length < UInt32.size)
    (each : ∀ ring ∈ rings, ring.coords.length < UInt32.size) : (ofRings rings).Countable := by
  cases rings with
  | nil =>
      have single : ∀ ring ∈ [Ring.empty], ring.coords.length < UInt32.size := by decide
      exact ⟨by decide, single⟩
  | cons exterior interiors => exact ⟨counted, each⟩

theorem Grammar.Body.countable {isNative : Bool} {dimension : Dimension} {order : ByteOrder}
    {geometry : Geometry} {bytes : List UInt8}
    (spelled : Body isNative dimension order geometry bytes) : geometry.Countable := by
  have kept {α : Type} {items : List α} {keep : α → Bool} (counted : items.length < UInt32.size) :
      (items.filter keep).length < UInt32.size :=
    Nat.lt_of_le_of_lt (List.length_filter_le _ _) counted
  induction geometry using Geometry.nodeInduction generalizing order bytes with
  | step geometry ih =>
      obtain ⟨_, _, _, members, _⟩ := spelled.members
      have each : ∀ member ∈ geometry.members, member.Countable := by
        intro member belongs
        obtain ⟨inner, body, further⟩ := members.spelled member belongs
        exact ih member belongs further
      cases spelled with
      | point => exact .point
      | lineString spellable => exact .lineString spellable.1
      | polygon counted spellable =>
          exact .polygon (Polygon.countable_ofRings counted fun ring belongs =>
            (spellable ring belongs).1)
      | multiPoint counted => exact .multiPoint (kept counted)
      | multiLineString counted =>
          refine .multiLineString (kept counted) ?_
          intro line belongs
          cases each _ (List.mem_map_of_mem (List.mem_filter.mp belongs).1) with
          | lineString fits => exact fits
      | multiPolygon counted =>
          refine .multiPolygon (kept counted) ?_
          intro poly belongs
          cases each _ (List.mem_map_of_mem (List.mem_filter.mp belongs).1) with
          | polygon fits => exact fits
      | collection counted =>
          exact .collection (kept counted) fun inner belongs =>
            each inner (List.mem_filter.mp belongs).1

/-!
## Headers
-/

namespace Grammar

theorem StandardHeader.length {dimension : Dimension} {order : ByteOrder} {kind : Kind}
    {srid? : Option Int32} {head : List UInt8}
    (header : StandardHeader dimension order kind srid? head) :
    head.length = 5 + if srid?.isSome then 4 else 0 := by
  cases header with
  | fields _ => cases srid? <;> simp [FieldType.width]

theorem NativeHeader.length {dimension : Dimension} {order : ByteOrder} {kind : Kind}
    {srid? : Option Int32} {head : List UInt8}
    (header : NativeHeader dimension order kind srid? head) :
    head.length = 4 + if srid?.isSome then 4 else 0 := by
  obtain ⟨_, _, _, _, _, _, _, _, _, rfl⟩ := header
  cases srid? <;> simp [FieldType.width]

/-- A member is never written with a longer header than it was read with. -/
theorem MemberHeader.headerSize_le {layout : Layout} {outer inner : ByteOrder} {kind : Kind}
    {head : List UInt8}
    (header : MemberHeader layout.dimension layout.format.dialect.isNative outer inner kind head) :
    layout.inner.headerSize ≤ head.length := by
  have notRoot : layout.inner.isRoot = false := rfl
  have sameFormat : layout.inner.format = layout.format := rfl
  have unreferenced : layout.inner.headerSrid? = none := rfl
  unfold Layout.headerSize
  rw [notRoot, sameFormat, unreferenced]
  generalize layout.format.dialect.isNative = isNative at header
  cases header with
  | native => exact Nat.le_refl 1
  | standard header =>
      rw [header.length]
      exact Nat.le_add_right 5 _

end Grammar

/-- A root is not written with a longer header than it was read with, if no SRID is added. -/
theorem Decoder.headerSize_le_of_accepts_header {layout : Layout} {known final : Option ByteOrder}
    {head : List UInt8} {header : Header}
    (accepted : Header.decoder.Accepts known head header final) (root : layout.isRoot = true)
    (family : header.dialect.isNative = layout.format.dialect.isNative)
    (referenced : layout.srid?.isSome = true → header.srid ≠ ReferencedGeometry.noSrid) :
    layout.headerSize ≤ head.length := by
  obtain ⟨_, srid?, sameSrid, _, dialect⟩ := accepts_header_iff.mp accepted
  have announced : (if layout.srid?.isSome then 4 else 0) ≤ if srid?.isSome then 4 else 0 := by
    split
    · rename_i embeds
      cases srid? with
      | none => exact absurd sameSrid (referenced embeds)
      | some _ => exact Nat.le_refl 4
    · exact Nat.zero_le _
  unfold Layout.headerSize Layout.headerSrid?
  rw [if_pos root, root, ← family]
  rcases dialect with ⟨dialect, spelled⟩ | ⟨dialect, spelled⟩
  · rw [spelled.length, dialect]
    simp only [Dialect.isNative]
    omega
  · have standard : header.dialect.isNative = false := by
      rw [dialect]
      cases srid? <;> rfl
    rw [spelled.length, standard]
    simp only
    omega

/-!
## Parts of a body
-/

namespace Layout

variable {layout : Layout} {order : ByteOrder}

theorem total_map_length {α : Type} (spell : α → List UInt8) (items : List α) :
    total (items.map fun item => (spell item).length) = (items.flatMap spell).length := by
  induction items with
  | nil => rfl
  | cons item rest ih => rw [List.map_cons, total, ih, List.flatMap_cons, List.length_append]

theorem coordinatesSize_eq_of_spellable {line : LineString}
    (spellable : Spellable layout.dimension line) (order : ByteOrder) :
    layout.coordinatesSize line = .ok (lineBytes order line).length := by
  obtain ⟨counted, uniform⟩ := spellable
  have coords : (line.flatMap (coordinateBytes order)).length = line.length * layout.coordSize := by
    clear counted
    induction line with
    | nil => simp
    | cons coord rest ih =>
        obtain ⟨first, others⟩ := List.forall_mem_cons.mp uniform
        rw [List.flatMap_cons, List.length_append, ih others,
          Decoder.length_coordinateBytes order first,
          List.length_cons, Nat.succ_mul, Nat.add_comm, coordSize]
  rw [coordinatesSize, countSize, if_pos counted, lineBytes, List.length_append, coords]
  simp [countBytes, FieldType.width]

theorem lineStringSize_eq_of_spellable {line : LineString}
    (spellable : Spellable layout.dimension line) (order : ByteOrder) :
    layout.lineStringSize line = .ok (layout.headerSize + (lineBytes order line).length) := by
  rw [lineStringSize, coordinatesSize_eq_of_spellable spellable order]
  rfl

theorem polygonSize_eq_of_spellable {rings : List Ring} (inhabited : rings ≠ [])
    (counted : rings.length < UInt32.size)
    (spellable : ∀ ring ∈ rings, Spellable layout.dimension ring.coords) (order : ByteOrder) :
    layout.polygonSize (.ofRings rings) = .ok (layout.headerSize +
      (countBytes order rings.length ++
        rings.flatMap fun ring => lineBytes order ring.coords).length) := by
  have sameRings : (Polygon.ofRings rings).rings = rings := by
    cases rings with
    | nil => exact absurd rfl inhabited
    | cons exterior interiors => rfl
  have sizes := Outcome.mapM_eq_ok fun ring belongs =>
    coordinatesSize_eq_of_spellable (spellable ring belongs) order
  rw [polygonSize, sameRings, countSize, if_pos counted, sizes, List.length_append,
    ← total_map_length]
  simp [countBytes, FieldType.width, Nat.add_assoc]

theorem countSize_eq_ok {items size : Nat} (counted : countSize items = .ok size) : size = 4 := by
  unfold countSize at counted
  split at counted
  · cases counted
    rfl
  · cases counted

theorem elementsSize_eq_ok {α : Type} {elementSize : Layout → α → Except EncodeError Nat}
    {items : List α} {size : Nat} (measured : layout.elementsSize elementSize items = .ok size) :
    ∃ sizes, items.mapM (elementSize layout.inner) = .ok sizes ∧
      size = layout.headerSize + 4 + total sizes := by
  obtain ⟨member, placed, measured⟩ := Outcome.bind_eq_ok_iff.mp measured
  obtain ⟨_, rfl⟩ := member_eq_ok_iff.mp placed
  obtain ⟨sizes, each, measured⟩ := Outcome.bind_eq_ok_iff.mp measured
  obtain ⟨count, counted, measured⟩ := Outcome.bind_eq_ok_iff.mp measured
  cases measured
  exact ⟨sizes, each, by rw [countSize_eq_ok counted]⟩

end Layout

/-!
## Whole bodies
-/

theorem Geometry.encodedSize_of_nested {geometry : Geometry} (nested : geometry.nesting ≠ 0)
    (layout : Layout) :
    geometry.encodedSize layout = layout.elementsSize encodedSize
      (geometry.members.filter fun member => !member.isEmpty) := by
  cases geometry with
  | point | lineString | linearRing | polygon => exact absurd rfl nested
  | multiPoint points =>
      rw [members, List.filter_map, encodedSize_multiPoint]
      refine (layout.elementsSize_map ?_).symm
      exact fun _ _ _ => rfl
  | multiLineString | multiPolygon =>
      rw [members, List.filter_map, encodedSize]
      refine (layout.elementsSize_map ?_).symm
      exact fun _ _ _ => rfl
  | collection members => exact encodedSize_collection layout members

namespace Grammar

variable {layout : Layout} {order : ByteOrder}

theorem Members.size_le {members : List Geometry} {bytes : List UInt8} {size : Nat}
    (spelled : Members layout.format.dialect.isNative layout.dimension order members bytes)
    (each : ∀ member ∈ members, ∀ inner body size,
      Body layout.format.dialect.isNative layout.dimension inner member body →
      member.isEmpty = false → member.encodedSize layout.inner = .ok size →
      size ≤ layout.inner.headerSize + body.length)
    (measured : Geometry.encodedSizeOf layout.inner members = .ok size) : size ≤ bytes.length := by
  induction members generalizing bytes size with
  | nil =>
      cases measured
      exact Nat.zero_le _
  | cons member rest ih =>
      obtain ⟨first, others⟩ := List.forall_mem_cons.mp each
      cases spelled with
      | @cons _ inner _ _ head body further header bodied spelled =>
          have shorter := header.headerSize_le
          rw [List.length_append, List.length_append]
          unfold Geometry.encodedSizeOf at measured
          split at measured
          · have rest := ih spelled others measured
            omega
          · rename_i inhabited
            obtain ⟨memberSize, memberMeasured, measured⟩ := Outcome.bind_eq_ok_iff.mp measured
            obtain ⟨restSize, restMeasured, measured⟩ := Outcome.bind_eq_ok_iff.mp measured
            cases measured
            have memberFits := first inner body memberSize bodied (Bool.eq_false_iff.mpr inhabited)
              memberMeasured
            have restFits := ih spelled others restMeasured
            omega

/-- A geometry is measured with no more bytes than a header and a body that spells it. -/
theorem Body.size_le {geometry : Geometry} {bytes : List UInt8} {size : Nat}
    (spelled : Body layout.format.dialect.isNative layout.dimension order geometry bytes)
    (inhabited : geometry.isEmpty = false) (measured : geometry.encodedSize layout = .ok size) :
    size ≤ layout.headerSize + bytes.length := by
  induction geometry using Geometry.nodeInduction generalizing layout order bytes size with
  | step geometry ih =>
      by_cases flat : geometry.nesting = 0
      · cases spelled with
        | point sameDimension =>
            cases measured
            have spelledSize := Decoder.length_coordinateBytes order sameDimension
            exact Nat.le_of_eq (congrArg (layout.headerSize + ·) spelledSize.symm)
        | lineString spellable =>
            rw [Geometry.encodedSize,
              Layout.lineStringSize_eq_of_spellable spellable order] at measured
            cases measured
            exact Nat.le_refl _
        | @polygon _ rings counted spellable =>
            have someRing : rings ≠ [] := by
              intro none
              subst none
              cases inhabited
            rw [Geometry.encodedSize,
              Layout.polygonSize_eq_of_spellable someRing counted spellable order] at measured
            cases measured
            exact Nat.le_refl _
        | multiPoint | multiLineString | multiPolygon | collection => cases flat
      · obtain ⟨front, body, rfl, members, counted⟩ := spelled.members
        obtain ⟨_, rfl⟩ := counted flat
        rw [Geometry.encodedSize_of_nested flat] at measured
        obtain ⟨sizes, each, rfl⟩ := Layout.elementsSize_eq_ok measured
        have total : Geometry.encodedSizeOf layout.inner geometry.members =
            .ok (Layout.total sizes) := by
          rw [Geometry.encodedSizeOf_eq, each, Outcome.map_ok]
        have fits := members.size_le (fun member belongs _ _ _ bodied inhabited memberMeasured =>
          ih member belongs bodied inhabited memberMeasured) total
        rw [List.length_append, countBytes, FieldType.length_encode, FieldType.width]
        omega

end Grammar

end GeoWire
