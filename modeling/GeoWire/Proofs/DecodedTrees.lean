import GeoWire.Codec
import GeoWire.Geometry.Node
import GeoWire.Proofs.AcceptedBlobs
import GeoWire.Proofs.TreeCoordinates

/-!
# Decoded trees

What holds of every geometry in a tree that was read from a blob, and how the tree agrees with the
header that can be read ahead of it.
-/

set_option autoImplicit false

namespace GeoWire

open Grammar

/-!
## Geometries with a body
-/

theorem Polygon.mem_rings_ofRings {ring : Ring} {rings : List Ring}
    (belongs : ring ∈ (ofRings rings).rings) : ring = .empty ∨ ring ∈ rings := by
  cases rings with
  | nil => exact .inl (List.mem_singleton.mp belongs)
  | cons exterior interiors => exact .inr belongs

/-- A geometry in the form in which geometries of a dimension come from the wire. -/
structure Geometry.WireFormed (dimension : Dimension) (node : Geometry) : Prop where
  uniform : ∀ coord ∈ node.ownCoords, coord.dimension = dimension
  closed : ∀ ring ∈ node.ownRings, ∀ first ∈ ring.coords.head?, ∀ last ∈ ring.coords.getLast?,
    first.coincides last = true
  ringless : ∀ ring, node ≠ .linearRing ring
  placed : ∀ coord, node = .point ⟨some coord⟩ → coord.isNaNPosition = false

namespace Grammar

variable {isNative : Bool} {dimension : Dimension} {order : ByteOrder}

theorem Body.wireFormed {geometry : Geometry} {bytes : List UInt8}
    (spelled : Body isNative dimension order geometry bytes) : geometry.WireFormed dimension where
  uniform := by
    intro coord held
    cases spelled with
    | @point _ original sameDimension =>
        simp only [Geometry.ownCoords, pointOf] at held
        split at held
        · cases held
        · rwa [List.mem_singleton.mp held]
    | lineString spellable => exact spellable.2 coord held
    | @polygon _ rings _ spellable =>
        obtain ⟨ring, belongs, held⟩ := List.mem_flatMap.mp held
        rcases Polygon.mem_rings_ofRings belongs with rfl | belongs
        · cases held
        · exact (spellable ring belongs).2 coord held
    | multiPoint | multiLineString | multiPolygon | collection => cases held
  closed := fun ring _ => ring.ends_coincide
  ringless := by
    intro ring same
    subst same
    cases spelled
  placed := by
    intro coord same
    cases spelled with
    | @point _ original sameDimension =>
        simp only [pointOf, Geometry.point.injEq, Point.mk.injEq] at same
        split at same
        · cases same
        · cases same
          exact Bool.eq_false_iff.mpr ‹_›
    | lineString | polygon | multiPoint | multiLineString | multiPolygon | collection => cases same

/-- A body ends with the members of the geometry. Where members are allowed, their count is all that
stands before them. -/
theorem Body.members {geometry : Geometry} {bytes : List UInt8}
    (spelled : Body isNative dimension order geometry bytes) :
    ∃ front body, bytes = front ++ body ∧
      Members isNative dimension order geometry.members body ∧
      (geometry.nesting ≠ 0 → geometry.members.length < UInt32.size ∧
        front = countBytes order geometry.members.length) := by
  have leaf {α : Prop} (flat : geometry.nesting = 0) (nested : geometry.nesting ≠ 0) : α :=
    absurd flat nested
  cases spelled with
  | point => exact ⟨_, [], (List.append_nil _).symm, .nil, leaf rfl⟩
  | lineString => exact ⟨_, [], (List.append_nil _).symm, .nil, leaf rfl⟩
  | polygon => exact ⟨_, [], (List.append_nil _).symm, .nil, leaf rfl⟩
  | multiPoint counted members =>
      rw [← List.length_map Geometry.point] at counted ⊢
      exact ⟨_, _, rfl, members, fun _ => ⟨counted, rfl⟩⟩
  | multiLineString counted members =>
      rw [← List.length_map Geometry.lineString] at counted ⊢
      exact ⟨_, _, rfl, members, fun _ => ⟨counted, rfl⟩⟩
  | multiPolygon counted members =>
      rw [← List.length_map Geometry.polygon] at counted ⊢
      exact ⟨_, _, rfl, members, fun _ => ⟨counted, rfl⟩⟩
  | collection counted members => exact ⟨_, _, rfl, members, fun _ => ⟨counted, rfl⟩⟩

theorem Members.spelled {members : List Geometry} {bytes : List UInt8}
    (spelled : Members isNative dimension order members bytes) :
    ∀ member ∈ members, ∃ inner body, Body isNative dimension inner member body := by
  induction members generalizing bytes with
  | nil => exact List.forall_mem_nil _
  | cons member rest ih =>
      cases spelled with
      | cons _ body others => exact List.forall_mem_cons.mpr ⟨⟨_, _, body⟩, ih others⟩

theorem Body.node_wireFormed {node tree : Geometry} {bytes : List UInt8}
    (spelled : Body isNative dimension order tree bytes) (isNode : node.IsNode tree) :
    node.WireFormed dimension := by
  induction isNode generalizing order bytes with
  | root => exact spelled.wireFormed
  | inside belongs _ ih =>
      obtain ⟨_, _, _, members, _⟩ := spelled.members
      obtain ⟨inner, body, further⟩ := members.spelled _ belongs
      exact ih further

end Grammar

theorem Geometry.WireFormed.mem_coords {node tree : Geometry} {dimension : Dimension}
    (formed : node.WireFormed dimension) (isNode : node.IsNode tree) {coord : Coordinate}
    (own : coord ∈ node.ownCoords) : coord ∈ tree.coords := by
  refine mem_coords_iff.mpr ⟨node, isNode, own, ?_⟩
  intro pt same
  subst same
  obtain ⟨coord?⟩ := pt
  have holds : coord? = some coord := Option.mem_toList.mp own
  subst holds
  exact formed.placed coord rfl

theorem Geometry.uniform_of_wireFormed {tree : Geometry} {dimension : Dimension}
    (formed : ∀ node : Geometry, node.IsNode tree → node.WireFormed dimension) :
    ∀ coord ∈ tree.coords, coord.dimension = dimension := by
  intro coord held
  obtain ⟨node, isNode, own, _⟩ := mem_coords_iff.mp held
  exact (formed node isNode).uniform coord own

theorem Geometry.dimension_eq_of_wireFormed {tree : Geometry} {dimension : Dimension}
    (formed : ∀ node : Geometry, node.IsNode tree → node.WireFormed dimension)
    (held : ∃ node : Geometry, node.IsNode tree ∧ node.ownCoords ≠ []) :
    tree.dimension = dimension := by
  obtain ⟨node, isNode, inhabited⟩ := held
  obtain ⟨coord, own⟩ := List.exists_mem_of_ne_nil _ inhabited
  exact dimension_eq_of_forall (List.ne_nil_of_mem ((formed node isNode).mem_coords isNode own))
    (uniform_of_wireFormed formed)

/-!
## Headers read ahead
-/

theorem Decoder.writable_of_accepts_header {known final : Option ByteOrder} {bytes : List UInt8}
    {header : Header} (accepted : Header.decoder.Accepts known bytes header final) :
    header.dimension ≠ .xym := by
  obtain ⟨_, _, _, _, ⟨_, native⟩ | ⟨_, standard⟩⟩ := accepts_header_iff.mp accepted
  · obtain ⟨_, _, _, _, _, _, _, writable, _⟩ := native
    exact writable
  · cases standard with
    | fields spelled =>
        obtain ⟨_, _, _, _, _, writable, _⟩ := spelled
        exact writable

theorem Header.peek_append_of_accepts {head : List UInt8} {header : Header}
    {final : Option ByteOrder} (accepted : Header.decoder.Accepts none head header final)
    (rest : List UInt8) : Header.peek (head ++ rest) = .ok header :=
  congrArg Prod.fst (accepted.run_eq Decoder.header_honest [] rest)

/-- What is read agrees with the header that can be peeked at: its coordinates all have the
dimension announced there, its rings are closed, none of them stands for itself, and its points have
positions. -/
theorem decode_wireFormed {codec : Codec} {blob : List UInt8} {value : ReferencedGeometry}
    (decoded : codec.decode blob = .ok value) :
    ∃ header, Header.peek blob = .ok header ∧ header.srid = value.srid ∧
      header.kind = value.geometry.kind ∧ header.dimension ≠ .xym ∧
      (∀ node : Geometry, node.IsNode value.geometry → node.WireFormed header.dimension) ∧
      ((∃ node : Geometry, node.IsNode value.geometry ∧ node.ownCoords ≠ []) →
        value.geometry.dimension = header.dimension) ∧
      value.geometry.nesting ≤ codec.limit := by
  obtain ⟨_, accepted⟩ := Reader.accepts_of_readGeometry_eq_ok decoded
  obtain ⟨header, head, body, split, headed, sameSrid, sameKind, bounded, spelled⟩ :=
    Decoder.parts_of_accepts_blob accepted
  have whole : blob = head ++ body := split
  have formed (node : Geometry) (isNode : node.IsNode value.geometry) :
      node.WireFormed header.dimension :=
    spelled.node_wireFormed isNode
  refine ⟨header, ?_, sameSrid, sameKind.symm, Decoder.writable_of_accepts_header headed, formed,
    Geometry.dimension_eq_of_wireFormed formed, bounded⟩
  rw [whole]
  exact Header.peek_append_of_accepts headed body

/-- A big-endian collection around a little-endian point of two NaN and a polygon whose ring is closed
by a NaN of another payload and a zero of the other sign. -/
theorem decode_wireFormed_mixedOrders :
    let blob : List UInt8 :=
      [0, 0xa0, 0, 0, 7, 0, 0, 0x10, 0xe6, 0, 0, 0, 2,
        1, 1, 0, 0, 0x80, 0, 0, 0, 0, 0, 0, 0xf8, 0x7f, 1, 0, 0, 0, 0, 0, 0xf0, 0xff,
        0, 0, 0, 0, 0, 0, 0xf0, 0x3f,
        0, 0x80, 0, 0, 3, 0, 0, 0, 1, 0, 0, 0, 2,
        0x3f, 0xf0, 0, 0, 0, 0, 0, 0, 0x7f, 0xf8, 0, 0, 0, 0, 0, 0, 0, 0, 0, 0, 0, 0, 0, 0,
        0x3f, 0xf0, 0, 0, 0, 0, 0, 0, 0x7f, 0xf8, 0, 0, 0, 0, 0, 1, 0x80, 0, 0, 0, 0, 0, 0, 0]
    let ring : Ring :=
      ⟨[.xyz ⟨0x3ff0000000000000⟩ ⟨0x7ff8000000000000⟩ ⟨0⟩,
        .xyz ⟨0x3ff0000000000000⟩ ⟨0x7ff8000000000001⟩ ⟨0x8000000000000000⟩], rfl⟩
    let tree : Geometry := .collection [.point .empty, .polygon ⟨ring, []⟩]
    (⟨.little, 1⟩ : Codec).decode blob = .ok ⟨4326, tree⟩ ∧
      ∃ header, Header.peek blob = .ok header ∧ header.srid = 4326 ∧ header.kind = .collection ∧
        tree.dimension = header.dimension ∧
        (∀ node : Geometry, node.IsNode tree → node.WireFormed header.dimension) ∧
        tree.nesting ≤ 1 := by
  intro blob ring tree
  have decoded : (⟨.little, 1⟩ : Codec).decode blob = .ok ⟨4326, tree⟩ := by
    simp only [blob, tree, ring]
    rfl
  obtain ⟨header, peeked, srid, kind, _, formed, dimension, bounded⟩ := decode_wireFormed decoded
  have polygon : Geometry.IsNode (.polygon ⟨ring, []⟩) tree :=
    .inside (.tail _ (.head _)) .root
  exact ⟨decoded, header, peeked, srid, kind, dimension ⟨_, polygon, List.cons_ne_nil _ _⟩, formed,
    bounded⟩

end GeoWire
