import GeoWire.Proofs.Spelling

/-!
# Constructors of rings

Coincidence is sameness of ranks and so an equivalence. All ways to make a ring of a line string take
the closed ones as they are, and no open one without appending its first coordinate. Closed line
strings are still closed in the dimension in which they are written.
-/

set_option autoImplicit false

namespace GeoWire

/-!
## Coincidence
-/

/-- The rank of a number, and none for a NaN, whatever its payload. -/
def Ordinate.rank? (ordinate : Ordinate) : Option Int :=
  if ordinate.isNaN then none else some ordinate.rank

theorem Ordinate.coincides_iff {left right : Ordinate} :
    left.coincides right = true ↔ left.rank? = right.rank? := by
  unfold coincides ieeeEq rank?
  cases left.isNaN <;> cases right.isNaN <;> simp

theorem Ordinate.matchOptional_coincides_iff {left? right? : Option Ordinate} :
    matchOptional coincides left? right? = true ↔ left?.map rank? = right?.map rank? := by
  cases left? <;> cases right? <;> simp [matchOptional, coincides_iff]

namespace Coordinate

/-- The ranks of all ordinates. An ordinate that is absent differs from a NaN. -/
def ranks (coord : Coordinate) :
    Option Int × Option Int × Option (Option Int) × Option (Option Int) :=
  (coord.x.rank?, coord.y.rank?, coord.z?.map Ordinate.rank?, coord.m?.map Ordinate.rank?)

theorem coincides_iff {left right : Coordinate} :
    left.coincides right = true ↔ left.ranks = right.ranks := by
  simp only [coincides, matchWith, Bool.and_eq_true, Ordinate.coincides_iff,
    Ordinate.matchOptional_coincides_iff, ranks, Prod.mk.injEq, and_assoc]

theorem coincides_equivalence :
    Equivalence fun left right : Coordinate => left.coincides right = true where
  refl := coincides_refl
  symm coincide := coincides_iff.mpr (coincides_iff.mp coincide).symm
  trans first second :=
    coincides_iff.mpr ((coincides_iff.mp first).trans (coincides_iff.mp second))

end Coordinate

/-!
## Rings
-/

theorem LineString.ne_nil_of_open {line : LineString} (isOpen : line.isClosed = false) :
    line ≠ [] := by
  intro empty
  rw [empty] at isOpen
  cases isOpen

theorem LineString.close_of_open {line : LineString} (isOpen : line.isClosed = false) :
    line.close = line ++ [line.head (ne_nil_of_open isOpen)] := by
  unfold close
  rw [isOpen, if_neg Bool.false_ne_true, List.head?_eq_some_head (ne_nil_of_open isOpen)]
  rfl

namespace Ring

variable {line : LineString} {ring : Ring}

theorem ofClosed?_eq_some_iff : ofClosed? line = some ring ↔ ring.coords = line := by
  unfold ofClosed?
  split
  · rw [Option.some.injEq, Ring.ext_iff, eq_comm]
  · rename_i isOpen
    constructor
    · intro impossible
      cases impossible
    · intro same
      subst same
      exact absurd ring.closed isOpen

/-- Conversion of a line string takes what checked construction takes and hands back all else. -/
theorem ofLineString_eq (line : LineString) :
    ofLineString line = (ofClosed? line).elim (.error line) .ok := by
  unfold ofLineString ofClosed?
  split <;> rfl

theorem ofClosed?_eq_none_iff : ofClosed? line = none ↔ line.isClosed = false := by
  unfold ofClosed?
  split
  · rename_i closed
    simp [closed]
  · rename_i isOpen
    simp [isOpen]

/-- Closing keeps what is a ring already. -/
theorem closing_coords (ring : Ring) : closing ring.coords = ring := by
  apply Ring.ext
  exact if_pos ring.closed

/-- Coincidence is an equivalence, and all constructors of rings agree on it. A closed line string is
taken as it is by each of them; an open one has a first coordinate, is refused by the checked ones and
closed by the other; and what is closed is never changed again. The list that is written of a closed
line string is closed too. -/
theorem constructors_agree :
    Equivalence (fun left right : Coordinate => left.coincides right = true) ∧
    ∀ line : LineString,
      (line.isClosed = true → ∃ ring : Ring, ring.coords = line ∧ ofClosed? line = some ring ∧
        ofLineString line = .ok ring ∧ closing line = ring) ∧
      (line.isClosed = false → ofClosed? line = none ∧ ofLineString line = .error line ∧
        ∃ inhabited : line ≠ [], (closing line).coords = line ++ [line.head inhabited]) ∧
      LineString.isClosed (closing line).coords = true ∧
      ofClosed? (closing line).coords = some (closing line) ∧
      ofLineString (closing line).coords = .ok (closing line) ∧
      closing (closing line).coords = closing line ∧
      (line.isClosed = true → ∀ dimension,
        LineString.isClosed (LineString.project dimension line) = true) ∧
      ∀ layout : Layout,
        (∀ coord ∈ LineString.project layout.dimension line, coord.dimension = layout.dimension) ∧
        ∀ order, (line.flatMap layout.coordinate).flatMap (Field.bytes order) =
          (LineString.project layout.dimension line).flatMap (Grammar.coordinateBytes order) := by
  have taken (ring : Ring) : ofClosed? ring.coords = some ring := ofClosed?_eq_some_iff.mpr rfl
  have converted (ring : Ring) : ofLineString ring.coords = .ok ring := by
    rw [ofLineString_eq, taken]
    rfl
  refine ⟨Coordinate.coincides_equivalence, ?_⟩
  intro line
  refine ⟨?_, ?_, (closing line).closed, taken _, converted _, closing_coords _, ?_, ?_⟩
  · intro closed
    let ring : Ring := ⟨line, closed⟩
    exact ⟨ring, rfl, taken ring, converted ring, ring.closing_coords⟩
  · intro isOpen
    have refused : ofClosed? line = none := ofClosed?_eq_none_iff.mpr isOpen
    refine ⟨refused, ?_, LineString.ne_nil_of_open isOpen, LineString.close_of_open isOpen⟩
    rw [ofLineString_eq, refused]
    rfl
  · intro closed dimension
    exact LineString.isClosed_map_project dimension closed
  · intro layout
    refine ⟨?_, fun order => layout.coordinates_bytes order line⟩
    intro coord belongs
    obtain ⟨original, _, rfl⟩ := List.mem_map.mp belongs
    exact original.dimension_project layout.dimension

/-- A ring whose ends differ in the payload of a NaN and the sign of a zero, and a line string whose
ends differ because one of them lacks the Z that the other has as a NaN. -/
theorem constructors_agree_mixed :
    let ends : LineString := [.xyz ⟨0⟩ ⟨1⟩ ⟨0x7ff8000000000001⟩,
      .xyz ⟨0x8000000000000000⟩ ⟨1⟩ ⟨0xfff0000000000001⟩]
    let lacking : LineString := [.xy ⟨0⟩ ⟨1⟩, .xyz ⟨0⟩ ⟨1⟩ .missing]
    (∃ ring : Ring, ring.coords = ends ∧ ofClosed? ends = some ring ∧ ofLineString ends = .ok ring ∧
      closing ends = ring) ∧
    LineString.isClosed (LineString.project .xyzm ends) = true ∧
    ofLineString lacking = .error lacking ∧
    (closing lacking).coords = [.xy ⟨0⟩ ⟨1⟩, .xyz ⟨0⟩ ⟨1⟩ .missing, .xy ⟨0⟩ ⟨1⟩] := by
  intro ends lacking
  obtain ⟨_, agree⟩ := constructors_agree
  obtain ⟨accepted, _, _, _, _, _, written, _⟩ := agree ends
  obtain ⟨_, refused, _⟩ := agree lacking
  have closed : LineString.isClosed ends = true := by decide
  obtain ⟨_, handedBack, _, appended⟩ := refused (by decide)
  exact ⟨accepted closed, written closed .xyzm, handedBack, appended⟩

end Ring

end GeoWire
