import GeoWire.Planar.Conversion

/-!
# Closing in the plane

Areas close their paths by numeric equality and rings are closed by coincidence. The two agree where
the path does not start at a NaN. A path that starts at one is never closed numerically, not even
after its first position has been appended.
-/

set_option autoImplicit false

namespace GeoWire

/-!
## Ordinates and positions
-/

namespace Ordinate

variable {left right : Ordinate}

/-- Ordinates that coincide are equal as numbers unless they are NaN. -/
theorem ieeeEq_of_coincides (coincide : left.coincides right = true) :
    left.ieeeEq right = !left.isNaN := by
  unfold coincides at coincide
  cases isNaN : left.isNaN with
  | true => simp [ieeeEq, isNaN]
  | false => simpa [isNaN] using coincide

theorem ieeeEq_self (ordinate : Ordinate) : ordinate.ieeeEq ordinate = !ordinate.isNaN :=
  ieeeEq_of_coincides ordinate.coincides_refl

theorem coincides_of_ieeeEq (equal : left.ieeeEq right = true) : left.coincides right = true := by
  simp [coincides, equal]

end Ordinate

namespace Planar

/-- Whether X or Y is a NaN, so that the position is not numerically equal to itself. -/
def Position.hasNaN (position : Position) : Bool :=
  position.x.isNaN || position.y.isNaN

theorem Position.ieeeEq_self (position : Position) :
    position.ieeeEq position = !position.hasNaN := by
  simp [ieeeEq, hasNaN, Ordinate.ieeeEq_self]

theorem Position.coincides_of_ieeeEq {left right : Position} (equal : left.ieeeEq right = true) :
    left.toCoordinate.coincides right.toCoordinate = true := by
  obtain ⟨xs, ys⟩ := Bool.and_eq_true_iff.mp equal
  simp [Position.toCoordinate, Coordinate.xy, Coordinate.coincides, Coordinate.matchWith,
    Ordinate.matchOptional, Ordinate.coincides_of_ieeeEq xs, Ordinate.coincides_of_ieeeEq ys]

/-!
## Paths
-/

namespace Path

/-- Whether the first and the last position are numerically equal. An empty path is closed. -/
def isClosed (path : Path) : Bool :=
  match path.head?, path.getLast? with
  | some first, some last => first.ieeeEq last
  | _, _ => true

theorem isClosed_iff {path : Path} :
    path.isClosed = true ↔
      ∀ first ∈ path.head?, ∀ last ∈ path.getLast?, first.ieeeEq last = true := by
  unfold isClosed
  cases path.head? <;> cases path.getLast? <;> simp

theorem close_eq (path : Path) :
    path.close = if path.isClosed then path else path ++ path.head?.toList := by
  unfold close isClosed
  cases path.head? <;> cases path.getLast? <;> simp

theorem close_of_isClosed {path : Path} (closed : path.isClosed = true) : path.close = path := by
  rw [close_eq, if_pos closed]

theorem head?_close (path : Path) : path.close.head? = path.head? := by
  rw [close_eq]
  split
  · rfl
  · cases path <;> rfl

theorem getLast?_close_of_open {path : Path} (isOpen : path.isClosed = false) :
    path.close.getLast? = path.head? := by
  rw [close_eq, isOpen, if_neg Bool.false_ne_true]
  cases path with
  | nil => rfl
  | cons first rest => exact List.getLast?_concat

/-- A path that does not start at a NaN is closed by appending its first position. -/
theorem isClosed_close {path : Path} (placed : ∀ first ∈ path.head?, first.hasNaN = false) :
    path.close.isClosed = true := by
  cases closed : path.isClosed with
  | true => rwa [close_of_isClosed closed]
  | false =>
      rw [isClosed_iff, head?_close, getLast?_close_of_open closed]
      intro first isFirst last isLast
      have same : first = last := Option.mem_unique isFirst isLast
      rw [← same, first.ieeeEq_self, placed first isFirst]
      rfl

theorem forall_ends_toLineString {path : Path} {related : Coordinate → Coordinate → Prop} :
    (∀ first ∈ path.toLineString.head?, ∀ last ∈ path.toLineString.getLast?, related first last) ↔
      ∀ first ∈ path.head?, ∀ last ∈ path.getLast?,
        related first.toCoordinate last.toCoordinate := by
  simp [toLineString]

theorem isClosed_toLineString {path : Path} (closed : path.isClosed = true) :
    path.toLineString.isClosed = true := by
  rw [LineString.isClosed_iff, forall_ends_toLineString]
  intro first isFirst last isLast
  exact Position.coincides_of_ieeeEq (isClosed_iff.mp closed first isFirst last isLast)

/-- The path that an area keeps has coinciding ends, also where it starts at a NaN. -/
theorem isClosed_toLineString_close (path : Path) : path.close.toLineString.isClosed = true := by
  cases closed : path.isClosed with
  | true =>
      rw [close_of_isClosed closed]
      exact isClosed_toLineString closed
  | false =>
      rw [LineString.isClosed_iff, forall_ends_toLineString, head?_close,
        getLast?_close_of_open closed]
      intro first isFirst last isLast
      rw [Option.mem_unique isFirst isLast]
      exact last.toCoordinate.coincides_refl

theorem coords_toRing {path : Path} (closed : path.toLineString.isClosed = true) :
    path.toRing.coords = path.toLineString :=
  if_pos closed

@[simp] theorem toPlanar_toLineString (path : Path) :
    LineString.toPlanar path.toLineString = path := by
  rw [toLineString, LineString.toPlanar, List.map_map]
  exact List.map_id path

end Path

end Planar

end GeoWire
