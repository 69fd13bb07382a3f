import GeoWire.Coordinate

/-!
Line strings and rings. A ring is a line string whose ends coincide; the type carries the proof,
and every constructor decides it in the same way.
-/

set_option autoImplicit false

namespace GeoWire

abbrev LineString := List Coordinate

namespace LineString

/-- Whether the first and the last coordinate coincide. An empty line string is closed. -/
def isClosed (line : LineString) : Bool :=
  match line.head?, line.getLast? with
  | some first, some last => first.coincides last
  | _, _ => true

end LineString

/-- A closed line string, the boundary of a polygon. -/
structure Ring where
  /-- The coordinates, the first written again at the end. -/
  coords : LineString
  closed : coords.isClosed = true
deriving DecidableEq, Repr

namespace LineString

/-- Append the first coordinate, unless the ends coincide already. -/
def close (line : LineString) : LineString :=
  if line.isClosed then line else line ++ line.head?.toList

theorem isClosed_iff {line : LineString} :
    line.isClosed = true ↔
      ∀ first ∈ line.head?, ∀ last ∈ line.getLast?, first.coincides last = true := by
  unfold isClosed
  cases line.head? <;> cases line.getLast? <;> simp

theorem isClosed_close (line : LineString) : line.close.isClosed = true := by
  unfold close
  split
  · assumption
  · cases line with
    | nil => rfl
    | cons first rest =>
        unfold isClosed
        rw [List.getLast?_append]
        exact first.coincides_refl

/-- A line string stays closed when all its coordinates are brought to one dimension. -/
theorem isClosed_map_project {line : LineString} (dimension : Dimension)
    (closed : line.isClosed = true) :
    LineString.isClosed (line.map (Coordinate.project dimension)) = true := by
  unfold isClosed at closed ⊢
  rw [List.head?_map, List.getLast?_map]
  cases first : line.head? with
  | none => rfl
  | some _ =>
      cases last : line.getLast? with
      | none => rfl
      | some _ =>
          rw [first, last] at closed
          exact Coordinate.coincides_project dimension closed

end LineString

namespace Ring

def empty : Ring :=
  ⟨[], rfl⟩

def ofClosed? (line : LineString) : Option Ring :=
  if closed : line.isClosed = true then some ⟨line, closed⟩ else none

/-- The ring of a closed line string. An open one is handed back. -/
def ofLineString (line : LineString) : Except LineString Ring :=
  if closed : line.isClosed = true then .ok ⟨line, closed⟩ else .error line

/-- The ring of any line string, closed by its first coordinate where that is needed. -/
def closing (line : LineString) : Ring :=
  ⟨line.close, line.isClosed_close⟩

def project (dimension : Dimension) (ring : Ring) : Ring :=
  ⟨ring.coords.map (Coordinate.project dimension),
    LineString.isClosed_map_project dimension ring.closed⟩

def ieeeEq (left right : Ring) : Bool :=
  left.coords.isEqv right.coords Coordinate.ieeeEq

@[ext] theorem ext {left right : Ring} (sameCoords : left.coords = right.coords) :
    left = right := by
  cases left
  cases right
  simp_all

theorem ends_coincide (ring : Ring) :
    ∀ first ∈ ring.coords.head?, ∀ last ∈ ring.coords.getLast?, first.coincides last = true :=
  LineString.isClosed_iff.mp ring.closed

end Ring

end GeoWire
