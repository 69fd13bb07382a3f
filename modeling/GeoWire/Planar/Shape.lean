import GeoWire.Ordinate

/-!
Planar shapes: geometries of X and Y alone, with lines, rectangles and triangles of their own but
without an empty point. Areas close their paths by numeric equality, so a path with a NaN at one end
gets its first position appended each time.
-/

set_option autoImplicit false

namespace GeoWire.Planar

structure Position where
  x : Ordinate
  y : Ordinate
deriving DecidableEq, Repr

def Position.ieeeEq (left right : Position) : Bool :=
  left.x.ieeeEq right.x && left.y.ieeeEq right.y

abbrev Path := List Position

/-- Append the first position unless it is numerically equal to the last. -/
def Path.close (path : Path) : Path :=
  match path.head?, path.getLast? with
  | some first, some last => if first.ieeeEq last then path else path ++ [first]
  | _, _ => path

structure Area where
  outline : Path
  holes : List Path
deriving DecidableEq, Repr

def Area.closing (outline : Path) (holes : List Path) : Area :=
  ⟨outline.close, holes.map Path.close⟩

/-- A rectangle along the axes by two opposite corners. -/
structure Rectangle where
  low : Position
  high : Position
deriving DecidableEq, Repr

namespace Rectangle

/-- The smaller of two ordinates and then the larger. The two change places unless the first is
below the second. -/
def sortPair (first second : Ordinate) : Ordinate × Ordinate :=
  if first.ieeeLt second then (first, second) else (second, first)

def between (first second : Position) : Rectangle :=
  let xs := sortPair first.x second.x
  let ys := sortPair first.y second.y
  ⟨⟨xs.1, ys.1⟩, ⟨xs.2, ys.2⟩⟩

def corners (rectangle : Rectangle) : List Position :=
  [⟨rectangle.high.x, rectangle.low.y⟩, rectangle.high,
    ⟨rectangle.low.x, rectangle.high.y⟩, rectangle.low]

/-- The area of a rectangle, against the clock from the lower right corner. -/
def toArea (rectangle : Rectangle) : Area :=
  .closing
    [⟨rectangle.high.x, rectangle.low.y⟩, ⟨rectangle.high.x, rectangle.high.y⟩,
      ⟨rectangle.low.x, rectangle.high.y⟩, ⟨rectangle.low.x, rectangle.low.y⟩,
      ⟨rectangle.high.x, rectangle.low.y⟩] []

end Rectangle

/-- A triangle by its corners in the order given. -/
structure Triangle where
  first : Position
  second : Position
  third : Position
deriving DecidableEq, Repr

namespace Triangle

def corners (triangle : Triangle) : List Position :=
  [triangle.first, triangle.second, triangle.third]

/-- Twice the area of a triangle in the arithmetic of doubles, negative where the corners run with
the clock. -/
def doubledArea (triangle : Triangle) : Float :=
  (triangle.second.x.toFloat - triangle.first.x.toFloat) *
      (triangle.third.y.toFloat - triangle.first.y.toFloat) -
    (triangle.second.y.toFloat - triangle.first.y.toFloat) *
      (triangle.third.x.toFloat - triangle.first.x.toFloat)

/-- The area of a triangle. Corners that run with the clock are taken the other way round. -/
def toArea (triangle : Triangle) : Area :=
  if triangle.doubledArea < 0 then
    .closing [triangle.third, triangle.second, triangle.first, triangle.third] []
  else .closing [triangle.first, triangle.second, triangle.third, triangle.first] []

end Triangle

/-- The areas that rectangles and triangles stand for. Where such an area begins and which way round
it goes is left open. -/
structure Outlines where
  rectangle : Rectangle → Area
  triangle : Triangle → Area

def Outlines.standard : Outlines :=
  ⟨Rectangle.toArea, Triangle.toArea⟩

inductive Shape where
  | point (position : Position)
  | segment (first last : Position)
  | path (path : Path)
  | area (area : Area)
  | multiPoint (positions : List Position)
  | multiPath (paths : List Path)
  | multiArea (areas : List Area)
  | collection (members : List Shape)
  | rectangle (rectangle : Rectangle)
  | triangle (triangle : Triangle)
deriving Repr

/-- Induction over shapes, with the hypothesis for every member of a collection. -/
@[induction_eliminator]
theorem Shape.memberInduction {motive : Shape → Prop}
    (point : ∀ position, motive (.point position))
    (segment : ∀ first last, motive (.segment first last))
    (path : ∀ path, motive (.path path))
    (area : ∀ area, motive (.area area))
    (multiPoint : ∀ positions, motive (.multiPoint positions))
    (multiPath : ∀ paths, motive (.multiPath paths))
    (multiArea : ∀ areas, motive (.multiArea areas))
    (collection : ∀ members, (∀ member ∈ members, motive member) → motive (.collection members))
    (rectangle : ∀ rectangle, motive (.rectangle rectangle))
    (triangle : ∀ triangle, motive (.triangle triangle))
    (shape : Shape) : motive shape :=
  @Shape.rec motive (fun members => ∀ member ∈ members, motive member)
    point segment path area multiPoint multiPath multiArea collection rectangle triangle
    (List.forall_mem_nil _)
    (fun _ _ headHolds restHold => List.forall_mem_cons.mpr ⟨headHolds, restHold⟩)
    shape

end GeoWire.Planar
