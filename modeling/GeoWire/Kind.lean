/-!
Kinds of geometry on the wire and the tags that all dialects share. A linear ring has no kind of
its own.
-/

set_option autoImplicit false

namespace GeoWire

/-- What a geometry on the wire is. -/
inductive Kind where
  | point
  | lineString
  | polygon
  | multiPoint
  | multiLineString
  | multiPolygon
  | collection
deriving DecidableEq, Repr

namespace Kind

def tag : Kind → Nat
  | .point => 1
  | .lineString => 2
  | .polygon => 3
  | .multiPoint => 4
  | .multiLineString => 5
  | .multiPolygon => 6
  | .collection => 7

def ofTag? : Nat → Option Kind
  | 1 => some .point
  | 2 => some .lineString
  | 3 => some .polygon
  | 4 => some .multiPoint
  | 5 => some .multiLineString
  | 6 => some .multiPolygon
  | 7 => some .collection
  | _ => none

/-- The kind of every member of a multi-geometry. -/
def element? : Kind → Option Kind
  | .multiPoint => some .point
  | .multiLineString => some .lineString
  | .multiPolygon => some .polygon
  | .point | .lineString | .polygon | .collection => none

def name : Kind → String
  | .point => "Point"
  | .lineString => "LineString"
  | .polygon => "Polygon"
  | .multiPoint => "MultiPoint"
  | .multiLineString => "MultiLineString"
  | .multiPolygon => "MultiPolygon"
  | .collection => "GeometryCollection"

@[simp] theorem ofTag?_tag (kind : Kind) : ofTag? kind.tag = some kind := by
  cases kind <;> rfl

theorem ofTag?_eq_some_iff {tag : Nat} {kind : Kind} :
    ofTag? tag = some kind ↔ tag = kind.tag := by
  constructor
  · intro found
    unfold ofTag? at found
    split at found <;> cases found <;> rfl
  · intro same
    subst same
    exact ofTag?_tag kind

/-- The numbers that stand for a kind are 1 to 7. -/
theorem ofTag?_eq_none_iff {tag : Nat} : ofTag? tag = none ↔ tag = 0 ∨ 7 < tag := by
  match tag with
  | 0 | 1 | 2 | 3 | 4 | 5 | 6 | 7 => decide
  | rest + 8 => simp [ofTag?]

end Kind

end GeoWire
