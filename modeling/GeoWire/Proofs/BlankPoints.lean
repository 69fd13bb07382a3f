import GeoWire.Planar.Conversion
import GeoWire.Proofs.EmptyMembers

/-!
# Blank points

An empty point may hold no coordinate or one whose X and Y are NaN. Nothing that is written tells the
two apart. The plane does: a point of two NaN stays a position there, and only a point without a
coordinate disappears.
-/

set_option autoImplicit false

namespace GeoWire

/-!
## Positions in the plane
-/

namespace Planar

def Position.isNaN (position : Position) : Bool :=
  position.x.isNaN && position.y.isNaN

namespace Shape

mutual

/-- A shape in which positions of two NaN count as missing: a point becomes a multi-point without
members, and a multi-point loses the member. -/
def withoutNaN : Shape → Shape
  | .point position => if position.isNaN then .multiPoint [] else .point position
  | .multiPoint positions => .multiPoint (positions.filter fun position => !position.isNaN)
  | .collection members => .collection (allWithoutNaN members)
  | .segment first last => .segment first last
  | .path line => .path line
  | .area bounded => .area bounded
  | .multiPath paths => .multiPath paths
  | .multiArea areas => .multiArea areas
  | .rectangle box => .rectangle box
  | .triangle corners => .triangle corners

def allWithoutNaN : List Shape → List Shape
  | [] => []
  | member :: rest => member.withoutNaN :: allWithoutNaN rest

end

mutual

/-- The number of positions that stand alone or in multi-points, at any depth. -/
def positionCount : Shape → Nat
  | .point _ => 1
  | .multiPoint positions => positions.length
  | .collection members => positionCountOf members
  | .segment _ _ | .path _ | .area _ | .multiPath _ | .multiArea _ => 0
  | .rectangle _ | .triangle _ => 0

def positionCountOf : List Shape → Nat
  | [] => 0
  | member :: rest => member.positionCount + positionCountOf rest

end

theorem allWithoutNaN_eq (members : List Shape) :
    allWithoutNaN members = members.map withoutNaN := by
  induction members with
  | nil => rfl
  | cons member rest ih => simp [allWithoutNaN, ih]

theorem positionCountOf_append (first second : List Shape) :
    positionCountOf (first ++ second) = positionCountOf first + positionCountOf second := by
  induction first with
  | nil => simp [positionCountOf]
  | cons member rest ih => simp [positionCountOf, ih, Nat.add_assoc]

end Shape

end Planar

/-!
## One point blanked
-/

theorem Point.position?_of_isEmpty {pt : Point} (isEmpty : pt.isEmpty = true) :
    pt.position? = none :=
  if_pos isEmpty

namespace Geometry

/-- The second tree has the point without a coordinate in place of one empty point, at the root or in
a multi-point or collection at any depth. -/
inductive Blanks : Geometry → Geometry → Prop where
  | point {pt : Point} : pt.isEmpty = true → Blanks (.point pt) (.point .empty)
  | multiPoint {before after : List Point} {pt : Point} : pt.isEmpty = true →
      Blanks (.multiPoint (before ++ pt :: after)) (.multiPoint (before ++ .empty :: after))
  | inside {before after : List Geometry} {inner blanked : Geometry} : Blanks inner blanked →
      Blanks (.collection (before ++ inner :: after)) (.collection (before ++ blanked :: after))

variable {left right : Geometry}

theorem Blanks.isEmpty_eq (blanks : Blanks left right) : left.isEmpty = right.isEmpty := by
  have nothing : Point.empty.isEmpty = true := rfl
  induction blanks with
  | point isEmpty => exact isEmpty
  | multiPoint isEmpty => simp [Geometry.isEmpty, isEmpty, nothing]
  | inside _ ih => simp [Geometry.isEmpty, areEmpty_eq, ih]

theorem Blanks.coords_eq (blanks : Blanks left right) : left.coords = right.coords := by
  have nothing : Point.empty.position? = none := rfl
  induction blanks with
  | point isEmpty => simp [coords, Point.position?_of_isEmpty isEmpty, nothing]
  | multiPoint isEmpty => simp [coords, Point.position?_of_isEmpty isEmpty, nothing]
  | inside _ ih => simp [coords, coordsOf_eq, ih]

/-- A blanked point is not written, unless it is the root, where there is nothing to write. -/
theorem Blanks.withoutEmpty_eq (blanks : Blanks left right) (inhabited : left.isEmpty = false) :
    left.withoutEmpty = right.withoutEmpty := by
  have nothing : Point.empty.isEmpty = true := rfl
  induction blanks with
  | point isEmpty =>
      change Point.isEmpty _ = false at inhabited
      rw [isEmpty] at inhabited
      cases inhabited
  | multiPoint isEmpty => simp [withoutEmpty, isEmpty, nothing]
  | @inside before after inner blanked further ih =>
      have sameEmpty := further.isEmpty_eq
      -- A member that is empty is left out with and without the point; only one that is written
      -- needs the induction.
      simp only [withoutEmpty, membersWithoutEmpty_eq, List.filter_append, List.map_append]
      cases isEmpty : inner.isEmpty with
      | true => simp [← sameEmpty, isEmpty]
      | false => simp [← sameEmpty, isEmpty, ih isEmpty]

theorem Blanks.withoutNaN_toPlanar (blanks : Blanks left right) :
    left.toPlanar.withoutNaN = right.toPlanar.withoutNaN := by
  have unplaced {coord : Coordinate} (isNaN : coord.isNaNPosition = true) :
      coord.toPlanar.isNaN = true := isNaN
  induction blanks with
  | @point pt isEmpty =>
      obtain ⟨_ | coord⟩ := pt
      · rfl
      · exact if_pos (unplaced isEmpty)
  | @multiPoint before after pt isEmpty =>
      obtain ⟨_ | coord⟩ := pt
      · rfl
      · have dropped := unplaced isEmpty
        simp [toPlanar, Planar.Shape.withoutNaN, dropped, Point.empty]
  | inside _ ih => simp [toPlanar, allToPlanar_eq, Planar.Shape.withoutNaN,
      Planar.Shape.allWithoutNaN_eq, ih]

/-- In the plane every blanked point is missed, except the one that had no coordinate before. -/
theorem Blanks.eq_or_positionCount_lt (blanks : Blanks left right) :
    left = right ∨ right.toPlanar.positionCount < left.toPlanar.positionCount := by
  induction blanks with
  | @point pt isEmpty =>
      obtain ⟨_ | coord⟩ := pt
      · exact .inl rfl
      · exact .inr Nat.one_pos
  | @multiPoint before after pt isEmpty =>
      obtain ⟨_ | coord⟩ := pt
      · exact .inl rfl
      · exact .inr (by simp [toPlanar, Planar.Shape.positionCount, Point.empty])
  | inside _ ih =>
      rcases ih with rfl | fewer
      · exact .inl rfl
      · refine .inr ?_
        simp only [toPlanar, allToPlanar_eq, Planar.Shape.positionCount, List.map_append,
          List.map_cons, Planar.Shape.positionCountOf_append, Planar.Shape.positionCountOf]
        omega

/-!
## Any number of points blanked
-/

theorem eq_of_reflTransGen_blanks {β : Type} (read : Geometry → β)
    (step : ∀ left right, Blanks left right → read left = read right)
    (blanked : Relation.ReflTransGen Blanks left right) : read left = read right := by
  induction blanked with
  | refl => rfl
  | tail _ blanks ih => exact ih.trans (step _ _ blanks)

theorem eq_or_positionCount_lt_of_reflTransGen_blanks
    (blanked : Relation.ReflTransGen Blanks left right) :
    left = right ∨ right.toPlanar.positionCount < left.toPlanar.positionCount := by
  induction blanked with
  | refl => exact .inl rfl
  | tail _ blanks ih =>
      rcases ih with rfl | fewer
      · exact blanks.eq_or_positionCount_lt
      · rcases blanks.eq_or_positionCount_lt with rfl | stillFewer
        · exact .inr fewer
        · exact .inr (Nat.lt_trans stillFewer fewer)

end Geometry

namespace ReferencedGeometry

theorem encode_of_isEmpty {value : ReferencedGeometry} (none : value.geometry.isEmpty = true)
    (format : Format) (order : ByteOrder) (limit : Nat) :
    value.encode format order limit = format.checkWritable.map fun _ => .none := by
  rw [encode_eq, plan]
  cases format.checkWritable with
  | error cause => rfl
  | ok _ =>
      rw [Outcome.ok_bind, if_pos none]
      rfl

theorem encode_eq_of_blanks {left right : Geometry} (blanks : left.Blanks right) (srid : Int32)
    (format : Format) (order : ByteOrder) (limit : Nat) :
    encode format order limit ⟨srid, left⟩ = encode format order limit ⟨srid, right⟩ := by
  have isEmpty := blanks.isEmpty_eq
  cases inhabited : left.isEmpty with
  | true => rw [encode_of_isEmpty inhabited, encode_of_isEmpty (isEmpty ▸ inhabited)]
  | false =>
      have coords := blanks.coords_eq
      apply encode_eq_of_sameDimension isEmpty (blanks.withoutEmpty_eq inhabited)
        (Geometry.dimension_eq_of_coords_eq coords)
      rw [Geometry.anyCoord_eq_any_coords, Geometry.anyCoord_eq_any_coords, coords]

end ReferencedGeometry

/-- Blanking empty points changes no encoding. It is seen in the plane wherever a point of two NaN is
blanked, but only in that position. -/
theorem Geometry.blanks_seen_only_in_plane {left right : Geometry}
    (blanked : Relation.ReflTransGen Geometry.Blanks left right) :
    (∀ srid format order limit, ReferencedGeometry.encode format order limit ⟨srid, left⟩ =
      ReferencedGeometry.encode format order limit ⟨srid, right⟩) ∧
    left.toPlanar.withoutNaN = right.toPlanar.withoutNaN ∧
    (left.toPlanar = right.toPlanar ↔ left = right) := by
  refine ⟨?_, ?_, ?_, congrArg toPlanar⟩
  · intro srid format order limit
    exact eq_of_reflTransGen_blanks
      (fun tree => ReferencedGeometry.encode format order limit ⟨srid, tree⟩)
      (fun _ _ blanks => ReferencedGeometry.encode_eq_of_blanks blanks srid format order limit)
      blanked
  · exact eq_of_reflTransGen_blanks (fun tree => tree.toPlanar.withoutNaN)
      (fun _ _ blanks => blanks.withoutNaN_toPlanar) blanked
  · intro same
    rcases eq_or_positionCount_lt_of_reflTransGen_blanks blanked with unchanged | fewer
    · exact unchanged
    · rw [same] at fewer
      exact absurd fewer (Nat.lt_irrefl _)

/-- A point of two NaN with Z and M is blanked as a member of a collection and of a multi-point. -/
theorem Geometry.blanks_seen_only_in_plane_nested :
    let placed : Point := ⟨some (.xy ⟨1⟩ ⟨2⟩)⟩
    let unplaced : Point := ⟨some ⟨.missing, ⟨0xfff0000000000001⟩, some ⟨1⟩, some ⟨2⟩⟩⟩
    let left : Geometry := .collection [.point unplaced, .multiPoint [unplaced, placed]]
    let right : Geometry := .collection [.point .empty, .multiPoint [.empty, placed]]
    (∀ srid format order limit, ReferencedGeometry.encode format order limit ⟨srid, left⟩ =
      ReferencedGeometry.encode format order limit ⟨srid, right⟩) ∧
    left.toPlanar.withoutNaN = right.toPlanar ∧ left.toPlanar ≠ right.toPlanar := by
  intro placed unplaced left right
  have alone : Blanks (.collection ([] ++ .point unplaced :: [.multiPoint [unplaced, placed]]))
      (.collection ([] ++ .point .empty :: [.multiPoint [unplaced, placed]])) :=
    .inside (.point rfl)
  have among : Blanks (.collection ([.point .empty] ++ .multiPoint ([] ++ unplaced :: [placed]) :: []))
      (.collection ([.point .empty] ++ .multiPoint ([] ++ .empty :: [placed]) :: [])) :=
    .inside (.multiPoint rfl)
  have blanked : Relation.ReflTransGen Blanks left right := .tail (.single alone) among
  obtain ⟨sameBlobs, sameShape, seen⟩ := blanks_seen_only_in_plane blanked
  have differ : left ≠ right := by simp [left, right, unplaced, Point.empty]
  exact ⟨sameBlobs, sameShape, mt seen.mp differ⟩

/-- Both are empty points, but in the plane one is a position and the other is none. -/
theorem Geometry.toPlanar_of_blank_differs :
    let unplaced : Point := ⟨some (.xy .missing .missing)⟩
    unplaced.isEmpty = true ∧ Blanks (.point unplaced) (.point .empty) ∧
      (Geometry.point unplaced).toPlanar ≠ (Geometry.point .empty).toPlanar ∧
      (Geometry.multiPoint [unplaced]).toPlanar ≠ (Geometry.multiPoint [.empty]).toPlanar := by
  intro unplaced
  refine ⟨rfl, .point rfl, ?_, ?_⟩
  · intro same
    cases same
  · intro same
    cases same

end GeoWire
