import GeoWire.Proofs.AcceptedBlobs
import GeoWire.Proofs.BlobSteps
import Mathlib.Data.List.Basic

/-!
# Guards of counts

A count is held against the bytes that are left before room for its items is reserved. The guards
bound that room by the bytes of the buffer, and they refuse nothing that could be read without them.
-/

set_option autoImplicit false

namespace GeoWire

/-!
## Reserved room
-/

namespace Counted

/-- How many items room is reserved for behind a count, which is how many are kept. The exterior of a
polygon is not held among its interiors. A polygon that counts no rings is the empty one, for which
no room is reserved at all. -/
def capacity (items : Nat) : Counted → Nat
  | .coordinates | .members => items
  | .rings => items - 1

theorem capacity_le (items : Nat) (counted : Counted) : counted.capacity items ≤ items := by
  cases counted with
  | coordinates | members => exact Nat.le_refl items
  | rings => exact Nat.sub_le items 1

theorem leastSize_pos (dimension : Dimension) (counted : Counted) :
    0 < counted.leastSize dimension := by
  cases counted <;> cases dimension <;> decide

theorem leastSize_le (dimension : Dimension) (counted : Counted) :
    counted.leastSize dimension ≤ 32 := by
  cases counted <;> cases dimension <;> decide

/-- A guard multiplies in 64 bits without overflow. -/
theorem guard_lt_size (count : UInt32) (dimension : Dimension) (counted : Counted) :
    count.toNat * counted.leastSize dimension < UInt64.size :=
  calc
    count.toNat * counted.leastSize dimension ≤ count.toNat * 32 :=
      Nat.mul_le_mul_left _ (counted.leastSize_le dimension)
    _ < UInt32.size * 32 := (Nat.mul_lt_mul_right (by decide)).mpr count.toNat_lt
    _ < UInt64.size := by decide

end Counted

/-- The room reserved for interior rings is what they take. -/
theorem Polygon.length_interiors_ofRings (rings : List Ring) :
    (ofRings rings).interiors.length = Counted.rings.capacity rings.length := by
  cases rings <;> rfl

namespace Decoder

variable {α : Type}

/-- A list of items is as long as its count says. -/
theorem readCount_of_run_counted {itemSize : Nat} {item : Decoder α} {reader moved : Reader}
    {items : List α} (success : (counted itemSize item).run reader = (.ok items, moved)) :
    ∃ after, reader.readCount itemSize = (.ok items.length, after) := by
  obtain ⟨count, after, counted, rows⟩ := run_bind_eq_ok_iff.mp success
  rw [run_countOf] at counted
  obtain ⟨_, _, accepted⟩ := accepts_of_run_eq_ok rows
  obtain ⟨rfl, _⟩ := accepts_replicate_iff.mp accepted
  exact ⟨after, counted⟩

/-- The interiors of a polygon take the room that is reserved for them. -/
theorem interiors_of_run_polygon {dimension : Dimension} {reader moved : Reader} {poly : Polygon}
    (success : (polygon dimension).run reader = (.ok poly, moved)) :
    ∃ rings after, reader.readCount 4 = (.ok rings, after) ∧
      poly.interiors.length = Counted.rings.capacity rings ∧ (rings = 0 → poly = .empty) := by
  rw [polygon, ← bind_pure_comp] at success
  obtain ⟨rings, after, read, finished⟩ := run_bind_eq_ok_iff.mp success
  cases finished
  obtain ⟨behind, counted⟩ := readCount_of_run_counted read
  refine ⟨_, behind, counted, Polygon.length_interiors_ofRings rings, ?_⟩
  intro ringless
  obtain rfl := List.eq_nil_of_length_eq_zero ringless
  rfl

end Decoder

/-!
## Decoders without guards
-/

namespace Decoder

variable {α : Type}

/-- The decoder that takes every count as it is. -/
def unguarded : Decoder α → Decoder α
  | .done value => .done value
  | .fail cause => .fail cause
  | .readField type next => .readField type fun value => (next value).unguarded
  | .readCount _ next => .readField .word32 fun count => (next count.toNat).unguarded
  | .switchOrder order next => .switchOrder order next.unguarded

/-- Acceptance does not look at guards. -/
theorem accepts_of_unguarded {decoder : Decoder α} {known final : Option ByteOrder}
    {bytes : List UInt8} {result : α} (accepted : decoder.unguarded.Accepts known bytes result final) :
    decoder.Accepts known bytes result final := by
  induction decoder generalizing known bytes with
  | done value => exact accepted
  | fail cause => exact accepted
  | readField type next ih =>
      cases accepted with
      | readField readsIn further => exact .readField readsIn (ih _ further)
  | readCount itemSize next ih =>
      cases accepted with
      | readField readsIn further =>
          rcases readsIn with impossible | rfl
          · cases impossible
          · exact .readCount (ih _ further)
  | switchOrder order next ih =>
      cases accepted with
      | switchOrder further => exact .switchOrder (ih further)

/-- Only where a guard forbids a count can a run differ from that without guards. -/
theorem run_unguarded_or (decoder : Decoder α) (reader : Reader) :
    decoder.unguarded.run reader = decoder.run reader ∨
      ∃ count remaining, (decoder.run reader).1 = .error (.countTooLarge count remaining) := by
  induction decoder generalizing reader with
  | done value => exact .inl rfl
  | fail cause => exact .inl rfl
  | readField type next ih =>
      cases answered : reader.read type with
      | mk answer moved =>
          cases answer with
          | error cause => exact .inl (by simp only [unguarded, run, answered])
          | ok value => simpa only [unguarded, run, answered] using ih value moved
  | readCount itemSize next ih =>
      cases answered : reader.read .word32 with
      | mk answer moved =>
          cases answer with
          | error cause => exact .inl (by simp only [unguarded, run, Reader.readCount, answered])
          | ok count =>
              rcases Nat.lt_or_ge moved.remaining (count.toNat * itemSize) with forbidden | fits
              · refine .inr ⟨count.toNat, moved.remaining, ?_⟩
                simp only [run, Reader.readCount, answered, Nat.not_le_of_lt forbidden, ↓reduceIte]
              · simpa only [unguarded, run, Reader.readCount, answered, fits, ↓reduceIte] using
                  ih count.toNat moved
  | switchOrder order next ih => exact ih (reader.setOrder order)

/-- Honest guards do not decide what can be read. -/
theorem run_unguarded_eq_ok_iff {decoder : Decoder α} (honest : decoder.HonestGuards)
    {reader moved : Reader} {result : α} :
    decoder.unguarded.run reader = (.ok result, moved) ↔ decoder.run reader = (.ok result, moved) := by
  constructor
  · intro success
    obtain ⟨bytes, passed, accepted⟩ := accepts_of_run_eq_ok success
    exact (run_eq_ok_iff honest).mpr ⟨bytes, passed, accepts_of_unguarded accepted⟩
  · intro success
    rcases decoder.run_unguarded_or reader with same | ⟨_, _, forbidden⟩
    · exact same.trans success
    · rw [success] at forbidden
      cases forbidden

end Decoder

/-!
## Whole buffers
-/

namespace Reader

variable {α : Type}

/-- Read a value at the position, which has to end where the buffer ends. -/
def readWhole (decoder : Decoder α) (reader : Reader) : Except DecodeError α × Reader :=
  match decoder.run reader with
  | (.error cause, moved) => (.error cause, moved)
  | (.ok value, moved) =>
      if moved.remaining = 0 then (.ok value, moved)
      else (.error (.trailingBytes moved.position moved.remaining), moved)

theorem readWhole_blob (reader : Reader) (limit : Nat) :
    reader.readWhole (.blob limit) = reader.readGeometry limit := by
  unfold readWhole readGeometry
  rcases (Decoder.blob limit).run reader with ⟨_ | value, moved⟩ <;> rfl

theorem readWhole_eq_ok_iff {decoder : Decoder α} {reader moved : Reader} {value : α} :
    reader.readWhole decoder = (.ok value, moved) ↔
      decoder.run reader = (.ok value, moved) ∧ moved.remaining = 0 := by
  unfold readWhole
  rcases decoder.run reader with ⟨_ | result, after⟩
  · simp
  · dsimp only
    split
    · rename_i exhausted
      refine ⟨fun same => ⟨same, ?_⟩, And.left⟩
      cases same
      exact exhausted
    · rename_i left
      constructor
      · intro same
        cases same
      · intro parts
        obtain ⟨same, exhausted⟩ := parts
        cases same
        exact absurd exhausted left

theorem readWhole_unguarded_eq_ok_iff {limit : Nat} {reader moved : Reader}
    {value : ReferencedGeometry} :
    reader.readWhole (Decoder.blob limit).unguarded = (.ok value, moved) ↔
      reader.readGeometry limit = (.ok value, moved) := by
  rw [← readWhole_blob, readWhole_eq_ok_iff, readWhole_eq_ok_iff,
    Decoder.run_unguarded_eq_ok_iff (Decoder.blob_honest limit)]

/-- Where no guard forbids anything, the guards do not show. -/
theorem readWhole_unguarded {limit : Nat} {reader : Reader}
    (unforbidden : ∀ count remaining,
      (reader.readGeometry limit).1 ≠ .error (.countTooLarge count remaining)) :
    reader.readWhole (Decoder.blob limit).unguarded = reader.readGeometry limit := by
  rw [← readWhole_blob]
  rcases (Decoder.blob limit).run_unguarded_or reader with same | ⟨count, remaining, forbidden⟩
  · unfold readWhole
    rw [same]
  · have ran : (Decoder.blob limit).run reader =
        (.error (.countTooLarge count remaining), ((Decoder.blob limit).run reader).2) :=
      Prod.ext forbidden rfl
    have failed := readGeometry_eq_error_iff.mpr (.inl ran)
    exact absurd (congrArg Prod.fst failed) (unforbidden count remaining)

end Reader

/-!
## Conservative guards
-/

/-- The guards of counts are conservative and bound what is reserved. With and without them the same
buffers are read as the same values. Lists are as long as their counts say and the interiors of a
polygon one shorter, and every count that passes its guard reserves room for no more items than there
are bytes left behind it. -/
theorem count_guards_conservative (reader : Reader) (limit : Nat) :
    (∀ value moved, reader.readWhole (Decoder.blob limit).unguarded = (.ok value, moved) ↔
      reader.readGeometry limit = (.ok value, moved)) ∧
    (∀ count remaining, (reader.readGeometry limit).1 = .error (.countTooLarge count remaining) →
      ∃ cause, (reader.readWhole (Decoder.blob limit).unguarded).1 = .error cause) ∧
    ((∀ count remaining, (reader.readGeometry limit).1 ≠ .error (.countTooLarge count remaining)) →
      reader.readWhole (Decoder.blob limit).unguarded = reader.readGeometry limit) ∧
    (∀ itemSize items moved, reader.readCount itemSize = (.ok items, moved) →
      items * itemSize ≤ moved.remaining) ∧
    (∀ {α : Type} itemSize (item : Decoder α) before items moved,
      (Decoder.counted itemSize item).run before = (.ok items, moved) →
      ∃ after, before.readCount itemSize = (.ok items.length, after)) ∧
    (∀ dimension before poly moved, (Decoder.polygon dimension).run before = (.ok poly, moved) →
      ∃ rings after, before.readCount 4 = (.ok rings, after) ∧
        poly.interiors.length = Counted.rings.capacity rings ∧ (rings = 0 → poly = .empty)) ∧
    ∀ itemSize before, ⟨.count itemSize, before⟩ ∈ (Decoder.blob limit).trace reader →
      ∃ header, reader.readHeader.1 = .ok header ∧
        ∃ counted : Counted, itemSize = counted.leastSize header.dimension ∧
          (∀ count : UInt32, count.toNat * itemSize < UInt64.size) ∧
          ∀ items moved, before.readCount itemSize = (.ok items, moved) →
            items * itemSize ≤ moved.remaining ∧ counted.capacity items ≤ moved.remaining := by
  refine ⟨fun _ _ => Reader.readWhole_unguarded_eq_ok_iff, ?_, Reader.readWhole_unguarded,
    fun _ _ _ => Reader.fits_of_readCount_eq_ok, fun _ _ _ _ _ => Decoder.readCount_of_run_counted,
    fun _ _ _ _ => Decoder.interiors_of_run_polygon, ?_⟩
  · intro count remaining forbidden
    cases ran : reader.readWhole (Decoder.blob limit).unguarded with
    | mk answer moved =>
        cases answer with
        | error cause => exact ⟨cause, rfl⟩
        | ok value =>
            rw [Reader.readWhole_unguarded_eq_ok_iff.mp ran] at forbidden
            cases forbidden
  · intro itemSize before belongs
    obtain ⟨header, read, counted, rfl⟩ := (Decoder.readable_of_mem_trace belongs).2 _ rfl
    refine ⟨header, read, counted, rfl, fun count => counted.guard_lt_size count _, ?_⟩
    intro items moved answered
    have fits := Reader.fits_of_readCount_eq_ok answered
    refine ⟨fits, ?_⟩
    calc
      counted.capacity items ≤ items := counted.capacity_le items
      _ ≤ items * counted.leastSize header.dimension :=
        Nat.le_mul_of_pos_right items (counted.leastSize_pos _)
      _ ≤ moved.remaining := fits

/-- Room for one interior ring is reserved in a polygon of two rings without coordinates, and one is
kept. A multipoint without members meets no guard, and one that counts two before a single byte is
refused either way. -/
theorem count_guards_conservative_rings :
    let polygon : Reader := .ofBytes [0, 0, 0, 0, 3, 0, 0, 0, 2, 0, 0, 0, 0, 0, 0, 0, 0]
    let rings : Reader := ⟨⟨[3, 0, 0, 0, 0], [0, 0, 0, 2, 0, 0, 0, 0, 0, 0, 0, 0]⟩, some .big⟩
    let memberless : Reader := .ofBytes [0, 0, 0, 0, 4, 0, 0, 0, 0]
    let multiPoint : Reader := .ofBytes [0, 0, 0, 0, 4, 0, 0, 0, 2, 1]
    let hollow : Polygon := ⟨.empty, [.empty]⟩
    (⟨.count 4, rings⟩ ∈ (Decoder.blob 0).trace polygon ∧ (rings.readCount 4).1 = .ok 2 ∧
      Counted.rings.capacity 2 ≤ 8) ∧
    (((Decoder.polygon .xy).run rings).1 = .ok hollow ∧
      hollow.interiors.length = Counted.rings.capacity 2) ∧
    ((memberless.readGeometry 1).1 = .ok ⟨-1, .multiPoint []⟩ ∧
      memberless.readWhole (Decoder.blob 1).unguarded = memberless.readGeometry 1) ∧
    (multiPoint.readGeometry 1).1 = .error (.countTooLarge 2 1) ∧
      ∃ cause, (multiPoint.readWhole (Decoder.blob 1).unguarded).1 = .error cause := by
  intro polygon rings memberless multiPoint hollow
  have traced : (Decoder.blob 0).trace polygon =
      [⟨.field .byte, polygon⟩,
        ⟨.field .word32, ⟨⟨[0], [0, 0, 0, 3, 0, 0, 0, 2, 0, 0, 0, 0, 0, 0, 0, 0]⟩, some .big⟩⟩,
        ⟨.count 4, rings⟩,
        ⟨.count 16, ⟨⟨[2, 0, 0, 0, 3, 0, 0, 0, 0], [0, 0, 0, 0, 0, 0, 0, 0]⟩, some .big⟩⟩,
        ⟨.count 16, ⟨⟨[0, 0, 0, 0, 2, 0, 0, 0, 3, 0, 0, 0, 0], [0, 0, 0, 0]⟩, some .big⟩⟩] := by
    cbv
  have belongs : ⟨.count 4, rings⟩ ∈ (Decoder.blob 0).trace polygon := by simp [traced]
  have answered : rings.readCount 4 =
      (.ok 2, ⟨⟨[2, 0, 0, 0, 3, 0, 0, 0, 0], [0, 0, 0, 0, 0, 0, 0, 0]⟩, some .big⟩) := by cbv
  have read : ((Decoder.polygon .xy).run rings).1 = .ok hollow := by cbv
  have accepted : (memberless.readGeometry 1).1 = .ok ⟨-1, .multiPoint []⟩ := by cbv
  have forbidden : (multiPoint.readGeometry 1).1 = .error (.countTooLarge 2 1) := by cbv
  obtain ⟨_, _, _, _, _, interiors, counts⟩ := count_guards_conservative polygon 0
  obtain ⟨header, headed, counted, sameSize, _, reserved⟩ := counts 4 rings belongs
  obtain ⟨_, _, unforbidden, _⟩ := count_guards_conservative memberless 1
  obtain ⟨_, refused, _⟩ := count_guards_conservative multiPoint 1
  obtain ⟨_, _, two, kept, _⟩ := interiors .xy rings hollow _ (Prod.ext read rfl)
  cases answered.symm.trans two
  refine ⟨⟨belongs, congrArg Prod.fst answered, ?_⟩, ⟨read, kept⟩, ⟨accepted, unforbidden ?_⟩,
    forbidden, refused 2 1 forbidden⟩
  · have room := (reserved 2 _ answered).2
    cases counted with
    | coordinates =>
        rw [Counted.leastSize] at sameSize
        omega
    | rings => exact room
    | members => cases sameSize
  · intro count remaining refusal
    rw [accepted] at refusal
    cases refusal

end GeoWire
