import GeoWire.Codec
import GeoWire.Proofs.BodyLengths
import GeoWire.Proofs.DecodedTrees
import GeoWire.Proofs.Extension
import GeoWire.Proofs.RoundTrip

/-!
# Peeking at headers

What a header tells of a blob that was written, and from how many of its bytes it can be told.
-/

set_option autoImplicit false

namespace GeoWire

/-!
## Bounded reading
-/

theorem Reader.remaining_of_read_eq_ok {type : FieldType} {reader moved : Reader}
    {value : type.Value} (answered : reader.read type = (.ok value, moved)) :
    reader.remaining = type.width + moved.remaining := by
  obtain ⟨order, _, _, passed, _⟩ := read_eq_ok answered
  rw [remaining, Tape.remaining, passed, List.length_append, FieldType.length_encode]
  rfl

namespace Decoder

variable {α β : Type}

/-- The decoder reads fields alone, at most the given number of bytes, and does not call a buffer too
short by itself. -/
def ReadsWithin (room : Nat) : Decoder α → Prop
  | .done _ => True
  | .fail cause => cause.isShortage = false
  | .readField type next =>
      ∃ rest, room = type.width + rest ∧ ∀ value, (next value).ReadsWithin rest
  | .readCount _ _ => False
  | .switchOrder _ next => next.ReadsWithin room

theorem ReadsWithin.mono {decoder : Decoder α} {room more : Nat} (within : decoder.ReadsWithin room)
    (le : room ≤ more) : decoder.ReadsWithin more := by
  induction decoder generalizing room more with
  | done => trivial
  | fail => exact within
  | readField type next ih =>
      obtain ⟨rest, rfl, further⟩ := within
      obtain ⟨extra, rfl⟩ := Nat.exists_eq_add_of_le le
      exact ⟨rest + extra, Nat.add_assoc _ _ _, fun value =>
        ih value (further value) (Nat.le_add_right rest extra)⟩
  | readCount => exact within.elim
  | switchOrder order next ih => exact ih within le

theorem ReadsWithin.bind {first : Decoder α} {next : α → Decoder β} {spent rest : Nat}
    (left : first.ReadsWithin spent) (right : ∀ value, (next value).ReadsWithin rest) :
    (first >>= next).ReadsWithin (rest + spent) := by
  change (first.andThen next).ReadsWithin (rest + spent)
  induction first generalizing spent with
  | done value => exact (right value).mono (Nat.le_add_right rest spent)
  | fail => exact left
  | readField type continuation ih =>
      obtain ⟨later, rfl, further⟩ := left
      exact ⟨rest + later, Nat.add_left_comm _ _ _, fun value => ih value (further value)⟩
  | readCount => exact left.elim
  | switchOrder order continuation ih => exact ih left

/-- Only a buffer that ends before the bytes that may be read is found too short. -/
theorem ReadsWithin.cause_of_run_eq_error {decoder : Decoder α} {room : Nat}
    (within : decoder.ReadsWithin room) {reader moved : Reader} {cause : DecodeError}
    (failed : decoder.run reader = (.error cause, moved)) :
    cause.isShortage = false ∨
      reader.remaining < room ∧ ∃ position needed, cause = .truncated position needed := by
  induction decoder generalizing room reader with
  | done => cases failed
  | fail =>
      cases failed
      exact .inl within
  | readField type next ih =>
      obtain ⟨rest, rfl, further⟩ := within
      unfold run at failed
      split at failed
      · rename_i answered
        have passed := Reader.remaining_of_read_eq_ok answered
        rcases ih _ (further _) failed with refused | ⟨short, truncated⟩
        · exact .inl refused
        · exact .inr ⟨by omega, truncated⟩
      · rename_i answered
        cases failed
        rcases Reader.read_eq_error answered with ⟨_, rfl⟩ | ⟨rfl, short, _⟩
        · exact .inl rfl
        · exact .inr ⟨by omega, _, _, rfl⟩
  | readCount => exact within.elim
  | switchOrder order next ih =>
      have sameRoom : (reader.setOrder order).remaining = reader.remaining := rfl
      rw [← sameRoom]
      exact ih within failed

/-!
## Headers
-/

theorem done_readsWithin (value : α) : (pure value : Decoder α).ReadsWithin 0 :=
  trivial

theorem setOrder_readsWithin (order : ByteOrder) : (setOrder order).ReadsWithin 0 :=
  trivial

theorem byte_readsWithin : (one .byte).ReadsWithin 1 :=
  ⟨0, rfl, fun _ => trivial⟩

theorem ofExcept_readsWithin {outcome : Except DecodeError α}
    (justified : ∀ cause, outcome = .error cause → cause.Justified false fun _ => False) :
    (ofExcept outcome).ReadsWithin 0 := by
  cases outcome with
  | ok value => trivial
  | error cause => exact (justified cause rfl).isShortage_eq_false

theorem kindByte_readsWithin : kindByte.ReadsWithin 1 :=
  byte_readsWithin.bind fun _ => ofExcept_readsWithin fun _ => kind_justified

theorem typeField_readsWithin : typeField.ReadsWithin 4 :=
  ⟨0, rfl, fun _ => ofExcept_readsWithin fun _ => typeField_justified⟩

theorem sridIf_readsWithin (isThere : Bool) : (sridIf isThere).ReadsWithin 4 := by
  cases isThere
  · trivial
  · exact ⟨0, rfl, fun _ => trivial⟩

theorem orderOfMarker_readsWithin (marker : UInt8) : (orderOfMarker marker).ReadsWithin 0 := by
  unfold orderOfMarker
  split
  · rfl
  · trivial

theorem native_readsWithin (lead : UInt8) : (Header.native lead).ReadsWithin 7 := by
  refine (setOrder_readsWithin _).bind fun _ => byte_readsWithin.bind fun form => ?_
  split
  · split
    · exact byte_readsWithin.bind fun flags =>
        (ofExcept_readsWithin fun _ => dimension_justified).bind fun dimension =>
          (sridIf_readsWithin _).bind fun srid => kindByte_readsWithin.bind fun _ =>
            done_readsWithin _
    · rfl
  · rfl

theorem standard_readsWithin (marker : UInt8) : (Header.standard marker).ReadsWithin 8 :=
  (orderOfMarker_readsWithin marker).bind fun _ => typeField_readsWithin.bind fun _ =>
    (sridIf_readsWithin _).bind fun _ => done_readsWithin _

theorem header_readsWithin : Header.decoder.ReadsWithin 9 := by
  refine byte_readsWithin.bind fun lead => ?_
  split
  · exact (native_readsWithin lead).mono (by decide)
  · exact standard_readsWithin lead

end Decoder

/-!
## Buffers and their fronts
-/

namespace Header

theorem peek_take (buffer : List UInt8) : peek (buffer.take 9) = peek buffer := by
  by_cases short : buffer.length ≤ 9
  · rw [List.take_of_length_le short]
  · have whole : (Reader.ofBytes (buffer.take 9)).extend (buffer.drop 9) = Reader.ofBytes buffer := by
      simp [Reader.ofBytes, Reader.extend, Tape.ofBytes]
    have extended := Decoder.run_extend (buffer.drop 9) decoder (Reader.ofBytes (buffer.take 9))
    rw [whole] at extended
    unfold peek Reader.readHeader
    generalize ran : decoder.run (Reader.ofBytes (buffer.take 9)) = outcome at extended
    generalize decoder.run (Reader.ofBytes buffer) = longer at extended
    cases extended with
    | finished => rfl
    | refused => rfl
    | short lacking =>
        rcases Decoder.header_readsWithin.cause_of_run_eq_error ran with refused | ⟨few, _⟩
        · rw [refused] at lacking
          cases lacking
        · change (buffer.take 9).length < 9 at few
          rw [List.length_take] at few
          omega

/-- A buffer that ends inside a header is found too short. -/
theorem peek_front_of_accepts {head front : List UInt8} {header : Header}
    {final : Option ByteOrder} (accepted : decoder.Accepts none head header final)
    (isFront : front <+: head) (shorter : front.length < head.length) :
    ∃ position needed, peek front = .error (.truncated position needed) := by
  obtain ⟨more, rfl⟩ := isFront
  have read := accepted.run_eq Decoder.header_honest [] []
  rw [List.append_nil] at read
  have extended := Decoder.run_extend more decoder (Reader.ofBytes front)
  have whole : (Reader.ofBytes front).extend more = ⟨⟨[], front ++ more⟩, none⟩ := rfl
  rw [whole, read] at extended
  generalize atEnd : (⟨⟨_, []⟩, final⟩ : Reader) = after at extended
  unfold peek Reader.readHeader
  generalize ran : decoder.run (Reader.ofBytes front) = outcome at extended
  cases extended with
  | finished =>
      -- The bytes that were added would still be ahead, but the whole head has been read.
      have remaining := congrArg Reader.remaining atEnd
      rw [Reader.remaining_extend] at remaining
      rw [List.length_append] at shorter
      change 0 = _ at remaining
      omega
  | short lacking =>
      rcases Decoder.header_readsWithin.cause_of_run_eq_error ran with refused | ⟨_, truncated⟩
      · rw [refused] at lacking
        cases lacking
      · obtain ⟨position, needed, rfl⟩ := truncated
        exact ⟨position, needed, rfl⟩

end Header

/-!
## Headers of encodings
-/

theorem Geometry.kind_normal (geometry : Geometry) : geometry.normal.kind = geometry.kind := by
  cases geometry <;> rfl

namespace ReferencedGeometry

/-- The header that a blob of a geometry has. -/
def writtenHeader (format : Format) (order : ByteOrder) (value : ReferencedGeometry) : Header where
  dialect := if format.dialect = .ewkb ∧ value.srid = noSrid then .wkb else format.dialect
  version := 0
  order := order
  srid := if format.dialect.embedsSrid value.srid then value.srid else noSrid
  dimension := value.geometry.dimension
  kind := value.geometry.kind

/-- The number of bytes up to the end of the header: byte order and type field or three native bytes
and the kind, and an SRID if one is embedded. -/
def headerLength (format : Format) (value : ReferencedGeometry) : Nat :=
  (if format.dialect.isNative then 4 else 5) +
    if format.dialect.embedsSrid value.srid then 4 else 0

variable {value : ReferencedGeometry} {format : Format} {order : ByteOrder} {limit : Nat}

theorem srid_writtenHeader : (value.writtenHeader format order).srid =
    (value.rootLayout format limit).srid?.getD noSrid := by
  simp only [writtenHeader, rootLayout]
  cases format.dialect.embedsSrid value.srid <;> rfl

theorem dialect_writtenHeader_of_standard (standard : format.dialect.isNative = false) :
    (value.writtenHeader format order).dialect =
      if (value.rootLayout format limit).srid?.isSome then .ewkb else .wkb := by
  obtain ⟨dialect, version⟩ := format
  cases dialect with
  | nativeVector | nativeRaster => cases standard
  | wkb => rfl
  | ewkb =>
      by_cases unreferenced : value.srid = noSrid <;>
        simp [writtenHeader, rootLayout, Dialect.embedsSrid, Dialect.holdsSrid, unreferenced]

theorem dialect_writtenHeader_of_native (checked : format.checkWritable = .ok ())
    (native : format.dialect.isNative = true) :
    (value.writtenHeader format order).dialect = .nativeVector := by
  obtain ⟨dialect, version⟩ := format
  cases dialect with
  | nativeVector => rfl
  | nativeRaster => cases checked
  | wkb | ewkb => cases native

theorem accepts_headerBytes (checked : format.checkWritable = .ok ())
    (writable : value.geometry.dimension ≠ .xym) :
    Header.decoder.Accepts none
      ((value.rootLayout format limit).headerBytes order value.geometry.kind)
      (value.writtenHeader format order) (some order) ∧
    ((value.rootLayout format limit).headerBytes order value.geometry.kind).length =
      value.headerLength format := by
  rw [Decoder.accepts_header_iff]
  have announced := value.isSome_srid?_rootLayout format limit
  cases native : format.dialect.isNative with
  | false =>
      have header := (value.rootLayout format limit).standardHeader_headerBytes writable native
        value.geometry.kind order
      refine ⟨⟨rfl, _, srid_writtenHeader, rfl,
        .inr ⟨dialect_writtenHeader_of_standard native, header⟩⟩, ?_⟩
      rw [headerLength, native, ← announced]
      exact header.length
  | true =>
      have version := Format.version_of_checkWritable checked native
      have header := (value.rootLayout format limit).nativeHeader_headerBytes writable native rfl
        version value.geometry.kind order
      refine ⟨⟨rfl, _, srid_writtenHeader, rfl,
        .inl ⟨dialect_writtenHeader_of_native checked native, header⟩⟩, ?_⟩
      rw [headerLength, native, ← announced]
      exact header.length

/-- The header of a blob that was written can be read from the blob, from any longer buffer and from
any part of the blob that holds it, and no shorter part suffices. No more than nine bytes are ever
looked at. -/
theorem peek_encode :
    (∀ (value : ReferencedGeometry) (format : Format) (order : ByteOrder) (limit : Nat)
      (blob : List UInt8), value.encode format order limit = .ok (some blob) →
      (value.writtenHeader format order).dimension ≠ .xym ∧
      (∀ more, Header.peek (blob ++ more) = .ok (value.writtenHeader format order)) ∧
      ∀ front, front <+: blob →
        if value.headerLength format ≤ front.length then
          Header.peek front = .ok (value.writtenHeader format order)
        else ∃ position needed, Header.peek front = .error (.truncated position needed)) ∧
    ∀ buffer, Header.peek buffer = Header.peek (buffer.take 9) := by
  refine ⟨?_, fun buffer => (Header.peek_take buffer).symm⟩
  intro value format order limit blob written
  obtain ⟨checked, writable, _, body, _, rfl⟩ := writes_of_encode written
  rw [Geometry.kind_normal]
  obtain ⟨accepted, length⟩ := accepts_headerBytes checked writable
  refine ⟨writable, ?_, ?_⟩
  · intro more
    rw [List.append_assoc]
    exact Header.peek_append_of_accepts accepted _
  · intro front isFront
    have isHead := List.prefix_append
      ((value.rootLayout format limit).headerBytes order value.geometry.kind) body
    split
    · rename_i longer
      rw [← length] at longer
      obtain ⟨rest, rfl⟩ := List.prefix_of_prefix_length_le isHead isFront longer
      exact Header.peek_append_of_accepts accepted rest
    · rename_i shorter
      rw [← length, Nat.not_le] at shorter
      exact Header.peek_front_of_accepts accepted
        (List.prefix_of_prefix_length_le isFront isHead (Nat.le_of_lt shorter)) shorter

/-- A collection with an SRID, cut off after its header and one byte before, and without an SRID, with
a byte after it. -/
theorem peek_encode_collection :
    let geometry : Geometry := .collection [.point ⟨some (.xyz ⟨1⟩ ⟨2⟩ ⟨3⟩)⟩]
    (∃ blob, ReferencedGeometry.encode .ewkb .big 1 ⟨4326, geometry⟩ = .ok (some blob) ∧
      Header.peek (blob.take 9) = .ok ⟨.ewkb, 0, .big, 4326, .xyz, .collection⟩ ∧
      ∃ position needed, Header.peek (blob.take 8) = .error (.truncated position needed)) ∧
    ∃ blob, ReferencedGeometry.encode .ewkb .big 1 (.unreferenced geometry) = .ok (some blob) ∧
      Header.peek (blob ++ [7]) = .ok ⟨.wkb, 0, .big, noSrid, .xyz, .collection⟩ := by
  intro geometry
  have planned : plan .ewkb 1 ⟨4326, geometry⟩ =
      .ok (some ⟨rootLayout .ewkb 1 ⟨4326, geometry⟩, 42⟩) := rfl
  have plannedPlain : plan .ewkb 1 (.unreferenced geometry) =
      .ok (some ⟨rootLayout .ewkb 1 (.unreferenced geometry), 38⟩) := rfl
  have encoded := encode_of_plan planned .big
  have encodedPlain := encode_of_plan plannedPlain .big
  obtain ⟨_, _, fronts⟩ := peek_encode.1 _ _ _ _ _ encoded
  obtain ⟨_, extensions, _⟩ := peek_encode.1 _ _ _ _ _ encodedPlain
  have whole := fronts _ (List.take_prefix 9 _)
  have short := fronts _ (List.take_prefix 8 _)
  rw [if_pos (by decide)] at whole
  rw [if_neg (by decide)] at short
  exact ⟨⟨_, encoded, whole, short⟩, _, encodedPlain, extensions [7]⟩

end ReferencedGeometry

end GeoWire
