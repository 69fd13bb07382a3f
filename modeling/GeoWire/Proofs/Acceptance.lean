import GeoWire.Decode.Decoder

/-!
# Acceptance

Which bytes a decoder turns into which value, without a buffer around them. The guard of a count
looks beyond the bytes that are read, so acceptance leaves it out. Where the guards are honest,
acceptance and successful runs are the same.
-/

set_option autoImplicit false

namespace GeoWire

/-!
## Fields
-/

/-- A single byte is read in any byte order, other fields in the one that is known. -/
def FieldType.ReadsIn (type : FieldType) (known : Option ByteOrder) (order : ByteOrder) : Prop :=
  type = .byte ∨ known = some order

/-- A list of at most one byte reads the same in both orders. -/
theorem FieldType.decode_byte (order : ByteOrder) {bytes : List UInt8} (single : bytes.length ≤ 1) :
    decode .little .byte bytes = decode order .byte bytes := by
  match bytes with
  | [] | [_] => cases order <;> rfl

/-- The second tape is the first after moving over the given bytes. -/
def Tape.Passes (bytes : List UInt8) (before after : Tape) : Prop :=
  before.ahead = bytes ++ after.ahead ∧ after.behind = bytes.reverse ++ before.behind

theorem Tape.Passes.refl (tape : Tape) : Tape.Passes [] tape tape :=
  ⟨rfl, rfl⟩

theorem Tape.Passes.trans {first second : List UInt8} {before middle after : Tape}
    (left : Tape.Passes first before middle) (right : Tape.Passes second middle after) :
    Tape.Passes (first ++ second) before after := by
  obtain ⟨leftAhead, leftBehind⟩ := left
  obtain ⟨rightAhead, rightBehind⟩ := right
  constructor
  · rw [leftAhead, rightAhead, List.append_assoc]
  · rw [rightBehind, leftBehind, List.reverse_append, List.append_assoc]

namespace Reader

/-- A field that can be read in an order is read in it, or cut off at the end. -/
theorem read_of_readsIn {type : FieldType} {order : ByteOrder} {reader : Reader}
    (readsIn : type.ReadsIn reader.order? order) :
    reader.read type =
      (if type.width ≤ reader.remaining then
          .ok (type.decode order (reader.tape.ahead.take type.width))
        else .error (.truncated reader.position type.width),
        { reader with tape := reader.tape.advance type.width }) := by
  have selected : ∃ effective, reader.orderFor? type = some effective ∧
      type.decode effective (reader.tape.ahead.take type.width) =
        type.decode order (reader.tape.ahead.take type.width) := by
    have single : (reader.tape.ahead.take 1).length ≤ 1 := List.length_take_le 1 _
    rcases readsIn with rfl | known
    · exact ⟨.little, rfl, FieldType.decode_byte order single⟩
    · cases type with
      | byte => exact ⟨.little, rfl, FieldType.decode_byte order single⟩
      | int16 | int32 | word32 | int64 | double => exact ⟨order, known, rfl⟩
  obtain ⟨effective, selected, sameValue⟩ := selected
  have fits : reader.tape.hasAhead type.width = true ↔ type.width ≤ reader.remaining :=
    Tape.hasAhead_iff
  simp only [read, selected, fits, sameValue]
  split <;> rfl

theorem read_encode {type : FieldType} {known : Option ByteOrder} {order : ByteOrder}
    (readsIn : type.ReadsIn known order) (value : type.Value) (behind rest : List UInt8) :
    read type ⟨⟨behind, type.encode order value ++ rest⟩, known⟩ =
      (.ok value, ⟨⟨(type.encode order value).reverse ++ behind, rest⟩, known⟩) := by
  have whole : (type.encode order value).length = type.width := type.length_encode order value
  have fits : type.width ≤ (type.encode order value ++ rest).length := by
    rw [List.length_append]
    omega
  refine (read_of_readsIn readsIn).trans ?_
  simp only [remaining, Tape.remaining, if_pos fits, Tape.advance, List.take_left' whole,
    List.drop_left' whole, FieldType.decode_encode]

theorem read_eq_ok {type : FieldType} {reader moved : Reader} {value : type.Value}
    (success : reader.read type = (.ok value, moved)) :
    ∃ order, type.ReadsIn reader.order? order ∧ moved.order? = reader.order? ∧
      Tape.Passes (type.encode order value) reader.tape moved.tape := by
  cases selected : reader.orderFor? type with
  | none => simp [read, selected] at success
  | some order =>
      simp only [read, selected] at success
      split at success
      · rename_i fits
        rw [Tape.hasAhead_iff, Tape.remaining] at fits
        cases success
        have taken : (reader.tape.ahead.take type.width).length = type.width := by
          rw [List.length_take, Nat.min_eq_left fits]
        refine ⟨order, ?_, rfl, ?_⟩
        · cases type with
          | byte => exact .inl rfl
          | int16 | int32 | word32 | int64 | double => exact .inr selected
        · rw [FieldType.encode_decode order type taken]
          exact ⟨(List.take_append_drop _ _).symm, rfl⟩
      · cases success

/-- A field is not read where its byte order is unknown or where the buffer ends inside it. -/
theorem read_eq_error {type : FieldType} {reader moved : Reader} {cause : DecodeError}
    (failed : reader.read type = (.error cause, moved)) :
    reader.orderFor? type = none ∧ cause = .byteOrderUnknown ∨
      cause = .truncated reader.position type.width ∧ reader.remaining < type.width ∧
        moved.remaining = 0 := by
  cases selected : reader.orderFor? type with
  | none =>
      simp only [read, selected] at failed
      cases failed
      exact .inl ⟨rfl, rfl⟩
  | some order =>
      simp only [read, selected] at failed
      split at failed <;> cases failed
      rename_i lacking
      rw [Tape.hasAhead_iff, Nat.not_le] at lacking
      refine .inr ⟨rfl, lacking, ?_⟩
      rw [remaining, Tape.remaining, Tape.advance, List.length_drop]
      exact Nat.sub_eq_zero_of_le (Nat.le_of_lt lacking)

theorem readCount_encode {order : ByteOrder} {itemSize : Nat} {behind rest : List UInt8}
    (count : UInt32) (fits : count.toNat * itemSize ≤ rest.length) :
    readCount itemSize ⟨⟨behind, FieldType.encode order .word32 count ++ rest⟩, some order⟩ =
      (.ok count.toNat,
        ⟨⟨(FieldType.encode order .word32 count).reverse ++ behind, rest⟩, some order⟩) := by
  have readsIn : FieldType.ReadsIn .word32 (some order) order := .inr rfl
  simp only [readCount, read_encode readsIn count]
  exact if_pos fits

theorem readCount_eq_ok {itemSize items : Nat} {reader moved : Reader}
    (success : reader.readCount itemSize = (.ok items, moved)) :
    ∃ (order : ByteOrder) (count : UInt32), reader.order? = some order ∧ count.toNat = items ∧
      moved.order? = reader.order? ∧
      Tape.Passes (FieldType.encode order .word32 count) reader.tape moved.tape := by
  unfold readCount at success
  cases counted : reader.read .word32 with
  | mk answer after =>
      cases answer with
      | error cause => simp [counted] at success
      | ok count =>
          simp only [counted] at success
          split at success
          · cases success
            obtain ⟨order, readsIn, sameOrder, passes⟩ := read_eq_ok counted
            rcases readsIn with impossible | known
            · cases impossible
            · exact ⟨order, count, known, rfl, sameOrder, passes⟩
          · cases success

theorem fits_of_readCount_eq_ok {itemSize items : Nat} {reader moved : Reader}
    (success : reader.readCount itemSize = (.ok items, moved)) :
    items * itemSize ≤ moved.remaining := by
  unfold readCount at success
  split at success
  · cases success
  · split at success <;> cases success
    assumption

/-- A count is not read where its field is not, or where its guard forbids it. -/
theorem readCount_eq_error {itemSize : Nat} {reader moved : Reader} {cause : DecodeError}
    (failed : reader.readCount itemSize = (.error cause, moved)) :
    reader.read .word32 = (.error cause, moved) ∨
      ∃ count : UInt32, reader.read .word32 = (.ok count, moved) ∧
        cause = .countTooLarge count.toNat moved.remaining ∧
        moved.remaining < count.toNat * itemSize := by
  unfold readCount at failed
  split at failed
  · rename_i answered
    cases failed
    exact .inl answered
  · rename_i count after answered
    split at failed <;> cases failed
    rename_i forbidden
    exact .inr ⟨count, answered, rfl, Nat.lt_of_not_le forbidden⟩

end Reader

/-!
## Accepted bytes
-/

namespace Decoder

variable {α β : Type}

/-- The bytes that a decoder reads as a result when a byte order is known at first, and the byte
order that is known at last. -/
inductive Accepts : Decoder α → Option ByteOrder → List UInt8 → α → Option ByteOrder → Prop where
  | done {value : α} {known : Option ByteOrder} : Accepts (.done value) known [] value known
  | readField {type : FieldType} {next : type.Value → Decoder α} {known final : Option ByteOrder}
      {order : ByteOrder} {value : type.Value} {bytes : List UInt8} {result : α} :
      type.ReadsIn known order → Accepts (next value) known bytes result final →
      Accepts (.readField type next) known (type.encode order value ++ bytes) result final
  | readCount {itemSize : Nat} {next : Nat → Decoder α} {final : Option ByteOrder}
      {order : ByteOrder} {count : UInt32} {bytes : List UInt8} {result : α} :
      Accepts (next count.toNat) (some order) bytes result final →
      Accepts (.readCount itemSize next) (some order)
        (FieldType.encode order .word32 count ++ bytes) result final
  | switchOrder {order : ByteOrder} {next : Decoder α} {known final : Option ByteOrder}
      {bytes : List UInt8} {result : α} :
      Accepts next (some order) bytes result final →
      Accepts (.switchOrder order next) known bytes result final

theorem Accepts.bind {first : Decoder α} {next : α → Decoder β}
    {known middle final : Option ByteOrder} {head tail : List UInt8} {value : α} {result : β}
    (left : first.Accepts known head value middle)
    (right : (next value).Accepts middle tail result final) :
    (first >>= next).Accepts known (head ++ tail) result final := by
  change (first.andThen next).Accepts known (head ++ tail) result final
  induction left with
  | done => exact right
  | readField readsIn _ ih =>
      rw [List.append_assoc]
      exact .readField readsIn (ih right)
  | readCount _ ih =>
      rw [List.append_assoc]
      exact .readCount (ih right)
  | switchOrder _ ih => exact .switchOrder (ih right)

theorem accepts_bind_iff {first : Decoder α} {next : α → Decoder β}
    {known final : Option ByteOrder} {bytes : List UInt8} {result : β} :
    (first >>= next).Accepts known bytes result final ↔
      ∃ head tail value middle, bytes = head ++ tail ∧ first.Accepts known head value middle ∧
        (next value).Accepts middle tail result final := by
  constructor
  · intro accepted
    change (first.andThen next).Accepts known bytes result final at accepted
    induction first generalizing known bytes with
    | done value => exact ⟨[], bytes, value, known, rfl, .done, accepted⟩
    | fail cause => cases accepted
    | readField type continuation ih =>
        cases accepted with
        | readField readsIn further =>
            obtain ⟨head, tail, value, middle, rfl, left, right⟩ := ih _ further
            exact ⟨_, tail, value, middle, (List.append_assoc _ _ _).symm,
              .readField readsIn left, right⟩
    | readCount itemSize continuation ih =>
        cases accepted with
        | readCount further =>
            obtain ⟨head, tail, value, middle, rfl, left, right⟩ := ih _ further
            exact ⟨_, tail, value, middle, (List.append_assoc _ _ _).symm, .readCount left, right⟩
    | switchOrder order continuation ih =>
        cases accepted with
        | switchOrder further =>
            obtain ⟨head, tail, value, middle, rfl, left, right⟩ := ih further
            exact ⟨head, tail, value, middle, rfl, .switchOrder left, right⟩
  · intro parts
    obtain ⟨head, tail, value, middle, rfl, left, right⟩ := parts
    exact left.bind right

@[simp] theorem accepts_pure_iff {value result : α} {known final : Option ByteOrder}
    {bytes : List UInt8} :
    (pure value : Decoder α).Accepts known bytes result final ↔
      bytes = [] ∧ result = value ∧ final = known := by
  constructor
  · intro accepted
    cases accepted
    exact ⟨rfl, rfl, rfl⟩
  · intro parts
    obtain ⟨rfl, rfl, rfl⟩ := parts
    exact .done

@[simp] theorem not_accepts_fail {cause : DecodeError} {result : α} {known final : Option ByteOrder}
    {bytes : List UInt8} : ¬ (fail cause : Decoder α).Accepts known bytes result final := by
  intro accepted
  cases accepted

theorem accepts_map_iff {transform : α → β} {decoder : Decoder α}
    {known final : Option ByteOrder} {bytes : List UInt8} {result : β} :
    (transform <$> decoder).Accepts known bytes result final ↔
      ∃ value, decoder.Accepts known bytes value final ∧ transform value = result := by
  rw [← bind_pure_comp, accepts_bind_iff]
  constructor
  · intro accepted
    obtain ⟨head, tail, value, middle, rfl, accepted, finished⟩ := accepted
    obtain ⟨rfl, rfl, rfl⟩ := accepts_pure_iff.mp finished
    exact ⟨value, by simpa only [List.append_nil] using accepted, rfl⟩
  · intro parts
    obtain ⟨value, accepted, rfl⟩ := parts
    exact ⟨bytes, [], value, final, (List.append_nil bytes).symm, accepted, .done⟩

theorem accepts_one_iff {type : FieldType} {known final : Option ByteOrder} {bytes : List UInt8}
    {value : type.Value} :
    (one type).Accepts known bytes value final ↔
      ∃ order, type.ReadsIn known order ∧ bytes = type.encode order value ∧ final = known := by
  constructor
  · intro accepted
    cases accepted with
    | readField readsIn finished =>
        cases finished
        exact ⟨_, readsIn, List.append_nil _, rfl⟩
  · intro parts
    obtain ⟨order, readsIn, rfl, rfl⟩ := parts
    have accepted : (one type).Accepts final (type.encode order value ++ []) value final :=
      .readField readsIn .done
    simpa only [List.append_nil] using accepted

theorem accepts_countOf_iff {itemSize items : Nat} {known final : Option ByteOrder}
    {bytes : List UInt8} :
    (countOf itemSize).Accepts known bytes items final ↔
      ∃ (order : ByteOrder) (count : UInt32), known = some order ∧ final = some order ∧
        count.toNat = items ∧ bytes = FieldType.encode order .word32 count := by
  constructor
  · intro accepted
    cases accepted with
    | readCount finished =>
        cases finished
        exact ⟨_, _, rfl, rfl, rfl, List.append_nil _⟩
  · intro parts
    obtain ⟨order, count, rfl, rfl, rfl, rfl⟩ := parts
    have accepted : (countOf itemSize).Accepts (some order)
        (FieldType.encode order .word32 count ++ []) count.toNat (some order) :=
      .readCount .done
    simpa only [List.append_nil] using accepted

@[simp] theorem accepts_setOrder_iff {order : ByteOrder} {known final : Option ByteOrder}
    {bytes : List UInt8} {value : Unit} :
    (setOrder order).Accepts known bytes value final ↔ bytes = [] ∧ final = some order := by
  constructor
  · intro accepted
    cases accepted with
    | switchOrder finished =>
        cases finished
        exact ⟨rfl, rfl⟩
  · intro parts
    obtain ⟨rfl, rfl⟩ := parts
    exact .switchOrder .done

@[simp] theorem accepts_require_iff {cause : DecodeError} {value? : Option α} {result : α}
    {known final : Option ByteOrder} {bytes : List UInt8} :
    (require cause value?).Accepts known bytes result final ↔
      bytes = [] ∧ value? = some result ∧ final = known := by
  cases value? with
  | none => simp [require]
  | some value =>
      change (pure value : Decoder α).Accepts known bytes result final ↔ _
      rw [accepts_pure_iff, Option.some.injEq, eq_comm (a := value)]

/-!
## Items in a row
-/

/-- The bytes that a decoder reads as a list of results, one after the other. -/
inductive AcceptsRow (item : Decoder α) :
    Option ByteOrder → List UInt8 → List α → Option ByteOrder → Prop where
  | nil {known : Option ByteOrder} : AcceptsRow item known [] [] known
  | cons {known middle final : Option ByteOrder} {head tail : List UInt8} {first : α}
      {rest : List α} :
      item.Accepts known head first middle → AcceptsRow item middle tail rest final →
      AcceptsRow item known (head ++ tail) (first :: rest) final

theorem accepts_replicate_iff {item : Decoder α} {items : Nat} {known final : Option ByteOrder}
    {bytes : List UInt8} {results : List α} :
    (replicate item items).Accepts known bytes results final ↔
      results.length = items ∧ item.AcceptsRow known bytes results final := by
  induction items generalizing known bytes results with
  | zero =>
      rw [replicate_zero, accepts_pure_iff]
      constructor
      · intro accepted
        obtain ⟨rfl, rfl, rfl⟩ := accepted
        exact ⟨rfl, .nil⟩
      · intro parts
        obtain ⟨noResults, row⟩ := parts
        cases row with
        | nil => exact ⟨rfl, rfl, rfl⟩
        | cons _ _ => cases noResults
  | succ items ih =>
      rw [replicate_succ, accepts_bind_iff]
      constructor
      · intro accepted
        obtain ⟨head, tail, first, middle, rfl, accepted, further⟩ := accepted
        obtain ⟨rest, row, rfl⟩ := accepts_map_iff.mp further
        obtain ⟨count, row⟩ := ih.mp row
        exact ⟨congrArg (· + 1) count, .cons accepted row⟩
      · intro parts
        obtain ⟨count, row⟩ := parts
        cases row with
        | nil => cases count
        | cons accepted row =>
            have further := ih.mpr ⟨Nat.succ.inj count, row⟩
            exact ⟨_, _, _, _, rfl, accepted, accepts_map_iff.mpr ⟨_, further, rfl⟩⟩

theorem accepts_counted_iff {item : Decoder α} {itemSize : Nat} {known final : Option ByteOrder}
    {bytes : List UInt8} {results : List α} :
    (counted itemSize item).Accepts known bytes results final ↔
      ∃ (order : ByteOrder) (tail : List UInt8), known = some order ∧ results.length < UInt32.size ∧
        bytes = FieldType.encode order .word32 (.ofNat results.length) ++ tail ∧
        item.AcceptsRow (some order) tail results final := by
  rw [counted, accepts_bind_iff]
  constructor
  · intro accepted
    obtain ⟨head, tail, items, middle, rfl, counted, row⟩ := accepted
    obtain ⟨order, count, rfl, rfl, rfl, rfl⟩ := accepts_countOf_iff.mp counted
    obtain ⟨sameLength, row⟩ := accepts_replicate_iff.mp row
    refine ⟨order, tail, rfl, ?_, ?_, row⟩
    · rw [sameLength]
      exact count.toNat_lt
    · rw [sameLength, UInt32.ofNat_toNat]
  · intro parts
    obtain ⟨order, tail, rfl, fits, rfl, row⟩ := parts
    have sameCount : (UInt32.ofNat results.length).toNat = results.length :=
      UInt32.toNat_ofNat_of_lt' fits
    exact ⟨_, tail, results.length, some order, rfl,
      accepts_countOf_iff.mpr ⟨order, _, rfl, rfl, sameCount, rfl⟩,
      accepts_replicate_iff.mpr ⟨rfl, row⟩⟩

/-- Everything that is accepted has at least the given number of bytes. -/
def TakesAtLeast (size : Nat) (decoder : Decoder α) : Prop :=
  ∀ ⦃known final : Option ByteOrder⦄ ⦃bytes : List UInt8⦄ ⦃result : α⦄,
    decoder.Accepts known bytes result final → size ≤ bytes.length

theorem AcceptsRow.length_le {item : Decoder α} {size : Nat} (large : item.TakesAtLeast size)
    {known final : Option ByteOrder} {bytes : List UInt8} {results : List α}
    (row : item.AcceptsRow known bytes results final) : results.length * size ≤ bytes.length := by
  induction row with
  | nil => simp
  | cons accepted _ ih =>
      have first := large accepted
      rw [List.length_cons, List.length_append, Nat.succ_mul]
      omega

/-!
## Honest guards
-/

/-- No guard of a count refuses what is accepted without it. -/
def HonestGuards : Decoder α → Prop
  | .done _ | .fail _ => True
  | .readField _ next => ∀ value, (next value).HonestGuards
  | .readCount itemSize next =>
      ∀ items, (next items).HonestGuards ∧ (next items).TakesAtLeast (items * itemSize)
  | .switchOrder _ next => next.HonestGuards

theorem TakesAtLeast.bind {first : Decoder α} {next : α → Decoder β} {size : Nat}
    (large : first.TakesAtLeast size) : (first >>= next).TakesAtLeast size := by
  intro known final bytes result accepted
  obtain ⟨head, tail, value, middle, rfl, left, _⟩ := accepts_bind_iff.mp accepted
  have headSize := large left
  rw [List.length_append]
  omega

theorem HonestGuards.bind {first : Decoder α} {next : α → Decoder β} (left : first.HonestGuards)
    (right : ∀ value, (next value).HonestGuards) : (first >>= next).HonestGuards := by
  change (first.andThen next).HonestGuards
  induction first with
  | done value => exact right value
  | fail cause => trivial
  | readField type continuation ih => exact fun value => ih value (left value)
  | readCount itemSize continuation ih =>
      intro items
      obtain ⟨honest, large⟩ := left items
      exact ⟨ih items honest, large.bind⟩
  | switchOrder order continuation ih => exact ih left

theorem HonestGuards.map {transform : α → β} {decoder : Decoder α}
    (honest : decoder.HonestGuards) : (transform <$> decoder).HonestGuards := by
  rw [← bind_pure_comp]
  exact honest.bind fun _ => trivial

theorem honestGuards_counted {item : Decoder α} {itemSize : Nat} (honest : item.HonestGuards)
    (large : item.TakesAtLeast itemSize) : (counted itemSize item).HonestGuards := by
  have replicated (items : Nat) : (replicate item items).HonestGuards := by
    induction items with
    | zero => trivial
    | succ items ih =>
        rw [replicate_succ]
        exact honest.bind fun _ => ih.map
  intro items
  refine ⟨replicated items, ?_⟩
  intro known final bytes results accepted
  obtain ⟨rfl, row⟩ := accepts_replicate_iff.mp accepted
  exact row.length_le large

theorem Accepts.run_eq {decoder : Decoder α} {known final : Option ByteOrder} {bytes : List UInt8}
    {result : α} (accepted : decoder.Accepts known bytes result final)
    (honest : decoder.HonestGuards) (behind rest : List UInt8) :
    decoder.run ⟨⟨behind, bytes ++ rest⟩, known⟩ =
      (.ok result, ⟨⟨bytes.reverse ++ behind, rest⟩, final⟩) := by
  induction accepted generalizing behind with
  | done => rfl
  | readField readsIn _ ih =>
      rw [List.append_assoc, run, Reader.read_encode readsIn]
      simpa only [List.reverse_append, List.append_assoc] using ih (honest _) _
  | @readCount itemSize _ _ _ count later _ further ih =>
      have fits : count.toNat * itemSize ≤ (later ++ rest).length := by
        rw [List.length_append]
        exact Nat.le_add_right_of_le ((honest _).2 further)
      rw [List.append_assoc, run, Reader.readCount_encode count fits]
      simpa only [List.reverse_append, List.append_assoc] using ih (honest _).1 _
  | switchOrder _ ih => exact ih honest behind

theorem accepts_of_run_eq_ok {decoder : Decoder α} {reader moved : Reader} {result : α}
    (success : decoder.run reader = (.ok result, moved)) :
    ∃ bytes, Tape.Passes bytes reader.tape moved.tape ∧
      decoder.Accepts reader.order? bytes result moved.order? := by
  induction decoder generalizing reader with
  | done value =>
      cases success
      exact ⟨[], .refl _, .done⟩
  | fail cause => cases success
  | readField type next ih =>
      rw [run] at success
      cases answered : reader.read type with
      | mk answer after =>
          cases answer with
          | error cause => simp [answered] at success
          | ok value =>
              simp only [answered] at success
              obtain ⟨order, readsIn, sameOrder, passed⟩ := Reader.read_eq_ok answered
              obtain ⟨bytes, passedFurther, accepted⟩ := ih value success
              rw [sameOrder] at accepted
              exact ⟨_, passed.trans passedFurther, .readField readsIn accepted⟩
  | readCount itemSize next ih =>
      rw [run] at success
      cases answered : reader.readCount itemSize with
      | mk answer after =>
          cases answer with
          | error cause => simp [answered] at success
          | ok items =>
              simp only [answered] at success
              obtain ⟨order, count, known, rfl, sameOrder, passed⟩ := Reader.readCount_eq_ok answered
              obtain ⟨bytes, passedFurther, accepted⟩ := ih count.toNat success
              rw [sameOrder, known] at accepted
              rw [known]
              exact ⟨_, passed.trans passedFurther, .readCount accepted⟩
  | switchOrder order next ih =>
      obtain ⟨bytes, passed, accepted⟩ := ih success
      exact ⟨bytes, passed, .switchOrder accepted⟩

/-- Runs of an honest decoder succeed exactly on accepted bytes, whatever lies beyond them. -/
theorem run_eq_ok_iff {decoder : Decoder α} (honest : decoder.HonestGuards)
    {reader moved : Reader} {result : α} :
    decoder.run reader = (.ok result, moved) ↔
      ∃ bytes, Tape.Passes bytes reader.tape moved.tape ∧
        decoder.Accepts reader.order? bytes result moved.order? := by
  constructor
  · exact accepts_of_run_eq_ok
  · intro parts
    obtain ⟨bytes, ⟨passedAhead, passedBehind⟩, accepted⟩ := parts
    have ran := accepted.run_eq honest reader.tape.behind moved.tape.ahead
    rw [← passedAhead, ← passedBehind] at ran
    exact ran

end Decoder

end GeoWire
