import GeoWire.Encode.Layout
import GeoWire.Proofs.AcceptedBlobs

/-!
# Type fields

What every code is read as. A code says that there is a Z or an M by flag bits, by thousands or by both,
and only whether it says so counts. The codes that are written use the flag bits alone and differ
wherever their type fields do.
-/

set_option autoImplicit false

namespace GeoWire

theorem Dimension.onWire_eq (hasZ hasM : Bool) :
    Dimension.onWire hasZ hasM =
      if hasM = true ∧ hasZ = false then .error .unsupportedXym else .ok (.ofFlags hasZ hasM) := by
  cases hasZ <;> cases hasM <;> rfl

theorem Kind.onWire_eq_error_iff {tag : Nat} {cause : DecodeError} :
    Kind.onWire tag = .error cause ↔ (tag = 0 ∨ 7 < tag) ∧ cause = .unknownKind tag := by
  rw [← Kind.ofTag?_eq_none_iff, onWire]
  cases Kind.ofTag? tag <;> simp [eq_comm]

namespace TypeField

/-!
## Parts of codes
-/

/-- A code without its flag bits. -/
def base (code : UInt32) : Nat :=
  code.toNat % 0x20000000

def thousands (code : UInt32) : Nat :=
  base code / 1000

def tag (code : UInt32) : Nat :=
  base code % 1000

def saysZ (code : UInt32) : Bool :=
  code.toNat.testBit 31 || thousands code == 1 || thousands code == 3

def saysM (code : UInt32) : Bool :=
  code.toNat.testBit 30 || thousands code == 2 || thousands code == 3

def saysSrid (code : UInt32) : Bool :=
  code.toNat.testBit 29

theorem flagsOfThousands?_eq (number : Nat) :
    flagsOfThousands? number =
      if 3 < number then none
      else some (number == 1 || number == 3, number == 2 || number == 3) := by
  match number with
  | 0 | 1 | 2 | 3 => rfl
  | rest + 4 => simp [flagsOfThousands?]

variable {code : UInt32}

theorem ofCode_of_large (large : 3 < thousands code) :
    ofCode code = .error (.unknownKind (base code)) := by
  have flags : flagsOfThousands? (code.toNat % 0x20000000 / 1000) = none :=
    (flagsOfThousands?_eq _).trans (if_pos large)
  simp only [ofCode, flags]
  rfl

theorem ofCode_of_small (small : thousands code ≤ 3) :
    ofCode code = (do
      let dimension ← Dimension.onWire (saysZ code) (saysM code)
      let kind ← Kind.onWire (tag code)
      .ok ⟨kind, dimension, saysSrid code⟩) := by
  have flags : flagsOfThousands? (code.toNat % 0x20000000 / 1000) =
      some (thousands code == 1 || thousands code == 3, thousands code == 2 || thousands code == 3) :=
    (flagsOfThousands?_eq _).trans (if_neg (Nat.not_lt_of_le small))
  simp only [ofCode, flags, ← Bool.or_assoc]
  rfl

/-- Codes that say the same are read as the same, however they say it. -/
theorem ofCode_congr {left right : UInt32} (smallLeft : thousands left ≤ 3)
    (smallRight : thousands right ≤ 3) (sameTag : tag left = tag right)
    (sameZ : saysZ left = saysZ right) (sameM : saysM left = saysM right)
    (sameSrid : saysSrid left = saysSrid right) : ofCode left = ofCode right := by
  rw [ofCode_of_small smallLeft, ofCode_of_small smallRight, sameTag, sameZ, sameM, sameSrid]

theorem ofCode_of_unwritable (small : thousands code ≤ 3)
    (unwritable : saysM code = true ∧ saysZ code = false) :
    ofCode code = .error .unsupportedXym := by
  rw [ofCode_of_small small, Dimension.onWire_eq, if_pos unwritable]
  rfl

theorem ofCode_of_writable (small : thousands code ≤ 3)
    (writable : ¬ (saysM code = true ∧ saysZ code = false)) :
    ofCode code =
      (⟨·, .ofFlags (saysZ code) (saysM code), saysSrid code⟩) <$> Kind.onWire (tag code) := by
  rw [ofCode_of_small small, Dimension.onWire_eq, if_neg writable]
  cases Kind.onWire (tag code) <;> rfl

theorem ofCode_eq_unsupportedXym_iff (small : thousands code ≤ 3) :
    ofCode code = .error .unsupportedXym ↔ saysM code = true ∧ saysZ code = false := by
  by_cases unwritable : saysM code = true ∧ saysZ code = false
  · exact iff_of_true (ofCode_of_unwritable small unwritable) unwritable
  · refine iff_of_false ?_ unwritable
    intro refused
    rw [ofCode_of_writable small unwritable] at refused
    cases named : Kind.onWire (tag code) with
    | error cause =>
        rw [named] at refused
        cases refused
        cases (Kind.onWire_eq_error_iff.mp named).2
    | ok kind =>
        rw [named] at refused
        cases refused

theorem ofCode_eq_unknownKind_iff (small : thousands code ≤ 3)
    (writable : ¬ (saysM code = true ∧ saysZ code = false)) {number : Nat} :
    ofCode code = .error (.unknownKind number) ↔
      (tag code = 0 ∨ 7 < tag code) ∧ number = tag code := by
  have kindRefused : Kind.onWire (tag code) = .error (.unknownKind number) ↔
      (tag code = 0 ∨ 7 < tag code) ∧ number = tag code := by
    rw [Kind.onWire_eq_error_iff, DecodeError.unknownKind.injEq]
  rw [ofCode_of_writable small writable, ← kindRefused]
  cases Kind.onWire (tag code) <;> simp

/-- Only a code with too many thousands is an unknown kind of a thousand and more. A smaller number is
base and tag at once. -/
theorem large_iff :
    3 < thousands code ↔ ofCode code = .error (.unknownKind (base code)) ∧ 1000 ≤ base code := by
  constructor
  · intro large
    refine ⟨ofCode_of_large large, ?_⟩
    unfold thousands at large
    omega
  · intro refused
    obtain ⟨refused, many⟩ := refused
    rcases Nat.lt_or_ge 3 (thousands code) with large | small
    · exact large
    · by_cases unwritable : saysM code = true ∧ saysZ code = false
      · rw [ofCode_of_unwritable small unwritable] at refused
        cases refused
      · obtain ⟨_, sameNumber⟩ := (ofCode_eq_unknownKind_iff small unwritable).mp refused
        unfold tag at sameNumber
        omega

/-!
## Written codes
-/

private theorem eq_of_toNat_eq {left right : Bool} (same : left.toNat = right.toNat) :
    left = right := by
  cases left <;> cases right <;> first | rfl | cases same

theorem toNat_code (field : TypeField) :
    field.code.toNat = field.kind.tag + 0x80000000 * field.dimension.hasZ.toNat +
      0x40000000 * field.dimension.hasM.toNat + 0x20000000 * field.hasSrid.toNat := by
  have tagBound := field.kind.tag_lt
  have boundZ := field.dimension.hasZ.toNat_le
  have boundM := field.dimension.hasM.toNat_le
  have boundSrid := field.hasSrid.toNat_le
  rw [TypeField.code, UInt32.toNat_ofNat']
  omega

/-- Tag and flags take up different bits of a code. -/
theorem code_inj {left right : TypeField} (same : left.code = right.code) : left = right := by
  have sums := congrArg UInt32.toNat same
  simp only [toNat_code] at sums
  have leftTag := left.kind.tag_lt
  have rightTag := right.kind.tag_lt
  have bit (flag : Bool) := flag.toNat_le
  have leftZ := bit left.dimension.hasZ
  have leftM := bit left.dimension.hasM
  have leftSrid := bit left.hasSrid
  have rightZ := bit right.dimension.hasZ
  have rightM := bit right.dimension.hasM
  have rightSrid := bit right.hasSrid
  have sameTag : left.kind.tag = right.kind.tag := by omega
  have sameZ : left.dimension.hasZ = right.dimension.hasZ := eq_of_toNat_eq (by omega)
  have sameM : left.dimension.hasM = right.dimension.hasM := eq_of_toNat_eq (by omega)
  have sameSrid : left.hasSrid = right.hasSrid := eq_of_toNat_eq (by omega)
  have sameKind : left.kind = right.kind := by
    have named := left.kind.ofTag?_tag
    rw [sameTag, Kind.ofTag?_tag] at named
    exact (Option.some.inj named).symm
  have sameDimension : left.dimension = right.dimension := by
    rw [← left.dimension.ofFlags_hasZ_hasM, sameZ, sameM, Dimension.ofFlags_hasZ_hasM]
  obtain ⟨_, _, _⟩ := left
  obtain ⟨_, _, _⟩ := right
  cases sameKind
  cases sameDimension
  cases sameSrid
  rfl

end TypeField

namespace Decoder

variable {α : Type}

theorem RunsAlike.fst_eq {left right : Except DecodeError α × Reader}
    (alike : RunsAlike left right) : left.1 = right.1 := by
  cases alike <;> rfl

/-- A decoder that reads a type field goes on in the same way after codes that are read as the same. -/
theorem run_typeField_congr {left right : UInt32} (same : TypeField.ofCode left = TypeField.ofCode right)
    (next : TypeField → Decoder α) (order : ByteOrder) (behind rest : List UInt8) :
    RunsAlike
      ((typeField >>= next).run ⟨⟨behind, FieldType.encode order .word32 left ++ rest⟩, some order⟩)
      ((typeField >>= next).run ⟨⟨behind, FieldType.encode order .word32 right ++ rest⟩, some order⟩) := by
  refine RunsAlike.bind ?_ next
  have readsIn : FieldType.ReadsIn .word32 (some order) order := .inr rfl
  have afterCode (code : UInt32) : typeField.run
      ⟨⟨behind, FieldType.encode order .word32 code ++ rest⟩, some order⟩ =
        (ofExcept (TypeField.ofCode code)).run
          ⟨⟨(FieldType.encode order .word32 code).reverse ++ behind, rest⟩, some order⟩ := by
    change (Decoder.readField _ _).run _ = _
    rw [run, Reader.read_encode readsIn code]
    rfl
  rw [afterCode, afterCode, same]
  refine run_alike _ ⟨rfl, ?_, rfl⟩
  simp [Reader.position, Tape.position]

end Decoder

namespace TypeField

/-- Every code is read by one rule. Too many thousands make the whole of it an unknown kind, which is
the only unknown kind of a thousand and more; then M without Z is refused, and then any kind but those
from 1 to 7. All other codes have a kind, a dimension and an SRID or none. What is written in a standard
header for a kind, a dimension and an SRID is read back, and codes that say the same are read alike by
every decoder. -/
theorem ofCode_exact :
    (∀ code,
      (3 < thousands code ↔ ofCode code = .error (.unknownKind (base code)) ∧ 1000 ≤ base code) ∧
      (thousands code ≤ 3 →
        (ofCode code = .error .unsupportedXym ↔ saysM code = true ∧ saysZ code = false)) ∧
      (thousands code ≤ 3 → (saysM code = true → saysZ code = true) →
        (ofCode code = .error (.unknownKind (tag code)) ↔ tag code = 0 ∨ 7 < tag code) ∧
        (1 ≤ tag code → tag code ≤ 7 → ∃ field, ofCode code = .ok field ∧
          field.kind.tag = tag code ∧ field.dimension.hasZ = saysZ code ∧
          field.dimension.hasM = saysM code ∧ field.hasSrid = saysSrid code))) ∧
    (∀ (layout : Layout) (order : ByteOrder) (kind : Kind),
      layout.format.dialect.isNative = false →
      let field : TypeField := ⟨kind, layout.dimension, layout.headerSrid?.isSome⟩
      layout.header order kind =
          [⟨.byte, order.marker⟩, ⟨.word32, field.code⟩] ++ layout.sridFields ∧
        (layout.dimension ≠ .xym → ofCode field.code = .ok field)) ∧
    (∀ left right : TypeField, left.code = right.code → left = right) ∧
    ∀ left right, thousands left ≤ 3 → thousands right ≤ 3 → tag left = tag right →
      saysZ left = saysZ right → saysM left = saysM right → saysSrid left = saysSrid right →
      ofCode left = ofCode right ∧
        ∀ {α : Type} (next : TypeField → Decoder α) (order : ByteOrder) (behind rest : List UInt8),
          let answer (code : UInt32) := ((Decoder.typeField >>= next).run
            ⟨⟨behind, FieldType.encode order .word32 code ++ rest⟩, some order⟩).1
          answer left = answer right := by
  refine ⟨?_, ?_, fun _ _ => code_inj, ?_⟩
  · intro code
    refine ⟨large_iff, ofCode_eq_unsupportedXym_iff, ?_⟩
    intro small spatial
    have writable : ¬ (saysM code = true ∧ saysZ code = false) := by
      intro unwritable
      rw [spatial unwritable.1] at unwritable
      cases unwritable.2
    constructor
    · rw [ofCode_eq_unknownKind_iff small writable]
      exact and_iff_left rfl
    · intro positive bounded
      cases named : Kind.onWire (tag code) with
      | error cause =>
          have unnamed := (Kind.onWire_eq_error_iff.mp named).1
          omega
      | ok kind =>
          refine ⟨⟨kind, .ofFlags (saysZ code) (saysM code), saysSrid code⟩, ?_,
            (Kind.onWire_eq_ok_iff.mp named).symm, Dimension.hasZ_ofFlags _ _,
            Dimension.hasM_ofFlags _ _, rfl⟩
          rw [ofCode_of_writable small writable, named]
          rfl
  · intro layout order kind standard field
    refine ⟨?_, fun writable => ofCode_code writable⟩
    rw [Layout.header, standard]
    rfl
  · intro left right smallLeft smallRight sameTag sameZ sameM sameSrid
    have same := ofCode_congr smallLeft smallRight sameTag sameZ sameM sameSrid
    refine ⟨same, ?_⟩
    intro α next order behind rest answer
    exact (Decoder.run_typeField_congr same next order behind rest).fst_eq

/-- A polygon with Z and an SRID spelled in three ways, a polygon with Z by thousands and M by a flag bit,
a code for each refusal, and the code of a root header. -/
theorem ofCode_exact_spellings :
    let byFlags : UInt32 := 0xa0000003
    let byThousands : UInt32 := 0x20000000 + 1003
    let byBoth : UInt32 := 0xa0000000 + 1003
    let layout : Layout := ⟨.ewkb, .xyz, some 4326, 0, 0⟩
    ofCode byFlags = ofCode byThousands ∧ ofCode byBoth = ofCode byThousands ∧
      ofCode (0x40000000 + 1003) = ofCode 3003 ∧
      (∃ field, ofCode byFlags = .ok field ∧ field.kind.tag = 3 ∧ field.dimension.hasZ = true ∧
        field.dimension.hasM = false ∧ field.hasSrid = true) ∧
      ofCode 4001 = .error (.unknownKind 4001) ∧ ofCode 2009 = .error .unsupportedXym ∧
      ofCode 1009 = .error (.unknownKind 9) ∧
      layout.header .little .polygon =
        [⟨.byte, (1 : UInt8)⟩, ⟨.word32, byFlags⟩, ⟨.int32, (4326 : Int32)⟩] := by
  intro byFlags byThousands byBoth layout
  obtain ⟨decided, written, _, alike⟩ := ofCode_exact
  obtain ⟨_, _, named⟩ := decided byFlags
  obtain ⟨large, _⟩ := decided 4001
  obtain ⟨_, unwritable, _⟩ := decided 2009
  obtain ⟨_, _, unknown⟩ := decided 1009
  obtain ⟨header, _⟩ := written layout .little .polygon rfl
  have emitted : TypeField.code ⟨.polygon, .xyz, true⟩ = byFlags := by decide
  have fields : layout.header .little .polygon =
      [⟨.byte, 1⟩, ⟨.word32, TypeField.code ⟨.polygon, .xyz, true⟩⟩, ⟨.int32, 4326⟩] := header
  rw [emitted] at fields
  obtain ⟨field, read, kind, hasZ, hasM, hasSrid⟩ :=
    (named (by decide) (by decide)).2 (by decide) (by decide)
  have said : tag byFlags = 3 ∧ saysZ byFlags = true ∧ saysM byFlags = false ∧
      saysSrid byFlags = true := by decide
  have numbers : base 4001 = 4001 ∧ tag 1009 = 9 := by decide
  have tooLarge := (large.mp (by decide)).1
  have unnamed := (unknown (by decide) (by decide)).1.mpr (by decide)
  rw [numbers.1] at tooLarge
  rw [numbers.2] at unnamed
  have withThousands := (alike byFlags byThousands (by decide) (by decide) (by decide) (by decide)
    (by decide) (by decide)).1
  have withBoth := (alike byBoth byThousands (by decide) (by decide) (by decide) (by decide)
    (by decide) (by decide)).1
  have withEither := (alike (0x40000000 + 1003) 3003 (by decide) (by decide) (by decide) (by decide)
    (by decide) (by decide)).1
  exact ⟨withThousands, withBoth, withEither,
    ⟨field, read, kind.trans said.1, hasZ.trans said.2.1, hasM.trans said.2.2.1,
      hasSrid.trans said.2.2.2⟩,
    tooLarge, (unwritable (by decide)).mpr (by decide), unnamed, fields⟩

end TypeField

end GeoWire
