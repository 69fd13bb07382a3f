/-!
Numbers as base-256 digits, the least significant first. `value_digits` and `digits_value` say that
the two directions undo each other up to the width.
-/

set_option autoImplicit false

namespace GeoWire.Bytes

/-- The given number of base-256 digits of a number, the least significant first. -/
def digits : (width value : Nat) → List UInt8
  | 0, _ => []
  | width + 1, value => UInt8.ofNat value :: digits width (value / 256)

/-- The number that digits stand for, the least significant first. -/
def value : List UInt8 → Nat
  | [] => 0
  | digit :: rest => digit.toNat + 256 * value rest

/-- The number of values that the given number of digits can stand for. -/
def valueCount : (width : Nat) → Nat
  | 0 => 1
  | width + 1 => 256 * valueCount width

theorem valueCount_pos (width : Nat) : 0 < valueCount width := by
  induction width with
  | zero => decide
  | succ width ih =>
      rw [valueCount]
      omega

@[simp] theorem length_digits (width number : Nat) : (digits width number).length = width := by
  induction width generalizing number with
  | zero => rfl
  | succ width ih => simp [digits, ih]

/-- Digits beyond the width are lost and no others. -/
theorem value_digits (width number : Nat) : value (digits width number) = number % valueCount width := by
  induction width generalizing number with
  | zero => exact (Nat.mod_one number).symm
  | succ width ih => rw [digits, value, ih, UInt8.toNat_ofNat', valueCount, Nat.mod_mul]

theorem value_lt (bytes : List UInt8) : value bytes < valueCount bytes.length := by
  induction bytes with
  | nil => decide
  | cons digit rest ih =>
      have digitBound := digit.toNat_lt
      simp only [value, List.length_cons, valueCount]
      omega

/-- No two lists of digits of one length stand for the same number. -/
theorem digits_value (bytes : List UInt8) : digits bytes.length (value bytes) = bytes := by
  induction bytes with
  | nil => rfl
  | cons digit rest ih =>
      have digitBound := digit.toNat_lt
      have quotient : (digit.toNat + 256 * value rest) / 256 = value rest := by omega
      have lowest : UInt8.ofNat (digit.toNat + 256 * value rest) = digit := by
        apply UInt8.toNat.inj
        rw [UInt8.toNat_ofNat']
        omega
      simp only [List.length_cons, digits, value, quotient, lowest, ih]

end GeoWire.Bytes
