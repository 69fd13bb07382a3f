import GeoWire.Codec

/-!
Codecs and formats as plain data. A choice is given by its name; a structure by a record, where
entries of other names are ignored, or by the list of its parts in order. Parts of a codec that are
not given take their defaults, while a format has to be given whole.
-/

set_option autoImplicit false

namespace GeoWire

/-- Plain data that codecs and formats are read from. -/
inductive Setting where
  | nothing
  | truth (value : Bool)
  | integer (value : Int)
  /-- A number that is not written as an integer. -/
  | real
  | text (value : String)
  | list (items : List Setting)
  | record (entries : List (String × Setting))
deriving Inhabited, Repr

namespace Setting

/-- The choice that is named, by a text or by a record of the name alone. -/
def choice? {α : Type} (ofName? : String → Option α) : Setting → Option α
  | .text name => ofName? name
  | .record [(name, .nothing)] => ofName? name
  | _ => none

/-- The natural number that is given, if it is below a bound. -/
def naturalBelow? (bound : Nat) : Setting → Option Nat
  | .integer (.ofNat value) => if value < bound then some value else none
  | _ => none

/-- The value of a part, or another value if it is not given. -/
def partOr? {α : Type} (otherwise : α) (read? : Setting → Option α) : Option Setting → Option α
  | some part => read? part
  | none => some otherwise

end Setting

namespace Codec

def ofParts? (order? limit? : Option Setting) : Option Codec := do
  let order ← Setting.partOr? default.order (Setting.choice? ByteOrder.ofName?) order?
  let limit ← Setting.partOr? default.limit (Setting.naturalBelow? (UInt64.size)) limit?
  pure ⟨order, limit⟩

def ofSetting? : Setting → Option Codec
  | .record entries => ofParts? (entries.lookup "byte_order") (entries.lookup "max_depth")
  | .list [] => some default
  | .list [order] => ofParts? (some order) none
  | .list [order, limit] => ofParts? (some order) (some limit)
  | _ => none

def toSetting (codec : Codec) : Setting :=
  .record [("byte_order", .text codec.order.name), ("max_depth", .integer codec.limit)]

theorem ofSetting?_toSetting {codec : Codec} (bounded : codec.limit < UInt64.size) :
    ofSetting? codec.toSetting = some codec := by
  rcases codec with ⟨order, limit⟩
  have readLimit : Setting.naturalBelow? (UInt64.size) (.integer limit) = some limit :=
    if_pos bounded
  have readOrder : Setting.choice? ByteOrder.ofName? (.text order.name) = some order := by
    cases order <;> rfl
  show ((Setting.choice? ByteOrder.ofName? (.text order.name)).bind fun order =>
    (Setting.naturalBelow? (UInt64.size) (.integer limit)).bind fun limit =>
      some (Codec.mk order limit)) = _
  rw [readOrder, readLimit]
  rfl

end Codec

namespace Format

def ofParts? (dialect version : Setting) : Option Format := do
  let dialect ← dialect.choice? Dialect.ofName?
  let version ← version.naturalBelow? 256
  pure ⟨dialect, .ofNat version⟩

def ofSetting? : Setting → Option Format
  | .record entries => do
      ofParts? (← entries.lookup "format_type") (← entries.lookup "version")
  | .list [dialect, version] => ofParts? dialect version
  | _ => none

def toSetting (format : Format) : Setting :=
  .record [("format_type", .text format.dialect.name),
    ("version", .integer format.version.toNat)]

theorem ofSetting?_toSetting (format : Format) : ofSetting? format.toSetting = some format := by
  rcases format with ⟨dialect, version⟩
  have readVersion : Setting.naturalBelow? 256 (.integer version.toNat) = some version.toNat :=
    if_pos version.toNat_lt
  have readDialect : Setting.choice? Dialect.ofName? (.text dialect.name) = some dialect := by
    cases dialect <;> rfl
  show ((Setting.choice? Dialect.ofName? (.text dialect.name)).bind fun dialect =>
    (Setting.naturalBelow? 256 (.integer version.toNat)).bind fun version =>
      some (Format.mk dialect (.ofNat version))) = _
  rw [readDialect, readVersion]
  simp

end Format

end GeoWire
