/-!
Byte orders, the marker bytes that announce them, and how they arrange the digits of a number.
-/

set_option autoImplicit false

namespace GeoWire

inductive ByteOrder where
  | big
  | little
deriving DecidableEq, Repr

namespace ByteOrder

def marker : ByteOrder → UInt8
  | .big => 0
  | .little => 1

def ofMarker? (byte : UInt8) : Option ByteOrder :=
  if byte = 0 then some .big else if byte = 1 then some .little else none

def name : ByteOrder → String
  | .big => "BigEndian"
  | .little => "LittleEndian"

def ofName? : String → Option ByteOrder
  | "BigEndian" => some .big
  | "LittleEndian" => some .little
  | _ => none

/-- Turn digits with the least significant first into bytes of this order, or back. -/
def arrange (order : ByteOrder) (bytes : List UInt8) : List UInt8 :=
  match order with
  | .big => bytes.reverse
  | .little => bytes

@[simp] theorem length_arrange (order : ByteOrder) (bytes : List UInt8) :
    (order.arrange bytes).length = bytes.length := by
  cases order <;> simp [arrange]

@[simp] theorem arrange_arrange (order : ByteOrder) (bytes : List UInt8) :
    order.arrange (order.arrange bytes) = bytes := by
  cases order <;> simp [arrange]

@[simp] theorem ofMarker?_marker (order : ByteOrder) : ofMarker? order.marker = some order := by
  cases order <;> rfl

theorem ofMarker?_eq_some_iff {byte : UInt8} {order : ByteOrder} :
    ofMarker? byte = some order ↔ byte = order.marker := by
  constructor
  · intro found
    unfold ofMarker? at found
    split at found
    · cases found
      assumption
    · split at found
      · cases found
        assumption
      · cases found
  · intro same
    subst same
    exact ofMarker?_marker order

end ByteOrder

end GeoWire
