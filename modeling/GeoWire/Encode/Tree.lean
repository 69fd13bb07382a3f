import GeoWire.Encode.Layout
import GeoWire.Geometry.Traversal

/-!
Encoding of whole trees, once as a number of bytes and once as the fields themselves. Empty members
are left out of both and are not counted.
-/

set_option autoImplicit false

namespace GeoWire

namespace Layout

/-- The fields of a point. One without a coordinate is written with X and Y missing. -/
def point (layout : Layout) (order : ByteOrder) (pt : Point) : Emission :=
  .ofFields (layout.header order .point ++
    layout.coordinate (pt.coord?.getD (.xy .missing .missing)))

def pointSize (layout : Layout) : Nat :=
  layout.headerSize + layout.coordSize

def lineString (layout : Layout) (order : ByteOrder) (line : LineString) : Emission :=
  .ofFields (layout.header order .lineString) ++ layout.coordinates line

def lineStringSize (layout : Layout) (line : LineString) : Except EncodeError Nat := do
  let coords ← layout.coordinatesSize line
  pure (layout.headerSize + coords)

/-- The fields of a polygon, whose rings have no headers. -/
def polygon (layout : Layout) (order : ByteOrder) (poly : Polygon) : Emission :=
  .ofFields (layout.header order .polygon) ++ count poly.rings.length ++
    .concat (poly.rings.map fun ring => layout.coordinates ring.coords)

def polygonSize (layout : Layout) (poly : Polygon) : Except EncodeError Nat := do
  let count ← countSize poly.rings.length
  let rings ← poly.rings.mapM fun ring => layout.coordinatesSize ring.coords
  pure (layout.headerSize + count + total rings)

def elements {α : Type} (layout : Layout) (order : ByteOrder) (kind : Kind)
    (element : Layout → ByteOrder → α → Emission) (items : List α) : Emission :=
  match layout.member with
  | .error cause => .stopped cause
  | .ok member =>
      .ofFields (layout.header order kind) ++ count items.length ++
        .concat (items.map (element member order))

def elementsSize {α : Type} (layout : Layout) (elementSize : Layout → α → Except EncodeError Nat)
    (items : List α) : Except EncodeError Nat := do
  let member ← layout.member
  let sizes ← items.mapM (elementSize member)
  let count ← countSize items.length
  pure (layout.headerSize + count + total sizes)

/-- The number of bytes of a multi-point, whose members are all of one size. -/
def multiPointSize (layout : Layout) (points : List Point) : Except EncodeError Nat := do
  let member ← layout.member
  let count ← countSize points.length
  pure (layout.headerSize + count + points.length * member.pointSize)

end Layout

namespace Geometry

mutual

/-- The fields of a geometry. -/
def emission (layout : Layout) (order : ByteOrder) : Geometry → Emission
  | .point pt => layout.point order pt
  | .lineString line => layout.lineString order line
  | .linearRing ring => layout.lineString order ring.coords
  | .polygon poly => layout.polygon order poly
  | .multiPoint points =>
      layout.elements order .multiPoint Layout.point (points.filter fun pt => !pt.isEmpty)
  | .multiLineString lines =>
      layout.elements order .multiLineString Layout.lineString
        (lines.filter fun line => !line.isEmpty)
  | .multiPolygon polygons =>
      layout.elements order .multiPolygon Layout.polygon
        (polygons.filter fun poly => !poly.isEmpty)
  | .collection members =>
      match layout.member with
      | .error cause => .stopped cause
      | .ok member =>
          .ofFields (layout.header order .collection) ++
            Layout.count (members.filter fun inner => !inner.isEmpty).length ++
            emissionOf member order members

def emissionOf (layout : Layout) (order : ByteOrder) : List Geometry → Emission
  | [] => .finished
  | member :: rest =>
      if member.isEmpty then emissionOf layout order rest
      else member.emission layout order ++ emissionOf layout order rest

end

mutual

/-- The number of bytes of a geometry. -/
def encodedSize (layout : Layout) : Geometry → Except EncodeError Nat
  | .point _ => .ok layout.pointSize
  | .lineString line => layout.lineStringSize line
  | .linearRing ring => layout.lineStringSize ring.coords
  | .polygon poly => layout.polygonSize poly
  | .multiPoint points => layout.multiPointSize (points.filter fun pt => !pt.isEmpty)
  | .multiLineString lines =>
      layout.elementsSize Layout.lineStringSize (lines.filter fun line => !line.isEmpty)
  | .multiPolygon polygons =>
      layout.elementsSize Layout.polygonSize (polygons.filter fun poly => !poly.isEmpty)
  | .collection members => do
      let member ← layout.member
      let sizes ← encodedSizeOf member members
      let count ← Layout.countSize (members.filter fun inner => !inner.isEmpty).length
      pure (layout.headerSize + count + sizes)

def encodedSizeOf (layout : Layout) : List Geometry → Except EncodeError Nat
  | [] => .ok 0
  | member :: rest =>
      if member.isEmpty then encodedSizeOf layout rest
      else do
        let first ← member.encodedSize layout
        let others ← encodedSizeOf layout rest
        pure (first + others)

end

end Geometry

end GeoWire
