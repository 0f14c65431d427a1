import SharedMembers.Store.History
import SharedMembers.Store.Pick

/-!
# Shapes

A sample store of squares and circles. The members that they share are methods of the store; a
method takes what each of them accepts, and gives what each result widens to. The corners, a number
and a truth value, have no such type, so they make up a store of their own.
-/

namespace SharedMembers.Sample

/-- A square by its left upper corner and the length of its sides. -/
structure Square where
  top : Int32
  left : Int32
  size : Float

namespace Square

/-- The area. -/
def area (s : Square) : Float := s.size * s.size

/-- The square with longer sides. -/
def grow (s : Square) (by_ : Int16) : Square := { s with size := s.size + by_.toFloat }

end Square

/-- A circle by the left upper corner of the square around it, and its radius. -/
structure Circle where
  top : Int32
  left : Int16
  radius : Float

namespace Circle

/-- The number next to π. -/
def pi : Float := Float.ofBits 0x400921FB54442D18

/-- A circle at the origin. -/
def new (radius : Float) : Circle := ⟨0, 0, radius⟩

/-- Moves the circle; whole thousands are dropped. -/
def setTop (c : Circle) (top : Int64) : Circle := { c with top := (top % 1000).toInt32 }

/-- The area. -/
def area (c : Circle) : Float := pi * c.radius * c.radius

/-- The circle with a longer radius. -/
def grow (c : Circle) (by_ : Int32) : Circle :=
  { c with radius := c.radius + 2.0 * by_.toFloat }

end Circle

/-! ## The store -/

/-- The kinds of shapes. -/
inductive ShapeKind where
  | square
  | circle
deriving DecidableEq

/-- Squares and circles. -/
abbrev shapes : Family ShapeKind where
  kinds := [.square, .circle]
  mem_kinds k := by cases k <;> simp
  title
    | .square => "Square"
    | .circle => "Circle"
  Value
    | .square => Square
    | .circle => Circle

/-- A square or a circle. -/
abbrev Shape := Store shapes

/-- The kinds of corners. -/
inductive CornerKind where
  | number
  | truth
deriving DecidableEq

/-- Corners of squares and of circles. -/
abbrev corners : Family CornerKind where
  kinds := [.number, .truth]
  mem_kinds k := by cases k <;> simp
  title
    | .number => "i32"
    | .truth => "bool"
  Value
    | .number => Int32
    | .truth => Bool

namespace Shape

/-- The shape that holds a square. -/
def ofSquare (s : Square) : Shape := ⟨.square, s⟩

/-- The shape that holds a circle. -/
def ofCircle (c : Circle) : Shape := ⟨.circle, c⟩

/-- The upper edge. -/
def top : Shape → Int32
  | ⟨.square, s⟩ => s.top
  | ⟨.circle, c⟩ => c.top

/-- The left edge. -/
def left : Shape → Int32
  | ⟨.square, s⟩ => s.left
  | ⟨.circle, c⟩ => c.left.toInt32

/-- The area. -/
def area : Shape → Float
  | ⟨.square, s⟩ => s.area
  | ⟨.circle, c⟩ => c.area

/-- Moves the upper edge. -/
def setTop (n : Int32) : Shape → Shape
  | ⟨.square, s⟩ => ofSquare { s with top := n }
  | ⟨.circle, c⟩ => ofCircle (c.setTop n.toInt64)

/-- Moves the left edge. -/
def setLeft (n : Int16) : Shape → Shape
  | ⟨.square, s⟩ => ofSquare { s with left := n.toInt32 }
  | ⟨.circle, c⟩ => ofCircle { c with left := n }

/-- The shape made larger. -/
def grow (n : Int16) : Shape → Shape
  | ⟨.square, s⟩ => ofSquare (s.grow n)
  | ⟨.circle, c⟩ => ofCircle (c.grow n.toInt32)

/-- The corner: where a square has it, and whether a circle has one to the right of the origin. -/
def corner : Shape → Store corners
  | ⟨.square, s⟩ => ⟨.number, s.top⟩
  | ⟨.circle, c⟩ => ⟨.truth, decide (0 < c.left)⟩

/-- The length that says how large a shape of the kind is. -/
def extent : (k : ShapeKind) → shapes.Value k → Float
  | .square, s => s.size
  | .circle, c => c.radius

/-- The shape of the kind with that length changed. -/
def resize (f : Float → Float) : (k : ShapeKind) → shapes.Value k → shapes.Value k
  | .square, s => { s with size := f s.size }
  | .circle, c => { c with radius := f c.radius }

/-- The left edge of a shape of the kind. -/
def leftOf : (k : ShapeKind) → shapes.Value k → Int
  | .square, s => s.left.toInt
  | .circle, c => c.left.toInt

/-- Makes the shape larger by a factor, and gives the upper edge of a square and -1 for a circle. -/
def scaler (factor : Float) : (k : ShapeKind) → shapes.Value k → Int × shapes.Value k
  | .square, s => (s.top.toInt, { s with size := s.size * factor })
  | .circle, c => (-1, { c with radius := c.radius * factor })

/-- A square of size 1 with its upper edge at `t`, which is noted. -/
def noted (t : Int32) : StateM (List Int32) Square := do
  modify (· ++ [t])
  return ⟨t, 0, 1.0⟩

/-- Shapes to pick from. -/
def choices : List (Store.Choice (StateM (List Int32)) Shape) :=
  [.ofKind .square (noted 10), .ofKind .circle (pure (Circle.new 2.0)), .ofKind .square (noted 20),
    .ofKind .square (noted 30)]

/-- The shape that a run starts with. -/
def start : Shape := ofSquare ⟨0, 0, 0.0⟩

/-! ## Steps -/

/-- What can be done with a shape. -/
inductive Step where
  | square (top left : Int32) (size : Float)
  | circle (radius : Float)
  | pick (index : Nat)
  | top
  | left
  | area
  | setTop (n : Int32)
  | setLeft (n : Int16)
  | grow (n : Int16)
  | corner
  | tag
  | title
  | titles
  | is (k : ShapeKind)
  | leftIf (k : ShapeKind)
  | resizeIf (k : ShapeKind) (extent : Float)
  | extract (k : ShapeKind)
  | scale (factor : Float)

/-- What a step gives. -/
inductive Outcome where
  | nothing
  | integer (n : Int)
  | optional (n : Option Int)
  | decimal (x : Float)
  | truth (b : Bool)
  | text (s : String)
  | texts (l : List String)
  | picked (found : Bool) (noted : List Int32)
  | corner (c : Store corners)
  | tags (active square circle : Nat)
  | extracted (r : Except Shape Float)

/-- Does a step. -/
def step (s : Shape) : Step → Outcome × Shape
  | .square top left size => (.nothing, s.assign .square ⟨top, left, size⟩)
  | .circle radius => (.nothing, s.assign .circle (Circle.new radius))
  | .pick index =>
    let (picked, noted) := (Store.pick (pure index) choices).run []
    (.picked picked.isSome noted, picked.getD s)
  | .top => (.integer (top s).toInt, s)
  | .left => (.integer (left s).toInt, s)
  | .area => (.decimal (area s), s)
  | .setTop n => (.nothing, setTop n s)
  | .setLeft n => (.nothing, setLeft n s)
  | .grow n => (.nothing, grow n s)
  | .corner => (.corner (corner s), s)
  | .tag => (.tags s.tag (shapes.tagOf .square) (shapes.tagOf .circle), s)
  | .title => (.text s.title, s)
  | .titles => (.texts shapes.titles, s)
  | .is k => (.truth (s.is k), s)
  | .leftIf k => (.optional ((s.project? k).map (leftOf k)), s)
  | .resizeIf k extent =>
    let changed := s.modify? k (resize (fun _ => extent) k)
    (.truth changed.isSome, changed.getD s)
  | .extract k => (.extracted ((s.extract k).map (extent k)), s)
  | .scale factor =>
    let (n, t) := s.visitMut (scaler factor)
    (.integer n, t)

end Shape

end SharedMembers.Sample
