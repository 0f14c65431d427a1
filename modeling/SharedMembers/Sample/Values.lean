import SharedMembers.Store.History
import SharedMembers.Store.Pick

/-!
# Values

A sample store of numbers, bytes, truth values and texts. Its kinds have no member in common, so
all that is done with it is done by visitors.
-/

namespace SharedMembers.Sample

/-- The kinds of values. -/
inductive ValueKind where
  | number
  | bytes
  | truth
  | text
deriving DecidableEq

/-- Numbers, bytes, truth values and texts. -/
abbrev values : Family ValueKind where
  kinds := [.number, .bytes, .truth, .text]
  mem_kinds k := by cases k <;> simp
  title
    | .number => "Int"
    | .bytes => "Vec<u8>"
    | .truth => "Flag"
    | .text => "std::string::String"
  Value
    | .number => Int64
    | .bytes => List UInt8
    | .truth => Bool
    | .text => String

/-- A number, bytes, a truth value or a text. -/
abbrev Value := Store values

namespace Value

/-- Puts a small number behind a value: as a digit behind a number, as one more byte, as a character
behind a text. Gives how long the value is then, which is 1 for a number and 0 for a truth value;
the length of a text is that of its bytes. -/
def pusher (n : UInt8) : (k : ValueKind) → values.Value k → Nat × values.Value k
  | .number, v => (1, v * 10 + n.toUInt64.toInt64)
  | .bytes, l => (l.length + 1, l ++ [n])
  | .truth, _ => (0, n != 0)
  | .text, s =>
    let t := s.push (Char.ofUInt8 n)
    (t.utf8ByteSize, t)

/-- Values to pick from. -/
def choices : List (Store.Choice Id Value) :=
  [.ofKind .number (1 : Int64), .ofKind .bytes ([2, 3] : List UInt8), .ofKind .truth true,
    .ofKind .text "four"]

/-- The value that a run starts with. -/
def start : Value := ⟨.number, (0 : Int64)⟩

/-! ## Steps -/

/-- What can be done with a value. -/
inductive Step where
  | assign (v : Value)
  | push (n : UInt8)
  | pick (index : Nat)
  | describe
  | titles
  | projections
  | extractText

/-- What a step gives. -/
inductive Outcome where
  | nothing
  | length (n : Nat)
  | found (b : Bool)
  | description (tag : Nat) (title : String) (kinds : List Bool)
  | texts (l : List String)
  | projections (number : Option Int64) (bytes : Option (List UInt8)) (truth : Option Bool)
      (text : Option String)
  | extracted (r : Except Value String)

/-- Does a step. -/
def step (v : Value) : Step → Outcome × Value
  | .assign w => (.nothing, v.assign w.kind w.value)
  | .push n =>
    let (length, w) := v.visitMut (pusher n)
    (.length length, w)
  | .pick index =>
    let picked : Option Value := Store.pick (m := Id) (pure index) choices
    (.found picked.isSome, picked.getD v)
  | .describe => (.description v.tag v.title (values.kinds.map v.is), v)
  | .titles => (.texts values.titles, v)
  | .projections =>
    (.projections (v.project? .number) (v.project? .bytes) (v.project? .truth)
      (v.project? .text), v)
  | .extractText => (.extracted (v.extract .text), v)

end Value

end SharedMembers.Sample
