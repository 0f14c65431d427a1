import SharedMembers.Grammar.Parser
import SharedMembers.Item.Basic

/-!
# Categories of the grammar

The grammar is recursive: a type may hold an expression, an expression a block, a block an item, an
item types. The points where it recurs are the categories. A rule is given parsers for all of them,
the sub-grammar, and is not recursive itself.

* `Category.Result`: what a parser of a category gives.
* `Grammar`: a parser for each category.
* `Level`: how strongly operators bind.
-/

namespace SharedMembers

/-- How strongly operators bind, weakest first. -/
inductive Level where
  | jump
  | assign
  | range
  | or
  | and
  | letting
  | compare
  | bitOr
  | bitXor
  | bitAnd
  | shift
  | sum
  | product
  | cast
deriving Repr, DecidableEq

namespace Level

/-- The number of a level; more binds stronger. -/
def rank : Level → Nat
  | jump => 0
  | assign => 1
  | range => 2
  | or => 3
  | and => 4
  | letting => 5
  | compare => 6
  | bitOr => 7
  | bitXor => 8
  | bitAnd => 9
  | shift => 10
  | sum => 11
  | product => 12
  | cast => 13

end Level

/-- The kinds of expressions. -/
inductive ExpressionKind where
  | array
  | assignment
  | asyncBlock
  | awaiting
  | binary (level : Level)
  | block
  | breaking
  | call
  | cast
  | closure
  | constBlock
  | continuing
  | field
  | forLoop
  | conditional
  | index
  | inferred
  | letting
  | literal (text : List Tree)
  | loop
  | invocation
  | matching
  | methodCall
  | paren
  | path (path : Path)
  | range
  | rawAddress
  | reference
  | repetition
  | returning
  | struct
  | question
  | tryBlock
  | tuple
  | unary
  | uncheckedBlock
  | verbatim
  | whileLoop
  | yielding

/-- An expression: its kind and its code. -/
structure Expression where
  kind : ExpressionKind
  code : Code

/-- The kinds of patterns that are told apart. -/
inductive PatternKind where
  /-- A name that is bound. -/
  | binding (name : Ident)
  /-- What is left out of a list. -/
  | rest
  /-- A range without one of its ends. -/
  | openRange
  | other

/-- A pattern that was read: its kind and its code. -/
structure PatternReading where
  kind : PatternKind
  code : Code

/-- The points where the grammar recurs. -/
inductive Category where
  /-- A type; `plus` tells whether bounds may be added to it. -/
  | type (plus : Bool)
  /-- What a type may have to satisfy: a trait, or a lifetime. -/
  | bound
  /-- An expression; `structs` tells whether a brace behind a path belongs to it. -/
  | expression (structs : Bool)
  /-- An expression without operators between its parts. -/
  | operand (structs : Bool)
  /-- What operators that bind at least as strongly as `base` make of their left side. -/
  | operation (structs : Bool) (base : Level) (left : Expression)
  /-- An expression that ends with its block, if it begins with one. -/
  | leading
  /-- A pattern without alternatives. -/
  | pattern
  /-- The statements of a block. -/
  | statements
  /-- An item. -/
  | item
  /-- What an import names behind one of its paths. -/
  | imports (root : Bool) (before : Option Ident)

/-- What is imported: its code and the names it introduces. -/
structure Imports where
  names : List Ident
  code : Code

namespace Category

/-- What a parser of the category gives. -/
def Result : Category → Type
  | type _ => Ty
  | expression _ | operand _ | operation .. | leading => Expression
  | pattern => PatternReading
  | bound | statements => Code
  | item => Item
  | imports .. => Imports

end Category

/-- A parser for each category. -/
abbrev Grammar := (c : Category) → Parser c.Result

namespace Grammar

/-- A type. -/
def ty (g : Grammar) : Parser Ty := g (.type true)

/-- A type to which no bounds may be added. -/
def plainTy (g : Grammar) : Parser Ty := g (.type false)

/-- A type as code. -/
def tyCode (g : Grammar) : Parser Code := do
  return [.type (← g.ty)]

/-- A bound. -/
def boundCode (g : Grammar) : Parser Code := g .bound

/-- An expression as code. -/
def expressionCode (g : Grammar) : Parser Code := do
  let e : Expression ← g (.expression true)
  return e.code

/-- An expression that a block follows, as code. -/
def conditionCode (g : Grammar) : Parser Code := do
  let e : Expression ← g (.expression false)
  return e.code

/-- A pattern without alternatives, as code. -/
def patternCode (g : Grammar) : Parser Code := do
  let p : PatternReading ← g .pattern
  return p.code

/-- The statements of a block. -/
def statementsCode (g : Grammar) : Parser Code := g .statements

end Grammar

end SharedMembers
