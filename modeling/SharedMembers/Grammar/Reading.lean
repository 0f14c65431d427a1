import SharedMembers.Grammar.Item

/-!
# Reading

The rules are tied into one grammar, as deep as there are tokens; nothing can nest deeper, because
rules that lead to one another without reading a token do so a few times only.

* `Grammar.ofDepth`: the grammar up to a depth.
* `Grammar.read`: a parser on a run of tokens, all of which it has to read.
* `Ty.ofTokens`, `Item.listOfTokens`, `Module.ofTokens`, `EnumItem.ofTokens`: what is read.
-/

namespace SharedMembers

namespace Grammar

open SharedMembers.Parser

/-- The grammar for what nests at most `depth` deep. -/
def ofDepth : Nat → Grammar
  | 0 => fun _ => complain (.reason "too deep")
  | depth + 1 => fun
    | .type plus => typeRule plus (ofDepth depth)
    | .bound => boundRule (ofDepth depth)
    | .expression structs => expressionRule structs (ofDepth depth)
    | .operand structs => operandRule structs (ofDepth depth)
    | .operation structs base left => operationRule structs base left (ofDepth depth)
    | .leading => leadingRule (ofDepth depth)
    | .pattern => patternRule (ofDepth depth)
    | .statements => statementsRule (ofDepth depth)
    | .item => itemRule (ofDepth depth)
    | .imports root before => importsRule root before (ofDepth depth)

/-- A grammar that is deep enough for the tokens. -/
def deepEnough (tokens : List Tree) : Grammar :=
  ofDepth (8 * Tree.sizeAll tokens + 16)

/-- Runs a parser on the tokens; it has to read all of them. -/
def read {α : Type} (p : Grammar → Parser α) (tokens : List Tree) : Except Failure α :=
  (p (deepEnough tokens)).run tokens

/-- The items of a module, behind its inner attributes. -/
def itemList (g : Grammar) : Parser (List Item) := do
  let _ ← innerAttributes g
  toEnd (g .item)

/-- Paths with commas between them. -/
def pathList (g : Grammar) : Parser (List Path) := do
  return (← commaSeparated (path false g)).1

end Grammar

/-- A type. -/
def Ty.ofTokens (tokens : List Tree) : Except Failure Ty :=
  Grammar.read Grammar.ty tokens

/-- The items of a module. -/
def Item.listOfTokens (tokens : List Tree) : Except Failure (List Item) :=
  Grammar.read Grammar.itemList tokens

/-- A module. -/
def Module.ofTokens (tokens : List Tree) : Except Failure Module :=
  Grammar.read Grammar.moduleItem tokens

/-- An enum. -/
def EnumItem.ofTokens (tokens : List Tree) : Except Failure EnumItem :=
  Grammar.read Grammar.enumItem tokens

/-- Paths with commas between them. -/
def Path.listOfTokens (tokens : List Tree) : Except Failure (List Path) :=
  Grammar.read Grammar.pathList tokens

/-- The type that a text spells. -/
def Ty.ofText? (text : String) : Option Ty :=
  (Tree.ofText? text).bind fun tokens => (Ty.ofTokens tokens).toOption

/-- The items that a text spells. -/
def Item.listOfText? (text : String) : Option (List Item) :=
  (Tree.ofText? text).bind fun tokens => (Item.listOfTokens tokens).toOption

end SharedMembers
