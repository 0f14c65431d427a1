import SharedMembers.Grammar.ModulePath
import SharedMembers.Grammar.Category

/-!
# Grammar of attributes

An attribute is a path with nothing, with a group in any brackets, or with a value behind it. A
literal that ends the attribute is a value in itself, so that a number may have a sign.

* `attributeBody`: what stands in the brackets.
* `outerAttributes`, `innerAttributes`: as many attributes as there are.
* `block`, `attributedBlock`: statements in braces, the second with inner attributes in front.
-/

namespace SharedMembers.Grammar

open SharedMembers.Parser

/-- The value of an attribute behind its equals sign. -/
def attributeValue (g : Grammar) : Parser Expression := do
  let c ← get
  let width := if c.atOperator "-" then 2 else 1
  if c.atLiteral && (c.skip width).atEnd then
    let text ← literal
    return ⟨.literal text, Code.ofTokens text⟩
  if c.atOperator "#" && (c.skip 1).atGroup .bracket then
    complain (.reason "unexpected attribute inside of attribute")
  g (.expression true)

/-- The path of an attribute. -/
def attributePath : Parser Path := do
  if (← get).atWord "unsafe" then return .ofIdent (← anyWord) else modulePath

/-- What stands in the brackets of an attribute. -/
def attributeBody (g : Grammar) : Parser (Path × AttributeArguments) := do
  let path ← attributePath
  let c ← get
  match c.rest with
  | .group d body opened closed :: _ =>
    let _ ← take 1
    return (path, .list d opened closed body)
  | _ =>
    if c.atOperator "=" then
      let _ ← markAt "="
      let value ← attributeValue g
      return (path, .value value.code)
    return (path, .nothing)

/-- An attribute behind its mark, at the brackets. -/
def attributeBehind (g : Grammar) (origin : Origin) (inner : Bool) : Parser Attribute := do
  let (_, _, path, arguments) ← inside .bracket (attributeBody g)
  return ⟨origin, inner, path, arguments⟩

/-- An outer attribute. -/
def outerAttribute (g : Grammar) : Parser Attribute := do
  attributeBehind g (← markAt "#") false

/-- An inner attribute. -/
def innerAttribute (g : Grammar) : Parser Attribute := do
  let origin ← markAt "#"
  let _ ← markAt "!"
  attributeBehind g origin true

/-- Outer attributes. -/
def outerAttributes (g : Grammar) : Parser (List Attribute) :=
  many (·.atOperator "#") (outerAttribute g)

/-- Inner attributes. -/
def innerAttributes (g : Grammar) : Parser (List Attribute) :=
  many (fun c => c.atOperator "#" && (c.skip 1).atOperator "!") (innerAttribute g)

/-- Outer attributes as code. -/
def outerAttributesCode (g : Grammar) : Parser Code := do
  return (← outerAttributes g).flatMap Attribute.code

/-- Inner attributes as code. -/
def innerAttributesCode (g : Grammar) : Parser Code := do
  return (← innerAttributes g).flatMap Attribute.code

/-- Statements in braces. -/
def block (g : Grammar) : Parser Code :=
  enclosed .brace g.statementsCode

/-- Statements in braces, with inner attributes in front. -/
def attributedBlock (g : Grammar) : Parser Code :=
  enclosed .brace (seq [innerAttributesCode g, g.statementsCode])

end SharedMembers.Grammar
