import SharedMembers.Grammar.Expression
import SharedMembers.Item.Code

/-!
# Grammar of statements

The statements of a block are bindings, items, macro calls and expressions. All but the last have to
end with a semicolon, with a brace, or as items do.

* `statementsRule`: the statements of a block.
* `atItem`: an item begins, and not an expression.
-/

namespace SharedMembers.Grammar

open SharedMembers.Parser

/-- An item begins here, and not an expression. -/
def atItem (c : Cursor) : Bool :=
  let next := c.skip 1
  let third := c.skip 2
  c.atOneOf ["pub", "extern", "use", "fn", "mod", "type", "struct", "enum", "trait", "impl",
    "macro"] ||
    (c.atWord "crate" && !next.atOperator "::") ||
    (c.atWord "static" &&
      (next.atWord "mut" ||
        (next.atName && !(next.atWord "async" && (third.atWord "move" || third.atOperator "|"))))) ||
    (c.atWord "const" &&
      !(next.atGroup .brace || next.atWord "static" ||
        (next.atWord "async" && !third.atOneOf ["unsafe", "extern", "fn"]) ||
        next.atWord "move" || next.atOperator "|")) ||
    (c.atWord "unsafe" && !next.atGroup .brace) ||
    (c.atWord "async" && next.atOneOf ["unsafe", "extern", "fn"]) ||
    (c.atWord "union" && next.atName) || (c.atWord "auto" && next.atWord "trait") ||
    (c.atWord "default" && next.atOneOf ["unsafe", "impl"])

/-- What the call of a macro at the beginning of a statement is. -/
inductive CallStatement where
  | none
  /-- The definition of something, with a name behind the mark. -/
  | item
  /-- A call in braces that nothing takes further. -/
  | call (path : Path)

/-- The call of a macro that a statement begins with. Only a call in braces is read. -/
def callStatement : Parser CallStatement := do
  let start ← get
  match ← attempt? modulePath with
  | Option.none => return .none
  | some p =>
    let c ← get
    let next := c.skip 1
    let third := c.skip 2
    if c.atOperator "!" then
      if next.atName || next.atWord "try" then
        set start
        return .item
      if next.atGroup .brace &&
          !((third.atOperator "." && !third.atOperator "..") || third.atOperator "?") then
        return .call p
    set start
    return .none

/-- A binding. The block behind an `else` has to end what the value leaves open. -/
def binding (g : Grammar) : Parser Code := do
  let front ← seq [word "let", g.patternCode, onlyIf (·.atOperator ":") (seq [mark ":", g.tyCode])]
  if (← get).atOperator "=" then
    let sign ← mark "="
    let value : Expression ← g (.expression true)
    let otherwise ←
      if !value.endsWithBrace && (← get).atWord "else" then seq [word "else", block g]
      else pure []
    return front ++ sign ++ value.code ++ otherwise ++ (← mark ";")
  return front ++ (← mark ";")

/-- A statement, and whether more can only follow behind a semicolon. -/
def statement (g : Grammar) : Parser (Code × Bool) := do
  let start ← get
  let attributes ← outerAttributesCode g
  match ← callStatement with
  | .call p =>
    let call ← seq [mark "!", skippedGroup, maybeMark ";"]
    return (attributes ++ .path p :: call, false)
  | .item =>
    set start
    let item : Item ← g .item
    return (item.code, false)
  | .none =>
    let c ← get
    if c.atWord "let" then return (attributes ++ (← binding g), false)
    if atItem c then
      set start
      let item : Item ← g .item
      return (item.code, false)
    let e : Expression ← g .leading
    let front := attributes ++ e.code
    if (← get).atOperator ";" then return (front ++ (← mark ";"), false)
    match e.kind with
    | .invocation => return (front, !e.endsWithBrace)
    | _ => return (front, !e.endsWithBlock)

/-- The statements of a block. -/
def statementsRule (g : Grammar) : Parser Code := do
  let parts ← loop do
    let semicolons ← many (·.atOperator ";") (mark ";")
    if (← get).atEnd then return (semicolons.flatten, false)
    let (code, open') ← statement g
    if (← get).atEnd then return (semicolons.flatten ++ code, false)
    if open' then complain (.reason "unexpected token, expected `;`")
    return (semicolons.flatten ++ code, true)
  return parts.flatten

end SharedMembers.Grammar
