import SharedMembers.Grammar.Attribute

/-!
# Grammar of paths

Paths with arguments in angle brackets, and paths that begin with a type in such brackets.

* `path`: a path; in an expression the arguments need a double colon in front.
* `qualifiablePath`: a path that may begin with a type.
* `boundRule`, `bounds`: what a type may have to satisfy.
-/

namespace SharedMembers.Grammar

open SharedMembers.Parser

/-- A plus sign between bounds. -/
def plus : Fragment := .tree (.punct '+' false none)

/-- A constant in the place of an argument: a literal, or a block. -/
def constant (g : Grammar) : Parser Code := do
  let c ← get
  if c.atLiteral then return Code.ofTokens (← literal)
  if c.atGroup .brace then attributedBlock g
  else expected []

/-- Lifetimes that are introduced with `for`. -/
def introducedLifetimes (g : Grammar) : Parser Code := do
  let before ← seq [word "for", mark "<"]
  let (parts, trailing) ← separatedUntil "," (·.atOperator ">") <|
    seq [outerAttributesCode g, lifetimeCode]
  let after ← mark ">"
  return before ++ separated Code.comma trailing parts ++ after

/-- Lifetimes that are introduced with `for`, or nothing. -/
def maybeIntroducedLifetimes (g : Grammar) : Parser Code :=
  onlyIf (·.atWord "for") (introducedLifetimes g)

/-! ## Arguments and segments -/

/-- The value that an argument gives to a name. -/
def assignedArgument (g : Grammar) (s : Segment) : Parser Argument := do
  let sign ← mark "="
  let c ← get
  let value ← if c.atLiteral || c.atGroup .brace then constant g else g.tyCode
  return .other (Code.name s.ident ++ s.argumentCode ++ sign ++ value)

/-- The bounds that an argument gives to a name. -/
def boundedArgument (g : Grammar) (s : Segment) : Parser Argument := do
  let colon ← mark ":"
  let (bounds, trailing) ←
    separatedUntil "+" (fun c => c.atOperator "," || c.atOperator ">") g.boundCode
  return .other (Code.name s.ident ++ s.argumentCode ++ colon ++ separated plus trailing bounds)

/-- An argument in angle brackets. -/
def argument (g : Grammar) : Parser Argument := do
  let c ← get
  if c.atLifetime && !(c.skip 1).atOperator "+" then return .lifetime (← lifetime)
  if c.atLiteral || c.atGroup .brace then return .other (← constant g)
  let t ← g.ty
  match t with
  | .path (.plain none [s]) =>
    let c ← get
    if c.atOperator "=" then assignedArgument g s
    else if c.atOperator ":" then boundedArgument g s
    else return .type t
  | _ => return .type t

/-- Arguments in angle brackets, and whether a comma ends them. -/
def arguments (g : Grammar) : Parser (List Argument × Bool) := do
  let _ ← markAt "<"
  let list ← separatedUntil "," (·.atOperator ">") (argument g)
  let _ ← markAt ">"
  return list

/-- A segment of a path. -/
def segment (inExpression : Bool) (g : Grammar) : Parser Segment := do
  let c ← get
  if c.atOneOf ["super", "self", "crate", "try"] then return .plain (← anyWord)
  let i ← if c.atWord "Self" then anyWord else ident
  let c ← get
  if !inExpression && c.atOperator "<" && !c.atOperator "<=" then
    let (args, trailing) ← arguments g
    return .generic i false args trailing
  if c.atOperator "::" && (c.skip 2).atOperator "<" then
    let _ ← markAt "::"
    let (args, trailing) ← arguments g
    return .generic i true args trailing
  return .plain i

/-- A path. -/
def path (inExpression : Bool) (g : Grammar) : Parser Path := do
  let leading ← leadingColons
  let first ← segment inExpression g
  let others ← many (fun c => c.atOperator "::" && !(c.skip 2).atGroup .parenthesis) do
    let _ ← markAt "::"
    segment inExpression g
  return .plain leading (first :: others)

/-! ## Bounds -/

/-- Whether the last segment of a path has no arguments. -/
def endsPlain (p : Path) : Bool :=
  p.last?.all (·.args.isEmpty)

/-- The path with the empty argument list of its last segment left out. -/
def withPlainEnd : Path → Path
  | .plain leading segments =>
    .plain leading (segments.dropLast ++ (segments.getLast?.map fun s => .plain s.ident).toList)
  | p => p

/-- The type that a function gives, if it is written; no bounds may be added to it. -/
def plainOutput (g : Grammar) : Parser Code :=
  onlyIf (·.atOperator "->") do
    let arrow ← mark "->"
    return arrow ++ [.type (← g.plainTy)]

/-- A bound by a trait, and whether it is marked as constant; the arguments of the path may be in
parentheses. -/
def traitBound (g : Grammar) : Parser (Bool × Code) := do
  let outer ← maybeIntroducedLifetimes g
  let const ← seq [onlyIf (·.atGroup .bracket) (enclosed .bracket (word "const")), maybeWord "const"]
  let modifier ← maybeMark "?"
  let inner ←
    if outer.isEmpty && !modifier.isEmpty then maybeIntroducedLifetimes g else pure []
  let p ← path false g
  let front := const ++ modifier ++ outer ++ inner
  let c ← get
  if endsPlain p &&
      (c.atGroup .parenthesis || (c.atOperator "::" && (c.skip 2).atGroup .parenthesis)) then
    let _ ← maybeMark "::"
    let inputs ← enclosed .parenthesis (commaSeparatedCode g.tyCode)
    let output ← plainOutput g
    return (!const.isEmpty, front ++ .path (withPlainEnd p) :: inputs ++ output)
  return (!const.isEmpty, front ++ [.path p])

/-- A bound by a trait, which may be in parentheses. One that is marked as constant is not
understood. -/
def boundByTrait (g : Grammar) : Parser Code := do
  let ((const, code), tokens) ← withTokens do
    if (← get).atGroup .parenthesis then
      let (opened, closed, const, code) ← inside .parenthesis (traitBound g)
      return (const, [.group .parenthesis opened closed code])
    else traitBound g
  return if const then [.skipped tokens] else code

/-- The names that an unnamed type captures. -/
def captured : Parser Code := do
  let before ← seq [word "use", mark "<"]
  let (parts, trailing) ← separatedUntil "," (·.atOperator ">") do
    let c ← get
    if c.atLifetime then lifetimeCode
    else if c.atWord "Self" then return Code.name (← anyWord)
    else name
  let after ← mark ">"
  return before ++ separated Code.comma trailing parts ++ after

/-- A bound by a trait, which may be in parentheses, or by a lifetime. -/
def boundRule (g : Grammar) : Parser Code := do
  let c ← get
  if c.atLifetime then lifetimeCode
  else if c.atWord "use" then captured
  else boundByTrait g

/-- At least one bound, and more as long as plus signs follow and `stop` does not hold. -/
def someBounds (stop : Cursor → Bool) (g : Grammar) : Parser Code := do
  let parts ← loop do
    let b ← g.boundCode
    if (← get).atOperator "+" then
      let _ ← markAt "+"
      return ((b, true), !stop (← get))
    return ((b, false), false)
  return separated plus ((parts.getLast?.map (·.2)).getD false) (parts.map (·.1))

/-- Bounds as long as plus signs follow and `stop` does not hold. -/
def bounds (stop : Cursor → Bool) (g : Grammar) : Parser Code := do
  if stop (← get) then return [] else someBounds stop g

/-- Bounds with plus signs between them, up to where `stop` holds. -/
def boundsUntil (stop : Cursor → Bool) (g : Grammar) : Parser Code := do
  let (parts, trailing) ← separatedUntil "+" stop g.boundCode
  return separated plus trailing parts

/-! ## Qualified paths -/

/-- The segments behind a type in angle brackets. -/
def segmentsBehind (inExpression : Bool) (g : Grammar) : Parser (List Segment) := do
  let first ← segment inExpression g
  let others ← many (·.atOperator "::") do
    let _ ← markAt "::"
    segment inExpression g
  return first :: others

/-- A path that begins with a type in angle brackets, perhaps as the implementor of a trait. -/
def qualifiedPath (inExpression : Bool) (g : Grammar) : Parser Path := do
  let o ← markAt "<"
  let self ← g.ty
  let trait ← if (← get).atWord "as" then
      let _ ← wordAt "as"
      pure (some (← path false g))
    else pure none
  let _ ← markAt ">"
  let colons ← markAt "::"
  let rest ← segmentsBehind inExpression g
  match trait with
  | some (.plain leading segments) => return .qualified o self leading segments rest
  | _ => return .qualified o self (some colons) [] rest

/-- A path that may begin with a type in angle brackets. -/
def qualifiablePath (inExpression : Bool) (g : Grammar) : Parser Path := do
  if (← get).atOperator "<" then qualifiedPath inExpression g else path inExpression g

end SharedMembers.Grammar
