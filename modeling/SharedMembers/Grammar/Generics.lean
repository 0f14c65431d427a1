import SharedMembers.Grammar.Type
import SharedMembers.Item.Code

/-!
# Grammar of generics, visibilities and heads of functions

* `generics`, `conditions`: parameters in angle brackets, and the conditions behind `where`.
* `visibility`: who may use a thing.
* `fnHead`: the head of a function.
-/

namespace SharedMembers.Grammar

open SharedMembers.Parser

/-! ## Visibility -/

/-- The restriction of a visibility, in its parentheses: one word, or a path behind `in`. -/
def restriction : Parser (Bool × Path) := do
  let c ← get
  if c.atOneOf ["crate", "self", "super"] then return (false, .ofIdent (← anyWord))
  let _ ← wordAt "in"
  return (true, ← modulePath)

/-- Who may use a thing. Parentheses that hold no restriction belong to what follows. -/
def visibility : Parser Visibility := do
  if !(← get).atWord "pub" then return .inherited
  let o ← wordAt "pub"
  match (← get).rest with
  | .group .parenthesis body _ _ :: _ =>
    let contents : Cursor := ⟨body, none⟩
    if contents.atWord "in" || (contents.atOneOf ["crate", "self", "super"] && body.length = 1) then
      let (_, _, within, path) ← inside .parenthesis restriction
      return .restricted o within path
    return .everywhere o
  | _ => return .everywhere o

/-! ## Generic parameters -/

/-- A part and the bounds behind its colon; without bounds the colon is left out. -/
def withBounds (front bounds : Code) : Code :=
  if bounds.isEmpty then front else front ++ Code.operator ":" ++ bounds

/-- Lifetimes as long as plus signs follow and `stop` does not hold. -/
def lifetimeBounds (stop : Cursor → Bool) : Parser Code := do
  if stop (← get) then return []
  let parts ← loop do
    let l ← lifetimeCode
    if (← get).atOperator "+" then
      let _ ← markAt "+"
      return ((l, true), !stop (← get))
    return ((l, false), false)
  return separated plus ((parts.getLast?.map (·.2)).getD false) (parts.map (·.1))

/-- Bounds behind a colon, or nothing without a colon. -/
def boundsBehindColon (p : Parser Code) : Parser Code := do
  if (← get).atOperator ":" then
    let _ ← markAt ":"
    p
  else return []

/-- A generic parameter, marked when it is a lifetime. -/
def parameter (g : Grammar) : Parser (Bool × Code) := do
  let front ← outerAttributesCode g
  let c ← get
  if c.atLifetime then
    let l ← lifetimeCode
    let bounds ← boundsBehindColon <|
      lifetimeBounds fun c => c.atEnd || c.atOperator "," || c.atOperator ">"
    return (true, withBounds (front ++ l) bounds)
  if c.atName then
    let i ← name
    let bounds ← boundsBehindColon <|
      bounds (fun c => c.atOperator "," || c.atOperator ">" || c.atOperator "=") g
    let preset ← onlyIf (·.atOperator "=") (seq [mark "=", g.tyCode])
    return (false, withBounds (front ++ i) bounds ++ preset)
  if c.atWord "const" then
    let code ← seq [word "const", name, mark ":", g.tyCode,
      onlyIf (·.atOperator "=") (seq [mark "=", constant g])]
    return (false, front ++ code)
  if c.atWord "_" then return (false, front ++ (← word "_"))
  expected ["lifetime", "identifier", "`const`"]

/-- Generic parameters in angle brackets, without conditions on them. -/
def generics (g : Grammar) : Parser Generics := do
  if !(← get).atOperator "<" then return .empty
  let o ← markAt "<"
  let (parameters, trailing) ← separatedUntil "," (·.atOperator ">") (parameter g)
  let _ ← markAt ">"
  return ⟨o, parameters, trailing, none⟩

/-- The conditions, or the bounds in one, end here. -/
def atConditionsEnd (c : Cursor) : Bool :=
  c.atEnd || c.atGroup .brace || c.atOperator "," || c.atOperator ";" ||
    (c.atOperator ":" && !c.atOperator "::") || c.atOperator "="

/-- A condition on generic parameters. -/
def condition (g : Grammar) : Parser Code := do
  let c ← get
  if c.atLifetime && (c.skip 1).atOperator ":" then
    seq [lifetimeCode, mark ":", lifetimeBounds atConditionsEnd]
  else seq [maybeIntroducedLifetimes g, g.tyCode, mark ":", bounds atConditionsEnd g]

/-- The conditions on generic parameters, if their keyword is there. -/
def conditions (g : Grammar) : Parser (Option Code) := do
  if !(← get).atWord "where" then return none
  let _ ← wordAt "where"
  if atConditionsEnd (← get) then return some []
  let parts ← loop do
    let part ← condition g
    if (← get).atOperator "," then
      let _ ← markAt ","
      return ((part, true), !atConditionsEnd (← get))
    return ((part, false), false)
  return some
    (separated Code.comma ((parts.getLast?.map (·.2)).getD false) (parts.map (·.1)))

/-- The conditions as code. -/
def conditionsCode (g : Grammar) : Parser Code := do
  return Generics.whereCode { Generics.empty with conditions := ← conditions g }

/-! ## Functions -/

/-- The input by which a method takes its own value. -/
def selfInput (attributes : List Attribute) (g : Grammar) : Parser SelfInput := do
  let reference ← if (← get).atOperator "&" then
      let o ← markAt "&"
      pure (some (o, ← maybeLifetime))
    else pure none
  let mutable ← maybeWordAt "mut"
  let o ← wordAt "self"
  let type ← if reference.isNone && (← get).atOperator ":" then
      let _ ← markAt ":"
      pure (some (← g.ty))
    else pure none
  return ⟨attributes, reference, mutable.isSome, o, type⟩

/-- An input of a function, or the open end of the inputs. -/
inductive InputOrRest where
  | input (input : FnInput)
  | rest (code : Code)

/-- The pattern of an input as far as it is kept. -/
def PatternReading.pattern (p : PatternReading) : Pattern :=
  match p.kind with
  | .binding i => ⟨some i, p.code⟩
  | _ => ⟨none, p.code⟩

/-- An input or the open end of the inputs, behind its attributes. A type alone stands for an input
that is not looked at. -/
def inputOrRest (attributes : List Attribute) (g : Grammar) : Parser InputOrRest := do
  let front := attributes.flatMap Attribute.code
  let c ← get
  if c.atOperator "..." then return .rest (front ++ (← mark "..."))
  match ← attempt? (selfInput attributes g) with
  | some own => return .input (.self own)
  | none =>
    if c.atName && (c.skip 1).atOperator "<" then
      let t ← g.ty
      return .input (.typed attributes ⟨none, Code.wordAt c.origin "_"⟩ t)
    let p : PatternReading ← g .pattern
    let _ ← markAt ":"
    if (← get).atOperator "..." then
      return .rest (front ++ p.code ++ Code.operator ":" ++ (← mark "..."))
    return .input (.typed attributes (PatternReading.pattern p) (← g.ty))

/-- An input or the open end of the inputs, and whether a comma follows. Only the first input can be
the function's own value. -/
def inputPart (first : Bool) (g : Grammar) : Parser (InputOrRest × Bool) := do
  let part ← inputOrRest (← outerAttributes g) g
  match part with
  | .rest code => return (.rest (code ++ (← maybeMark ",")), false)
  | .input (.self _) =>
    if !first then complain (.reason "unexpected method receiver")
  | .input (.typed ..) => pure ()
  if (← get).atEnd then return (part, false)
  let _ ← markAt ","
  return (part, true)

/-- The inputs among the parts. -/
def InputOrRest.input? : InputOrRest → Option FnInput
  | input i => some i
  | rest _ => none

/-- The open end among the parts. -/
def InputOrRest.rest? : InputOrRest → Option Code
  | input _ => none
  | rest code => some code

/-- The inputs of a function: those that are known, whether a comma ends them, and the rest. -/
def fnInputs (g : Grammar) : Parser (List FnInput × Bool × Option Code) := do
  let first := (← get).rest.length
  if first = 0 then return ([], false, none)
  let parts ← loop do
    let (part, comma) ← inputPart ((← get).rest.length = first) g
    return ((part, comma), comma && !(← get).atEnd)
  let known := parts.filter fun (part, _) => part.input?.isSome
  return (known.filterMap fun (part, _) => part.input?, (known.getLast?.map (·.2)).getD false,
    parts.findSome? fun (part, _) => part.rest?)

/-- The type that a function gives. -/
def fnOutput (g : Grammar) : Parser (Option Ty) := do
  if (← get).atOperator "->" then
    let _ ← markAt "->"
    return some (← g.ty)
  return none

/-- The head of a function. -/
def fnHead (g : Grammar) : Parser FnHead := do
  let constant ← maybeWordAt "const"
  let asynchronous ← maybeWordAt "async"
  let unchecked ← maybeWordAt "unsafe"
  let foreign ← if (← get).atWord "extern" then pure (some (← callConvention)) else pure none
  let keyword ← wordAt "fn"
  let i ← ident
  let parameters ← generics g
  let (_, _, inputs, trailing, variadic) ← inside .parenthesis (fnInputs g)
  let output ← fnOutput g
  let conditions ← conditions g
  return ⟨constant, asynchronous, unchecked, foreign, keyword, i,
    { parameters with conditions := conditions }, inputs, trailing, variadic, output⟩

/-- The head of a function begins here. -/
def atFnHead (c : Cursor) : Bool :=
  let step (name : String) (c : Cursor) : Cursor := if c.atWord name then c.skip 1 else c
  let c := step "unsafe" (step "async" (step "const" c))
  let c := if c.atWord "extern" then
      if (c.skip 1).atString then c.skip 2 else c.skip 1
    else c
  c.atWord "fn"

end SharedMembers.Grammar
