import SharedMembers.Grammar.Path

/-!
# Grammar of types

What a type is shows at its first token; a path may turn out to be a macro's call or, when bounds
are added, a trait object.

* `typeRule`: a type.
* `functionPointer`, `pathType`, `inParentheses`: the kinds that need more than one look.
-/

namespace SharedMembers.Grammar

open SharedMembers.Parser

/-! ## Bounds of objects -/

/-- Code that holds nothing but lifetimes and the signs between them. -/
def onlyLifetimes : Code → Bool
  | [] => true
  | .tree (.lifetime ..) :: rest | .tree (.punct '+' ..) :: rest => onlyLifetimes rest
  | _ => false

/-- What can follow a plus sign as a bound. -/
def atBound (c : Cursor) : Bool :=
  c.atAnyWord || c.atOperator "::" || c.atOperator "?" || c.atLifetime ||
    c.atGroup .parenthesis || c.atGroup .bracket

/-- The bounds of an object or an unnamed type, at least one of them a trait. -/
def objectBounds (plus : Bool) (g : Grammar) : Parser Code := do
  let parts ←
    if plus then someBounds (!atBound ·) g else g.boundCode
  if onlyLifetimes parts then
    complain (.reason "at least one trait is required for an object type")
  return parts

/-- Further bounds, each behind a plus sign. -/
def addedBounds (g : Grammar) : Parser Code := do
  let added ← many (·.atOperator "+") (seq [mark "+", g.boundCode])
  return added.flatten

/-! ## Function pointers -/

/-- The convention by which a foreign function is called. -/
def callConvention : Parser Code := do
  let front ← word "extern"
  if (← get).atString then return front ++ Code.ofTokens (← literal) else return front

/-- The convention by which a foreign function is called, or nothing. -/
def maybeCallConvention : Parser Code :=
  onlyIf (·.atWord "extern") callConvention

/-- A name with a colon in front of an input. -/
def atInputName (allowSelf : Bool) (c : Cursor) : Bool :=
  (c.atName || c.atWord "_" || (allowSelf && c.atWord "self")) &&
    (c.skip 1).atOperator ":" && !(c.skip 1).atOperator "::"

/-- An input of a function pointer; the first may be the function's own value. -/
def pointerInput (first : Bool) (g : Grammar) : Parser Code := do
  let front ← outerAttributesCode g
  let c ← get
  if first && c.atWord "mut" && (c.skip 1).atWord "self" then
    let own ← verbatim do
      let _ ← wordAt "mut"
      let _ ← wordAt "self"
      onlyIf (·.atOperator ":") (seq [mark ":", g.tyCode])
    return front ++ [.skipped own]
  let label ← onlyIf (atInputName first) do
    let i ← anyWord
    return Code.name i ++ (← mark ":")
  return front ++ label ++ (← g.tyCode)

/-- The open end of the inputs. -/
def pointerRest : Parser Code := do
  let label ← onlyIf (fun c => c.atName || c.atWord "_") do
    let i ← anyWord
    return Code.name i ++ (← mark ":")
  let dots ← mark "..."
  return label ++ dots ++ (← maybeMark ",")

/-- The inputs are left open here. -/
def atPointerRest (c : Cursor) : Bool :=
  c.atOperator "..." || (atInputName false c && (c.skip 2).atOperator "...")

/-- The inputs of a function pointer. -/
def pointerInputs (g : Grammar) : Parser Code := do
  let first := (← get).rest.length
  let parts ← many (!·.atEnd) do
    let before ← get
    let attributes ← outerAttributesCode g
    if atPointerRest (← get) then
      return attributes ++ (← pointerRest)
    let input ← pointerInput (before.rest.length == first) g
    if (← get).atEnd then return attributes ++ input
    return attributes ++ input ++ (← mark ",")
  return parts.flatten

/-- A function pointer, without the lifetimes in front. -/
def functionPointer (g : Grammar) : Parser Code := do
  let front ← seq [maybeWord "unsafe", maybeCallConvention, word "fn"]
  let inputs ← enclosed .parenthesis (pointerInputs g)
  return front ++ inputs ++ (← plainOutput g)

/-! ## Parentheses -/

/-- The bounds of an object that was read without its keyword, if it is a single one. -/
def singleBound? : Ty → Option Code
  | .path (.plain leading segments) => some [.path (.plain leading segments)]
  | .traitObject code =>
    let named : Bool := match code with
      | .tree (.word "dyn" _) :: _ => true
      | _ => false
    if named || code.any Fragment.isPlus then none
    else
      match code with
      | [.group .parenthesis _ _ body] => some body
      | _ => some code
  | _ => none

/-- What stands in the parentheses of a type. -/
inductive Parenthesised where
  | tuple (elems : List Ty) (trailing : Bool)
  | type (t : Ty)
  | bound (code : Code)

/-- The contents of the parentheses of a type. -/
def parenthesised (g : Grammar) : Parser Parenthesised := do
  let c ← get
  if c.atEnd then return .tuple [] false
  if c.atLifetime then return .type (.traitObject (← objectBounds true g))
  if c.atOperator "?" then return .bound (← traitBound g).2
  let first ← g.ty
  if !(← get).atOperator "," then return .type first
  let _ ← markAt ","
  let (others, trailing) ← commaSeparated g.ty
  return .tuple (first :: others) (trailing || others.isEmpty)

/-- A type that begins with a parenthesis. -/
def inParentheses (plus : Bool) (g : Grammar) : Parser Ty := do
  let (opened, closed, contents) ← inside .parenthesis (parenthesised g)
  let object := fun (bound : Code) => do
    let added ← addedBounds g
    return Ty.traitObject (.group .parenthesis opened closed bound :: added)
  match contents with
  | .tuple elems trailing => return .tuple opened elems trailing
  | .bound code => object code
  | .type t =>
    if plus && (← get).atOperator "+" then
      match singleBound? t with
      | some code => object code
      | none => return .paren opened t
    else return .paren opened t

/-! ## Paths -/

/-- Bounds behind a path that is the first of them. -/
def boundsBehind (g : Grammar) : Parser Code := do
  let added ← many (·.atOperator "+") do
    let sign ← mark "+"
    if atBound (← get) then return sign ++ (← g.boundCode) else return sign
  return added.flatten

/-- A type that begins with a path; `lifetimes` were introduced in front of it. -/
def pathType (plus : Bool) (lifetimes : Code) (g : Grammar) : Parser Ty := do
  let p ← qualifiablePath false g
  match p with
  | .qualified .. => return .path p
  | .plain .. =>
    let c ← get
    if p.isSimple && c.atOperator "!" && !c.atOperator "!=" then
      let call ← seq [mark "!", skippedGroup]
      return .invocation p call
    if !lifetimes.isEmpty || (plus && c.atOperator "+") then
      let added ← if plus then boundsBehind g else pure []
      return .traitObject (lifetimes ++ .path p :: added)
    return .path p

/-! ## Types -/

/-- What a type may begin with. -/
def typeOpenings : List String :=
  ["`for`", "parentheses", "`fn`", "`unsafe`", "`extern`", "identifier", "`::`", "`<`", "`dyn`",
   "square brackets", "`*`", "`&`", "`!`", "`impl`", "`_`", "lifetime"]

/-- What may follow lifetimes that are introduced. -/
def introducedOpenings : List String :=
  ["identifier", "`fn`", "`unsafe`", "`extern`", "`super`", "`self`", "`Self`", "`crate`"]

/-- A function pointer or a path behind lifetimes that are introduced. -/
def introducedType (plus : Bool) (g : Grammar) : Parser Ty := do
  let lifetimes ← introducedLifetimes g
  let c ← get
  if c.atOneOf ["fn", "unsafe", "extern"] then
    return .function (lifetimes ++ (← functionPointer g))
  if c.atName || c.atOneOf pathKeywords then pathType plus lifetimes g
  else expected introducedOpenings

/-- A trait object with its keyword. With a star behind the keyword it is not understood. -/
def namedObject (plus : Bool) (g : Grammar) : Parser Ty := do
  let c ← get
  let front ← word "dyn"
  if (← get).atOperator "*" then
    let _ ← markAt "*"
    let _ ← objectBounds plus g
    return .unparsed (c.rest.take (c.rest.length - (← get).rest.length))
  return .traitObject (front ++ (← objectBounds plus g))

/-- An array or a slice. -/
def inBrackets (g : Grammar) : Parser Ty := do
  let (opened, _, elem, length) ← inside .bracket do
    let elem ← g.ty
    if (← get).atOperator ";" then
      let _ ← markAt ";"
      return (elem, some (← g.expressionCode))
    return (elem, none)
  match length with
  | some code => return .array opened elem code
  | none => return .slice opened elem

/-- A raw pointer. -/
def pointer (g : Grammar) : Parser Ty := do
  let o ← markAt "*"
  let c ← get
  if c.atOneOf ["const", "mut"] then
    let _ ← anyWord
    return .pointer o (c.atWord "mut") (← g.plainTy)
  expected ["`const`", "`mut`"]

/-- A reference. -/
def reference (g : Grammar) : Parser Ty := do
  let o ← markAt "&"
  let lifetime ← maybeLifetime
  let mutable ← maybeWordAt "mut"
  return .reference o lifetime mutable.isSome (← g.plainTy)

/-- A type. -/
def typeRule (plus : Bool) (g : Grammar) : Parser Ty := do
  let c ← get
  if c.atWord "for" then introducedType plus g
  else if c.atGroup .parenthesis then inParentheses plus g
  else if c.atOneOf ["fn", "unsafe", "extern"] then return .function (← functionPointer g)
  else if c.atPath || c.atOperator "<" then pathType plus [] g
  else if c.atWord "dyn" then namedObject plus g
  else if c.atGroup .bracket then inBrackets g
  else if c.atOperator "*" then pointer g
  else if c.atOperator "&" then reference g
  else if c.atOperator "!" then return .never (← markAt "!")
  else if c.atWord "impl" then
    let front ← word "impl"
    return .implTrait (front ++ (← objectBounds plus g))
  else if c.atWord "_" then return .inferred (← wordAt "_")
  else if c.atLifetime then return .traitObject (← objectBounds true g)
  else expected typeOpenings

end SharedMembers.Grammar
