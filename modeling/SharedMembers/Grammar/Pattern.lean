import SharedMembers.Grammar.Path

/-!
# Grammar of patterns

* `patternRule`: a pattern without alternatives.
* `alternatives`: patterns of which one has to match.
-/

namespace SharedMembers.Grammar

open SharedMembers.Parser

/-! ## Alternatives -/

/-- Another alternative follows. -/
def atAlternative (c : Cursor) : Bool :=
  c.atOperator "|" && !c.atOperator "||" && !c.atOperator "|="

/-- Patterns of which one has to match. A bar may stand in front. -/
def alternatives (g : Grammar) : Parser PatternReading := do
  let front ← maybeMark "|"
  let first : PatternReading ← g .pattern
  let others ← many atAlternative (seq [mark "|", g.patternCode])
  if front.isEmpty && others.isEmpty then return first
  return ⟨.other, front ++ first.code ++ others.flatten⟩

/-- Patterns of which one has to match, as code. -/
def alternativesCode (g : Grammar) : Parser Code := do
  return (← alternatives g).code

/-! ## Members -/

/-- A field by its name or its position. The position is a plain number. -/
def member : Parser (Bool × Code) := do
  let c ← get
  if c.atName then return (true, ← name)
  match c.rest with
  | .literal text o :: _ =>
    match Literal.wholeNumber? text with
    | some (n, "") =>
      if n < 4294967296 then
        let _ ← take 1
        return (false, Code.ofTokens [.literal (toString n) o])
      else complain (.reason "number too large to fit in target type")
    | some _ => complain (.reason "expected unsuffixed integer")
    | none => expected ["identifier or integer"]
  | _ => expected ["identifier or integer"]

/-! ## Ranges -/

/-- The dots of a range; three dots are an old form. -/
def rangeDots (old : Bool) : Parser (Bool × Code) := do
  let c ← get
  if c.atOperator "..=" then return (true, ← mark "..=")
  if c.atOperator "..." then
    if old then return (true, ← mark "...") else expected ["`..`", "`..=`"]
  return (false, ← mark "..")

/-- No end of a range can stand here. -/
def atRangeStop (c : Cursor) : Bool :=
  c.atEnd || c.atOperator "|" || c.atOperator "=" ||
    (c.atOperator ":" && !c.atOperator "::") || c.atOperator "," || c.atOperator ";" ||
    c.atWord "if"

/-- An end of a range, or nothing if none can stand here. -/
def rangeEnd (g : Grammar) : Parser Code := do
  let c ← get
  if atRangeStop c then return []
  if c.atLiteral then return Code.ofTokens (← literal)
  if c.atPath || c.atOperator "<" then return [.path (← qualifiablePath true g)]
  if c.atWord "const" then return (← word "const") ++ (← attributedBlock g)
  expected ["literal", "identifier", "`::`", "`<`", "`self`", "`Self`", "`super`", "`crate`",
    "`const`"]

/-- What follows the start of a range. -/
def rangeBehind (start : Code) (g : Grammar) : Parser PatternReading := do
  let (closed, dots) ← rangeDots true
  let stop ← rangeEnd g
  if closed && stop.isEmpty then complain (.reason "expected range upper bound")
  return ⟨if stop.isEmpty then .openRange else .other, start ++ dots ++ stop⟩

/-- A range without a start, or what is left out of a list. -/
def rangeWithoutStart (g : Grammar) : Parser PatternReading := do
  let (closed, dots) ← rangeDots false
  let stop ← rangeEnd g
  if stop.isEmpty then
    if closed then complain (.reason "expected range upper bound")
    return ⟨.rest, dots⟩
  return ⟨.openRange, dots ++ stop⟩

/-- A literal or a constant, or a range from there. -/
def literalOrRange (g : Grammar) : Parser PatternReading := do
  let start ← rangeEnd g
  if (← get).atOperator ".." then rangeBehind start g else return ⟨.other, start⟩

/-! ## Structures -/

/-- A field of a struct pattern behind its attributes. -/
def fieldPattern (g : Grammar) : Parser Code := do
  let front ← seq [maybeWord "box", maybeWord "ref", maybeWord "mut"]
  if !front.isEmpty then return front ++ (← name)
  let (named, label) ← member
  if (← get).atOperator ":" || !named then
    return label ++ (← mark ":") ++ (← alternativesCode g)
  return label

/-- The fields of a struct pattern; those that are left out end them. -/
def fieldPatterns (g : Grammar) : Parser Code := do
  let parts ← loop do
    if (← get).atEnd then return ([], false)
    let attributes ← outerAttributesCode g
    if (← get).atOperator ".." then return (attributes ++ (← mark ".."), false)
    let field ← fieldPattern g
    if (← get).atEnd then return (attributes ++ field, false)
    return (attributes ++ field ++ (← mark ","), true)
  return parts.flatten

/-- A pattern that begins with a path. -/
def pathPattern (g : Grammar) : Parser PatternReading := do
  let p ← qualifiablePath true g
  let start : Code := [.path p]
  let c ← get
  if p.isSimple && c.atOperator "!" && !c.atOperator "!=" then
    return ⟨.other, start ++ (← seq [mark "!", skippedGroup])⟩
  if c.atGroup .brace then return ⟨.other, start ++ (← enclosed .brace (fieldPatterns g))⟩
  if c.atGroup .parenthesis then
    return ⟨.other, start ++ (← enclosed .parenthesis (commaSeparatedCode (alternativesCode g)))⟩
  if c.atOperator ".." then rangeBehind start g else return ⟨.other, start⟩

/-- A name that is bound, perhaps under the condition of another pattern. -/
def bindingPattern (g : Grammar) : Parser PatternReading := do
  let front ← seq [maybeWord "ref", maybeWord "mut"]
  let i ← if (← get).atWord "self" then anyWord else ident
  let condition ← onlyIf (·.atOperator "@") (seq [mark "@", g.patternCode])
  return ⟨.binding i, front ++ Code.name i ++ condition⟩

/-- An element of a slice pattern; a range needs both ends there. -/
def element (g : Grammar) : Parser Code := do
  let p ← alternatives g
  match p.kind with
  | .openRange =>
    complain (.reason "range pattern is not allowed unparenthesized inside slice pattern")
  | _ => return p.code

/-! ## Patterns -/

/-- A pattern that begins with a path begins here. -/
def atPathPattern (c : Cursor) : Bool :=
  let next := c.skip 1
  (c.atName &&
      (next.atOperator "::" || next.atOperator "!" || next.atGroup .brace ||
        next.atGroup .parenthesis || next.atOperator "..")) ||
    (c.atWord "self" && next.atOperator "::") || c.atOperator "::" || c.atOperator "<" ||
    c.atOneOf ["Self", "super", "crate"]

/-- A pattern without alternatives. -/
def patternRule (g : Grammar) : Parser PatternReading := do
  let c ← get
  if atPathPattern c then pathPattern g
  else if c.atWord "_" then return ⟨.other, ← word "_"⟩
  else if c.atWord "box" then
    return ⟨.other, [.skipped (← verbatim (seq [word "box", g.patternCode]))]⟩
  else if c.atOperator "-" || c.atLiteral || c.atWord "const" then literalOrRange g
  else if c.atOneOf ["ref", "mut", "self"] || c.atName then bindingPattern g
  else if c.atOperator "&" then
    return ⟨.other, ← seq [mark "&", maybeWord "mut", g.patternCode]⟩
  else if c.atGroup .parenthesis then
    return ⟨.other, ← enclosed .parenthesis (commaSeparatedCode (alternativesCode g))⟩
  else if c.atGroup .bracket then
    return ⟨.other, ← enclosed .bracket (commaSeparatedCode (element g))⟩
  else if c.atOperator ".." && !c.atOperator "..." then rangeWithoutStart g
  else
    expected ["identifier", "`::`", "`<`", "`_`", "literal", "`const`", "`ref`", "`mut`", "`&`",
      "parentheses", "square brackets", "`..`"]

end SharedMembers.Grammar
