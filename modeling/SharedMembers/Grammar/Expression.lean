import SharedMembers.Grammar.Pattern
import SharedMembers.Grammar.Type

/-!
# Grammar of expressions

An expression is operands with operators between them; an operand is an atom with calls, fields and
indices behind it.

* `operandRule`, `operationRule`, `expressionRule`: operands, operators, and both.
* `leadingRule`: an expression that ends with its block, if it begins with one.
* `blockLike?`: the expressions that end with a block.
-/

namespace SharedMembers

namespace Expression

/-- The expression is a range. -/
def isRange (e : Expression) : Bool :=
  match e.kind with
  | .range => true
  | _ => false

/-- The expression is a comparison. -/
def isComparison (e : Expression) : Bool :=
  match e.kind with
  | .binary .compare => true
  | _ => false

/-- The expression ends with its block, so that nothing has to follow it. -/
def endsWithBlock (e : Expression) : Bool :=
  match e.kind with
  | .conditional | .matching | .block | .uncheckedBlock | .whileLoop | .loop | .forLoop
  | .tryBlock | .constBlock => true
  | _ => false

/-- The last piece of the expression is in braces. -/
def endsWithBrace (e : Expression) : Bool :=
  match e.code.getLast? with
  | some (.group .brace _ _ _) => true
  | some (.tree (.group .brace _ _ _)) => true
  | some (.type t) =>
    match t.tokens.getLast? with
    | some (.group .brace _ _ _) => true
    | _ => false
  | _ => false

/-- The expression with code in front of it. -/
def behind (front : Code) (e : Expression) : Expression :=
  ⟨e.kind, front ++ e.code⟩

end Expression

namespace Grammar

open SharedMembers.Parser

/-! ## Operators -/

/-- The operators between two operands. Of those that are the start of others, the longer ones come
first. -/
def binaryOperators : List (String × Level) :=
  [("+=", .assign), ("-=", .assign), ("*=", .assign), ("/=", .assign), ("%=", .assign),
   ("^=", .assign), ("&=", .assign), ("|=", .assign), ("<<=", .assign), (">>=", .assign),
   ("&&", .and), ("||", .or), ("<<", .shift), (">>", .shift), ("==", .compare), ("<=", .compare),
   ("!=", .compare), (">=", .compare), ("+", .sum), ("-", .sum), ("*", .product), ("/", .product),
   ("%", .product), ("^", .bitXor), ("&", .bitAnd), ("|", .bitOr), ("<", .compare), (">", .compare)]

/-- The operator that comes next. -/
def binaryOperator? (c : Cursor) : Option (String × Level) :=
  binaryOperators.find? fun (text, _) => c.atOperator text

/-- A single equals sign comes next. -/
def atAssignment (c : Cursor) : Bool :=
  c.atOperator "=" && !c.atOperator "=>"

/-- How strongly the next operator binds. -/
def nextLevel (c : Cursor) : Level :=
  match binaryOperator? c with
  | some (_, level) => level
  | none =>
    if atAssignment c then .assign
    else if c.atOperator ".." then .range
    else if c.atWord "as" then .cast
    else .jump

/-- Lets the operators behind an operand take it that bind stronger than `level`. -/
def extended (structs : Bool) (level : Level) (g : Grammar) : Nat → Expression → Parser Expression
  | 0, e => return e
  | rounds + 1, e => do
    let c ← get
    let next := nextLevel c
    if level.rank < next.rank || (next = level && level = .assign) then
      let e : Expression ← g (.operation structs next e)
      if (← get).rest.length = c.rest.length then return e else extended structs level g rounds e
    else return e

/-- The right side of an operator. -/
def rightSide (structs : Bool) (level : Level) (g : Grammar) : Parser Expression := do
  let e : Expression ← g (.operand structs)
  extended structs level g ((← get).rest.length + 1) e

/-- A range ends without an upper bound here. -/
def atOpenEnd (structs : Bool) (c : Cursor) : Bool :=
  c.atEnd || c.atOperator "," || c.atOperator ";" || (c.atOperator "." && !c.atOperator "..") ||
    c.atOperator "?" || c.atOperator "=>" || (!structs && c.atGroup .brace) ||
    ["=", "+", "/", "%", "^", ">", "<=", "!=", "-=", "*=", "&=", "|=", "<<="].any c.atOperator ||
    c.atWord "as"

/-- The dots of a range and what follows them. -/
def rangeTail (structs : Bool) (g : Grammar) : Parser Code := do
  let (closed, dots) ← rangeDots false
  if !closed && atOpenEnd structs (← get) then return dots
  return dots ++ (← rightSide structs .range g).code

/-- What may not follow a cast. -/
def castFollower? (c : Cursor) : Option String :=
  if c.atOperator "." && !c.atOperator ".." then
    let next := c.skip 1
    if next.atWord "await" then some "`.await`"
    else if next.atName && ((next.skip 1).atGroup .parenthesis || (next.skip 1).atOperator "::") then
      some "a method call"
    else some "a field access"
  else if c.atOperator "?" then some "`?`"
  else if c.atGroup .bracket then some "indexing"
  else if c.atGroup .parenthesis then some "a function call"
  else none

/-- A cast of the left side. -/
def castBehind (left : Expression) (g : Grammar) : Parser Expression := do
  let sign ← word "as"
  let t ← g.plainTy
  match castFollower? (← get) with
  | some follower => complain (.reason ("casts cannot be followed by " ++ follower))
  | none => return ⟨.cast, left.code ++ sign ++ [.type t]⟩

/-- One operator and its right side, if it binds at least as strongly as `base`. A range takes no
further operators. -/
def operationStep (structs : Bool) (base : Level) (left : Expression) (g : Grammar) :
    Parser (Option Expression) := do
  let c ← get
  if left.isRange then return none
  match binaryOperator? c with
  | some (text, level) =>
    if level.rank < base.rank then return none
    if level = .compare && left.isComparison then
      complain (.reason "comparison operators cannot be chained")
    let sign ← mark text
    let right ← rightSide structs level g
    return some ⟨.binary level, left.code ++ sign ++ right.code⟩
  | none =>
    if base.rank ≤ Level.assign.rank && atAssignment c then
      let sign ← mark "="
      let right ← rightSide structs .assign g
      return some ⟨.assignment, left.code ++ sign ++ right.code⟩
    else if base.rank ≤ Level.range.rank && c.atOperator ".." then
      return some ⟨.range, left.code ++ (← rangeTail structs g)⟩
    else if base.rank ≤ Level.cast.rank && c.atWord "as" then return some (← castBehind left g)
    else return none

/-- Operators as long as they bind at least as strongly as `base`. -/
def operations (structs : Bool) (base : Level) (g : Grammar) : Nat → Expression → Parser Expression
  | 0, e => return e
  | rounds + 1, e => do
    match ← operationStep structs base e g with
    | some e => operations structs base g rounds e
    | none => return e

/-- What operators that bind at least as strongly as `base` make of their left side. -/
def operationRule (structs : Bool) (base : Level) (left : Expression) (g : Grammar) :
    Parser Expression := do
  operations structs base g ((← get).rest.length + 1) left

/-- An expression. -/
def expressionRule (structs : Bool) (g : Grammar) : Parser Expression := do
  let e : Expression ← g (.operand structs)
  g (.operation structs .jump e)

/-! ## Expressions that end with a block -/

/-- Expressions in parentheses behind a function. -/
def callInputs (g : Grammar) : Parser Code :=
  enclosed .parenthesis (commaSeparatedCode g.expressionCode)

/-- A conditional and its alternatives. -/
def conditional (g : Grammar) : Parser Code := do
  let clauses ← loop do
    let clause ← seq [word "if", g.conditionCode, block g]
    if (← get).atWord "else" then
      let front := clause ++ (← word "else")
      let c ← get
      if c.atWord "if" then return (front, true)
      if c.atGroup .brace then return (front ++ (← block g), false)
      expected ["`if`", "curly braces"]
    return (clause, false)
  return clauses.flatten

/-- An arm of a match. A comma may only be missing behind a block and at the end. -/
def matchArm (g : Grammar) : Parser Code := do
  let front ← seq [outerAttributesCode g, alternativesCode g,
    onlyIf (·.atWord "if") (seq [word "if", g.expressionCode]), mark "=>"]
  let body : Expression ← g .leading
  let c ← get
  let comma ← if !body.endsWithBlock && !c.atEnd then mark "," else maybeMark ","
  return front ++ body.code ++ comma

/-- The arms of a match. -/
def matchArms (g : Grammar) : Parser Code := do
  let attributes ← innerAttributesCode g
  return attributes ++ (← toEnd (matchArm g)).flatten

/-- The lifetimes of a closure follow, and not a loop. -/
def atIntroduced (c : Cursor) : Bool :=
  c.atWord "for" && (c.skip 1).atOperator "<" &&
    ((c.skip 2).atLifetime || (c.skip 2).atOperator ">")

/-- A loop or a block behind its label. -/
def loopOrBlock? (g : Grammar) (c : Cursor) : Option (Parser Expression) :=
  let kinded (kind : ExpressionKind) (p : Parser Code) : Parser Expression := do return ⟨kind, ← p⟩
  if c.atWord "while" then
    some (kinded .whileLoop (seq [word "while", g.conditionCode, attributedBlock g]))
  else if c.atWord "for" then
    some (kinded .forLoop
      (seq [word "for", alternativesCode g, word "in", g.conditionCode, attributedBlock g]))
  else if c.atWord "loop" then some (kinded .loop (seq [word "loop", attributedBlock g]))
  else if c.atGroup .brace then some (kinded .block (attributedBlock g))
  else none

/-- A labelled loop or block. -/
def labelled (g : Grammar) : Parser Expression := do
  let label ← seq [lifetimeCode, mark ":"]
  match loopOrBlock? g (← get) with
  | some p => return (← p).behind label
  | none => complain (.reason "expected loop or block expression")

/-- An expression that ends with a block begins here. -/
def blockLike? (g : Grammar) (c : Cursor) : Option (Parser Expression) :=
  let kinded (kind : ExpressionKind) (p : Parser Code) : Parser Expression := do return ⟨kind, ← p⟩
  if c.atWord "if" then some (kinded .conditional (conditional g))
  else if c.atWord "match" then
    some (kinded .matching (seq [word "match", g.conditionCode, enclosed .brace (matchArms g)]))
  else if c.atWord "try" && (c.skip 1).atGroup .brace then
    some (kinded .tryBlock (seq [word "try", block g]))
  else if c.atWord "unsafe" then
    some (kinded .uncheckedBlock (seq [word "unsafe", attributedBlock g]))
  else if c.atWord "const" && (c.skip 1).atGroup .brace then
    some (kinded .constBlock (seq [word "const", attributedBlock g]))
  else if c.atLifetime then some (labelled g)
  else if atIntroduced c then none
  else loopOrBlock? g c

/-! ## Atoms -/

/-- An expression may begin here. -/
def atExpression (c : Cursor) : Bool :=
  (c.atAnyWord && !c.atWord "as") || c.atAnyGroup || c.atLiteral ||
    (c.atOperator "!" && !c.atOperator "!=") ||
    (c.atOperator "-" && !c.atOperator "-=" && !c.atOperator "->") ||
    (c.atOperator "*" && !c.atOperator "*=") || (c.atOperator "|" && !c.atOperator "|=") ||
    (c.atOperator "&" && !c.atOperator "&=") || c.atOperator ".." ||
    (c.atOperator "<" && !c.atOperator "<=" && !c.atOperator "<<=") || c.atOperator "::" ||
    c.atLifetime || c.atOperator "#"

/-- An expression if one may begin here. -/
def maybeExpression (structs : Bool) (g : Grammar) : Parser Code := do
  if atExpression (← get) then
    let e : Expression ← g (.expression structs)
    return e.code
  return []

/-- The end of a loop, with the label of the loop and its value. -/
def breaking (structs : Bool) (g : Grammar) : Parser Code := do
  let front ← seq [word "break", onlyIf (·.atLifetime) lifetimeCode]
  let c ← get
  if front.length = 2 && c.atOperator ":" then complain (.reason "parentheses required")
  if !structs && c.atGroup .brace then return front
  return front ++ (← maybeExpression structs g)

/-- An input of a closure. -/
def closureInput (g : Grammar) : Parser Code :=
  seq [outerAttributesCode g, g.patternCode,
    onlyIf (·.atOperator ":") (seq [mark ":", g.tyCode])]

/-- A closure. -/
def closure (structs : Bool) (g : Grammar) : Parser Code := do
  let front ← seq [maybeIntroducedLifetimes g, maybeWord "const", maybeWord "static",
    maybeWord "async", maybeWord "move", mark "|"]
  let (inputs, trailing) ← separatedUntil "," (·.atOperator "|") (closureInput g)
  let head := front ++ separated Code.comma trailing inputs ++ (← mark "|")
  if (← get).atOperator "->" then
    return head ++ (← seq [mark "->", g.tyCode, block g])
  let body : Expression ← g (.expression structs)
  return head ++ body.code

/-- A closure begins here. -/
def atClosure (c : Cursor) : Bool :=
  let next := c.skip 1
  c.atOperator "|" || c.atWord "move" || atIntroduced c ||
    (c.atWord "const" && !next.atGroup .brace) || c.atWord "static" ||
    (c.atWord "async" && (next.atOperator "|" || next.atWord "move"))

/-- The fields of a struct; the rest may come from another value. -/
def structFields (g : Grammar) : Parser Code := do
  let parts ← loop do
    let c ← get
    if c.atEnd then return ([], false)
    if c.atOperator ".." then
      let dots ← mark ".."
      if (← get).atEnd then return (dots, false)
      return (dots ++ (← g.expressionCode), false)
    let attributes ← outerAttributesCode g
    let (named, label) ← member
    let value ←
      if (← get).atOperator ":" || !named then seq [mark ":", g.expressionCode] else pure []
    let field := attributes ++ label ++ value
    if (← get).atEnd then return (field, false)
    return (field ++ (← mark ","), true)
  return parts.flatten

/-- A path, the call of a macro, or a struct. -/
def pathExpression (structs : Bool) (g : Grammar) : Parser Expression := do
  let p ← qualifiablePath true g
  let c ← get
  if p.isSimple && c.atOperator "!" && !c.atOperator "!=" then
    return ⟨.invocation, .path p :: (← seq [mark "!", skippedGroup])⟩
  if structs && c.atGroup .brace then
    return ⟨.struct, .path p :: (← enclosed .brace (structFields g))⟩
  return ⟨.path p, [.path p]⟩

/-- Expressions in parentheses: one of them alone, or a tuple. -/
def tupleOrParen (g : Grammar) : Parser Expression := do
  let (opened, closed, parts, trailing) ← inside .parenthesis (commaSeparated g.expressionCode)
  let code : Code := [.group .parenthesis opened closed (separated Code.comma trailing parts)]
  return ⟨if parts.length = 1 && !trailing then .paren else .tuple, code⟩

/-- Elements in brackets: a list of them, or one that is repeated. -/
def arrayElements (g : Grammar) : Parser (ExpressionKind × Code) := do
  if (← get).atEnd then return (.array, [])
  let first ← g.expressionCode
  let c ← get
  if c.atEnd then return (.array, first)
  if c.atOperator ";" then return (.repetition, first ++ (← seq [mark ";", g.expressionCode]))
  if c.atOperator "," then
    return (.array, first ++ (← mark ",") ++ (← commaSeparatedCode g.expressionCode))
  complain (.reason "expected `,` or `;`")

/-- An atom: an expression without operators, calls, fields and indices around it. -/
def atom (structs : Bool) (g : Grammar) : Parser Expression := do
  let c ← get
  let next := c.skip 1
  let kinded (kind : ExpressionKind) (p : Parser Code) : Parser Expression := do return ⟨kind, ← p⟩
  if c.atLiteral then
    let text ← literal
    return ⟨.literal text, Code.ofTokens text⟩
  if c.atWord "async" &&
      (next.atGroup .brace || (next.atWord "move" && (next.skip 1).atGroup .brace)) then
    return ← kinded .asyncBlock (seq [word "async", maybeWord "move", block g])
  if atClosure c then return ← kinded .closure (closure structs g)
  if c.atWord "builtin" && next.atOperator "#" then
    return ← kinded .verbatim (seq [word "builtin", mark "#", name, skippedGroup])
  if c.atPath || c.atOperator "<" ||
      (c.atWord "try" && (next.atOperator "!" || next.atOperator "::")) then
    return ← pathExpression structs g
  if c.atGroup .parenthesis then return ← tupleOrParen g
  if c.atWord "break" then return ← kinded .breaking (breaking structs g)
  if c.atWord "continue" then
    return ← kinded .continuing (seq [word "continue", onlyIf (·.atLifetime) lifetimeCode])
  if c.atWord "return" then
    return ← kinded .returning (seq [word "return", maybeExpression structs g])
  if c.atWord "become" then
    return ⟨.verbatim, [.skipped (← verbatim (seq [word "become", g.expressionCode]))]⟩
  if c.atGroup .bracket then
    let (opened, closed, kind, code) ← inside .bracket (arrayElements g)
    return ⟨kind, [.group .bracket opened closed code]⟩
  if c.atWord "let" then
    let front ← seq [word "let", alternativesCode g, mark "="]
    let left : Expression ← g (.operand structs)
    let value : Expression ← g (.operation structs .compare left)
    return ⟨.letting, front ++ value.code⟩
  if c.atWord "yield" then
    return ← kinded .yielding (seq [word "yield", maybeExpression true g])
  if c.atOperator ".." then return ← kinded .range (rangeTail structs g)
  if c.atWord "_" then return ← kinded .inferred (word "_")
  match blockLike? g c with
  | some p => p
  | none => complain (.reason "expected an expression")

/-! ## Operands -/

/-- The positions of nested fields that were read as one number with a point; with a point at the
end another field follows. -/
def fieldNumbers? (text : String) : Option (List Nat × Bool) :=
  let parts := text.splitOn "."
  let open' := parts.getLast? == some ""
  let digits := if open' then parts.dropLast else parts
  (digits.mapM fun part =>
    match Literal.wholeNumber? part with
    | some (n, "") => if n < 4294967296 then some n else none
    | _ => none).map (·, open')

/-- What follows the point behind an operand: a field, a method's call, or the wait for a value. -/
def memberBehind (left : Code) (g : Grammar) : Parser Expression := do
  if (← get).atWord "await" then return ⟨.awaiting, left ++ (← word "await")⟩
  let (named, label) ← member
  let c ← get
  if named && c.atOperator "::" then
    let _ ← markAt "::"
    let (args, trailing) ← arguments g
    let list := Segment.argumentCode (.generic ⟨"", none⟩ true args trailing)
    return ⟨.methodCall, left ++ label ++ list ++ (← callInputs g)⟩
  if named && c.atGroup .parenthesis then
    return ⟨.methodCall, left ++ label ++ (← callInputs g)⟩
  return ⟨.field, left ++ label⟩

/-- A field, a method's call, or the wait for a value, with the point in front. -/
def fieldBehind (left : Code) (g : Grammar) : Parser Expression := do
  let front := left ++ (← mark ".")
  match (← get).rest with
  | .literal text o :: _ =>
    if Literal.kind text = .float then
      match fieldNumbers? text with
      | some (numbers, open') =>
        let _ ← take 1
        let labels := numbers.map fun n => Code.ofTokens [.literal (toString n) o]
        let fields := front ++ joined (Code.operator ".") labels
        if open' then memberBehind (fields ++ Code.operator ".") g else return ⟨.field, fields⟩
      | none => complain (.reason "expected integer literal")
    else memberBehind front g
  | _ => memberBehind front g

/-- What is called, indexed or taken apart behind an operand. -/
def trailers (g : Grammar) : Nat → Expression → Parser Expression
  | 0, e => return e
  | rounds + 1, e => do
    let c ← get
    if c.atGroup .parenthesis then
      trailers g rounds ⟨.call, e.code ++ (← callInputs g)⟩
    else if c.atOperator "." && !c.atOperator ".." && !e.isRange then
      trailers g rounds (← fieldBehind e.code g)
    else if c.atGroup .bracket then
      trailers g rounds ⟨.index, e.code ++ (← enclosed .bracket g.expressionCode)⟩
    else if c.atOperator "?" && !e.isRange then
      trailers g rounds ⟨.question, e.code ++ (← mark "?")⟩
    else return e

/-- An operand that is not taken further. -/
def trailed (e : Expression) (g : Grammar) : Parser Expression := do
  trailers g ((← get).rest.length + 1) e

/-- The address of an operand, of a raw one or of a borrowed one. -/
def addressOf (structs : Bool) (g : Grammar) : Parser Expression := do
  let sign ← mark "&"
  let c ← get
  let raw := c.atWord "raw" && (c.skip 1).atOneOf ["mut", "const"]
  let front ←
    if raw then
      seq [word "raw", maybeWord "mut", maybeWord "const"]
    else maybeWord "mut"
  let e : Expression ← g (.operand structs)
  return ⟨if raw then .rawAddress else .reference, sign ++ front ++ e.code⟩

/-- An operand. -/
def operandRule (structs : Bool) (g : Grammar) : Parser Expression := do
  let attributes ← outerAttributesCode g
  let c ← get
  if c.atOperator "&" then return (← addressOf structs g).behind attributes
  match ["*", "!", "-"].find? c.atOperator with
  | some sign =>
    let front ← mark sign
    let e : Expression ← g (.operand structs)
    return ⟨.unary, attributes ++ front ++ e.code⟩
  | none =>
    let e ← atom structs g
    return (← trailed e g).behind attributes

/-- An expression that ends with its block, if it begins with one. A point or a question mark
takes the block further. -/
def leadingRule (g : Grammar) : Parser Expression := do
  let attributes ← outerAttributesCode g
  match blockLike? g (← get) with
  | some p =>
    let e ← p
    let c ← get
    if (c.atOperator "." && !c.atOperator "..") || c.atOperator "?" then
      g (.operation true .jump ((← trailed e g).behind attributes))
    else return e.behind attributes
  | none =>
    let e : Expression ← g (.operand true)
    g (.operation true .jump (e.behind attributes))

end Grammar

end SharedMembers
