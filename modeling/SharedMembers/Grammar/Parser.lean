import SharedMembers.Type.Code
import SharedMembers.Token.Literal

/-!
# Parsers

A parser reads token trees from a cursor. Looking ahead is free; a parser that fails says what it
expected and where.

* `Cursor.atOperator`, `Cursor.atWord`: looking ahead.
* `Parser.seq`, `Parser.enclosed`, `Parser.many`: pieces of code one behind the other, in brackets,
  and as often as they come.
* `many` ends because each round has to leave fewer tokens.
-/

namespace SharedMembers

/-! ## Failures -/

/-- Why a parser failed. -/
inductive Complaint where
  /-- One of these was expected. -/
  | expected (alternatives : List String)
  /-- A name was expected and a keyword found. -/
  | keyword (name : String)
  /-- A token was expected; the end is not reported as such. -/
  | token (text : String)
  /-- Another reason. -/
  | reason (text : String)
deriving Repr, DecidableEq

/-- A failure: why, where, and whether everything was read by then. -/
structure Failure where
  complaint : Complaint
  origin : Origin
  atEnd : Bool
deriving Repr, DecidableEq

namespace Failure

/-- The complaint in words. -/
def message (f : Failure) : String :=
  let atEnd := fun text => if f.atEnd then "unexpected end of input, " ++ text else text
  match f.complaint with
  | .expected [] => if f.atEnd then "unexpected end of input" else "unexpected token"
  | .expected [a] => atEnd ("expected " ++ a)
  | .expected [a, b] => atEnd ("expected " ++ a ++ " or " ++ b)
  | .expected as => atEnd ("expected one of: " ++ ", ".intercalate as)
  | .keyword name => atEnd ("expected identifier, found keyword `" ++ name ++ "`")
  | .token text => "expected `" ++ text ++ "`"
  | .reason text => atEnd text

end Failure

/-! ## Looking ahead -/

/-- What is still to be read, and the place where it ends. -/
structure Cursor where
  rest : List Tree
  close : Origin

/-- The words that are not names. -/
def keywords : List String :=
  ["_", "abstract", "as", "async", "await", "become", "box", "break", "const", "continue", "crate",
   "do", "dyn", "else", "enum", "extern", "false", "final", "fn", "for", "if", "impl", "in", "let",
   "loop", "macro", "match", "mod", "move", "mut", "override", "priv", "pub", "ref", "return",
   "Self", "self", "static", "struct", "super", "trait", "true", "try", "type", "typeof", "unsafe",
   "unsized", "use", "virtual", "where", "while", "yield"]

/-- The words that a path may begin with although they are no names. -/
def pathKeywords : List String := ["super", "self", "Self", "crate"]

/-- The tokens begin with the characters of an operator, all but the last joint. -/
def beginsWith : List Char → List Tree → Bool
  | [], _ => false
  | [c], .punct d _ _ :: _ => c == d
  | c :: cs, .punct d true _ :: ts => c == d && beginsWith cs ts
  | _, _ => false

/-- The tokens begin with a number. -/
def beginsWithNumber : List Tree → Bool
  | .literal text _ :: _ =>
    match Literal.kind text with
    | .whole | .float => true
    | _ => false
  | _ => false

namespace Cursor

/-- The cursor `n` tokens further on. -/
def skip (n : Nat) (c : Cursor) : Cursor :=
  { c with rest := c.rest.drop n }

/-- Where the next token stands. -/
def origin (c : Cursor) : Origin :=
  match c.rest with
  | [] => c.close
  | t :: _ => t.origin

/-- Everything is read. -/
def atEnd (c : Cursor) : Bool :=
  c.rest.isEmpty

/-- The next tokens are the operator. -/
def atOperator (text : String) (c : Cursor) : Bool :=
  beginsWith text.toList c.rest

/-- The next word, whatever it is. -/
def word? (c : Cursor) : Option String :=
  match c.rest with
  | .word name _ :: _ => some name
  | _ => none

/-- The next token is a word, whatever it is. -/
def atAnyWord (c : Cursor) : Bool :=
  c.word?.isSome

/-- The next token is the word. -/
def atWord (name : String) (c : Cursor) : Bool :=
  c.word? == some name

/-- The next token is one of the words. -/
def atOneOf (names : List String) (c : Cursor) : Bool :=
  c.word?.any names.contains

/-- The next token is a name. -/
def atName (c : Cursor) : Bool :=
  c.word?.any (!keywords.contains ·)

/-- The next token is a lifetime. -/
def atLifetime (c : Cursor) : Bool :=
  match c.rest with
  | .lifetime .. :: _ => true
  | _ => false

/-- The next tokens are a literal; a number may have a sign. -/
def atLiteral (c : Cursor) : Bool :=
  match c.rest with
  | .literal .. :: _ => true
  | .word name _ :: _ => name == "true" || name == "false"
  | .punct '-' _ _ :: ts => beginsWithNumber ts
  | _ => false

/-- The next token is a string literal. -/
def atString (c : Cursor) : Bool :=
  match c.rest with
  | .literal text _ :: _ => Literal.kind text == .string
  | _ => false

/-- The next token is a group in these brackets. -/
def atGroup (d : Delimiter) (c : Cursor) : Bool :=
  match c.rest with
  | .group e _ _ _ :: _ => d == e
  | _ => false

/-- The next token is a group in any brackets. -/
def atAnyGroup (c : Cursor) : Bool :=
  match c.rest with
  | .group .. :: _ => true
  | _ => false

/-- A path may begin here. -/
def atPath (c : Cursor) : Bool :=
  c.atName || c.atOneOf pathKeywords || c.atOperator "::"

end Cursor

/-! ## Parsers -/

/-- A parser: from a cursor to a result and the cursor behind it. -/
abbrev Parser (α : Type) := StateT Cursor (Except Failure) α

/-- The name of a kind of brackets. -/
def Delimiter.name : Delimiter → String
  | parenthesis => "parentheses"
  | bracket => "square brackets"
  | brace => "curly braces"

namespace Parser

/-- Fails at the next token. -/
def complain {α : Type} (complaint : Complaint) : Parser α :=
  fun c => .error ⟨complaint, c.origin, c.atEnd⟩

/-- Fails because one of the alternatives was expected. -/
def expected {α : Type} (alternatives : List String) : Parser α :=
  complain (.expected alternatives)

/-- Tries a parser; if it fails nothing is read. -/
def attempt? {α : Type} (p : Parser α) : Parser (Option α) :=
  fun c => match p c with
    | .ok (a, c) => .ok (some a, c)
    | .error _ => .ok (none, c)

/-- The next `n` tokens as they are. -/
def take (n : Nat) : Parser (List Tree) :=
  fun c => .ok (c.rest.take n, c.skip n)

/-- What a parser gives, with the tokens that it reads as they are. -/
def withTokens {α : Type} (p : Parser α) : Parser (α × List Tree) := do
  let before := (← get).rest
  let a ← p
  let after := (← get).rest
  return (a, before.take (before.length - after.length))

/-- The tokens that a parser reads, as they are. -/
def verbatim {α : Type} (p : Parser α) : Parser (List Tree) := do
  let (_, tokens) ← withTokens p
  return tokens

/-! ### Tokens -/

/-- An operator; all characters but the last have to be joint. -/
def markAt (text : String) : Parser Origin := do
  let c ← get
  if c.atOperator text then
    let _ ← take text.length
    return c.origin
  complain (.token text)

/-- An operator as code. -/
def mark (text : String) : Parser Code := do
  let o ← markAt text
  return Code.operatorAt o text

/-- A keyword and its place. -/
def wordAt (name : String) : Parser Origin := do
  let c ← get
  if c.atWord name then
    let _ ← take 1
    return c.origin
  complain (.reason ("expected `" ++ name ++ "`"))

/-- A keyword as code. -/
def word (name : String) : Parser Code := do
  let o ← wordAt name
  return Code.wordAt o name

/-- A name. -/
def ident : Parser Ident := do
  let c ← get
  match c.word? with
  | some name =>
    if keywords.contains name then complain (.keyword name)
    else
      let _ ← take 1
      return ⟨name, c.origin⟩
  | none => expected ["identifier"]

/-- Any word, keywords included. -/
def anyWord : Parser Ident := do
  let c ← get
  match c.word? with
  | some name =>
    let _ ← take 1
    return ⟨name, c.origin⟩
  | none => expected ["identifier"]

/-- A name as code. -/
def name : Parser Code := do
  return Code.name (← ident)

/-- A lifetime. -/
def lifetime : Parser Ident := do
  match (← get).rest with
  | .lifetime n o :: _ =>
    let _ ← take 1
    return ⟨n, o⟩
  | _ => expected ["lifetime"]

/-- A lifetime as code. -/
def lifetimeCode : Parser Code := do
  return Code.lifetime (← lifetime)

/-- A literal, which may be a number with a sign. -/
def literal : Parser (List Tree) := do
  let c ← get
  if c.atLiteral then take (if c.atOperator "-" then 2 else 1)
  else expected ["literal"]

/-- A group in these brackets, its contents read by `p` to the end. -/
def inside {α : Type} (d : Delimiter) (p : Parser α) : Parser (Origin × Origin × α) := do
  match (← get).rest with
  | .group e body opened closed :: _ =>
    if d = e then
      match p ⟨body, closed⟩ with
      | .error f => throw f
      | .ok (a, c) =>
        if c.atEnd then
          let _ ← take 1
          return (opened, closed, a)
        else throw ⟨.expected [], c.origin, false⟩
    else expected [d.name]
  | _ => expected [d.name]

/-- A group of code in these brackets. -/
def enclosed (d : Delimiter) (p : Parser Code) : Parser Code := do
  let (opened, closed, body) ← inside d p
  return [.group d opened closed body]

/-- A group in any brackets, its contents left as they are. -/
def skippedGroup : Parser Code := do
  match (← get).rest with
  | .group d body opened closed :: _ =>
    let _ ← take 1
    return [.group d opened closed [.skipped body]]
  | _ => expected ["delimiter"]

/-! ### Putting parsers together -/

/-- Pieces of code one behind the other. -/
def seq : List (Parser Code) → Parser Code
  | [] => pure []
  | p :: ps => do
    let a ← p
    let b ← seq ps
    return a ++ b

/-- The parser if the condition holds of what comes next, and nothing otherwise. -/
def onlyIf (condition : Cursor → Bool) (p : Parser Code) : Parser Code := do
  if condition (← get) then p else return []

/-- An operator that may be missing. -/
def maybeMark (text : String) : Parser Code :=
  onlyIf (·.atOperator text) (mark text)

/-- A keyword that may be missing. -/
def maybeWord (name : String) : Parser Code :=
  onlyIf (·.atWord name) (word name)

/-- The place of a keyword that may be missing. -/
def maybeWordAt (name : String) : Parser (Option Origin) := do
  if (← get).atWord name then return some (← wordAt name) else return none

/-- A lifetime that may be missing. -/
def maybeLifetime : Parser (Option Ident) := do
  if (← get).atLifetime then return some (← lifetime) else return none

/-- At most `rounds` rounds; `p` tells with its result whether there is another one. -/
def rounds {α : Type} (p : Parser (α × Bool)) : Nat → Parser (List α)
  | 0 => complain (.reason "too many parts")
  | n + 1 => do
    let (a, more) ← p
    if more then
      let as ← rounds p n
      return a :: as
    else return [a]

/-- One round and then more as long as `p` says so. A round that says so has to read something:
there are no more rounds than tokens. -/
def loop {α : Type} (p : Parser (α × Bool)) : Parser (List α) := do
  rounds p ((← get).rest.length + 1)

/-- As often as the condition holds in front of it. -/
def many {α : Type} (condition : Cursor → Bool) (p : Parser α) : Parser (List α) := do
  if condition (← get) then
    loop do
      let a ← p
      return (a, condition (← get))
  else return []

/-- Everything up to the end. -/
def toEnd {α : Type} (p : Parser α) : Parser (List α) :=
  many (!·.atEnd) p

/-- Parts with a separator between them, up to where `stop` holds; the separator may also stand
behind the last one. -/
def separatedUntil {α : Type} (separator : String) (stop : Cursor → Bool) (p : Parser α) :
    Parser (List α × Bool) := do
  if stop (← get) then return ([], false)
  let parts ← loop do
    let a ← p
    if stop (← get) then return ((a, false), false)
    let _ ← markAt separator
    return ((a, true), !stop (← get))
  return (parts.map (·.1), (parts.getLast?.map (·.2)).getD false)

/-- Parts with commas up to the end. -/
def commaSeparated {α : Type} (p : Parser α) : Parser (List α × Bool) :=
  separatedUntil "," Cursor.atEnd p

/-- Code in parts with commas up to the end. -/
def commaSeparatedCode (p : Parser Code) : Parser Code := do
  let (parts, trailing) ← commaSeparated p
  return separated Code.comma trailing parts

/-- Runs a parser on all of the tokens. -/
def run {α : Type} (p : Parser α) (tokens : List Tree) : Except Failure α :=
  match p ⟨tokens, none⟩ with
  | .error f => .error f
  | .ok (a, c) => if c.atEnd then .ok a else .error ⟨.expected [], c.origin, false⟩

end Parser

end SharedMembers
