import SharedMembers.Type.Basic
import SharedMembers.Token.Display

/-!
# The tokens of types

Types are written as they were read, with two exceptions: inside angle brackets the lifetimes come
first, each argument with the comma that followed it, and a comma that is then missing between two
arguments is added.

* `separated`, `arranged`: lists with commas.
* `Ty.tokens`, `Path.tokens`, `Fragment.tokensAll`: the tokens of a type, of a path, of code.
* `Fragment.tokensAll_append`: code is written piece by piece.
-/

namespace SharedMembers

/-! ## Single tokens -/

/-- An operator: its characters are joint with one another but not with what follows. -/
def operatorTokens : Origin → List Char → List Tree
  | _, [] => []
  | o, [c] => [.punct c false o]
  | o, c :: cs => .punct c true o :: operatorTokens o cs

/-- An operator that was made up. -/
def operator (text : String) : List Tree :=
  operatorTokens none text.toList

/-- A comma that was made up. -/
def comma : Tree := .punct ',' false none

/-- A keyword that was made up. -/
def keyword (name : String) : Tree := .word name none

namespace Ident

/-- The name as a token. -/
def token (i : Ident) : Tree := .word i.name i.origin

/-- The name as the token of a lifetime. -/
def lifetimeToken (i : Ident) : Tree := .lifetime i.name i.origin

end Ident

/-! ## Lists -/

section Lists

variable {α : Type}

/-- The parts with a comma behind each but the last, and behind the last if it is `trailing`. -/
def separated (comma : α) (trailing : Bool) : List (List α) → List α
  | [] => []
  | [part] => part ++ (if trailing then [comma] else [])
  | part :: parts => part ++ comma :: separated comma trailing parts

/-- The parts with an operator between them. -/
def joined (between : List α) : List (List α) → List α
  | [] => []
  | [part] => part
  | part :: parts => part ++ between ++ joined between parts

/-- Each part with whether a comma follows it. -/
def withCommas (trailing : Bool) : List α → List (α × Bool)
  | [] => []
  | [part] => [(part, trailing)]
  | part :: parts => (part, true) :: withCommas trailing parts

/-- The parts with their commas; a comma that is missing in front of a part is added. `closed`
tells that none is missing in front of the first. -/
def glued (comma : α) : (closed : Bool) → List (List α × Bool) → List α
  | _, [] => []
  | closed, (part, followed) :: parts =>
    (if closed then [] else [comma]) ++ part ++ (if followed then [comma] else []) ++
      glued comma followed parts

/-- The parts of a list in angle brackets; those that are marked, the lifetimes, come first. -/
def arranged (comma : α) (trailing : Bool) (parts : List (Bool × List α)) : List α :=
  let entries := withCommas trailing parts
  let ordered := entries.filter (·.1.1) ++ entries.filter (!·.1.1)
  glued comma true (ordered.map fun ((_, part), followed) => (part, followed))

end Lists

/-- The marks before a path that begins with a double colon. -/
def leadingTokens : Option Origin → List Tree
  | none => []
  | some o => operatorTokens o "::".toList

/-! ## Types, paths and code -/

namespace Argument

/-- The argument is a lifetime. -/
def isLifetime : Argument → Bool
  | lifetime _ => true
  | _ => false

end Argument

mutual

/-- The tokens of a type. -/
def Ty.tokens : Ty → List Tree
  | .path p => p.tokens
  | .reference o lifetime mutable referent =>
    operatorTokens o ['&'] ++ (lifetime.map Ident.lifetimeToken).toList ++
      (if mutable then [keyword "mut"] else []) ++ referent.tokens
  | .pointer o mutable pointee =>
    operatorTokens o ['*'] ++ keyword (if mutable then "mut" else "const") :: pointee.tokens
  | .paren o inner => [.group .parenthesis inner.tokens o none]
  | .tuple o elems trailing =>
    [.group .parenthesis (separated comma trailing (Ty.tokensEach elems)) o none]
  | .array o elem length =>
    [.group .bracket (elem.tokens ++ operator ";" ++ Fragment.tokensAll length) o none]
  | .slice o elem => [.group .bracket elem.tokens o none]
  | .never o => operatorTokens o ['!']
  | .inferred o => [.word "_" o]
  | .function code | .traitObject code | .implTrait code => Fragment.tokensAll code
  | .invocation p code => p.tokens ++ Fragment.tokensAll code
  | .unparsed tokens => tokens

/-- The tokens of each type. -/
def Ty.tokensEach : List Ty → List (List Tree)
  | [] => []
  | t :: ts => t.tokens :: Ty.tokensEach ts

/-- The tokens of a path. -/
def Path.tokens : Path → List Tree
  | .plain leading segments =>
    leadingTokens leading ++ joined (operator "::") (Segment.tokensEach segments)
  | .qualified o self leading traitSegments rest =>
    operatorTokens o ['<'] ++ self.tokens ++
      (if traitSegments.isEmpty then
        operator ">" ++ leadingTokens leading
      else
        keyword "as" :: leadingTokens leading ++
          joined (operator "::") (Segment.tokensEach traitSegments) ++ operator ">" ++
          operator "::") ++
      joined (operator "::") (Segment.tokensEach rest)

/-- The tokens of a segment. -/
def Segment.tokens : Segment → List Tree
  | .plain i => [i.token]
  | .generic i colons args trailing =>
    i.token :: (if colons then operator "::" else []) ++ operator "<" ++
      arranged comma trailing (Argument.tokensEach args) ++ operator ">"

/-- The tokens of each segment. -/
def Segment.tokensEach : List Segment → List (List Tree)
  | [] => []
  | s :: ss => s.tokens :: Segment.tokensEach ss

/-- The tokens of an argument, marked when it is a lifetime. -/
def Argument.tokens : Argument → Bool × List Tree
  | .lifetime i => (true, [i.lifetimeToken])
  | .type t => (false, t.tokens)
  | .other code => (false, Fragment.tokensAll code)

/-- The tokens of each argument. -/
def Argument.tokensEach : List Argument → List (Bool × List Tree)
  | [] => []
  | a :: as => a.tokens :: Argument.tokensEach as

/-- The tokens of a piece of code. -/
def Fragment.tokens : Fragment → List Tree
  | .tree t => [t]
  | .group d opened closed body => [.group d (Fragment.tokensAll body) opened closed]
  | .path p => p.tokens
  | .type t => t.tokens
  | .skipped ts => ts

/-- The tokens of code. -/
def Fragment.tokensAll : List Fragment → List Tree
  | [] => []
  | f :: fs => f.tokens ++ Fragment.tokensAll fs

end

theorem Fragment.tokensAll_append (a b : Code) :
    tokensAll (a ++ b) = tokensAll a ++ tokensAll b := by
  induction a with
  | nil => simp [tokensAll]
  | cons f a ih => simp [tokensAll, ih]

namespace Ty

/-- Where the type begins. -/
def start (t : Ty) : Origin :=
  startOf t.tokens

/-- The type in display form. -/
def display (t : Ty) : String :=
  Tree.displayAll t.tokens

end Ty

end SharedMembers
