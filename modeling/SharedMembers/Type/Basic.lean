import SharedMembers.Token.Basic

/-!
# Types

The types of the modules that are worked on, as they were written. Types, paths and the code that
stands inside types (array lengths, constant arguments) refer to one another; code is kept as a
run of fragments in which paths and types are understood and all else is tokens.

* `Path.ident?`: the path is one plain name.
* `Path.segments`, `Path.first?`: what a path consists of, and how it begins.
-/

namespace SharedMembers

/-- A name and where it was written. A raw name keeps its `r#`. -/
structure Ident where
  name : String
  origin : Origin
deriving Repr, DecidableEq

/-- A name that was made up. -/
def Ident.generated (name : String) : Ident :=
  ⟨name, none⟩

mutual

/-- A type. -/
inductive Ty where
  /-- A named type. -/
  | path (path : Path)
  /-- A reference, shared or mutable. -/
  | reference (origin : Origin) (lifetime : Option Ident) (mutable : Bool) (referent : Ty)
  /-- A raw pointer. -/
  | pointer (origin : Origin) (mutable : Bool) (pointee : Ty)
  /-- A type in parentheses. -/
  | paren (origin : Origin) (inner : Ty)
  /-- A tuple; without elements it is the unit type. -/
  | tuple (origin : Origin) (elems : List Ty) (trailing : Bool)
  /-- An array with its length. -/
  | array (origin : Origin) (elem : Ty) (length : List Fragment)
  /-- A slice. -/
  | slice (origin : Origin) (elem : Ty)
  /-- The type without values. -/
  | never (origin : Origin)
  /-- A type that is left open. -/
  | inferred (origin : Origin)
  /-- A function pointer. -/
  | function (code : List Fragment)
  /-- A trait object, with or without its keyword. -/
  | traitObject (code : List Fragment)
  /-- An unnamed type with the given bounds. -/
  | implTrait (code : List Fragment)
  /-- The call of a macro in the place of a type. -/
  | invocation (path : Path) (code : List Fragment)
  /-- Another type, of which only the tokens are known. -/
  | unparsed (tokens : List Tree)

/-- A path. A qualified one begins with a type in angle brackets, which may be seen as a trait's
implementor; the segments of the trait stand inside the brackets. `leading` is there when the path
begins with a double colon. -/
inductive Path where
  | plain (leading : Option Origin) (segments : List Segment)
  | qualified (origin : Origin) (self : Ty) (leading : Option Origin) (traitSegments : List Segment)
      (rest : List Segment)

/-- A segment of a path. The arguments' list may be introduced by a double colon and may end in a
comma. -/
inductive Segment where
  | plain (ident : Ident)
  | generic (ident : Ident) (colons : Bool) (args : List Argument) (trailing : Bool)

/-- An argument in angle brackets: a lifetime, a type, or a constant or constraint. -/
inductive Argument where
  | lifetime (ident : Ident)
  | type (type : Ty)
  | other (code : List Fragment)

/-- A piece of code. The tokens of a skipped piece belong to a macro or an attribute and are not
understood. -/
inductive Fragment where
  | tree (tree : Tree)
  | group (delimiter : Delimiter) (opened closed : Origin) (body : List Fragment)
  | path (path : Path)
  | type (type : Ty)
  | skipped (tokens : List Tree)

end

/-- Code: types and paths are understood, all else is tokens. -/
abbrev Code := List Fragment

namespace Fragment

/-- The piece is a plus sign. -/
def isPlus : Fragment → Bool
  | tree t => t.isPlus
  | _ => false

end Fragment

namespace Segment

/-- The name of the segment. -/
def ident : Segment → Ident
  | plain i | generic i _ _ _ => i

/-- The segment with another name. -/
def withIdent (i : Ident) : Segment → Segment
  | plain _ => plain i
  | generic _ colons args trailing => generic i colons args trailing

/-- The segment has no list of arguments. -/
def isPlain : Segment → Bool
  | plain _ => true
  | generic .. => false

/-- The arguments of the segment. -/
def args : Segment → List Argument
  | plain _ => []
  | generic _ _ args _ => args

end Segment

namespace Path

/-- All segments, those of the trait first. -/
def segments : Path → List Segment
  | plain _ segments => segments
  | qualified _ _ _ traitSegments rest => traitSegments ++ rest

/-- The first segment. -/
def first? (p : Path) : Option Segment :=
  p.segments.head?

/-- The last segment. -/
def last? (p : Path) : Option Segment :=
  p.segments.getLast?

/-- The path is not qualified and no segment has arguments. -/
def isSimple : Path → Bool
  | plain _ segments => segments.all Segment.isPlain
  | qualified .. => false

/-- The name that the path consists of, if it is one name without arguments. -/
def ident? : Path → Option Ident
  | plain none [.plain i] => some i
  | _ => none

/-- The path is the plain name. -/
def isIdent (p : Path) (name : String) : Bool :=
  p.ident?.any (·.name == name)

/-- The path of one name. -/
def ofIdent (i : Ident) : Path :=
  plain none [.plain i]

theorem ident?_ofIdent (i : Ident) : (ofIdent i).ident? = some i := rfl

end Path

namespace Ty

/-- The type with a plain name. -/
def ofIdent (i : Ident) : Ty :=
  path (.ofIdent i)

/-- The unit type. -/
def isUnit : Ty → Bool
  | tuple _ [] _ => true
  | _ => false

/-- The type is written as several bounds with plus signs behind them. It can stand behind a
reference sign only in parentheses. -/
def isSum : Ty → Bool
  | traitObject code | implTrait code => code.any Fragment.isPlus
  | unparsed tokens => tokens.any Tree.isPlus
  | _ => false

end Ty

end SharedMembers
