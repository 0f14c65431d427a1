import SharedMembers.Type.Basic

/-!
# What a type mentions

A search through a type and everything in it: types, paths and lifetimes, in arguments, bounds and
the code of lengths and constants. Skipped tokens are not searched.

The model of `borrows` and `contains_impl_trait`.

* `Ty.mentions`: something in the type has what is searched for.
* `Ty.borrows`: the type mentions a borrow, a lifetime or an anonymous type.
* `Ty.mentionsImplTrait`: the type mentions an unnamed type given by its bounds.
* `Ty.mentionsSelf`: the type mentions a path that begins with `Self`.
-/

namespace SharedMembers

/-- What is searched for: types, paths, or any lifetime. -/
structure Search where
  type : Ty → Bool
  path : Path → Bool
  lifetime : Bool

namespace Search

mutual

/-- The search succeeds in a type. -/
def inType (s : Search) (t : Ty) : Bool :=
  s.type t || match t with
    | .path p => inPath s p
    | .reference _ lifetime _ referent => (s.lifetime && lifetime.isSome) || inType s referent
    | .pointer _ _ pointee => inType s pointee
    | .paren _ inner => inType s inner
    | .tuple _ elems _ => inTypes s elems
    | .array _ elem length => inType s elem || inCode s length
    | .slice _ elem => inType s elem
    | .never _ | .inferred _ | .unparsed _ => false
    | .function code | .traitObject code | .implTrait code => inCode s code
    | .invocation p code => inPath s p || inCode s code

/-- The search succeeds in one of the types. -/
def inTypes (s : Search) : List Ty → Bool
  | [] => false
  | t :: ts => inType s t || inTypes s ts

/-- The search succeeds in a path. -/
def inPath (s : Search) (p : Path) : Bool :=
  s.path p || match p with
    | .plain _ segments => inSegments s segments
    | .qualified _ self _ traitSegments rest =>
      inType s self || inSegments s traitSegments || inSegments s rest

/-- The search succeeds in a segment. -/
def inSegment (s : Search) : Segment → Bool
  | .plain _ => false
  | .generic _ _ args _ => inArguments s args

/-- The search succeeds in one of the segments. -/
def inSegments (s : Search) : List Segment → Bool
  | [] => false
  | g :: gs => inSegment s g || inSegments s gs

/-- The search succeeds in an argument. -/
def inArgument (s : Search) : Argument → Bool
  | .lifetime _ => s.lifetime
  | .type t => inType s t
  | .other code => inCode s code

/-- The search succeeds in one of the arguments. -/
def inArguments (s : Search) : List Argument → Bool
  | [] => false
  | a :: as => inArgument s a || inArguments s as

/-- The search succeeds in a piece of code. -/
def inFragment (s : Search) : Fragment → Bool
  | .tree t => s.lifetime && match t with
    | .lifetime .. => true
    | _ => false
  | .group _ _ _ body => inCode s body
  | .path p => inPath s p
  | .type t => inType s t
  | .skipped _ => false

/-- The search succeeds in code. -/
def inCode (s : Search) : List Fragment → Bool
  | [] => false
  | f :: fs => inFragment s f || inCode s fs

end

end Search

namespace Ty

/-- The type mentions something that is searched for. -/
def mentions (s : Search) (t : Ty) : Bool :=
  s.inType t

/-- The search for borrows: references, pointers, trait objects, types left open or given by
bounds, and lifetimes. -/
def borrowSearch : Search where
  type
    | .reference .. | .pointer .. | .traitObject _ | .implTrait _ | .inferred _ => true
    | _ => false
  path _ := false
  lifetime := true

/-- The type mentions a borrow, a lifetime or an anonymous type. -/
def borrows (t : Ty) : Bool :=
  t.mentions borrowSearch

/-- The search for types given by bounds. -/
def implTraitSearch : Search where
  type
    | .implTrait _ => true
    | _ => false
  path _ := false
  lifetime := false

/-- The type mentions an unnamed type given by its bounds (`contains_impl_trait`). -/
def mentionsImplTrait (t : Ty) : Bool :=
  t.mentions implTraitSearch

/-- The search for paths that begin with `Self`. -/
def selfSearch : Search where
  type _ := false
  path p := p.first?.any fun s => s.ident.name == "Self"
  lifetime := false

/-- The type mentions a path that begins with `Self`. -/
def mentionsSelf (t : Ty) : Bool :=
  t.mentions selfSearch

end Ty

end SharedMembers
