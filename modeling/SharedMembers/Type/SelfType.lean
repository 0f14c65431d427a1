import SharedMembers.Type.Basic

/-!
# Naming `Self`

Inside the definition of a type, `Self` stands for it. Outside, the type has to be named: in every
path that begins with `Self`, at any depth, that first name is replaced. Skipped tokens stay.

The model of `substitute_self`.

* `Ty.withSelf`: the type with `Self` replaced by a name.
* `Segment.ident_namingSelf`: what becomes of the first name.
-/

namespace SharedMembers

/-- The segment with the name in the place of `Self`. -/
def Segment.namingSelf (name : Ident) (s : Segment) : Segment :=
  if s.ident.name = "Self" then s.withIdent name else s

/-- The segments with the name in the place of `Self` in front. -/
def namingFirst (name : Ident) : List Segment → List Segment
  | [] => []
  | s :: ss => s.namingSelf name :: ss

mutual

/-- The type with the name in the place of `Self` (`substitute_self`). -/
def Ty.withSelf (name : Ident) : Ty → Ty
  | .path p => .path (p.withSelf name)
  | .reference o lifetime mutable referent => .reference o lifetime mutable (referent.withSelf name)
  | .pointer o mutable pointee => .pointer o mutable (pointee.withSelf name)
  | .paren o inner => .paren o (inner.withSelf name)
  | .tuple o elems trailing => .tuple o (Ty.withSelfEach name elems) trailing
  | .array o elem length => .array o (elem.withSelf name) (Fragment.withSelfAll name length)
  | .slice o elem => .slice o (elem.withSelf name)
  | .never o => .never o
  | .inferred o => .inferred o
  | .function code => .function (Fragment.withSelfAll name code)
  | .traitObject code => .traitObject (Fragment.withSelfAll name code)
  | .implTrait code => .implTrait (Fragment.withSelfAll name code)
  | .invocation p code => .invocation (p.withSelf name) (Fragment.withSelfAll name code)
  | .unparsed tokens => .unparsed tokens

/-- Each type with the name in the place of `Self`. -/
def Ty.withSelfEach (name : Ident) : List Ty → List Ty
  | [] => []
  | t :: ts => t.withSelf name :: Ty.withSelfEach name ts

/-- The path with the name in the place of `Self`. -/
def Path.withSelf (name : Ident) : Path → Path
  | .plain leading segments =>
    .plain leading (namingFirst name (Segment.withSelfEach name segments))
  | .qualified o self leading traitSegments rest =>
    let traitSegments' := Segment.withSelfEach name traitSegments
    let rest' := Segment.withSelfEach name rest
    .qualified o (self.withSelf name) leading (namingFirst name traitSegments')
      (if traitSegments.isEmpty then namingFirst name rest' else rest')

/-- The segment with the name in the place of `Self` in its arguments. -/
def Segment.withSelf (name : Ident) : Segment → Segment
  | .plain i => .plain i
  | .generic i colons args trailing =>
    .generic i colons (Argument.withSelfEach name args) trailing

/-- Each segment with the name in the place of `Self` in its arguments. -/
def Segment.withSelfEach (name : Ident) : List Segment → List Segment
  | [] => []
  | s :: ss => s.withSelf name :: Segment.withSelfEach name ss

/-- The argument with the name in the place of `Self`. -/
def Argument.withSelf (name : Ident) : Argument → Argument
  | .lifetime i => .lifetime i
  | .type t => .type (t.withSelf name)
  | .other code => .other (Fragment.withSelfAll name code)

/-- Each argument with the name in the place of `Self`. -/
def Argument.withSelfEach (name : Ident) : List Argument → List Argument
  | [] => []
  | a :: as => a.withSelf name :: Argument.withSelfEach name as

/-- The piece of code with the name in the place of `Self`. -/
def Fragment.withSelf (name : Ident) : Fragment → Fragment
  | .tree t => .tree t
  | .group d opened closed body => .group d opened closed (Fragment.withSelfAll name body)
  | .path p => .path (p.withSelf name)
  | .type t => .type (t.withSelf name)
  | .skipped ts => .skipped ts

/-- The code with the name in the place of `Self`. -/
def Fragment.withSelfAll (name : Ident) : List Fragment → List Fragment
  | [] => []
  | f :: fs => f.withSelf name :: Fragment.withSelfAll name fs

end

theorem Segment.ident_namingSelf (name : Ident) (s : Segment) :
    (s.namingSelf name).ident = if s.ident.name = "Self" then name else s.ident := by
  unfold namingSelf
  split <;> cases s <;> rfl

end SharedMembers
