import SharedMembers.Type.Basic
import SharedMembers.Token.Literal
import SharedMembers.Text.CamelCase

/-!
# Names of variants

A variant that holds a type is named after it: the last name of a path and its type arguments, the
elements of a tuple, the element and length of an array.

The model of `variant_name`.

* `Ty.variantName_ofIdent`: a plain name in camel case.
* `Ty.variantName_unit`: the unit type.
-/

namespace SharedMembers

/-- Code without the attributes in front of it. -/
def withoutAttributes : Code → Code
  | .tree (.punct '#' _ _) :: .group .bracket _ _ _ :: rest => withoutAttributes rest
  | code => code

/-- The decimal digits of code that is a whole number, and nothing for other code. -/
def lengthDigits (length : Code) : String :=
  match withoutAttributes length with
  | [.tree (.literal text _)] => ((Literal.wholeNumber? text).map fun (n, _) => toString n).getD ""
  | _ => ""

mutual

/-- The name of a variant that holds the type (`variant_name`). -/
def Ty.variantName : Ty → String
  | .path p => p.variantName
  | .tuple _ elems _ => if elems.isEmpty then "Unit" else Ty.variantNames elems
  | .array _ elem length => elem.variantName ++ "Array" ++ lengthDigits length
  | .slice _ elem => elem.variantName ++ "Slice"
  | .paren _ inner => inner.variantName
  | _ => "Value"

/-- The names for the types, one behind the other. -/
def Ty.variantNames : List Ty → String
  | [] => ""
  | t :: ts => t.variantName ++ Ty.variantNames ts

/-- The name for the last segment of a path. -/
def Path.variantName : Path → String
  | .plain _ segments => Segment.lastVariantName segments
  | .qualified _ _ _ _ rest => Segment.lastVariantName rest

/-- The name for a segment: its own name, then those of its type arguments. -/
def Segment.variantName : Segment → String
  | .plain i => Text.camel i.name
  | .generic i _ args _ => Text.camel i.name ++ Argument.variantNames args

/-- The name for the last of the segments. -/
def Segment.lastVariantName : List Segment → String
  | [] => ""
  | [s] => s.variantName
  | _ :: ss => Segment.lastVariantName ss

/-- The name for an argument; only types have one. -/
def Argument.variantName : Argument → String
  | .type t => t.variantName
  | _ => ""

/-- The names for the arguments, one behind the other. -/
def Argument.variantNames : List Argument → String
  | [] => ""
  | a :: as => a.variantName ++ Argument.variantNames as

end

theorem Ty.variantName_ofIdent (i : Ident) : (Ty.ofIdent i).variantName = Text.camel i.name := by
  simp [Ty.ofIdent, Path.ofIdent, Ty.variantName, Path.variantName, Segment.lastVariantName,
    Segment.variantName]

theorem Ty.variantName_unit (o : Origin) (trailing : Bool) :
    (Ty.tuple o [] trailing).variantName = "Unit" := by
  simp [Ty.variantName]

end SharedMembers
