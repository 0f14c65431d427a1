import SharedMembers.Emission.Template
import SharedMembers.Wrapper.Accessor

/-!
# The text of accessors

An accessor matches on the wrapper's active variant. Each arm uses the member of its subtype:
arguments are converted into the types that the subtype declares, and the result into the type that
the accessor returns.

The model of `arm_expr`, `dispatch` and `emit` of an `Accessor`.

* `Use`, `Arm.ofSignature`: what an arm does with the member, before it is written.
* `Accessor.tokens`: an accessor.
* `accessorImpl`: all accessors of a wrapper.
-/

namespace SharedMembers

/-! ## Arms -/

/-- An argument that is passed on. -/
inductive Passed where
  /-- The argument is converted from a parameter's type into the declared type. -/
  | converted (name parameter : Ident) (type : Ty)
  | unchanged (name : Ident)

/-- What an arm does with the member of its subtype. -/
inductive Use where
  /-- The field is read by reference. -/
  | borrowed (field : Ident)
  /-- The field is cloned. -/
  | cloned (field : Ident)
  /-- The field is set. -/
  | assigned (field : Ident) (value : List Passed)
  /-- The method is called. -/
  | called (method : Ident) (args : List Passed)

/-- An arm: the variant, what is done with its value, and the type into which the result is
converted, if it is. -/
structure Arm where
  variant : Ident
  use : Use
  result : Option Ty

/-- The arguments that are passed on to a subtype which declares the types. -/
def passedArguments (names : List Ident) (slots : List Slot) (types : List Ty) : List Passed :=
  ((names.zip slots).zip types).map fun ((name, slot), type) =>
    match slot with
    | .convertible parameter _ => .converted name parameter type
    | .exact _ => .unchanged name

namespace Use

/-- The arm reads a field by reference. -/
def isBorrowed : Use → Bool
  | borrowed _ => true
  | _ => false

/-- What an arm does with the member that has the signature. -/
def ofSignature (names : List Ident) (slots : List Slot) (byReference : Bool) (s : Signature) :
    Use :=
  let args := passedArguments names slots s.inputs
  match s.target with
  | .field f =>
    if args.isEmpty then if byReference then .borrowed f else .cloned f else .assigned f args
  | .method m => .called m args

end Use

/-- The arm for a variant whose subtype provides the member by the signature (`arm_expr`). A result
is converted unless it has the output's type already. -/
def Arm.ofSignature (names : List Ident) (slots : List Slot) (output : Option Ty)
    (byReference : Bool) (variant : Ident) (s : Signature) : Arm :=
  let use := Use.ofSignature names slots byReference s
  let result := match output, s.output with
    | some t, some own => if use.isBorrowed || t.key = own.key then none else some t
    | _, _ => none
  ⟨variant, use, result⟩

namespace Accessor

/-- The arms of the accessor as they are written. -/
def matchArms (a : Accessor) : List Arm :=
  a.arms.map fun (variant, s) =>
    Arm.ofSignature a.names a.slots a.output a.byReference variant s

end Accessor

/-! ## Text -/

namespace Emission

/-- The name of the active value (`value_ident`). -/
def activeValue : Ident := .generated "__superstruct_value"

/-- An argument that is passed on. -/
def passed : Passed → List Tree
  | .converted name parameter type =>
    angles (named parameter ++ spell "as" ++ intoTrait type) ++ spell ":: into" ++
      parens (named name)
  | .unchanged name => named name

/-- The member of the active value. -/
def ofActive (member : Ident) : List Tree :=
  named activeValue ++ spell "." ++ named member

/-- The use of a member. -/
def use : Use → List Tree
  | .borrowed field => spell "&" ++ ofActive field
  | .cloned field => core "clone :: Clone :: clone" ++ parens (spell "&" ++ ofActive field)
  | .assigned field value =>
    braces (ofActive field ++ spell "=" ++ value.flatMap passed ++ spell ";")
  | .called method args => ofActive method ++ parens (commas (args.map passed))

/-- What an arm gives (the text that `arm_expr` writes). -/
def armValue (a : Arm) : List Tree :=
  match a.result with
  | some t => core "convert :: Into ::" ++ angles t.tokens ++ spell ":: into" ++ parens (use a.use)
  | none => use a.use

/-- An arm (the text that `dispatch` writes for it). -/
def arm (a : Arm) : List Tree :=
  spell "Self ::" ++ named a.variant ++ parens (named activeValue) ++ spell "=>" ++ armValue a ++
    spell ","

/-- The documentation of an accessor (`doc`). -/
def accessorDocumentation (k : Key) : String :=
  match k.shape with
  | .read => "Reads `" ++ k.name ++ "` from the active subtype."
  | .write =>
    "Sets `" ++ k.name ++ "` on the active subtype. The value must convert into the type every " ++
      "subtype declares."
  | .call _ => "Calls `" ++ k.name ++ "` on the active subtype."

/-- A type parameter and what it has to convert into. -/
def predicate (parameter : Ident) (bounds : List Ty) : List Tree :=
  named parameter ++ spell ":" ++ joined (spell "+") (bounds.map intoTrait)

/-- The type parameters of an accessor with their bounds. -/
def parameters (slots : List Slot) : List (Ident × List Ty) :=
  slots.filterMap fun
    | .convertible parameter bounds => some (parameter, bounds)
    | .exact _ => none

/-- A receiver. -/
def ownInput : Receiver → List Tree
  | .shared => spell "& self"
  | .mutable => spell "& mut self"
  | .owned => spell "self"

end Emission

open Emission in
/-- The text of an accessor (`emit`). -/
def Accessor.tokens (a : Accessor) : List Tree :=
  let generic := parameters a.slots
  documentation (accessorDocumentation a.key) ++ attributed (spell "inline") ++
    Fragment.tokensAll a.visibility.code ++ spell "fn" ++
    named (.generated a.key.accessorName) ++
    (if generic.isEmpty then [] else angles (commas (generic.map fun (p, _) => named p))) ++
    parens (ownInput a.receiver ++ (a.names.zip a.slots).flatMap fun (name, slot) =>
      spell "," ++ named name ++ spell ":" ++ slot.type.tokens) ++
    (match a.output with
      | some t => spell "->" ++ t.tokens
      | none => []) ++
    (if generic.isEmpty then []
      else spell "where" ++ commas (generic.map fun (p, bounds) => predicate p bounds)) ++
    braces (spell "match self" ++ braces (a.matchArms.flatMap arm))

open Emission in
/-- The text of the accessors of a wrapper; nothing if there are none (the end of `synthesize`). -/
def accessorImpl (wrapper : Ident) (accessors : List Accessor) : List Tree :=
  if accessors.isEmpty then []
  else
    attributeWith "allow" "dead_code" ++ spell "impl" ++ named wrapper ++
      braces (accessors.flatMap Accessor.tokens)

end SharedMembers
