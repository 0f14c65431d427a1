import SharedMembers.Directive.Arguments
import SharedMembers.Item.Code
import SharedMembers.Type.Key

/-!
# Wrappers

A wrapper is an enum that holds a value of one of its subtypes. It is declared as an enum whose
variants name the subtypes, or made up to hold the values that a member returns.

The model of `WrapperDef`, `wrapper_of_enum` and the checks of `declare`.

* `Wrapper.ofEnum`: the wrapper that an enum declares, or why it cannot be one.
* `Wrapper.setKey`: the set of subtypes, by which wrappers are told apart.
* `Wrapper.check`: no type and no variant name occurs twice.
-/

namespace SharedMembers

/-- A wrapper: its variants with the subtypes that they hold (`WrapperDef`). A nested wrapper has an
owner, the wrapper and the member it was made for. -/
structure Wrapper where
  ident : Ident
  visibility : Visibility
  attributes : List Attribute
  variants : List (Ident × Ty)
  nestedDerive : List Path
  owner : Option (Ident × String)

/-- Puts a text into ordered texts, in front of the first that does not come before it. -/
def insertText (text : String) : List String → List String
  | [] => [text]
  | t :: ts => if text ≤ t then text :: t :: ts else t :: insertText text ts

/-- Texts in order. -/
def sortedTexts (texts : List String) : List String :=
  texts.foldr insertText []

/-- The keys of the types in order: what the types are as a set, if their keys are different. -/
def setKeyOf (types : List Ty) : List String :=
  sortedTexts (types.map Ty.key)

namespace Wrapper

/-- The subtypes. -/
def types (w : Wrapper) : List Ty :=
  w.variants.map (·.2)

/-- The set of subtypes (`set_key`). -/
def setKey (w : Wrapper) : List String :=
  setKeyOf w.types

/-! ## Declared wrappers -/

/-- The name and the subtype of a variant: a name alone, or a name with one type behind it. -/
def variantOf (v : Variant) : Except Refusal (Ident × Ty) :=
  match v.discriminant, v.attributes with
  | some code, _ => .error ⟨.discriminant, startOf (Fragment.tokensAll code)⟩
  | none, a :: _ => .error ⟨.variantAttribute, a.origin⟩
  | none, [] =>
    match v.fields with
    | .unit => .ok (v.ident, .ofIdent v.ident)
    | .positional _ [f] _ => .ok (v.ident, f.type.normal)
    | .positional opened _ _ | .named opened _ _ => .error ⟨.variantFields, opened⟩

/-- The wrapper that an enum declares (`wrapper_of_enum`). -/
def ofEnum (e : EnumItem) (args : WrapperArguments) : Except Refusal Wrapper :=
  if !e.generics.parameters.isEmpty || e.generics.conditions.isSome then
    .error ⟨.genericWrapper, startOf (Fragment.tokensAll e.generics.listCode)⟩
  else if e.variants.isEmpty then .error ⟨.emptyWrapper, e.start⟩
  else
    (e.variants.mapM variantOf).map fun variants =>
      ⟨e.ident, e.visibility, e.attributes, variants, args.nestedDerive, none⟩

/-! ## Checks -/

/-- The first variant whose type is held by an earlier one, and that one. -/
def heldTwice? (seen : List (Ident × Ty)) : List (Ident × Ty) → Option (Ident × Ty)
  | [] => none
  | (variant, type) :: rest =>
    match seen.find? fun (_, t) => t.key == type.key with
    | some (earlier, _) => some (earlier, type)
    | none => heldTwice? ((variant, type) :: seen) rest

/-- The first variant whose name an earlier one has. -/
def namedTwice? (seen : List String) : List (Ident × Ty) → Option Ident
  | [] => none
  | (variant, _) :: rest =>
    if seen.contains variant.name then some variant else namedTwice? (variant.name :: seen) rest

/-- A wrapper in which a type or the name of a variant occurs twice is refused. -/
def check (w : Wrapper) : Except Refusal Unit :=
  match heldTwice? [] w.variants with
  | some (earlier, type) => .error ⟨.heldTwice type.key earlier.name, type.start⟩
  | none =>
    match namedTwice? [] w.variants with
    | some variant => .error ⟨.duplicateVariant variant.name, variant.origin⟩
    | none => .ok ()

end Wrapper

end SharedMembers
