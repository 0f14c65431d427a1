import SharedMembers.Directive.Problem

/-!
# Refusals

Why an input is refused, in words, with a hint for some causes and the place that is to blame.

* `Refusal.message`, `Refusal.help`: the words.
-/

namespace SharedMembers

/-- Why an input is refused. -/
inductive RefusalCause where
  /-- The list of a directive cannot be read. -/
  | directiveList (failure : Failure)
  /-- The entries of the directives are wrong. -/
  | directiveEntries (problems : List Problem)
  /-- A directive is given a value. -/
  | directiveValue
  | setterOnField
  | setterInputs
  | genericWrapper
  | emptyWrapper
  | discriminant
  | variantAttribute
  | variantFields
  | externalModule
  | noWrapper
  /-- A subtype is named by a path although the module defines it. -/
  | definedHere (name : String)
  /-- Two definitions have the same name. -/
  | definedTwice (name : String)
  /-- Two variants hold the same type. -/
  | heldTwice (key : String) (variant : String)
  | duplicateVariant (name : String)
  | wrapperOutsideModule
  | unsupported

namespace RefusalCause

/-- The cause in words. -/
def message : RefusalCause → String
  | directiveList f => f.message
  | directiveEntries ps => Problem.report ps
  | directiveValue => "Expected `#[superstruct(..)]`"
  | setterOnField => "`setter` only applies to methods"
  | setterInputs => "A setter takes exactly one argument"
  | genericWrapper => "Generic wrappers are not supported"
  | emptyWrapper => "A wrapper requires at least one subtype"
  | discriminant => "Discriminants are not supported"
  | variantAttribute => "Attributes on subtypes are not supported"
  | variantFields => "Expected a subtype name `Square` or a named subtype `Round(Circle)`"
  | externalModule => "`#[superstruct]` requires an inline module"
  | noWrapper => "Cannot find any `#[superstruct] enum` in the module"
  | definedHere name => "`" ++ name ++ "` is defined in this module"
  | definedTwice name => "The name `" ++ name ++ "` is defined twice"
  | heldTwice key variant => "`" ++ key ++ "` is already held by variant `" ++ variant ++ "`"
  | duplicateVariant name => "Duplicate variant `" ++ name ++ "`"
  | wrapperOutsideModule =>
    "A wrapper enum must be declared inside a module annotated with `#[superstruct]`"
  | unsupported => "This element is not supported"

/-- A hint on how to go on. -/
def help : RefusalCause → Option String
  | noWrapper => some "declare the wrapper as a `#[superstruct]` enum listing the subtypes"
  | definedHere name => some ("name the subtype as `" ++ name ++ "`")
  | wrapperOutsideModule =>
    some "subtype members are read from the structs and impls of that module"
  | _ => none

end RefusalCause

/-- A refusal: its cause and the place that is to blame. -/
structure Refusal where
  cause : RefusalCause
  origin : Origin

namespace Refusal

/-- The refusal in words. -/
def message (r : Refusal) : String := r.cause.message

/-- A hint on how to go on. -/
def help (r : Refusal) : Option String := r.cause.help

end Refusal

end SharedMembers
