import SharedMembers.Emission.Accessor
import SharedMembers.Emission.Store
import SharedMembers.Member.Collect
import SharedMembers.Wrapper.Registry

/-!
# Expansion

A module with wrappers is expanded: the wrappers are taken out, the members of the other items are
collected, and behind these items comes what is generated for the wrappers.

The model of `expand_module` and `inner`.

* `Module.expand`: the expansion of a module.
* `expandTokens`: the expansion of tokens, which have to be a module.
* `Expansion.tokens`: the module that results.
-/

namespace SharedMembers

/-- Why there is no expansion. -/
inductive ExpansionError where
  | refused (r : Refusal)
  /-- What was to be generated cannot be written. -/
  | unwritable (u : Unwritable)

/-- The expansion of a module: the items that are kept, the wrappers, and the warnings. -/
structure Expansion where
  module : Module
  kept : List Item
  library : Path
  wrappers : List Registry.Forwarded
  warnings : List Warning

namespace Expansion

/-- What is generated. -/
def generated (e : Expansion) : List Tree :=
  e.wrappers.flatMap fun f =>
    storeTokens e.library f.wrapper ++ accessorImpl f.wrapper.ident f.accessors

/-- The module that results. -/
def tokens (e : Expansion) : List Tree :=
  e.module.tokensWith (e.kept.flatMap Item.tokens ++ e.generated)

end Expansion

/-! ## Taking wrappers out -/

/-- The wrapper that an item declares, or the item if it declares none. -/
def declaredOrKept : Item → Except Refusal (Wrapper ⊕ Item)
  | .enum e => do
    match ← WrapperArguments.take e.attributes with
    | (some args, rest) => return .inl (← Wrapper.ofEnum { e with attributes := rest } args)
    | (none, _) => return .inr (.enum e)
  | item => .ok (.inr item)

/-- The wrappers that items declare, and the other items. -/
def takeWrappers (items : List Item) : Except Refusal (List Wrapper × List Item) := do
  let parts ← items.mapM declaredOrKept
  return (parts.filterMap Sum.getLeft?, parts.filterMap Sum.getRight?)

/-! ## Checks -/

/-- A subtype that is named by a path, by the last name of which the module defines a type. -/
def definedHere? (c : Catalogue) : Ty → Option Ident
  | .path (.plain leading segments) =>
    if 1 < segments.length || leading.isSome then
      (segments.getLast?.map Segment.ident).filter fun i => (c.find? i.name).isSome
    else none
  | _ => none

/-- The types that the module defines have to be named plainly. -/
def checkSubtypes (c : Catalogue) (wrappers : List Wrapper) : Except Refusal Unit :=
  let found := (wrappers.flatMap Wrapper.types).findSome? fun t => (definedHere? c t).map (t, ·)
  match found with
  | some (t, i) => .error ⟨.definedHere i.name, t.start⟩
  | none => .ok ()

/-- The names that are taken after the wrappers are named; no name may be taken twice. -/
def takeNames (taken : List String) : List Wrapper → Except Refusal (List String)
  | [] => .ok taken
  | w :: ws =>
    if taken.contains w.ident.name then .error ⟨.definedTwice w.ident.name, w.ident.origin⟩
    else takeNames (w.ident.name :: taken) ws

/-- The names of the types and traits that items define. -/
def definedNames (items : List Item) : List String :=
  items.filterMap fun i => i.definedName?.map Ident.name

/-! ## The expansion -/

/-- The path of the library whose traits the wrappers implement, if no other is given. -/
def defaultLibrary : Path :=
  .plain (some none) [.plain (.generated directiveName)]

namespace Module

/-- The items, wrappers and names of a module, all of them checked (`expand_module` up to
`declare`). -/
def prepare (m : Module) : Except Refusal (Catalogue × List Item × Registry) := do
  match m.items with
  | none => throw ⟨.externalModule, m.start⟩
  | some items =>
    let (wrappers, others) ← takeWrappers items
    if wrappers.isEmpty then throw ⟨.noWrapper, m.start⟩
    let (catalogue, kept) ← collect others
    checkSubtypes catalogue wrappers
    let taken ← takeNames (definedNames kept) wrappers
    return (catalogue, kept, ← (Registry.new taken).declareAll wrappers)

/-- The expansion of a module (`expand_module`). -/
def expand (library : Path) (m : Module) : Except ExpansionError Expansion :=
  match m.prepare with
  | .error r => .error (.refused r)
  | .ok (catalogue, kept, registry) =>
    match registry.expand catalogue with
    | .error u => .error (.unwritable u)
    | .ok (wrappers, warnings) => .ok ⟨m, kept, library, wrappers, warnings⟩

end Module

/-- The expansion of tokens, which have to be a module (`inner`). -/
def expandTokens (library : Path) (tokens : List Tree) : Except ExpansionError Expansion :=
  match Module.ofTokens tokens with
  | .ok m => m.expand library
  | .error _ =>
    match EnumItem.ofTokens tokens with
    | .ok e => .error (.refused ⟨.wrapperOutsideModule, e.ident.origin⟩)
    | .error _ => .error (.refused ⟨.unsupported, startOf tokens⟩)

/-! ## Arguments -/

namespace Grammar

open SharedMembers.Parser

/-- The arguments of an expansion: nothing, or the path of the library. -/
def expansionArguments (g : Grammar) : Parser (Option Path) := do
  if (← get).atWord "crate" then
    let _ ← wordAt "crate"
    let _ ← markAt "="
    return some (← path false g)
  return none

end Grammar

/-- The library that the arguments of an expansion name. -/
def libraryOf (tokens : List Tree) : Except Failure Path :=
  (Grammar.read Grammar.expansionArguments tokens).map (·.getD defaultLibrary)

end SharedMembers
