import SharedMembers.Member.Catalogue
import SharedMembers.Directive.Arguments
import SharedMembers.Item.Code
import SharedMembers.Type.Mention
import SharedMembers.Type.SelfType

/-!
# Collecting members

The members of a module's types are read off its items: first the fields of structs, then the
methods of implementations. The directives on them are taken off on the way. Of two fields with the
same name the first counts, of two methods the last, and a method counts more than a field.

The model of `collect` with `add_field`, `add_method`, `output_of` and `derives_clone`.

* `Key.ofMethod`: the key under which a method is entered.
* `Field.entries`, `Method.entry?`: what a field and a method contribute.
* `collect`: the catalogue of a module's items, and the items without their directives.
-/

namespace SharedMembers

/-! ## Names -/

/-- The name with two underscores in front belongs to nobody's interface. -/
def isHidden (name : String) : Bool :=
  match name.toList with
  | '_' :: '_' :: _ => true
  | _ => false

/-- What follows `set_` in a name, if anything does. -/
def behindSet? (name : String) : Option String :=
  match name.toList with
  | 's' :: 'e' :: 't' :: '_' :: c :: cs => some (String.ofList (c :: cs))
  | _ => none

/-- The key of a method with so many arguments: without arguments it is read, and with one argument
and `set_` in front of its name it is written (the last `match` of `add_method`). -/
def Key.ofMethod (name : String) (inputs : Nat) : Key :=
  match inputs with
  | 0 => ⟨name, .read⟩
  | 1 =>
    match behindSet? name with
    | some field => ⟨field, .write⟩
    | none => ⟨name, .call 1⟩
  | n => ⟨name, .call n⟩

/-! ## Fields -/

namespace Field

/-- The two members that a field of the type `self` contributes: it can be read and written
(`add_field`). -/
def entries (self : Ident) (args : MemberArguments) (f : Field) : List (Key × Signature) :=
  match f.name with
  | none => []
  | some ident =>
    let name := (args.rename.getD ident).name
    if args.skip || !f.visibility.isShared || isHidden name then []
    else
      let type := f.type.withSelf self
      [(⟨name, .read⟩, ⟨.shared, .field ident, [], [], some type⟩),
       (⟨name, .write⟩, ⟨.mutable, .field ident, [.generated "value"], [type], none⟩)]

/-- Takes the directives off a field. -/
def take (f : Field) : Except Refusal (MemberArguments × Field) := do
  let (args, rest) ← MemberArguments.take f.attributes
  match args.setter with
  | some setter => .error ⟨.setterOnField, setter.origin⟩
  | none => return (args, { f with attributes := rest })

end Field

/-- Enters members of which the first of each key counts (`or_insert_with`). -/
def Table.addNew (entries : List (Key × Signature)) (t : Table) : Table :=
  entries.foldl (fun t (k, s) => t.putNew k s) t

/-- Enters members of which the last of each key counts (`insert`). -/
def Table.addAll (entries : List (Key × Signature)) (t : Table) : Table :=
  entries.foldl (fun t (k, s) => t.put k s) t

/-- The attributes derive `Clone` or `Copy` (`derives_clone`). -/
def deriveClone (attributes : List Attribute) : Bool :=
  attributes.any fun a =>
    a.isNamed "derive" && match a.arguments with
      | .list _ _ _ tokens =>
        match Path.listOfTokens tokens with
        | .ok paths =>
          paths.any fun p => p.last?.any fun s => s.ident.name == "Clone" || s.ident.name == "Copy"
        | .error _ => false
      | _ => false

namespace StructItem

/-- Takes the directives off the fields of a struct; gives the members that they contribute. -/
def collect (s : StructItem) : Except Refusal (Table × StructItem) := do
  match s.fields with
  | .named opened fields trailing =>
    let taken ← fields.mapM Field.take
    let entries := taken.flatMap fun (args, f) => f.entries s.ident args
    return (Table.addNew entries [],
      { s with fields := .named opened (taken.map (·.2)) trailing })
  | _ => return ([], s)

end StructItem

/-! ## Methods -/

namespace SelfInput

/-- The receiver that the input stands for, if it is a plain one. -/
def receiver? (i : SelfInput) : Option Receiver :=
  match i.type, i.reference with
  | some _, _ => none
  | none, some (_, some _) => none
  | none, some (_, none) => some (if i.mutable then .mutable else .shared)
  | none, none => some .owned

end SelfInput

namespace FnHead

/-- The receiver of a method, if it is a plain one. -/
def receiver? (h : FnHead) : Option Receiver :=
  match h.inputs with
  | .self i :: _ => i.receiver?
  | _ => none

/-- The function can be called like any other: it is not asynchronous, unchecked or foreign, and
neither its types nor the number of its inputs are left open (the first check of `add_method`). -/
def isOrdinary (h : FnHead) : Bool :=
  h.asynchronous.isNone && h.unchecked.isNone && h.foreign.isNone && h.variadic.isNone &&
    h.generics.parameters.isEmpty

/-- The name of an argument: the one that is bound, or else one by its number. -/
def argumentName (n : Nat) (p : Pattern) : Ident :=
  match p.binding with
  | some i => if i.name = "self" then .generated ("arg" ++ toString n) else i
  | none => .generated ("arg" ++ toString n)

/-- The names and types of the arguments from the `n`th on, if all types are given. -/
def arguments? (self : Ident) : (n : Nat) → List FnInput → Option (List (Ident × Ty))
  | _, [] => some []
  | n, .typed _ pattern type :: rest =>
    if type.mentionsImplTrait then none
    else (arguments? self (n + 1) rest).map ((argumentName n pattern, type.withSelf self) :: ·)
  | _, .self _ :: _ => none

/-- What the function gives, if its type is given; none inside stands for nothing (`output_of` and
`substitute_self`). -/
def output? (self : Ident) (h : FnHead) : Option (Option Ty) :=
  match h.output with
  | none => some none
  | some t =>
    if t.isUnit then some none
    else if t.mentionsImplTrait then none
    else some (some (t.withSelf self))

/-- The signature by which the type `self` provides the method as a member, if it does (`add_method`
up to the key). -/
def signature? (self : Ident) (h : FnHead) : Option Signature :=
  if h.isOrdinary then
    h.receiver?.bind fun receiver =>
      (arguments? self 0 h.inputs.tail).bind fun args =>
        (h.output? self).map fun output =>
          ⟨receiver, .method h.ident, args.map (·.1), args.map (·.2), output⟩
  else none

end FnHead

namespace Method

/-- The member that a method contributes to the type `self`, if any (`add_method`). -/
def entry? (self : Ident) (args : MemberArguments) (m : Method) :
    Except Refusal (Option (Key × Signature)) :=
  if args.skip || !m.visibility.isShared then .ok none
  else
    match m.head.signature? self with
    | none => .ok none
    | some s =>
      let entered := fun (k : Key) => .ok (if isHidden k.name then none else some (k, s))
      match args.setter with
      | some setter =>
        if s.inputs.length = 1 then entered ⟨setter.name, .write⟩
        else .error ⟨.setterInputs, m.head.start⟩
      | none => entered (Key.ofMethod (args.rename.getD m.head.ident).name s.inputs.length)

end Method

namespace ImplMember

/-- Takes the directives off a member; gives what it contributes to the type `self?`. -/
def collect (self? : Option Ident) :
    ImplMember → Except Refusal (Option (Key × Signature) × ImplMember)
  | other code => .ok (none, other code)
  | method m => do
    let (args, rest) ← MemberArguments.take m.attributes
    let entry ← match self? with
      | some self => m.entry? self args
      | none => pure none
    return (entry, method { m with attributes := rest })

end ImplMember

namespace ImplItem

/-- The type whose own methods the implementation holds, if it is written as a plain name. -/
def ownType? (i : ImplItem) : Option Ident :=
  match i.trait, i.self with
  | none, .path p => if i.generics.parameters.isEmpty then p.ident? else none
  | _, _ => none

/-- The type for which the implementation provides `Clone`, if it is written as a plain name. -/
def clonedType? (i : ImplItem) : Option Ident :=
  match i.trait, i.self with
  | some t, .path p =>
    if !t.negative && t.path.last?.any (·.ident.name == "Clone") then p.ident? else none
  | _, _ => none

end ImplItem

/-! ## Items -/

namespace Catalogue

/-- Enters the definition of a type with its fields (the first loop of `collect`). -/
def readDefinition (c : Catalogue) : Item → Except Refusal (Catalogue × Item)
  | .struct s => do
    let c := if deriveClone s.attributes then c.noteClone s.ident.name else c
    let (table, taken) ← s.collect
    let c := if s.generics.parameters.isEmpty then c.define ⟨s.ident, table⟩ else c
    return (c, .struct taken)
  | .enum e =>
    if e.generics.parameters.isEmpty then
      let c := if deriveClone e.attributes then c.noteClone e.ident.name else c
      .ok (c.define ⟨e.ident, []⟩, .enum e)
    else .ok (c, .enum e)
  | item => .ok (c, item)

/-- Enters the methods of an implementation (the second loop of `collect`). -/
def readMethods (c : Catalogue) : Item → Except Refusal (Catalogue × Item)
  | .impl i => do
    let c := match i.clonedType? with
      | some t => c.noteClone t.name
      | none => c
    let self? := i.ownType?.filter fun t => (c.find? t.name).isSome
    let taken ← i.members.mapM (ImplMember.collect self?)
    let c := match self? with
      | some self => c.revise self.name (Table.addAll (taken.filterMap (·.1)))
      | none => c
    return (c, .impl { i with members := taken.map (·.2) })
  | item => .ok (c, item)

/-- Goes through items with a step that enters something and may change the item. -/
def readEach (step : Catalogue → Item → Except Refusal (Catalogue × Item)) :
    Catalogue → List Item → Except Refusal (Catalogue × List Item)
  | c, [] => .ok (c, [])
  | c, item :: items => do
    let (c, item) ← step c item
    let (c, items) ← readEach step c items
    return (c, item :: items)

end Catalogue

/-- The catalogue of a module's items, and the items without the directives on members. -/
def collect (items : List Item) : Except Refusal (Catalogue × List Item) := do
  let (c, items) ← Catalogue.readEach Catalogue.readDefinition .empty items
  Catalogue.readEach Catalogue.readMethods c items

end SharedMembers
