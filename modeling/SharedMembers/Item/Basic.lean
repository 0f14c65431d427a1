import SharedMembers.Item.Attribute

/-!
# Items

The items of a module, as far as they have to be understood: structs and enums with their fields,
implementations with their methods. Of other items only the kind and the names they introduce are
known, and their code.

* `Visibility.isShared`: the thing can be used outside its own module.
* `Item.typeNames`: the names that an item introduces for types.
-/

namespace SharedMembers

/-- Who may use a thing: its own module only, everybody, or those in a path, which is written with
an `in` or is one word. -/
inductive Visibility where
  | inherited
  | everywhere (origin : Origin)
  | restricted (origin : Origin) (within : Bool) (path : Path)

/-- Not only its own module may use the thing (`is_accessible`). -/
def Visibility.isShared : Visibility → Bool
  | inherited => false
  | everywhere _ => true
  | restricted _ _ path => !path.isIdent "self"

/-- The visibility is written. -/
def Visibility.isWritten : Visibility → Bool
  | inherited => false
  | everywhere _ | restricted .. => true

/-- Generic parameters, those that are lifetimes marked, and the conditions on them. `opened` is
the place of the angle bracket; the conditions are there as soon as their keyword is. -/
structure Generics where
  opened : Origin
  parameters : List (Bool × Code)
  trailing : Bool
  conditions : Option Code

/-- No generic parameters. -/
def Generics.empty : Generics := ⟨none, [], false, none⟩

/-- A field of a struct or variant; one that is known by its position has no name. -/
structure Field where
  attributes : List Attribute
  visibility : Visibility
  name : Option Ident
  type : Ty

/-- The fields of a struct or variant. -/
inductive Fields where
  | unit
  | named (opened : Origin) (fields : List Field) (trailing : Bool)
  | positional (opened : Origin) (fields : List Field) (trailing : Bool)

/-- A struct. -/
structure StructItem where
  attributes : List Attribute
  visibility : Visibility
  keyword : Origin
  ident : Ident
  generics : Generics
  fields : Fields

/-- A variant of an enum. -/
structure Variant where
  attributes : List Attribute
  ident : Ident
  fields : Fields
  discriminant : Option Code

/-- An enum. -/
structure EnumItem where
  attributes : List Attribute
  visibility : Visibility
  keyword : Origin
  ident : Ident
  generics : Generics
  variants : List Variant
  trailing : Bool

/-- A pattern. If it binds its whole value to a name, that name is known. -/
structure Pattern where
  binding : Option Ident
  code : Code

/-- The input by which a method takes its own value. The reference is there with its lifetime. -/
structure SelfInput where
  attributes : List Attribute
  reference : Option (Origin × Option Ident)
  mutable : Bool
  origin : Origin
  type : Option Ty

/-- An input of a function. -/
inductive FnInput where
  | self (input : SelfInput)
  | typed (attributes : List Attribute) (pattern : Pattern) (type : Ty)

/-- The head of a function: everything but its body. A qualifier that is there has a place. -/
structure FnHead where
  constant : Option Origin
  asynchronous : Option Origin
  unchecked : Option Origin
  foreign : Option Code
  keyword : Origin
  ident : Ident
  generics : Generics
  inputs : List FnInput
  trailing : Bool
  variadic : Option Code
  output : Option Ty

/-- A function of an implementation. The inner attributes stand in front of the statements. -/
structure Method where
  attributes : List Attribute
  visibility : Visibility
  default : Option Origin
  head : FnHead
  body : Code

/-- A member of an implementation. -/
inductive ImplMember where
  | method (m : Method)
  | other (code : Code)

/-- The trait that is implemented, or of which it is said that it is not. -/
structure ImplTrait where
  negative : Bool
  path : Path

/-- An implementation of methods for a type. -/
structure ImplItem where
  attributes : List Attribute
  qualifiers : Code
  keyword : Origin
  generics : Generics
  trait : Option ImplTrait
  self : Ty
  members : List ImplMember

/-- The kinds of other items. -/
inductive ItemKind where
  | alias
  | trait
  | union
  | module
  | imports
  | other
deriving Repr, DecidableEq

/-- An item. Of an item that is not understood the names that it introduces for types are known. -/
inductive Item where
  | struct (s : StructItem)
  | enum (e : EnumItem)
  | impl (i : ImplItem)
  | other (kind : ItemKind) (names : List Ident) (code : Code)

/-- A module, inline if it has its items. -/
structure Module where
  attributes : List Attribute
  visibility : Visibility
  unchecked : Option Origin
  keyword : Origin
  ident : Ident
  items : Option (List Item)

namespace Item

/-- The names that the item introduces for types, traits or modules. -/
def typeNames : Item → List Ident
  | struct s => [s.ident]
  | enum e => [e.ident]
  | impl _ => []
  | other _ names _ => names

/-- The name of the type or trait that the item defines. -/
def definedName? : Item → Option Ident
  | struct s => some s.ident
  | enum e => some e.ident
  | impl _ => none
  | other kind names _ =>
    match kind with
    | .alias | .trait | .union => names.head?
    | .module | .imports | .other => none

end Item

end SharedMembers
