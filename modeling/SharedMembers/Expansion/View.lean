import SharedMembers.Expansion.Basic

/-!
# Views of an expansion

An expansion is shown item by item, after it was read as a module again. That fails if a name that
was generated cannot be one where it stands; then all of it is shown at once.

* `Expansion.view`: an expansion as it is shown.
* `Item.isInterface`: the items that make up the interface of the wrappers.
-/

namespace SharedMembers

/-- Which items are shown. -/
inductive Scope where
  | all
  | interface
deriving Repr, DecidableEq

/-- An expansion as it is shown: the module without its items and the items, or all of it. -/
inductive View where
  | items (shell : String) (items : List String)
  | tokens (text : String)
deriving Repr, DecidableEq

namespace ImplMember

/-- The member is a function with the name. -/
def isNamed (name : String) : ImplMember → Bool
  | method m => m.head.ident.name == name
  | other _ => false

end ImplMember

namespace Item

/-- The item is an enum, or an implementation of a type's own methods that does not begin with the
visitors. -/
def isInterface : Item → Bool
  | enum _ => true
  | impl i => i.trait.isNone && !i.members.head?.any (·.isNamed "visit")
  | _ => false

end Item

/-- The items that are shown. -/
def Scope.select (s : Scope) (items : List Item) : List Item :=
  match s with
  | .all => items
  | .interface => items.filter Item.isInterface

/-- An expansion as it is shown. -/
def Expansion.view (s : Scope) (e : Expansion) : View :=
  match Module.ofTokens e.tokens with
  | .ok m =>
    .items (flat m.shell) ((s.select (m.items.getD [])).map fun i => flat i.tokens)
  | .error _ => .tokens (flat e.tokens)

end SharedMembers
