import SharedMembers.Member.Table
import SharedMembers.Type.Key

/-!
# The catalogue of a module

The types that a module defines with their members, and which of them can be cloned.

The model of `Descriptors` with `get` and `is_clone`.

* `find?_define`, `find?_revise`: what is found after a definition, and after a revision.
* `Catalogue.isClone`: a type can visibly be cloned.
-/

namespace SharedMembers

/-- A type of the module and its members (`SubtypeDescriptor`). -/
structure Descriptor where
  ident : Ident
  table : Table

/-- The type that is described. -/
def Descriptor.type (d : Descriptor) : Ty := .ofIdent d.ident

/-- The types of a module by their names, and the names of those that can be cloned
(`Descriptors`). -/
structure Catalogue where
  types : List (String × Descriptor)
  cloneable : List String

namespace Catalogue

/-- The catalogue of an empty module. -/
def empty : Catalogue := ⟨[], []⟩

/-- The descriptor of the type with the name. -/
def find? (c : Catalogue) (name : String) : Option Descriptor :=
  (c.types.find? fun (n, _) => n == name).map (·.2)

/-- The descriptor of a type (`get`). -/
def get? (c : Catalogue) (t : Ty) : Option Descriptor :=
  c.find? t.key

/-- The members of a type, if the module defines it. -/
def table? (c : Catalogue) (t : Ty) : Option Table :=
  (c.get? t).map Descriptor.table

/-- Describes a type; an earlier description of it is dropped. -/
def define (c : Catalogue) (d : Descriptor) : Catalogue :=
  { c with types := (d.ident.name, d) :: c.types }

/-- Revises the members of the type with the name. -/
def revise (c : Catalogue) (name : String) (f : Table → Table) : Catalogue :=
  { c with types := c.types.map fun (n, d) =>
      (n, if n == name then { d with table := f d.table } else d) }

/-- Notes that the type with the name can be cloned. -/
def noteClone (c : Catalogue) (name : String) : Catalogue :=
  { c with cloneable := name :: c.cloneable }

theorem find?_define (c : Catalogue) (d : Descriptor) (name : String) :
    (c.define d).find? name = if name = d.ident.name then some d else c.find? name := by
  unfold define find?
  by_cases h : d.ident.name = name
  · simp [h]
  · simp [h, Ne.symm h]

theorem find?_revise (c : Catalogue) (name other : String) (f : Table → Table) :
    (c.revise name f).find? other =
      (c.find? other).map fun d => if other = name then { d with table := f d.table } else d := by
  obtain ⟨types, cloneable⟩ := c
  simp only [revise, find?]
  induction types with
  | nil => rfl
  | cons e types ih =>
    obtain ⟨n, d⟩ := e
    by_cases h : n = other
    · subst h
      simp
    · simpa [List.find?_cons, h] using ih

/-! ## Cloning -/

/-- The names of types without arguments that can be cloned. -/
def plainCloneable : List String :=
  ["u8", "u16", "u32", "u64", "u128", "usize", "i8", "i16", "i32", "i64", "i128", "isize", "f32",
   "f64", "bool", "char", "String"]

/-- The names of types that can be cloned whatever they hold. -/
def sharedCloneable : List String := ["Rc", "Arc"]

/-- The names of types that can be cloned if what they hold can. -/
def containers : List String :=
  ["Option", "Vec", "Box", "VecDeque", "BTreeMap", "BTreeSet", "HashMap", "HashSet", "Result"]

/-- A type of the standard library can be cloned, by its name and by what is known of its arguments:
that there are none, and that all of them can be cloned (the table of names in `is_clone`). -/
def standardIsClone (name : String) (bare cloneable : Bool) : Bool :=
  (bare && plainCloneable.contains name) || sharedCloneable.contains name ||
    (cloneable && containers.contains name)

mutual

/-- The type can visibly be cloned (`is_clone`). -/
def isClone (c : Catalogue) : Ty → Bool
  | .reference _ _ mutable _ => !mutable
  | .paren _ inner => isClone c inner
  | .tuple _ elems _ => areClone c elems
  | .array _ elem _ => isClone c elem
  | .path (.plain leading segments) =>
    c.cloneable.contains (Ty.path (.plain leading segments)).key || lastIsClone c segments
  | _ => false

/-- All of the types can visibly be cloned. -/
def areClone (c : Catalogue) : List Ty → Bool
  | [] => true
  | t :: ts => isClone c t && areClone c ts

/-- The last of the segments names a type of the standard library that can be cloned. -/
def lastIsClone (c : Catalogue) : List Segment → Bool
  | [] => false
  | [s] => segmentIsClone c s
  | _ :: ss => lastIsClone c ss

/-- The segment names a type of the standard library that can be cloned. -/
def segmentIsClone (c : Catalogue) : Segment → Bool
  | .plain i => standardIsClone i.name true true
  | .generic i _ args _ => standardIsClone i.name args.isEmpty (argumentsAreClone c args)

/-- All of the arguments that are types can visibly be cloned. -/
def argumentsAreClone (c : Catalogue) : List Argument → Bool
  | [] => true
  | a :: as => argumentIsClone c a && argumentsAreClone c as

/-- The argument can visibly be cloned if it is a type. -/
def argumentIsClone (c : Catalogue) : Argument → Bool
  | .type t => isClone c t
  | _ => true

end

end Catalogue

end SharedMembers
