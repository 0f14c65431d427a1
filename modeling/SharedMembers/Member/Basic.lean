import SharedMembers.Type.Basic

/-!
# Members

A member of a type is used by its name and in one of three shapes: it is read, written, or called
with arguments. A signature tells how the type provides it.

The model of `MemberKey` and `Signature`.

* `Key.accessorName`: the method by which a wrapper forwards the member.
* `Key.before`: the order of members, by name and then by shape.
* `Key.before_trans`, `Key.before_total`: it is a linear order.
-/

namespace SharedMembers

/-! ## Receivers -/

/-- How a method takes its own value, weakest first. -/
inductive Receiver where
  | shared
  | mutable
  | owned
deriving Repr, DecidableEq

namespace Receiver

/-- The strength of a receiver. -/
def rank : Receiver → Nat
  | shared => 0
  | mutable => 1
  | owned => 2

/-- The stronger of two receivers. -/
def max (a b : Receiver) : Receiver :=
  if a.rank < b.rank then b else a

theorem rank_max (a b : Receiver) : (a.max b).rank = Nat.max a.rank b.rank := by
  cases a <;> cases b <;> rfl

/-- A receiver as it is written. -/
def text : Receiver → String
  | shared => "&self"
  | mutable => "&mut self"
  | owned => "self"

end Receiver

/-! ## Keys -/

/-- How a member is used (`MemberShape`). -/
inductive Shape where
  | read
  | write
  | call (inputs : Nat)
deriving Repr, DecidableEq

namespace Shape

/-- The number of a shape in the order of shapes. -/
def rank : Shape → Nat
  | read => 0
  | write => 1
  | call n => n + 2

theorem rank_injective {a b : Shape} (h : a.rank = b.rank) : a = b := by
  cases a <;> cases b <;> simp_all [rank]

/-- The number of arguments. -/
def inputs : Shape → Nat
  | read => 0
  | write => 1
  | call n => n

end Shape

/-- A member by its name and shape (`MemberKey`). -/
structure Key where
  name : String
  shape : Shape
deriving Repr, DecidableEq

namespace Key

/-- The method by which a wrapper forwards the member (`accessor_name`). -/
def accessorName (k : Key) : String :=
  match k.shape with
  | .write => "set_" ++ k.name
  | _ => k.name

/-- The first key comes before the second. -/
def before (a b : Key) : Bool :=
  decide (a.name < b.name) || (a.name == b.name && decide (a.shape.rank < b.shape.rank))

theorem before_iff {a b : Key} :
    a.before b = true ↔ a.name < b.name ∨ a.name = b.name ∧ a.shape.rank < b.shape.rank := by
  simp [before]

theorem before_irrefl (a : Key) : a.before a = false := by
  rw [← Bool.not_eq_true, before_iff]
  exact fun h => h.elim (String.lt_irrefl _) fun h => Nat.lt_irrefl _ h.2

theorem before_trans {a b c : Key} (ab : a.before b = true) (bc : b.before c = true) :
    a.before c = true := by
  rw [before_iff] at *
  rcases ab with ab | ⟨ab, ab'⟩ <;> rcases bc with bc | ⟨bc, bc'⟩
  · exact .inl (String.lt_trans ab bc)
  · exact .inl (bc ▸ ab)
  · exact .inl (ab ▸ bc)
  · exact .inr ⟨ab.trans bc, by omega⟩

theorem before_total {a b : Key} (different : a ≠ b) : a.before b = true ∨ b.before a = true := by
  rw [before_iff, before_iff]
  by_cases same : a.name = b.name
  · have : a.shape.rank ≠ b.shape.rank := fun h => different <| by
      have := Shape.rank_injective h
      cases a; cases b; simp_all
    rcases Nat.lt_or_gt_of_ne this with h | h
    · exact .inl (.inr ⟨same, h⟩)
    · exact .inr (.inr ⟨same.symm, h⟩)
  · by_cases lt : a.name < b.name
    · exact .inl (.inl lt)
    · refine .inr (.inl ?_)
      exact Std.lt_of_le_of_ne (Std.not_lt.1 lt) (Ne.symm same)

end Key

/-! ## Signatures -/

/-- What a member is: a field or a method. -/
inductive Target where
  | field (ident : Ident)
  | method (ident : Ident)
deriving Repr, DecidableEq

namespace Target

/-- The member is a field. -/
def isField : Target → Bool
  | field _ => true
  | method _ => false

end Target

/-- How a type provides a member. A member without an output gives nothing. -/
structure Signature where
  receiver : Receiver
  target : Target
  names : List Ident
  inputs : List Ty
  output : Option Ty

end SharedMembers
