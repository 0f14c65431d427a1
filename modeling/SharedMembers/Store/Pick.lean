import SharedMembers.Store.Basic

/-!
# Picking a value by its place

The value at a place that is known only when the program runs is made and turned into what is
wanted, such as a store that holds it. The places are counted from 0, and of all the values only the
one that is asked for is made. A program holds fewer values than a machine word counts to, so the
count is a number.

The model of `pick`, whose rounds are written one behind the other.

* `pickFrom_of_lt`: behind the place that is asked for nothing is made.
-/

namespace SharedMembers.Store

variable {κ : Type} {F : Family κ} {m : Type → Type} [Monad m] {ω : Type}

/-- A value that is still to be made, and how it is turned into what is wanted. Both may have effects. -/
structure Choice (m : Type → Type) (ω : Type) where
  {α : Type}
  make : m α
  into : α → m ω

namespace Choice

/-- A value of a kind, which is put into a store. -/
def ofKind (k : κ) (make : m (F.Value k)) : Choice m (Store F) :=
  ⟨make, fun x => pure (wrap k x)⟩

/-- Makes the value and turns it into what is wanted. -/
def give (c : Choice m ω) : m ω := do
  c.into (← c.make)

end Choice

/-- Goes through the values, of which the first is at the place `n`, after `found` was made. -/
def pickFrom (index : Nat) : Nat → Option ω → List (Choice m ω) → m (Option ω)
  | _, found, [] => pure found
  | n, found, c :: rest => do
    if n = index then
      let x ← c.give
      pickFrom index (n + 1) (some x) rest
    else
      pickFrom index (n + 1) found rest

/-- What the value at a place is turned into, after the place is worked out; none if there are not
as many values. -/
def pick (index : m Nat) (choices : List (Choice m ω)) : m (Option ω) := do
  let i ← index
  pickFrom i 0 none choices

/-- Behind the place that is asked for nothing is made. -/
theorem pickFrom_of_lt {index n : Nat} (h : index < n) (found : Option ω)
    (choices : List (Choice m ω)) : pickFrom index n found choices = pure found := by
  induction choices generalizing n with
  | nil => rfl
  | cons c rest ih =>
    rw [pickFrom, if_neg (by omega)]
    exact ih (by omega)

end SharedMembers.Store
