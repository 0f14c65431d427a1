import SharedMembers.Type.Key
import SharedMembers.Type.Mention
import SharedMembers.Unification.Scalar

/-!
# Unification

The return types of one member across all subtypes become one type, if possible: the same type for
all, a type that all convert to without loss, or else a wrapper over the different types.

The model of `distinct`, `common_supertype` and `unify`.

* `distinct`: types in the order in which they are first seen.
* `commonSupertype`: one type that every type converts to.
* `unify`: the outcome for a list of return types.
* `mem_distinct`, `distinct_keys_nodup`: what `distinct` keeps.
-/

namespace SharedMembers

/-! ## Distinct types -/

/-- The types whose keys were not seen before. -/
def distinctFrom (seen : List String) : List Ty → List Ty
  | [] => []
  | t :: ts =>
    if seen.contains t.key then distinctFrom seen ts
    else t :: distinctFrom (t.key :: seen) ts

/-- The types in first-seen order, types with the same key only once. -/
def distinct (types : List Ty) : List Ty :=
  distinctFrom [] types

theorem mem_distinctFrom {seen : List String} {types : List Ty} {t : Ty}
    (h : t ∈ distinctFrom seen types) : t ∈ types ∧ t.key ∉ seen := by
  induction types generalizing seen with
  | nil => simp [distinctFrom] at h
  | cons u us ih =>
    unfold distinctFrom at h
    split at h
    · exact ⟨List.mem_cons_of_mem _ (ih h).1, (ih h).2⟩
    · next new =>
      rcases List.mem_cons.1 h with rfl | h
      · exact ⟨List.mem_cons_self, by simpa using new⟩
      · have := ih h
        simp only [List.mem_cons, not_or] at this
        exact ⟨List.mem_cons_of_mem _ this.1, this.2.2⟩

/-- What is kept was there. -/
theorem mem_distinct {types : List Ty} {t : Ty} (h : t ∈ distinct types) : t ∈ types :=
  (mem_distinctFrom h).1

theorem distinctFrom_keys_nodup (seen : List String) (types : List Ty) :
    ((distinctFrom seen types).map Ty.key).Nodup := by
  induction types generalizing seen with
  | nil => simp [distinctFrom]
  | cons t ts ih =>
    unfold distinctFrom
    split
    · exact ih seen
    · rw [List.map_cons, List.nodup_cons]
      refine ⟨fun h => ?_, ih _⟩
      obtain ⟨u, hu, same⟩ := List.mem_map.1 h
      exact (mem_distinctFrom hu).2 (by simp [same])

/-- No two of the types kept have the same key. -/
theorem distinct_keys_nodup (types : List Ty) : ((distinct types).map Ty.key).Nodup :=
  distinctFrom_keys_nodup [] types

/-! ## A common type -/

/-- A type that every one of the types converts to without loss: one of them, or else the first
promotion that fits (`common_supertype`). Borrowed strings whose lifetimes differ cannot stand for
one another. -/
def commonSupertype (types : List Ty) : Option Ty :=
  (types.mapM Scalar.ofTy?).bind fun scalars =>
    let fits := fun candidate => scalars.all (·.widens candidate)
    let borrowed := types.countP Ty.borrows
    let own := (types.zip scalars).find? fun (t, s) => fits s && (borrowed < 2 || !t.borrows)
    match own with
    | some (t, _) => some t
    | none => (Scalar.promotions.find? fits).map fun s => Ty.ofIdent (.generated s.name)

/-! ## Outcomes -/

/-- Why the types of a member do not go together. -/
inductive Mismatch where
  /-- Some subtypes return a value and others do not. -/
  | partlyReturns
  /-- Different borrowed types are returned. -/
  | borrowedReturns
  /-- Different borrowed types are taken. -/
  | borrowedArguments
deriving Repr, DecidableEq

namespace Mismatch

/-- The mismatch in words. -/
def message : Mismatch → String
  | partlyReturns => "returns a value on some subtypes and nothing on others"
  | borrowedReturns => "returns differing borrowed types"
  | borrowedArguments => "takes differing borrowed arguments"

end Mismatch

/-- What becomes of the return types of a member. -/
inductive Unified where
  /-- No subtype returns anything. -/
  | unit
  /-- Every returned value converts to this type. -/
  | common (type : Ty)
  /-- A wrapper over exactly these types is needed. -/
  | distinct (types : List Ty)
  | incompatible (mismatch : Mismatch)

/-- The outcome for the types of which each is returned by a subtype. -/
def unifyTypes (types : List Ty) : Unified :=
  match types with
  | [t] => .common t
  | _ =>
    match commonSupertype types with
    | some t => .common t
    | none => if types.any Ty.borrows then .incompatible .borrowedReturns else .distinct types

/-- The outcome for the returns of the subtypes; none stands for a subtype that returns nothing. -/
def unify (returns : List (Option Ty)) : Unified :=
  if returns.all Option.isNone then .unit
  else if returns.any Option.isNone then .incompatible .partlyReturns
  else unifyTypes (SharedMembers.distinct (returns.filterMap id))

end SharedMembers
