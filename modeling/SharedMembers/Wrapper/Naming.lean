import SharedMembers.Type.VariantName

/-!
# Fresh names

A name that is taken is numbered: the name itself is tried first, then the name with 2, 3 and so on
behind it.

The model of `fresh_ident` and of the loop over the types in `wrapper_for`.

* `firstFree`: the first of these that is free.
* `variantNames`: pairwise different names for the variants that hold given types.
* `length_variantNames`: each type gets one.
-/

namespace SharedMembers

/-- The `n`th name that is tried. -/
def candidate (base : String) (n : Nat) : String :=
  if n = 0 then base else base ++ toString (n + 1)

/-- The first name that is not taken (`fresh_ident`). Of more candidates than there are taken names
one is free. -/
def firstFree (taken : List String) (base : String) : String :=
  (((List.range (taken.length + 1)).map (candidate base)).find? (!taken.contains ·)).getD base

/-- Names for variants that hold the types, other than those that are taken (the loop in
`wrapper_for`). -/
def variantNames (taken : List String) : List Ty → List String
  | [] => []
  | t :: ts =>
    let name := firstFree taken t.variantName
    name :: variantNames (name :: taken) ts

theorem length_variantNames (taken : List String) (types : List Ty) :
    (variantNames taken types).length = types.length := by
  induction types generalizing taken with
  | nil => rfl
  | cons t ts ih => simp [variantNames, ih]

end SharedMembers
