import Mathlib.Order.Bounds.Defs
import SharedMembers.Proofs.Extension
import SharedMembers.Proofs.Registration

/-!
# Numbering ends with the first free name

A name that is taken is numbered in a loop: the name itself is tried, then the name with 2, 3 and so
on behind it, until one is free, which is taken then. The loop has no bound of its own. It ends since
no name is tried twice, so that each round that goes on uses up one of the taken names. So at most one
name more is tried than are taken, and the numbers stay as small as that.

Nested wrappers and their variants are named by this loop, the variants of a wrapper among
themselves. A name that ends in a number may be a candidate for another one; that is no obstacle,
since the candidates are compared as texts and those for one name are all different.

Results:
* `isFirstFree_firstFree`: what is found is the name itself or the name with the least free number.
* `numberingLoop_candidate`: the loop goes on from candidate to candidate up to the first free one.
* `numbersTo_firstFree`: it ends, and with the name that is found.
* `variantNames_numbered`: each variant is named by the loop among the variants before it.
* `wrapperFor_numbered`: a new nested wrapper is named by the loop, and its name is taken.
* `numbering_first_free`: all of these together.
-/

namespace SharedMembers

/-! ## Specification -/

/-- The name itself if it is free, and otherwise the name with the least number from 2 on that makes
it free. -/
inductive IsFirstFree (taken : List String) (base : String) : String → Prop
  | plain (free : base ∉ taken) : IsFirstFree taken base base
  | numbered {n : Nat} (held : base ∈ taken)
      (least : IsLeast {k | 2 ≤ k ∧ base ++ toString k ∉ taken} n) :
      IsFirstFree taken base (base ++ toString n)

/-- The loop when it is about to try `name`, and then the base with the number `n` and those after
it. It gives the first of them that is free, and the names that are taken from then on. At most
`rounds` names are tried. -/
def numberingLoop (taken : List String) (base : String) :
    (rounds : Nat) → (name : String) → (n : Nat) → Option (String × List String)
  | 0, _, _ => none
  | rounds + 1, name, n =>
    if name ∈ taken then numberingLoop taken base rounds (base ++ toString n) (n + 1)
    else some (name, name :: taken)

/-- What numbering a name comes to. The loop ends by itself, at the latest when it has tried one name
more than are taken; it gives the first free name; and this is the only one that is taken besides
those that were. -/
structure NumbersTo (taken : List String) (base name : String) (taken' : List String) : Prop where
  ends : ∀ rounds > taken.length, numberingLoop taken base rounds base 2 = some (name, taken')
  first : IsFirstFree taken base name
  adds : taken' = name :: taken

/-! ## Candidates -/

theorem candidate_succ (base : String) (n : Nat) :
    candidate base (n + 1) = base ++ toString (n + 2) := rfl

/-- A free candidate behind taken ones is the first free name. -/
theorem isFirstFree_candidate {taken : List String} {base : String} {n : Nat}
    (free : candidate base n ∉ taken) (held : ∀ j < n, candidate base j ∈ taken) :
    IsFirstFree taken base (candidate base n) := by
  cases n with
  | zero => exact .plain free
  | succ n =>
    refine .numbered (held 0 n.succ_pos) ⟨⟨by omega, free⟩, fun k ⟨two, freeNumber⟩ => ?_⟩
    by_contra less
    obtain ⟨j, rfl⟩ := Nat.exists_eq_add_of_le' two
    exact freeNumber (held (j + 1) (by omega))

/-- The name that is found is the first free one. -/
theorem isFirstFree_firstFree (taken : List String) (base : String) :
    IsFirstFree taken base (firstFree taken base) := by
  obtain ⟨n, found, held⟩ := firstFree_least taken base
  rw [found]
  exact isFirstFree_candidate (found ▸ firstFree_not_mem taken base) held

/-! ## The loop -/

/-- From a candidate that is not behind the first free one the loop goes on to that one. Each round
tries the next candidate, so the number that comes next is always two more than the rounds before. -/
theorem numberingLoop_candidate {taken : List String} {base : String} {n i rounds : Nat}
    (free : candidate base n ∉ taken) (held : ∀ j < n, candidate base j ∈ taken) (le : i ≤ n)
    (enough : n - i < rounds) :
    numberingLoop taken base rounds (candidate base i) (i + 2) =
      some (candidate base n, candidate base n :: taken) := by
  induction rounds generalizing i with
  | zero => omega
  | succ rounds ih =>
    rw [numberingLoop]
    rcases Nat.eq_or_lt_of_le le with rfl | before
    · rw [if_neg free]
    · rw [if_pos (held i before), ← candidate_succ]
      exact ih before (by omega)

/-- The loop ends, and with the name that is found. -/
theorem numbersTo_firstFree (taken : List String) (base : String) :
    NumbersTo taken base (firstFree taken base) (firstFree taken base :: taken) where
  ends rounds enough := by
    obtain ⟨n, found, held⟩ := firstFree_least taken base
    have free : candidate base n ∉ taken := found ▸ firstFree_not_mem taken base
    have := le_length_of_candidates_taken held
    rw [found]
    exact numberingLoop_candidate free held (Nat.zero_le n) (by omega)
  first := isFirstFree_firstFree taken base
  adds := rfl

/-! ## Variants and nested wrappers -/

/-- The name of a variant is found among the names of those before it, the latest of which comes
first. -/
theorem getElem?_variantNames {taken : List String} {types : List Ty} {i : Nat} {t : Ty}
    (h : types[i]? = some t) :
    (variantNames taken types)[i]? =
      some (firstFree (((variantNames taken types).take i).reverse ++ taken) t.variantName) := by
  induction types generalizing taken i with
  | nil => cases h
  | cons u ts ih =>
    rw [variantNames]
    cases i with
    | zero =>
      cases h
      rfl
    | succ i =>
      rw [List.getElem?_cons_succ] at h ⊢
      rw [ih h, List.take_succ_cons, List.reverse_cons, List.append_assoc, List.singleton_append]

/-- Each variant is named by the loop, to which the names of the variants before it are taken. -/
theorem variantNames_numbered {types : List Ty} {i : Nat} {t : Ty} (h : types[i]? = some t) :
    ∃ name, (variantNames [] types)[i]? = some name ∧
      NumbersTo ((variantNames [] types).take i).reverse t.variantName name
        (name :: ((variantNames [] types).take i).reverse) := by
  refine ⟨_, getElem?_variantNames h, ?_⟩
  rw [List.append_nil]
  exact numbersTo_firstFree _ _

/-- A nested wrapper that is new is named by the loop, to which the names of the module and of the
other wrappers are taken; so is its own afterwards. -/
theorem wrapperFor_numbered {r r' : Registry} {parent : Wrapper} {member : String}
    {types : List Ty} {ident : Ident} (missing : r.find? (setKeyOf types) = none)
    (made : r.wrapperFor parent member types = .ok (r', ident)) :
    NumbersTo r.taken (parent.ident.name ++ Text.camel member) ident.name r'.taken ∧
      ∃ w, r'.wrappers = r.wrappers ++ [w] ∧ w.ident = ident ∧
        w.variants.map (·.1.name) = variantNames [] types := by
  rw [Registry.wrapperFor, missing] at made
  obtain ⟨w, nested, same⟩ := map_eq_ok_iff.1 made
  cases same
  obtain ⟨name, variants⟩ := nestedWrapper_names nested
  refine ⟨?_, w, rfl, rfl, variants⟩
  rw [Registry.add, name]
  exact numbersTo_firstFree _ _

/-- Numbering a name always ends, with the first free name, which is taken then. The variants that
hold given types are named in this way one after the other, so their names are pairwise different;
and so is a nested wrapper, whose name is taken in the registry that holds it. -/
theorem numbering_first_free (taken : List String) (base : String) (types : List Ty) :
    NumbersTo taken base (firstFree taken base) (firstFree taken base :: taken) ∧
    ((variantNames [] types).length = types.length ∧ (variantNames [] types).Nodup ∧
      ∀ i t, types[i]? = some t → ∃ name, (variantNames [] types)[i]? = some name ∧
        NumbersTo ((variantNames [] types).take i).reverse t.variantName name
          (name :: ((variantNames [] types).take i).reverse)) ∧
    ∀ (r r' : Registry) (parent : Wrapper) (member : String) (ident : Ident),
      r.find? (setKeyOf types) = none → r.wrapperFor parent member types = .ok (r', ident) →
        NumbersTo r.taken (parent.ident.name ++ Text.camel member) ident.name r'.taken ∧
          ∃ w, r'.wrappers = r.wrappers ++ [w] ∧ w.ident = ident ∧
            w.variants.map (·.1.name) = variantNames [] types := by
  refine ⟨numbersTo_firstFree taken base, ⟨length_variantNames [] types, nodup_variantNames [] types,
    fun _ _ h => variantNames_numbered h⟩, ?_⟩
  intro r r' parent member ident missing made
  exact wrapperFor_numbered missing made

/-- Two types are called `X`, and the name with 2 behind it is that of a third. -/
def namesakes : List Ty :=
  [.ofName "X", .ofName "X2", .path (.plain none [.plain (.generated "m"), .plain (.generated "X")])]

example : variantNames [] namesakes = ["X", "X2", "X3"] := by decide +kernel

/-- A nested wrapper over these, in a module that has something of its name. -/
theorem numbering_first_free_namesakes :
    ∃ r' ident, Registry.wrapperFor (.new ["WId"]) (wrapperOver ["A"]) "id" namesakes = .ok (r', ident) ∧
      ident.name = "WId2" ∧ NumbersTo ["WId"] "WId" "WId2" r'.taken ∧
      ∃ name, (variantNames [] namesakes)[2]? = some name ∧
        NumbersTo ["X2", "X"] "X" name [name, "X2", "X"] := by
  obtain ⟨⟨r', ident⟩, made, name⟩ := exists_ok_of_toOption
    (x := Registry.wrapperFor (.new ["WId"]) (wrapperOver ["A"]) "id" namesakes)
    (f := fun x => x.2.name) (b := "WId2") (by decide +kernel)
  obtain ⟨-, ⟨-, -, variants⟩, wrappers⟩ := numbering_first_free [] "X" namesakes
  obtain ⟨numbered, -⟩ := wrappers _ _ _ _ _ rfl made
  rw [show ident.name = "WId2" from name] at numbered
  have earlier : ((variantNames [] namesakes).take 2).reverse = ["X2", "X"] := by decide +kernel
  have third := variants 2 _ rfl
  rw [earlier] at third
  exact ⟨r', ident, made, name, numbered, third⟩

end SharedMembers
