import Mathlib.Data.List.Perm.Subperm
import Mathlib.Data.List.Nodup
import SharedMembers.Wrapper.Naming

/-!
# Fresh names are fresh

Of the names that are tried no two are the same, so among more candidates than there are taken names
one is free, and the search for it never comes back empty-handed.

Results:
* `toString_injective`, `candidate_injective`: the candidates for a name are pairwise different.
* `le_length_of_candidates_taken`: only as many candidates in a row are taken as there are taken
  names.
* `firstFree_not_mem`: the name that is found is not taken.
* `exists_firstFree_eq`: it is one of the candidates.
* `firstFree_least`: the candidates before it are taken.
* `nodup_variantNames`: variants get pairwise different names.
-/

namespace SharedMembers

/-! ## Candidates -/

theorem append_ne_self {base : String} {n : Nat} : base ++ toString n ≠ base := by
  intro same
  have lengths := congrArg String.length same
  rw [String.length_append, Nat.toString_eq_repr] at lengths
  have := Nat.length_repr_pos (n := n)
  omega

/-- The digits of a number are read back to it. -/
theorem toString_injective : Function.Injective (toString : Nat → String) := by
  intro m n same
  have digits := congrArg String.toList same
  rw [Nat.toString_eq_repr, Nat.toString_eq_repr, Nat.toList_repr, Nat.toList_repr] at digits
  have numbers := congrArg (Nat.ofDigitChars 10 · 0) digits
  simp only [Nat.ofDigitChars_ten_toDigits] at numbers
  exact numbers

/-- The candidates for a name are pairwise different. -/
theorem candidate_injective (base : String) : Function.Injective (candidate base) := by
  intro m n same
  by_cases hm : m = 0 <;> by_cases hn : n = 0 <;>
    simp only [candidate, hm, hn, if_true, if_false] at same ⊢
  · exact absurd same.symm append_ne_self
  · exact absurd same append_ne_self
  · rw [String.append_right_inj] at same
    have := toString_injective same
    omega

/-- There are no more taken candidates in a row than there are taken names. -/
theorem le_length_of_candidates_taken {taken : List String} {base : String} {n : Nat}
    (held : ∀ j < n, candidate base j ∈ taken) : n ≤ taken.length := by
  have nodup : ((List.range n).map (candidate base)).Nodup :=
    List.nodup_range.map (candidate_injective base)
  have subset : (List.range n).map (candidate base) ⊆ taken := by
    intro name hname
    obtain ⟨j, hj, rfl⟩ := List.mem_map.1 hname
    exact held j (List.mem_range.1 hj)
  have le := (nodup.subperm subset).length_le
  rwa [List.length_map, List.length_range] at le

/-- Of more candidates than there are taken names one is free. -/
theorem exists_free_candidate (taken : List String) (base : String) :
    ∃ n < taken.length + 1, candidate base n ∉ taken := by
  by_contra none
  push Not at none
  have := le_length_of_candidates_taken none
  omega

/-! ## The first that is free -/

/-- What is found is a candidate that is not taken. -/
theorem firstFree_spec (taken : List String) (base : String) :
    firstFree taken base ∉ taken ∧ ∃ n, firstFree taken base = candidate base n := by
  rw [firstFree]
  generalize found : ((List.range (taken.length + 1)).map (candidate base)).find?
    (!taken.contains ·) = name?
  cases name? with
  | none =>
    obtain ⟨n, hn, free⟩ := exists_free_candidate taken base
    have tried := List.find?_eq_none.1 found _ (List.mem_map_of_mem (List.mem_range.2 hn))
    simp [free] at tried
  | some name =>
    obtain ⟨n, -, rfl⟩ := List.mem_map.1 (List.mem_of_find?_eq_some found)
    have free := List.find?_some found
    exact ⟨by simpa using free, n, rfl⟩

theorem firstFree_not_mem (taken : List String) (base : String) : firstFree taken base ∉ taken :=
  (firstFree_spec taken base).1

theorem exists_firstFree_eq (taken : List String) (base : String) :
    ∃ n, firstFree taken base = candidate base n :=
  (firstFree_spec taken base).2

/-- All candidates before the one that is found are taken. -/
theorem firstFree_least (taken : List String) (base : String) :
    ∃ n, firstFree taken base = candidate base n ∧ ∀ j < n, candidate base j ∈ taken := by
  rw [firstFree]
  generalize found : ((List.range (taken.length + 1)).map (candidate base)).find?
    (!taken.contains ·) = name?
  cases name? with
  | none => exact ⟨0, rfl, fun j hj => absurd hj (Nat.not_lt_zero j)⟩
  | some name =>
    obtain ⟨-, n, bound, rfl, before⟩ := List.find?_eq_some_iff_getElem.1 found
    refine ⟨n, by simp, fun j hj => ?_⟩
    have tried := before j hj
    simpa using tried

/-! ## Names of variants -/

/-- The names that are given to types are different from one another and from those that are
taken. -/
theorem variantNames_spec (taken : List String) (types : List Ty) :
    (variantNames taken types).Nodup ∧ ∀ name ∈ variantNames taken types, name ∉ taken := by
  induction types generalizing taken with
  | nil => exact ⟨List.nodup_nil, by simp [variantNames]⟩
  | cons t ts ih =>
    obtain ⟨nodup, fresh⟩ := ih (firstFree taken t.variantName :: taken)
    rw [variantNames]
    constructor
    · exact List.nodup_cons.2 ⟨fun again => fresh _ again List.mem_cons_self, nodup⟩
    · intro name hname
      rcases List.mem_cons.1 hname with rfl | hname
      · exact firstFree_not_mem taken t.variantName
      · exact fun old => fresh name hname (List.mem_cons_of_mem _ old)

theorem nodup_variantNames (taken : List String) (types : List Ty) :
    (variantNames taken types).Nodup :=
  (variantNames_spec taken types).1

/-- Each name of a variant is a candidate for the name of one of the types. -/
theorem exists_candidate_of_mem_variantNames {taken : List String} {types : List Ty} {name : String}
    (h : name ∈ variantNames taken types) :
    ∃ t ∈ types, ∃ n, name = candidate t.variantName n := by
  induction types generalizing taken with
  | nil => simp [variantNames] at h
  | cons t ts ih =>
    rw [variantNames] at h
    rcases List.mem_cons.1 h with rfl | h
    · exact ⟨t, List.mem_cons_self, exists_firstFree_eq taken t.variantName⟩
    · obtain ⟨u, hu, n, eq⟩ := ih h
      exact ⟨u, List.mem_cons_of_mem _ hu, n, eq⟩

end SharedMembers
