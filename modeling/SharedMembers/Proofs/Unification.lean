import SharedMembers.Proofs.Outcomes
import SharedMembers.Proofs.TypeSets

/-!
# What unification promises

The conversions between scalars are a partial order, and a common type is a scalar above all of the
types. One is found whenever there is one, so it is never lost when types are taken away.

Results:
* `unify_cases`: what unification does, by what the subtypes return.
* `commonSupertype_sound`: every type converts to the common type.
* `isSome_commonSupertype_iff`: there is a common type iff some scalar is above all of the types.
* `key_commonSupertype_eq`: its key does not depend on the order of the types.
* `widens_of_unify_eq_common`, `key_mem_of_unify_eq_distinct`: what the outcome is for a type that
  is returned.
* `several_of_unify_eq_distinct`: which types are kept apart.
* `unify_incompatible_append`: returns that do not go together still do not when more are added.
-/

namespace SharedMembers

/-! ## The order of scalars -/

namespace Scalar

/-- How many values a scalar has, as a number that grows along conversions. -/
def width : Scalar → Nat
  | u8 | i8 | borrowedString => 0
  | u16 | i16 | string => 1
  | u32 | i32 | f32 => 2
  | u64 | i64 | f64 | usize | isize => 3
  | u128 | i128 => 4

theorem width_lt_of_mem_targets {a b : Scalar} (h : b ∈ a.targets) : a.width < b.width := by
  revert h
  cases a <;> cases b <;> decide

theorem widens_iff {a b : Scalar} : a.widens b = true ↔ a = b ∨ b ∈ a.targets := by
  simp [widens]

theorem widens_antisymm {a b : Scalar} (ab : a.widens b = true) (ba : b.widens a = true) :
    a = b := by
  rcases widens_iff.1 ab with same | ab
  · exact same
  · rcases widens_iff.1 ba with same | ba
    · exact same.symm
    · have := width_lt_of_mem_targets ab
      have := width_lt_of_mem_targets ba
      omega

theorem eq_borrowedString_of_widens {a : Scalar} (h : a.widens borrowedString = true) :
    a = borrowedString := by
  revert h
  cases a <;> decide

theorem ne_borrowedString_of_mem_promotions {s : Scalar} (h : s ∈ promotions) :
    s ≠ borrowedString := by
  rintro rfl
  exact absurd h (by decide)

/-- A scalar that others convert to can be replaced by a promotion. -/
theorem exists_promotion (y : Scalar) :
    ∃ q ∈ promotions, ∀ x, x.widens y = true → x ≠ y ∨ y = borrowedString →
      x.widens q = true := by
  by_cases listed : y ∈ promotions
  · exact ⟨y, listed, fun x h _ => h⟩
  · cases y with
    | usize => exact ⟨u16, by decide, fun x => by cases x <;> decide⟩
    | isize => exact ⟨i16, by decide, fun x => by cases x <;> decide⟩
    | borrowedString => exact ⟨string, by decide, fun x => by cases x <;> decide⟩
    | u8 | i8 => exact ⟨i16, by decide, fun x => by cases x <;> decide⟩
    | _ => exact absurd (by decide) listed

theorem ofName?_eq_some {name : String} {s : Scalar} (h : ofName? name = some s) :
    s.name = name ∧ s ≠ borrowedString := by
  refine ⟨by simpa using List.find?_some h, ?_⟩
  rintro rfl
  exact absurd (List.mem_of_find?_eq_some h) (by decide)

theorem path_eq_ofIdent {p : Path} {i : Ident} (h : p.ident? = some i) : p = .ofIdent i := by
  unfold Path.ident? at h
  split at h
  · cases h
    rfl
  · simp at h

/-- A borrowed string borrows, and no other scalar does. -/
theorem borrows_of_ofTy? {t : Ty} {s : Scalar} (h : ofTy? t = some s) :
    t.borrows = true ↔ s = borrowedString := by
  fun_induction ofTy? t with
  | case1 p =>
    obtain ⟨i, hi, h⟩ := Option.bind_eq_some_iff.1 h
    have owned := (ofName?_eq_some h).2
    have plain : (Ty.path p).borrows = false := by
      rw [path_eq_ofIdent hi]
      rfl
    simp [plain, owned]
  | case2 o lifetime p hp =>
    cases h
    simp [Ty.borrows, Ty.mentions, Search.inType, Ty.borrowSearch]
  | case3 => simp at h
  | case4 o inner ih =>
    rw [← ih h]
    simp [Ty.borrows, Ty.mentions, Search.inType, Ty.borrowSearch]
  | case5 => simp at h

/-- A scalar that is not borrowed is written as its name. -/
theorem key_of_ofTy? {t : Ty} {s : Scalar} (h : ofTy? t = some s) (owned : s ≠ borrowedString) :
    t.key = s.name := by
  fun_induction ofTy? t with
  | case1 p =>
    obtain ⟨i, hi, h⟩ := Option.bind_eq_some_iff.1 h
    rw [path_eq_ofIdent hi, (ofName?_eq_some h).1]
    exact Ty.key_ofIdent i
  | case2 o lifetime p hp =>
    cases h
    exact absurd rfl owned
  | case3 => simp at h
  | case4 o inner ih =>
    rw [Ty.key_paren]
    exact ih h
  | case5 => simp at h

/-- Every one of the types is a scalar that converts to this one. -/
def Covers (y : Scalar) (ts : List Ty) : Prop :=
  ∀ t ∈ ts, ∃ s, ofTy? t = some s ∧ s.widens y = true

theorem Covers.of_append {y : Scalar} {ts us : List Ty} (h : y.Covers (ts ++ us)) :
    y.Covers ts :=
  fun t ht => h t (List.mem_append_left us ht)

end Scalar

/-! ## Common types -/

/-- The type is one of those given and can stand for all of them. Of several borrowed strings none
can stand for the others. -/
structure Hosts (ts : List Ty) (t : Ty) (y : Scalar) : Prop where
  mem : t ∈ ts
  scalar : Scalar.ofTy? t = some y
  covers : y.Covers ts
  unborrowed : y = .borrowedString → ts.countP Ty.borrows < 2

/-- How a common type is found: one of the types, or else the first promotion that all of them
convert to. If there is none, no scalar is above all of them. -/
inductive Common (ts : List Ty) : Option Ty → Prop where
  | own (t : Ty) (y : Scalar) (host : Hosts ts t y) : Common ts (some t)
  | promoted (n : Nat) (q : Scalar) (noHost : ∀ t y, ¬ Hosts ts t y)
      (nth : Scalar.promotions[n]? = some q) (covers : q.Covers ts)
      (first : ∀ m < n, ∀ p, Scalar.promotions[m]? = some p → ¬ p.Covers ts) :
      Common ts (some (.ofIdent (.generated q.name)))
  | missing (uncovered : ∀ y : Scalar, ¬ y.Covers ts) : Common ts none

theorem all_widens_iff {ts : List Ty} {ss : List Scalar}
    (scalars : List.Forall₂ (fun t s => Scalar.ofTy? t = some s) ts ss) {y : Scalar} :
    ss.all (·.widens y) = true ↔ y.Covers ts := by
  induction scalars with
  | nil => simp [Scalar.Covers]
  | cons head _ ih =>
    rw [List.all_cons, Bool.and_eq_true, ih]
    simp [Scalar.Covers, head]

/-- Without a type that can stand for all, a scalar above all of the types has a promotion below
or beside it. -/
theorem exists_promotion_covers {ts : List Ty} {y : Scalar} (noHost : ∀ t y, ¬ Hosts ts t y)
    (covers : y.Covers ts) : ∃ q ∈ Scalar.promotions, q.Covers ts := by
  obtain ⟨q, hq, widens⟩ := Scalar.exists_promotion y
  refine ⟨q, hq, fun t ht => ?_⟩
  obtain ⟨s, hs, le⟩ := covers t ht
  refine ⟨s, hs, widens s le ?_⟩
  by_cases borrowed : y = .borrowedString
  · exact .inr borrowed
  · left
    rintro rfl
    exact noHost t s ⟨ht, hs, covers, fun h => absurd h borrowed⟩

theorem commonSupertype_spec (ts : List Ty) : Common ts (commonSupertype ts) := by
  rw [commonSupertype]
  cases known : ts.mapM Scalar.ofTy? with
  | none =>
    refine .missing fun y covers => ?_
    obtain ⟨ss, hss⟩ := exists_forall₂_of_forall fun t ht =>
      (covers t ht).imp fun _ h => h.1
    rw [mapM_eq_some_iff.2 hss] at known
    cases known
  | some ss =>
    have scalars := mapM_eq_some_iff.1 known
    simp only [Option.bind_some]
    split
    · next t y found =>
      have paired := List.mem_of_find?_eq_some found
      have fits := List.find?_some found
      rw [Bool.and_eq_true, all_widens_iff scalars] at fits
      have scalar := List.forall₂_zip scalars paired
      refine .own t y ⟨(List.of_mem_zip paired).1, scalar, fits.1, fun borrowed => ?_⟩
      simpa [(Scalar.borrows_of_ofTy? scalar).2 borrowed] using fits.2
    · next noOwn =>
      -- The search among the types has failed, so by the pairs with their scalars none is a host.
      have noHost : ∀ t y, ¬ Hosts ts t y := by
        intro t y host
        obtain ⟨s, paired, hs⟩ := exists_mem_zip scalars host.mem
        obtain rfl : y = s := Option.some.inj (host.scalar.symm.trans hs)
        have unfit := List.find?_eq_none.1 noOwn _ paired
        rw [Bool.and_eq_true, all_widens_iff scalars] at unfit
        apply unfit
        refine ⟨host.covers, ?_⟩
        by_cases borrowed : y = .borrowedString
        · simp [host.unborrowed borrowed]
        · have := mt (Scalar.borrows_of_ofTy? hs).1 borrowed
          simp [this]
      cases found : Scalar.promotions.find? fun q => ss.all (·.widens q) with
      | some q =>
        obtain ⟨covers, n, hn, rfl, first⟩ := List.find?_eq_some_iff_getElem.1 found
        refine .promoted n _ noHost (List.getElem?_eq_getElem hn)
          ((all_widens_iff scalars).1 covers) fun m hm p hp => ?_
        obtain ⟨_, rfl⟩ := List.getElem?_eq_some_iff.1 hp
        rw [← all_widens_iff scalars]
        simpa using first m hm
      | none =>
        refine .missing fun y covers => ?_
        obtain ⟨q, hq, covers⟩ := exists_promotion_covers noHost covers
        exact List.find?_eq_none.1 found q hq ((all_widens_iff scalars).2 covers)

/-- Every type converts to the common type. -/
theorem commonSupertype_sound {ts : List Ty} {t : Ty} (h : commonSupertype ts = some t) :
    ∃ y, Scalar.ofTy? t = some y ∧ y.Covers ts := by
  have spec := commonSupertype_spec ts
  rw [h] at spec
  cases spec with
  | own _ y host => exact ⟨y, host.scalar, host.covers⟩
  | promoted n q noHost nth covers first =>
    -- A promotion is found again by its name, which the borrowed string would not be.
    have owned := Scalar.ne_borrowedString_of_mem_promotions (List.mem_of_getElem? nth)
    exact ⟨q, Scalar.ofName?_name owned, covers⟩

/-- There is a common type iff some scalar is above all of the types. -/
theorem isSome_commonSupertype_iff {ts : List Ty} :
    (commonSupertype ts).isSome = true ↔ ∃ y : Scalar, y.Covers ts := by
  have spec := commonSupertype_spec ts
  generalize commonSupertype ts = found at *
  cases spec with
  | own t y host => exact ⟨fun _ => ⟨y, host.covers⟩, fun _ => rfl⟩
  | promoted n q noHost nth covers first => exact ⟨fun _ => ⟨q, covers⟩, fun _ => rfl⟩
  | missing uncovered => exact ⟨fun h => by simp at h, fun ⟨y, h⟩ => absurd h (uncovered y)⟩

/-! ## Types in another order -/

theorem Scalar.Covers.of_perm {y : Scalar} {ts us : List Ty}
    (same : (ts.map ofTy?).Perm (us.map ofTy?)) (h : y.Covers ts) : y.Covers us := by
  intro u hu
  obtain ⟨t, ht, eq⟩ := List.mem_map.1 (same.mem_iff.2 (List.mem_map_of_mem hu))
  rw [← eq]
  exact h t ht

/-- Of several types, one that can stand for all is not borrowed. -/
theorem Hosts.owned {ts : List Ty} {t : Ty} {y : Scalar} (several : 2 ≤ ts.length)
    (host : Hosts ts t y) : y ≠ .borrowedString := by
  rintro rfl
  have all : ∀ u ∈ ts, u.borrows = true := by
    intro u hu
    obtain ⟨s, hs, le⟩ := host.covers u hu
    exact (Scalar.borrows_of_ofTy? hs).2 (Scalar.eq_borrowedString_of_widens le)
  have := host.unborrowed rfl
  rw [List.countP_eq_length.2 all] at this
  omega

/-- Of several types, one that can stand for all is written as its scalar is named. -/
theorem Hosts.key {ts : List Ty} {t : Ty} {y : Scalar} (several : 2 ≤ ts.length)
    (host : Hosts ts t y) : t.key = y.name :=
  Scalar.key_of_ofTy? host.scalar (host.owned several)

/-- Of several types, those that can stand for all have one key: each is above the other. -/
theorem Hosts.key_eq {ts : List Ty} {t u : Ty} {y z : Scalar} (several : 2 ≤ ts.length)
    (host : Hosts ts t y) (host' : Hosts ts u z) : t.key = u.key := by
  obtain ⟨y', hy, yz⟩ := host'.covers t host.mem
  obtain ⟨z', hz, zy⟩ := host.covers u host'.mem
  obtain rfl : y = y' := Option.some.inj (host.scalar.symm.trans hy)
  obtain rfl : z = z' := Option.some.inj (host'.scalar.symm.trans hz)
  obtain rfl := Scalar.widens_antisymm yz zy
  rw [host.key several, host'.key several]

theorem Hosts.of_perm {ts us : List Ty} {t : Ty} {y : Scalar} (several : 2 ≤ ts.length)
    (same : (ts.map Scalar.ofTy?).Perm (us.map Scalar.ofTy?)) (host : Hosts ts t y) :
    ∃ u, Hosts us u y := by
  obtain ⟨u, hu, eq⟩ := List.mem_map.1 (same.mem_iff.1 (List.mem_map_of_mem host.mem))
  exact ⟨u, hu, eq.trans host.scalar, host.covers.of_perm same,
    fun borrowed => absurd borrowed (host.owned several)⟩

/-- The key of the common type of several types does not depend on their order. -/
theorem key_commonSupertype_eq {ts us : List Ty} {t u : Ty} (several : 2 ≤ ts.length)
    (same : (ts.map Scalar.ofTy?).Perm (us.map Scalar.ofTy?))
    (ht : commonSupertype ts = some t) (hu : commonSupertype us = some u) : t.key = u.key := by
  have several' : 2 ≤ us.length := by
    have := same.length_eq
    rw [List.length_map, List.length_map] at this
    omega
  have spec := commonSupertype_spec ts
  have spec' := commonSupertype_spec us
  rw [ht] at spec
  rw [hu] at spec'
  cases spec with
  | own _ y host =>
    cases spec' with
    | own _ z host' =>
      obtain ⟨v, hv⟩ := host.of_perm several same
      rw [host.key several, ← hv.key several', hv.key_eq several' host']
    | promoted _ _ noHost =>
      obtain ⟨v, hv⟩ := host.of_perm several same
      exact absurd hv (noHost v y)
  | promoted n q noHost nth covers first =>
    cases spec' with
    | own _ z host' =>
      obtain ⟨w, hw⟩ := host'.of_perm several' same.symm
      exact absurd hw (noHost w z)
    | promoted m p _ mth covers' first' =>
      obtain rfl : n = m := by
        rcases Nat.lt_trichotomy n m with lt | eq | gt
        · exact absurd (covers.of_perm same) (first' n lt q nth)
        · exact eq
        · exact absurd (covers'.of_perm same.symm) (first m gt p mth)
      obtain rfl : q = p := Option.some.inj (nth.symm.trans mth)
      rfl

/-! ## Outcomes -/

theorem unifyTypes_ne_unit (ts : List Ty) : unifyTypes ts ≠ .unit := by
  unfold unifyTypes
  split
  · rintro ⟨⟩
  · split
    · rintro ⟨⟩
    · split <;> rintro ⟨⟩

/-- The three outcomes for several types or none. -/
theorem unifyTypes_of_length_ne_one {ts : List Ty} (h : ts.length ≠ 1) :
    unifyTypes ts = match commonSupertype ts with
      | some t => .common t
      | none => if ts.any Ty.borrows then .incompatible .borrowedReturns else .distinct ts := by
  match ts with
  | [] => rfl
  | [_] => exact absurd rfl h
  | _ :: _ :: _ => rfl

theorem unifyTypes_eq_common {ts : List Ty} {t : Ty} (h : unifyTypes ts = .common t) :
    ts = [t] ∨ ts.length ≠ 1 ∧ commonSupertype ts = some t := by
  by_cases one : ts.length = 1
  · obtain ⟨u, rfl⟩ := List.length_eq_one_iff.1 one
    cases h
    exact .inl rfl
  · rw [unifyTypes_of_length_ne_one one] at h
    split at h
    · next found =>
      cases h
      exact .inr ⟨one, found⟩
    · split at h <;> cases h

theorem unifyTypes_eq_distinct {ts us : List Ty} (h : unifyTypes ts = .distinct us) :
    us = ts ∧ ts.length ≠ 1 ∧ ∀ t ∈ ts, t.borrows = false := by
  by_cases one : ts.length = 1
  · obtain ⟨u, rfl⟩ := List.length_eq_one_iff.1 one
    cases h
  · rw [unifyTypes_of_length_ne_one one] at h
    split at h
    · cases h
    · split at h
      · cases h
      · next owned =>
        cases h
        refine ⟨rfl, one, fun t ht => Bool.eq_false_iff.2 fun borrowed => owned ?_⟩
        exact List.any_eq_true.2 ⟨t, ht, borrowed⟩

/-- Types that do not go together still do not when more are added. -/
theorem unifyTypes_incompatible_append {ts us : List Ty} {m : Mismatch}
    (h : unifyTypes ts = .incompatible m) : unifyTypes (ts ++ us) = .incompatible m := by
  have long : ts.length ≠ 1 := by
    intro one
    obtain ⟨t, rfl⟩ := List.length_eq_one_iff.1 one
    cases h
  rw [unifyTypes_of_length_ne_one long] at h
  cases noCommon : commonSupertype ts with
  | some t => rw [noCommon] at h; cases h
  | none =>
    rw [noCommon] at h
    dsimp only at h
    split at h
    · next borrows =>
      have several : (ts ++ us).length ≠ 1 := by
        cases ts with
        | nil => simp at borrows
        | cons t ts =>
          rw [List.length_append, List.length_cons] at *
          omega
      have uncovered : commonSupertype (ts ++ us) = none := by
        rw [← Option.not_isSome_iff_eq_none, isSome_commonSupertype_iff]
        rintro ⟨y, covers⟩
        have := isSome_commonSupertype_iff.2 ⟨y, covers.of_append⟩
        rw [noCommon] at this
        cases this
      rw [unifyTypes_of_length_ne_one several, uncovered, ← h]
      simp only [List.any_append, borrows, Bool.true_or, if_true]
    · cases h

theorem unify_map_some {ts : List Ty} (nonempty : ts ≠ []) :
    unify (ts.map some) = unifyTypes (distinct ts) := by
  obtain ⟨t, us, rfl⟩ := List.exists_cons_of_ne_nil nonempty
  simp [unify]

theorem unify_of_forall_none {returns : List (Option Ty)} (h : ∀ r ∈ returns, r = none) :
    unify returns = .unit := by
  have all : returns.all Option.isNone = true := by
    rw [List.all_eq_true]
    exact fun r hr => Option.isNone_iff_eq_none.2 (h r hr)
  rw [unify, if_pos all]

theorem unify_of_mixed {returns : List (Option Ty)} {t : Ty} (value : some t ∈ returns)
    (nothing : none ∈ returns) : unify returns = .incompatible .partlyReturns := by
  have notAll : ¬ returns.all Option.isNone = true := by
    rw [List.all_eq_true]
    exact fun h => by simpa using h _ value
  have any : returns.any Option.isNone = true := List.any_eq_true.2 ⟨none, nothing, rfl⟩
  rw [unify, if_neg notAll, if_pos any]

theorem exists_map_some {returns : List (Option Ty)} (h : none ∉ returns) :
    ∃ ts : List Ty, returns = ts.map some := by
  refine ⟨returns.filterMap id, ?_⟩
  induction returns with
  | nil => rfl
  | cons r returns ih =>
    cases r with
    | none => exact absurd List.mem_cons_self h
    | some t =>
      have rest := ih fun later => h (List.mem_cons_of_mem _ later)
      exact congrArg (some t :: ·) rest

/-- What unification does, by what the subtypes return: nothing, or a value on some and nothing on
others, or a value each. -/
theorem unify_cases (returns : List (Option Ty)) :
    (unify returns = .unit ∧ ∀ r ∈ returns, r = none) ∨
      (unify returns = .incompatible .partlyReturns ∧ none ∈ returns ∧ ∃ t, some t ∈ returns) ∨
        ∃ ts, ts ≠ [] ∧ returns = ts.map some ∧ unify returns = unifyTypes (distinct ts) := by
  by_cases nothing : none ∈ returns
  · by_cases value : ∃ t, some t ∈ returns
    · obtain ⟨t, ht⟩ := value
      exact .inr (.inl ⟨unify_of_mixed ht nothing, nothing, t, ht⟩)
    · have all : ∀ r ∈ returns, r = none := by
        intro r hr
        cases r with
        | none => rfl
        | some t => exact absurd ⟨t, hr⟩ value
      exact .inl ⟨unify_of_forall_none all, all⟩
  · obtain ⟨ts, rfl⟩ := exists_map_some nothing
    cases ts with
    | nil => exact .inl ⟨rfl, by simp⟩
    | cons t ts =>
      exact .inr (.inr ⟨t :: ts, by simp, rfl, unify_map_some (by simp)⟩)

theorem unify_eq_unit {returns : List (Option Ty)} (h : unify returns = .unit) :
    ∀ r ∈ returns, r = none := by
  rcases unify_cases returns with ⟨-, all⟩ | ⟨mixed, -⟩ | ⟨ts, -, -, types⟩
  · exact all
  · rw [mixed] at h
    cases h
  · exact absurd (types.symm.trans h) (unifyTypes_ne_unit _)

/-- Types are kept apart only if every subtype returns one, and then all that are returned are. -/
theorem unify_eq_distinct {returns : List (Option Ty)} {types : List Ty}
    (h : unify returns = .distinct types) :
    ∃ ts : List Ty, returns = ts.map some ∧ types = distinct ts := by
  rcases unify_cases returns with ⟨unit, -⟩ | ⟨mixed, -⟩ | ⟨ts, -, rfl, all⟩
  · rw [unit] at h
    cases h
  · rw [mixed] at h
    cases h
  · rw [all] at h
    exact ⟨ts, rfl, (unifyTypes_eq_distinct h).1⟩

/-- Only several types are kept apart, and only such as borrow nothing. -/
theorem several_of_unify_eq_distinct {returns : List (Option Ty)} {types : List Ty}
    (h : unify returns = .distinct types) :
    2 ≤ types.length ∧ ∀ t ∈ types, t.borrows = false := by
  rcases unify_cases returns with ⟨unit, -⟩ | ⟨mixed, -⟩ | ⟨ts, nonempty, rfl, all⟩
  · rw [unit] at h
    cases h
  · rw [mixed] at h
    cases h
  · rw [all] at h
    obtain ⟨rfl, notOne, owned⟩ := unifyTypes_eq_distinct h
    obtain ⟨t, ht⟩ := List.exists_mem_of_ne_nil ts nonempty
    obtain ⟨u, hu, -⟩ := exists_mem_distinct ht
    have := List.length_pos_of_mem hu
    exact ⟨by omega, owned⟩

theorem key_mem_of_unify_eq_distinct {returns : List (Option Ty)} {types : List Ty} {own : Ty}
    (h : unify returns = .distinct types) (returned : some own ∈ returns) :
    own.key ∈ types.map Ty.key := by
  obtain ⟨ts, rfl, rfl⟩ := unify_eq_distinct h
  obtain ⟨_, mem, eq⟩ := List.mem_map.1 returned
  cases eq
  exact mem_keys_distinct.2 (List.mem_map_of_mem mem)

/-- What is returned has the key of the common type, or is a scalar that converts to it. -/
theorem widens_of_unify_eq_common {returns : List (Option Ty)} {t own : Ty}
    (h : unify returns = .common t) (returned : some own ∈ returns) :
    own.key = t.key ∨ ∃ u x y, u.key = own.key ∧ Scalar.ofTy? u = some x ∧
      Scalar.ofTy? t = some y ∧ x.widens y = true := by
  rcases unify_cases returns with ⟨unit, -⟩ | ⟨mixed, -⟩ | ⟨ts, -, rfl, types⟩
  · rw [unit] at h
    cases h
  · rw [mixed] at h
    cases h
  · obtain ⟨_, mem, eq⟩ := List.mem_map.1 returned
    cases eq
    rcases unifyTypes_eq_common (types.symm.trans h) with one | ⟨-, found⟩
    · exact .inl (key_eq_of_distinct_singleton one mem).symm
    · obtain ⟨y, target, covers⟩ := commonSupertype_sound found
      obtain ⟨u, hu, same⟩ := exists_mem_distinct mem
      obtain ⟨x, source, widens⟩ := covers u hu
      exact .inr ⟨u, x, y, same, source, target, widens⟩

/-- Returns that do not go together still do not when one more is added. -/
theorem unify_incompatible_append {returns : List (Option Ty)} {m : Mismatch}
    (h : unify returns = .incompatible m) (more : List (Option Ty)) :
    ∃ m', unify (returns ++ more) = .incompatible m' := by
  rcases unify_cases returns with ⟨unit, -⟩ | ⟨-, nothing, t, ht⟩ | ⟨ts, nonempty, rfl, types⟩
  · rw [unit] at h
    cases h
  · exact ⟨_, unify_of_mixed (List.mem_append_left more ht) (List.mem_append_left more nothing)⟩
  · by_cases nothing : none ∈ more
    · obtain ⟨t, us, rfl⟩ := List.exists_cons_of_ne_nil nonempty
      exact ⟨_, unify_of_mixed (t := t) (by simp) (List.mem_append_right _ nothing)⟩
    · obtain ⟨us, rfl⟩ := exists_map_some nothing
      obtain ⟨later, split⟩ := distinct_append ts us
      refine ⟨m, ?_⟩
      rw [← List.map_append, unify_map_some (by simp [nonempty]), split]
      exact unifyTypes_incompatible_append (types.symm.trans h)

end SharedMembers
