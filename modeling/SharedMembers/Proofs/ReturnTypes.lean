import SharedMembers.Proofs.Reordering

/-!
# Which type is returned

The types that the subtypes return count once for each key, in the first spelling. Of several such
types a scalar is returned for all whenever one is above all of them, and then a least one. The
order in which promotions are tried is chosen by hand: what makes it right is that a scalar between
the types and a promotion is tried earlier, or has only such scalars below it of which one stands
for all.

Results:
* `unify_exact`: what is returned, and that no scalar above all types is ever missed.
* `unify_of_same_types`: types that were returned before, the type found itself and the order of
  the types make no difference.
-/

namespace SharedMembers

/-! ## Least scalars -/

namespace Scalar

theorem widens_trans {a b c : Scalar} (ab : a.widens b = true) (bc : b.widens c = true) :
    a.widens c = true := by
  rw [widens_iff] at *
  rcases ab with rfl | ab
  · exact bc
  rcases bc with rfl | bc
  · exact .inr ab
  · have closed : ∀ y ∈ a.targets, ∀ z ∈ y.targets, z ∈ a.targets := by cases a <;> decide
    exact .inr (closed b ab c bc)

theorem eq_string_of_borrowedString_widens {y : Scalar} (h : borrowedString.widens y = true) :
    y = borrowedString ∨ y = string := by
  revert h
  cases y <;> decide

/-- All scalars. -/
def all : List Scalar :=
  borrowedString :: named

theorem mem_all (s : Scalar) : s ∈ all := by
  cases s <;> decide

/-- Of two scalars below this one the one is below the other. -/
def Chain (z : Scalar) : Prop :=
  ∀ x y : Scalar, x.widens z = true → y.widens z = true → x.widens y = true ∨ y.widens x = true

instance (z : Scalar) : Decidable z.Chain :=
  decidable_of_iff
    (∀ x ∈ all, ∀ y ∈ all,
      x.widens z = true → y.widens z = true → x.widens y = true ∨ y.widens x = true)
    ⟨fun h x y => h x (mem_all x) y (mem_all y), fun h x _ y _ => h x y⟩

/-- A scalar below a promotion is tried earlier, or is above a chain. -/
theorem earlier_or_chain {q z : Scalar} (listed : q ∈ promotions) (below : z.widens q = true)
    (other : z ≠ q) : promotions.idxOf z < promotions.idxOf q ∨ z.Chain := by
  have all : ∀ q ∈ promotions, z.widens q = true → z ≠ q →
      promotions.idxOf z < promotions.idxOf q ∨ z.Chain := by cases z <;> decide
  exact all q listed below other

/-- The scalar is above all of the types, and no other that is lies below it. The borrowed string
does not count if several of the types are borrowed strings, since none of them can stand for
another. -/
structure LeastOver (y : Scalar) (ts : List Ty) : Prop where
  covers : y.Covers ts
  least : ∀ z : Scalar, z.Covers ts → z.widens y = true →
    z = y ∨ z = .borrowedString ∧ 2 ≤ ts.countP fun t => ofTy? t = some .borrowedString

/-- Of types below a chain one is above all the others. -/
theorem Covers.exists_greatest {z : Scalar} {ts : List Ty} (chain : z.Chain) (nonempty : ts ≠ [])
    (covers : z.Covers ts) : ∃ t ∈ ts, ∃ y, ofTy? t = some y ∧ y.Covers ts := by
  induction ts with
  | nil => exact absurd rfl nonempty
  | cons t ts ih =>
    obtain ⟨x, hx, below⟩ := covers t List.mem_cons_self
    by_cases last : ts = []
    · subst last
      refine ⟨t, List.mem_cons_self, x, hx, fun u hu => ?_⟩
      obtain rfl := List.mem_singleton.1 hu
      exact ⟨x, hx, widens_refl x⟩
    · obtain ⟨u, hu, y, hy, above⟩ := ih last fun v hv => covers v (List.mem_cons_of_mem t hv)
      obtain ⟨y', hy', below'⟩ := covers u (List.mem_cons_of_mem t hu)
      obtain rfl : y = y' := Option.some.inj (hy.symm.trans hy')
      rcases chain x y below below' with xy | yx
      · refine ⟨u, List.mem_cons_of_mem t hu, y, hy, fun v hv => ?_⟩
        rcases List.mem_cons.1 hv with rfl | hv
        · exact ⟨x, hx, xy⟩
        · exact above v hv
      · refine ⟨t, List.mem_cons_self, x, hx, fun v hv => ?_⟩
        rcases List.mem_cons.1 hv with rfl | hv
        · exact ⟨x, hx, widens_refl x⟩
        · obtain ⟨s, hs, sy⟩ := above v hv
          exact ⟨s, hs, widens_trans sy yx⟩

/-- Only borrowed strings are below the borrowed string. -/
theorem Covers.forall_borrowedString {ts : List Ty} (h : Covers .borrowedString ts) :
    ∀ t ∈ ts, ofTy? t = some .borrowedString := by
  intro t ht
  obtain ⟨s, hs, below⟩ := h t ht
  rw [hs, eq_borrowedString_of_widens below]

end Scalar

theorem Hosts.leastOver {ts : List Ty} {t : Ty} {y : Scalar} (host : Hosts ts t y) :
    y.LeastOver ts where
  covers := host.covers
  least z covers below := by
    obtain ⟨s, hs, le⟩ := covers t host.mem
    obtain rfl : y = s := Option.some.inj (host.scalar.symm.trans hs)
    exact .inl (Scalar.widens_antisymm below le)

/-- Where no type stands for all, the first promotion that is above all of them is a least one. -/
theorem leastOver_of_first {ts : List Ty} {n : Nat} {q : Scalar} (several : 2 ≤ ts.length)
    (noHost : ∀ t y, ¬ Hosts ts t y) (nth : Scalar.promotions[n]? = some q) (covers : q.Covers ts)
    (first : ∀ m < n, ∀ p, Scalar.promotions[m]? = some p → ¬ p.Covers ts) : q.LeastOver ts where
  covers := covers
  least z above below := by
    by_cases same : z = q
    · exact .inl same
    by_cases borrowed : z = .borrowedString
    · subst borrowed
      refine .inr ⟨rfl, ?_⟩
      rwa [List.countP_eq_length.2 fun t ht => decide_eq_true (above.forall_borrowedString t ht)]
    obtain ⟨here, found⟩ := List.getElem?_eq_some_iff.1 nth
    rcases Scalar.earlier_or_chain (List.mem_of_getElem? nth) below same with earlier | chain
    · -- An earlier promotion would have been found.
      have index : Scalar.promotions.idxOf q = n := by
        rw [← found]
        exact List.Nodup.idxOf_getElem (by decide) n here
      rw [index] at earlier
      have present := List.idxOf_lt_length_iff.1 (Nat.lt_trans earlier here)
      exact absurd above (first _ earlier z (List.getElem?_idxOf present))
    · -- The greatest of the types would stand for all.
      have nonempty : ts ≠ [] := List.length_pos_iff.1 (by omega)
      obtain ⟨t, ht, y, hy, greatest⟩ := above.exists_greatest chain nonempty
      refine absurd ⟨ht, hy, greatest, fun string => ?_⟩ (noHost t y)
      subst string
      obtain ⟨s, hs, le⟩ := above t ht
      obtain rfl := Option.some.inj (hy.symm.trans hs)
      rcases Scalar.eq_string_of_borrowedString_widens le with rfl | rfl
      · exact absurd rfl borrowed
      · rcases Scalar.widens_iff.1 below with top | top
        · exact absurd top same
        · exact absurd top List.not_mem_nil

/-! ## What is returned -/

/-- The types that the subtypes return, each key in its first spelling. There are none where a
subtype returns nothing. -/
def ReturnedTypes (returns : List (Option Ty)) (ts : List Ty) : Prop :=
  ∃ types : List Ty, returns = types.map some ∧ FirstSpellings types ts

theorem returnedTypes_iff {returns : List (Option Ty)} {ts : List Ty} :
    ReturnedTypes returns ts ↔
      ∃ types : List Ty, returns = types.map some ∧ ts = distinct types := by
  constructor
  · rintro ⟨types, rfl, first⟩
    exact ⟨types, rfl, first.unique (firstSpellings_distinct types)⟩
  · rintro ⟨types, rfl, rfl⟩
    exact ⟨types, rfl, firstSpellings_distinct types⟩

/-- What the returns of the subtypes become. -/
inductive Unifies (returns : List (Option Ty)) : Unified → Prop where
  | nothing (absent : ∀ r ∈ returns, r = none) : Unifies returns .unit
  | partly (t : Ty) (present : some t ∈ returns) (absent : none ∈ returns) :
      Unifies returns (.incompatible .partlyReturns)
  /-- All are of one key. -/
  | single (t : Ty) (one : ReturnedTypes returns [t]) : Unifies returns (.common t)
  /-- Several are below a scalar. It does not borrow. -/
  | scalar (ts : List Ty) (several : ReturnedTypes returns ts) (length : 2 ≤ ts.length) (t : Ty)
      (y : Scalar) (named : Scalar.ofTy? t = some y) (least : y.LeastOver ts)
      (owned : t.borrows = false) : Unifies returns (.common t)
  /-- No scalar is above all, and some type borrows. -/
  | borrowed (ts : List Ty) (several : ReturnedTypes returns ts) (length : 2 ≤ ts.length)
      (uncovered : ∀ y : Scalar, ¬ y.Covers ts) (u : Ty) (mem : u ∈ ts)
      (borrows : u.borrows = true) : Unifies returns (.incompatible .borrowedReturns)
  /-- No scalar is above all, and no type borrows. -/
  | apart (ts : List Ty) (several : ReturnedTypes returns ts) (length : 2 ≤ ts.length)
      (uncovered : ∀ y : Scalar, ¬ y.Covers ts) (owned : ∀ u ∈ ts, u.borrows = false) :
      Unifies returns (.distinct ts)

/-- The common type of several types is a least scalar above them. It does not borrow. -/
theorem least_of_commonSupertype {ts : List Ty} {t : Ty} (several : 2 ≤ ts.length)
    (h : commonSupertype ts = some t) :
    ∃ y, Scalar.ofTy? t = some y ∧ y.LeastOver ts ∧ t.borrows = false := by
  have spec := commonSupertype_spec ts
  rw [h] at spec
  cases spec with
  | own _ y host =>
    refine ⟨y, host.scalar, host.leastOver, Bool.eq_false_iff.2 fun borrows => ?_⟩
    exact host.owned several ((Scalar.borrows_of_ofTy? host.scalar).1 borrows)
  | promoted n q noHost nth covers first =>
    have owned := Scalar.ne_borrowedString_of_mem_promotions (List.mem_of_getElem? nth)
    have named : Scalar.ofTy? (.ofIdent (.generated q.name)) = some q := Scalar.ofName?_name owned
    refine ⟨q, named, leastOver_of_first several noHost nth covers first, ?_⟩
    exact Bool.eq_false_iff.2 fun borrows => owned ((Scalar.borrows_of_ofTy? named).1 borrows)

theorem unifies_unifyTypes {returns : List (Option Ty)} {ts : List Ty}
    (returned : ReturnedTypes returns ts) (nonempty : ts ≠ []) :
    Unifies returns (unifyTypes ts) := by
  by_cases one : ts.length = 1
  · obtain ⟨t, rfl⟩ := List.length_eq_one_iff.1 one
    exact .single t returned
  · have several : 2 ≤ ts.length := by
      have := List.length_pos_iff.2 nonempty
      omega
    rw [unifyTypes_of_length_ne_one one]
    cases found : commonSupertype ts with
    | some t =>
      obtain ⟨y, named, least, owned⟩ := least_of_commonSupertype several found
      exact .scalar ts returned several t y named least owned
    | none =>
      have uncovered : ∀ y : Scalar, ¬ y.Covers ts := by
        intro y covers
        have := isSome_commonSupertype_iff.2 ⟨y, covers⟩
        rw [found] at this
        cases this
      dsimp only
      split
      · next some =>
        obtain ⟨u, mem, borrows⟩ := List.any_eq_true.1 some
        exact .borrowed ts returned several uncovered u mem borrows
      · next none =>
        refine .apart ts returned several uncovered fun u mem => ?_
        exact Bool.eq_false_iff.2 fun borrows => none (List.any_eq_true.2 ⟨u, mem, borrows⟩)

theorem unifies_unify (returns : List (Option Ty)) : Unifies returns (unify returns) := by
  rcases unify_cases returns with ⟨unit, absent⟩ | ⟨mixed, absent, t, present⟩ |
    ⟨types, nonempty, rfl, same⟩
  · rw [unit]
    exact .nothing absent
  · rw [mixed]
    exact .partly t present absent
  · rw [same]
    exact unifies_unifyTypes (returnedTypes_iff.2 ⟨types, rfl, rfl⟩)
      (mt distinct_eq_nil_iff.1 nonempty)

/-- Several types have a common one iff some scalar is above all of them. -/
theorem isCommon_iff {returns : List (Option Ty)} {ts : List Ty}
    (returned : ReturnedTypes returns ts) (several : 2 ≤ ts.length) :
    (∃ t, unify returns = .common t) ↔ ∃ y : Scalar, y.Covers ts := by
  obtain ⟨types, rfl, rfl⟩ := returnedTypes_iff.1 returned
  have nonempty : types ≠ [] := by
    rintro rfl
    exact absurd several (by decide)
  rw [unify_map_some nonempty, unifyTypes_of_length_ne_one (by omega),
    ← isSome_commonSupertype_iff]
  cases commonSupertype (distinct types) with
  | some t => simp
  | none =>
    dsimp only
    split <;> simp

/-- The returns become what their first spellings tell, and of several types it is a common one iff
some scalar is above all of them. -/
theorem unify_exact (returns : List (Option Ty)) :
    Unifies returns (unify returns) ∧
      ∀ ts, ReturnedTypes returns ts → 2 ≤ ts.length →
        ((∃ t, unify returns = .common t) ↔ ∃ y : Scalar, y.Covers ts) :=
  ⟨unifies_unify returns, fun _ returned several => isCommon_iff returned several⟩

/-- Signed and unsigned bytes have a common type that is neither. -/
theorem unify_exact_bytes :
    let u8 := Ty.ofIdent (.generated "u8")
    let i8 := Ty.ofIdent (.generated "i8")
    ∃ t, unify [some u8, some i8, some u8] = .common t := by
  intro u8 i8
  have returned : ReturnedTypes [some u8, some i8, some u8] [u8, i8] :=
    returnedTypes_iff.2 ⟨[u8, i8, u8], rfl, rfl⟩
  have covers : Scalar.i16.Covers [u8, i8] := by
    simp only [Scalar.Covers, List.forall_mem_cons]
    exact ⟨⟨.u8, rfl, rfl⟩, ⟨.i8, rfl, rfl⟩, fun _ h => absurd h List.not_mem_nil⟩
  exact ((unify_exact _).2 [u8, i8] returned (by decide)).2 ⟨.i16, covers⟩

/-! ## What makes no difference -/

/-- Where a type can stand for all, the common type has its key. -/
theorem Hosts.commonSupertype {ts : List Ty} {t : Ty} {y : Scalar} (several : 2 ≤ ts.length)
    (host : Hosts ts t y) : ∃ u, commonSupertype ts = some u ∧ u.key = t.key := by
  have spec := commonSupertype_spec ts
  generalize SharedMembers.commonSupertype ts = found at spec
  cases spec with
  | own u z host' => exact ⟨u, rfl, host'.key_eq several host⟩
  | promoted _ _ noHost => exact absurd host (noHost t y)
  | missing uncovered => exact absurd host.covers (uncovered y)

/-- The common type of several types can stand for them and itself. -/
theorem hosts_concat {ts : List Ty} {t : Ty} (several : 2 ≤ ts.length)
    (h : SharedMembers.commonSupertype ts = some t) : ∃ y, Hosts (ts ++ [t]) t y := by
  obtain ⟨y, named, least, owned⟩ := least_of_commonSupertype several h
  refine ⟨y, by simp, named, fun u hu => ?_, fun borrowed => ?_⟩
  · rcases List.mem_append.1 hu with hu | hu
    · exact least.covers u hu
    · obtain rfl := List.mem_singleton.1 hu
      exact ⟨y, named, Scalar.widens_refl y⟩
  · rw [(Scalar.borrows_of_ofTy? named).2 borrowed] at owned
    cases owned

/-- A type whose key was returned before changes nothing. -/
theorem unify_concat_of_mem {returns : List (Option Ty)} {t u : Ty} (before : some u ∈ returns)
    (same : t.key = u.key) : unify (returns ++ [some t]) = unify returns := by
  rcases unify_cases returns with ⟨-, absent⟩ | ⟨mixed, absent, -⟩ | ⟨types, nonempty, rfl, value⟩
  · cases absent _ before
  · rw [mixed]
    exact unify_of_mixed (List.mem_append_left _ before) (List.mem_append_left _ absent)
  · obtain ⟨_, mem, eq⟩ := List.mem_map.1 before
    cases eq
    have known : t.key ∈ types.map Ty.key := same ▸ List.mem_map_of_mem mem
    have more : types.map some ++ [some t] = (types ++ [t]).map some := by simp
    rw [value, more, unify_map_some (by simp), distinct_concat_of_mem known]

/-- Where there is a common type, a subtype that returns it leaves a common type of its key. -/
theorem unify_concat_common {returns : List (Option Ty)} {t : Ty} (h : unify returns = .common t) :
    ∃ u, unify (returns ++ [some t]) = .common u ∧ u.key = t.key := by
  rcases unify_cases returns with ⟨unit, -⟩ | ⟨mixed, -⟩ | ⟨types, nonempty, rfl, value⟩
  · rw [unit] at h
    cases h
  · rw [mixed] at h
    cases h
  · by_cases known : t.key ∈ types.map Ty.key
    · obtain ⟨u, mem, same⟩ := List.mem_map.1 known
      exact ⟨t, (unify_concat_of_mem (List.mem_map_of_mem mem) same.symm).trans h, rfl⟩
    · rcases unifyTypes_eq_common (value.symm.trans h) with one | ⟨notOne, found⟩
      · have mem : t ∈ distinct types := by simp [one]
        exact absurd (List.mem_map_of_mem (mem_distinct mem)) known
      · have several : 2 ≤ (distinct types).length := by
          have := List.length_pos_iff.2 (mt distinct_eq_nil_iff.1 nonempty)
          omega
        obtain ⟨y, host⟩ := hosts_concat several found
        obtain ⟨u, common, same⟩ := host.commonSupertype (by rw [List.length_append]; omega)
        have more : types.map some ++ [some t] = (types ++ [t]).map some := by simp
        refine ⟨u, ?_, same⟩
        rw [more, unify_map_some (by simp), distinct_concat_of_not_mem known,
          unifyTypes_of_length_ne_one (by rw [List.length_append]; omega), common]

/-- Types of different keys are unified alike in every order. -/
theorem unify_alike_of_nodup {types types' : List Ty} (nodup : (types.map Ty.key).Nodup)
    (perm : types.Perm types') : (unify (types.map some)).Alike (unify (types'.map some)) := by
  refine unify_alike (perm.map some) fun t ht u hu same => ?_
  have back : (types.map some).filterMap id = types := by simp
  rw [back] at ht hu
  obtain rfl := List.inj_on_of_nodup_map nodup ht hu same
  exact ⟨rfl, rfl⟩

/-- What is returned depends on the set of types alone: not on a type whose key was returned before,
nor on a subtype that returns the common type, nor on the order. -/
theorem unify_of_same_types (returns : List (Option Ty)) :
    (∀ t u : Ty, some u ∈ returns → t.key = u.key →
        unify (returns ++ [some t]) = unify returns) ∧
      (∀ t, unify returns = .common t →
        ∃ u, unify (returns ++ [some t]) = .common u ∧ u.key = t.key) ∧
      ∀ types types' : List Ty, returns = types.map some → (types.map Ty.key).Nodup →
        types.Perm types' → (unify returns).Alike (unify (types'.map some)) := by
  refine ⟨fun _ _ => unify_concat_of_mem, fun _ => unify_concat_common, ?_⟩
  rintro types types' rfl nodup perm
  exact unify_alike_of_nodup nodup perm

/-- Bytes once more, their common type once more, and bytes the other way round. -/
theorem unify_of_same_types_bytes :
    let u8 := Ty.ofIdent (.generated "u8")
    let i8 := Ty.ofIdent (.generated "i8")
    let i16 := Ty.ofIdent (.generated "i16")
    unify [some u8, some i8, some u8] = unify [some u8, some i8] ∧
      (∃ t, unify [some u8, some i8, some i16] = .common t ∧ t.key = i16.key) ∧
        (unify [some u8, some i8]).Alike (unify [some i8, some u8]) := by
  intro u8 i8 i16
  obtain ⟨again, absorbed, reordered⟩ := unify_of_same_types [some u8, some i8]
  refine ⟨again u8 u8 (by simp) rfl, absorbed i16 rfl, ?_⟩
  exact reordered [u8, i8] [i8, u8] rfl (by decide) (List.Perm.swap i8 u8 [])

end SharedMembers
