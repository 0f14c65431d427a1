import SharedMembers.Proofs.Arity
import SharedMembers.Proofs.FreshNames

/-!
# What is taken in each place

An accessor takes in each place what all of the subtypes can be given. If none of the types that are
declared there borrows, that is anything that converts into all of them; a borrowed type cannot be
converted, so then it has to be the type of all.

* `Compatible`: the types go together as those of one argument.
* `Slot.Takes`: the slot for the types of one place.
* `exists_slotFor_iff`, `takes_of_slotFor`: one place.
* `exists_argumentSlots_iff`, `argumentSlots_spec`: all places.
* `parameterName_injective`: each place has a type parameter of its own.
* `argumentSlots_exact`: which arguments are taken, and how.
-/

namespace SharedMembers

/-! ## What is promised -/

/-- The types that the signatures declare in the `n`th place, one for each that has one. -/
def declaredAt (ss : List Signature) (n : Nat) : List Ty :=
  ss.filterMap (·.inputs[n]?)

/-- Types of one key borrow alike: both do, or none does. -/
def BorrowAlike (types : List Ty) : Prop :=
  ∀ t ∈ types, ∀ u ∈ types, t.key = u.key → t.borrows = u.borrows

instance (types : List Ty) : Decidable (BorrowAlike types) :=
  inferInstanceAs (Decidable (∀ t ∈ types, ∀ u ∈ types, t.key = u.key → t.borrows = u.borrows))

/-- The types go together as those of one argument: none of them borrows, or all have one key. -/
def Compatible (types : List Ty) : Prop :=
  (∀ t ∈ types, t.borrows = false) ∨ ∀ t ∈ types, ∀ u ∈ types, t.key = u.key

/-- The slot takes what the types of the `n`th place can be given. If they borrow, it is their
common type, as it is written first. Else it is whatever converts into the types, each key once and
as it is written first, in the order in which they come. -/
inductive Slot.Takes (n : Nat) (types : List Ty) : Slot → Prop where
  | exact (t : Ty) (first : types.head? = some t) (borrowed : t.borrows = true)
      (common : ∀ u ∈ types, u.key = t.key) : Takes n types (.exact t)
  | convertible (bounds : List Ty) (owned : ∀ t ∈ types, t.borrows = false)
      (once : (bounds.map Ty.key).Nodup) (spellings : FirstSpellings types bounds) :
      Takes n types (.convertible (.generated (parameterName n)) bounds)

/-! ## One place -/

/-- Types of one key borrow if the one that is kept of them does. -/
theorem any_borrows_distinct {types : List Ty} (alike : BorrowAlike types) :
    (distinct types).any Ty.borrows = types.any Ty.borrows := by
  rw [Bool.eq_iff_iff, List.any_eq_true, List.any_eq_true]
  constructor
  · rintro ⟨t, ht, borrowed⟩
    exact ⟨t, mem_distinct ht, borrowed⟩
  · rintro ⟨t, ht, borrowed⟩
    obtain ⟨u, hu, same⟩ := exists_mem_distinct ht
    exact ⟨u, hu, (alike u (mem_distinct hu) t ht same).trans borrowed⟩

theorem distinctFrom_eq_nil {seen : List String} {types : List Ty}
    (old : ∀ t ∈ types, t.key ∈ seen) : distinctFrom seen types = [] := by
  induction types with
  | nil => rfl
  | cons t ts ih =>
    rw [List.forall_mem_cons] at old
    rw [distinctFrom, if_pos (List.contains_iff_mem.2 old.1), ih old.2]

/-- Of types that all have one key the first is kept. -/
theorem distinct_of_same_key {types : List Ty}
    (same : ∀ t ∈ types, ∀ u ∈ types, t.key = u.key) : distinct types = types.head?.toList := by
  cases types with
  | nil => rfl
  | cons t ts =>
    show t :: distinctFrom [t.key] ts = [t]
    rw [distinctFrom_eq_nil]
    intro u hu
    rw [same u (List.mem_cons_of_mem _ hu) t List.mem_cons_self]
    exact List.mem_cons_self

/-- There is a slot for types that go together. -/
theorem exists_slotFor_of_compatible (n : Nat) {types : List Ty} (h : Compatible types) :
    ∃ slot, slotFor n (distinct types) = .ok slot := by
  rcases h with owned | same
  · have unborrowed : (distinct types).any Ty.borrows = false :=
      List.any_eq_false.2 fun t ht => by simp [owned t (mem_distinct ht)]
    exact ⟨_, slotFor_eq_ok_iff.2 (.inl ⟨unborrowed, rfl⟩)⟩
  · rw [distinct_of_same_key same]
    cases types with
    | nil => exact ⟨_, slotFor_eq_ok_iff.2 (.inl ⟨rfl, rfl⟩)⟩
    | cons t ts =>
      by_cases borrowed : t.borrows = true
      · exact ⟨_, slotFor_eq_ok_iff.2 (.inr ⟨t, rfl, borrowed, rfl⟩)⟩
      · exact ⟨_, slotFor_eq_ok_iff.2 (.inl ⟨by simpa using borrowed, rfl⟩)⟩

/-- There is a slot only for types that go together, and it takes what they can be given. -/
theorem takes_of_slotFor {n : Nat} {types : List Ty} {slot : Slot} (alike : BorrowAlike types)
    (h : slotFor n (distinct types) = .ok slot) : slot.Takes n types := by
  rcases slotFor_eq_ok_iff.1 h with ⟨unborrowed, rfl⟩ | ⟨t, one, borrowed, rfl⟩
  · rw [any_borrows_distinct alike, List.any_eq_false] at unborrowed
    exact .convertible _ (fun t ht => by simpa using unborrowed t ht) (distinct_keys_nodup types)
      (firstSpellings_distinct types)
  · have common : ∀ u ∈ types, u.key = t.key := fun u hu =>
      (key_eq_of_distinct_singleton one hu).symm
    refine .exact t ?_ borrowed common
    rw [distinct_of_same_key fun u hu v hv => (common u hu).trans (common v hv).symm] at one
    exact Option.toList_eq_singleton_iff.1 one

theorem Slot.Takes.compatible {n : Nat} {types : List Ty} {slot : Slot} (h : slot.Takes n types) :
    Compatible types := by
  cases h with
  | exact t _ _ common => exact .inr fun u hu v hv => (common u hu).trans (common v hv).symm
  | convertible _ owned => exact .inl owned

/-! ## All places -/

/-- The arguments are taken if there is a slot in each place. -/
theorem exists_argumentSlots_iff {ss : List Signature} {n : Nat} (nonempty : ss ≠ [])
    (arity : ∀ s ∈ ss, s.inputs.length = n) :
    (∃ slots, argumentSlots ss = .ok slots) ↔
      ∀ i < n, ∃ slot, slotFor i (distinct (declaredAt ss i)) = .ok slot := by
  constructor
  · rintro ⟨slots, h⟩ i hi
    obtain ⟨length, each⟩ := argumentSlots_spec nonempty arity h
    exact ⟨_, each i slots[i] (List.getElem?_eq_getElem (length ▸ hi))⟩
  · intro each
    obtain ⟨s, rest, rfl⟩ := List.exists_cons_of_ne_nil nonempty
    obtain ⟨slots, hslots⟩ := exists_forall₂_of_forall fun i (hi : i ∈ List.range n) =>
      each i (List.mem_range.1 hi)
    refine ⟨slots, ?_⟩
    rw [← arity s List.mem_cons_self] at hslots
    exact mapM_eq_ok_iff.2 hslots

/-- Each place has a type parameter of its own. -/
theorem parameterName_injective : Function.Injective parameterName := by
  intro m n same
  unfold parameterName at same
  rw [String.append_right_inj] at same
  exact toString_injective same

/-! ## Modules -/

/-- The arguments of a member that resolves are taken iff in each place the types that the subtypes
declare go together. Then there is a slot for each argument, which takes what the types can be
given, and no two slots share a type parameter. -/
theorem argumentSlots_exact {items kept : List Item} {c : Catalogue}
    (h : collect items = .ok (c, kept)) {types : List Ty} {k : Key} {ss : List Signature}
    (resolved : resolveAll (types.map c.table?) k = some ss) (nonempty : ss ≠ [])
    (alike : ∀ n < k.shape.inputs, BorrowAlike (declaredAt ss n)) :
    (∀ n < k.shape.inputs, ss.mapM (·.inputs[n]?) = some (declaredAt ss n)) ∧
    ((∃ slots, argumentSlots ss = .ok slots) ↔
      ∀ n < k.shape.inputs, Compatible (declaredAt ss n)) ∧
    ∀ slots, argumentSlots ss = .ok slots → slots.length = k.shape.inputs ∧
      (∀ (n : Nat) (slot : Slot), slots[n]? = some slot → slot.Takes n (declaredAt ss n)) ∧
      ∀ (m n : Nat) (p : Ident) (bounds bounds' : List Ty),
        slots[m]? = some (.convertible p bounds) → slots[n]? = some (.convertible p bounds') →
          m = n := by
  have fits := fits_of_provided (collect_fits h) (resolveAll_eq_some_iff_provides.1 resolved)
  have arity : ∀ s ∈ ss, s.inputs.length = k.shape.inputs := fun s hs => (fits s hs).inputs
  refine ⟨?_, ?_, ?_⟩
  · intro n hn
    exact mapM_getElem?_of_lt fun s hs => by rwa [arity s hs]
  · rw [exists_argumentSlots_iff nonempty arity]
    refine forall₂_congr fun n hn => ⟨fun ⟨slot, hslot⟩ => ?_, exists_slotFor_of_compatible n⟩
    exact (takes_of_slotFor (alike n hn) hslot).compatible
  · intro slots hslots
    obtain ⟨length, each⟩ := argumentSlots_spec nonempty arity hslots
    have takes (n : Nat) (slot : Slot) (found : slots[n]? = some slot) :
        slot.Takes n (declaredAt ss n) := by
      have hn : n < k.shape.inputs := length ▸ (List.getElem?_eq_some_iff.1 found).1
      exact takes_of_slotFor (alike n hn) (each n slot found)
    refine ⟨length, takes, ?_⟩
    intro m n p bounds bounds' atM atN
    have named {i : Nat} {b : List Ty} (found : slots[i]? = some (.convertible p b)) :
        p.name = parameterName i := by
      cases takes i _ found
      rfl
    exact parameterName_injective ((named atM).symm.trans (named atN))

/-- Two structs with a method of the name that takes a borrowed string, in parentheses or not, and
numbers of different types. -/
def labelling (method : String) : List Item :=
  let borrowed : Ty := .reference none none false (.ofName "str")
  [openStruct "Gauge" [], openStruct "Dial" [],
    openMethod "Gauge" method [borrowed, .ofName "u8"] none,
    openMethod "Dial" method [.paren none borrowed, .ofName "u16"] none]

/-- What a slot says, in texts: its type, and what that has to convert into. -/
def Slot.overview (slot : Slot) : List String :=
  slot.type.key :: match slot with
    | .convertible _ bounds => bounds.map Ty.key
    | .exact _ => []

theorem argumentSlots_exact_labelling :
    ∃ c kept ss slots, collect (labelling "label") = .ok (c, kept) ∧
      resolveAll (["Gauge", "Dial"].map fun t => c.table? (.ofName t)) ⟨"label", .call 2⟩ =
        some ss ∧ ss ≠ [] ∧
      (∀ n < 2, BorrowAlike (declaredAt ss n)) ∧ argumentSlots ss = .ok slots ∧
      slots.map Slot.overview = [["& str"], ["__SuperstructArg1", "u8", "u16"]] ∧
      (∀ n < 2, Compatible (declaredAt ss n)) ∧
      ∀ (n : Nat) (slot : Slot), slots[n]? = some slot → slot.Takes n (declaredAt ss n) := by
  obtain ⟨⟨c, kept⟩, h, seen⟩ := exists_ok_of_toOption (x := collect (labelling "label"))
    (f := fun r =>
      (resolveAll (["Gauge", "Dial"].map fun t => r.1.table? (.ofName t))
        ⟨"label", .call 2⟩).map fun ss =>
          (decide (∀ n ∈ List.range 2, BorrowAlike (declaredAt ss n)),
            (argumentSlots ss).toOption.map (·.map Slot.overview)))
    (b := some (true, some [["& str"], ["__SuperstructArg1", "u8", "u16"]]))
    (by decide +kernel)
  obtain ⟨ss, resolved, seen⟩ := Option.map_eq_some_iff.1 seen
  rw [Prod.mk.injEq, decide_eq_true_eq] at seen
  obtain ⟨listed, taken⟩ := seen
  obtain ⟨slots, hslots, overview⟩ := exists_ok_of_toOption taken
  have alike (n : Nat) (hn : n < 2) : BorrowAlike (declaredAt ss n) :=
    listed n (List.mem_range.2 hn)
  have nonempty : ss ≠ [] := by
    rintro rfl
    cases hslots
    cases overview
  have resolved' : resolveAll ([.ofName "Gauge", .ofName "Dial"].map c.table?) _ = some ss :=
    resolved
  obtain ⟨-, accepts, exact⟩ := argumentSlots_exact h resolved' nonempty alike
  exact ⟨c, kept, ss, slots, h, resolved, nonempty, alike, hslots, overview,
    accepts.1 ⟨slots, hslots⟩, (exact slots hslots).2.1⟩

end SharedMembers
