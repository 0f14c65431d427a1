import SharedMembers.Proofs.Registration

/-!
# Wrappers over one set of types

Several wrappers may be declared over the same types. An accessor that needs a wrapper over these
types returns the first of them, even if it is an accessor of another.

Results:
* `Accessor.Made.finds`: an accessor returns the first wrapper over the types that the subtypes
  return.
* `returns_own_wrapper_iff`: an accessor whose subtypes return the types of its own wrapper returns
  this wrapper iff no earlier one is over the same types.
* `returns_earlier_wrapper`: it may be another.
-/

namespace SharedMembers

/-! ## The first wrapper over some types -/

/-- What is found first stays first when wrappers are added. -/
theorem find?_of_prefix {r r' : Registry} {set : List String} {w : Wrapper}
    (more : r.wrappers <+: r'.wrappers) (h : r.find? set = some w) : r'.find? set = some w := by
  obtain ⟨added, eq⟩ := more
  rw [Registry.find?_eq] at h ⊢
  rw [← eq, List.find?_append, h]
  rfl

theorem Registry.Gives.finds {r r' : Registry} {w : Wrapper} {k : Key} {p : Plan}
    {output : Option Ty} {types : List Ty} (gives : r.Gives w k p r' output)
    (distinct : p.returns = .distinct types) :
    ∃ v, r'.find? (setKeyOf types) = some v ∧ output = some (.ofIdent v.ident) := by
  obtain ⟨v, eq, ⟨found, rfl⟩ | ⟨missing, made, rfl⟩⟩ := gives.of_distinct distinct
  · exact ⟨v, found, eq⟩
  · refine ⟨v, ?_, eq⟩
    rw [Registry.find?_eq] at missing ⊢
    show (r.wrappers ++ [v]).find? _ = _
    rw [List.find?_append, missing, Option.none_or]
    exact List.find?_cons_of_pos (beq_iff_eq.2 (nestedWrapper_setKey made))

/-- An accessor whose subtypes return different types returns the first wrapper over them. -/
theorem Accessor.Made.finds {c : Catalogue} {w : Wrapper} {first last : Registry} {a : Accessor}
    {types : List Ty} (made : a.Made c w first last) (distinct : a.returns = .distinct types) :
    ∃ v, last.find? (setKeyOf types) = some v ∧ a.output = some (.ofIdent v.ident) := by
  obtain ⟨provided, plan, gives, -, held⟩ := made
  rw [plan.returns_accessor provided] at distinct
  obtain ⟨v, found, output⟩ := gives.finds distinct
  exact ⟨v, find?_of_prefix held found, output⟩

/-! ## Returning the own wrapper -/

theorem ofIdent_injective {i j : Ident} (h : Ty.ofIdent i = Ty.ofIdent j) : i = j := by
  simpa [Ty.ofIdent, Path.ofIdent] using h

/-- An accessor whose subtypes return exactly the types of its own wrapper returns this wrapper iff
no wrapper before it is over the same types. -/
theorem returns_own_wrapper_iff {m : Module} {library : Path} {e : Expansion}
    (h : m.expand library = .ok e) {place : Nat} {g : Registry.Forwarded}
    (hg : e.wrappers[place]? = some g) {a : Accessor} (ha : a ∈ g.accessors) {types : List Ty}
    (distinct : a.returns = .distinct types) (own : setKeyOf types = g.wrapper.setKey) :
    a.output = some (.ofIdent g.wrapper.ident) ↔
      ∀ earlier < place, ∀ g', e.wrappers[earlier]? = some g' →
        g'.wrapper.setKey ≠ g.wrapper.setKey := by
  obtain ⟨c, kept, start, last, -, processes, -, emitted, orderly⟩ := expand_orderly h
  have at_place : ∀ (n : Nat) (g : Registry.Forwarded), e.wrappers[n]? = some g →
      last.wrappers[n]? = some g.wrapper := by
    intro n g hn
    rw [← emitted, List.getElem?_map, hn]
    rfl
  obtain ⟨first, made⟩ := processes.processed.made g (List.mem_of_getElem? hg)
  obtain ⟨v, found, output⟩ := (made a ha).finds distinct
  rw [own, Registry.find?_eq, List.find?_eq_some_iff_getElem] at found
  obtain ⟨same, n, bound, rfl, none_before⟩ := found
  obtain ⟨place_bound, g_eq⟩ := List.getElem?_eq_some_iff.1 (at_place _ _ hg)
  rw [output]
  constructor
  · intro equal
    have ident := ofIdent_injective (Option.some.inj equal)
    -- Names tell the wrappers apart, so the one that is found stands at this very place.
    have names : (last.wrappers.map (·.ident.name))[n]? =
        (last.wrappers.map (·.ident.name))[place]? := by
      rw [List.getElem?_map, List.getElem?_map, List.getElem?_eq_getElem bound,
        List.getElem?_eq_getElem place_bound, Option.map_some, Option.map_some, ident, g_eq]
    obtain rfl := (List.getElem?_inj (by rwa [List.length_map]) orderly.named).1 names
    intro earlier before g' hg' again
    obtain ⟨_, g'_eq⟩ := List.getElem?_eq_some_iff.1 (at_place _ _ hg')
    have other := none_before earlier before
    rw [g'_eq, again] at other
    simp at other
  · intro alone
    rcases Nat.lt_trichotomy n place with before | rfl | after
    · -- A wrapper that is found before this place would be over the same types.
      have hn : n < e.wrappers.length := by
        rw [← List.length_map (·.wrapper), emitted]
        exact bound
      have here := at_place n _ (List.getElem?_eq_getElem hn)
      obtain ⟨_, n_eq⟩ := List.getElem?_eq_some_iff.1 here
      rw [n_eq] at same
      exact absurd (eq_of_beq same) (alone n before _ (List.getElem?_eq_getElem hn))
    · rw [g_eq]
    · have other := none_before place after
      rw [g_eq] at other
      simp at other

/-! ## Two wrappers over the same types -/

/-- Two structs whose values give values of their own types, and two wrappers over them. -/
def twins : Module :=
  moduleOf
    [openStruct "A" [], openStruct "B" [], openMethod "A" "twin" [] (some (.ofName "Self")),
      openMethod "B" "twin" [] (some (.ofName "Self")),
      declaringEnum "First" ["A", "B"], declaringEnum "Second" ["B", "A"]]

/-- The accessors whose subtypes return exactly the types of the accessor's wrapper: the name of this
wrapper, and the key of what the accessor returns. -/
def Expansion.ownReturns (e : Expansion) : List (String × Option String) :=
  e.wrappers.flatMap fun g => (g.accessors.filter fun a =>
      match a.returns with
      | .distinct types => setKeyOf types == g.wrapper.setKey
      | _ => false).map fun a => (g.wrapper.ident.name, a.output.map Ty.key)

theorem exists_of_mem_ownReturns {e : Expansion} {name : String} {key : Option String}
    (h : (name, key) ∈ e.ownReturns) :
    ∃ g ∈ e.wrappers, ∃ a ∈ g.accessors, ∃ types, a.returns = .distinct types ∧
      setKeyOf types = g.wrapper.setKey ∧ g.wrapper.ident.name = name ∧
        a.output.map Ty.key = key := by
  obtain ⟨g, hg, h⟩ := List.mem_flatMap.1 h
  obtain ⟨a, ha, eq⟩ := List.mem_map.1 h
  cases eq
  obtain ⟨ha, own⟩ := List.mem_filter.1 ha
  split at own
  · next types distinct => exact ⟨g, hg, a, ha, types, distinct, eq_of_beq own, rfl, rfl⟩
  · cases own

theorem twins_ownReturns :
    ∃ e, twins.expand defaultLibrary = .ok e ∧
      e.ownReturns = [("First", some "First"), ("Second", some "First")] :=
  exists_ok_of_toOption (by decide +kernel)

theorem returns_own_wrapper_iff_twins :
    ∃ (e : Expansion) (place : Nat) (g : Registry.Forwarded) (a : Accessor) (types : List Ty),
      twins.expand defaultLibrary = .ok e ∧ e.wrappers[place]? = some g ∧ a ∈ g.accessors ∧
      a.returns = .distinct types ∧ setKeyOf types = g.wrapper.setKey ∧
      g.wrapper.ident.name = "Second" ∧
      (a.output = some (.ofIdent g.wrapper.ident) ↔
        ∀ earlier < place, ∀ g', e.wrappers[earlier]? = some g' →
          g'.wrapper.setKey ≠ g.wrapper.setKey) := by
  obtain ⟨e, expanded, own⟩ := twins_ownReturns
  have second : ("Second", some "First") ∈ e.ownReturns := by
    rw [own]
    decide
  obtain ⟨g, hg, a, ha, types, distinct, same, name, -⟩ := exists_of_mem_ownReturns second
  obtain ⟨place, hplace⟩ := List.getElem?_of_mem hg
  exact ⟨e, place, g, a, types, expanded, hplace, ha, distinct, same, name,
    returns_own_wrapper_iff expanded hplace ha distinct same⟩

/-- The values that the subtypes of the second wrapper give are held by the first. -/
theorem returns_earlier_wrapper :
    ∃ e, twins.expand defaultLibrary = .ok e ∧ ∃ g ∈ e.wrappers, ∃ a ∈ g.accessors,
      ∃ types, a.returns = .distinct types ∧ setKeyOf types = g.wrapper.setKey ∧
        a.output ≠ some (.ofIdent g.wrapper.ident) := by
  obtain ⟨e, expanded, own⟩ := twins_ownReturns
  have second : ("Second", some "First") ∈ e.ownReturns := by
    rw [own]
    decide
  obtain ⟨g, hg, a, ha, types, distinct, same, name, key⟩ := exists_of_mem_ownReturns second
  refine ⟨e, expanded, g, hg, a, ha, types, distinct, same, fun output => ?_⟩
  rw [output, Option.map_some, Ty.key_ofIdent, name] at key
  exact absurd key (by decide)

end SharedMembers
