import SharedMembers.Proofs.SharedSets

/-!
# How visible nested wrappers are

A nested wrapper is as visible as the wrapper whose accessor is the first to need its types. Later
accessors return it whatever the visibility of their own wrappers, so an accessor that everyone may
call may return a wrapper that only the module may use.

Results:
* `Registry.Processes.origin`: a wrapper that is added belongs to the first wrapper that needs its
  types, and to the first accessor there, and is as visible as that wrapper.
* `output_visibility`: what an accessor returns stems from an enum of the module, and is as visible
  as this enum.
* `returns_less_visible_wrapper`: it may be less visible than the accessor's own wrapper.
-/

namespace SharedMembers

/-! ## Needing a set of types -/

/-- The accessor has to return a wrapper over the set. -/
def Accessor.needs (set : List String) (a : Accessor) : Bool :=
  match a.returns with
  | .distinct types => setKeyOf types == set
  | _ => false

theorem Accessor.needs_iff {set : List String} {a : Accessor} :
    a.needs set = true ↔ ∃ types, a.returns = .distinct types ∧ setKeyOf types = set := by
  rw [needs]
  split
  · next types distinct => simp [distinct]
  · next other =>
    simp only [Bool.false_eq_true, false_iff]
    rintro ⟨types, distinct, -⟩
    exact other types distinct

/-- An accessor of the wrapper has to return a wrapper over the set. -/
def Registry.Forwarded.needs (set : List String) (g : Registry.Forwarded) : Bool :=
  g.accessors.any (·.needs set)

/-- The wrapper belongs to another, and there to the first accessor that needs its types. -/
def Wrapper.BelongsTo (w : Wrapper) (g : Registry.Forwarded) : Prop :=
  ∃ a, g.accessors.find? (·.needs w.setKey) = some a ∧
    w.owner = some (g.wrapper.ident, a.key.name)

theorem Wrapper.BelongsTo.needs {w : Wrapper} {g : Registry.Forwarded} (h : w.BelongsTo g) :
    g.needs w.setKey = true := by
  obtain ⟨a, found, -⟩ := h
  exact List.any_eq_true.2 ⟨a, List.mem_of_find?_eq_some found, List.find?_some found⟩

/-! ## Wrappers that are added -/

/-- The wrapper was added to the registry for another, since there was none over its types. -/
structure Wrapper.AddedFor (w : Wrapper) (r : Registry) (g : Registry.Forwarded) : Prop where
  missing : r.find? w.setKey = none
  belongs : w.BelongsTo g
  visibility : w.visibility = g.wrapper.visibility

/-- More accessors come behind those that are there. -/
theorem Wrapper.AddedFor.append {w v : Wrapper} {r : Registry} {as : List Accessor}
    (h : v.AddedFor r ⟨w, as⟩) (more : List Accessor) : v.AddedFor r ⟨w, as ++ more⟩ := by
  obtain ⟨missing, ⟨a, found, owner⟩, visibility⟩ := h
  refine ⟨missing, ⟨a, ?_, owner⟩, visibility⟩
  rw [List.find?_append, found, Option.some_or]

/-- What is needed is there: the registry has a wrapper over each set that an accessor needs. -/
def Registry.Meets (r : Registry) (as : List Accessor) : Prop :=
  ∀ a ∈ as, ∀ set, a.needs set = true → r.find? set ≠ none

theorem find?_eq_none_of_more {r r' : Registry} {set : List String}
    (more : r.wrappers <+: r'.wrappers) (h : r'.find? set = none) : r.find? set = none :=
  find?_eq_none_iff.2 fun w hw => find?_eq_none_iff.1 h w (more.subset hw)

/-- One more accessor has what it needs. -/
theorem Registry.Gives.meets {c : Catalogue} {r r' : Registry} {w : Wrapper} {k : Key} {p : Plan}
    {output : Option Ty} {ss : List Signature} {as : List Accessor}
    (gives : r.Gives w k p r' output) (provided : List.Forall₂ (c.Provides k) w.types ss)
    (plan : p.For c k ss) (h : r.Meets as) : r'.Meets (as ++ [p.accessor w k ss output]) := by
  refine List.forall_mem_append.2 ⟨fun a ha set needs missing => ?_, List.forall_mem_singleton.2 ?_⟩
  · exact h a ha set needs (find?_eq_none_of_more gives.wrappers_prefix missing)
  · intro set needs
    obtain ⟨types, distinct, rfl⟩ := Accessor.needs_iff.1 needs
    rw [plan.returns_accessor provided] at distinct
    obtain ⟨v, found, -⟩ := gives.finds distinct
    rw [found]
    simp

/-- While the members of a wrapper are forwarded, the registry meets what the accessors need, and
the wrappers that are added are added for this wrapper. -/
structure Forwarding.Grows (r : Registry) (w : Wrapper) (f : Forwarding) : Prop where
  meets : f.registry.Meets f.accessors
  added : ∃ vs, f.registry.wrappers = r.wrappers ++ vs ∧
    ∀ v ∈ vs, v.AddedFor r ⟨w, f.accessors⟩

/-- A nested wrapper is added for the first accessor that needs its types: an earlier one would have
found a wrapper over them. -/
theorem Forwarding.Grows.nested {r : Registry} {w v : Wrapper} {f : Forwarding} {member : String}
    {types : List Ty} (h : f.Grows r w) (missing : f.registry.find? (setKeyOf types) = none)
    (made : f.registry.nestedWrapper w member types = .ok v) {a : Accessor}
    (key : a.key.name = member) (returns : a.returns = .distinct types) :
    v.AddedFor r ⟨w, f.accessors ++ [a]⟩ := by
  obtain ⟨vs, wrappers, -⟩ := h.added
  obtain ⟨owner, visibility⟩ := nestedWrapper_owner made
  have set := nestedWrapper_setKey made
  rw [← set] at missing
  have unneeded : f.accessors.find? (·.needs v.setKey) = none :=
    List.find?_eq_none.2 fun b hb needs => h.meets b hb _ needs missing
  have needs : a.needs v.setKey = true := Accessor.needs_iff.2 ⟨types, returns, set.symm⟩
  have none_before := find?_eq_none_of_more ⟨vs, wrappers.symm⟩ missing
  refine ⟨none_before, ⟨a, ?_, by rw [key, owner]⟩, visibility⟩
  rw [List.find?_append, unneeded, Option.none_or]
  exact List.find?_cons_of_pos needs

theorem Forwarding.Grows.step {c : Catalogue} {r : Registry} {w : Wrapper} {k : Key}
    {f f' : Forwarding} (h : f.Grows r w) (step : f.Step c w k f') : f'.Grows r w := by
  cases step with
  | lacking => exact h
  | refused => exact ⟨h.meets, h.added⟩
  | forwarded ss provided p fresh plan r' output gives =>
    refine ⟨gives.meets provided plan h.meets, ?_⟩
    obtain ⟨vs, wrappers, added⟩ := h.added
    have kept : ∀ v ∈ vs, v.AddedFor r ⟨w, f.accessors ++ [p.accessor w k ss output]⟩ :=
      fun v hv => (added v hv).append _
    cases gives with
    | nested types v distinct missing made =>
      refine ⟨vs ++ [v], ?_, List.forall_mem_append.2 ⟨kept, List.forall_mem_singleton.2 ?_⟩⟩
      · show f.registry.wrappers ++ [v] = _
        rw [wrappers, List.append_assoc]
      · exact h.nested missing made rfl ((plan.returns_accessor provided _).trans distinct)
    | nothing | value | reference | existing => exact ⟨vs, wrappers, kept⟩

theorem Forwarding.Grows.start (c : Catalogue) (r : Registry) (w : Wrapper) :
    (Forwarding.start c r w).Grows r w where
  meets _ ha := absurd ha List.not_mem_nil
  added := ⟨[], (List.append_nil _).symm, List.forall_mem_nil _⟩

theorem grows_of_forward {c : Catalogue} {r : Registry} {w : Wrapper} {f : Forwarding}
    (ok : r.forward c w = .ok f) : f.Grows r w :=
  forward_induction (P := fun f => f.Grows r w) (fun _ _ _ _ h step => h.step step)
    (.start c r w) ok

/-- A wrapper that the loop adds is added for the first wrapper that needs its types, which stands
before it. -/
theorem Registry.Processes.origin {c : Catalogue} {index : Nat} {r last : Registry}
    {all : List Registry.Forwarded} {warnings : List Warning}
    (h : Registry.Processes c index r (.ok (all, warnings, last))) {place : Nat} {v : Wrapper}
    (hv : last.wrappers[place]? = some v) :
    place < r.wrappers.length ∨
      ∃ i g, all[i]? = some g ∧ index + i < place ∧ all.find? (·.needs v.setKey) = some g ∧
        v.AddedFor r g := by
  generalize eq : Except.ok (all, warnings, last) = outcome at h
  induction h generalizing all warnings last with
  | finished beyond =>
    cases eq
    exact .inl (List.getElem?_eq_some_iff.1 hv).1
  | failed => cases eq
  | stopped => cases eq
  | @next index r w f later _ _ found ok rest ih =>
    cases eq
    have grows := grows_of_forward ok
    obtain ⟨vs, wrappers, added⟩ := grows.added
    rcases ih hv rfl with here | ⟨i, g, hg, before, first, missing, belongs, visibility⟩
    · by_cases old : place < r.wrappers.length
      · exact .inl old
      · -- It was added while the members of this very wrapper were forwarded.
        obtain ⟨later, eq⟩ := rest.processed.grows
        rw [← eq, List.getElem?_append_left here, wrappers,
          List.getElem?_append_right (by omega)] at hv
        have one := added v (List.mem_of_getElem? hv)
        have bound := (List.getElem?_eq_some_iff.1 found).1
        exact .inr ⟨0, _, rfl, by omega, List.find?_cons_of_pos one.belongs.needs, one⟩
    · -- This wrapper did not need the types, or there would be a wrapper over them.
      have unneeded : ¬ Registry.Forwarded.needs v.setKey ⟨w, f.accessors⟩ = true := by
        intro needs
        obtain ⟨a, ha, needs⟩ := List.any_eq_true.1 needs
        exact grows.meets a ha _ needs missing
      have none_before := find?_eq_none_of_more ⟨vs, wrappers.symm⟩ missing
      refine .inr ⟨i + 1, g, hg, by omega, ?_, none_before, belongs, visibility⟩
      rw [List.find?_cons_of_neg unneeded, first]

/-! ## Where wrappers stem from -/

/-- The wrapper stems from an enum of the module: the enum declares it, or it belongs to the first
wrapper that needs its types, and that one stems from the enum. -/
inductive Expansion.StemsFrom (e : Expansion) (item : EnumItem) : Registry.Forwarded → Prop where
  | declared {g : Registry.Forwarded} (listed : .enum item ∈ e.module.items.getD [])
      (directed : (Item.enum item).declaresWrapper = true) (name : g.wrapper.ident = item.ident)
      (unowned : g.wrapper.owner = none) : StemsFrom e item g
  | nested {g p : Registry.Forwarded}
      (first : e.wrappers.find? (·.needs g.wrapper.setKey) = some p)
      (belongs : g.wrapper.BelongsTo p) (stems : StemsFrom e item p) : StemsFrom e item g

/-- A wrapper that is emitted is declared by an enum of the module, or it is added for a wrapper
that stands before it, the first that needs its types. -/
theorem expand_origin {m : Module} {library : Path} {e : Expansion}
    (h : m.expand library = .ok e) {place : Nat} {v : Registry.Forwarded}
    (hv : e.wrappers[place]? = some v) :
    (∃ item, .enum item ∈ e.module.items.getD [] ∧ (Item.enum item).declaresWrapper = true ∧
        v.wrapper.DeclaredBy item) ∨
      ∃ i p, e.wrappers[i]? = some p ∧ i < place ∧
        e.wrappers.find? (·.needs v.wrapper.setKey) = some p ∧ v.wrapper.BelongsTo p ∧
        v.wrapper.visibility = p.wrapper.visibility := by
  obtain ⟨c, kept, start, last, prepared, processes, -, emitted, -⟩ := expand_orderly h
  obtain ⟨items, others, inline, parted, -⟩ := prepare_eq_ok prepared
  have held : last.wrappers[place]? = some v.wrapper := by
    rw [← emitted, List.getElem?_map, hv]
    rfl
  rcases processes.origin held with old | ⟨i, p, hp, before, first, -, belongs, visibility⟩
  · obtain ⟨more, eq⟩ := processes.processed.grows
    rw [← eq, List.getElem?_append_left old] at held
    obtain ⟨item, listed, declared⟩ := takeWrappers_declared parted (List.mem_of_getElem? held)
    obtain ⟨_, _, _, _, _, same⟩ := expand_eq_ok h
    rw [← show e.module = m by rw [same]] at inline
    exact .inl ⟨item, by rwa [inline], declared⟩
  · exact .inr ⟨i, p, hp, by omega, first, belongs, visibility⟩

/-- A wrapper that is emitted stems from an enum and is as visible: owners stand before the
wrappers that belong to them. -/
theorem exists_stemsFrom {m : Module} {library : Path} {e : Expansion}
    (h : m.expand library = .ok e) {place : Nat} {v : Registry.Forwarded}
    (hv : e.wrappers[place]? = some v) :
    ∃ item, e.StemsFrom item v ∧ v.wrapper.visibility = item.visibility := by
  induction place using Nat.strong_induction_on generalizing v with
  | _ place ih =>
    rcases expand_origin h hv with ⟨item, listed, directed, declared⟩ |
      ⟨i, p, hp, before, first, belongs, visibility⟩
    · exact ⟨item, .declared listed directed declared.ident declared.unowned, declared.visibility⟩
    · obtain ⟨item, stems, same⟩ := ih i before hp
      exact ⟨item, .nested first belongs stems, visibility.trans same⟩

/-- An accessor that needs a wrapper over different types returns the first one over them. This
wrapper stems from an enum of the module and is as visible as the enum. It is as visible as the
accessor's own wrapper if this is the first to need the types and none over them is declared. -/
theorem output_visibility {m : Module} {library : Path} {e : Expansion}
    (h : m.expand library = .ok e) {g : Registry.Forwarded} (hg : g ∈ e.wrappers) {a : Accessor}
    (ha : a ∈ g.accessors) {types : List Ty} (distinct : a.returns = .distinct types) :
    ∃ v item, e.wrappers.find? (·.wrapper.setKey == setKeyOf types) = some v ∧
      a.output = some (.ofIdent v.wrapper.ident) ∧ e.StemsFrom item v ∧
      v.wrapper.visibility = item.visibility ∧
      (v.wrapper.owner.isSome = true → e.wrappers.find? (·.needs (setKeyOf types)) = some g →
        v.wrapper.visibility = g.wrapper.visibility) := by
  obtain ⟨c, kept, start, last, -, processes, -, emitted, -⟩ := expand_orderly h
  obtain ⟨first, made⟩ := processes.processed.made g hg
  obtain ⟨w, registered, output⟩ := (made a ha).finds distinct
  rw [Registry.find?_eq, ← emitted, List.find?_map] at registered
  obtain ⟨v, found, rfl⟩ := Option.map_eq_some_iff.1 registered
  obtain ⟨place, hv⟩ := List.getElem?_of_mem (List.mem_of_find?_eq_some found)
  obtain ⟨item, stems, same⟩ := exists_stemsFrom h hv
  refine ⟨v, item, found, output, stems, same, fun nested alone => ?_⟩
  rcases expand_origin h hv with ⟨item, -, -, declared⟩ | ⟨i, p, -, -, needs, -, visibility⟩
  · rw [declared.unowned] at nested
    cases nested
  · have set : v.wrapper.setKey = setKeyOf types := by simpa using List.find?_some found
    rw [set, alone] at needs
    cases needs
    exact visibility

/-! ## A wrapper for the module only -/

/-- Everyone may use the thing. -/
def Visibility.isPublic : Visibility → Bool
  | everywhere _ => true
  | inherited | restricted .. => false

/-- The item, which only its own module may use if it is an enum. -/
def Item.hideEnum : Item → Item
  | .enum e => .enum { e with visibility := .inherited }
  | item => item

/-- Two structs with tags of different types, and two wrappers over them, of which the first is for
the module only. -/
def veiled : Module :=
  moduleOf
    [openStruct "A" [openField "tag" (.ofName "i32")],
      openStruct "B" [openField "tag" (.ofName "String")],
      (declaringEnum "P" ["A", "B"]).hideEnum, declaringEnum "W" ["A", "B"]]

/-- The accessors that need a wrapper over different types: the name of their own wrapper, that of
the wrapper that they return, and whether everyone may use each of the two. -/
def Expansion.lent (e : Expansion) : List ((String × Bool) × (String × Bool)) :=
  let view := fun g : Registry.Forwarded => (g.wrapper.ident.name, g.wrapper.visibility.isPublic)
  e.wrappers.flatMap fun g => g.accessors.flatMap fun a =>
    match a.returns with
    | .distinct _ => (e.wrappers.filter fun v =>
        a.output.map Ty.key == some v.wrapper.ident.name).map fun v => (view g, view v)
    | _ => []

theorem exists_of_mem_lent {e : Expansion} {own other : String × Bool}
    (h : (own, other) ∈ e.lent) :
    ∃ g ∈ e.wrappers, ∃ a ∈ g.accessors, ∃ types, a.returns = .distinct types ∧
      ∃ v ∈ e.wrappers, a.output.map Ty.key = some v.wrapper.ident.name ∧
        (g.wrapper.ident.name, g.wrapper.visibility.isPublic) = own ∧
        (v.wrapper.ident.name, v.wrapper.visibility.isPublic) = other := by
  obtain ⟨g, hg, h⟩ := List.mem_flatMap.1 h
  obtain ⟨a, ha, h⟩ := List.mem_flatMap.1 h
  split at h
  · next types distinct =>
    obtain ⟨v, hv, eq⟩ := List.mem_map.1 h
    cases eq
    obtain ⟨hv, named⟩ := List.mem_filter.1 hv
    exact ⟨g, hg, a, ha, types, distinct, v, hv, eq_of_beq named, rfl, rfl⟩
  · cases h

theorem veiled_lent :
    ∃ e, veiled.expand defaultLibrary = .ok e ∧
      e.lent = [(("P", false), ("PTag", false)), (("W", true), ("PTag", false))] :=
  exists_ok_of_toOption (by decide +kernel)

theorem output_visibility_veiled :
    ∃ (e : Expansion) (g : Registry.Forwarded) (a : Accessor) (types : List Ty),
      veiled.expand defaultLibrary = .ok e ∧ g ∈ e.wrappers ∧ a ∈ g.accessors ∧
      a.returns = .distinct types ∧ g.wrapper.ident.name = "W" ∧
      ∃ v item, e.wrappers.find? (·.wrapper.setKey == setKeyOf types) = some v ∧
        a.output = some (.ofIdent v.wrapper.ident) ∧ e.StemsFrom item v ∧
        v.wrapper.visibility = item.visibility := by
  obtain ⟨e, expanded, lent⟩ := veiled_lent
  have mem : (("W", true), ("PTag", false)) ∈ e.lent := by
    rw [lent]
    decide
  obtain ⟨g, hg, a, ha, types, distinct, -, -, -, own, -⟩ := exists_of_mem_lent mem
  obtain ⟨v, item, found, output, stems, visibility, -⟩ :=
    output_visibility expanded hg ha distinct
  exact ⟨e, g, a, types, expanded, hg, ha, distinct, congrArg Prod.fst own, v, item, found, output,
    stems, visibility⟩

/-- Everyone may use the second wrapper, but only the module what its accessor returns. -/
theorem returns_less_visible_wrapper :
    ∃ e, veiled.expand defaultLibrary = .ok e ∧ ∃ g ∈ e.wrappers, ∃ a ∈ g.accessors,
      ∃ types, a.returns = .distinct types ∧ g.wrapper.visibility.isPublic = true ∧
        ∃ v ∈ e.wrappers, a.output.map Ty.key = some v.wrapper.ident.name ∧
          v.wrapper.visibility.isPublic = false := by
  obtain ⟨e, expanded, lent⟩ := veiled_lent
  have mem : (("W", true), ("PTag", false)) ∈ e.lent := by
    rw [lent]
    decide
  obtain ⟨g, hg, a, ha, types, distinct, v, hv, named, own, other⟩ := exists_of_mem_lent mem
  exact ⟨e, expanded, g, hg, a, ha, types, distinct, congrArg Prod.snd own, v, hv, named,
    congrArg Prod.snd other⟩

end SharedMembers
