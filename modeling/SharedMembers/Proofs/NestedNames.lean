import SharedMembers.Proofs.Registration

/-!
# The names of nested wrappers

A nested wrapper gets the first candidate for the name of its owner and member that no type or trait
of the module and no other wrapper has. Other names are not looked at: those of modules, of imports
and of libraries. Nor is a raw name the same text as the name that it spells.

Results:
* `takeNames_subset`: only the names of wrappers are taken besides the defined ones.
* `Registry.Recorded.step`: the names that are taken stay those of the module and of wrappers.
* `nested_name_clash`: how a nested wrapper is called, and with which items it can share its name.
* `shadows_import`: with an import, a module or a type with a raw name it does.
-/

namespace SharedMembers

/-! ## Raw names -/

/-- The name that an identifier spells: without the mark of raw names. -/
def Ident.plainName (i : Ident) : String :=
  match i.name.toList with
  | 'r' :: '#' :: cs => String.ofList cs
  | _ => i.name

/-- A name is what it spells, or that with the mark of raw names. -/
theorem Ident.name_cases (i : Ident) : i.name = i.plainName ∨ i.name = "r#" ++ i.plainName := by
  unfold Ident.plainName
  split
  · next cs raw =>
    right
    rw [← String.toList_inj, raw]
    simp [String.toList_append, String.toList_ofList]
  · exact .inl rfl

/-! ## How nested wrappers are called -/

/-- The name of a nested wrapper is none of the defined ones. It is a candidate for the name of its
owner and member, and the candidates before it are defined, or names of wrappers. -/
structure Wrapper.Numbered (defined : List String) (wrappers : List Wrapper) (w : Wrapper) : Prop where
  apart : w.ident.name ∉ defined
  chosen : ∃ owner member n, w.owner = some (owner, member) ∧
    w.ident.name = candidate (owner.name ++ Text.camel member) n ∧
    ∀ j < n, candidate (owner.name ++ Text.camel member) j ∈ defined ∨
      ∃ v ∈ wrappers, v.ident.name = candidate (owner.name ++ Text.camel member) j

theorem Wrapper.Numbered.mono {defined : List String} {wrappers wrappers' : List Wrapper}
    {w : Wrapper} (h : w.Numbered defined wrappers) (more : wrappers ⊆ wrappers') :
    w.Numbered defined wrappers' := by
  obtain ⟨apart, owner, member, n, owned, name, before⟩ := h
  refine ⟨apart, owner, member, n, owned, name, fun j hj => ?_⟩
  exact (before j hj).imp_right fun ⟨v, hv, same⟩ => ⟨v, more hv, same⟩

/-- What is taken are the defined names and those of the wrappers, and the nested wrappers are
numbered by them. -/
structure Registry.Recorded (defined : List String) (r : Registry) : Prop where
  reserved : defined ⊆ r.taken
  taken : ∀ name ∈ r.taken, name ∈ defined ∨ ∃ v ∈ r.wrappers, v.ident.name = name
  numbered : ∀ w ∈ r.wrappers, w.owner.isSome = true → w.Numbered defined r.wrappers

/-- A nested wrapper is numbered by the names that are taken. -/
theorem Registry.Recorded.nestedWrapper {defined : List String} {r : Registry}
    {parent w : Wrapper} {member : String} {types : List Ty} (h : r.Recorded defined)
    (made : r.nestedWrapper parent member types = .ok w) : w.Numbered defined r.wrappers := by
  refine ⟨fun old => nestedWrapper_free made (h.reserved old), parent.ident, member, ?_⟩
  obtain ⟨n, first, before⟩ := firstFree_least r.taken (parent.ident.name ++ Text.camel member)
  refine ⟨n, (nestedWrapper_owner made).1, ?_, fun j hj => h.taken _ (before j hj)⟩
  rw [(nestedWrapper_names made).1, first]

/-- One more nested wrapper is recorded. -/
theorem Registry.Recorded.add {defined : List String} {r : Registry} {w : Wrapper}
    (h : r.Recorded defined) (numbered : w.Numbered defined r.wrappers) :
    (r.add w).Recorded defined where
  reserved _ hname := List.mem_cons_of_mem _ (h.reserved hname)
  taken name hname := by
    rcases List.mem_cons.1 hname with rfl | hname
    · exact .inr ⟨w, List.mem_append_right _ List.mem_cons_self, rfl⟩
    · exact (h.taken name hname).imp_right fun ⟨v, hv, same⟩ =>
        ⟨v, List.mem_append_left _ hv, same⟩
  numbered := by
    have more : r.wrappers ⊆ (r.add w).wrappers := List.subset_append_left _ _
    exact forall_mem_push (fun v hv nested => (h.numbered v hv nested).mono more)
      fun _ => numbered.mono more

/-- Forwarding one member leaves the names recorded. -/
theorem Registry.Recorded.step {defined : List String} {c : Catalogue} {w : Wrapper} {k : Key}
    {f f' : Forwarding} (h : f.registry.Recorded defined) (step : f.Step c w k f') :
    f'.registry.Recorded defined := by
  cases step with
  | lacking => exact h
  | refused => exact h
  | forwarded ss provided p fresh plan r output gives =>
    cases gives with
    | nested types v distinct missing made => exact h.add (h.nestedWrapper made)
    | _ => exact h

/-! ## The names of a module -/

/-- Only the names of the wrappers are taken besides those that were taken. -/
theorem takeNames_subset {taken names : List String} {ws : List Wrapper}
    (h : takeNames taken ws = .ok names) :
    ∀ name ∈ names, name ∈ taken ∨ ∃ w ∈ ws, w.ident.name = name := by
  induction ws generalizing taken with
  | nil =>
    cases h
    exact fun name hname => .inl hname
  | cons w ws ih =>
    rw [takeNames] at h
    split at h
    · cases h
    · intro name hname
      rcases ih h name hname with hname | ⟨v, hv, same⟩
      · rcases List.mem_cons.1 hname with rfl | hname
        · exact .inr ⟨w, List.mem_cons_self, rfl⟩
        · exact .inl hname
      · exact .inr ⟨v, List.mem_cons_of_mem _ hv, same⟩

/-- The names that the other items define are names that the module defines. -/
theorem definedNames_kept_subset {m : Module} {c : Catalogue} {items others kept : List Item}
    {ws : List Wrapper} (inline : m.items = some items)
    (parted : takeWrappers items = .ok (ws, others)) (collected : collect others = .ok (c, kept)) :
    SharedMembers.definedNames kept ⊆ m.definedNames := by
  intro name hname
  rw [definedNames_kept collected] at hname
  obtain ⟨item, hitem, named⟩ := List.mem_filterMap.1 hname
  rw [Module.definedNames, inline]
  exact List.mem_filterMap.2 ⟨item, takeWrappers_subset parted hitem, named⟩

/-- The names of the module that is prepared are recorded. -/
theorem recorded_of_prepare {m : Module} {c : Catalogue} {kept : List Item} {r : Registry}
    (h : m.prepare = .ok (c, kept, r)) : r.Recorded m.definedNames := by
  obtain ⟨items, others, inline, parted, collected, named, -⟩ := prepare_eq_ok h
  have orderly : r.Orderly m.definedNames := orderly_of_stage h (Registry.Stage.start h)
  refine ⟨orderly.reserved, fun name hname => ?_, fun w hw nested => ?_⟩
  · exact (takeNames_subset named name hname).imp_left fun defined =>
      definedNames_kept_subset inline parted collected defined
  · -- A declared wrapper has no owner.
    rw [((takeWrappers_declares parted).1 w hw).2] at nested
    cases nested

/-- A nested wrapper is called as its owner and member, with a number only if that is the name of a
type or trait of the module or of another wrapper. So the name is also that of an item only if it is
not one of those that are defined, or if it is raw there. -/
theorem nested_name_clash {m : Module} {library : Path} {e : Expansion}
    (h : m.expand library = .ok e) {g : Registry.Forwarded} (hg : g ∈ e.wrappers)
    (nested : g.wrapper.owner.isSome = true) :
    g.wrapper.Numbered m.definedNames (e.wrappers.map (·.wrapper)) ∧
      ∀ item ∈ m.items.getD [], ∀ i ∈ item.typeNames, i.plainName = g.wrapper.ident.name →
        item.definedName? ≠ some i ∨ i.name = "r#" ++ g.wrapper.ident.name := by
  obtain ⟨c, kept, start, last, prepared, processes, -, emitted, -⟩ := expand_orderly h
  have recorded : last.Recorded m.definedNames :=
    processes.keeps (fun _ _ _ _ recorded step => recorded.step step) (recorded_of_prepare prepared)
  have held : g.wrapper ∈ last.wrappers := emitted ▸ List.mem_map_of_mem hg
  have numbered := recorded.numbered g.wrapper held nested
  rw [emitted]
  refine ⟨numbered, fun item hitem i _ clash => ?_⟩
  by_cases defines : item.definedName? = some i
  · right
    rcases i.name_cases with plain | raw
    · refine absurd ?_ numbered.apart
      rw [← clash, ← plain]
      exact List.mem_filterMap.2 ⟨item, hitem, by rw [defines]; rfl⟩
    · rw [raw, clash]
  · exact .inl defines

/-! ## Names that are not looked at -/

/-- A wrapper over two structs that needs a nested wrapper, and another item. -/
def besides (item : Item) : Module :=
  moduleOf
    [item, openStruct "A" [openField "tag" (.ofName "i32")],
      openStruct "B" [openField "tag" (.ofName "String")], declaringEnum "W" ["A", "B"]]

/-- The nested wrappers by name with their owners. -/
def Expansion.nestedNames (e : Expansion) : List (String × Option String) :=
  e.wrappers.map fun g => (g.wrapper.ident.name, g.wrapper.owner.map (·.1.name))

theorem besides_nestedNames (item : Item) (names : List (String × Option String))
    (h : ((besides item).expand defaultLibrary).toOption.map Expansion.nestedNames = some names)
    {name owner : String} (listed : (name, some owner) ∈ names) :
    ∃ e, (besides item).expand defaultLibrary = .ok e ∧ ∃ g ∈ e.wrappers,
      g.wrapper.owner.isSome = true ∧ g.wrapper.ident.name = name := by
  obtain ⟨e, expanded, rfl⟩ := exists_ok_of_toOption h
  obtain ⟨g, hg, eq⟩ := List.mem_map.1 listed
  obtain ⟨rfl, owned⟩ := Prod.mk.inj eq
  obtain ⟨x, hx, -⟩ := Option.map_eq_some_iff.1 owned
  exact ⟨e, expanded, g, hg, by rw [hx]; rfl, rfl⟩

theorem nested_name_clash_numbered :
    ∃ e, (besides (openStruct "WTag" [])).expand defaultLibrary = .ok e ∧ ∃ g ∈ e.wrappers,
      g.wrapper.owner.isSome = true ∧ g.wrapper.ident.name = "WTag2" ∧
      g.wrapper.Numbered (besides (openStruct "WTag" [])).definedNames
        (e.wrappers.map (·.wrapper)) ∧
      ∀ item ∈ (besides (openStruct "WTag" [])).items.getD [], ∀ i ∈ item.typeNames,
        i.plainName = g.wrapper.ident.name →
          item.definedName? ≠ some i ∨ i.name = "r#" ++ g.wrapper.ident.name := by
  obtain ⟨e, expanded, g, hg, nested, name⟩ := besides_nestedNames (openStruct "WTag" [])
    [("W", none), ("WTag2", some "W")] (by decide +kernel)
    (List.mem_cons_of_mem _ List.mem_cons_self)
  exact ⟨e, expanded, g, hg, nested, name, nested_name_clash expanded hg nested⟩

/-- Beside the item, a nested wrapper is called as something that the item introduces. -/
def Item.Shadowed (item : Item) : Prop :=
  ∃ e, (besides item).expand defaultLibrary = .ok e ∧ ∃ g ∈ e.wrappers,
    g.wrapper.owner.isSome = true ∧ ∃ i ∈ item.typeNames, i.plainName = g.wrapper.ident.name

theorem Item.shadowed_of_nestedNames {item : Item} {i : Ident} (introduced : i ∈ item.typeNames)
    (h : ((besides item).expand defaultLibrary).toOption.map Expansion.nestedNames =
      some [("W", none), (i.plainName, some "W")]) : item.Shadowed := by
  obtain ⟨e, expanded, g, hg, nested, name⟩ := besides_nestedNames item _ h
    (List.mem_cons_of_mem _ List.mem_cons_self)
  exact ⟨e, expanded, g, hg, nested, i, introduced, name.symm⟩

/-- A nested wrapper has the name of an import, of a module, and of a struct with a raw name. -/
theorem shadows_import :
    (Item.other .imports [.generated "WTag"] []).Shadowed ∧
      (Item.other .module [.generated "WTag"] []).Shadowed ∧
      (openStruct "r#WTag" []).Shadowed :=
  ⟨Item.shadowed_of_nestedNames List.mem_cons_self (by decide +kernel),
    Item.shadowed_of_nestedNames List.mem_cons_self (by decide +kernel),
    Item.shadowed_of_nestedNames List.mem_cons_self (by decide +kernel)⟩

end SharedMembers
