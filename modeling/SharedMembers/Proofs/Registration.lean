import SharedMembers.Proofs.FreshNames
import SharedMembers.Proofs.Preparation
import SharedMembers.Proofs.Worklist

/-!
# The registry stays in order

While wrappers are declared and nested ones are added, names and sets of types keep in step: no two
wrappers have one name, no type occurs twice in a wrapper, and each set leads to the first wrapper
over it.

Results:
* `Registry.indexed`: a set leads to the place of the first wrapper over it.
* `nestedWrapper_names`: how a nested wrapper and its variants are called.
* `Registry.Orderly.declare`, `Registry.Orderly.step`: declaring a wrapper and forwarding a member
  leave the registry in order.
* `wrapperFor_serves`: what is returned for different types is the one wrapper over exactly them.
* `expand_orderly`: an expansion ends with a registry in order.
* `registry_orderly`: all of this holds at every stage of every module.
-/

namespace SharedMembers

/-! ## The index of sets -/

/-- The index of a registry: it leads to the first wrapper over a set, a noted set is that of the
wrapper at its place, in order, and the set of every wrapper is noted. -/
structure Registry.Indexed (r : Registry) : Prop where
  found : ∀ set, r.find? set = r.wrappers.find? (·.setKey == set)
  placed : ∀ set place, r.bySet.lookup set = some place → ∃ w, r.wrappers[place]? = some w ∧
    set.Pairwise (· ≤ ·) ∧ set.Perm (w.types.map Ty.key)
  noted : ∀ w ∈ r.wrappers, ∃ place, r.bySet.lookup w.setKey = some place

/-- What is noted whenever a wrapper is put into a registry (`Indexes.note`). -/
theorem Registry.indexed (r : Registry) : r.Indexed where
  found := r.find?_eq
  placed set place found := by
    rw [r.indexes, List.findIdx?_eq_some_iff_getElem] at found
    obtain ⟨bound, same, -⟩ := found
    refine ⟨r.wrappers[place], List.getElem?_eq_getElem bound, ?_⟩
    rw [← eq_of_beq same]
    exact ⟨pairwise_sortedTexts _, perm_sortedTexts _⟩
  noted w hw := by
    rw [← Option.isSome_iff_exists, r.indexes, List.findIdx?_isSome, List.any_eq_true]
    exact ⟨w, hw, beq_self_eq_true _⟩

/-- A set without a wrapper is not in the index. -/
theorem lookup_eq_none_iff {r : Registry} {set : List String} :
    r.bySet.lookup set = none ↔ ∀ w ∈ r.wrappers, w.setKey ≠ set := by
  rw [r.indexes, List.findIdx?_eq_none_iff]
  simp

/-! ## Nested wrappers -/

theorem name_of_nameOf {text : String} {i : Ident} (h : nameOf text = .ok i) : i.name = text := by
  obtain ⟨-, rfl⟩ := nameOf_eq_ok_iff.1 h
  rfl

theorem names_of_mapM_nameOf {texts : List String} {idents : List Ident}
    (h : texts.mapM nameOf = .ok idents) : idents.map Ident.name = texts := by
  have all := mapM_eq_ok_iff.1 h
  clear h
  induction all with
  | nil => rfl
  | cons first _ ih => rw [List.map_cons, name_of_nameOf first, ih]

/-- A nested wrapper has a fresh name, and so has each of its variants. -/
theorem nestedWrapper_names {r : Registry} {parent w : Wrapper} {member : String}
    {types : List Ty} (h : r.nestedWrapper parent member types = .ok w) :
    w.ident.name = firstFree r.taken (parent.ident.name ++ Text.camel member) ∧
      w.variants.map (·.1.name) = variantNames [] types := by
  obtain ⟨ident, names, hident, hnames, same, rfl⟩ := nestedWrapper_eq_ok h
  refine ⟨name_of_nameOf hident, ?_⟩
  show (names.zip types).map (Ident.name ∘ Prod.fst) = _
  rw [← List.map_map, List.map_fst_zip (Nat.le_of_eq same), names_of_mapM_nameOf hnames]

/-- A nested wrapper over types with different keys is well formed. -/
theorem nestedWrapper_wellFormed {r : Registry} {parent w : Wrapper} {member : String}
    {types : List Ty} (different : (types.map Ty.key).Nodup)
    (h : r.nestedWrapper parent member types = .ok w) : w.WellFormed where
  types := by
    rw [nestedWrapper_types h]
    exact different
  names := by
    rw [(nestedWrapper_names h).2]
    exact nodup_variantNames [] types

/-! ## Registries in order -/

/-- What a nested wrapper is in a module that defines the names: a choice between several types that
borrow nothing, under a name of its own. -/
structure Wrapper.Nested (defined : List String) (w : Wrapper) : Prop where
  several : 2 ≤ w.variants.length
  owned : ∀ t ∈ w.types, t.borrows = false
  apart : w.ident.name ∉ defined

theorem Wrapper.Nested.types_ne_nil {defined : List String} {w : Wrapper} (h : w.Nested defined) :
    w.types ≠ [] := by
  intro nil
  have several := h.several
  rw [List.map_eq_nil_iff.1 nil, List.length_nil] at several
  omega

/-- The registry of a module that defines the names is in order. -/
structure Registry.Orderly (defined : List String) (r : Registry) : Prop where
  reserved : defined ⊆ r.taken
  held : ∀ w ∈ r.wrappers, w.ident.name ∈ r.taken
  named : (r.wrappers.map (·.ident.name)).Nodup
  inhabited : ∀ w ∈ r.wrappers, w.types ≠ []
  wellFormed : ∀ w ∈ r.wrappers, w.WellFormed
  nested : ∀ w ∈ r.wrappers, w.owner.isSome = true → w.Nested defined

/-- The name of one more wrapper is new if it is free. -/
theorem Registry.Orderly.nodup_add {defined : List String} {r : Registry} {w : Wrapper}
    (h : r.Orderly defined) (free : w.ident.name ∉ r.taken) :
    ((r.add w).wrappers.map (·.ident.name)).Nodup := by
  refine nodup_map_append_singleton h.named fun again => free ?_
  obtain ⟨v, hv, same⟩ := List.mem_map.1 again
  have held := h.held v hv
  rwa [same] at held

/-- What holds of all wrappers holds with one more. -/
theorem forall_mem_push {r : Registry} {w : Wrapper} {P : Wrapper → Prop}
    (old : ∀ v ∈ r.wrappers, P v) (new : P w) : ∀ v ∈ (r.push w).wrappers, P v := by
  show ∀ v ∈ r.wrappers ++ [w], P v
  rw [List.forall_mem_append, List.forall_mem_singleton]
  exact ⟨old, new⟩

/-- Before the declarations nothing is in disorder. -/
theorem Registry.Orderly.new {defined taken : List String} (reserved : defined ⊆ taken) :
    (Registry.new taken).Orderly defined where
  reserved := reserved
  held _ hw := by cases hw
  named := List.nodup_nil
  inhabited _ hw := by cases hw
  wellFormed _ hw := by cases hw
  nested _ hw := by cases hw

/-- One more declared wrapper leaves the registry in order if its name is taken, but by no wrapper
yet. -/
theorem Registry.Orderly.declare {defined : List String} {r r' : Registry} {w : Wrapper}
    (h : r.Orderly defined) (ok : r.declare w = .ok r') (taken : w.ident.name ∈ r.taken)
    (first : w.ident.name ∉ r.wrappers.map (·.ident.name)) (inhabited : w.types ≠ [])
    (unowned : w.owner = none) : r'.Orderly defined := by
  obtain ⟨checked, rfl⟩ := declare_eq_ok ok
  refine ⟨h.reserved, forall_mem_push h.held taken, nodup_map_append_singleton h.named first,
    forall_mem_push h.inhabited inhabited,
    forall_mem_push h.wellFormed (wellFormed_of_check checked), forall_mem_push h.nested ?_⟩
  intro owned
  rw [unowned] at owned
  cases owned

/-- One more wrapper leaves the registry in order if its name is free. -/
theorem Registry.Orderly.add {defined : List String} {r : Registry} {w : Wrapper}
    (h : r.Orderly defined) (free : w.ident.name ∉ r.taken) (wellFormed : w.WellFormed)
    (nested : w.Nested defined) : (r.add w).Orderly defined where
  reserved _ hname := List.mem_cons_of_mem _ (h.reserved hname)
  held := forall_mem_push (fun v hv => List.mem_cons_of_mem _ (h.held v hv)) List.mem_cons_self
  named := h.nodup_add free
  inhabited := forall_mem_push h.inhabited nested.types_ne_nil
  wellFormed := forall_mem_push h.wellFormed wellFormed
  nested := forall_mem_push h.nested fun _ => nested

/-- The name of a nested wrapper is free. -/
theorem nestedWrapper_free {r : Registry} {parent w : Wrapper} {member : String}
    {types : List Ty} (h : r.nestedWrapper parent member types = .ok w) :
    w.ident.name ∉ r.taken := by
  rw [(nestedWrapper_names h).1]
  exact firstFree_not_mem _ _

/-- Forwarding one member leaves the registry in order. -/
theorem Registry.Orderly.step {defined : List String} {c : Catalogue} {w : Wrapper} {k : Key}
    {f f' : Forwarding} (h : f.registry.Orderly defined) (step : f.Step c w k f') :
    f'.registry.Orderly defined := by
  cases step with
  | lacking => exact h
  | refused => exact h
  | forwarded ss provided p fresh plan r output gives =>
    cases gives with
    | nested types v distinct missing made =>
      have returned := plan.returned provided distinct
      obtain ⟨several, owned⟩ := several_of_unify_eq_distinct (plan.returns.trans distinct)
      have same := nestedWrapper_types made
      refine h.add (nestedWrapper_free made) (nestedWrapper_wellFormed returned.1 made) ⟨?_, ?_, ?_⟩
      · rwa [← List.length_map (Prod.snd : Ident × Ty → Ty), show v.variants.map _ = _ from same]
      · rwa [same]
      · exact fun old => nestedWrapper_free made (h.reserved old)
    | _ => exact h

theorem Registry.Orderly.forward {defined : List String} {c : Catalogue} {r : Registry}
    {w : Wrapper} {f : Forwarding} (h : r.Orderly defined) (ok : r.forward c w = .ok f) :
    f.registry.Orderly defined :=
  forward_induction (P := fun f => f.registry.Orderly defined) (fun _ _ _ _ h step => h.step step)
    h ok

/-! ## The wrapper over given types -/

/-- What is returned for the types is the name of just one wrapper, which is over exactly them, and
to whose place the index leads in the end. The registry is as it was if the index knew the types; or
else they are noted for a new wrapper behind the others. There is nothing to return only if no wrapper
is over the types and one of the names that have to be made is none. -/
inductive Registry.Serves (r : Registry) (parent : Wrapper) (member : String) (types : List Ty) :
    Except Unwritable (Registry × Ident) → Prop where
  | served (r' : Registry) (w : Wrapper) (held : w ∈ r'.wrappers)
      (only : ∀ v ∈ r'.wrappers, v.ident.name = w.ident.name → v = w)
      (wellFormed : w.WellFormed) (exact : (w.types.map Ty.key).Perm (types.map Ty.key))
      (led : (r'.bySet.lookup (setKeyOf types)).bind (r'.wrappers[·]?) = some w)
      (kept : r' = r ∨ r.bySet.lookup (setKeyOf types) = none ∧
        r'.bySet = (setKeyOf types, r.wrappers.length) :: r.bySet) :
      Serves r parent member types (.ok (r', w.ident))
  | unwritable (text : String) (missing : ∀ w ∈ r.wrappers, w.setKey ≠ setKeyOf types)
      (made : text ∈ r.madeNames parent member types) (invalid : Text.isIdentifier text = false) :
      Serves r parent member types (.error (.name text))

/-- In a registry in order, what is returned for types with different keys is the one wrapper over
exactly them. -/
theorem wrapperFor_serves {defined : List String} {r : Registry} (h : r.Orderly defined)
    (parent : Wrapper) (member : String) {types : List Ty}
    (different : (types.map Ty.key).Nodup) :
    r.Serves parent member types (r.wrapperFor parent member types) := by
  have only {ws : List Wrapper} (named : (ws.map (·.ident.name)).Nodup) {w : Wrapper}
      (hw : w ∈ ws) : ∀ v ∈ ws, v.ident.name = w.ident.name → v = w :=
    fun v hv same => List.inj_on_of_nodup_map named hv hw same
  rw [Registry.wrapperFor]
  split
  · next w found =>
    obtain ⟨held, set⟩ := find?_eq_some found
    exact .served r w held (only h.named held) (h.wellFormed w held) (setKeyOf_eq_iff.1 set) found
      (.inl rfl)
  · next missing =>
    cases made : r.nestedWrapper parent member types with
    | error u =>
      obtain ⟨text, htext, rfl, invalid⟩ := nestedWrapper_fails _ _ _ _ _ made
      exact .unwritable text (find?_eq_none_iff.1 missing) htext invalid
    | ok w =>
      have held : w ∈ (r.add w).wrappers := List.mem_append_right _ List.mem_cons_self
      have named := h.nodup_add (nestedWrapper_free made)
      have set := nestedWrapper_setKey made
      have unknown : r.bySet.lookup (setKeyOf types) = none :=
        lookup_eq_none_iff.2 (find?_eq_none_iff.1 missing)
      refine .served (r.add w) w held (only named held) (nestedWrapper_wellFormed different made) ?_
        ?_ (.inr ⟨unknown, ?_⟩)
      · rw [nestedWrapper_types made]
      · rw [← set] at unknown ⊢
        rw [Registry.bySet_add unknown, List.lookup_cons_self, Option.bind_some]
        exact List.getElem?_concat_length
      · rw [← set] at unknown ⊢
        exact Registry.bySet_add unknown

/-! ## Stages -/

/-- The stages of the registry of a module, which is `start` when all wrappers are declared. First
they are declared one after the other, with all names taken; then the members of each wrapper in turn
are forwarded. -/
inductive Registry.Stage (c : Catalogue) (start : Registry) : (done : Nat) → Registry → Prop where
  | new : Stage c start 0 (.new start.taken)
  | declared {r r' : Registry} {w : Wrapper} (before : Stage c start 0 r)
      (next : start.wrappers[r.wrappers.length]? = some w) (ok : r.declare w = .ok r') :
      Stage c start 0 r'
  | forwarded {done : Nat} {r : Registry} {w : Wrapper} {f : Forwarding}
      (before : Stage c start done r) (complete : start.wrappers <+: r.wrappers)
      (next : r.wrappers[done]? = some w) (ok : r.forward c w = .ok f) :
      Stage c start (done + 1) f.registry

/-- Before anything is forwarded, the first of the declared wrappers are there. -/
theorem Registry.Stage.declaring {c : Catalogue} {start r : Registry} {done : Nat}
    (h : Registry.Stage c start done r) (first : done = 0) :
    r.taken = start.taken ∧ r.wrappers <+: start.wrappers := by
  induction h with
  | new => exact ⟨rfl, List.nil_prefix⟩
  | @declared r _ w _ next ok ih =>
    obtain ⟨taken, later, eq⟩ := ih rfl
    obtain ⟨-, rfl⟩ := declare_eq_ok ok
    rw [← eq, List.getElem?_append_right le_rfl, Nat.sub_self, ← List.head?_eq_getElem?,
      List.head?_eq_some_iff] at next
    obtain ⟨later, rfl⟩ := next
    exact ⟨taken, later, by rw [← eq, Registry.push, List.append_assoc, List.singleton_append]⟩
  | forwarded => cases first

theorem Registry.Stage.declareAll {c : Catalogue} {start r s : Registry} {ws : List Wrapper}
    (stage : Registry.Stage c start 0 r) (all : start.wrappers = r.wrappers ++ ws)
    (h : r.declareAll ws = .ok s) : Registry.Stage c start 0 s := by
  induction ws generalizing r with
  | nil =>
    cases h
    exact stage
  | cons w ws ih =>
    obtain ⟨r', first, rest⟩ := bind_eq_ok_iff.1 h
    have next : start.wrappers[r.wrappers.length]? = some w := by
      rw [all, List.getElem?_append_right le_rfl, Nat.sub_self, List.getElem?_cons_zero]
    refine ih (.declared stage next first) ?_ rest
    obtain ⟨-, rfl⟩ := declare_eq_ok first
    rw [all, Registry.push, List.append_assoc, List.singleton_append]

/-- The registry that a module is prepared to is a stage. -/
theorem Registry.Stage.start {m : Module} {c : Catalogue} {kept : List Item} {r : Registry}
    (prepared : m.prepare = .ok (c, kept, r)) : Registry.Stage c r 0 r := by
  obtain ⟨items, others, -, -, -, -, declared⟩ := prepare_eq_ok prepared
  exact Registry.Stage.new.declareAll (List.nil_append _).symm declared

/-- The loop over all wrappers goes through stages only. -/
theorem Registry.Stage.last {c : Catalogue} {start r last : Registry} {index : Nat}
    {all : List Registry.Forwarded} {warnings : List Warning} (stage : Registry.Stage c start index r)
    (complete : start.wrappers <+: r.wrappers)
    (h : Registry.Processes c index r (.ok (all, warnings, last))) :
    Registry.Stage c start (index + all.length) last := by
  generalize eq : Except.ok (all, warnings, last) = outcome at h
  induction h generalizing all warnings last with
  | finished beyond =>
    cases eq
    exact stage
  | failed => cases eq
  | @next index _ _ _ later _ _ found ok _ ih =>
    cases eq
    have stage' := ih (.forwarded stage complete found ok)
      (complete.trans (made_of_forward ok).1) rfl
    rwa [List.length_cons, Nat.add_comm later.length, ← Nat.add_assoc]
  | stopped => cases eq

/-- The names of the types and traits that a module defines. -/
def Module.definedNames (m : Module) : List String :=
  SharedMembers.definedNames (m.items.getD [])

/-- The registry is in order while the wrappers are declared and while members are forwarded. -/
theorem orderly_of_stage {m : Module} {c : Catalogue} {kept : List Item} {start r : Registry}
    {done : Nat} (prepared : m.prepare = .ok (c, kept, start))
    (stage : Registry.Stage c start done r) : r.Orderly m.definedNames := by
  obtain ⟨items, others, inline, parted, -, named, -⟩ := prepare_eq_ok prepared
  obtain ⟨nodup, -, -, held⟩ := takeNames_spec named
  induction stage with
  | new =>
    refine .new fun name hname => ?_
    rw [Module.definedNames, inline] at hname
    obtain ⟨item, hitem, defines⟩ := List.mem_filterMap.1 hname
    obtain ⟨i, hi, rfl⟩ := Option.map_eq_some_iff.1 defines
    exact definedName_taken prepared inline hitem hi
  | @declared r _ w before next ok ih =>
    obtain ⟨taken, later, eq⟩ := before.declaring rfl
    have hw : w ∈ start.wrappers := List.mem_of_getElem? next
    obtain ⟨several, unowned⟩ := (takeWrappers_declares parted).1 w hw
    refine ih.declare ok (taken ▸ held w hw) ?_ (fun nil => several (List.map_eq_nil_iff.1 nil))
      unowned
    -- The wrapper stands behind those that are declared, and no two declared ones have one name.
    rw [← eq, List.getElem?_append_right le_rfl] at next
    rw [← eq, List.map_append, List.nodup_append'] at nodup
    exact fun again => nodup.2.2 again (List.mem_map_of_mem (List.mem_of_getElem? next))
  | forwarded _ _ _ ok ih => exact ih.forward ok

/-- The registry with which an expansion ends holds the wrappers that are emitted, and is in order. -/
theorem expand_orderly {m : Module} {library : Path} {e : Expansion}
    (h : m.expand library = .ok e) :
    ∃ c kept start last, m.prepare = .ok (c, kept, start) ∧
      Registry.Processes c 0 start (.ok (e.wrappers, e.warnings, last)) ∧
      Registry.Stage c start e.wrappers.length last ∧
      e.wrappers.map (·.wrapper) = last.wrappers ∧ last.Orderly m.definedNames := by
  obtain ⟨c, kept, start, prepared, run, -⟩ := expand_eq_ok h
  obtain ⟨last, processes⟩ := processes_of_expand run
  have stage := (Registry.Stage.start prepared).last (List.prefix_refl _) processes
  rw [Nat.zero_add] at stage
  exact ⟨c, kept, start, last, prepared, processes, stage, processes.processed.emitted,
    orderly_of_stage prepared stage⟩

/-- At every stage of every module, after each declaration and each wrapper whose members are
forwarded, the index leads from each set to the first wrapper over it, the registry is in order, and
what is returned for types with different keys is the one wrapper over exactly them. -/
theorem registry_orderly {m : Module} {c : Catalogue} {kept : List Item} {start r : Registry}
    {done : Nat} (prepared : m.prepare = .ok (c, kept, start))
    (stage : Registry.Stage c start done r) :
    r.Indexed ∧ r.Orderly m.definedNames ∧
      ∀ parent member types, (types.map Ty.key).Nodup →
        r.Serves parent member types (r.wrapperFor parent member types) := by
  have orderly := orderly_of_stage prepared stage
  exact ⟨r.indexed, orderly, fun parent member _ different =>
    wrapperFor_serves orderly parent member different⟩

/-! ## A name that is taken -/

/-- A wrapper over two structs that needs a nested wrapper, whose name is taken by a third struct. -/
def crowded : Module :=
  moduleOf
    [openStruct "A" [openField "tag" (.ofName "i32")],
      openStruct "B" [openField "tag" (.ofName "String")], openStruct "WTag" [],
      declaringEnum "W" ["A", "B"]]

theorem registry_orderly_crowded :
    ∃ c kept start last, crowded.prepare = .ok (c, kept, start) ∧
      Registry.Stage c start 2 last ∧ last.wrappers.map (·.ident.name) = ["W", "WTag2"] ∧
      last.Indexed ∧ last.Orderly ["A", "B", "WTag", "W"] ∧
      ∀ parent member types, (types.map Ty.key).Nodup →
        last.Serves parent member types (last.wrapperFor parent member types) := by
  obtain ⟨e, expanded, names⟩ := exists_ok_of_toOption
    (x := crowded.expand defaultLibrary) (f := fun e => e.wrappers.map (·.wrapper.ident.name))
    (b := ["W", "WTag2"]) (by decide +kernel)
  obtain ⟨c, kept, start, last, prepared, -, stage, emitted, -⟩ := expand_orderly expanded
  have count : e.wrappers.length = 2 := by
    rw [← List.length_map, names]
    rfl
  rw [count] at stage
  refine ⟨c, kept, start, last, prepared, stage, ?_, registry_orderly prepared stage⟩
  rw [← emitted, List.map_map, ← names]
  rfl

end SharedMembers
