import Mathlib.Data.Finset.Powerset
import Mathlib.Data.Finset.Dedup
import SharedMembers.Proofs.Forwarding

/-!
# The worklist of wrappers comes to an end

Forwarding the members of a wrapper may add wrappers behind those that are there, and these are
forwarded in their turn. The loop ends all the same: a nested wrapper is over a set of returned
types, and no set gets two wrappers, so there are at most as many as there are sets of returned keys.

Results:
* `Registry.Processes`: the loop over all wrappers, with no limit on its rounds.
* `Grown.length_le`: how many wrappers there can be.
* `Registry.Processes.fails`: where the loop stops early, and at what it can (`Unwritable.From`).
* `Registry.Processes.keeps`: what every step keeps holds of the registry in the end.
* `expand_processes`: the rounds that are given are enough.
* `expand_reaches_fixpoint`: the loop ends; every wrapper is emitted once, the declared ones first;
  what an accessor names is emitted; the nested wrappers are over different sets, none of them
  declared; and each is the output of an accessor.
-/

namespace SharedMembers

/-! ## The loop -/

/-- The loop over the wrappers from the `index`th on, until there is none left: the wrappers with
their accessors, the warnings, and the registry in the end; or what cannot be written. -/
inductive Registry.Processes (c : Catalogue) : (index : Nat) → Registry →
    Except Unwritable (List Forwarded × List Warning × Registry) → Prop where
  | finished {index : Nat} {r : Registry} (beyond : r.wrappers[index]? = none) :
      Processes c index r (.ok ([], [], r))
  | failed {index : Nat} {r : Registry} {w : Wrapper} {u : Unwritable}
      (found : r.wrappers[index]? = some w) (error : r.forward c w = .error u) :
      Processes c index r (.error u)
  | next {index : Nat} {r : Registry} {w : Wrapper} {f : Forwarding} {later : List Forwarded}
      {warnings : List Warning} {last : Registry} (found : r.wrappers[index]? = some w)
      (ok : r.forward c w = .ok f)
      (rest : Processes c (index + 1) f.registry (.ok (later, warnings, last))) :
      Processes c index r (.ok (⟨w, f.accessors⟩ :: later, f.warnings ++ warnings, last))
  | stopped {index : Nat} {r : Registry} {w : Wrapper} {f : Forwarding} {u : Unwritable}
      (found : r.wrappers[index]? = some w) (ok : r.forward c w = .ok f)
      (rest : Processes c (index + 1) f.registry (.error u)) : Processes c index r (.error u)

/-! ## Returned types -/

theorem mem_returnedKeys {c : Catalogue} {k : Key} {t u : Ty} {s : Signature}
    (h : c.Provides k t s) (output : s.output = some u) : u.key ∈ Registry.returnedKeys c := by
  obtain ⟨e, he, entry⟩ := h.mem
  rw [Registry.returnedKeys, List.mem_eraseDups, List.mem_flatMap]
  refine ⟨e, he, List.mem_filterMap.2 ⟨(k, s), entry, ?_⟩⟩
  show s.output.map Ty.key = some u.key
  rw [output]
  rfl

/-- The types are different, and each has the key of a type that is returned. -/
def Returned (c : Catalogue) (ts : List Ty) : Prop :=
  (ts.map Ty.key).Nodup ∧ ∀ t ∈ ts, t.key ∈ Registry.returnedKeys c

/-- The types that a member returns are types that are returned. -/
theorem Plan.For.returned {c : Catalogue} {k : Key} {w : Wrapper} {ss : List Signature} {p : Plan}
    (plan : p.For c k ss) (provided : List.Forall₂ (c.Provides k) w.types ss) {types : List Ty}
    (different : p.returns = .distinct types) : Returned c types := by
  obtain ⟨ts, outputs, rfl⟩ := unify_eq_distinct (plan.returns.trans different)
  refine ⟨distinct_keys_nodup ts, fun t ht => ?_⟩
  have : some t ∈ ss.map (·.output) := outputs ▸ List.mem_map_of_mem (mem_distinct ht)
  obtain ⟨s, hs, output⟩ := List.mem_map.1 this
  obtain ⟨u, -, provides⟩ := exists_mem_zip provided.flip hs
  exact mem_returnedKeys provides output

/-! ## How many wrappers there are -/

/-- The registry holds the declared wrappers, and behind them nested ones over different sets of
returned types, none of which is the set of a declared wrapper. -/
structure Grown (c : Catalogue) (declared nested : List Wrapper) (r : Registry) : Prop where
  wrappers : r.wrappers = declared ++ nested
  different : (nested.map Wrapper.setKey).Nodup
  undeclared : ∀ w ∈ nested, ∀ d ∈ declared, w.setKey ≠ d.setKey
  returned : ∀ w ∈ nested, Returned c w.types

/-- The keys of a wrapper's types without their order. -/
def Wrapper.keySet (w : Wrapper) : Finset String :=
  (w.types.map Ty.key).toFinset

theorem setKey_eq_of_keySet_eq {v w : Wrapper} (hv : (v.types.map Ty.key).Nodup)
    (hw : (w.types.map Ty.key).Nodup) (same : v.keySet = w.keySet) : v.setKey = w.setKey := by
  rw [Wrapper.setKey, Wrapper.setKey, setKeyOf_eq_iff, List.perm_ext_iff_of_nodup hv hw]
  intro k
  rw [← List.mem_toFinset, ← List.mem_toFinset]
  exact Finset.ext_iff.1 same k

theorem Grown.keySets_nodup {c : Catalogue} {declared nested : List Wrapper} {r : Registry}
    (h : Grown c declared nested r) : (nested.map Wrapper.keySet).Nodup := by
  rw [List.Nodup, List.pairwise_map]
  refine (List.pairwise_map.1 h.different).imp_of_mem fun {v w} hv hw ne same => ne ?_
  exact setKey_eq_of_keySet_eq (h.returned v hv).1 (h.returned w hw).1 same

/-- There is at most one nested wrapper for each set of returned keys. -/
theorem Grown.length_le {c : Catalogue} {declared nested : List Wrapper} {r : Registry}
    (h : Grown c declared nested r) :
    r.wrappers.length ≤ declared.length + 2 ^ (Registry.returnedKeys c).length := by
  have sets : (nested.map Wrapper.keySet).toFinset ⊆
      (Registry.returnedKeys c).toFinset.powerset := by
    intro keys hkeys
    obtain ⟨w, hw, rfl⟩ := List.mem_map.1 (List.mem_toFinset.1 hkeys)
    rw [Finset.mem_powerset]
    intro key hkey
    obtain ⟨t, ht, rfl⟩ := List.mem_map.1 (List.mem_toFinset.1 hkey)
    exact List.mem_toFinset.2 ((h.returned w hw).2 t ht)
  have card := Finset.card_le_card sets
  rw [List.toFinset_card_of_nodup h.keySets_nodup, List.length_map, Finset.card_powerset] at card
  have exponent := Nat.pow_le_pow_right (n := 2) (by omega)
    (List.toFinset_card_le (Registry.returnedKeys c))
  rw [h.wrappers, List.length_append]
  omega

/-- One more wrapper may be added if it is over returned types, which no wrapper is over yet. -/
theorem Grown.add {c : Catalogue} {declared nested : List Wrapper} {r : Registry} {v : Wrapper}
    (h : Grown c declared nested r) (missing : r.find? v.setKey = none)
    (returned : Returned c v.types) : Grown c declared (nested ++ [v]) (r.add v) := by
  have new := find?_eq_none_iff.1 missing
  rw [h.wrappers] at new
  constructor
  · show r.wrappers ++ [v] = _
    rw [h.wrappers, List.append_assoc]
  · refine nodup_map_append_singleton h.different fun again => ?_
    obtain ⟨u, hu, same⟩ := List.mem_map.1 again
    exact new u (List.mem_append_right _ hu) same
  · intro u hu d hd
    rcases List.mem_append.1 hu with hu | hu
    · exact h.undeclared u hu d hd
    · rw [List.mem_singleton.1 hu]
      exact (new d (List.mem_append_left _ hd)).symm
  · intro u hu
    rcases List.mem_append.1 hu with hu | hu
    · exact h.returned u hu
    · rw [List.mem_singleton.1 hu]
      exact returned

/-- A step keeps the registry to different sets of returned types. -/
theorem Grown.step {c : Catalogue} {declared nested : List Wrapper} {w : Wrapper} {k : Key}
    {f f' : Forwarding} (h : Grown c declared nested f.registry) (step : f.Step c w k f') :
    ∃ nested', Grown c declared nested' f'.registry := by
  cases step with
  | lacking => exact ⟨nested, h⟩
  | refused => exact ⟨nested, h⟩
  | forwarded ss provided p fresh plan r output gives =>
    cases gives with
    | nested types v distinct missing made =>
      refine ⟨nested ++ [v], h.add ?_ ?_⟩
      · rw [nestedWrapper_setKey made, missing]
      · rw [nestedWrapper_types made]
        exact plan.returned provided distinct
    | _ => exact ⟨nested, h⟩

theorem Grown.forward {c : Catalogue} {declared nested : List Wrapper} {r : Registry} {w : Wrapper}
    {f : Forwarding} (h : Grown c declared nested r) (ok : r.forward c w = .ok f) :
    ∃ nested', Grown c declared nested' f.registry :=
  forward_induction (P := fun f => ∃ nested, Grown c declared nested f.registry)
    (fun _ _ _ _ ⟨_, h⟩ step => h.step step) ⟨nested, h⟩ ok

theorem Grown.start (c : Catalogue) (r : Registry) : Grown c r.wrappers [] r :=
  ⟨(List.append_nil _).symm, List.nodup_nil, by simp, by simp⟩

/-! ## The loop ends -/

/-- The rounds that are given are enough: what is computed is what the loop without limit gives. -/
theorem run_processes {c : Catalogue} {declared nested : List Wrapper} {r : Registry}
    {rounds index : Nat} (h : Grown c declared nested r)
    (enough : declared.length + 2 ^ (Registry.returnedKeys c).length < rounds + index) :
    ∃ outcome, Registry.Processes c index r outcome ∧
      r.run c rounds index = outcome.map fun (all, warnings, _) => (all, warnings) := by
  -- The rounds go down as the index goes up; the bound on all wrappers stays the same.
  induction rounds generalizing index r nested with
  | zero =>
    have beyond : r.wrappers.length ≤ index := by
      have := h.length_le
      omega
    exact ⟨_, .finished (List.getElem?_eq_none beyond), rfl⟩
  | succ rounds ih =>
    rw [Registry.run]
    cases found : r.wrappers[index]? with
    | none => exact ⟨_, .finished found, rfl⟩
    | some w =>
      dsimp only
      cases forwarded : r.forward c w with
      | error u => exact ⟨_, .failed found forwarded, rfl⟩
      | ok f =>
        obtain ⟨nested', h'⟩ := h.forward forwarded
        have enough' : declared.length + 2 ^ (Registry.returnedKeys c).length <
            rounds + (index + 1) := by
          omega
        obtain ⟨outcome, rest, eq⟩ := ih h' enough'
        cases outcome with
        | error u =>
          refine ⟨_, .stopped found forwarded rest, ?_⟩
          show (f.registry.run c rounds (index + 1) >>= _) = _
          rw [eq]
          rfl
        | ok result =>
          obtain ⟨later, warnings, last⟩ := result
          refine ⟨_, .next found forwarded rest, ?_⟩
          show (f.registry.run c rounds (index + 1) >>= _) = _
          rw [eq]
          rfl

/-! ## What is emitted -/

/-- What the loop has done to the registry, and what it has emitted, from the `index`th wrapper on. -/
structure Processed (c : Catalogue) (index : Nat) (r last : Registry) (all : List Registry.Forwarded) :
    Prop where
  grows : r.wrappers <+: last.wrappers
  emitted : all.map (·.wrapper) = last.wrappers.drop index
  made : ∀ g ∈ all, ∃ first : Registry, ∀ a ∈ g.accessors, a.Made c g.wrapper first last
  named : ∀ v ∈ last.wrappers, v ∈ r.wrappers ∨ ∃ g ∈ all, ∃ a ∈ g.accessors, a.Names v
  grown : ∀ declared nested, Grown c declared nested r → ∃ nested', Grown c declared nested' last

theorem Processed.finished {c : Catalogue} {index : Nat} {r : Registry}
    (beyond : r.wrappers[index]? = none) : Processed c index r r [] where
  grows := List.prefix_refl _
  emitted := (List.drop_eq_nil_of_le (List.getElem?_eq_none_iff.1 beyond)).symm
  made := by simp
  named _ hv := .inl hv
  grown _ nested h := ⟨nested, h⟩

theorem Processed.next {c : Catalogue} {index : Nat} {r last : Registry} {w : Wrapper}
    {f : Forwarding} {later : List Registry.Forwarded} (found : r.wrappers[index]? = some w)
    (ok : r.forward c w = .ok f) (rest : Processed c (index + 1) f.registry last later) :
    Processed c index r last (⟨w, f.accessors⟩ :: later) where
  grows := (made_of_forward ok).1.trans rest.grows
  emitted := by
    obtain ⟨more, eq⟩ := (made_of_forward ok).1.trans rest.grows
    have held : last.wrappers[index]? = some w := by
      rw [← eq, List.getElem?_append_left (List.getElem?_eq_some_iff.1 found).1, found]
    obtain ⟨bound, same⟩ := List.getElem?_eq_some_iff.1 held
    rw [List.map_cons, rest.emitted, List.drop_eq_getElem_cons bound, same]
  made g hg := by
    rcases List.mem_cons.1 hg with rfl | hg
    · exact ⟨r, fun a ha => ((made_of_forward ok).2 a ha).mono rest.grows⟩
    · exact rest.made g hg
  named v hv := by
    rcases rest.named v hv with hv | ⟨g, hg, a, ha, names⟩
    · rcases named_of_forward ok hv with hv | ⟨a, ha, names⟩
      · exact .inl hv
      · exact .inr ⟨_, List.mem_cons_self, a, ha, names⟩
    · exact .inr ⟨g, List.mem_cons_of_mem _ hg, a, ha, names⟩
  grown declared nested h := by
    obtain ⟨nested', h'⟩ := h.forward ok
    exact rest.grown declared nested' h'

theorem Registry.Processes.processed {c : Catalogue} {index : Nat} {r last : Registry}
    {all : List Registry.Forwarded} {warnings : List Warning}
    (h : Registry.Processes c index r (.ok (all, warnings, last))) :
    Processed c index r last all := by
  generalize eq : Except.ok (all, warnings, last) = outcome at h
  induction h generalizing all warnings last with
  | finished beyond =>
    cases eq
    exact .finished beyond
  | failed => cases eq
  | next found ok _ ih =>
    cases eq
    exact .next found ok (ih rfl)
  | stopped => cases eq

/-- All wrappers are emitted, the declared ones first and in order, and nothing is missing or of no
use: what an accessor names is emitted, the nested wrappers are over different sets, none of which
is declared, and each is named by an accessor. -/
structure Registry.Closed (declared nested : List Wrapper) (all : List Forwarded) : Prop where
  emitted : all.map (·.wrapper) = declared ++ nested
  named : ∀ g ∈ all, ∀ a ∈ g.accessors, ∀ types, a.returns = .distinct types →
    ∃ v ∈ all, a.Names v.wrapper
  different : (nested.map Wrapper.setKey).Nodup
  undeclared : ∀ w ∈ nested, ∀ d ∈ declared, w.setKey ≠ d.setKey
  used : ∀ w ∈ nested, ∃ g ∈ all, ∃ a ∈ g.accessors, a.Names w

theorem Registry.Processes.closed {c : Catalogue} {r last : Registry}
    {all : List Registry.Forwarded} {warnings : List Warning}
    (h : Registry.Processes c 0 r (.ok (all, warnings, last))) :
    ∃ nested, last.wrappers = r.wrappers ++ nested ∧ Registry.Closed r.wrappers nested all := by
  have processed := h.processed
  obtain ⟨nested, grown⟩ := processed.grown _ _ (Grown.start c r)
  have emitted := processed.emitted
  rw [List.drop_zero] at emitted
  refine ⟨nested, grown.wrappers, emitted.trans grown.wrappers, ?_, grown.different,
    grown.undeclared, ?_⟩
  · intro g hg a ha types distinct
    obtain ⟨first, made⟩ := processed.made g hg
    obtain ⟨v, hv, names⟩ := (made a ha).names distinct
    rw [← emitted] at hv
    obtain ⟨g', hg', rfl⟩ := List.mem_map.1 hv
    exact ⟨g', hg', names⟩
  · -- A wrapper that is not named by an accessor was there from the start, so it is declared.
    intro w hw
    rcases processed.named w (grown.wrappers ▸ List.mem_append_right _ hw) with declared | used
    · exact absurd rfl (grown.undeclared w hw w declared)
    · exact used

/-! ## Why the loop may stop -/

/-- What stops the loop is a text that is no name, or a type that cannot stand behind a reference
sign. -/
def Unwritable.Justified : Unwritable → Prop
  | .name text => Text.isIdentifier text = false
  | .reference t => t.isSum = true

/-- The type is returned by a member of the catalogue. -/
def Catalogue.Returns (c : Catalogue) (t : Ty) : Prop :=
  ∃ k u s, c.Provides k u s ∧ s.output = some t

theorem returns_of_provided {c : Catalogue} {k : Key} {types : List Ty} {ss : List Signature}
    (provided : List.Forall₂ (c.Provides k) types ss) {s : Signature} (hs : s ∈ ss) {t : Ty}
    (output : s.output = some t) : c.Returns t := by
  obtain ⟨u, -, provides⟩ := exists_mem_zip provided.flip hs
  exact ⟨k, u, s, provides, output⟩

/-- What forwarding the members of a wrapper may fail to write: the name of an accessor, of a nested
wrapper or of one of its variants, or a reference to a type that is returned. -/
inductive Unwritable.From (c : Catalogue) (w : Wrapper) : Unwritable → Prop where
  | accessor (k : Key) (hk : k ∈ c.keysOf w)
      (invalid : Text.isIdentifier k.accessorName = false) : From c w (.name k.accessorName)
  | nested (k : Key) (hk : k ∈ c.keysOf w) (taken : List String)
      (invalid : Text.isIdentifier (firstFree taken (w.ident.name ++ Text.camel k.name)) = false) :
      From c w (.name (firstFree taken (w.ident.name ++ Text.camel k.name)))
  | variant (types : List Ty) (returned : ∀ t ∈ types, c.Returns t) (name : String)
      (given : name ∈ variantNames [] types) (invalid : Text.isIdentifier name = false) :
      From c w (.name name)
  | reference (t : Ty) (returned : c.Returns t) (sum : t.isSum = true) : From c w (.reference t)

theorem Unwritable.From.justified {c : Catalogue} {w : Wrapper} {u : Unwritable}
    (h : u.From c w) : u.Justified := by
  cases h <;> assumption

theorem nameOf_fails (text : String) :
    FailsOnly (fun u => u = .name text ∧ Text.isIdentifier text = false) (nameOf text) := by
  intro u h
  rw [nameOf] at h
  split at h
  · cases h
  · next invalid =>
    cases h
    exact ⟨rfl, Bool.eq_false_iff.2 invalid⟩

theorem referenceTo_fails (t : Ty) :
    FailsOnly (fun u => u = .reference t ∧ t.isSum = true) (referenceTo t) := by
  intro u h
  rw [referenceTo] at h
  split at h
  · next sum =>
    cases h
    exact ⟨rfl, sum⟩
  · cases h

/-- The names that have to be made for a nested wrapper over the types. -/
def Registry.madeNames (r : Registry) (parent : Wrapper) (member : String) (types : List Ty) :
    List String :=
  firstFree r.taken (parent.ident.name ++ Text.camel member) :: variantNames [] types

theorem nestedWrapper_fails (r : Registry) (parent : Wrapper) (member : String)
    (types : List Ty) :
    FailsOnly (fun u => ∃ text ∈ r.madeNames parent member types,
      u = .name text ∧ Text.isIdentifier text = false) (r.nestedWrapper parent member types) := by
  have each : ∀ text ∈ r.madeNames parent member types,
      FailsOnly (fun u => ∃ text ∈ r.madeNames parent member types,
        u = .name text ∧ Text.isIdentifier text = false) (nameOf text) :=
    fun text made => (nameOf_fails text).mono fun _ fails => ⟨text, made, fails⟩
  rw [Registry.nestedWrapper]
  refine (each _ List.mem_cons_self).bind fun _ => FailsOnly.bind ?_ fun _ => failsOnly_ok _
  exact FailsOnly.mapM fun text given => each text (List.mem_cons_of_mem _ given)

theorem outputFor_fails {c : Catalogue} {w : Wrapper} {k : Key} {ss : List Signature} {p : Plan}
    (hk : k ∈ c.keysOf w) (provided : List.Forall₂ (c.Provides k) w.types ss)
    (plan : p.For c k ss) (r : Registry) :
    FailsOnly (Unwritable.From c w) (r.outputFor w k p) := by
  rw [Registry.outputFor]
  split
  · exact failsOnly_ok _
  · exact failsOnly_ok _
  · next t common =>
    apply FailsOnly.map
    split
    · next byReference =>
      refine (referenceTo_fails t).mono ?_
      rintro _ ⟨rfl, sum⟩
      have nonempty : ss ≠ [] := by
        rintro rfl
        have unit := plan.returns
        rw [common] at unit
        cases unit
      obtain ⟨-, u, same, ⟨s, hs, output⟩, -⟩ := plan.reads nonempty byReference
      rw [common] at same
      cases same
      exact .reference t (returns_of_provided provided hs output) sum
    · exact failsOnly_ok _
  · next types different =>
    apply FailsOnly.map
    rw [Registry.wrapperFor]
    split
    · exact failsOnly_ok _
    · refine FailsOnly.map ((nestedWrapper_fails _ _ _ _).mono ?_)
      rintro _ ⟨text, made, rfl, invalid⟩
      rcases List.mem_cons.1 made with rfl | given
      · exact .nested k hk r.taken invalid
      · refine .variant types (fun t ht => ?_) text given invalid
        obtain ⟨ts, outputs, rfl⟩ := unify_eq_distinct (plan.returns.trans different)
        have : some t ∈ ss.map (·.output) := outputs ▸ List.mem_map_of_mem (mem_distinct ht)
        obtain ⟨s, hs, output⟩ := List.mem_map.1 this
        exact returns_of_provided provided hs output

theorem step_fails {c : Catalogue} {w : Wrapper} {k : Key} (hk : k ∈ c.keysOf w)
    (f : Forwarding) : FailsOnly (Unwritable.From c w) (f.step c w k) := by
  rw [Forwarding.step]
  split
  · exact failsOnly_ok _
  next ss resolved =>
  split
  · exact failsOnly_ok _
  next p planned =>
  have provided := resolveAll_eq_some_iff_provides.1 resolved
  refine (outputFor_fails hk provided (plan_eq_ok_iff.1 planned).2 _).bind fun _ => ?_
  refine ((nameOf_fails _).mono ?_).bind fun _ => failsOnly_ok _
  rintro _ ⟨rfl, invalid⟩
  exact .accessor k hk invalid

theorem steps_fails {c : Catalogue} {w : Wrapper} {ks : List Key} (hks : ∀ k ∈ ks, k ∈ c.keysOf w)
    (f : Forwarding) : FailsOnly (Unwritable.From c w) (f.steps c w ks) := by
  induction ks generalizing f with
  | nil => exact failsOnly_ok _
  | cons k ks ih =>
    rw [List.forall_mem_cons] at hks
    exact (step_fails hks.1 f).bind (ih hks.2)

/-- Where the loop fails is a wrapper of a registry that it comes to. -/
theorem Registry.Processes.fails {c : Catalogue} {index : Nat} {r : Registry} {u : Unwritable}
    {P : Registry → Prop}
    (keeps : ∀ w k, ∀ f f' : Forwarding, P f.registry → f.Step c w k f' → P f'.registry)
    (start : P r) (h : Registry.Processes c index r (.error u)) :
    ∃ r' : Registry, P r' ∧ ∃ w ∈ r'.wrappers, u.From c w := by
  generalize eq : Except.error u = outcome at h
  induction h with
  | finished => cases eq
  | @failed _ r w _ found error =>
    cases eq
    rw [forward_eq] at error
    exact ⟨r, start, w, List.mem_of_getElem? found, steps_fails (fun _ hk => hk) _ _ error⟩
  | next => cases eq
  | stopped _ ok _ ih =>
    cases eq
    exact ih (forward_induction (P := fun f => P f.registry) (fun _ _ => keeps _ _) start ok) rfl

/-- What every step keeps holds of the registry in the end. -/
theorem Registry.Processes.keeps {c : Catalogue} {index : Nat} {r last : Registry}
    {all : List Registry.Forwarded} {warnings : List Warning} {P : Registry → Prop}
    (keeps : ∀ w k, ∀ f f' : Forwarding, P f.registry → f.Step c w k f' → P f'.registry)
    (start : P r) (h : Registry.Processes c index r (.ok (all, warnings, last))) : P last := by
  generalize eq : Except.ok (all, warnings, last) = outcome at h
  induction h generalizing all warnings last with
  | finished =>
    cases eq
    exact start
  | failed => cases eq
  | next _ ok _ ih =>
    cases eq
    exact ih (forward_induction (P := fun f => P f.registry) (fun _ _ => keeps _ _) start ok) rfl
  | stopped => cases eq

theorem Registry.Processes.justified {c : Catalogue} {index : Nat} {r : Registry} {u : Unwritable}
    (h : Registry.Processes c index r (.error u)) : u.Justified := by
  obtain ⟨-, -, w, -, fails⟩ := h.fails (P := fun _ => True) (fun _ _ _ _ _ _ => trivial) trivial
  exact fails.justified

/-! ## The fixpoint -/

/-- The rounds that the bound allows are enough: the expansion is what the loop over all wrappers
gives. -/
theorem expand_processes (c : Catalogue) (r : Registry) :
    ∃ outcome, Registry.Processes c 0 r outcome ∧
      r.expand c = outcome.map fun (all, warnings, _) => (all, warnings) := by
  have enough : r.wrappers.length + 2 ^ (Registry.returnedKeys c).length <
      r.bound c + 1 + 0 := by
    rw [Registry.bound, Nat.pow_eq]
    omega
  exact run_processes (Grown.start c r) enough

theorem processes_of_expand {c : Catalogue} {r : Registry} {all : List Registry.Forwarded}
    {warnings : List Warning} (h : r.expand c = .ok (all, warnings)) :
    ∃ last, Registry.Processes c 0 r (.ok (all, warnings, last)) := by
  obtain ⟨outcome, processes, eq⟩ := expand_processes c r
  obtain ⟨⟨all', warnings', last⟩, rfl, same⟩ := map_eq_ok_iff.1 (eq.symm.trans h)
  cases same
  exact ⟨last, processes⟩

/-- The expansion is what the loop over all wrappers gives, which ends. It fails only for what
cannot be written; or else every wrapper is emitted once, the declared ones first, and the wrappers
are closed. -/
theorem expand_reaches_fixpoint (c : Catalogue) (r : Registry) :
    match r.expand c with
    | .error u => Registry.Processes c 0 r (.error u) ∧ u.Justified
    | .ok (all, warnings) =>
      ∃ last nested, Registry.Processes c 0 r (.ok (all, warnings, last)) ∧
        last.wrappers = r.wrappers ++ nested ∧ Registry.Closed r.wrappers nested all := by
  obtain ⟨outcome, processes, eq⟩ := expand_processes c r
  rw [eq]
  cases outcome with
  | error u => exact ⟨processes, processes.justified⟩
  | ok result =>
    obtain ⟨all, warnings, last⟩ := result
    obtain ⟨nested, wrappers, closed⟩ := processes.closed
    exact ⟨last, nested, processes, wrappers, closed⟩

end SharedMembers
