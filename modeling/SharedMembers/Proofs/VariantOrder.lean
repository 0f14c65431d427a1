import SharedMembers.Expansion.Basic
import SharedMembers.Proofs.Reordering

/-!
# The order of variants

A wrapper with its variants in another order forwards the same members in the same way. Two runs
over wrappers that differ in the order of their variants are followed step by step: every wrapper
that arises in one has its counterpart in the other, over the same types and under the same name.

Results:
* `step_alike`, `forward_alike`: the members of one wrapper.
* `run_alike`: all wrappers, those included that arise on the way.
-/

namespace SharedMembers

/-! ## Keys in order -/

theorem pairwise_insertKey {k : Key} {ks : List Key} (h : ks.Pairwise fun a b => a.before b = true) :
    (insertKey k ks).Pairwise fun a b => a.before b = true := by
  induction ks with
  | nil => exact List.pairwise_singleton _ _
  | cons j ks ih =>
    have hd := List.pairwise_cons.1 h
    rw [insertKey]
    split
    · exact h
    · next different =>
      split
      · next before =>
        refine List.pairwise_cons.2 ⟨fun x hx => ?_, h⟩
        rcases List.mem_cons.1 hx with rfl | hx
        · exact before
        · exact Key.before_trans before (hd.1 x hx)
      · next notBefore =>
        refine List.pairwise_cons.2 ⟨fun x hx => ?_, ih hd.2⟩
        rcases mem_insertKey.1 hx with rfl | hx
        · exact (Key.before_total different).resolve_left notBefore
        · exact hd.1 x hx

theorem pairwise_sortedKeys (ks : List Key) :
    (sortedKeys ks).Pairwise fun a b => a.before b = true := by
  induction ks with
  | nil => exact List.Pairwise.nil
  | cons k ks ih => exact pairwise_insertKey ih

theorem Key.before_asymm {a b : Key} (ab : a.before b = true) : ¬ b.before a = true := by
  intro ba
  have := Key.before_trans ab ba
  rw [Key.before_irrefl] at this
  cases this

theorem nodup_sortedKeys (ks : List Key) : (sortedKeys ks).Nodup := by
  refine (pairwise_sortedKeys ks).imp fun {a b} before same => ?_
  rw [same, Key.before_irrefl] at before
  cases before

/-- Keys in their order depend on the set of keys alone. -/
theorem sortedKeys_eq {ks js : List Key} (same : ∀ k, k ∈ ks ↔ k ∈ js) :
    sortedKeys ks = sortedKeys js := by
  have perm : (sortedKeys ks).Perm (sortedKeys js) := by
    rw [List.perm_ext_iff_of_nodup (nodup_sortedKeys ks) (nodup_sortedKeys js)]
    intro k
    rw [mem_sortedKeys, mem_sortedKeys, same]
  exact perm.eq_of_pairwise (fun a b _ _ ab ba => absurd ba (Key.before_asymm ab))
    (pairwise_sortedKeys ks) (pairwise_sortedKeys js)

/-! ## Wrappers -/

/-- The same wrapper up to the order and the names of its variants. -/
structure Wrapper.Alike (w w' : Wrapper) : Prop where
  ident : w.ident = w'.ident
  visibility : w.visibility = w'.visibility
  attributes : w.attributes = w'.attributes
  nestedDerive : w.nestedDerive = w'.nestedDerive
  owner : w.owner = w'.owner
  types : (w.types.map Ty.key).Perm (w'.types.map Ty.key)

theorem Wrapper.Alike.refl (w : Wrapper) : w.Alike w :=
  ⟨rfl, rfl, rfl, rfl, rfl, List.Perm.refl _⟩

theorem Wrapper.Alike.symm {w w' : Wrapper} (h : w.Alike w') : w'.Alike w :=
  ⟨h.ident.symm, h.visibility.symm, h.attributes.symm, h.nestedDerive.symm, h.owner.symm,
    h.types.symm⟩

theorem Wrapper.Alike.setKey_eq {w w' : Wrapper} (h : w.Alike w') : w.setKey = w'.setKey :=
  setKeyOf_eq_iff.2 h.types

/-- The same registry up to the order and the names of variants. -/
structure Registry.Alike (r r' : Registry) : Prop where
  wrappers : List.Forall₂ Wrapper.Alike r.wrappers r'.wrappers
  taken : r.taken = r'.taken

theorem find?_alike {ws ws' : List Wrapper} (h : List.Forall₂ Wrapper.Alike ws ws')
    (set : List String) :
    Option.Rel Wrapper.Alike (ws.find? (·.setKey == set)) (ws'.find? (·.setKey == set)) := by
  induction h with
  | nil => exact .none
  | cons first _ ih =>
    rw [List.find?_cons, List.find?_cons, first.setKey_eq]
    split
    · exact .some first
    · exact ih

theorem Registry.Alike.find? {r r' : Registry} (h : r.Alike r') (set : List String) :
    Option.Rel Wrapper.Alike (r.find? set) (r'.find? set) := by
  rw [Registry.find?_eq, Registry.find?_eq]
  exact find?_alike h.wrappers set

/-! ## Members of reordered subtypes -/

theorem tables_perm (c : Catalogue) {w w' : Wrapper} (h : w.Alike w') :
    (w.types.map c.table?).Perm (w'.types.map c.table?) := by
  have := h.types.map fun name => (c.find? name).map Descriptor.table
  rwa [List.map_map, List.map_map] at this

theorem keysOf_eq (c : Catalogue) {w w' : Wrapper} (h : w.Alike w') : c.keysOf w = c.keysOf w' := by
  have tables := (tables_perm c h).filterMap id
  exact sortedKeys_eq fun k => (tables.flatMap_right Table.keys).mem_iff

theorem provided_congr {c : Catalogue} {k : Key} {types types' : List Ty} {ss : List Signature}
    (same : List.Forall₂ (fun t u => t.key = u.key) types types')
    (provided : List.Forall₂ (c.Provides k) types ss) :
    List.Forall₂ (c.Provides k) types' ss := by
  induction same generalizing ss with
  | nil => exact provided
  | cons eq _ ih =>
    obtain ⟨s, ss, ⟨table, found, entry⟩, rest, rfl⟩ := List.forall₂_cons_left_iff.1 provided
    refine .cons ⟨table, ?_, entry⟩ (ih rest)
    rw [← found, Catalogue.table?, Catalogue.table?, Catalogue.get?, Catalogue.get?, eq]

/-- Reordered subtypes provide a member by the same signatures, reordered. -/
theorem provided_perm {c : Catalogue} {k : Key} {types types' : List Ty} {ss : List Signature}
    (keys : (types.map Ty.key).Perm (types'.map Ty.key))
    (provided : List.Forall₂ (c.Provides k) types ss) :
    ∃ ss', ss.Perm ss' ∧ List.Forall₂ (c.Provides k) types' ss' := by
  obtain ⟨vs, perm, same⟩ := exists_perm_forall₂ keys
  obtain ⟨ss', provided', perm'⟩ :=
    List.perm_comp_forall₂ perm.symm (provided_congr same provided)
  exact ⟨ss', perm'.symm, provided'⟩

/-! ## Outputs -/

/-- The same output up to its key. Where members are read by reference, the keys are those of the
types referred to. A wrapper is returned under the same name. -/
inductive SameOutput : (byReference : Bool) → Option Ty → Option Ty → Prop where
  | nothing (byReference : Bool) : SameOutput byReference none none
  | value {t u : Ty} (same : t.key = u.key) : SameOutput false (some t) (some u)
  | reference {t u : Ty} (same : t.key = u.key) :
      SameOutput true (some (.reference none none false t)) (some (.reference none none false u))
  | wrapper (byReference : Bool) (ident : Ident) :
      SameOutput byReference (some (.ofIdent ident)) (some (.ofIdent ident))

theorem nestedWrapper_alike {r r' : Registry} {w w' v v' : Wrapper} {member : String}
    {types types' : List Ty} (hr : r.Alike r') (hw : w.Alike w')
    (same : (types.map Ty.key).Perm (types'.map Ty.key))
    (made : r.nestedWrapper w member types = .ok v)
    (made' : r'.nestedWrapper w' member types' = .ok v') : v.Alike v' := by
  have htypes := nestedWrapper_types made
  have htypes' := nestedWrapper_types made'
  obtain ⟨ident, names, hident, -, -, rfl⟩ := nestedWrapper_eq_ok made
  obtain ⟨ident', names', hident', -, -, rfl⟩ := nestedWrapper_eq_ok made'
  rw [hr.taken, hw.ident, hident'] at hident
  cases hident
  refine ⟨rfl, hw.visibility, ?_, hw.nestedDerive, ?_, ?_⟩
  · show _ :: _ = _ :: _
    rw [hw.ident, hw.nestedDerive]
  · show some _ = some _
    rw [hw.ident]
  · rw [htypes, htypes']
    exact same

theorem gives_alike {r r' r₁ r₁' : Registry} {w w' : Wrapper} {k : Key} {p p' : Plan}
    {output output' : Option Ty} (hr : r.Alike r') (hw : w.Alike w') (hp : p.Alike p')
    (compatible : ∀ m, p.returns ≠ .incompatible m) (gives : r.Gives w k p r₁ output)
    (gives' : r'.Gives w' k p' r₁' output') :
    r₁.Alike r₁' ∧ SameOutput p.byReference output output' := by
  have returns := hp.returns
  generalize hu : p.returns = u at returns
  generalize hu' : p'.returns = u' at returns
  cases returns with
  | unit =>
    obtain ⟨rfl, rfl⟩ := gives.of_unit hu
    obtain ⟨rfl, rfl⟩ := gives'.of_unit hu'
    exact ⟨hr, .nothing _⟩
  | common same =>
    obtain ⟨rfl, rfl⟩ := gives.of_common hu
    obtain ⟨rfl, rfl⟩ := gives'.of_common hu'
    rw [← hp.byReference]
    refine ⟨hr, ?_⟩
    cases p.byReference with
    | false => exact .value same
    | true => exact .reference same
  | @distinct types types' same =>
    -- The set of types is the same, so it is held in both registries or in none.
    obtain ⟨v, rfl, h⟩ := gives.of_distinct hu
    obtain ⟨v', rfl, h'⟩ := gives'.of_distinct hu'
    rw [← setKeyOf_eq_iff.2 same] at h'
    have found := hr.find? (setKeyOf types)
    rcases h with ⟨hv, rfl⟩ | ⟨hv, made, rfl⟩
    · rcases h' with ⟨hv', rfl⟩ | ⟨hv', -, -⟩
      · rw [hv, hv'] at found
        cases found with
        | some alike =>
          rw [alike.ident]
          exact ⟨hr, .wrapper _ _⟩
      · rw [hv, hv'] at found
        cases found
    · rcases h' with ⟨hv', -⟩ | ⟨-, made', rfl⟩
      · rw [hv, hv'] at found
        cases found
      · have alike := nestedWrapper_alike hr hw same made made'
        refine ⟨⟨List.rel_append hr.wrappers (.cons alike .nil), ?_⟩, ?_⟩
        · show _ :: _ = _ :: _
          rw [alike.ident, hr.taken]
        · rw [alike.ident]
          exact .wrapper _ _
  | incompatible m => exact absurd hu (compatible m)

/-! ## One step -/

/-- All types that members of the catalogue mention. -/
def Catalogue.memberTypes (c : Catalogue) : List Ty :=
  typesOf (c.types.flatMap fun (_, d) => d.table.map (·.2))

theorem typesOf_subset_memberTypes {c : Catalogue} {k : Key} {types : List Ty}
    {ss : List Signature} (provided : List.Forall₂ (c.Provides k) types ss) :
    typesOf ss ⊆ c.memberTypes := by
  intro t ht
  obtain ⟨s, hs, mentioned⟩ := List.mem_flatMap.1 ht
  obtain ⟨u, -, (provides : c.Provides k u s)⟩ := exists_mem_zip provided.flip hs
  obtain ⟨e, he, entry⟩ := provides.mem
  exact List.mem_flatMap.2
    ⟨s, List.mem_flatMap.2 ⟨e, he, List.mem_map.2 ⟨_, entry, rfl⟩⟩, mentioned⟩

/-- The same accessor up to the order of variants: the members of the arms and the bounds come in
another order, the arguments may be called otherwise, and types are the same up to their keys. -/
structure Accessor.Alike (a a' : Accessor) : Prop where
  key : a.key = a'.key
  visibility : a.visibility = a'.visibility
  receiver : a.receiver = a'.receiver
  byReference : a.byReference = a'.byReference
  slots : List.Forall₂ Slot.Alike a.slots a'.slots
  output : SameOutput a.byReference a.output a'.output
  returns : a.returns.Alike a'.returns
  signatures : a.signatures.Perm a'.signatures

/-- The same accessors, registry and warnings up to the order of variants. -/
structure Forwarding.Alike (f f' : Forwarding) : Prop where
  registry : f.registry.Alike f'.registry
  accessors : List.Forall₂ Accessor.Alike f.accessors f'.accessors
  warnings : f.warnings = f'.warnings

theorem Forwarding.Alike.used {f f' : Forwarding} (h : f.Alike f') : f.used = f'.used := by
  rw [Forwarding.used, Forwarding.used, ← List.forall₂_eq_eq_eq, List.forall₂_map_left_iff,
    List.forall₂_map_right_iff]
  exact h.accessors.imp fun _ _ alike => by rw [alike.key]

/-- The signatures of a member on two wrappers that are alike are the same up to order. -/
theorem perm_of_provided {c : Catalogue} {k : Key} {w w' : Wrapper} {ss ss' : List Signature}
    (hw : w.Alike w') (provided : List.Forall₂ (c.Provides k) w.types ss)
    (provided' : List.Forall₂ (c.Provides k) w'.types ss') : ss.Perm ss' := by
  obtain ⟨ss₁, perm, provided₁⟩ := provided_perm hw.types provided
  rw [provided_unique provided' provided₁]
  exact perm

theorem resolves_of_provided {c : Catalogue} {k : Key} {w w' : Wrapper} {ss : List Signature}
    (hw : w.Alike w') (provided : List.Forall₂ (c.Provides k) w.types ss) :
    resolveAll (w'.types.map c.table?) k ≠ none := by
  obtain ⟨ss', -, provided'⟩ := provided_perm hw.types provided
  rw [resolveAll_eq_some_iff_provides.2 provided']
  simp

section

variable {c : Catalogue} {w w' : Wrapper} {f f' : Forwarding} (fits : c.Fits)
  (faithful : Faithful c.memberTypes)

include fits faithful

theorem plan_alike_of_provided {k : Key} {ss ss' : List Signature} (hw : w.Alike w')
    (hf : f.Alike f') (provided : List.Forall₂ (c.Provides k) w.types ss)
    (provided' : List.Forall₂ (c.Provides k) w'.types ss') :
    SameOutcome Plan.Alike (plan c f.used k ss) (plan c f'.used k ss') := by
  rw [← hf.used]
  exact plan_alike c f.used k (perm_of_provided hw provided provided')
    (fits_of_provided fits provided) (faithful.mono (typesOf_subset_memberTypes provided))

/-- A step on wrappers that are alike does alike. -/
theorem step_alike {k : Key} {g g' : Forwarding} (hw : w.Alike w') (hf : f.Alike f')
    (step : f.Step c w k g) (step' : f'.Step c w' k g') : g.Alike g' := by
  cases step with
  | lacking unresolved =>
    cases step' with
    | lacking => exact hf
    | refused ss' provided' => exact absurd unresolved (resolves_of_provided hw.symm provided')
    | forwarded ss' provided' => exact absurd unresolved (resolves_of_provided hw.symm provided')
  | refused ss provided o refusal =>
    cases step' with
    | lacking unresolved => exact absurd unresolved (resolves_of_provided hw provided)
    | refused ss' provided' o' refusal' =>
      have same := plan_alike_of_provided fits faithful hw hf provided provided'
      rw [refusal, refusal'] at same
      cases same
      refine ⟨hf.registry, hf.accessors, ?_⟩
      show f.warnings ++ [⟨_, w.ident.origin⟩] = f'.warnings ++ [⟨_, w'.ident.origin⟩]
      rw [hf.warnings, hw.ident]
    | forwarded ss' provided' p' fresh' plan' r' output' gives' =>
      have same := plan_alike_of_provided fits faithful hw hf provided provided'
      rw [refusal, plan_eq_ok_iff.2 ⟨fresh', plan'⟩] at same
      cases same
  | forwarded ss provided p fresh plan r output gives =>
    cases step' with
    | lacking unresolved => exact absurd unresolved (resolves_of_provided hw provided)
    | refused ss' provided' o' refusal' =>
      have same := plan_alike_of_provided fits faithful hw hf provided provided'
      rw [refusal', plan_eq_ok_iff.2 ⟨fresh, plan⟩] at same
      cases same
    | forwarded ss' provided' p' fresh' plan' r' output' gives' =>
      have same := plan_alike_of_provided fits faithful hw hf provided provided'
      rw [plan_eq_ok_iff.2 ⟨fresh, plan⟩, plan_eq_ok_iff.2 ⟨fresh', plan'⟩] at same
      cases same with
      | ok hp =>
        obtain ⟨hr, output⟩ := gives_alike hf.registry hw hp plan.compatible gives gives'
        refine ⟨hr, List.rel_append hf.accessors (.cons ?_ .nil), hf.warnings⟩
        refine ⟨rfl, hw.visibility, hp.receiver, hp.byReference, hp.slots, output, ?_, ?_⟩
        · rw [plan.returns_accessor provided, plan'.returns_accessor provided']
          exact hp.returns
        · rw [signatures_accessor provided, signatures_accessor provided']
          exact perm_of_provided hw provided provided'

/-! ## All steps -/

theorem steps_alike {ks : List Key} {g g' : Forwarding} (hw : w.Alike w') (hf : f.Alike f')
    (h : f.steps c w ks = .ok g) (h' : f'.steps c w' ks = .ok g') : g.Alike g' := by
  induction ks generalizing f f' with
  | nil =>
    cases h
    cases h'
    exact hf
  | cons k ks ih =>
    rw [Forwarding.steps] at h h'
    obtain ⟨f₁, first, rest⟩ := bind_eq_ok_iff.1 h
    obtain ⟨f₁', first', rest'⟩ := bind_eq_ok_iff.1 h'
    exact ih (step_alike fits faithful hw hf (step_cases first) (step_cases first')) rest rest'

omit fits faithful in
theorem start_alike {r r' : Registry} (hr : r.Alike r') (hw : w.Alike w') :
    (Forwarding.start c r w).Alike (Forwarding.start c r' w') := by
  refine ⟨hr, .nil, ?_⟩
  show (if _ then _ else _) = (if _ then _ else _)
  rw [hw.owner, hw.ident, (tables_perm c hw).any_eq]

/-- The members of wrappers that are alike are forwarded alike. -/
theorem forward_alike {r r' : Registry} {g g' : Forwarding} (hr : r.Alike r') (hw : w.Alike w')
    (h : r.forward c w = .ok g) (h' : r'.forward c w' = .ok g') : g.Alike g' := by
  rw [forward_eq] at h h'
  rw [← keysOf_eq c hw] at h'
  exact steps_alike fits faithful hw (start_alike hr hw) h h'

end

/-! ## All wrappers -/

/-- The same wrapper with the same accessors up to the order of variants. -/
structure Registry.Forwarded.Alike (g g' : Registry.Forwarded) : Prop where
  wrapper : g.wrapper.Alike g'.wrapper
  accessors : List.Forall₂ Accessor.Alike g.accessors g'.accessors

/-- All wrappers, those included that arise on the way, are forwarded alike. -/
theorem run_alike {c : Catalogue} (fits : c.Fits) (faithful : Faithful c.memberTypes)
    {rounds index : Nat} {r r' : Registry} {all all' : List Registry.Forwarded}
    {warnings warnings' : List Warning} (hr : r.Alike r')
    (h : r.run c rounds index = .ok (all, warnings))
    (h' : r'.run c rounds index = .ok (all', warnings')) :
    List.Forall₂ Registry.Forwarded.Alike all all' ∧ warnings = warnings' := by
  induction rounds generalizing index r r' all all' warnings warnings' with
  | zero =>
    cases h
    cases h'
    exact ⟨.nil, rfl⟩
  | succ rounds ih =>
    rw [Registry.run] at h h'
    have found := getElem?_rel hr.wrappers index
    generalize r.wrappers[index]? = v at found h
    generalize r'.wrappers[index]? = v' at found h'
    cases found with
    | none =>
      cases h
      cases h'
      exact ⟨.nil, rfl⟩
    | some hw =>
      -- The wrappers stand at the same place, and so do those that they add.
      obtain ⟨f, forwarded, h⟩ := bind_eq_ok_iff.1 h
      obtain ⟨f', forwarded', h'⟩ := bind_eq_ok_iff.1 h'
      obtain ⟨⟨later, ws⟩, rest, h⟩ := bind_eq_ok_iff.1 h
      obtain ⟨⟨later', ws'⟩, rest', h'⟩ := bind_eq_ok_iff.1 h'
      cases h
      cases h'
      have hf := forward_alike fits faithful hr hw forwarded forwarded'
      obtain ⟨alike, same⟩ := ih hf.registry rest rest'
      exact ⟨.cons ⟨hw, hf.accessors⟩ alike, by rw [hf.warnings, same]⟩

theorem expand_alike {c : Catalogue} (fits : c.Fits) (faithful : Faithful c.memberTypes)
    {r r' : Registry} {all all' : List Registry.Forwarded} {warnings warnings' : List Warning}
    (hr : r.Alike r') (h : r.expand c = .ok (all, warnings))
    (h' : r'.expand c = .ok (all', warnings')) :
    List.Forall₂ Registry.Forwarded.Alike all all' ∧ warnings = warnings' := by
  have bound : r.bound c = r'.bound c := by
    rw [Registry.bound, Registry.bound, hr.wrappers.length_eq]
  rw [Registry.expand] at h h'
  rw [← bound] at h'
  exact run_alike fits faithful hr h h'

end SharedMembers
