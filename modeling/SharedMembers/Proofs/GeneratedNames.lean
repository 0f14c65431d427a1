import SharedMembers.Proofs.Keywords
import SharedMembers.Proofs.Registration

/-!
# Generated names

An expansion stops where a name that was made is no identifier, or where a sum of bounds would stand
behind a reference sign. Where members, wrappers and returned types are plainly named, neither
happens. Then the names are no keywords either, unless a member is called by one, or a type in such
a way that its variant is called `Self`.

Results:
* `Registry.Spelled.step`: nested wrappers and their variants are called by identifiers.
* `Registry.Stage.unreserved`: and by no keywords.
* `not_from_of_plainlyNamed`: plain names leave nothing that could not be written.
* `expand_of_plainlyNamed`: a module of plain names expands, and all names made for it are
  identifiers and no keywords.
* `expand_raw`: a raw name is no plain one, and the expansion stops there.
-/

namespace SharedMembers

/-! ## Plain names -/

/-- The members are called by identifiers, the types that they return give identifiers as names of
variants, and none of these types is a sum of bounds. -/
def Catalogue.PlainlyNamed (c : Catalogue) : Prop :=
  ∀ e ∈ c.types, ∀ entry ∈ e.2.table, Text.isIdentifier entry.1.name = true ∧
    ∀ t ∈ entry.2.output, Text.isIdentifier t.variantName = true ∧ t.isSum = false

instance (c : Catalogue) : Decidable c.PlainlyNamed :=
  inferInstanceAs (Decidable (∀ e ∈ c.types, ∀ entry ∈ e.2.table,
    Text.isIdentifier entry.1.name = true ∧
      ∀ t ∈ entry.2.output, Text.isIdentifier t.variantName = true ∧ t.isSum = false))

theorem Catalogue.PlainlyNamed.member {c : Catalogue} (h : c.PlainlyNamed) {k : Key} {t : Ty}
    {s : Signature} (provides : c.Provides k t s) : Text.isIdentifier k.name = true := by
  obtain ⟨e, he, entry⟩ := provides.mem
  exact (h e he _ entry).1

theorem Catalogue.PlainlyNamed.returned {c : Catalogue} (h : c.PlainlyNamed) {t : Ty}
    (returns : c.Returns t) : Text.isIdentifier t.variantName = true ∧ t.isSum = false := by
  obtain ⟨k, u, s, provides, output⟩ := returns
  obtain ⟨e, he, entry⟩ := provides.mem
  exact (h e he _ entry).2 t output

/-! ## Registries of identifiers -/

/-- The wrappers of a registry are called by identifiers, and so are the variants of those that are
nested. -/
def Registry.Spelled (r : Registry) : Prop :=
  ∀ w ∈ r.wrappers, Text.isIdentifier w.ident.name = true ∧
    (w.owner.isSome = true → ∀ v ∈ w.variants, Text.isIdentifier v.1.name = true)

/-- The declared wrappers are none of them nested. -/
theorem spelled_of_prepare {m : Module} {c : Catalogue} {kept : List Item} {start : Registry}
    (prepared : m.prepare = .ok (c, kept, start))
    (named : ∀ w ∈ start.wrappers, Text.isIdentifier w.ident.name = true) : start.Spelled := by
  obtain ⟨items, others, -, parted, -, -, -⟩ := prepare_eq_ok prepared
  intro w hw
  refine ⟨named w hw, fun owned => ?_⟩
  rw [((takeWrappers_declares parted).1 w hw).2] at owned
  cases owned

theorem isIdentifier_of_nameOf {text : String} {i : Ident} (h : nameOf text = .ok i) :
    Text.isIdentifier i.name = true := by
  obtain ⟨identifier, rfl⟩ := nameOf_eq_ok_iff.1 h
  exact identifier

theorem nestedWrapper_spelled {r : Registry} {parent w : Wrapper} {member : String}
    {types : List Ty} (h : r.nestedWrapper parent member types = .ok w) :
    Text.isIdentifier w.ident.name = true ∧
      ∀ v ∈ w.variants, Text.isIdentifier v.1.name = true := by
  obtain ⟨ident, names, hident, hnames, -, rfl⟩ := nestedWrapper_eq_ok h
  refine ⟨isIdentifier_of_nameOf hident, fun v hv => ?_⟩
  obtain ⟨text, -, named⟩ := exists_of_mem_mapM hnames (List.of_mem_zip hv).1
  exact isIdentifier_of_nameOf named

/-- A step adds only wrappers that are called by identifiers. -/
theorem Registry.Spelled.step {c : Catalogue} {w : Wrapper} {k : Key} {f f' : Forwarding}
    (h : f.registry.Spelled) (step : f.Step c w k f') : f'.registry.Spelled := by
  cases step with
  | lacking => exact h
  | refused => exact h
  | forwarded ss provided p fresh plan r output gives =>
    cases gives with
    | nested types v distinct missing made =>
      have spelled := nestedWrapper_spelled made
      exact forall_mem_push h ⟨spelled.1, fun _ => spelled.2⟩
    | _ => exact h

/-! ## Registries without keywords -/

/-- No nested wrapper is called by a keyword, and no variant of one by another keyword than
`Self`. -/
def Registry.Unreserved (r : Registry) : Prop :=
  ∀ w ∈ r.wrappers, w.owner.isSome = true → w.ident.name ∉ keywords ∧
    ∀ v ∈ w.variants, v.1.name ∈ keywords → v.1.name = "Self"

theorem candidate_append (front back : String) (n : Nat) :
    candidate (front ++ back) n = front ++ candidate back n := by
  rw [candidate, candidate]
  split
  · rfl
  · exact String.append_assoc

/-- What a nested wrapper is called is longer than the name of its owner, which is taken, and goes
on as no keyword does. -/
theorem nestedWrapper_unreserved {r : Registry} {parent w : Wrapper} {member : String}
    {types : List Ty} (named : parent.ident.name ≠ "") (held : parent.ident.name ∈ r.taken)
    (h : r.nestedWrapper parent member types = .ok w) :
    w.ident.name ∉ keywords ∧ ∀ v ∈ w.variants, v.1.name ∈ keywords → v.1.name = "Self" := by
  obtain ⟨name, names⟩ := nestedWrapper_names h
  constructor
  · obtain ⟨n, first⟩ := exists_firstFree_eq r.taken (parent.ident.name ++ Text.camel member)
    rw [first, candidate_append] at name
    rw [name]
    refine not_mem_keywords_append named (fun empty => ?_)
      (capital_candidate (Text.capital_camel member) n)
    rw [empty, String.append_empty] at name
    exact nestedWrapper_free h (name ▸ held)
  · intro v hv keyword
    have made : v.1.name ∈ variantNames [] types := by
      rw [← names]
      exact List.mem_map_of_mem hv
    obtain ⟨t, -, n, eq⟩ := exists_candidate_of_mem_variantNames made
    refine eq_Self_of_capital ?_ keyword
    rw [eq]
    exact capital_candidate t.capital_variantName n

theorem Registry.Unreserved.step {c : Catalogue} {w : Wrapper} {k : Key} {f f' : Forwarding}
    (named : w.ident.name ≠ "") (h : f.registry.Unreserved)
    (held : w.ident.name ∈ f.registry.taken) (step : f.Step c w k f') :
    f'.registry.Unreserved ∧ w.ident.name ∈ f'.registry.taken := by
  cases step with
  | lacking => exact ⟨h, held⟩
  | refused => exact ⟨h, held⟩
  | forwarded ss provided p fresh plan r output gives =>
    cases gives with
    | nested types v distinct missing made =>
      exact ⟨forall_mem_push h fun _ => nestedWrapper_unreserved named held made,
        List.mem_cons_of_mem _ held⟩
    | _ => exact ⟨h, held⟩

/-- At every stage, nested wrappers and their variants are called by identifiers and by no keywords,
if the declared wrappers are called by identifiers. -/
theorem Registry.Stage.unreserved {m : Module} {c : Catalogue} {kept : List Item}
    {start r : Registry} {done : Nat} (prepared : m.prepare = .ok (c, kept, start))
    (named : ∀ w ∈ start.wrappers, Text.isIdentifier w.ident.name = true)
    (stage : Registry.Stage c start done r) : r.Spelled ∧ r.Unreserved := by
  obtain ⟨items, others, -, parted, -, -, -⟩ := prepare_eq_ok prepared
  induction stage with
  | new => exact ⟨fun _ hw => absurd hw List.not_mem_nil, fun _ hw => absurd hw List.not_mem_nil⟩
  | declared before next ok ih =>
    obtain ⟨-, rfl⟩ := declare_eq_ok ok
    have hw := List.mem_of_getElem? next
    have unowned := ((takeWrappers_declares parted).1 _ hw).2
    exact ⟨forall_mem_push ih.1 ⟨named _ hw, fun owned => by simp [unowned] at owned⟩,
      forall_mem_push ih.2 fun owned => by simp [unowned] at owned⟩
  | @forwarded done r w f before complete next ok ih =>
    have hw := List.mem_of_getElem? next
    have nonempty : w.ident.name ≠ "" := by
      intro empty
      have identifier := (ih.1 w hw).1
      rw [empty, Text.isIdentifier_empty] at identifier
      cases identifier
    have held := (orderly_of_stage prepared before).held w hw
    have kept := forward_induction
      (P := fun f => (f.registry.Spelled ∧ f.registry.Unreserved) ∧
        w.ident.name ∈ f.registry.taken)
      (fun k _ f f' h step =>
        have ⟨unreserved, held⟩ := Registry.Unreserved.step nonempty h.1.2 h.2 step
        ⟨⟨h.1.1.step step, unreserved⟩, held⟩)
      ⟨ih, held⟩ ok
    exact kept.1

/-! ## Nothing that cannot be written -/

/-- Where the names are plain, forwarding the members of a wrapper fails for nothing. -/
theorem not_from_of_plainlyNamed {c : Catalogue} (plain : c.PlainlyNamed) {w : Wrapper}
    (named : Text.isIdentifier w.ident.name = true) (u : Unwritable) : ¬ u.From c w := by
  intro h
  cases h with
  | accessor k hk invalid =>
    obtain ⟨t, s, provides⟩ := exists_provides_of_mem_keysOf hk
    rw [isIdentifier_accessorName (plain.member provides)] at invalid
    cases invalid
  | nested k hk taken invalid =>
    obtain ⟨t, s, provides⟩ := exists_provides_of_mem_keysOf hk
    have parts := Text.parts_camel (Text.parts_of_isIdentifier (plain.member provides))
    obtain ⟨n, candidate⟩ := exists_firstFree_eq taken (w.ident.name ++ Text.camel k.name)
    rw [candidate, isIdentifier_candidate (Text.isIdentifier_append named parts)] at invalid
    cases invalid
  | variant types returned name given invalid =>
    obtain ⟨t, ht, n, rfl⟩ := exists_candidate_of_mem_variantNames given
    rw [isIdentifier_candidate (plain.returned (returned t ht)).1] at invalid
    cases invalid
  | reference t returned sum =>
    rw [(plain.returned returned).2] at sum
    cases sum

/-- What a module expands to if its members, its wrappers and the types that are returned are
plainly named: all names that are made are identifiers. They are no keywords either, save for
variants called `Self`, and for accessors if their members are called by keywords. -/
theorem expand_of_plainlyNamed {m : Module} {c : Catalogue} {kept : List Item} {start : Registry}
    (prepared : m.prepare = .ok (c, kept, start)) (plain : c.PlainlyNamed)
    (named : ∀ w ∈ start.wrappers, Text.isIdentifier w.ident.name = true) (library : Path) :
    ∃ e, m.expand library = .ok e ∧ ∀ g ∈ e.wrappers,
      Text.isIdentifier g.wrapper.ident.name = true ∧
      (g.wrapper.owner.isSome = true → g.wrapper.ident.name ∉ keywords ∧
        ∀ v ∈ g.wrapper.variants, Text.isIdentifier v.1.name = true ∧
          (v.1.name ∈ keywords → v.1.name = "Self")) ∧
      ∀ a ∈ g.accessors, Text.isIdentifier a.key.accessorName = true ∧
        (a.key.accessorName ∈ keywords → a.key.accessorName = a.key.name) := by
  have spelled := spelled_of_prepare prepared named
  obtain ⟨outcome, processes, run⟩ := expand_processes c start
  cases outcome with
  | error u =>
    obtain ⟨r, hr, w, hw, fails⟩ := processes.fails (fun _ _ _ _ h step => h.step step) spelled
    exact absurd fails (not_from_of_plainlyNamed plain (hr w hw).1 u)
  | ok result =>
    obtain ⟨all, warnings, last⟩ := result
    have expanded : m.expand library = .ok ⟨m, kept, library, all, warnings⟩ := by
      rw [Module.expand, prepared]
      dsimp only
      rw [run]
      rfl
    refine ⟨_, expanded, fun g hg => ?_⟩
    have emitted : all.map (·.wrapper) = last.wrappers := processes.processed.emitted
    have hw : g.wrapper ∈ last.wrappers := emitted ▸ List.mem_map_of_mem hg
    have stage := (Registry.Stage.start prepared).last (List.prefix_refl _) processes
    obtain ⟨identifiers, unreserved⟩ := stage.unreserved prepared named
    obtain ⟨wrapper, variants⟩ := identifiers g.wrapper hw
    refine ⟨wrapper, fun owned => ?_, fun a ha => ?_⟩
    · obtain ⟨name, only⟩ := unreserved g.wrapper hw owned
      exact ⟨name, fun v hv => ⟨variants owned v hv, only v hv⟩⟩
    · obtain ⟨first, made⟩ := processes.processed.made g hg
      obtain ⟨provided, -, -, -, -⟩ := made a ha
      have inhabited := (orderly_of_stage prepared stage).inhabited g.wrapper hw
      obtain ⟨t, ht⟩ := List.exists_mem_of_ne_nil _ inhabited
      obtain ⟨s, -, provides⟩ := exists_mem_zip provided ht
      exact ⟨isIdentifier_accessorName (plain.member provides), accessorName_of_mem_keywords⟩

theorem expand_of_plainlyNamed_crowded :
    ∃ c kept start, crowded.prepare = .ok (c, kept, start) ∧ c.PlainlyNamed ∧
      (∀ w ∈ start.wrappers, Text.isIdentifier w.ident.name = true) ∧
      ∃ e, crowded.expand defaultLibrary = .ok e ∧ ∀ g ∈ e.wrappers,
        Text.isIdentifier g.wrapper.ident.name = true ∧
        (g.wrapper.owner.isSome = true → g.wrapper.ident.name ∉ keywords ∧
          ∀ v ∈ g.wrapper.variants, Text.isIdentifier v.1.name = true ∧
            (v.1.name ∈ keywords → v.1.name = "Self")) ∧
        ∀ a ∈ g.accessors, Text.isIdentifier a.key.accessorName = true ∧
          (a.key.accessorName ∈ keywords → a.key.accessorName = a.key.name) := by
  obtain ⟨⟨c, kept, start⟩, prepared, plain⟩ := exists_ok_of_toOption (x := crowded.prepare)
    (f := fun (c, _, r) => decide (c.PlainlyNamed ∧
      ∀ w ∈ r.wrappers, Text.isIdentifier w.ident.name = true)) (b := true) (by decide +kernel)
  obtain ⟨plain, named⟩ := of_decide_eq_true plain
  exact ⟨c, kept, start, prepared, plain, named,
    expand_of_plainlyNamed prepared plain named defaultLibrary⟩

/-! ## Raw names -/

/-- A wrapper over two structs with a field that is called by a keyword, written as a raw name. -/
def raw : Module :=
  moduleOf
    [openStruct "A" [openField "r#type" (.ofName "u8")],
      openStruct "B" [openField "r#type" (.ofName "u8")], declaringEnum "W" ["A", "B"]]

/-- The text of a raw name, its mark included, is no identifier: the module is well formed, and its
expansion stops at the accessor for the field. -/
theorem expand_raw : raw.expand defaultLibrary = .error (.unwritable (.name "r#type")) := by
  rfl

end SharedMembers
