import SharedMembers.Proofs.Accounting

/-!
# Members that want one name

Several members of a wrapper may want an accessor of the same name: a member that is read and one
that is called, or a member `n` that is written and one that is called `set_n`. The name goes to the
one that comes first in the order of keys among those that can be forwarded. A member that is read
comes before one of the same name that is called. The keys of a member that is written and of its
rival, though, have different names, and which of them comes first depends on how these sort.

Results:
* `forwardsAlone_iff`: a member that could be forwarded if it was the only one.
* `mem_used_iff_of_steps`: the names in use are those of the members that could be forwarded.
* `forward_claimant`: the first claimant of a name is forwarded.
* `warned_of_forward`: the author is warned of every other.
* `setter_wins_iff`: a member that is written wins over one that is called like its accessor iff its
  name sorts before the name of the accessor.
* `call_wins_over_setter`: it does not always.
-/

namespace SharedMembers

/-! ## Claimants -/

/-- The member could be forwarded if it were the only one: all subtypes share it, and nothing but a
name in use could stand in its way. -/
def Catalogue.forwardsAlone (c : Catalogue) (w : Wrapper) (k : Key) : Bool :=
  match resolveAll (w.types.map c.table?) k with
  | none => false
  | some signatures => (plan c [] k signatures).isOk

/-- The first member in the order of keys that wants the name and could be forwarded. -/
def Catalogue.claimant? (c : Catalogue) (w : Wrapper) (name : String) : Option Key :=
  (c.keysOf w).find? fun k => k.accessorName == name && c.forwardsAlone w k

section

variable {c : Catalogue} {w : Wrapper} {k : Key}

theorem forwardsAlone_iff :
    c.forwardsAlone w k = true ↔
      ∃ ss p, List.Forall₂ (c.Provides k) w.types ss ∧ Plan.For c k ss p := by
  unfold Catalogue.forwardsAlone
  constructor
  · intro h
    cases resolved : resolveAll (w.types.map c.table?) k with
    | none =>
      rw [resolved] at h
      cases h
    | some ss =>
      rw [resolved] at h
      cases planned : plan c [] k ss with
      | error o =>
        simp [planned, Except.isOk, Except.toBool] at h
      | ok p =>
        exact ⟨ss, p, resolveAll_eq_some_iff_provides.1 resolved, (plan_eq_ok_iff.1 planned).2⟩
  · rintro ⟨ss, p, provided, plan⟩
    have planned : SharedMembers.plan c [] k ss = .ok p :=
      plan_eq_ok_iff.2 ⟨List.not_mem_nil, plan⟩
    rw [resolveAll_eq_some_iff_provides.2 provided]
    simp [planned, Except.isOk, Except.toBool]

/-- What stands in the way of a member whose name is in use is just that. -/
theorem Plan.For.plan_of_used {ss : List Signature} {p : Plan} {used : List String}
    (h : p.For c k ss) (name : k.accessorName ∈ used) : plan c used k ss = .error .used := by
  rw [plan_eq, if_neg h.unreserved, if_pos name]

theorem mem_keysOf_of_forwardsAlone (inhabited : w.types ≠ [])
    (alone : c.forwardsAlone w k = true) : k ∈ c.keysOf w := by
  obtain ⟨ss, p, provided, -⟩ := forwardsAlone_iff.1 alone
  exact (shares_of_provided provided).mem_keysOf inhabited

/-- A name that some member wants has a claimant. -/
theorem exists_claimant (hk : k ∈ c.keysOf w) (alone : c.forwardsAlone w k = true) :
    ∃ j, c.claimant? w k.accessorName = some j := by
  rw [← Option.isSome_iff_exists, Catalogue.claimant?, List.find?_isSome]
  exact ⟨k, hk, by simp [alone]⟩

theorem pairwise_keysOf (c : Catalogue) (w : Wrapper) :
    (c.keysOf w).Pairwise fun j k => j.before k = true :=
  pairwise_sortedKeys _

/-- In front of a member stand those that come before it in the order of keys. -/
theorem before_iff_mem {j : Key} {earlier later : List Key}
    (split : c.keysOf w = earlier ++ k :: later) (hj : j ∈ c.keysOf w) :
    j.before k = true ↔ j ∈ earlier := by
  have sorted := pairwise_keysOf c w
  rw [split] at hj sorted
  have parts := List.pairwise_append.1 sorted
  constructor
  · intro before
    rcases List.mem_append.1 hj with hj | hj
    · exact hj
    · rcases List.mem_cons.1 hj with rfl | hj
      · rw [Key.before_irrefl] at before
        cases before
      · exact absurd before (Key.before_asymm ((List.pairwise_cons.1 parts.2.1).1 j hj))
  · intro hj
    exact parts.2.2 j hj k List.mem_cons_self

/-- A claimant wants the name, and no member before it that could be forwarded does. -/
theorem claimant?_eq_some {name : String} (h : c.claimant? w name = some k) :
    k ∈ c.keysOf w ∧ k.accessorName = name ∧ c.forwardsAlone w k = true ∧
      ∀ j ∈ c.keysOf w, j.before k = true → j.accessorName = name →
        c.forwardsAlone w j = false := by
  unfold Catalogue.claimant? at h
  have found := List.find?_some h
  rw [Bool.and_eq_true, beq_iff_eq] at found
  refine ⟨List.mem_of_find?_eq_some h, found.1, found.2, ?_⟩
  obtain ⟨-, earlier, later, split, none⟩ := List.find?_eq_some_iff_append.1 h
  intro j hj before same
  have unclaimed := none j ((before_iff_mem split hj).1 before)
  simpa [same] using unclaimed

end

/-! ## Names in use -/

section

variable {c : Catalogue} {w : Wrapper} {f f' : Forwarding}

/-- The step of a member that could be forwarded uses its name, by itself or by another, and no
other step uses a new name. -/
theorem Forwarding.Step.mem_used_iff {k : Key} (h : f.Step c w k f') {name : String} :
    name ∈ f'.used ↔ name ∈ f.used ∨ c.forwardsAlone w k = true ∧ k.accessorName = name := by
  constructor
  · intro used
    cases h with
    | lacking => exact .inl used
    | refused => exact .inl used
    | forwarded ss provided p fresh plan r output gives =>
      change name ∈ (f.accessors ++ [_]).map _ at used
      rw [List.map_append] at used
      rcases List.mem_append.1 used with old | new
      · exact .inl old
      · exact .inr ⟨forwardsAlone_iff.2 ⟨ss, p, provided, plan⟩, (List.mem_singleton.1 new).symm⟩
  · rintro (old | ⟨alone, rfl⟩)
    · exact h.used_subset old
    · obtain ⟨ss, p, provided, plan⟩ := forwardsAlone_iff.1 alone
      exact h.mem_used provided plan

/-- The names in use are those of the members that could be forwarded. -/
theorem mem_used_iff_of_steps {ks : List Key} (h : f.steps c w ks = .ok f') {name : String} :
    name ∈ f'.used ↔
      name ∈ f.used ∨ ∃ k ∈ ks, c.forwardsAlone w k = true ∧ k.accessorName = name := by
  induction ks generalizing f with
  | nil =>
    cases h
    simp
  | cons k ks ih =>
    rw [Forwarding.steps] at h
    obtain ⟨f₁, first, rest⟩ := bind_eq_ok_iff.1 h
    rw [ih rest, (step_cases first).mem_used_iff, or_assoc, List.exists_mem_cons_iff]

theorem Forwarding.Step.warnings_prefix {k : Key} (h : f.Step c w k f') :
    f.warnings <+: f'.warnings := by
  cases h with
  | refused => exact List.prefix_append _ _
  | _ => exact List.prefix_refl _

/-- The steps before a member, its own, and those behind it. -/
theorem steps_split {k : Key} {before after : List Key}
    (h : f.steps c w (before ++ k :: after) = .ok f') :
    ∃ f₁ f₂, f.steps c w before = .ok f₁ ∧ f₁.Step c w k f₂ ∧
      f₂.accessors <+: f'.accessors ∧ f₂.warnings <+: f'.warnings := by
  induction before generalizing f with
  | nil =>
    rw [List.nil_append, Forwarding.steps] at h
    obtain ⟨f₁, own, rest⟩ := bind_eq_ok_iff.1 h
    refine ⟨f, f₁, rfl, step_cases own, ?_⟩
    refine steps_induction
      (P := fun f => f₁.accessors <+: f.accessors ∧ f₁.warnings <+: f.warnings) ?_
      ⟨List.prefix_refl _, List.prefix_refl _⟩ rest
    intro _ _ g g' kept step
    obtain ⟨accessors, warnings⟩ := kept
    exact ⟨accessors.trans step.accessors_prefix, warnings.trans step.warnings_prefix⟩
  | cons j before ih =>
    rw [List.cons_append, Forwarding.steps] at h
    obtain ⟨g, first, rest⟩ := bind_eq_ok_iff.1 h
    obtain ⟨f₁, f₂, earlier, own, later⟩ := ih rest
    refine ⟨f₁, f₂, ?_, own, later⟩
    rw [Forwarding.steps, first]
    exact earlier

end

/-! ## Who gets a name -/

section

variable {c : Catalogue} {r : Registry} {w : Wrapper} {f : Forwarding} {k : Key}

/-- When it is a member's turn, a name is in use iff a member before it that could be forwarded
wants it. -/
theorem step_of_forward (h : r.forward c w = .ok f) (hk : k ∈ c.keysOf w) :
    ∃ f₁ f₂ : Forwarding, f₁.Step c w k f₂ ∧ f₂.accessors <+: f.accessors ∧
      f₂.warnings <+: f.warnings ∧ ∀ name, name ∈ f₁.used ↔ ∃ j ∈ c.keysOf w, j.before k = true ∧
        c.forwardsAlone w j = true ∧ j.accessorName = name := by
  obtain ⟨earlier, later, split⟩ := List.append_of_mem hk
  rw [forward_eq, split] at h
  obtain ⟨f₁, f₂, before, own, accessors, warnings⟩ := steps_split h
  refine ⟨f₁, f₂, own, accessors, warnings, fun name => ?_⟩
  have unused : name ∉ (Forwarding.start c r w).used := List.not_mem_nil
  rw [mem_used_iff_of_steps before, or_iff_right unused]
  constructor
  · rintro ⟨j, hj, wants⟩
    have mem : j ∈ c.keysOf w := split ▸ List.mem_append_left _ hj
    exact ⟨j, mem, (before_iff_mem split mem).2 hj, wants⟩
  · rintro ⟨j, hj, first, wants⟩
    exact ⟨j, (before_iff_mem split hj).1 first, wants⟩

/-- The first claimant of a name is forwarded. -/
theorem forward_claimant (h : r.forward c w = .ok f) {name : String}
    (claims : c.claimant? w name = some k) : ∃ a ∈ f.accessors, a.key = k := by
  obtain ⟨hk, rfl, alone, first⟩ := claimant?_eq_some claims
  obtain ⟨ss, p, provided, plan⟩ := forwardsAlone_iff.1 alone
  obtain ⟨f₁, f₂, step, accessors, -, used⟩ := step_of_forward h hk
  have fresh : k.accessorName ∉ f₁.used := by
    rw [used]
    rintro ⟨j, hj, before, alone', same⟩
    rw [first j hj before same] at alone'
    cases alone'
  cases step with
  | lacking unresolved =>
    rw [resolveAll_eq_some_iff_provides.2 provided] at unresolved
    cases unresolved
  | refused ss' provided' o refusal =>
    obtain rfl := provided_unique provided provided'
    have planned : SharedMembers.plan c f₁.used k ss = .ok p := plan_eq_ok_iff.2 ⟨fresh, plan⟩
    rw [planned] at refusal
    cases refusal
  | forwarded =>
    exact ⟨_, accessors.subset (List.mem_append_right _ List.mem_cons_self), rfl⟩

/-- The accessors of a wrapper have different names. -/
theorem accessorNames_nodup (inhabited : w.types ≠ []) (h : r.forward c w = .ok f) :
    (f.accessors.map (·.key.accessorName)).Nodup := by
  obtain ⟨l, accounts⟩ := forward_accounts inhabited h
  exact accounts.named

/-- The author is warned of a member that could be forwarded if its name had no other claimant. -/
theorem warned_of_forward (h : r.forward c w = .ok f) (hk : k ∈ c.keysOf w)
    (alone : c.forwardsAlone w k = true) (loses : c.claimant? w k.accessorName ≠ some k) :
    ⟨.notForwarded k.accessorName .used, w.ident.origin⟩ ∈ f.warnings := by
  obtain ⟨ss, p, provided, plan⟩ := forwardsAlone_iff.1 alone
  obtain ⟨f₁, f₂, step, -, warnings, used⟩ := step_of_forward h hk
  obtain ⟨j, claims⟩ := exists_claimant hk alone
  obtain ⟨hj, same, alone', first⟩ := claimant?_eq_some claims
  have other : j ≠ k := fun eq => loses (eq ▸ claims)
  -- The claimant comes first, so that the name is in use by now.
  have before : j.before k = true := by
    rcases Key.before_total other with before | after
    · exact before
    · rw [first k hk after rfl] at alone
      cases alone
  have name : k.accessorName ∈ f₁.used := (used _).2 ⟨j, hj, before, alone', same⟩
  cases step with
  | lacking unresolved =>
    rw [resolveAll_eq_some_iff_provides.2 provided] at unresolved
    cases unresolved
  | refused ss' provided' o refusal =>
    obtain rfl := provided_unique provided provided'
    rw [plan.plan_of_used name] at refusal
    cases refusal
    exact warnings.subset (List.mem_append_right _ List.mem_cons_self)
  | forwarded ss' provided' p' fresh => exact absurd name fresh

end

/-! ## Setters -/

/-- Who wants the accessor of a member that is written: the member, and those that are read or
called by the accessor's name. -/
theorem accessorName_eq_setter {k : Key} {n : String} (h : k.accessorName = "set_" ++ n) :
    k = ⟨n, .write⟩ ∨ k.name = "set_" ++ n := by
  obtain ⟨name, shape⟩ := k
  cases shape with
  | write =>
    have same : "set_" ++ name = "set_" ++ n := h
    rw [String.append_right_inj] at same
    rw [same]
    exact .inl rfl
  | read => exact .inr h
  | call k => exact .inr h

theorem setter_ne_self (n : String) : "set_" ++ n ≠ n := by
  intro same
  have lengths := congrArg String.length same
  rw [String.length_append] at lengths
  have : "set_".length = 4 := rfl
  omega

/-- The member that is written claims its accessor's name iff its own name sorts before that one, if
another member that could be forwarded has the name. -/
theorem claimant_setter_iff {c : Catalogue} {w : Wrapper} {n : String} {k : Key} {shape : Shape}
    (called : shape ≠ .write) (rival : c.forwardsAlone w ⟨"set_" ++ n, shape⟩ = true)
    (inhabited : w.types ≠ []) (setter : c.forwardsAlone w ⟨n, .write⟩ = true)
    (claims : c.claimant? w ("set_" ++ n) = some k) :
    k = ⟨n, .write⟩ ↔ n < "set_" ++ n := by
  obtain ⟨hk, name, alone, first⟩ := claimant?_eq_some claims
  constructor
  · rintro rfl
    by_contra notBefore
    -- Else the rival would come first.
    have before : Key.before ⟨"set_" ++ n, shape⟩ ⟨n, .write⟩ = true :=
      Key.before_iff.2 (.inl (Std.lt_of_le_of_ne (Std.not_lt.1 notBefore) (setter_ne_self n)))
    have wants : Key.accessorName ⟨"set_" ++ n, shape⟩ = "set_" ++ n := by
      cases shape with
      | write => exact absurd rfl called
      | read => rfl
      | call _ => rfl
    rw [first _ (mem_keysOf_of_forwardsAlone inhabited rival) before wants] at rival
    cases rival
  · intro before
    by_contra other
    have rest : k.name = "set_" ++ n := (accessorName_eq_setter name).resolve_left other
    have earlier : Key.before ⟨n, .write⟩ k = true := Key.before_iff.2 (.inl (rest ▸ before))
    rw [first _ (mem_keysOf_of_forwardsAlone inhabited setter) earlier rfl] at setter
    cases setter

/-- Each wrapper of an expansion was forwarded from some registry, and all that the author is warned
of on the way is a warning of the expansion. -/
theorem exists_forward_of_expand {m : Module} {library : Path} {e : Expansion}
    (h : m.expand library = .ok e) :
    ∃ c kept start, m.prepare = .ok (c, kept, start) ∧ ∀ g ∈ e.wrappers,
      g.wrapper.types ≠ [] ∧ ∃ (r : Registry) (f : Forwarding),
        r.forward c g.wrapper = .ok f ∧ f.accessors = g.accessors ∧ f.warnings ⊆ e.warnings := by
  obtain ⟨c, kept, start, last, prepared, processes, -, -, orderly⟩ := expand_orderly h
  obtain ⟨parts, all, eq⟩ := processes.parts
    (Q := fun g warnings => g.wrapper.types ≠ [] ∧ ∃ (r : Registry) (f : Forwarding),
      r.forward c g.wrapper = .ok f ∧ f.accessors = g.accessors ∧ f.warnings = warnings)
    fun r w f held ok => ⟨orderly.inhabited w held, r, f, ok, rfl, rfl⟩
  refine ⟨c, kept, start, prepared, fun g hg => ?_⟩
  obtain ⟨part, paired, inhabited, r, f, ok, accessors, rfl⟩ := exists_mem_zip all hg
  refine ⟨inhabited, r, f, ok, accessors, fun warning hw => ?_⟩
  rw [eq]
  exact List.mem_flatten_of_mem (List.of_mem_zip paired).2 hw

/-- A wrapper whose subtypes share a member `n` that is written and a member `set_n` that is called,
each of which could be forwarded alone, has one accessor `set_n`. If `n` sorts before `set_n` it is
that of the member that is written, else that of a member called `set_n`. The author is warned of
the one that is left out. -/
theorem setter_wins_iff {m : Module} {library : Path} {e : Expansion}
    (h : m.expand library = .ok e) :
    ∃ c kept start, m.prepare = .ok (c, kept, start) ∧
      ∀ g ∈ e.wrappers, ∀ (n : String) (k : Nat),
        c.forwardsAlone g.wrapper ⟨n, .write⟩ = true →
        c.forwardsAlone g.wrapper ⟨"set_" ++ n, .call k⟩ = true →
        ∃ a ∈ g.accessors, a.key.accessorName = "set_" ++ n ∧
          (∀ b ∈ g.accessors, b.key.accessorName = "set_" ++ n → b = a) ∧
          (if n < "set_" ++ n then a.key = ⟨n, .write⟩ else a.key.name = "set_" ++ n) ∧
          ⟨.notForwarded ("set_" ++ n) .used, g.wrapper.ident.origin⟩ ∈ e.warnings := by
  obtain ⟨c, kept, start, prepared, forwarded⟩ := exists_forward_of_expand h
  refine ⟨c, kept, start, prepared, fun g hg n k setter rival => ?_⟩
  obtain ⟨inhabited, r, f, ok, accessors, warnings⟩ := forwarded g hg
  have hsetter := mem_keysOf_of_forwardsAlone inhabited setter
  have hrival := mem_keysOf_of_forwardsAlone inhabited rival
  obtain ⟨j, claims⟩ := exists_claimant hsetter setter
  change c.claimant? g.wrapper ("set_" ++ n) = some j at claims
  obtain ⟨-, name, -, -⟩ := claimant?_eq_some claims
  obtain ⟨a, ha, rfl⟩ := forward_claimant ok claims
  have wins : a.key = ⟨n, .write⟩ ↔ n < "set_" ++ n :=
    claimant_setter_iff (by simp) rival inhabited setter claims
  refine ⟨a, accessors ▸ ha, name, ?_, ?_, warnings ?_⟩
  · intro b hb same
    rw [← accessors] at hb
    exact List.inj_on_of_nodup_map (accessorNames_nodup inhabited ok) hb ha (same.trans name.symm)
  · split
    · next before => exact wins.2 before
    · next after => exact (accessorName_eq_setter name).resolve_left fun own => after (wins.1 own)
  · -- Of the two members one at least is not the claimant.
    by_cases own : a.key = ⟨n, .write⟩
    · refine warned_of_forward ok hrival rival fun both => ?_
      rw [show c.claimant? g.wrapper (Key.accessorName ⟨"set_" ++ n, .call k⟩) = some a.key
        from claims, own] at both
      cases congrArg Key.shape (Option.some.inj both)
    · refine warned_of_forward ok hsetter setter fun both => own ?_
      exact Option.some.inj (claims.symm.trans both)

/-! ## Names behind `set_` -/

/-- Two structs with a field of the name, and a method of two arguments that is called like the
setter of the field. -/
def metered (field : String) : Module :=
  moduleOf
    [openStruct "Gauge" [openField field (.ofName "u8")],
      openStruct "Dial" [openField field (.ofName "u8")],
      openMethod "Gauge" ("set_" ++ field) [.ofName "u8", .ofName "u8"] none,
      openMethod "Dial" ("set_" ++ field) [.ofName "u8", .ofName "u8"] none,
      declaringEnum "Meter" ["Gauge", "Dial"]]

/-- For each wrapper whether the member `n` that is written could be forwarded alone, whether the
member `set_n` could that is called with so many arguments, and which members are forwarded. -/
def Module.contests (m : Module) (n : String) (k : Nat) :
    Option (List (Bool × Bool × List Key)) :=
  match m.prepare, m.expand defaultLibrary with
  | .ok (c, _, _), .ok e =>
    some <| e.wrappers.map fun g =>
      (c.forwardsAlone g.wrapper ⟨n, .write⟩,
        c.forwardsAlone g.wrapper ⟨"set_" ++ n, .call k⟩, g.accessors.map (·.key))
  | _, _ => none

theorem exists_of_contests {m : Module} {n : String} {k : Nat} {l : List Key}
    (h : m.contests n k = some [(true, true, l)]) :
    ∃ c kept start e g, m.prepare = .ok (c, kept, start) ∧ m.expand defaultLibrary = .ok e ∧
      g ∈ e.wrappers ∧ c.forwardsAlone g.wrapper ⟨n, .write⟩ = true ∧
      c.forwardsAlone g.wrapper ⟨"set_" ++ n, .call k⟩ = true ∧
      g.accessors.map (·.key) = l := by
  unfold Module.contests at h
  split at h
  · next c kept start e prepared expanded =>
    obtain ⟨g, one, seen⟩ := List.map_eq_singleton_iff.1 (Option.some.inj h)
    have hg : g ∈ e.wrappers := one ▸ List.mem_cons_self
    rw [Prod.mk.injEq, Prod.mk.injEq] at seen
    exact ⟨c, kept, start, e, g, prepared, expanded, hg, seen⟩
  · cases h

/-- The setter of a field `n` wins. -/
theorem setter_wins_iff_metered :
    ∃ c kept start e g, (metered "n").prepare = .ok (c, kept, start) ∧
      (metered "n").expand defaultLibrary = .ok e ∧ g ∈ e.wrappers ∧
      c.forwardsAlone g.wrapper ⟨"n", .write⟩ = true ∧
      c.forwardsAlone g.wrapper ⟨"set_n", .call 2⟩ = true ∧
      ∃ a ∈ g.accessors, a.key.accessorName = "set_n" ∧
        (∀ b ∈ g.accessors, b.key.accessorName = "set_n" → b = a) ∧ a.key = ⟨"n", .write⟩ ∧
        ⟨.notForwarded "set_n" .used, g.wrapper.ident.origin⟩ ∈ e.warnings := by
  obtain ⟨c, kept, start, e, g, prepared, expanded, hg, setter, rival, -⟩ :=
    exists_of_contests (m := metered "n") (n := "n") (k := 2)
      (l := [⟨"n", .read⟩, ⟨"n", .write⟩]) (by decide +kernel)
  obtain ⟨c', kept', start', prepared', wins⟩ := setter_wins_iff expanded
  cases prepared.symm.trans prepared'
  obtain ⟨a, ha, name, only, key, warned⟩ := wins g hg "n" 2 setter rival
  rw [if_pos (by decide)] at key
  exact ⟨c, kept, start, e, g, prepared, expanded, hg, setter, rival, a, ha, name, only, key,
    warned⟩

/-- The setter of a field `tag` loses: the accessor `set_tag` is that of the method, and none is
that of the setter. -/
theorem call_wins_over_setter :
    ∃ c kept start e g, (metered "tag").prepare = .ok (c, kept, start) ∧
      (metered "tag").expand defaultLibrary = .ok e ∧ g ∈ e.wrappers ∧
      c.forwardsAlone g.wrapper ⟨"tag", .write⟩ = true ∧
      c.forwardsAlone g.wrapper ⟨"set_tag", .call 2⟩ = true ∧
      (∃ a ∈ g.accessors, a.key.accessorName = "set_tag" ∧ a.key = ⟨"set_tag", .call 2⟩) ∧
      ∀ a ∈ g.accessors, a.key ≠ ⟨"tag", .write⟩ := by
  obtain ⟨c, kept, start, e, g, prepared, expanded, hg, setter, rival, keys⟩ :=
    exists_of_contests (m := metered "tag") (n := "tag") (k := 2)
      (l := [⟨"set_tag", .call 2⟩, ⟨"tag", .read⟩]) (by decide +kernel)
  refine ⟨c, kept, start, e, g, prepared, expanded, hg, setter, rival, ?_, ?_⟩
  · have mem : (⟨"set_tag", .call 2⟩ : Key) ∈ g.accessors.map (·.key) := by
      rw [keys]
      exact List.mem_cons_self
    obtain ⟨a, ha, own⟩ := List.mem_map.1 mem
    exact ⟨a, ha, by rw [own]; rfl, own⟩
  · intro a ha own
    have mem : a.key ∈ g.accessors.map (·.key) := List.mem_map_of_mem ha
    rw [keys, own] at mem
    exact absurd mem (by decide)

end SharedMembers
