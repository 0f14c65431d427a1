import SharedMembers.Proofs.Registration
import SharedMembers.Proofs.VariantOrder

/-!
# Every shared member is accounted for

A member that all subtypes of a wrapper share becomes an accessor, or else the author is warned that
it does not. The ledger of a wrapper says which: it has one entry for each shared member, and the
accessors and warnings are read off its entries.

Results:
* `resolves_iff`: a member resolves iff all subtypes share it.
* `Forwarding.Accounted.step`: a step enters a shared member into the ledger, and no other.
* `Forwarding.Accounted.steps`: all steps enter the shared members in their order.
* `forward_accounts`: the ledger of a wrapper.
* `expand_accounts`: the ledgers of all wrappers of a module account for every accessor and warning.
-/

namespace SharedMembers

/-! ## Shared members -/

/-- Every subtype of the wrapper provides the member. -/
def Catalogue.Shares (c : Catalogue) (w : Wrapper) (k : Key) : Prop :=
  ∀ t ∈ w.types, ∃ s, c.Provides k t s

/-- The member resolves on all subtypes of the wrapper. -/
def Catalogue.resolves (c : Catalogue) (w : Wrapper) (k : Key) : Bool :=
  (resolveAll (w.types.map c.table?) k).isSome

theorem shares_of_provided {c : Catalogue} {w : Wrapper} {k : Key} {ss : List Signature}
    (provided : List.Forall₂ (c.Provides k) w.types ss) : c.Shares w k := by
  intro t ht
  obtain ⟨s, -, provides⟩ := exists_mem_zip provided ht
  exact ⟨s, provides⟩

/-- A member resolves iff all subtypes share it. -/
theorem resolves_iff {c : Catalogue} {w : Wrapper} {k : Key} :
    c.resolves w k = true ↔ c.Shares w k := by
  rw [Catalogue.resolves, Option.isSome_iff_exists]
  constructor
  · rintro ⟨ss, resolved⟩
    exact shares_of_provided (resolveAll_eq_some_iff_provides.1 resolved)
  · intro shared
    obtain ⟨ss, provided⟩ := exists_forall₂_of_forall shared
    exact ⟨ss, resolveAll_eq_some_iff_provides.2 provided⟩

/-- A member that all subtypes share is among those that some subtype has. -/
theorem Catalogue.Shares.mem_keysOf {c : Catalogue} {w : Wrapper} {k : Key} (h : c.Shares w k)
    (inhabited : w.types ≠ []) : k ∈ c.keysOf w := by
  obtain ⟨t, ht⟩ := List.exists_mem_of_ne_nil w.types inhabited
  obtain ⟨s, provides⟩ := h t ht
  exact provides.mem_keysOf ht

/-! ## Ledgers -/

/-- What became of each shared member: an accessor, or what stood in the way. -/
abbrev Ledger :=
  List (Key × (Accessor ⊕ Obstacle))

namespace Ledger

/-- The members that are entered. -/
def keys (l : Ledger) : List Key :=
  l.map (·.1)

/-- The accessors that are entered. -/
def accessors (l : Ledger) : List Accessor :=
  l.filterMap (·.2.getLeft?)

/-- The warnings about members that are not forwarded. -/
def warnings (w : Wrapper) (l : Ledger) : List Warning :=
  l.filterMap fun (k, outcome) =>
    outcome.getRight?.map fun o => ⟨.notForwarded k.accessorName o, w.ident.origin⟩

@[simp]
theorem keys_append (l l' : Ledger) : (l ++ l').keys = l.keys ++ l'.keys :=
  List.map_append

@[simp]
theorem accessors_append (l l' : Ledger) : (l ++ l').accessors = l.accessors ++ l'.accessors :=
  List.filterMap_append

@[simp]
theorem warnings_append (w : Wrapper) (l l' : Ledger) :
    warnings w (l ++ l') = warnings w l ++ warnings w l' :=
  List.filterMap_append

end Ledger

/-- The ledger tells how the members were forwarded so far, after the warnings given at the start. -/
structure Forwarding.Accounted (w : Wrapper) (opening : List Warning) (f : Forwarding) (l : Ledger) :
    Prop where
  accessors : f.accessors = l.accessors
  warnings : f.warnings = opening ++ l.warnings w
  keyed : ∀ k a, (k, .inl a) ∈ l → a.key = k
  named : f.used.Nodup
  unreserved : ∀ name ∈ f.used, name ∉ reservedNames
  used : ∀ k, (k, .inr .used) ∈ l → k.accessorName ∈ f.used

/-! ## One step -/

/-- A member is refused because its name is used only if the name is used. -/
theorem mem_used_of_refused {c : Catalogue} {used : List String} {k : Key} {ss : List Signature}
    (h : plan c used k ss = .error .used) : k.accessorName ∈ used := by
  rw [plan_eq] at h
  split at h
  · cases h
  split at h
  · assumption
  split at h
  · cases h
  split at h
  · next o refused =>
    cases h
    -- Reading by reference is refused for another reason.
    cases shape : k.shape with
    | read =>
      rw [shape, usesReference, readByReference] at refused
      split at refused
      · cases refused
      · split at refused <;> cases refused
    | write =>
      rw [shape] at refused
      cases refused
    | call n =>
      rw [shape] at refused
      cases refused
  · split at h <;> cases h

section

variable {c : Catalogue} {w : Wrapper} {opening : List Warning} {f f' : Forwarding} {l : Ledger}
  {k : Key}

/-- A warning enters a member that is not forwarded. -/
theorem Forwarding.Accounted.warn (h : f.Accounted w opening l) {o : Obstacle}
    (used : o = .used → k.accessorName ∈ f.used) :
    (f.warn w (.notForwarded k.accessorName o)).Accounted w opening (l ++ [(k, .inr o)]) where
  accessors := by
    show f.accessors = _
    rw [Ledger.accessors_append, h.accessors]
    exact (List.append_nil _).symm
  warnings := by
    show f.warnings ++ _ = _
    rw [Ledger.warnings_append, h.warnings, List.append_assoc]
    rfl
  keyed j a entry := by
    rcases List.mem_append.1 entry with entry | entry
    · exact h.keyed j a entry
    · simp at entry
  named := h.named
  unreserved := h.unreserved
  used j entry := by
    rcases List.mem_append.1 entry with entry | entry
    · exact h.used j entry
    · rw [List.mem_singleton] at entry
      cases entry
      exact used rfl

/-- One more accessor enters its member, if the name is new. -/
theorem Forwarding.Accounted.accessor (h : f.Accounted w opening l) {r : Registry} {a : Accessor}
    (fresh : a.key.accessorName ∉ f.used) (unreserved : a.key.accessorName ∉ reservedNames) :
    Forwarding.Accounted w opening ⟨r, f.accessors ++ [a], f.warnings⟩
      (l ++ [(a.key, .inl a)]) where
  accessors := by
    show f.accessors ++ [a] = _
    rw [Ledger.accessors_append, h.accessors]
    rfl
  warnings := by
    show f.warnings = _
    rw [Ledger.warnings_append, h.warnings]
    exact congrArg (opening ++ ·) (List.append_nil _).symm
  keyed j b entry := by
    rcases List.mem_append.1 entry with entry | entry
    · exact h.keyed j b entry
    · rw [List.mem_singleton] at entry
      cases entry
      rfl
  named := nodup_map_append_singleton h.named fresh
  unreserved name hname := by
    change name ∈ (f.accessors ++ [a]).map _ at hname
    rw [List.map_append] at hname
    rcases List.mem_append.1 hname with old | new
    · exact h.unreserved name old
    · rw [List.mem_singleton.1 new]
      exact unreserved
  used j entry := by
    show j.accessorName ∈ (f.accessors ++ [a]).map _
    rw [List.map_append]
    rcases List.mem_append.1 entry with entry | entry
    · exact List.mem_append_left _ (h.used j entry)
    · simp at entry

/-- A step enters a member that resolves, and no other. -/
theorem Forwarding.Accounted.step (h : f.Accounted w opening l) (step : f.Step c w k f') :
    ∃ more : Ledger, more.keys = [k].filter (c.resolves w) ∧
      f'.Accounted w opening (l ++ more) := by
  have entered {ss : List Signature} (provided : List.Forall₂ (c.Provides k) w.types ss) :
      [k] = [k].filter (c.resolves w) := by
    rw [List.filter_cons_of_pos (resolves_iff.2 (shares_of_provided provided)), List.filter_nil]
  cases step with
  | lacking unresolved =>
    have left : ¬ c.resolves w k = true := by simp [Catalogue.resolves, unresolved]
    rw [List.filter_cons_of_neg left]
    exact ⟨[], rfl, by rwa [List.append_nil]⟩
  | refused ss provided o refusal =>
    refine ⟨[(k, .inr o)], entered provided, h.warn fun used => ?_⟩
    rw [used] at refusal
    exact mem_used_of_refused refusal
  | forwarded ss provided p fresh plan r output gives =>
    exact ⟨[(k, .inl (p.accessor w k ss output))], entered provided,
      h.accessor fresh plan.unreserved⟩

/-! ## All steps -/

/-- All steps together enter the members that resolve, in their order. -/
theorem Forwarding.Accounted.steps {ks : List Key} (h : f.Accounted w opening l)
    (steps : f.steps c w ks = .ok f') :
    ∃ more : Ledger, more.keys = ks.filter (c.resolves w) ∧
      f'.Accounted w opening (l ++ more) := by
  induction ks generalizing f l with
  | nil =>
    cases steps
    exact ⟨[], rfl, by rwa [List.append_nil]⟩
  | cons k ks ih =>
    rw [Forwarding.steps] at steps
    obtain ⟨f₁, first, rest⟩ := bind_eq_ok_iff.1 steps
    obtain ⟨one, one_keys, h₁⟩ := h.step (step_cases first)
    obtain ⟨more, more_keys, h'⟩ := ih h₁ rest
    refine ⟨one ++ more, ?_, ?_⟩
    · rw [Ledger.keys_append, one_keys, more_keys, ← List.filter_append]
      rfl
    · rwa [← List.append_assoc]

end

/-! ## The ledger of a wrapper -/

/-- What an author is warned of before any member is forwarded. -/
def Catalogue.opening (c : Catalogue) (w : Wrapper) : List Warning :=
  if w.owner.isNone && (w.types.map c.table?).any Option.isNone then
    [⟨.undefinedSubtypes w.ident.name, w.ident.origin⟩]
  else []

/-- The ledger accounts for the accessors of a wrapper and for the warnings about it: each shared
member is entered once and no other member is, in particular none if a subtype has no table. The
names of the accessors are different and not reserved, and a name that stands in the way because it
is used is the name of an accessor. -/
structure Ledger.Accounts (c : Catalogue) (w : Wrapper) (accessors : List Accessor)
    (warnings : List Warning) (l : Ledger) : Prop where
  once : l.keys.Nodup
  complete : ∀ k, k ∈ l.keys ↔ c.Shares w k
  untabled : (∃ t ∈ w.types, c.table? t = none) → l = []
  accessors_eq : accessors = l.accessors
  keyed : ∀ k a, (k, .inl a) ∈ l → a.key = k
  warnings_eq : warnings = c.opening w ++ l.warnings w
  named : (accessors.map (·.key.accessorName)).Nodup
  unreserved : ∀ a ∈ accessors, a.key.accessorName ∉ reservedNames
  used : ∀ k, (k, .inr .used) ∈ l → ∃ a ∈ accessors, a.key.accessorName = k.accessorName

theorem forward_accounts {c : Catalogue} {r : Registry} {w : Wrapper} {f : Forwarding}
    (inhabited : w.types ≠ []) (h : r.forward c w = .ok f) :
    ∃ l : Ledger, l.Accounts c w f.accessors f.warnings := by
  have start : (Forwarding.start c r w).Accounted w (c.opening w) [] :=
    ⟨rfl, (List.append_nil _).symm, by simp, List.nodup_nil,
      by simp [Forwarding.used, Forwarding.start], by simp⟩
  rw [forward_eq] at h
  obtain ⟨l, keys, accounted⟩ := start.steps h
  rw [List.nil_append] at accounted
  have complete : ∀ k, k ∈ l.keys ↔ c.Shares w k := by
    intro k
    rw [keys, List.mem_filter, resolves_iff]
    exact ⟨fun h => h.2, fun h => ⟨h.mem_keysOf inhabited, h⟩⟩
  refine ⟨l, ?_, complete, ?_, accounted.accessors, accounted.keyed, accounted.warnings,
    accounted.named, ?_, ?_⟩
  · rw [keys]
    exact (nodup_sortedKeys _).filter _
  · rintro ⟨t, ht, untabled⟩
    by_contra nonempty
    obtain ⟨entry, hentry⟩ := List.exists_mem_of_ne_nil l nonempty
    obtain ⟨s, table, found, -⟩ := (complete entry.1).1 (List.mem_map_of_mem hentry) t ht
    rw [untabled] at found
    cases found
  · exact fun a ha => accounted.unreserved _ (List.mem_map_of_mem ha)
  · intro k entry
    obtain ⟨a, ha, same⟩ := List.mem_map.1 (accounted.used k entry)
    exact ⟨a, ha, same⟩

/-! ## The ledgers of a module -/

/-- The warnings of a loop are those about its wrappers, one wrapper after the other. -/
theorem Registry.Processes.parts {c : Catalogue} {Q : Registry.Forwarded → List Warning → Prop}
    {index : Nat} {r last : Registry} {all : List Registry.Forwarded} {warnings : List Warning}
    (h : Registry.Processes c index r (.ok (all, warnings, last)))
    (each : ∀ (r : Registry) (w : Wrapper) (f : Forwarding), w ∈ last.wrappers →
      r.forward c w = .ok f → Q ⟨w, f.accessors⟩ f.warnings) :
    ∃ parts : List (List Warning), List.Forall₂ Q all parts ∧ warnings = parts.flatten := by
  generalize eq : Except.ok (all, warnings, last) = outcome at h
  induction h generalizing all warnings last with
  | finished =>
    cases eq
    exact ⟨[], .nil, rfl⟩
  | failed => cases eq
  | @next index r w f later warnings last found ok rest ih =>
    cases eq
    obtain ⟨parts, later_parts, rfl⟩ := ih each rfl
    have held := ((made_of_forward ok).1.trans rest.processed.grows).subset
      (List.mem_of_getElem? found)
    exact ⟨f.warnings :: parts, .cons (each r w f held ok) later_parts, rfl⟩
  | stopped => cases eq

/-- For every wrapper of a module that expands there is a ledger that accounts for its accessors and
for the warnings about it, and these are all warnings. -/
theorem expand_accounts {m : Module} {library : Path} {e : Expansion}
    (h : m.expand library = .ok e) :
    ∃ c kept start parts, m.prepare = .ok (c, kept, start) ∧ e.warnings = parts.flatten ∧
      List.Forall₂ (fun (g : Registry.Forwarded) warnings =>
        ∃ l : Ledger, l.Accounts c g.wrapper g.accessors warnings) e.wrappers parts := by
  obtain ⟨c, kept, start, last, prepared, processes, -, -, orderly⟩ := expand_orderly h
  obtain ⟨parts, all, eq⟩ := processes.parts
    (Q := fun g warnings => ∃ l : Ledger, l.Accounts c g.wrapper g.accessors warnings)
    fun r w f held ok => forward_accounts (orderly.inhabited w held) ok
  exact ⟨c, kept, start, parts, prepared, eq, all⟩

/-! ## Names that stand in the way -/

/-- Two structs that share a field, a field that is called as a method of every wrapper, and a method
that is called as the first field; and a wrapper over one of them and a type that is not defined. -/
def contested : Module :=
  moduleOf
    [openStruct "A" [openField "size" (.ofName "u8"), openField "visit" (.ofName "u8")],
      openStruct "B" [openField "size" (.ofName "u8"), openField "visit" (.ofName "u8")],
      openMethod "A" "size" [.ofName "u8"] none, openMethod "B" "size" [.ofName "u8"] none,
      declaringEnum "W" ["A", "B"], declaringEnum "V" ["A", "Other"]]

theorem expand_accounts_contested :
    ∃ e c kept start parts, contested.expand defaultLibrary = .ok e ∧
      e.overview = [("W", [("size", some "u8"), ("set_size", none), ("set_visit", none)]),
        ("V", [])] ∧
      e.warnings.map (·.cause) = [.notForwarded "size" .used, .notForwarded "visit" .reserved,
        .undefinedSubtypes "V"] ∧
      contested.prepare = .ok (c, kept, start) ∧ e.warnings = parts.flatten ∧
      List.Forall₂ (fun (g : Registry.Forwarded) warnings =>
        ∃ l : Ledger, l.Accounts c g.wrapper g.accessors warnings) e.wrappers parts := by
  obtain ⟨e, expanded, seen⟩ := exists_ok_of_toOption
    (x := contested.expand defaultLibrary) (f := fun e => (e.overview, e.warnings.map (·.cause)))
    (b := ([("W", [("size", some "u8"), ("set_size", none), ("set_visit", none)]), ("V", [])],
      [.notForwarded "size" .used, .notForwarded "visit" .reserved, .undefinedSubtypes "V"]))
    (by decide +kernel)
  obtain ⟨c, kept, start, parts, prepared, warnings, ledgers⟩ := expand_accounts expanded
  rw [Prod.mk.injEq] at seen
  exact ⟨e, c, kept, start, parts, expanded, seen.1, seen.2, prepared, warnings, ledgers⟩

end SharedMembers
