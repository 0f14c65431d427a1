import SharedMembers.Proofs.Contributions
import SharedMembers.Proofs.Conversion

/-!
# Receivers and what arms demand of them

The pattern of an arm binds the active value as the accessor's receiver has it: by a shared or by a
mutable reference, or as a value, which is immutable. Each arm demands of this binding what its
member takes.

Results:
* `Contributed.takes`: a member takes the values of its type as the field or method says that the
  items define.
* `receiverOf_mem`: the receiver of an accessor is one that some subtype needs.
* `demand_ofSignature`: an arm demands the receiver of its signature.
* `expand_received`: all arms are permitted iff it is not that one has to change the value and
  another one consumes it.
* `arm_not_permitted`: there are accessors with such arms.
-/

namespace SharedMembers

/-! ## What is promised -/

/-- The binding that a receiver makes may be used by what needs the other one. Everything can be
read; a mutable reference can be written through; a value can be given away, but it is immutable. -/
def Receiver.permits (bound need : Receiver) : Bool :=
  need == .shared || need == bound

/-- How a use takes the active value. A field is read and set through references, and a method has a
receiver of its own. -/
def Use.demand (method : Receiver) : Use → Receiver
  | .borrowed _ | .cloned _ => .shared
  | .assigned .. => .mutable
  | .called .. => method

/-- The arms of an accessor with what they demand. -/
def Accessor.demands (a : Accessor) : List (Arm × Receiver) :=
  a.arms.map fun (variant, s) =>
    let arm := Arm.ofSignature a.names a.slots a.output a.byReference variant s
    (arm, arm.use.demand s.receiver)

/-- The items define a member of the type with the name that takes the values of the type in this
way: a field that is read or set, or a method with this receiver. -/
inductive Takes (items : List Item) (name : String) (k : Key) : Target → Receiver → Prop
  | read {s : StructItem} {f : Field} {opened : Origin} {fields : List Field} {trailing : Bool}
      {ident : Ident} (item : .struct s ∈ items) (owner : s.ident.name = name)
      (listed : s.fields = .named opened fields trailing) (hf : f ∈ fields)
      (named : f.name = some ident) (shape : k.shape = .read) :
      Takes items name k (.field ident) .shared
  | set {s : StructItem} {f : Field} {opened : Origin} {fields : List Field} {trailing : Bool}
      {ident : Ident} (item : .struct s ∈ items) (owner : s.ident.name = name)
      (listed : s.fields = .named opened fields trailing) (hf : f ∈ fields)
      (named : f.name = some ident) (shape : k.shape = .write) :
      Takes items name k (.field ident) .mutable
  | called {i : ImplItem} {m : Method} {self : Ident} {r : Receiver} (item : .impl i ∈ items)
      (own : i.ownType? = some self) (owner : self.name = name) (hm : .method m ∈ i.members)
      (receiver : m.head.receiver? = some r) : Takes items name k (.method m.head.ident) r

/-- The receiver of the accessor is the strongest that an arm demands. Each arm uses a member that
the items define for the type of its variant, and demands what this member takes. The bindings
permit all arms unless one has to change the value and another one consumes it. -/
structure Accessor.Received (items : List Item) (w : Wrapper) (a : Accessor) : Prop where
  arms : a.demands.map (·.1) = a.matchArms
  declared : List.Forall₂ (fun v (x : Arm × Receiver) =>
    x.1.variant = v.1 ∧ Takes items v.2.key a.key x.1.use.target x.2) w.variants a.demands
  strongest : ∀ x ∈ a.demands, x.2.rank ≤ a.receiver.rank
  demanded : a.receiver = .shared ∨ ∃ x ∈ a.demands, x.2 = a.receiver
  permitted : (∀ x ∈ a.demands, a.receiver.permits x.2 = true) ↔
    ¬ ((∃ x ∈ a.demands, x.2 = .mutable) ∧ ∃ x ∈ a.demands, x.2 = .owned)

/-! ## Members and what they take -/

theorem Field.takes_of_mem_entries {items : List Item} {s : StructItem} {f : Field}
    {opened : Origin} {fields : List Field} {trailing : Bool} {args : MemberArguments}
    {k : Key} {t : Signature} (item : .struct s ∈ items)
    (listed : s.fields = .named opened fields trailing) (hf : f ∈ fields)
    (entry : (k, t) ∈ f.entries s.ident args) : Takes items s.ident.name k t.target t.receiver := by
  rw [Field.entries] at entry
  split at entry
  · simp at entry
  next ident named =>
  dsimp only at entry
  split at entry
  · simp at entry
  · rcases List.mem_pair.1 entry with eq | eq
    · cases eq
      exact .read item rfl listed hf named rfl
    · cases eq
      exact .set item rfl listed hf named rfl

/-- The signature of a method has its receiver. -/
theorem FnHead.receiver_of_signature? {self : Ident} {h : FnHead} {s : Signature}
    (found : h.signature? self = some s) :
    h.receiver? = some s.receiver ∧ s.target = .method h.ident := by
  rw [FnHead.signature?] at found
  split at found
  · obtain ⟨receiver, plain, found⟩ := Option.bind_eq_some_iff.1 found
    obtain ⟨args, -, found⟩ := Option.bind_eq_some_iff.1 found
    obtain ⟨output, -, rfl⟩ := Option.map_eq_some_iff.1 found
    exact ⟨plain, rfl⟩
  · simp at found

/-- What a method enters is its signature. -/
theorem Method.signature?_of_entry? {self : Ident} {args : MemberArguments} {m : Method}
    {k : Key} {s : Signature} (h : m.entry? self args = .ok (some (k, s))) :
    m.head.signature? self = some s := by
  rw [Method.entry?] at h
  split at h
  · cases h
  split at h
  · cases h
  next s' found =>
  dsimp only at h
  split at h
  · split at h
    · split at h <;> cases h
      exact found
    · cases h
  · split at h <;> cases h
    exact found

/-- A member takes the values of its type as the field or the method says that the items define. -/
theorem Contributed.takes {items : List Item} {name : String} {k : Key} {s : Signature}
    (h : Contributed items name (k, s)) : Takes items name k s.target s.receiver := by
  cases h with
  | field item owner listed hf said entry =>
    rw [← owner]
    exact Field.takes_of_mem_entries item listed hf entry
  | method item own owner hm said entry =>
    obtain ⟨receiver, target⟩ := FnHead.receiver_of_signature? (Method.signature?_of_entry? entry)
    rw [target]
    exact .called item own owner hm receiver

/-- What a type of the catalogue provides is contributed to it. -/
theorem Catalogue.From.provided {items : List Item} {c : Catalogue} (h : c.From items) {k : Key}
    {t : Ty} {s : Signature} (provides : c.Provides k t s) : Contributed items t.key (k, s) := by
  obtain ⟨table, found, entry⟩ := provides
  obtain ⟨d, hd, rfl⟩ := Option.map_eq_some_iff.1 found
  obtain ⟨⟨n, d⟩, he, rfl⟩ := Option.map_eq_some_iff.1 hd
  have same : (n == t.key) = true := by simpa using List.find?_some he
  obtain rfl := eq_of_beq same
  exact (h _ (List.mem_of_find?_eq_some he)).2 _ (Table.mem_of_get?_eq_some entry)

/-! ## The strongest receiver -/

/-- The strongest receiver is that of some subtype. -/
theorem receiverOf_mem (ss : List Signature) :
    receiverOf ss = .shared ∨ ∃ s ∈ ss, s.receiver = receiverOf ss := by
  induction ss with
  | nil => exact .inl rfl
  | cons s ss ih =>
    show s.receiver.max (receiverOf ss) = .shared ∨
      ∃ t ∈ s :: ss, t.receiver = s.receiver.max (receiverOf ss)
    rw [Receiver.max]
    split
    · exact ih.imp_right fun ⟨t, ht, same⟩ => ⟨t, List.mem_cons_of_mem _ ht, same⟩
    · exact .inr ⟨s, List.mem_cons_self, rfl⟩

/-- A receiver permits all weaker ones, but for changing a value that it owns. -/
theorem permits_iff {bound need : Receiver} (weaker : need.rank ≤ bound.rank) :
    bound.permits need = true ↔ ¬ (need = .mutable ∧ bound = .owned) := by
  cases bound <;> cases need <;> simp_all [Receiver.permits, Receiver.rank]

/-- A bound for several needs that is one of them permits all of them, unless there are needs to
change the value and to consume it. -/
theorem all_permitted_iff {bound : Receiver} {needs : List Receiver}
    (strongest : ∀ need ∈ needs, need.rank ≤ bound.rank)
    (demanded : bound = .shared ∨ bound ∈ needs) :
    (∀ need ∈ needs, bound.permits need = true) ↔ ¬ (.mutable ∈ needs ∧ .owned ∈ needs) := by
  constructor
  · rintro all ⟨changed, consumed⟩
    have owned : bound = .owned := by
      have le := strongest _ consumed
      cases bound <;> simp_all [Receiver.rank]
    exact (permits_iff (strongest _ changed)).1 (all _ changed) ⟨rfl, owned⟩
  · intro apart need hneed
    rw [permits_iff (strongest need hneed)]
    rintro ⟨rfl, rfl⟩
    rcases demanded with shared | consumed
    · cases shared
    · exact apart ⟨hneed, consumed⟩

/-! ## Arms -/

section

variable {c : Catalogue} {w : Wrapper} {k : Key} {ss : List Signature} {p : Plan}
  {items : List Item} {s : Signature}

/-- An arm demands the receiver of its signature. -/
theorem demand_ofSignature (plan : p.For c k ss) (fits : ∀ s ∈ ss, s.Fits k) (hs : s ∈ ss)
    {name : String} (takes : Takes items name k s.target s.receiver) :
    (Use.ofSignature p.names p.slots p.byReference s).demand s.receiver = s.receiver := by
  have count := plan.length_passed fits hs
  rw [(fits s hs).inputs] at count
  rcases ofSignature_cases p.names p.slots p.byReference s with
    ⟨f, target, nil, eq⟩ | ⟨f, target, filled, eq⟩ | ⟨m, -, eq⟩
  · -- A field to which nothing is passed is read.
    have read := plan.read_of_passed_eq_nil fits hs nil
    have shared : s.receiver = .shared := by
      rw [target] at takes
      generalize s.receiver = r at takes
      cases takes with
      | read => rfl
      | set _ _ _ _ _ write =>
        rw [read] at write
        cases write
    rw [eq, shared]
    split <;> rfl
  · -- Something is passed to a field only if it is set.
    have mutable : s.receiver = .mutable := by
      rw [target] at takes
      generalize s.receiver = r at takes
      cases takes with
      | read _ _ _ _ _ read =>
        rw [read] at count
        exact absurd (List.length_eq_zero_iff.1 count) filled
      | set => rfl
    rw [eq, mutable]
    rfl
  · rw [eq]
    rfl

/-- The arms of a plan's accessor demand the receivers of the signatures. -/
theorem receivers_of_demands (plan : p.For c k ss) (fits : ∀ s ∈ ss, s.Fits k)
    (contributed : c.From items) (provided : List.Forall₂ (c.Provides k) w.types ss)
    (output : Option Ty) :
    (p.accessor w k ss output).demands.map (·.2) = ss.map (·.receiver) := by
  have signatures : (p.accessor w k ss output).arms.map (·.2) = ss :=
    signatures_accessor provided p output
  have receivers : ss.map (·.receiver) = (p.accessor w k ss output).arms.map (·.2.receiver) := by
    conv_lhs => rw [← signatures, List.map_map]
    rfl
  rw [receivers, Accessor.demands, List.map_map]
  refine List.map_congr_left fun x hx => ?_
  have hs : x.2 ∈ ss := signatures ▸ List.mem_map_of_mem hx
  obtain ⟨t, -, (provides : c.Provides k t x.2)⟩ := exists_mem_zip provided.flip hs
  exact demand_ofSignature plan fits hs (contributed.provided provides).takes

end

/-! ## Accessors -/

/-- An accessor that was made has the receiver that its arms demand. -/
theorem Accessor.Made.received {c : Catalogue} {items : List Item} {w : Wrapper}
    {first last : Registry} {a : Accessor} (fits : c.Fits) (contributed : c.From items)
    (made : a.Made c w first last) : a.Received items w := by
  obtain @⟨k, ss, p, r, r', output, provided, plan, gives, -, held⟩ := made
  have each := fits_of_provided fits provided
  have receivers := receivers_of_demands plan each contributed provided output
  have among (need : Receiver) :
      (∃ x ∈ (p.accessor w k ss output).demands, x.2 = need) ↔ need ∈ ss.map (·.receiver) := by
    rw [← receivers, List.mem_map]
  have strongest : ∀ need ∈ ss.map (·.receiver), need.rank ≤ p.receiver.rank := by
    intro need hneed
    obtain ⟨s, hs, rfl⟩ := List.mem_map.1 hneed
    rw [plan.receiver]
    exact rank_le_receiverOf hs
  have demanded : p.receiver = .shared ∨ p.receiver ∈ ss.map (·.receiver) := by
    rw [plan.receiver, List.mem_map]
    exact receiverOf_mem ss
  constructor
  · rw [Accessor.demands, List.map_map]
    rfl
  · have sides : List.Forall₂ (fun v s => c.Provides k v.2 s) w.variants ss :=
      List.forall₂_map_left_iff.1 provided
    refine forall₂_map_zip sides fun v s hs provides => ⟨rfl, ?_⟩
    have takes := (contributed.provided provides).takes
    show Takes items v.2.key k (Use.ofSignature p.names p.slots p.byReference s).target
      ((Use.ofSignature p.names p.slots p.byReference s).demand s.receiver)
    rw [target_ofSignature, demand_ofSignature plan each hs takes]
    exact takes
  · intro x hx
    exact strongest x.2 ((among x.2).1 ⟨x, hx, rfl⟩)
  · exact demanded.imp_right (among _).2
  · have all : (∀ x ∈ (p.accessor w k ss output).demands, p.receiver.permits x.2 = true) ↔
        ∀ need ∈ ss.map (·.receiver), p.receiver.permits need = true := by
      rw [← receivers, List.forall_mem_map]
    rw [among, among]
    exact all.trans (all_permitted_iff strongest demanded)

/-- The receiver of every accessor of a module that expands is the strongest that its arms demand,
and permits all of them unless one has to change the value and another one consumes it. -/
theorem expand_received {m : Module} {library : Path} {e : Expansion}
    (h : m.expand library = .ok e) {g : Registry.Forwarded} (hg : g ∈ e.wrappers) {a : Accessor}
    (ha : a ∈ g.accessors) : a.Received (m.items.getD []) g.wrapper := by
  obtain ⟨c, kept, r, prepared, expanded, -⟩ := expand_eq_ok h
  obtain ⟨last, processes⟩ := processes_of_expand expanded
  obtain ⟨first, made⟩ := processes.processed.made g hg
  exact (made a ha).received (prepare_fits prepared) (prepare_contributed prepared)

/-! ## One changes, the other consumes -/

/-- An implementation of a method that everyone may use, with a receiver and no output. -/
def openAction (type method : String) (receiver : SelfInput) (arguments : List Ty) : Item :=
  .impl ⟨[], [], none, .empty, none, .ofName type,
    [.method ⟨[], .everywhere none, none,
      ⟨none, none, none, none, none, .generated method, .empty,
        .self receiver :: arguments.map (.typed [] ⟨none, []⟩), false, none, none⟩, []⟩]⟩

/-- Two structs, one of which is closed in place and the other one by giving it away. -/
def closable : Module :=
  moduleOf
    [openStruct "A" [openField "size" (.ofName "u8")],
      openStruct "B" [openField "size" (.ofName "u8")],
      openAction "A" "close" ⟨[], some (none, none), true, none, none⟩ [],
      openAction "B" "close" ⟨[], none, false, none, none⟩ [], declaringEnum "W" ["A", "B"]]

/-- The accessors by name with their receivers and what their arms demand. -/
def Expansion.receivers (e : Expansion) : List (String × Receiver × List Receiver) :=
  e.wrappers.flatMap fun g =>
    g.accessors.map fun a => (a.key.accessorName, a.receiver, a.demands.map (·.2))

theorem closable_receivers :
    ∃ e, closable.expand defaultLibrary = .ok e ∧
      e.receivers = [("close", .owned, [.mutable, .owned]), ("size", .shared, [.shared, .shared]),
        ("set_size", .mutable, [.mutable, .mutable])] :=
  exists_ok_of_toOption (by decide +kernel)

theorem exists_of_mem_receivers {e : Expansion} {name : String} {r : Receiver}
    {needs : List Receiver} (h : (name, r, needs) ∈ e.receivers) :
    ∃ g ∈ e.wrappers, ∃ a ∈ g.accessors, a.key.accessorName = name ∧ a.receiver = r ∧
      a.demands.map (·.2) = needs := by
  obtain ⟨g, hg, h⟩ := List.mem_flatMap.1 h
  obtain ⟨a, ha, eq⟩ := List.mem_map.1 h
  cases eq
  exact ⟨g, hg, a, ha, rfl, rfl, rfl⟩

theorem expand_received_closable :
    ∃ e, closable.expand defaultLibrary = .ok e ∧ ∃ g ∈ e.wrappers, ∃ a ∈ g.accessors,
      a.key.accessorName = "close" ∧ a.receiver = .owned ∧
      a.Received (closable.items.getD []) g.wrapper := by
  obtain ⟨e, expanded, receivers⟩ := closable_receivers
  have close : ("close", .owned, [.mutable, .owned]) ∈ e.receivers := by
    rw [receivers]
    exact List.mem_cons_self
  obtain ⟨g, hg, a, ha, name, owned, -⟩ := exists_of_mem_receivers close
  exact ⟨e, expanded, g, hg, a, ha, name, owned, expand_received expanded hg ha⟩

/-- The accessor that closes owns its value, and one of its arms has to change it. -/
theorem arm_not_permitted :
    ∃ e, closable.expand defaultLibrary = .ok e ∧ ∃ g ∈ e.wrappers, ∃ a ∈ g.accessors,
      ∃ x ∈ a.demands, x.2 = .mutable ∧ a.receiver = .owned ∧ a.receiver.permits x.2 = false := by
  obtain ⟨e, expanded, receivers⟩ := closable_receivers
  have close : ("close", .owned, [.mutable, .owned]) ∈ e.receivers := by
    rw [receivers]
    exact List.mem_cons_self
  obtain ⟨g, hg, a, ha, -, owned, needs⟩ := exists_of_mem_receivers close
  have changes : Receiver.mutable ∈ a.demands.map (·.2) := by
    rw [needs]
    exact List.mem_cons_self
  obtain ⟨x, hx, mutable⟩ := List.mem_map.1 changes
  refine ⟨e, expanded, g, hg, a, ha, x, hx, mutable, owned, ?_⟩
  rw [owned, mutable]
  rfl

end SharedMembers
