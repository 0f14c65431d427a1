import SharedMembers.Text.Identifier
import SharedMembers.Text.Quoted
import SharedMembers.Wrapper.Accessor
import SharedMembers.Wrapper.Naming

/-!
# The registry of wrappers

All wrappers of a module, declared or nested. There is one nested wrapper for each set of types that
is returned; a set that is already some wrapper's is not wrapped again. Sets are looked up in an
index, which is kept as wrappers are put into the registry.

The model of `Registry` with `declare`, `wrapper_for`, `synthesize` and `expand`.

* `Indexes`: what an index has to say, which no registry can be without.
* `Registry.declare`: the registry with one more declared wrapper.
* `Registry.wrapperFor`: the wrapper over some types, an existing one or a new one.
* `Registry.forward`: the accessors of one wrapper.
* `Registry.run`: the accessors of all wrappers, the nested ones that arise on the way included.
-/

namespace SharedMembers

/-! ## The index of sets -/

/-- Notes a place for a set of types, unless one is noted for it (`entry`, `or_insert`). -/
def noteSet (bySet : List (List String × Nat)) (set : List String) (place : Nat) :
    List (List String × Nat) :=
  match bySet.lookup set with
  | some _ => bySet
  | none => (set, place) :: bySet

/-- The index leads from a set of types to the place of the first wrapper over it, and knows no other
set. -/
def Indexes (bySet : List (List String × Nat)) (wrappers : List Wrapper) : Prop :=
  ∀ set, bySet.lookup set = wrappers.findIdx? (·.setKey == set)

theorem lookup_noteSet (bySet : List (List String × Nat)) (set other : List String) (place : Nat) :
    (noteSet bySet set place).lookup other =
      (bySet.lookup other).or (if set == other then some place else none) := by
  rw [noteSet]
  split
  · next old found =>
    split
    · next same =>
      rw [← eq_of_beq same, found]
      rfl
    · rw [Option.or_none]
  · next missing =>
    rw [List.lookup_cons]
    by_cases same : other = set
    · subst same
      simp [missing]
    · simp [beq_false_of_ne same, beq_false_of_ne (Ne.symm same)]

theorem indexes_nil : Indexes [] [] := fun _ => rfl

/-- One more wrapper is noted at the place behind all others. -/
theorem Indexes.note {bySet : List (List String × Nat)} {wrappers : List Wrapper}
    (h : Indexes bySet wrappers) (w : Wrapper) :
    Indexes (noteSet bySet w.setKey wrappers.length) (wrappers ++ [w]) := by
  intro set
  rw [lookup_noteSet, h set, List.findIdx?_append, List.findIdx?_singleton]
  split <;> simp

/-- The wrappers of a module in order, the index by which they are found, and the names that are
taken (`Registry`; the catalogue stands beside it). -/
structure Registry where
  wrappers : List Wrapper
  bySet : List (List String × Nat)
  taken : List String
  indexes : Indexes bySet wrappers

/-- What was to be generated and cannot be written. -/
inductive Unwritable where
  /-- The text was to become a name and is none. -/
  | name (text : String)
  /-- The type was to stand behind a reference sign, and would need parentheses there. -/
  | reference (type : Ty)

/-- The name that a text spells (`Ident::new`). -/
def nameOf (text : String) : Except Unwritable Ident :=
  if Text.isIdentifier text then .ok (.generated text) else .error (.name text)

theorem nameOf_eq_ok_iff {text : String} {i : Ident} :
    nameOf text = .ok i ↔ Text.isIdentifier text = true ∧ i = .generated text := by
  rw [nameOf]
  split <;> simp [*, eq_comm]

/-- The type of references to a type. -/
def referenceTo (t : Ty) : Except Unwritable Ty :=
  if t.isSum then .error (.reference t) else .ok (.reference none none false t)

/-! ## Warnings -/

/-- What an author is warned of. -/
inductive WarningCause where
  /-- The wrapper has subtypes that the module does not define. -/
  | undefinedSubtypes (wrapper : String)
  /-- A member that all subtypes share is not forwarded. -/
  | notForwarded (accessor : String) (obstacle : Obstacle)
deriving Repr, DecidableEq

/-- A warning and the wrapper's place; a nested wrapper has none. -/
structure Warning where
  cause : WarningCause
  origin : Origin
deriving Repr, DecidableEq

namespace Warning

/-- The warning in words. -/
def message (w : Warning) : String :=
  match w.cause with
  | .undefinedSubtypes wrapper =>
    "Some subtypes of `" ++ wrapper ++
      "` are not defined in this module; no member is forwarded"
  | .notForwarded accessor obstacle => obstacle.message accessor

end Warning

/-! ## Nested wrappers -/

/-- The documentation of a nested wrapper. -/
def nestedDocumentation (owner member : String) : Attribute :=
  ⟨none, false, .ofIdent (.generated "doc"), .value <| Code.ofTokens
    [.literal (Text.quoted ("Values returned by `" ++ owner ++ "::" ++ member ++
      "`, one variant per subtype return type.")) none]⟩

/-- The traits that a nested wrapper derives. -/
def nestedDerivation (paths : List Path) : List Attribute :=
  if paths.isEmpty then []
  else
    [⟨none, false, .ofIdent (.generated "derive"), .list .parenthesis none none
      (separated comma false (paths.map Path.tokens))⟩]

namespace Registry

/-- A registry without wrappers (`new`). -/
def new (taken : List String) : Registry :=
  ⟨[], [], taken, indexes_nil⟩

/-- The wrapper over the set of types that the index leads to. -/
def find? (r : Registry) (set : List String) : Option Wrapper :=
  (r.bySet.lookup set).bind (r.wrappers[·]?)

/-- The index leads to the first wrapper over the set. -/
theorem find?_eq (r : Registry) (set : List String) :
    r.find? set = r.wrappers.find? (·.setKey == set) := by
  rw [find?, r.indexes set, List.find?_eq_bind_findIdx?_getElem?]

/-- The registry with one more wrapper behind the others. -/
def push (r : Registry) (w : Wrapper) : Registry :=
  ⟨r.wrappers ++ [w], noteSet r.bySet w.setKey r.wrappers.length, r.taken, r.indexes.note w⟩

/-- The registry with one more declared wrapper, which is checked (`declare`). Its name is taken
already. -/
def declare (r : Registry) (w : Wrapper) : Except Refusal Registry :=
  w.check.map fun _ => r.push w

/-- The registry with the wrappers declared one after the other. -/
def declareAll : Registry → List Wrapper → Except Refusal Registry
  | r, [] => .ok r
  | r, w :: ws => do declareAll (← r.declare w) ws

/-- The registry with one more nested wrapper, whose name is taken. No wrapper is over its types
yet, so that they are noted in the index (`bySet_add`). -/
def add (r : Registry) (w : Wrapper) : Registry :=
  { r.push w with taken := w.ident.name :: r.taken }

theorem bySet_add {r : Registry} {w : Wrapper} (missing : r.bySet.lookup w.setKey = none) :
    (r.add w).bySet = (w.setKey, r.wrappers.length) :: r.bySet := by
  simp [add, push, noteSet, missing]

/-- A nested wrapper of `parent` over the types that a member returns. -/
def nestedWrapper (r : Registry) (parent : Wrapper) (member : String) (types : List Ty) :
    Except Unwritable Wrapper := do
  let ident ← nameOf (firstFree r.taken (parent.ident.name ++ Text.camel member))
  let names ← (variantNames [] types).mapM nameOf
  return ⟨ident, parent.visibility,
    nestedDocumentation parent.ident.name member :: nestedDerivation parent.nestedDerive,
    names.zip types, parent.nestedDerive, some (parent.ident, member)⟩

/-- The wrapper over exactly the types that a member returns, and the registry that holds it
(`wrapper_for`). -/
def wrapperFor (r : Registry) (parent : Wrapper) (member : String) (types : List Ty) :
    Except Unwritable (Registry × Ident) :=
  match r.find? (setKeyOf types) with
  | some w => .ok (r, w.ident)
  | none =>
    (r.nestedWrapper parent member types).map fun w => (r.add w, w.ident)

/-- The type that an accessor returns, and the registry that holds the wrapper it may need (the
`match` on `unify` in `synthesize`). -/
def outputFor (r : Registry) (parent : Wrapper) (k : Key) (p : Plan) :
    Except Unwritable (Registry × Option Ty) :=
  match p.returns with
  | .unit | .incompatible _ => .ok (r, none)
  | .common t => (if p.byReference then referenceTo t else .ok t).map fun t => (r, some t)
  | .distinct types =>
    (r.wrapperFor parent k.name types).map fun (r, ident) => (r, some (.ofIdent ident))

end Registry

/-! ## The accessors of a wrapper -/

/-- How far the members of a wrapper are forwarded. -/
structure Forwarding where
  registry : Registry
  accessors : List Accessor
  warnings : List Warning

namespace Forwarding

/-- The names under which members are forwarded. -/
def used (f : Forwarding) : List String :=
  f.accessors.map (·.key.accessorName)

/-- One more warning about the wrapper. -/
def warn (f : Forwarding) (w : Wrapper) (cause : WarningCause) : Forwarding :=
  { f with warnings := f.warnings ++ [⟨cause, w.ident.origin⟩] }

/-- Forwards one more member if all subtypes share it (one round of the loop in `synthesize`). -/
def step (c : Catalogue) (w : Wrapper) (f : Forwarding) (k : Key) :
    Except Unwritable Forwarding :=
  match resolveAll (w.types.map c.table?) k with
  | none => .ok f
  | some signatures =>
    match plan c f.used k signatures with
    | .error obstacle => .ok (f.warn w (.notForwarded k.accessorName obstacle))
    | .ok p => do
      let (registry, output) ← f.registry.outputFor w k p
      let _ ← nameOf k.accessorName
      return { f with
        registry := registry, accessors := f.accessors ++ [p.accessor w k signatures output] }

/-- Forwards the members one after the other. -/
def steps (c : Catalogue) (w : Wrapper) : Forwarding → List Key → Except Unwritable Forwarding
  | f, [] => .ok f
  | f, k :: ks => do steps c w (← f.step c w k) ks

end Forwarding

namespace Registry

/-- Forwards the members that the subtypes of a wrapper share (`synthesize`). An author who declares
a wrapper over types that the module does not define is warned. -/
def forward (r : Registry) (c : Catalogue) (w : Wrapper) : Except Unwritable Forwarding :=
  let tables := w.types.map c.table?
  let start : Forwarding := ⟨r, [], []⟩
  let start :=
    if w.owner.isNone && tables.any Option.isNone then
      start.warn w (.undefinedSubtypes w.ident.name)
    else start
  start.steps c w (unionKeys (tables.filterMap id))

/-! ## All wrappers -/

/-- A wrapper with its accessors. -/
structure Forwarded where
  wrapper : Wrapper
  accessors : List Accessor

/-- The wrappers from the `index`th on with their accessors, those included that arise on the way,
and the warnings; at most `rounds` of them (the loop of `expand`). -/
def run (c : Catalogue) : (rounds index : Nat) → Registry →
    Except Unwritable (List Forwarded × List Warning)
  | 0, _, _ => .ok ([], [])
  | rounds + 1, index, r =>
    match r.wrappers[index]? with
    | none => .ok ([], [])
    | some w => do
      let f ← r.forward c w
      let (later, warnings) ← run c rounds (index + 1) f.registry
      return (⟨w, f.accessors⟩ :: later, f.warnings ++ warnings)

/-- The keys of the types that members return. -/
def returnedKeys (c : Catalogue) : List String :=
  (c.types.flatMap fun (_, d) => d.table.filterMap fun (_, s) => s.output.map Ty.key).eraseDups

/-- How many wrappers there can be: those that are declared, and one for each set of returned
types. -/
def bound (r : Registry) (c : Catalogue) : Nat :=
  r.wrappers.length + Nat.pow 2 (returnedKeys c).length

/-- All wrappers with their accessors, the declared ones first, and the warnings. -/
def expand (r : Registry) (c : Catalogue) : Except Unwritable (List Forwarded × List Warning) :=
  r.run c (r.bound c + 1) 0

end Registry

end SharedMembers
