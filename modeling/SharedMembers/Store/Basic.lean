/-!
# Stores

A wrapper holds exactly one value, which is of one of its kinds. The kinds of a family are in order,
and the place of a kind in that order is its tag.

The model of `SuperStruct` and `Subtype` with the functions that every wrapper has.

* `tag_lt`: the tag is one of the places.
* `titles_tag`: the active title stands at that place.
* `project?_wrap`, `extract_wrap`: what was put in comes out.
* `isSome_project?`, `isSome_modify?`, `extract_eq_error`: of another kind nothing comes out.
* `kind_visitMut`, `modify?_eq_some`: a change keeps the kind.
-/

namespace SharedMembers

/-- The kinds of values that a store can hold, in order: the title and the values of each. -/
structure Family (κ : Type) where
  kinds : List κ
  mem_kinds : ∀ k, k ∈ kinds
  title : κ → String
  Value : κ → Type

namespace Family

variable {κ : Type} [DecidableEq κ]

/-- The place of a kind. -/
def tagOf (F : Family κ) (k : κ) : Nat :=
  F.kinds.idxOf k

/-- The titles in order. -/
def titles (F : Family κ) : List String :=
  F.kinds.map F.title

theorem tagOf_lt (F : Family κ) (k : κ) : F.tagOf k < F.titles.length := by
  rw [titles, List.length_map]
  exact List.idxOf_lt_length_of_mem (F.mem_kinds k)

/-- Kinds with one tag are the same. -/
theorem tagOf_inj (F : Family κ) {j k : κ} : F.tagOf j = F.tagOf k ↔ j = k := by
  refine ⟨fun h => ?_, fun h => h ▸ rfl⟩
  have hj : F.kinds[F.tagOf j]? = some j := by
    rw [tagOf, List.getElem?_eq_getElem (List.idxOf_lt_length_of_mem (F.mem_kinds j)),
      List.getElem_idxOf]
  have hk : F.kinds[F.tagOf k]? = some k := by
    rw [tagOf, List.getElem?_eq_getElem (List.idxOf_lt_length_of_mem (F.mem_kinds k)),
      List.getElem_idxOf]
  rw [h, hk] at hj
  exact (Option.some.inj hj).symm

end Family

/-- One value of one of the kinds. -/
structure Store {κ : Type} (F : Family κ) where
  kind : κ
  value : F.Value kind

namespace Store

variable {κ : Type} {F : Family κ}

/-- The store that holds a value. -/
def wrap (k : κ) (x : F.Value k) : Store F := ⟨k, x⟩

/-- The store after a value is put in; what it held before is gone. -/
def assign (_ : Store F) (k : κ) (x : F.Value k) : Store F := wrap k x

/-- What a visitor of all kinds says of the active value. -/
def visit {β : Type} (s : Store F) (visitor : (k : κ) → F.Value k → β) : β :=
  visitor s.kind s.value

/-- What a visitor of all kinds says of the active value, which it may change. -/
def visitMut {β : Type} (s : Store F) (visitor : (k : κ) → F.Value k → β × F.Value k) :
    β × Store F :=
  let (b, x) := visitor s.kind s.value
  (b, wrap s.kind x)

/-- The active title. -/
def title (s : Store F) : String := F.title s.kind

theorem kind_visitMut {β : Type} (s : Store F) (visitor : (k : κ) → F.Value k → β × F.Value k) :
    (s.visitMut visitor).2.kind = s.kind := rfl

/-- What a visitor leaves is what the next one sees. -/
theorem visit_visitMut {β γ : Type} (s : Store F)
    (visitor : (k : κ) → F.Value k → β × F.Value k) (next : (k : κ) → F.Value k → γ) :
    (s.visitMut visitor).2.visit next = next s.kind (visitor s.kind s.value).2 := rfl

variable [DecidableEq κ]

/-- The place of the active kind. -/
def tag (s : Store F) : Nat := F.tagOf s.kind

/-- Whether the active value is of the kind. -/
def is (s : Store F) (k : κ) : Bool := s.tag == F.tagOf k

/-- The active value if it is of the kind (`project` and `downcast_ref`). -/
def project? (s : Store F) (k : κ) : Option (F.Value k) :=
  if h : s.kind = k then some (h ▸ s.value) else none

/-- The store with the active value changed, if it is of the kind (`project_mut` and
`downcast_mut`). -/
def modify? (s : Store F) (k : κ) (f : F.Value k → F.Value k) : Option (Store F) :=
  (s.project? k).map fun x => wrap k (f x)

/-- The active value if it is of the kind, and else the store itself (`extract` and `downcast`). -/
def extract (s : Store F) (k : κ) : Except (Store F) (F.Value k) :=
  match s.project? k with
  | some x => .ok x
  | none => .error s

theorem tag_lt (s : Store F) : s.tag < F.titles.length := F.tagOf_lt s.kind

theorem titles_tag (s : Store F) : F.titles[s.tag]? = some s.title := by
  unfold Family.titles tag Family.tagOf title
  rw [List.getElem?_map,
    List.getElem?_eq_getElem (List.idxOf_lt_length_of_mem (F.mem_kinds s.kind)),
    List.getElem_idxOf, Option.map_some]

theorem is_iff {s : Store F} {k : κ} : s.is k = true ↔ s.kind = k := by
  rw [is, beq_iff_eq, tag, F.tagOf_inj]

/-- A store of a kind is one that holds a value of that kind. -/
theorem project?_eq_some {s : Store F} {k : κ} {x : F.Value k} :
    s.project? k = some x ↔ s = wrap k x := by
  obtain ⟨j, y⟩ := s
  unfold project? wrap
  constructor
  · intro h
    split at h
    · next e =>
      subst e
      exact congrArg _ (Option.some.inj h)
    · cases h
  · intro h
    obtain ⟨rfl, e⟩ := Store.mk.inj h
    simp [eq_of_heq e]

theorem project?_wrap (k : κ) (x : F.Value k) : (wrap k x : Store F).project? k = some x :=
  project?_eq_some.2 rfl

theorem isSome_project? {s : Store F} {k : κ} : (s.project? k).isSome ↔ s.kind = k := by
  unfold project?
  split <;> simp [*]

theorem isSome_modify? {s : Store F} {k : κ} {f : F.Value k → F.Value k} :
    (s.modify? k f).isSome ↔ s.kind = k := by
  rw [modify?, Option.isSome_map, isSome_project?]

/-- A change in place keeps the kind, and what it leaves is read back. -/
theorem modify?_eq_some {s t : Store F} {k : κ} {f : F.Value k → F.Value k}
    (h : s.modify? k f = some t) : t.kind = s.kind ∧ t.project? k = (s.project? k).map f := by
  obtain ⟨x, hx, rfl⟩ := Option.map_eq_some_iff.1 h
  rw [hx, project?_wrap]
  exact ⟨(isSome_project?.1 (hx ▸ rfl)).symm, rfl⟩

theorem extract_wrap (k : κ) (x : F.Value k) : (wrap k x : Store F).extract k = .ok x := by
  rw [extract, project?_wrap]

/-- A store gives itself back exactly if it is of another kind. -/
theorem extract_eq_error {s t : Store F} {k : κ} :
    s.extract k = .error t ↔ s.kind ≠ k ∧ t = s := by
  rw [ne_eq, ← isSome_project?, extract]
  cases s.project? k with
  | some x => simp
  | none => simp [eq_comm]

end Store

end SharedMembers
