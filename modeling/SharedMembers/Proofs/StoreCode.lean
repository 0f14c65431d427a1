import SharedMembers.Emission.Store
import SharedMembers.Store.Basic
import SharedMembers.Proofs.Preparation
import Mathlib.Data.List.FinRange

/-!
# What the code of a store does

A wrapper holds a value of the type that one of its variants has. The functions of its store are
read off the code of which their text is made, `Wrapper.storeCode`: a pattern fits if it names the
active variant, of several arms the first that fits is taken, and the functions of a type are those
of the first implementation for its key.
Nothing is given where the code would have no meaning, such as for a type that has no
implementation, or where a value has another type than it should have.

Results:
* `impl?_keyAt`: each variant's type has an implementation, with the tag and the name of the variant.
* `tag_storeCode`, `subtypeName_storeCode`, `is_storeCode`, `project_storeCode`, …: in a wrapper
  without repeated types and names the functions do what the store of its types does.
-/

namespace SharedMembers

section

variable {Value : String → Type} {w : Wrapper} {code : StoreCode} {key : String}

/-! ## Values of wrappers -/

/-- The value as one of the type with the key, if that is its type. -/
def cast? {type : String} (key : String) (x : Value type) : Option (Value key) :=
  if h : type = key then some (h ▸ x) else none

@[simp] theorem cast?_self (x : Value key) : cast? key x = some x := dif_pos rfl

/-- The key of the type that a variant holds. -/
def Wrapper.keyAt (w : Wrapper) (i : Fin w.variants.length) : String :=
  w.variants[i].2.key

/-- The kinds of values that a wrapper holds are its variants. -/
abbrev Wrapper.family (w : Wrapper) (Value : String → Type) : Family (Fin w.variants.length) where
  kinds := List.finRange w.variants.length
  mem_kinds := List.mem_finRange
  title i := w.variants[i].2.title
  Value i := Value (w.keyAt i)

/-- The variant of a wrapper that is active. -/
def Store.variant (s : Store (w.family Value)) : Ident :=
  w.variants[s.kind].1

/-! ## Variants in expressions and patterns -/

/-- The wrapper that the name of a variant builds from a value. -/
def Wrapper.build (w : Wrapper) (variant : Ident) (x : Value key) :
    Option (Store (w.family Value)) := do
  let i ← (List.finRange w.variants.length).find? fun i => w.variants[i].1.name == variant.name
  let y ← cast? (w.keyAt i) x
  return .wrap i y

/-- What the first arm with the name of the active variant gives. -/
def Store.arm? {α : Type} (s : Store (w.family Value)) (arms : List (Ident × α)) : Option α :=
  (arms.find? (·.1.name == s.variant.name)).map (·.2)

/-! ## Bodies of functions -/

/-- A reply as a success or a failure, made of a value or of a wrapper. -/
def Reply.result? {α σ : Type} : Reply → α ⊕ σ → Option (Except σ α)
  | success, .inl x => some (.ok x)
  | failure, .inr s => some (.error s)
  | _, _ => none

/-- A reply as a value that may be missing. -/
def Reply.option? {α σ : Type} : Reply → α ⊕ σ → Option (Option α)
  | present, .inl x => some (some x)
  | absent, _ => some none
  | _, _ => none

/-- The reply of a match with one variant, and what it is made of: the value as one of the type if
the variant is active, and else the wrapper. -/
def Store.matched (s : Store (w.family Value)) (body : VariantMatch) (key : String) :
    Option (Reply × (Value key ⊕ Store (w.family Value))) :=
  if s.variant.name == body.variant.name then
    (cast? key s.value).map fun x => (body.hit, .inl x)
  else some (body.miss, .inr s)

/-- What the body of a function gives that takes the wrapper apart. -/
def Store.takenApart (s : Store (w.family Value)) (body : VariantMatch) (key : String) :
    Option (Except (Store (w.family Value)) (Value key)) := do
  let (reply, operand) ← s.matched body key
  reply.result? operand

/-- What the body of a function gives that looks into the wrapper. -/
def Store.lookedInto (s : Store (w.family Value)) (body : VariantMatch) (key : String) :
    Option (Option (Value key)) := do
  let (reply, operand) ← s.matched body key
  reply.option? operand

/-- The wrapper after a change through the mutable reference that such a body gives. -/
def Store.changed (s : Store (w.family Value)) (body : VariantMatch) (f : Value key → Value key) :
    Option (Option (Store (w.family Value))) := do
  match ← s.lookedInto body key with
  | some x => (cast? (w.keyAt s.kind) (f x)).map fun y => some (.wrap s.kind y)
  | none => return none

/-! ## Functions of stores -/

namespace StoreCode

/-- The functions of a type. -/
def impl? (code : StoreCode) (key : String) : Option SubtypeCode :=
  code.subtypes.find? (·.type.key == key)

/-- The constant of a type that says its tag. -/
def constant (code : StoreCode) (key : String) : Option Nat :=
  (code.impl? key).map (·.tag)

/-- The tag of the active variant. -/
def tag (code : StoreCode) (s : Store (w.family Value)) : Option Nat :=
  s.arm? code.tags

/-- The name that stands at the place of the tag. -/
def subtypeName (code : StoreCode) (s : Store (w.family Value)) : Option String := do
  let n ← code.tag s
  code.titles[n]?

/-- Whether the tag is that of the type. -/
def is (code : StoreCode) (key : String) (s : Store (w.family Value)) : Option Bool := do
  let n ← code.tag s
  let k ← code.constant key
  return n == k

/-- The conversion of a value of the type. -/
def convert (code : StoreCode) (w : Wrapper) (x : Value key) : Option (Store (w.family Value)) := do
  let c ← code.impl? key
  w.build c.converted x

/-- A value of the type as a wrapper. An assignment puts this in the place of what was there. -/
def wrap (code : StoreCode) (w : Wrapper) (x : Value key) : Option (Store (w.family Value)) := do
  let c ← code.impl? key
  w.build c.wrapped x

/-- The active value by reference, if it is of the type. -/
def project (code : StoreCode) (key : String) (s : Store (w.family Value)) :
    Option (Option (Value key)) := do
  let c ← code.impl? key
  s.lookedInto c.projected key

/-- The wrapper after a change through the mutable reference to the active value, if that is of the
type. -/
def projectMut (code : StoreCode) (f : Value key → Value key) (s : Store (w.family Value)) :
    Option (Option (Store (w.family Value))) := do
  let c ← code.impl? key
  s.changed c.projectedMut f

/-- The active value if it is of the type, and else the wrapper. -/
def extract (code : StoreCode) (key : String) (s : Store (w.family Value)) :
    Option (Except (Store (w.family Value)) (Value key)) := do
  let c ← code.impl? key
  s.takenApart c.extracted key

/-- The conversion into the type. -/
def tryFrom (code : StoreCode) (key : String) (s : Store (w.family Value)) :
    Option (Except (Store (w.family Value)) (Value key)) := do
  let c ← code.impl? key
  s.takenApart c.tried key

/-- What a visitor gives for the active value. -/
def visit {β : Type} (code : StoreCode) (visitor : (key : String) → Value key → β)
    (s : Store (w.family Value)) : Option β := do
  let t ← s.arm? code.visits
  let x ← cast? t.key s.value
  return visitor t.key x

/-- What a visitor gives for the active value, and the wrapper with the value that it leaves. -/
def visitMut {β : Type} (code : StoreCode) (visitor : (key : String) → Value key → β × Value key)
    (s : Store (w.family Value)) : Option (β × Store (w.family Value)) := do
  let t ← s.arm? code.visitsMut
  let x ← cast? t.key s.value
  let (b, y) := visitor t.key x
  let y ← cast? (w.keyAt s.kind) y
  return (b, .wrap s.kind y)

end StoreCode

end

/-! ## The first that fits -/

/-- If all have different names, the first with the name of one of them is that one. -/
theorem find?_eq_of_nodup {α : Type} {name : α → String} {xs : List α}
    (distinct : (xs.map name).Nodup) {x : α} (hx : x ∈ xs) {n : String} (hn : name x = n) :
    xs.find? (name · == n) = some x := by
  cases found : xs.find? (name · == n) with
  | none => exact absurd (beq_iff_eq.2 hn) (List.find?_eq_none.1 found x hx)
  | some y =>
    have named : name y = n := by simpa using List.find?_some found
    have hy := List.mem_of_find?_eq_some found
    rw [List.inj_on_of_nodup_map distinct hy hx (named.trans hn.symm)]

theorem find?_finRange {n : Nat} (i : Fin n) :
    (List.finRange n).find? (fun j => decide (j = i)) = some i := by
  cases found : (List.finRange n).find? fun j => decide (j = i) with
  | none => simpa using List.find?_eq_none.1 found i (List.mem_finRange i)
  | some j => rw [of_decide_eq_true (by simpa using List.find?_some found : decide (j = i) = true)]

/-! ## The functions of a wrapper's store -/

section

variable {w : Wrapper} {Value : String → Type}

theorem tagOf_family (i : Fin w.variants.length) : (w.family Value).tagOf i = i :=
  List.idxOf_finRange i

theorem tag_eq_kind (s : Store (w.family Value)) : s.tag = s.kind :=
  tagOf_family s.kind

/-- The titles in the code are those of the kinds. -/
theorem titles_storeCode (Value : String → Type) : w.storeCode.titles = (w.family Value).titles := by
  have titles : w.storeCode.titles = w.variants.map (·.2.title) := List.map_map
  rw [titles, ← List.ofFn_getElem_eq_map, List.ofFn_eq_map]
  rfl

variable (h : w.WellFormed) (s : Store (w.family Value)) (i : Fin w.variants.length)

include h

/-- The functions of a variant's type are those that name the variant. -/
theorem impl?_keyAt : w.storeCode.impl? (w.keyAt i) =
    some (.ofVariant w.variants[i].1 w.variants[i].2 i) := by
  have keys : (w.storeCode.subtypes.map (·.type.key)).Nodup := by
    have types := h.types
    rw [Wrapper.types, List.map_map, ← List.zipIdx_map_fst 0 w.variants, List.map_map] at types
    rwa [Wrapper.storeCode, List.map_map]
  have listed : .ofVariant w.variants[i].1 w.variants[i].2 i ∈ w.storeCode.subtypes :=
    List.mem_map.2 ⟨(w.variants[i], i), by simp [List.mk_mem_zipIdx_iff_getElem?], rfl⟩
  exact find?_eq_of_nodup keys listed rfl

/-- The names of variants are told apart. -/
theorem name_beq (j : Fin w.variants.length) :
    (w.variants[j].1.name == w.variants[i].1.name) = decide (j = i) := by
  have apart : Function.Injective fun i : Fin w.variants.length => w.variants[i].1.name := by
    have names := h.names
    rwa [← List.ofFn_getElem_eq_map, List.nodup_ofFn] at names
  rw [← decide_eq_decide.2 (apart.eq_iff (a := j) (b := i))]
  rfl

theorem build_variant (x : Value (w.keyAt i)) :
    w.build w.variants[i].1 x = some (.wrap i x) := by
  have found : ((List.finRange w.variants.length).find? fun j =>
      w.variants[j].1.name == w.variants[i].1.name) = some i := by
    simp only [name_beq h]
    exact find?_finRange i
  rw [Wrapper.build, found, Option.bind_eq_bind, Option.bind_some, cast?_self]
  rfl

theorem matched_variant (hit miss : Reply) :
    s.matched ⟨w.variants[i].1, hit, miss⟩ (w.keyAt i) = some
      (match s.project? i with
        | some x => (hit, .inl x)
        | none => (miss, .inr s)) := by
  rw [Store.matched, Store.variant, name_beq h, Store.project?]
  by_cases same : s.kind = i
  · subst same
    rw [decide_eq_true rfl, if_pos rfl, dif_pos rfl]
    exact congrArg (Option.map _) (cast?_self _)
  · rw [decide_eq_false same, dif_neg same]
    rfl

theorem takenApart_variant :
    s.takenApart ⟨w.variants[i].1, .success, .failure⟩ (w.keyAt i) = some (s.extract i) := by
  rw [Store.takenApart, matched_variant h, Option.bind_eq_bind, Option.bind_some, Store.extract]
  cases s.project? i <;> rfl

theorem lookedInto_variant :
    s.lookedInto ⟨w.variants[i].1, .present, .absent⟩ (w.keyAt i) = some (s.project? i) := by
  rw [Store.lookedInto, matched_variant h, Option.bind_eq_bind, Option.bind_some]
  cases s.project? i <;> rfl

theorem changed_variant (f : Value (w.keyAt i) → Value (w.keyAt i)) :
    s.changed ⟨w.variants[i].1, .present, .absent⟩ f = some (s.modify? i f) := by
  rw [Store.changed, lookedInto_variant h, Option.bind_eq_bind, Option.bind_some, Store.modify?]
  by_cases same : s.kind = i
  · subst same
    rw [Store.project?, dif_pos rfl, Option.map_some]
    dsimp only
    rw [cast?_self, Option.map_some]
  · rw [Store.project?, dif_neg same]
    rfl

theorem tag_storeCode : w.storeCode.tag s = some s.tag := by
  have names : (w.storeCode.tags.map (·.1.name)).Nodup := by
    have names := h.names
    rw [← List.zipIdx_map_fst 0 w.variants, List.map_map] at names
    rwa [Wrapper.storeCode, List.map_map]
  have listed : (s.variant, (s.kind : Nat)) ∈ w.storeCode.tags :=
    List.mem_map.2 ⟨(w.variants[s.kind], s.kind), by simp [List.mk_mem_zipIdx_iff_getElem?], rfl⟩
  rw [StoreCode.tag, Store.arm?, find?_eq_of_nodup names listed rfl, tag_eq_kind]
  rfl

theorem arm?_variants : s.arm? w.variants = some w.variants[s.kind].2 :=
  congrArg (Option.map _) (find?_eq_of_nodup h.names (List.getElem_mem _) rfl)

theorem subtypeName_storeCode : w.storeCode.subtypeName s = some s.title := by
  rw [StoreCode.subtypeName, tag_storeCode h, Option.bind_eq_bind, Option.bind_some,
    titles_storeCode Value, s.titles_tag]

theorem constant_storeCode : w.storeCode.constant (w.keyAt i) = some i := by
  rw [StoreCode.constant, impl?_keyAt h]
  rfl

theorem is_storeCode : w.storeCode.is (w.keyAt i) s = some (s.is i) := by
  rw [StoreCode.is, tag_storeCode h, constant_storeCode h, Store.is, tagOf_family]
  rfl

theorem convert_storeCode (x : Value (w.keyAt i)) :
    w.storeCode.convert w x = some (.wrap i x) := by
  rw [StoreCode.convert, impl?_keyAt h, Option.bind_eq_bind, Option.bind_some]
  exact build_variant h i x

theorem wrap_storeCode (x : Value (w.keyAt i)) : w.storeCode.wrap w x = some (.wrap i x) := by
  rw [StoreCode.wrap, impl?_keyAt h, Option.bind_eq_bind, Option.bind_some]
  exact build_variant h i x

theorem project_storeCode : w.storeCode.project (w.keyAt i) s = some (s.project? i) := by
  rw [StoreCode.project, impl?_keyAt h, Option.bind_eq_bind, Option.bind_some]
  exact lookedInto_variant h s i

theorem projectMut_storeCode (f : Value (w.keyAt i) → Value (w.keyAt i)) :
    w.storeCode.projectMut f s = some (s.modify? i f) := by
  rw [StoreCode.projectMut, impl?_keyAt h, Option.bind_eq_bind, Option.bind_some]
  exact changed_variant h s i f

theorem extract_storeCode : w.storeCode.extract (w.keyAt i) s = some (s.extract i) := by
  rw [StoreCode.extract, impl?_keyAt h, Option.bind_eq_bind, Option.bind_some]
  exact takenApart_variant h s i

theorem tryFrom_storeCode : w.storeCode.tryFrom (w.keyAt i) s = some (s.extract i) := by
  rw [StoreCode.tryFrom, impl?_keyAt h, Option.bind_eq_bind, Option.bind_some]
  exact takenApart_variant h s i

theorem visit_storeCode {β : Type} (visitor : (key : String) → Value key → β) :
    w.storeCode.visit visitor s = some (s.visit fun i => visitor (w.keyAt i)) := by
  have arm : s.arm? w.storeCode.visits = some w.variants[s.kind].2 := arm?_variants h s
  have bound : cast? w.variants[s.kind].2.key s.value = some s.value := cast?_self _
  rw [StoreCode.visit, arm, Option.bind_eq_bind, Option.bind_some]
  rw [bound]
  rfl

theorem visitMut_storeCode {β : Type} (visitor : (key : String) → Value key → β × Value key) :
    w.storeCode.visitMut visitor s = some (s.visitMut fun i => visitor (w.keyAt i)) := by
  have arm : s.arm? w.storeCode.visitsMut = some w.variants[s.kind].2 := arm?_variants h s
  have bound : cast? w.variants[s.kind].2.key s.value = some s.value := cast?_self _
  rw [StoreCode.visitMut, arm, Option.bind_eq_bind, Option.bind_some]
  rw [bound]
  show (cast? (w.keyAt s.kind) (visitor (w.keyAt s.kind) s.value).2).bind _ = _
  rw [cast?_self]
  rfl

end

end SharedMembers
