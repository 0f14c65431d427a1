import Mathlib.Data.List.Basic
import SharedMembers.Item.Code
import SharedMembers.Directive.Arguments

/-!
# Attributes of members

The attributes on the members of an item, that is on the named fields of a struct and on the
functions of an implementation, can be changed without touching anything else of the item. Where
directives are left out, the item is written as before, but for the tokens of these attributes.

* `Item.withoutDirectives`: the item without the directives on its members.
* `Item.mapMemberAttributes_eq_self`, `Item.mapMemberAttributes_mapMemberAttributes`: changing the
  attributes of members touches nothing else.
* `Trimmed`: tokens from which the directives among given attributes are cut.
* `Item.trimmed`: so are the tokens of the item.
-/

namespace SharedMembers

/-! ## Attributes of members -/

/-- Fields whose attributes are changed, if the fields are named. -/
def Fields.mapNamedAttributes (f : List Attribute → List Attribute) : Fields → Fields
  | named opened fields trailing =>
    named opened (fields.map fun x => { x with attributes := f x.attributes }) trailing
  | fields => fields

/-- A member of an implementation whose attributes are changed, if it is a function. -/
def ImplMember.mapAttributes (f : List Attribute → List Attribute) : ImplMember → ImplMember
  | method m => method { m with attributes := f m.attributes }
  | other code => other code

namespace Item

/-- The item with changed attributes on the named fields of a struct. -/
def mapFieldAttributes (f : List Attribute → List Attribute) : Item → Item
  | struct s => struct { s with fields := s.fields.mapNamedAttributes f }
  | item => item

/-- The item with changed attributes on the functions of an implementation. -/
def mapMethodAttributes (f : List Attribute → List Attribute) : Item → Item
  | impl i => impl { i with members := i.members.map (ImplMember.mapAttributes f) }
  | item => item

/-- The item with changed attributes on its members. -/
def mapMemberAttributes (f : List Attribute → List Attribute) (i : Item) : Item :=
  (i.mapFieldAttributes f).mapMethodAttributes f

/-- The attributes of each named field of a struct, and of each function of an implementation. -/
def memberAttributes : Item → List (List Attribute)
  | struct s =>
    match s.fields with
    | .named _ fields _ => fields.map (·.attributes)
    | _ => []
  | impl i => i.members.filterMap fun
    | .method m => some m.attributes
    | .other _ => none
  | _ => []

/-- The item without the directives on its members. All other attributes keep their order. -/
def withoutDirectives (i : Item) : Item :=
  i.mapMemberAttributes (·.filter (!·.isDirective))

theorem memberAttributes_mapMemberAttributes (f : List Attribute → List Attribute) (i : Item) :
    (i.mapMemberAttributes f).memberAttributes = i.memberAttributes.map f := by
  cases i with
  | struct s =>
    obtain ⟨attributes, visibility, keyword, ident, generics, fields⟩ := s
    cases fields with
    | named opened fields trailing =>
      show (fields.map _).map _ = (fields.map _).map f
      simp only [List.map_map, Function.comp_def]
    | unit | positional => rfl
  | impl i =>
    show (i.members.map _).filterMap _ = (i.members.filterMap _).map f
    rw [List.filterMap_map, List.map_filterMap]
    refine List.filterMap_congr fun member _ => ?_
    cases member <;> rfl
  | enum | other => rfl

/-- Changing attributes twice is changing them once. -/
theorem mapMemberAttributes_mapMemberAttributes (f g : List Attribute → List Attribute)
    (i : Item) :
    (i.mapMemberAttributes f).mapMemberAttributes g = i.mapMemberAttributes (g ∘ f) := by
  cases i with
  | struct s =>
    obtain ⟨attributes, visibility, keyword, ident, generics, fields⟩ := s
    cases fields <;>
      simp [mapMemberAttributes, mapFieldAttributes, mapMethodAttributes, Fields.mapNamedAttributes]
  | impl i =>
    simp only [mapMemberAttributes, mapFieldAttributes, mapMethodAttributes, List.map_map,
      impl.injEq, ImplItem.mk.injEq, true_and]
    refine List.map_congr_left fun member _ => ?_
    cases member <;> rfl
  | enum | other => rfl

/-- Changing no attributes changes nothing. -/
theorem mapMemberAttributes_eq_self {f : List Attribute → List Attribute} {i : Item}
    (same : ∀ attributes ∈ i.memberAttributes, f attributes = attributes) :
    i.mapMemberAttributes f = i := by
  cases i with
  | struct s =>
    obtain ⟨attributes, visibility, keyword, ident, generics, fields⟩ := s
    cases fields with
    | named opened fields trailing =>
      have each : ∀ x ∈ fields, { x with attributes := f x.attributes } = x := by
        intro x hx
        rw [same x.attributes (List.mem_map_of_mem hx)]
      simp only [mapMemberAttributes, mapFieldAttributes, mapMethodAttributes,
        Fields.mapNamedAttributes, List.map_congr_left each, List.map_id']
    | unit | positional => rfl
  | impl i =>
    have each : ∀ member ∈ i.members, member.mapAttributes f = member := by
      intro member hm
      cases member with
      | method m =>
        rw [ImplMember.mapAttributes, same m.attributes (List.mem_filterMap.2 ⟨_, hm, rfl⟩)]
      | other code => rfl
    simp only [mapMemberAttributes, mapFieldAttributes, mapMethodAttributes,
      List.map_congr_left each, List.map_id']
  | enum | other => rfl

/-- No directive is left on a member. -/
theorem not_isDirective_of_withoutDirectives {i : Item} {attributes : List Attribute}
    (h : attributes ∈ i.withoutDirectives.memberAttributes) {a : Attribute}
    (ha : a ∈ attributes) : a.isDirective = false := by
  rw [withoutDirectives, memberAttributes_mapMemberAttributes] at h
  obtain ⟨all, -, rfl⟩ := List.mem_map.1 h
  simpa using (List.mem_filter.1 ha).2

/-- An item without directives on its members is left as it is. -/
theorem withoutDirectives_eq_self {i : Item}
    (h : ∀ attributes ∈ i.memberAttributes, ∀ a ∈ attributes, a.isDirective = false) :
    i.withoutDirectives = i :=
  mapMemberAttributes_eq_self fun attributes hm =>
    List.filter_eq_self.2 fun a ha => by simp [h attributes hm a ha]

/-- Nothing but attributes of members is changed. -/
theorem mapMemberAttributes_withoutDirectives (i : Item) :
    i.withoutDirectives.mapMemberAttributes (fun _ => []) = i.mapMemberAttributes fun _ => [] :=
  mapMemberAttributes_mapMemberAttributes _ _ i

end Item

/-! ## Tokens without directives -/

/-- In the first tokens the attributes stand one behind the other, however deep in brackets. The
second tokens are the first ones, with the directives among these attributes cut out. -/
inductive Trimmed : List Attribute → List Tree → List Tree → Prop
  | nil : Trimmed [] [] []
  | tree (t : Tree) {as : List Attribute} {before after : List Tree}
      (rest : Trimmed as before after) : Trimmed as (t :: before) (t :: after)
  | group (d : Delimiter) (opened closed : Origin) {as bs : List Attribute}
      {body body' before after : List Tree} (inside : Trimmed as body body')
      (rest : Trimmed bs before after) :
      Trimmed (as ++ bs) (.group d body opened closed :: before)
        (.group d body' opened closed :: after)
  | cut (a : Attribute) {as : List Attribute} {before after : List Tree}
      (rest : Trimmed as before after) :
      Trimmed (a :: as) (a.tokens ++ before) (if a.isDirective then after else a.tokens ++ after)

namespace Trimmed

variable {as bs : List Attribute}

/-- Nothing is cut out of other tokens. -/
theorem refl (ts : List Tree) : Trimmed [] ts ts := by
  induction ts with
  | nil => exact .nil
  | cons t ts ih => exact .tree t ih

theorem append {before after before' after' : List Tree} (h : Trimmed as before after)
    (h' : Trimmed bs before' after') : Trimmed (as ++ bs) (before ++ before') (after ++ after') := by
  induction h with
  | nil => exact h'
  | tree t _ ih => exact .tree t ih
  | group d opened closed inside _ _ ih =>
    rw [List.append_assoc]
    exact .group d opened closed inside ih
  | cut a _ ih =>
    have cut := ih.cut a
    cases directive : a.isDirective <;> simpa [directive] using cut

/-- Tokens in front are not touched. -/
theorem behind (front : List Tree) {before after : List Tree} (h : Trimmed as before after) :
    Trimmed as (front ++ before) (front ++ after) :=
  (refl front).append h

/-- Attributes one behind the other. -/
theorem attributes (as : List Attribute) :
    Trimmed as (as.flatMap Attribute.tokens)
      ((as.filter (!·.isDirective)).flatMap Attribute.tokens) := by
  induction as with
  | nil => exact .nil
  | cons a as ih =>
    have cut := ih.cut a
    cases directive : a.isDirective <;> simpa [directive] using cut

/-- Attributes with tokens behind them. -/
theorem attributes_append (as : List Attribute) (back : List Tree) :
    Trimmed as (as.flatMap Attribute.tokens ++ back)
      ((as.filter (!·.isDirective)).flatMap Attribute.tokens ++ back) := by
  simpa using (attributes as).append (refl back)

section Parts

variable {α : Type} {attributesOf : α → List Attribute} {f g : α → List Tree}

/-- Parts one behind the other. -/
theorem flatMap (each : ∀ x, Trimmed (attributesOf x) (f x) (g x)) (parts : List α) :
    Trimmed (parts.flatMap attributesOf) (parts.flatMap f) (parts.flatMap g) := by
  induction parts with
  | nil => exact .nil
  | cons x parts ih => exact (each x).append ih

/-- Parts with commas between them. -/
theorem separated (each : ∀ x, Trimmed (attributesOf x) (f x) (g x)) (trailing : Bool)
    (parts : List α) : Trimmed (parts.flatMap attributesOf)
      (SharedMembers.separated comma trailing (parts.map f))
      (SharedMembers.separated comma trailing (parts.map g)) := by
  induction parts with
  | nil => exact .nil
  | cons x parts ih =>
    cases parts with
    | nil => exact (each x).append (refl _)
    | cons next parts => exact (each x).append (.tree comma ih)

end Parts

end Trimmed

/-! ### Items -/

/-- The attributes on the members of an item in the order in which they are written: the inner
attributes of a function stand in its body. -/
def Item.writtenAttributes : Item → List Attribute
  | struct s =>
    match s.fields with
    | .named _ fields _ => fields.flatMap (·.attributes)
    | _ => []
  | impl i => i.members.flatMap fun
    | .method m => m.attributes.filter (!·.inner) ++ m.attributes.filter (·.inner)
    | .other _ => []
  | _ => []

open Fragment

theorem tokensAll_outerCode (as : List Attribute) :
    tokensAll (outerCode as) = (as.filter (!·.inner)).flatMap Attribute.tokens :=
  Code.tokensAll_flatMap _ _

theorem tokensAll_innerCode (as : List Attribute) :
    tokensAll (innerCode as) = (as.filter (·.inner)).flatMap Attribute.tokens :=
  Code.tokensAll_flatMap _ _

/-- Outer attributes stand in front. -/
theorem outerCode_trimmed (as : List Attribute) (back : List Tree) :
    Trimmed (as.filter (!·.inner)) (tokensAll (outerCode as) ++ back)
      (tokensAll (outerCode (as.filter (!·.isDirective))) ++ back) := by
  rw [tokensAll_outerCode, tokensAll_outerCode, List.filter_comm]
  exact .attributes_append _ _

/-- Inner attributes stand in front of what they stand inside of. -/
theorem innerCode_trimmed (as : List Attribute) (back : List Tree) :
    Trimmed (as.filter (·.inner)) (tokensAll (innerCode as) ++ back)
      (tokensAll (innerCode (as.filter (!·.isDirective))) ++ back) := by
  rw [tokensAll_innerCode, tokensAll_innerCode, List.filter_comm]
  exact .attributes_append _ _

theorem Field.trimmed (x : Field) : Trimmed x.attributes (tokensAll x.code)
    (tokensAll { x with attributes := x.attributes.filter (!·.isDirective) }.code) := by
  simp only [Field.code, tokensAll_append, Code.tokensAll_flatMap, List.append_assoc]
  exact .attributes_append _ _

theorem Method.trimmed (m : Method) :
    Trimmed (m.attributes.filter (!·.inner) ++ m.attributes.filter (·.inner)) (tokensAll m.code)
      (tokensAll { m with attributes := m.attributes.filter (!·.isDirective) }.code) := by
  simp only [Method.code, tokensAll_append, List.append_assoc]
  have front := outerCode_trimmed m.attributes (tokensAll m.visibility.code ++
    (tokensAll (Code.wordIf m.default "default") ++ tokensAll m.head.code))
  have body := (innerCode_trimmed m.attributes (tokensAll m.body)).group .brace none none .nil
  rw [List.append_nil] at body
  simpa [Code.group, tokensAll, Fragment.tokens, tokensAll_append] using front.append body

theorem ImplItem.trimmed (i : ImplItem) : Trimmed (Item.impl i).writtenAttributes
    (tokensAll i.code) (tokensAll { i with
      members := i.members.map (ImplMember.mapAttributes (·.filter (!·.isDirective))) }.code) := by
  have members : Trimmed (Item.impl i).writtenAttributes
      (tokensAll (i.members.flatMap ImplMember.code))
      (tokensAll ((i.members.map
        (ImplMember.mapAttributes (·.filter (!·.isDirective)))).flatMap ImplMember.code)) := by
    rw [Code.tokensAll_flatMap, Code.tokensAll_flatMap, List.flatMap_map]
    refine .flatMap (fun member => ?_) i.members
    cases member with
    | method m => exact m.trimmed
    | other code => exact .refl _
  have body := ((Trimmed.refl (tokensAll (innerCode i.attributes))).append members).group .brace
    none none .nil
  rw [List.nil_append, List.append_nil] at body
  simp only [ImplItem.code, tokensAll_append]
  refine .behind _ ?_
  simpa [Code.group, tokensAll, Fragment.tokens, tokensAll_append] using body

/-- The tokens of an item without the directives on its members are those of the item, with these
directives cut out. -/
theorem Item.trimmed (i : Item) :
    Trimmed i.writtenAttributes i.tokens i.withoutDirectives.tokens := by
  cases i with
  | struct s =>
    obtain ⟨attributes, visibility, keyword, ident, generics, fields⟩ := s
    cases fields with
    | named opened fields trailing =>
      have body := (Trimmed.separated Field.trimmed trailing fields).group .brace opened none .nil
      rw [List.append_nil] at body
      show Trimmed _ (tokensAll (StructItem.code _)) (tokensAll (StructItem.code _))
      simp only [StructItem.code, Fields.mapNamedAttributes, tokensAll_append]
      refine .behind _ (.behind _ ?_)
      simpa [Item.writtenAttributes, Fields.code, Code.group, tokensAll, Fragment.tokens,
        Code.tokensAll_separated, Function.comp_def] using body
    | unit | positional => exact .refl _
  | impl i => exact i.trimmed
  | enum | other => exact .refl _

end SharedMembers
