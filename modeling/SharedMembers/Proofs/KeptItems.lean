import SharedMembers.Proofs.Contributions
import SharedMembers.Proofs.MemberAttributes

/-!
# What becomes of the items

A module that is expanded keeps its items, save for the enums that declare wrappers, and what is
generated comes behind them. Of the items that are kept only the directives on their members are
gone: on the named fields of structs and on the functions of implementations, whether or not these
fields and functions become members of a type. All else is written as the module is that was read,
which need not be how it was spelled.

Results:
* `collect_items`: what is left of items when their members are collected.
* `expand_keeps_items`: what becomes of the items of a module.
* `expand_drops_where`: what is not kept of the spelling.
-/

namespace SharedMembers

/-! ## Collecting members -/

theorem MemberArguments.rest_of_take {attributes rest : List Attribute} {args : MemberArguments}
    (h : take attributes = .ok (args, rest)) : rest = attributes.filter (!·.isDirective) := by
  obtain ⟨_, taken, same⟩ := bind_eq_ok_iff.1 h
  cases same
  exact (takeArguments_eq_ok taken).1

theorem StructItem.collect_item {s s' : StructItem} {t : Table} (h : s.collect = .ok (t, s')) :
    s' = { s with fields := s.fields.mapNamedAttributes (·.filter (!·.isDirective)) } := by
  obtain ⟨attributes, visibility, keyword, ident, generics, fields⟩ := s
  cases fields with
  | named opened fields trailing =>
    obtain ⟨taken, all, same⟩ := bind_eq_ok_iff.1 h
    cases same
    have each : taken.map (·.2) =
        fields.map fun x => { x with attributes := x.attributes.filter (!·.isDirective) } := by
      refine map_eq_of_mapM (fun x made hx => ?_) all
      obtain ⟨rest, said, -, same⟩ := Field.take_eq_ok hx
      rw [same, MemberArguments.rest_of_take said]
    rw [each]
    rfl
  | unit | positional =>
    cases h
    rfl

theorem ImplMember.collect_member {self? : Option Ident} {member member' : ImplMember}
    {entry : Option (Key × Signature)} (h : member.collect self? = .ok (entry, member')) :
    member' = member.mapAttributes (·.filter (!·.isDirective)) := by
  cases member with
  | other code =>
    cases h
    rfl
  | method m =>
    obtain ⟨⟨args, rest⟩, said, h⟩ := bind_eq_ok_iff.1 h
    rw [ImplMember.mapAttributes, ← MemberArguments.rest_of_take said]
    cases self? with
    | none =>
      cases h
      rfl
    | some self =>
      obtain ⟨_, -, h⟩ := bind_eq_ok_iff.1 h
      cases h
      rfl

theorem Catalogue.readDefinition_item {c c' : Catalogue} {item item' : Item}
    (h : c.readDefinition item = .ok (c', item')) :
    item' = item.mapFieldAttributes (·.filter (!·.isDirective)) := by
  cases item with
  | struct s =>
    obtain ⟨⟨table, taken⟩, collected, h⟩ := bind_eq_ok_iff.1 h
    cases h
    exact congrArg Item.struct (StructItem.collect_item collected)
  | enum e =>
    rw [Catalogue.readDefinition] at h
    split at h <;> cases h <;> rfl
  | impl i => cases h; rfl
  | other kind names code => cases h; rfl

theorem Catalogue.readMethods_item {c c' : Catalogue} {item item' : Item}
    (h : c.readMethods item = .ok (c', item')) :
    item' = item.mapMethodAttributes (·.filter (!·.isDirective)) := by
  cases item with
  | impl i =>
    obtain ⟨taken, all, h⟩ := bind_eq_ok_iff.1 h
    have members : taken.map (·.2) =
        i.members.map (ImplMember.mapAttributes (·.filter (!·.isDirective))) :=
      map_eq_of_mapM (fun _ _ => ImplMember.collect_member) all
    cases h
    rw [members]
    rfl
  | struct s => cases h; rfl
  | enum e => cases h; rfl
  | other kind names code => cases h; rfl

/-- Collecting members leaves the items without the directives on their members. -/
theorem collect_items {items kept : List Item} {c : Catalogue} (h : collect items = .ok (c, kept)) :
    kept = items.map Item.withoutDirectives := by
  obtain ⟨⟨c₁, defined⟩, definitions, methods⟩ := bind_eq_ok_iff.1 h
  have first : defined.map id = items.map (Item.mapFieldAttributes _) :=
    Catalogue.readEach_map (fun _ _ _ _ => Catalogue.readDefinition_item) definitions
  have second : kept.map id = defined.map (Item.mapMethodAttributes _) :=
    Catalogue.readEach_map (fun _ _ _ _ => Catalogue.readMethods_item) methods
  rw [List.map_id] at first second
  rw [second, first, List.map_map]
  rfl

/-! ## Expansions -/

/-- The tokens of a module that has its items: the items stand in braces behind the name, and the
inner attributes of the module in front of them. -/
theorem Module.tokensWith_eq {m : Module} {items : List Item} (inline : m.items = some items) :
    ∃ front inner, ∀ ts, m.tokensWith ts = front ++
      [.word "mod" m.keyword, m.ident.token, .group .brace (inner ++ ts) none none] := by
  refine ⟨Fragment.tokensAll (outerCode m.attributes ++ m.visibility.code ++
    Code.wordIf m.unchecked "unsafe"), Fragment.tokensAll (innerCode m.attributes), fun ts => ?_⟩
  rw [tokensWith, inline]
  simp [Fragment.tokensAll_append, Fragment.tokensAll, Fragment.tokens, Code.wordAt, Code.name,
    Code.group, Code.tokensAll_ofTokens]

/-- An expansion is the module with its items, save for the enums that declare wrappers, and with
what is generated behind them. The items are as they were, without the directives on their members,
of which none is left; and in their tokens nothing else is missing. -/
theorem expand_keeps_items {m : Module} {library : Path} {e : Expansion}
    (h : m.expand library = .ok e) :
    ∃ items front inner, m.items = some items ∧
      m.tokens = front ++ [.word "mod" m.keyword, m.ident.token,
        .group .brace (inner ++ items.flatMap Item.tokens) none none] ∧
      e.tokens = front ++ [.word "mod" m.keyword, m.ident.token,
        .group .brace (inner ++ (e.kept.flatMap Item.tokens ++ e.generated)) none none] ∧
      e.kept = (items.filter (!·.declaresWrapper)).map Item.withoutDirectives ∧
      List.Forall₂ (fun before after => Trimmed before.writtenAttributes before.tokens after.tokens)
        (items.filter (!·.declaresWrapper)) e.kept ∧
      ∀ i ∈ e.kept, ∀ attributes ∈ i.memberAttributes, ∀ a ∈ attributes,
        a.isDirective = false := by
  obtain ⟨c, kept, r, prepared, -, same⟩ := expand_eq_ok h
  obtain ⟨items, others, inline, parted, collected, -⟩ := prepare_eq_ok prepared
  obtain ⟨front, inner, tokens⟩ := Module.tokensWith_eq inline
  have plain : kept = (items.filter (!·.declaresWrapper)).map Item.withoutDirectives := by
    rw [collect_items collected, takeWrappers_others parted]
  have trimmed : List.Forall₂
      (fun before after => Trimmed before.writtenAttributes before.tokens after.tokens)
      (items.filter (!·.declaresWrapper)) kept := by
    rw [plain, List.forall₂_map_right_iff, List.forall₂_same]
    exact fun i _ => i.trimmed
  have own : m.tokens = m.tokensWith (items.flatMap Item.tokens) := by
    rw [Module.tokens, inline]
    rfl
  rw [same]
  refine ⟨items, front, inner, inline, own.trans (tokens _), tokens _, plain, trimmed,
    fun i (hi : i ∈ kept) attributes hm a ha => ?_⟩
  rw [plain] at hi
  obtain ⟨item, -, rfl⟩ := List.mem_map.1 hi
  exact Item.not_isDirective_of_withoutDirectives hm ha

/-! ### Pairs -/

/-- An attribute that is no directive. -/
def inlineAttribute : Attribute :=
  ⟨none, false, .ofIdent (.generated "inline"), .nothing⟩

/-- A generic struct, the implementation of a trait for a type from elsewhere, and a method of that
type, with the attributes on their members. -/
def pairs (attributes : List Attribute) : List Item :=
  let head := ⟨none, none, none, none, none, .generated "first", .empty, [], false, none, none⟩
  let method := .method ⟨attributes, .everywhere none, none, head, []⟩
  [.struct ⟨[], .everywhere none, none, .generated "Pair",
     ⟨none, [(false, Code.word "T")], false, none⟩,
     .named none [{ openField "first" (.ofName "T") with attributes := attributes }] false⟩,
   .impl ⟨[], [], none, .empty, some ⟨false, .ofIdent (.generated "Clone")⟩, .ofName "Triple",
     [method]⟩,
   .impl ⟨[], [], none, .empty, none, .ofName "Triple", [method]⟩]

theorem expand_keeps_items_pairs :
    ∃ e, (moduleOf (openStruct "Circle" [] :: declaringEnum "Shape" ["Circle"] ::
          pairs [inlineAttribute, skipDirective, inlineAttribute])).expand defaultLibrary = .ok e ∧
      e.kept = openStruct "Circle" [] :: pairs [inlineAttribute, inlineAttribute] := by
  obtain ⟨e, expanded, -⟩ := exists_ok_of_toOption
    (x := (moduleOf (openStruct "Circle" [] :: declaringEnum "Shape" ["Circle"] ::
      pairs [inlineAttribute, skipDirective, inlineAttribute])).expand defaultLibrary)
    (f := Expansion.overview) (b := [("Shape", [])]) (by decide +kernel)
  obtain ⟨items, -, -, inline, -, -, kept, -⟩ := expand_keeps_items expanded
  cases inline
  exact ⟨e, expanded, kept.trans rfl⟩

/-! ### Spelling -/

/-- A `where` without conditions is not kept, although it is neither a directive nor an empty list
of parameters. -/
theorem expand_drops_where :
    ∃ tokens e,
      Tree.ofText? "mod m { pub struct A where { pub x: u8 } #[superstruct] pub enum W { A } }" =
        some tokens ∧
      expandTokens defaultLibrary tokens = .ok e ∧
      flat tokens =
        "mod m { pub struct A where { pub x : u8 } # [ superstruct ] pub enum W { A } }" ∧
      flat (e.kept.flatMap Item.tokens) = "pub struct A { pub x : u8 }" ∧
      ["mod", "m", "\x7b", "pub", "struct", "A", "\x7b", "pub", "x", ":", "u8", "\x7d"] <+:
        Tree.flatAll e.tokens := by
  have run : ((Tree.ofText?
        "mod m { pub struct A where { pub x: u8 } #[superstruct] pub enum W { A } }").bind
      fun tokens => (expandTokens defaultLibrary tokens).toOption.map fun e =>
        (flat tokens, flat (e.kept.flatMap Item.tokens), (Tree.flatAll e.tokens).take 12)) =
      some ("mod m { pub struct A where { pub x : u8 } # [ superstruct ] pub enum W { A } }",
        "pub struct A { pub x : u8 }",
        ["mod", "m", "\x7b", "pub", "struct", "A", "\x7b", "pub", "x", ":", "u8", "\x7d"]) := by
    decide +kernel
  obtain ⟨tokens, lexed, run⟩ := Option.bind_eq_some_iff.1 run
  obtain ⟨e, expanded, shown⟩ := exists_ok_of_toOption run
  simp only [Prod.mk.injEq] at shown
  obtain ⟨spelled, kept, front⟩ := shown
  exact ⟨tokens, e, lexed, expanded, spelled, kept, front ▸ List.take_prefix _ _⟩

end SharedMembers
