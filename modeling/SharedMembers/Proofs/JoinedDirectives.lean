import SharedMembers.Proofs.KeptItems
import SharedMembers.Proofs.PlainDirectives

/-!
# Directives that are split

What is to be said of an item may stand in one directive or in several, and these may stand anywhere
among the other attributes. The entries of all of them are read as one list, so it does not matter
how they are split.

Results:
* `JoinsLists.joins`: lists of plain entries may be written one behind the other.
* `directivesOf_eq`: all directives as one.
* `takeArguments_eq`: what is taken off an item, by the entries of its directives.
* `takeArguments_joined`: it is what is taken off if one directive holds all entries.
-/

namespace SharedMembers

/-! ## What is promised -/

/-- The entries of all directives, in their order. A directive without a list has none. -/
def entriesOf (attributes : List Attribute) : Except Refusal (List Entry) :=
  ((attributes.filter Attribute.isDirective).mapM Attribute.entries).map List.flatten

/-- The attributes `joined` are the other ones with all directives, of which there is at least one,
replaced by one that holds all of their entries. It may stand anywhere. -/
structure Joins (attributes joined : List Attribute) : Prop where
  directed : ∃ d ∈ attributes, d.isDirective = true
  others : joined.filter (!·.isDirective) = attributes.filter (!·.isDirective)
  single : ∃ d, joined.filter Attribute.isDirective = [d] ∧ d.entries = entriesOf attributes

/-- The attributes `joined` are the other ones with all directives, of which there is at least one,
replaced by one in which the parts of their lists are written one behind the other. All parts are
plain entries. -/
structure JoinsLists (attributes joined : List Attribute) (lists : List (List (List Tree))) :
    Prop where
  directed : ∃ d ∈ attributes, d.isDirective = true
  others : joined.filter (!·.isDirective) = attributes.filter (!·.isDirective)
  written : List.Forall₂ Attribute.Holds (attributes.filter Attribute.isDirective) lists
  plain : ∀ part ∈ lists.flatten, PlainEntry part
  single : ∃ d, joined.filter Attribute.isDirective = [d] ∧ d.Holds lists.flatten

/-! ## Lists -/

theorem mapM_entries {directives : List Attribute} {lists : List (List (List Tree))}
    {ess : List (List Entry)} (holds : List.Forall₂ Attribute.Holds directives lists)
    (reads : List.Forall₂ (List.Forall₂ Reads) lists ess) :
    directives.mapM Attribute.entries = .ok ess := by
  refine mapM_eq_ok_iff.2 ?_
  induction holds generalizing ess with
  | nil =>
    obtain rfl := List.forall₂_nil_left_iff.1 reads
    exact .nil
  | cons hold _ ih =>
    obtain ⟨es, ess, read, later, rfl⟩ := List.forall₂_cons_left_iff.1 reads
    exact .cons (hold.entries_eq read) (ih later)

/-- A list in which the parts of several lists stand one behind the other holds the entries of all
of them. -/
theorem JoinsLists.joins {attributes joined : List Attribute} {lists : List (List (List Tree))}
    (h : JoinsLists attributes joined lists) : Joins attributes joined where
  directed := h.directed
  others := h.others
  single := by
    obtain ⟨d, single, holds⟩ := h.single
    obtain ⟨ess, reads⟩ : ∃ ess, List.Forall₂ (List.Forall₂ Reads) lists ess :=
      exists_forall₂_of_forall fun parts mem => exists_forall₂_of_forall fun part mem' =>
        (h.plain part (List.mem_flatten.2 ⟨parts, mem, mem'⟩)).exists_reads
    refine ⟨d, single, ?_⟩
    rw [entriesOf, mapM_entries h.written reads]
    exact holds.entries_eq (List.rel_flatten reads)

/-! ## Reading -/

section Reading

variable {α : Type} {readers : List (EntryReader α)} {initial : α}

/-- All directives as one: it stands where the last one does. -/
theorem directivesOf_eq {attributes : List Attribute} {es : List Entry}
    (h : entriesOf attributes = .ok es) :
    directivesOf attributes =
      .ok ((attributes.filter Attribute.isDirective).getLast?.map fun d => ⟨d.origin, es⟩) := by
  obtain ⟨lists, read, rfl⟩ := map_eq_ok_iff.1 h
  rw [directivesOf, read]
  rfl

/-- What is taken off an item: without a directive nothing, else what the entries of all directives
say. -/
theorem takeArguments_eq {attributes : List Attribute} {es : List Entry}
    (h : entriesOf attributes = .ok es) :
    takeArguments readers initial attributes =
      match (attributes.filter Attribute.isDirective).getLast? with
      | none => .ok (none, attributes.filter (!·.isDirective))
      | some d => (readEntries readers initial ⟨d.origin, es⟩).map fun a =>
          (some a, attributes.filter (!·.isDirective)) := by
  rw [takeArguments, takeDirectives, directivesOf_eq h]
  cases (attributes.filter Attribute.isDirective).getLast? with
  | none => rfl
  | some d =>
    dsimp only
    cases said : readEntries readers initial ⟨d.origin, es⟩ with
    | error refusal => simp [said, bind, Except.bind, pure, Except.pure, Except.map]
    | ok a => simp [said, bind, Except.bind, pure, Except.pure, Except.map]

/-- Where the directives stand tells only where a problem is reported. -/
theorem cause_readEntries (es : List Entry) (o o' : Origin) :
    (readEntries readers initial ⟨o, es⟩).mapError Refusal.cause =
      (readEntries readers initial ⟨o', es⟩).mapError Refusal.cause := by
  unfold readEntries
  dsimp only
  split <;> rfl

/-- Without entries the directives say nothing. -/
theorem readEntries_nil (o : Origin) : readEntries readers initial ⟨o, []⟩ = .ok initial := rfl

/-- There is a last directive iff there is one. -/
theorem getLast?_directives_eq_none {attributes : List Attribute} :
    (attributes.filter Attribute.isDirective).getLast? = none ↔
      ∀ a ∈ attributes, a.isDirective = false := by
  rw [List.getLast?_eq_none_iff, List.filter_eq_nil_iff]
  simp only [Bool.not_eq_true]

/-- What all directives say, one that holds their entries says, with the same problems if it has
any. -/
theorem takeArguments_of_joins {attributes joined : List Attribute} {es : List Entry}
    (h : entriesOf attributes = .ok es) (joins : Joins attributes joined) :
    (takeArguments readers initial joined).mapError Refusal.cause =
      (takeArguments readers initial attributes).mapError Refusal.cause := by
  obtain ⟨⟨a, ha, directs⟩, others, d, single, entries⟩ := joins
  have h' : entriesOf joined = .ok es := by
    rw [entriesOf, single, List.mapM_cons, List.mapM_nil, entries, h]
    show Except.ok [es].flatten = _
    rw [List.flatten_singleton]
  rw [takeArguments_eq h, takeArguments_eq h', single, others]
  cases last : (attributes.filter Attribute.isDirective).getLast? with
  | none =>
    rw [getLast?_directives_eq_none.1 last a ha] at directs
    cases directs
  | some l =>
    have causes : (readEntries readers initial ⟨d.origin, es⟩).mapError Refusal.cause =
        (readEntries readers initial ⟨l.origin, es⟩).mapError Refusal.cause :=
      cause_readEntries es d.origin l.origin
    show ((readEntries readers initial ⟨d.origin, es⟩).map _).mapError _ =
      ((readEntries readers initial ⟨l.origin, es⟩).map _).mapError _
    cases first : readEntries readers initial ⟨d.origin, es⟩ <;>
      cases second : readEntries readers initial ⟨l.origin, es⟩ <;>
      simp_all [Except.mapError, Except.map]

end Reading

/-- How directives are split does not matter. If all of them can be read, then nothing is found iff
there is none; exactly the directives are taken off, and the other attributes keep their order; all
directives that have no entries together say nothing; and one directive that holds all entries says
the same as they do, or has the same problems. It holds them if it is written with their lists one
behind the other, as far as the entries in these are plain. -/
theorem takeArguments_joined {α : Type} (readers : List (EntryReader α)) (initial : α)
    {attributes : List Attribute} {es : List Entry} (h : entriesOf attributes = .ok es) :
    ((∃ rest, takeArguments readers initial attributes = .ok (none, rest)) ↔
      ∀ a ∈ attributes, a.isDirective = false) ∧
    (∀ found rest, takeArguments readers initial attributes = .ok (found, rest) →
      rest = attributes.filter (!·.isDirective)) ∧
    (es = [] → (∃ a ∈ attributes, a.isDirective = true) →
      takeArguments readers initial attributes =
        .ok (some initial, attributes.filter (!·.isDirective))) ∧
    (∀ joined, Joins attributes joined →
      (takeArguments readers initial joined).mapError Refusal.cause =
        (takeArguments readers initial attributes).mapError Refusal.cause) ∧
    ∀ joined lists, JoinsLists attributes joined lists → Joins attributes joined := by
  refine ⟨?_, fun found rest taken => (takeArguments_eq_ok taken).1, ?_,
    fun joined joins => takeArguments_of_joins h joins, fun joined lists joins => joins.joins⟩
  · rw [takeArguments_eq h, ← getLast?_directives_eq_none]
    cases (attributes.filter Attribute.isDirective).getLast? with
    | none => exact ⟨fun _ => rfl, fun _ => ⟨_, rfl⟩⟩
    | some d =>
      refine ⟨fun ⟨rest, found⟩ => ?_, nofun⟩
      obtain ⟨a, -, same⟩ := map_eq_ok_iff.1 found
      cases same
  · rintro rfl ⟨a, ha, directs⟩
    rw [takeArguments_eq h]
    cases last : (attributes.filter Attribute.isDirective).getLast? with
    | none =>
      rw [getLast?_directives_eq_none.1 last a ha] at directs
      cases directs
    | some d =>
      dsimp only
      rw [readEntries_nil]
      rfl

/-! ### Three directives as one -/

/-- A new name, nothing, and that the member is left out, each in a directive of its own. -/
def splitDirectives : List Attribute :=
  [renameDirective "size", inlineAttribute,
   ⟨none, false, .ofIdent (.generated directiveName), .nothing⟩, skipDirective, inlineAttribute]

/-- The same in one directive. -/
def joinedDirectives : List Attribute :=
  [inlineAttribute, inlineAttribute,
   ⟨none, false, .ofIdent (.generated directiveName), .list .parenthesis none none
     [.word "rename" none, .punct '=' false none, .word "size" none, comma, .word "skip" none]⟩]

theorem joinsLists_joinedDirectives :
    JoinsLists splitDirectives joinedDirectives
      [[[.word "rename" none, .punct '=' false none, .word "size" none]], [],
        [[.word "skip" none]]] where
  directed := ⟨_, List.mem_cons_self, rfl⟩
  others := rfl
  written := .cons (.list rfl (.last _)) (.cons (.nothing rfl) (.cons (.list rfl (.last _)) .nil))
  plain := by
    intro part mem
    rw [List.flatten_cons, List.flatten_cons, List.flatten_cons] at mem
    rcases List.mem_pair.1 mem with rfl | rfl
    · exact .named (by decide) (by decide) _ _ _ _
    · exact .word (by decide) _
  single := ⟨_, rfl, .list rfl (.comma _ _ _ (.last _))⟩

theorem takeArguments_joined_renamed :
    ∃ es args, entriesOf splitDirectives = .ok es ∧ es.length = 2 ∧
      Joins splitDirectives joinedDirectives ∧ args.skip = true ∧
      args.rename = some (.generated "size") ∧
      takeArguments MemberArguments.readers .none splitDirectives =
        .ok (some args, [inlineAttribute, inlineAttribute]) ∧
      takeArguments MemberArguments.readers .none joinedDirectives =
        .ok (some args, [inlineAttribute, inlineAttribute]) := by
  obtain ⟨es, read, length⟩ := exists_ok_of_toOption (x := entriesOf splitDirectives)
    (f := List.length) (b := 2) (by decide +kernel)
  obtain ⟨⟨found, rest⟩, taken, said⟩ := exists_ok_of_toOption
    (x := takeArguments MemberArguments.readers .none splitDirectives)
    (f := fun r => r.1.map fun args => (args.skip, args.rename))
    (b := some (true, some (.generated "size"))) (by decide +kernel)
  obtain ⟨args, rfl, pair⟩ := Option.map_eq_some_iff.1 said
  obtain ⟨skip, rename⟩ := Prod.mk.inj pair
  obtain ⟨-, attributes, -, alike, joinedBy⟩ :=
    takeArguments_joined MemberArguments.readers .none read
  have joins := joinedBy _ _ joinsLists_joinedDirectives
  obtain rfl := attributes _ _ taken
  have same := alike _ joins
  rw [taken] at same
  refine ⟨es, args, read, length, joins, skip, rename, taken, ?_⟩
  cases joined : takeArguments MemberArguments.readers .none joinedDirectives with
  | error refusal =>
    rw [joined] at same
    cases same
  | ok r =>
    rw [joined] at same
    cases same
    rfl

end SharedMembers
