import SharedMembers.Proofs.Outcomes
import SharedMembers.Directive.Arguments

/-!
# Directives as they are written

The entries that mean something to the expansion are plain: a name, a name with a list, and a name
with a value that is a name or a literal. A plain entry is read alike wherever it stands in its
list, so a list of such entries is read entry by entry.

Results:
* `commaSeparated_listed`: a list is read part by part if each part is read up to its comma.
* `PlainEntry.exists_reads`: so a plain entry is read.
* `Attribute.Holds.entries_eq`: the entries of an attribute are those of the parts of its list.
-/

namespace SharedMembers

/-! ## Running parsers -/

namespace Parser

variable {α β : Type}

@[simp] theorem bind_apply (p : Parser α) (f : α → Parser β) (c : Cursor) :
    (p >>= f) c = (p c).bind fun r => f r.1 r.2 := rfl

theorem bind_of_ok {p : Parser α} {f : α → Parser β} {c c' : Cursor} {a : α}
    (h : p c = .ok (a, c')) : (p >>= f) c = f a c' := by
  rw [bind_apply, h]
  rfl

@[simp] theorem map_apply (f : α → β) (p : Parser α) (c : Cursor) :
    (f <$> p) c = (p c).map fun r => (f r.1, r.2) := rfl

@[simp] theorem pure_apply (a : α) (c : Cursor) : (pure a : Parser α) c = .ok (a, c) := rfl

@[simp] theorem get_apply (c : Cursor) : (get : Parser Cursor) c = .ok (c, c) := rfl

@[simp] theorem ok_bind (a : α) (f : α → Except Failure β) : (Except.ok a).bind f = f a := rfl

@[simp] theorem map_ok (a : α) (f : α → β) :
    (Except.ok a : Except Failure α).map f = .ok (f a) := rfl

@[simp] theorem take_one_apply (t : Tree) (rest : List Tree) (close : Origin) :
    take 1 ⟨t :: rest, close⟩ = .ok ([t], ⟨rest, close⟩) := rfl

end Parser

/-! ## Looking ahead -/

/-- What was read ends here: nothing follows, or a comma. -/
inductive Ends : List Tree → Prop where
  | nothing : Ends []
  | comma (joint : Bool) (o : Origin) (rest : List Tree) : Ends (.punct ',' joint o :: rest)

section

variable {rest : List Tree} {close : Origin}

theorem Ends.atOperator (ends : Ends rest) {text : String} (other : text.toList.head? ≠ some ',') :
    (⟨rest, close⟩ : Cursor).atOperator text = false := by
  rw [Cursor.atOperator]
  cases chars : text.toList with
  | nil => rfl
  | cons c cs =>
    rw [chars] at other
    have char : c ≠ ',' := fun same => other (congrArg some same)
    rcases ends with _ | ⟨_ | _, o, rest⟩ <;> cases cs <;> simp [beginsWith, char]

theorem Ends.word? (ends : Ends rest) : (⟨rest, close⟩ : Cursor).word? = none := by
  cases ends <;> rfl

theorem Ends.atGroup (ends : Ends rest) (d : Delimiter) :
    (⟨rest, close⟩ : Cursor).atGroup d = false := by
  cases ends <;> rfl

/-- Operators begin with punctuation characters. -/
theorem beginsWith_eq_false {t : Tree} (other : ∀ c joint o, t ≠ .punct c joint o)
    (cs : List Char) (ts : List Tree) : beginsWith cs (t :: ts) = false := by
  cases t with
  | punct c joint o => exact absurd rfl (other c joint o)
  | _ =>
    cases cs with
    | nil => rfl
    | cons c cs => cases cs <;> rfl

@[simp] theorem atOperator_word (text name : String) (o : Origin) :
    (⟨.word name o :: rest, close⟩ : Cursor).atOperator text = false :=
  beginsWith_eq_false (by simp) _ _

@[simp] theorem atOperator_literal (text spelling : String) (o : Origin) :
    (⟨.literal spelling o :: rest, close⟩ : Cursor).atOperator text = false :=
  beginsWith_eq_false (by simp) _ _

@[simp] theorem atOperator_group (text : String) (d : Delimiter) (body : List Tree) (o o' : Origin) :
    (⟨.group d body o o' :: rest, close⟩ : Cursor).atOperator text = false :=
  beginsWith_eq_false (by simp) _ _

end

/-! ## Lists -/

/-- The parts as they are written in a list, each but the last with a comma behind it. The last may
have one. -/
inductive Listed : List (List Tree) → List Tree → Prop where
  | nothing : Listed [] []
  | last (part : List Tree) : Listed [part] part
  | comma (part : List Tree) (joint : Bool) (o : Origin) {parts : List (List Tree)}
      {tokens : List Tree} (rest : Listed parts tokens) :
      Listed (part :: parts) (part ++ .punct ',' joint o :: tokens)

section

variable {α : Type} {p : Parser α} {close : Origin} {parts : List (List Tree)} {tokens : List Tree}

/-- The part is read as the value wherever it stands in a list. -/
def ReadsBy (p : Parser α) (close : Origin) (part : List Tree) (a : α) : Prop :=
  part ≠ [] ∧ ∀ rest, Ends rest → p ⟨part ++ rest, close⟩ = .ok (a, ⟨rest, close⟩)

/-- A list that is read part by part is at least as long as it has parts. -/
theorem Listed.length_le {as : List α} (listed : Listed parts tokens)
    (reads : List.Forall₂ (ReadsBy p close) parts as) : parts.length ≤ tokens.length := by
  induction listed generalizing as with
  | nothing => exact Nat.le_refl 0
  | last part =>
    obtain ⟨a, _, read, -, -⟩ := List.forall₂_cons_left_iff.1 reads
    exact List.length_pos_iff.2 read.1
  | comma part joint o rest ih =>
    obtain ⟨a, as, -, later, -⟩ := List.forall₂_cons_left_iff.1 reads
    have shorter := ih later
    simp only [List.length_cons, List.length_append]
    omega

theorem Listed.ne_nil {as : List α} (listed : Listed parts tokens)
    (reads : List.Forall₂ (ReadsBy p close) parts as) (some : parts ≠ []) : tokens ≠ [] :=
  List.length_pos_iff.1 (Nat.lt_of_lt_of_le (List.length_pos_iff.2 some) (listed.length_le reads))

/-- One part of a list with the comma behind it, and whether there is more. -/
def listRound (p : Parser α) : Parser ((α × Bool) × Bool) := do
  let a ← p
  if (← get).atEnd then return ((a, false), false)
  let _ ← Parser.markAt ","
  return ((a, true), !(← get).atEnd)

theorem listRound_comma {part : List Tree} {a : α} (read : ReadsBy p close part a) (joint : Bool)
    (o : Origin) : listRound p ⟨part ++ .punct ',' joint o :: tokens, close⟩ =
      .ok (((a, true), !tokens.isEmpty), ⟨tokens, close⟩) := by
  have mark : Parser.markAt "," ⟨.punct ',' joint o :: tokens, close⟩ =
    .ok (o, ⟨tokens, close⟩) := rfl
  simp [listRound, read.2 _ (.comma joint o tokens), mark, Cursor.atEnd]

theorem rounds_listed {as : List α} (listed : Listed parts tokens)
    (reads : List.Forall₂ (ReadsBy p close) parts as) (some : parts ≠ []) {n : Nat}
    (enough : parts.length ≤ n) :
    ∃ read, Parser.rounds (listRound p) n ⟨tokens, close⟩ = .ok (read, ⟨[], close⟩) ∧
      read.map (·.1) = as := by
  induction listed generalizing as n with
  | nothing => exact absurd rfl some
  | last part =>
    obtain ⟨n, rfl⟩ := Nat.exists_eq_add_of_le' enough
    obtain ⟨a, _, ⟨-, read⟩, done, rfl⟩ := List.forall₂_cons_left_iff.1 reads
    obtain rfl := List.forall₂_nil_left_iff.1 done
    have read := read [] .nothing
    rw [List.append_nil] at read
    exact ⟨[(a, false)], by simp [Parser.rounds, listRound, read, Cursor.atEnd], rfl⟩
  | @comma part joint o parts tokens rest ih =>
    obtain ⟨n, rfl⟩ := Nat.exists_eq_add_of_le' (Nat.le_of_add_left_le enough)
    obtain ⟨a, as, read, later, rfl⟩ := List.forall₂_cons_left_iff.1 reads
    have round : listRound p ⟨part ++ .punct ',' joint o :: tokens, close⟩ =
      .ok (((a, true), !tokens.isEmpty), ⟨tokens, close⟩) := listRound_comma read joint o
    by_cases more : parts = []
    · subst more
      obtain rfl := List.forall₂_nil_left_iff.1 later
      cases rest
      exact ⟨[(a, true)], by simp [Parser.rounds, round], rfl⟩
    · obtain ⟨others, run, values⟩ := ih later more (n := n) (by simpa using enough)
      have nonempty : tokens.isEmpty = false :=
        List.isEmpty_eq_false_iff.2 (rest.ne_nil later more)
      refine ⟨(a, true) :: others, ?_, by rw [List.map_cons, values]⟩
      simp [Parser.rounds, round, nonempty, run]

/-- A list is read part by part. -/
theorem commaSeparated_listed {as : List α} (listed : Listed parts tokens)
    (reads : List.Forall₂ (ReadsBy p close) parts as) :
    ∃ trailing, Parser.commaSeparated p ⟨tokens, close⟩ = .ok ((as, trailing), ⟨[], close⟩) := by
  by_cases some : parts = []
  · subst some
    obtain rfl := List.forall₂_nil_left_iff.1 reads
    cases listed
    exact ⟨false, rfl⟩
  · obtain ⟨read, run, values⟩ := rounds_listed listed reads some
      (Nat.le_succ_of_le (listed.length_le reads))
    have nonempty : (⟨tokens, close⟩ : Cursor).atEnd = false :=
      List.isEmpty_eq_false_iff.2 (listed.ne_nil reads some)
    have looped : Parser.loop (listRound p) ⟨tokens, close⟩ = .ok (read, ⟨[], close⟩) := run
    refine ⟨(read.getLast?.map (·.2)).getD false, ?_⟩
    show (if (⟨tokens, close⟩ : Cursor).atEnd then pure ([], false) else do
      let read ← Parser.loop (listRound p)
      return (read.map (·.1), (read.getLast?.map (·.2)).getD false) : Parser (List α × Bool)) _ = _
    simp [nonempty, looped, values]

end

/-! ## Entries -/

section

open Grammar

variable {g : Grammar} {name : String} {o close : Origin} {rest : List Tree}

/-- A name is read as the path of an entry if no double colon follows. -/
theorem attributePath_word (h : name ∉ keywords)
    (stop : (⟨rest, close⟩ : Cursor).atOperator "::" = false) :
    attributePath ⟨.word name o :: rest, close⟩ = .ok (.ofIdent ⟨name, o⟩, ⟨rest, close⟩) := by
  have other : name ≠ "unsafe" := (ne_of_mem_of_not_mem (by decide) h).symm
  simp [attributePath, modulePath, leadingColons, Parser.loop, Parser.rounds, Parser.anyWord,
    Cursor.atWord, Cursor.word?, Cursor.atName, Cursor.origin, Tree.origin, h, other, stop,
    Path.ofIdent]

/-! ### Values -/

/-- Nothing takes an operand further that ends. -/
theorem trailed_of_ends (e : Expression) (ends : Ends rest) :
    trailed e g ⟨rest, close⟩ = .ok (e, ⟨rest, close⟩) := by
  have point : (⟨rest, close⟩ : Cursor).atOperator "." = false := ends.atOperator (by decide)
  have question : (⟨rest, close⟩ : Cursor).atOperator "?" = false := ends.atOperator (by decide)
  simp [trailed, trailers, ends.atGroup, point, question]

/-- No operator follows an operand that ends. -/
theorem operationRule_of_ends (e : Expression) (ends : Ends rest) :
    operationRule true .jump e g ⟨rest, close⟩ = .ok (e, ⟨rest, close⟩) := by
  have operator : binaryOperator? ⟨rest, close⟩ = none := by
    refine List.find?_eq_none.2 fun op mem => ?_
    have other : ∀ op ∈ binaryOperators, op.1.toList.head? ≠ some ',' := by decide +kernel
    exact Bool.eq_false_iff.1 (ends.atOperator (other op mem))
  have equals : (⟨rest, close⟩ : Cursor).atOperator "=" = false := ends.atOperator (by decide)
  have dots : (⟨rest, close⟩ : Cursor).atOperator ".." = false := ends.atOperator (by decide)
  cases range : e.isRange <;>
    simp [operationRule, operations, operationStep, range, operator, atAssignment, equals, dots,
      Cursor.atWord, ends.word?]

/-- An atom that ends is an expression, if no sign or attribute stands in front of it. -/
theorem expression_of_atom {n : Nat} {c : Cursor} {e : Expression} (ends : Ends rest)
    (unsigned : ∀ text, c.atOperator text = false)
    (read : atom true (ofDepth n) c = .ok (e, ⟨rest, close⟩)) :
    ofDepth (n + 2) (.expression true) c = .ok (e, ⟨rest, close⟩) := by
  have operand : ofDepth (n + 1) (.operand true) c = .ok (e, ⟨rest, close⟩) := by
    show operandRule true (ofDepth n) c = _
    simp [operandRule, outerAttributesCode, outerAttributes, Parser.many, unsigned, read,
      trailed_of_ends e ends, Expression.behind]
    rfl
  have operation : ofDepth (n + 1) (.operation true .jump e) ⟨rest, close⟩ =
      .ok (e, ⟨rest, close⟩) :=
    operationRule_of_ends e ends
  show expressionRule true (ofDepth (n + 1)) c = _
  unfold expressionRule
  exact (Parser.bind_of_ok operand).trans operation

theorem atom_literal (spelling : String) :
    atom true g ⟨.literal spelling o :: rest, close⟩ =
      .ok (⟨.literal [.literal spelling o], Code.ofTokens [.literal spelling o]⟩, ⟨rest, close⟩) := by
  simp [atom, Parser.literal, Cursor.atLiteral]

theorem atom_word (h : name ∉ keywords) (ends : Ends rest) :
    atom true g ⟨.word name o :: rest, close⟩ =
      .ok (⟨.path (.ofIdent ⟨name, o⟩), [.path (.ofIdent ⟨name, o⟩)]⟩, ⟨rest, close⟩) := by
  have ne : ∀ k ∈ keywords, name ≠ k := fun k hk => (ne_of_mem_of_not_mem hk h).symm
  have colons : (⟨rest, close⟩ : Cursor).atOperator "::" = false := ends.atOperator (by decide)
  have bang : (⟨rest, close⟩ : Cursor).atOperator "!" = false := ends.atOperator (by decide)
  have hash : (⟨rest, close⟩ : Cursor).atOperator "#" = false := ends.atOperator (by decide)
  have segment : segment true g ⟨.word name o :: rest, close⟩ =
      .ok (.plain ⟨name, o⟩, ⟨rest, close⟩) := by
    simp [Grammar.segment, Parser.ident, Cursor.atOneOf, Cursor.atWord, Cursor.word?,
      Cursor.origin, Tree.origin, h, colons, ne "super" (by decide), ne "self" (by decide),
      ne "crate" (by decide), ne "try" (by decide), ne "Self" (by decide)]
  have path : qualifiablePath true g ⟨.word name o :: rest, close⟩ =
      .ok (.ofIdent ⟨name, o⟩, ⟨rest, close⟩) := by
    simp [qualifiablePath, Grammar.path, leadingColons, segment, Parser.many, colons, Path.ofIdent]
  have expression : pathExpression true g ⟨.word name o :: rest, close⟩ =
      .ok (⟨.path (.ofIdent ⟨name, o⟩), [.path (.ofIdent ⟨name, o⟩)]⟩, ⟨rest, close⟩) := by
    simp [pathExpression, path, bang, ends.atGroup]
  simp [atom, atClosure, atIntroduced, Cursor.atPath, Cursor.atName, Cursor.atLiteral,
    Cursor.atWord, Cursor.word?, Cursor.skip, expression, h, hash, ne "true" (by decide),
    ne "false" (by decide), ne "async" (by decide), ne "move" (by decide), ne "for" (by decide),
    ne "const" (by decide), ne "static" (by decide)]

/-! ### Plain entries -/

/-- The tokens of a plain entry: a literal, a name, a name with a list in any brackets, and a name
with a value that is a name or a literal. -/
inductive PlainEntry : List Tree → Prop where
  | literal (text : String) (o : Origin) : PlainEntry [.literal text o]
  | word {name : String} (h : name ∉ keywords) (o : Origin) : PlainEntry [.word name o]
  | list {name : String} (h : name ∉ keywords) (o : Origin) (d : Delimiter) (body : List Tree)
      (opened closed : Origin) : PlainEntry [.word name o, .group d body opened closed]
  | named {name value : String} (h : name ∉ keywords) (h' : value ∉ keywords) (joint : Bool)
      (o o' o'' : Origin) : PlainEntry [.word name o, .punct '=' joint o', .word value o'']
  | valued {name : String} (h : name ∉ keywords) (text : String) (joint : Bool) (o o' o'' : Origin) :
      PlainEntry [.word name o, .punct '=' joint o', .literal text o'']

/-- The tokens are read as the entry wherever they stand in a list, how deep the grammar may be. -/
def Reads (part : List Tree) (e : Entry) : Prop :=
  ∀ n close, ReadsBy (entry (ofDepth (n + 2))) close part e

/-- An entry that begins with a name is what comes behind the name. -/
theorem entry_word (h : name ∉ keywords) {g : Grammar} :
    entry g ⟨.word name o :: rest, close⟩ = pathEntry g ⟨.word name o :: rest, close⟩ := by
  have yes : name ≠ "true" := (ne_of_mem_of_not_mem (by decide) h).symm
  have no : name ≠ "false" := (ne_of_mem_of_not_mem (by decide) h).symm
  simp [entry, Cursor.atLiteral, Cursor.atAnyWord, Cursor.atOneOf, Cursor.word?, yes, no]

/-- An entry with a value is read if the value is. -/
theorem entry_value {e : Expression} {t : Tree} {joint : Bool} {o' : Origin} (h : name ∉ keywords)
    (read : attributeValue g ⟨t :: rest, close⟩ = .ok (e, ⟨rest, close⟩)) :
    entry g ⟨.word name o :: .punct '=' joint o' :: t :: rest, close⟩ =
      .ok (.value (.ofIdent ⟨name, o⟩) e, ⟨rest, close⟩) := by
  have equals : (⟨.punct '=' joint o' :: t :: rest, close⟩ : Cursor).atOperator "=" = true := rfl
  have path : attributePath ⟨.word name o :: .punct '=' joint o' :: t :: rest, close⟩ =
      .ok (.ofIdent ⟨name, o⟩, ⟨.punct '=' joint o' :: t :: rest, close⟩) :=
    attributePath_word h (by cases joint <;> rfl)
  have mark : Parser.markAt "=" ⟨.punct '=' joint o' :: t :: rest, close⟩ =
      .ok (o', ⟨t :: rest, close⟩) := rfl
  rw [entry_word h]
  simp [pathEntry, path, equals, mark, read]

theorem PlainEntry.exists_reads {part : List Tree} (h : PlainEntry part) : ∃ e, Reads part e := by
  cases h with
  | literal text o =>
    refine ⟨.literal, fun n close => ⟨by simp, fun rest ends => ?_⟩⟩
    simp [entry, Parser.literal, Cursor.atLiteral, Cursor.atOneOf, Cursor.word?]
  | @word name h o =>
    refine ⟨.word (.ofIdent ⟨name, o⟩), fun n close => ⟨by simp, fun rest ends => ?_⟩⟩
    have equals : (⟨rest, close⟩ : Cursor).atOperator "=" = false := ends.atOperator (by decide)
    have colons : (⟨rest, close⟩ : Cursor).atOperator "::" = false := ends.atOperator (by decide)
    have path := attributePath_word (o := o) h colons
    rw [List.singleton_append, entry_word h]
    cases ends <;> simp [pathEntry, path, equals]
  | @list name h o d body opened closed =>
    refine ⟨.list (.ofIdent ⟨name, o⟩) body, fun n close => ⟨by simp, fun rest ends => ?_⟩⟩
    have path : attributePath ⟨.word name o :: .group d body opened closed :: rest, close⟩ =
        .ok (.ofIdent ⟨name, o⟩, ⟨.group d body opened closed :: rest, close⟩) :=
      attributePath_word h (atOperator_group "::" d body opened closed)
    rw [List.cons_append, List.singleton_append, entry_word h]
    simp [pathEntry, path]
  | @named name value h h' joint o o' o'' =>
    refine ⟨.value (.ofIdent ⟨name, o⟩)
      ⟨.path (.ofIdent ⟨value, o''⟩), [.path (.ofIdent ⟨value, o''⟩)]⟩,
      fun n close => ⟨by simp, fun rest ends => entry_value h ?_⟩⟩
    have yes : value ≠ "true" := (ne_of_mem_of_not_mem (by decide) h').symm
    have no : value ≠ "false" := (ne_of_mem_of_not_mem (by decide) h').symm
    have atom : atom true (ofDepth n) ⟨.word value o'' :: rest, close⟩ = _ := atom_word h' ends
    have read := expression_of_atom ends (fun text => atOperator_word text value o'') atom
    simp [attributeValue, Cursor.atLiteral, yes, no, read]
    rfl
  | @valued name h text joint o o' o'' =>
    refine ⟨.value (.ofIdent ⟨name, o⟩)
      ⟨.literal [.literal text o''], Code.ofTokens [.literal text o'']⟩,
      fun n close => ⟨by simp, fun rest ends => entry_value h ?_⟩⟩
    have atom : atom true (ofDepth n) ⟨.literal text o'' :: rest, close⟩ = _ := atom_literal text
    have read := expression_of_atom ends (fun t => atOperator_literal t text o'') atom
    -- At the end a literal is taken as it is, in front of a comma as an expression.
    cases ends with
    | nothing =>
      simp [attributeValue, Cursor.atLiteral, Cursor.skip, Cursor.atEnd, Parser.literal]
    | comma joint' o' rest =>
      simp [attributeValue, Cursor.atLiteral, Cursor.skip, Cursor.atEnd, read]
      rfl

end

/-! ## Directives -/

/-- The attribute holds a list of the parts. Without a list it holds none. -/
inductive Attribute.Holds (a : Attribute) : List (List Tree) → Prop where
  | nothing (h : a.arguments = .nothing) : a.Holds []
  | list {d : Delimiter} {opened closed : Origin} {tokens : List Tree}
      {parts : List (List Tree)} (h : a.arguments = .list d opened closed tokens)
      (listed : Listed parts tokens) : a.Holds parts

/-- A list of tokens is read entry by entry. -/
theorem listOfTokens_listed {parts : List (List Tree)} {tokens : List Tree} {es : List Entry}
    (listed : Listed parts tokens) (reads : List.Forall₂ Reads parts es) :
    Entry.listOfTokens tokens = .ok es := by
  obtain ⟨trailing, read⟩ := commaSeparated_listed listed
    (reads.imp fun part e read => read (8 * Tree.sizeAll tokens + 14) none)
  have list : Grammar.entryList (Grammar.deepEnough tokens) ⟨tokens, none⟩ =
      .ok (es, ⟨[], none⟩) := by
    show (Prod.fst <$> Parser.commaSeparated (Grammar.entry (Grammar.deepEnough tokens)))
      ⟨tokens, none⟩ = _
    rw [Parser.map_apply, Grammar.deepEnough, read]
    rfl
  rw [Entry.listOfTokens, Grammar.read, Parser.run, list]
  rfl

/-- The entries of an attribute are those of its parts. -/
theorem Attribute.Holds.entries_eq {a : Attribute} {parts : List (List Tree)} {es : List Entry}
    (h : a.Holds parts) (reads : List.Forall₂ Reads parts es) : a.entries = .ok es := by
  cases h with
  | nothing h =>
    obtain rfl := List.forall₂_nil_left_iff.1 reads
    rw [Attribute.entries, h]
  | list h listed =>
    rw [Attribute.entries, h]
    dsimp only
    rw [listOfTokens_listed listed reads]

end SharedMembers
