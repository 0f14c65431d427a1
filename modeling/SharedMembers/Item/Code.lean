import SharedMembers.Item.Basic

/-!
# The code of items

Items are written as they were read, save for lists in angle brackets: empty ones are left out, and
in the others the lifetimes come first.

* `Item.code`: the code of an item.
* `Module.shell`: a module without its items.
* `Module.tokensAll_code`: the code of a module has its tokens.
-/

namespace SharedMembers

namespace Visibility

/-- The visibility as code. -/
def code : Visibility → Code
  | inherited => []
  | everywhere o => Code.wordAt o "pub"
  | restricted o within path =>
    Code.wordAt o "pub" ++
      Code.group .parenthesis none ((if within then Code.word "in" else []) ++ [.path path])

end Visibility

namespace Generics

/-- The list of the parameters. -/
def listCode (g : Generics) : Code :=
  if g.parameters.isEmpty then []
  else
    Code.operatorAt g.opened "<" ++ arranged Code.comma g.trailing g.parameters ++ Code.operator ">"

/-- The conditions. -/
def whereCode (g : Generics) : Code :=
  match g.conditions with
  | some (c :: cs) => Code.word "where" ++ c :: cs
  | _ => []

end Generics

namespace Field

/-- A field. -/
def code (f : Field) : Code :=
  f.attributes.flatMap Attribute.code ++ f.visibility.code ++
    (match f.name with
      | some i => Code.name i ++ Code.operator ":"
      | none => []) ++
    [.type f.type]

end Field

namespace Fields

/-- Fields in their brackets. -/
def code : Fields → Code
  | unit => []
  | named opened fields trailing =>
    Code.group .brace opened (separated Code.comma trailing (fields.map Field.code))
  | positional opened fields trailing =>
    Code.group .parenthesis opened (separated Code.comma trailing (fields.map Field.code))

end Fields

namespace StructItem

/-- A struct. -/
def code (s : StructItem) : Code :=
  s.attributes.flatMap Attribute.code ++ s.visibility.code ++ Code.wordAt s.keyword "struct" ++
    Code.name s.ident ++ s.generics.listCode ++
    match s.fields with
    | .unit => s.generics.whereCode ++ Code.operator ";"
    | .named .. => s.generics.whereCode ++ s.fields.code
    | .positional .. => s.fields.code ++ s.generics.whereCode ++ Code.operator ";"

end StructItem

namespace Variant

/-- A variant. -/
def code (v : Variant) : Code :=
  v.attributes.flatMap Attribute.code ++ Code.name v.ident ++ v.fields.code ++
    match v.discriminant with
    | some c => Code.operator "=" ++ c
    | none => []

end Variant

namespace EnumItem

/-- An enum. -/
def code (e : EnumItem) : Code :=
  e.attributes.flatMap Attribute.code ++ e.visibility.code ++ Code.wordAt e.keyword "enum" ++
    Code.name e.ident ++ e.generics.listCode ++ e.generics.whereCode ++
    Code.group .brace none (separated Code.comma e.trailing (e.variants.map Variant.code))

/-- Where the enum begins. -/
def start (e : EnumItem) : Origin :=
  startOf (Fragment.tokensAll e.code)

end EnumItem

namespace FnInput

/-- An input. -/
def code : FnInput → Code
  | self i =>
    i.attributes.flatMap Attribute.code ++
      (match i.reference with
        | some (o, l) => Code.operatorAt o "&" ++ (l.map Code.lifetime).getD []
        | none => []) ++
      (if i.mutable then Code.word "mut" else []) ++ Code.wordAt i.origin "self" ++
      match i.type with
      | some t => Code.operator ":" ++ [.type t]
      | none => []
  | typed attributes pattern type =>
    attributes.flatMap Attribute.code ++ pattern.code ++ Code.operator ":" ++ [.type type]

end FnInput

namespace FnHead

/-- The head of a function. -/
def code (h : FnHead) : Code :=
  Code.wordIf h.constant "const" ++ Code.wordIf h.asynchronous "async" ++
    Code.wordIf h.unchecked "unsafe" ++ h.foreign.getD [] ++ Code.wordAt h.keyword "fn" ++
    Code.name h.ident ++ h.generics.listCode ++
    Code.group .parenthesis none
      (separated Code.comma h.trailing (h.inputs.map FnInput.code) ++ h.variadic.getD []) ++
    (match h.output with
      | some t => Code.operator "->" ++ [.type t]
      | none => []) ++
    h.generics.whereCode

/-- Where the head begins. -/
def start (h : FnHead) : Origin :=
  startOf (Fragment.tokensAll h.code)

end FnHead

namespace Method

/-- A function of an implementation. -/
def code (m : Method) : Code :=
  outerCode m.attributes ++ m.visibility.code ++ Code.wordIf m.default "default" ++ m.head.code ++
    Code.group .brace none (innerCode m.attributes ++ m.body)

end Method

namespace ImplMember

/-- A member of an implementation. -/
def code : ImplMember → Code
  | method m => m.code
  | other c => c

end ImplMember

namespace ImplItem

/-- An implementation. -/
def code (i : ImplItem) : Code :=
  outerCode i.attributes ++ i.qualifiers ++ Code.wordAt i.keyword "impl" ++ i.generics.listCode ++
    (match i.trait with
      | some t =>
        (if t.negative then Code.operator "!" else []) ++ .path t.path :: Code.word "for"
      | none => []) ++
    .type i.self :: i.generics.whereCode ++
    Code.group .brace none (innerCode i.attributes ++ i.members.flatMap ImplMember.code)

end ImplItem

namespace Item

/-- An item. -/
def code : Item → Code
  | struct s => s.code
  | enum e => e.code
  | impl i => i.code
  | other _ _ c => c

/-- The tokens of an item. -/
def tokens (i : Item) : List Tree :=
  Fragment.tokensAll i.code

end Item

namespace Module

/-- A module whose items are the given tokens. -/
def tokensWith (m : Module) (items : List Tree) : List Tree :=
  Fragment.tokensAll
    (outerCode m.attributes ++ m.visibility.code ++ Code.wordIf m.unchecked "unsafe" ++
      Code.wordAt m.keyword "mod" ++ Code.name m.ident ++
      match m.items with
      | some _ => Code.group .brace none (innerCode m.attributes ++ Code.ofTokens items)
      | none => Code.operator ";")

/-- The tokens of a module. -/
def tokens (m : Module) : List Tree :=
  m.tokensWith ((m.items.getD []).flatMap Item.tokens)

/-- A module without its items. -/
def shell (m : Module) : List Tree :=
  m.tokensWith []

/-- Where the module begins. -/
def start (m : Module) : Origin :=
  startOf m.tokens

/-- The module as code. -/
def code (m : Module) : Code :=
  Code.ofTokens m.tokens

theorem tokensAll_code (m : Module) : Fragment.tokensAll m.code = m.tokens :=
  Code.tokensAll_ofTokens _

end Module

end SharedMembers
