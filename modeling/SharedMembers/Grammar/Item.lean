import SharedMembers.Grammar.Generics
import SharedMembers.Grammar.Statement

/-!
# Grammar of items

Structs, enums and implementations are understood; of other items only the names for types that
they introduce.

* `itemRule`: an item.
* `moduleItem`, `enumItem`: a module and an enum, attributes included.
-/

namespace SharedMembers.Grammar

open SharedMembers.Parser

/-- A macro's call may begin here. -/
def atCall (c : Cursor) : Bool :=
  c.atName || c.atOneOf ["self", "super", "crate"] || c.atOperator "::"

/-- A macro's call in the place of an item. In other brackets than braces a semicolon ends it. -/
def callItem : Parser Code := do
  let p ← modulePath
  let sign ← mark "!"
  let defined ← onlyIf (fun c => c.atName || c.atWord "try") do return Code.name (← anyWord)
  let braces := (← get).atGroup .brace
  let call ← skippedGroup
  let stop ← if braces then pure [] else mark ";"
  return .path p :: sign ++ defined ++ call ++ stop

/-- A macro's call in the place of a member. -/
def callMember : Parser Code := do
  let p ← modulePath
  let sign ← mark "!"
  let braces := (← get).atGroup .brace
  let call ← skippedGroup
  let stop ← if braces then pure [] else mark ";"
  return .path p :: sign ++ call ++ stop

/-- A name, or an underscore for none. -/
def nameOrUnderscore : Parser Code := do
  if (← get).atWord "_" then word "_"
  else if (← get).atName then name
  else expected ["identifier", "`_`"]

/-! ## Structs and enums -/

/-- A field with a name. The type may be a struct without a name. -/
def namedField (g : Grammar) : Parser Field := do
  let attributes ← outerAttributes g
  let v ← visibility
  let unnamed := (← get).atWord "_"
  let i ← if unnamed then anyWord else ident
  let _ ← markAt ":"
  let c ← get
  if unnamed && (c.atWord "struct" || (c.atWord "union" && (c.skip 1).atGroup .brace)) then
    if !(c.skip 1).atGroup .brace then expected ["curly braces"]
    let tokens ← take 2
    return ⟨attributes, v, some i, .unparsed tokens⟩
  return ⟨attributes, v, some i, ← g.ty⟩

/-- A field that is known by its position. -/
def positionalField (g : Grammar) : Parser Field := do
  let attributes ← outerAttributes g
  let v ← visibility
  return ⟨attributes, v, none, ← g.ty⟩

/-- Fields in braces. -/
def namedFields (g : Grammar) : Parser Fields := do
  let (opened, _, fields, trailing) ← inside .brace (commaSeparated (namedField g))
  return .named opened fields trailing

/-- Fields in parentheses. -/
def positionalFields (g : Grammar) : Parser Fields := do
  let (opened, _, fields, trailing) ← inside .parenthesis (commaSeparated (positionalField g))
  return .positional opened fields trailing

/-- A struct behind its attributes. -/
def structItem (attributes : List Attribute) (g : Grammar) : Parser StructItem := do
  let v ← visibility
  let keyword ← wordAt "struct"
  let i ← ident
  let parameters ← generics g
  let before ← conditions g
  let c ← get
  let item := fun (fields : Fields) (conditions : Option Code) =>
    (⟨attributes, v, keyword, i, { parameters with conditions := conditions }, fields⟩ : StructItem)
  if before.isNone && c.atGroup .parenthesis then
    let fields ← positionalFields g
    let after ← conditions g
    let _ ← markAt ";"
    return item fields after
  if c.atGroup .brace then return item (← namedFields g) before
  if c.atOperator ";" then
    let _ ← markAt ";"
    return item .unit before
  expected ["`where`", "parentheses", "curly braces", "`;`"]

/-- A variant of an enum. A visibility in front of it means nothing. -/
def variant (g : Grammar) : Parser Variant := do
  let attributes ← outerAttributes g
  let _ ← visibility
  let i ← ident
  let c ← get
  let fields ←
    if c.atGroup .brace then namedFields g
    else if c.atGroup .parenthesis then positionalFields g
    else pure .unit
  let discriminant ← if (← get).atOperator "=" then
      let _ ← markAt "="
      pure (some (← g.expressionCode))
    else pure none
  return ⟨attributes, i, fields, discriminant⟩

/-- An enum behind its attributes. -/
def enumBehind (attributes : List Attribute) (g : Grammar) : Parser EnumItem := do
  let v ← visibility
  let keyword ← wordAt "enum"
  let i ← ident
  let parameters ← generics g
  let conditions ← conditions g
  let (_, _, variants, trailing) ← inside .brace (commaSeparated (variant g))
  return ⟨attributes, v, keyword, i, { parameters with conditions := conditions }, variants,
    trailing⟩

/-- An enum. -/
def enumItem (g : Grammar) : Parser EnumItem := do
  enumBehind (← outerAttributes g) g

/-! ## Implementations -/

/-- Type parameters follow the keyword of an implementation, and not a path that begins with a type
in angle brackets. -/
def atParameters (c : Cursor) : Bool :=
  let second := c.skip 1
  let third := c.skip 2
  c.atOperator "<" &&
    (second.atOperator ">" || second.atOperator "#" ||
      ((second.atLifetime || second.atName) &&
        (third.atOperator ">" || third.atOperator "," ||
          (third.atOperator ":" && !third.atOperator "::") || third.atOperator "=")) ||
      second.atWord "const")

/-- The definition of a type among members: conditions stand behind it. -/
def typeMember (mayBeDefault : Bool) (g : Grammar) : Parser Code := do
  let v ← visibility
  let default ← if mayBeDefault then maybeWord "default" else pure []
  let front ← seq [word "type", name]
  let parameters ← generics g
  let bounds ← boundsBehindColon <|
    boundsUntil (fun c => c.atWord "where" || c.atOperator "=" || c.atOperator ";") g
  let definition ← onlyIf (·.atOperator "=") (seq [mark "=", g.tyCode])
  let conditions ← conditionsCode g
  let stop ← mark ";"
  return v.code ++ default ++ withBounds (front ++ parameters.listCode) bounds ++ definition ++
    conditions ++ stop

/-- A constant among members. -/
def constMember (g : Grammar) : Parser Code := do
  let front ← seq [word "const", nameOrUnderscore]
  let parameters ← generics g
  let rest ← seq [mark ":", g.tyCode,
    onlyIf (·.atOperator "=") (seq [mark "=", g.expressionCode]), conditionsCode g, mark ";"]
  return front ++ parameters.listCode ++ rest

/-- A function of an implementation behind its attributes; without a body it is not understood. -/
def methodMember (attributes : List Attribute) (g : Grammar) : Parser ImplMember := do
  let v ← visibility
  let default ← maybeWordAt "default"
  let head ← fnHead g
  if (← get).atOperator ";" then
    let stop ← mark ";"
    return .other (attributes.flatMap Attribute.code ++ v.code ++ Code.wordIf default "default" ++
      head.code ++ stop)
  let (_, _, inner, body) ← inside .brace do
    let inner ← innerAttributes g
    return (inner, ← g.statementsCode)
  return .method ⟨attributes ++ inner, v, default, head, body⟩

/-- A member of an implementation. -/
def implMember (g : Grammar) : Parser ImplMember := do
  let attributes ← outerAttributes g
  let front := attributes.flatMap Attribute.code
  let start ← get
  let v ← visibility
  let c ← get
  let isDefault := c.atWord "default" && !(c.skip 1).atOperator "!"
  let next := if isDefault then c.skip 1 else c
  if atFnHead next then
    set start
    methodMember attributes g
  else if next.atWord "const" then
    let default ← if isDefault then maybeWord "default" else pure []
    return .other (front ++ v.code ++ default ++ (← constMember g))
  else if next.atWord "type" then
    set start
    return .other (front ++ (← typeMember true g))
  else if !v.isWritten && !isDefault && atCall next then return .other (front ++ (← callMember))
  else
    expected ["`fn`", "`const`", "`type`", "identifier"]

/-- An implementation behind its attributes, or code that is not understood as one. -/
def implItem (attributes : List Attribute) (g : Grammar) : Parser Item := do
  let v ← visibility
  let qualifiers ← seq [maybeWord "default", maybeWord "unsafe"]
  let keyword ← wordAt "impl"
  let parameters ← if atParameters (← get) then generics g else pure .empty
  let c ← get
  let constant ← onlyIf
    (fun c => c.atWord "const" || (c.atOperator "?" && (c.skip 1).atWord "const"))
    (seq [maybeMark "?", word "const"])
  let negative := (← get).atOperator "!" && !((← get).skip 1).atGroup .brace
  let sign ← if negative then mark "!" else pure []
  let first ← g.ty
  let isFor := (← get).atWord "for"
  let trait := match first with
    | .path (.plain leading segments) => if isFor then some (Path.plain leading segments) else none
    | _ => none
  let self ← if isFor then
      let _ ← wordAt "for"
      g.ty
    else if negative then
      throw ⟨.reason "inherent impls cannot be negative", c.origin, false⟩
    else pure first
  let conditions ← conditions g
  let (_, _, inner, members) ← inside .brace do
    let inner ← innerAttributes g
    return (inner, ← toEnd (implMember g))
  let item : ImplItem := ⟨attributes ++ inner, qualifiers, keyword,
    { parameters with conditions := conditions }, trait.map fun p => ⟨negative, p⟩, self, members⟩
  if v.isWritten || !constant.isEmpty || (isFor && trait.isNone) then
    return .other .other []
      (outerCode attributes ++ v.code ++ qualifiers ++ Code.wordAt keyword "impl" ++
        parameters.listCode ++ constant ++ sign ++
        (if isFor then .type first :: Code.word "for" else []) ++
        .type self :: item.generics.whereCode ++
        Code.group .brace none (innerCode item.attributes ++ members.flatMap ImplMember.code))
  return .impl item

/-! ## Traits -/

/-- A function of a trait, with or without a body. -/
def traitFn (g : Grammar) : Parser Code := do
  let head ← fnHead g
  let c ← get
  if c.atGroup .brace then return head.code ++ (← attributedBlock g)
  if c.atOperator ";" then return head.code ++ (← mark ";")
  expected ["curly braces", "`;`"]

/-- A member of a trait. -/
def traitMember (g : Grammar) : Parser Code := do
  let attributes ← outerAttributesCode g
  let v ← visibility
  let default ← maybeWord "default"
  let front := attributes ++ v.code ++ default
  let c ← get
  if atFnHead c then return front ++ (← traitFn g)
  if c.atWord "const" then return front ++ (← constMember g)
  if c.atWord "type" then return front ++ (← typeMember false g)
  if !v.isWritten && default.isEmpty && atCall c then return front ++ (← callMember)
  expected ["`fn`", "`const`", "`type`", "identifier"]

/-- A trait or another name for one, behind its attributes. -/
def traitItem (attributes : Code) (g : Grammar) : Parser Item := do
  let v ← visibility
  let qualifiers ← seq [maybeWord "unsafe", maybeWord "auto"]
  let keyword ← word "trait"
  let i ← ident
  let parameters ← generics g
  let front := attributes ++ v.code ++ qualifiers ++ keyword ++ Code.name i ++ parameters.listCode
  let c ← get
  if c.atOperator "=" && qualifiers.isEmpty then
    let definition ← seq [mark "=",
      boundsUntil (fun c => c.atWord "where" || c.atOperator ";") g, conditionsCode g, mark ";"]
    return .other .other [i] (front ++ definition)
  if c.atGroup .brace || c.atOperator ":" || c.atWord "where" then
    let bounds ← boundsBehindColon <|
      boundsUntil (fun c => c.atWord "where" || c.atGroup .brace) g
    let conditions ← conditionsCode g
    let body ← enclosed .brace do
      let inner ← innerAttributesCode g
      return inner ++ (← toEnd (traitMember g)).flatten
    return .other .trait [i] (withBounds front bounds ++ conditions ++ body)
  expected ["curly braces", "`:`", "`where`", "`=`"]

/-! ## Imports -/

/-- One part of a list of imports, which may begin with a double colon at the root. -/
def importPart (root : Bool) (before : Option Ident) (g : Grammar) : Parser Imports := do
  if root && (← get).atOperator "::" then
    let colons ← mark "::"
    let rest : Imports ← g (.imports false before)
    return ⟨rest.names, colons ++ rest.code⟩
  g (.imports root before)

/-- What an import names: a name, perhaps another one for it, everything, or a list. The name
`self` stands for the one in front of the list. -/
def importsRule (root : Bool) (before : Option Ident) (g : Grammar) : Parser Imports := do
  let c ← get
  if c.atName || c.atOneOf ["self", "super", "crate", "try"] then
    let i ← anyWord
    let c ← get
    if c.atOperator "::" then
      let colons ← mark "::"
      let rest : Imports ← g (.imports false (some i))
      return ⟨rest.names, Code.name i ++ colons ++ rest.code⟩
    if c.atWord "as" then
      let sign ← word "as"
      if (← get).atWord "_" then return ⟨[], Code.name i ++ sign ++ (← word "_")⟩
      let other ← ident
      return ⟨[other], Code.name i ++ sign ++ Code.name other⟩
    return ⟨if i.name = "self" then before.toList else [i], Code.name i⟩
  if c.atOperator "*" then return ⟨[], ← mark "*"⟩
  if c.atGroup .brace then
    let (opened, closed, parts, trailing) ←
      inside .brace (commaSeparated (importPart root before g))
    return ⟨parts.flatMap Imports.names,
      [.group .brace opened closed (separated Code.comma trailing (parts.map Imports.code))]⟩
  expected ["identifier", "`self`", "`super`", "`crate`", "`try`", "`*`", "curly braces"]

/-- An import behind its attributes. -/
def useItem (attributes : Code) (g : Grammar) : Parser Item := do
  let v ← visibility
  let front ← seq [word "use", maybeMark "::"]
  let imports : Imports ← g (.imports (front.length = 1) none)
  let stop ← mark ";"
  return .other .imports imports.names (attributes ++ v.code ++ front ++ imports.code ++ stop)

/-- The import of a library behind its attributes. -/
def libraryItem (attributes : Code) : Parser Item := do
  let v ← visibility
  let front ← seq [word "extern", word "crate"]
  let i ← if (← get).atWord "self" then anyWord else ident
  if (← get).atWord "as" then
    let sign ← word "as"
    let none' := (← get).atWord "_"
    let other ← if none' then anyWord else ident
    let stop ← mark ";"
    return .other .imports (if none' then [] else [other])
      (attributes ++ v.code ++ front ++ Code.name i ++ sign ++ Code.name other ++ stop)
  let stop ← mark ";"
  return .other .imports [i] (attributes ++ v.code ++ front ++ Code.name i ++ stop)

/-! ## Foreign functions -/

/-- A member of a block of foreign things. -/
def foreignMember (g : Grammar) : Parser Code := do
  let attributes ← outerAttributesCode g
  let v ← visibility
  let front := attributes ++ v.code
  let c ← get
  let safe := c.atWord "safe"
  let behind := if safe then c.skip 1 else c
  if atFnHead behind then
    let qualifier ← maybeWord "safe"
    let head ← fnHead g
    if (← get).atGroup .brace then
      return front ++ qualifier ++ head.code ++ (← attributedBlock g)
    return front ++ qualifier ++ head.code ++ (← mark ";")
  if c.atWord "static" || (c.atOneOf ["unsafe", "safe"] && (c.skip 1).atWord "static") then
    let code ← seq [maybeWord "unsafe", maybeWord "safe", word "static", maybeWord "mut", name,
      mark ":", g.tyCode, onlyIf (·.atOperator "=") (seq [mark "=", g.expressionCode]), mark ";"]
    return front ++ code
  if c.atWord "type" then return front ++ (← typeMember false g)
  if !v.isWritten && atCall c then return front ++ (← callMember)
  expected ["`fn`", "`static`", "`type`", "identifier"]

/-- A block of foreign things behind its attributes. -/
def foreignItem (attributes : Code) (g : Grammar) : Parser Item := do
  let front ← seq [maybeWord "unsafe", callConvention]
  let body ← enclosed .brace do
    let inner ← innerAttributesCode g
    return inner ++ (← toEnd (foreignMember g)).flatten
  return .other .other [] (attributes ++ front ++ body)

/-! ## Other items -/

/-- A function behind its attributes. -/
def fnItem (attributes : Code) (g : Grammar) : Parser Item := do
  let v ← visibility
  let head ← fnHead g
  let front := attributes ++ v.code ++ head.code
  if (← get).atOperator ";" then return .other .other [] (front ++ (← mark ";"))
  return .other .other [] (front ++ (← attributedBlock g))

/-- A variable behind its attributes. -/
def staticItem (attributes : Code) (g : Grammar) : Parser Item := do
  let v ← visibility
  let code ← seq [word "static", maybeWord "mut", name,
    onlyIf (fun c => !c.atOperator "=") (seq [mark ":", g.tyCode]),
    onlyIf (fun c => !c.atOperator ";") (seq [mark "=", g.expressionCode]), mark ";"]
  return .other .other [] (attributes ++ v.code ++ code)

/-- A constant behind its attributes. -/
def constItem (attributes : Code) (g : Grammar) : Parser Item := do
  let v ← visibility
  return .other .other [] (attributes ++ v.code ++ (← constMember g))

/-- Another name for a type, behind its attributes: conditions stand in front of the type. -/
def aliasItem (attributes : Code) (g : Grammar) : Parser Item := do
  let v ← visibility
  let keyword ← word "type"
  let i ← ident
  let parameters ← generics g
  let open' := (← get).atOperator ":"
  let bounds ← boundsBehindColon <|
    boundsUntil (fun c => c.atWord "where" || c.atOperator "=" || c.atOperator ";") g
  let conditions ← conditionsCode g
  let definition ← onlyIf (·.atOperator "=") (seq [mark "=", g.tyCode])
  let stop ← mark ";"
  let code := withBounds (attributes ++ v.code ++ keyword ++ Code.name i ++ parameters.listCode)
    bounds ++ conditions ++ definition ++ stop
  if definition.isEmpty || open' then return .other .other [] code
  return .other .alias [i] code

/-- A union behind its attributes. -/
def unionItem (attributes : Code) (g : Grammar) : Parser Item := do
  let v ← visibility
  let keyword ← word "union"
  let i ← ident
  let parameters ← generics g
  let conditions ← conditionsCode g
  let fields ← namedFields g
  return .other .union [i]
    (attributes ++ v.code ++ keyword ++ Code.name i ++ parameters.listCode ++ conditions ++
      fields.code)

/-- The definition of a macro behind its attributes. -/
def definitionItem (attributes : Code) : Parser Item := do
  let v ← visibility
  let front ← seq [word "macro", name, onlyIf (·.atGroup .parenthesis) skippedGroup]
  if !(← get).atGroup .brace then expected ["curly braces"]
  return .other .other [] (attributes ++ v.code ++ front ++ (← skippedGroup))

/-- A module behind its attributes. -/
def moduleBehind (attributes : List Attribute) (g : Grammar) : Parser Module := do
  let v ← visibility
  let unchecked ← maybeWordAt "unsafe"
  let keyword ← wordAt "mod"
  let i ← if (← get).atWord "try" then anyWord else ident
  let c ← get
  if c.atOperator ";" then
    let _ ← markAt ";"
    return ⟨attributes, v, unchecked, keyword, i, none⟩
  if c.atGroup .brace then
    let (_, _, inner, items) ← inside .brace do
      let inner ← innerAttributes g
      let items : List Item ← toEnd (g .item)
      return (inner, items)
    return ⟨attributes ++ inner, v, unchecked, keyword, i, some items⟩
  expected ["`;`", "curly braces"]

/-- A module. -/
def moduleItem (g : Grammar) : Parser Module := do
  moduleBehind (← outerAttributes g) g

/-- An item. -/
def itemRule (g : Grammar) : Parser Item := do
  let attributes ← outerAttributes g
  let code := attributes.flatMap Attribute.code
  let start ← get
  let v ← visibility
  let c ← get
  let next := c.skip 1
  set start
  if atFnHead c then fnItem code g
  else if c.atWord "extern" then
    if next.atWord "crate" then libraryItem code
    else if v.isWritten then
      set c
      expected ["`fn`"]
    else foreignItem code g
  else if c.atWord "use" then useItem code g
  else if c.atWord "static" then staticItem code g
  else if c.atWord "const" then constItem code g
  else if c.atWord "trait" || (c.atWord "auto" && next.atWord "trait") ||
      (c.atWord "unsafe" &&
        (next.atWord "trait" || (next.atWord "auto" && (next.skip 1).atWord "trait"))) then
    traitItem code g
  else if c.atWord "impl" || (c.atWord "unsafe" && next.atWord "impl") ||
      (c.atWord "default" && !next.atOperator "!") then
    implItem attributes g
  else if c.atWord "unsafe" && next.atWord "extern" then
    if v.isWritten then
      set c
      expected ["`fn`"]
    else foreignItem code g
  else if c.atWord "mod" || (c.atWord "unsafe" && next.atWord "mod") then
    let m ← moduleBehind attributes g
    return .other .module [m.ident] m.code
  else if c.atWord "type" then aliasItem code g
  else if c.atWord "struct" then return .struct (← structItem attributes g)
  else if c.atWord "enum" then return .enum (← enumBehind attributes g)
  else if c.atWord "union" && next.atName then unionItem code g
  else if c.atWord "macro" then definitionItem code
  else if !v.isWritten && atCall c then return .other .other [] (code ++ (← callItem))
  else
    set c
    expected []

end SharedMembers.Grammar
