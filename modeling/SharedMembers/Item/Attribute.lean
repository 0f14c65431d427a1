import SharedMembers.Type.Code

/-!
# Attributes

An attribute consists of a path and, perhaps, of arguments in brackets or a value. An inner one
stands inside of what it belongs to.

* `Attribute.code`: the attribute as it is written.
* `Attribute.start_eq`: an attribute begins at its mark.
-/

namespace SharedMembers

/-- What stands behind the path of an attribute. -/
inductive AttributeArguments where
  | nothing
  | list (delimiter : Delimiter) (opened closed : Origin) (tokens : List Tree)
  | value (code : Code)

/-- An attribute; `origin` is the place of its mark. -/
structure Attribute where
  origin : Origin
  inner : Bool
  path : Path
  arguments : AttributeArguments

namespace AttributeArguments

/-- The arguments as code. -/
def code : AttributeArguments → Code
  | nothing => []
  | list d opened closed tokens => [.group d opened closed [.skipped tokens]]
  | value c => Code.operator "=" ++ c

end AttributeArguments

namespace Attribute

/-- The attribute as code. -/
def code (a : Attribute) : Code :=
  Code.operatorAt a.origin "#" ++ (if a.inner then Code.operator "!" else []) ++
    Code.group .bracket none (.path a.path :: a.arguments.code)

/-- The path is the plain name. -/
def isNamed (a : Attribute) (name : String) : Bool :=
  a.path.isIdent name

/-- The tokens of an attribute. -/
def tokens (a : Attribute) : List Tree :=
  Fragment.tokensAll a.code

theorem start_eq (a : Attribute) : startOf a.tokens = a.origin := by
  simp [tokens, code, Code.operatorAt, Code.ofTokens, operatorTokens, Fragment.tokensAll,
    Fragment.tokens, startOf, Tree.origin]

end Attribute

/-- The outer ones of the attributes, as code. -/
def outerCode (attributes : List Attribute) : Code :=
  (attributes.filter (!·.inner)).flatMap Attribute.code

/-- The inner ones of the attributes, as code. -/
def innerCode (attributes : List Attribute) : Code :=
  (attributes.filter (·.inner)).flatMap Attribute.code

end SharedMembers
