import SharedMembers.Grammar.Reading

/-!
# Entries of directives

The attributes that direct the expansion hold a list of entries: literals, and paths that stand
alone, are given a value, or have a list of their own.

* `Entry.listOfTokens`: the entries in the brackets of an attribute.
* `Entry.name?`: what an entry is called.
-/

namespace SharedMembers

/-- An entry of a directive. -/
inductive Entry where
  | literal
  | word (path : Path)
  | value (path : Path) (value : Expression)
  | list (path : Path) (tokens : List Tree)

namespace Entry

/-- The name of a path: its segments, joined by double colons. -/
def pathName (p : Path) : String :=
  "::".intercalate (p.segments.map (·.ident.name))

/-- What the entry is called; a literal is called nothing. -/
def name? : Entry → Option String
  | literal => none
  | word p | value p _ | list p _ => some (pathName p)

end Entry

namespace Grammar

open SharedMembers.Parser

/-- An entry that begins with a path. -/
def pathEntry (g : Grammar) : Parser Entry := do
  let p ← attributePath
  let c ← get
  match c.rest with
  | .group _ body _ _ :: _ =>
    let _ ← take 1
    return .list p body
  | _ =>
    if c.atOperator "=" then
      let _ ← markAt "="
      return .value p (← attributeValue g)
    return .word p

/-- An entry. A truth value that is given a value is no literal. -/
def entry (g : Grammar) : Parser Entry := do
  let c ← get
  let named := c.atOneOf ["true", "false"] && (c.skip 1).atOperator "="
  if c.atLiteral && !named then
    let _ ← literal
    return .literal
  if c.atAnyWord || (c.atOperator "::" && (c.skip 2).atAnyWord) then pathEntry g
  else expected ["identifier or literal"]

/-- Entries with commas between them. -/
def entryList (g : Grammar) : Parser (List Entry) := do
  return (← commaSeparated (entry g)).1

end Grammar

/-- The entries in the brackets of an attribute. -/
def Entry.listOfTokens (tokens : List Tree) : Except Failure (List Entry) :=
  Grammar.read Grammar.entryList tokens

end SharedMembers
