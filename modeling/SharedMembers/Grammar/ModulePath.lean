import SharedMembers.Grammar.Parser

/-!
# Grammar of plain paths

Paths without arguments, as they name modules, macros and attributes.

* `modulePath`: names joined by double colons, keywords of paths included.
-/

namespace SharedMembers.Grammar

open SharedMembers.Parser

/-- A double colon that may be missing. -/
def leadingColons : Parser (Option Origin) := do
  if (← get).atOperator "::" then return some (← markAt "::") else return none

/-- A path without arguments. -/
def modulePath : Parser Path := do
  let leading ← leadingColons
  let c ← get
  if !(c.atName || c.atOneOf pathKeywords) then
    let _ ← ident
    return .plain leading []
  let segments ← loop do
    let i ← anyWord
    if (← get).atOperator "::" then
      let _ ← markAt "::"
      let c ← get
      if c.atName || c.atOneOf pathKeywords then return (Segment.plain i, true)
      complain (.reason "expected path segment after `::`")
    return (Segment.plain i, false)
  return .plain leading segments

end SharedMembers.Grammar
