import SharedMembers.Directive.Entry
import SharedMembers.Text.Similarity

/-!
# Problems with entries

What can be wrong with the entries of a directive, and the words for it.

* `Problem.message`: one problem.
* `Problem.report`: several problems; a single one speaks for itself.
-/

namespace SharedMembers

/-- What is wrong with an entry of a directive. -/
inductive Problem where
  /-- The entry is a literal. -/
  | literalEntry
  /-- The name is not known, but perhaps close to one that is. -/
  | unknown (name : String) (suggestion : Option String)
  /-- The entry was there before. -/
  | duplicate (name : String)
  /-- The entry called `name` does not take this form. -/
  | form (found : String) (name : String)
  /-- The entry called `name` does not take this kind of value. -/
  | kind (found : String) (name : String)
  /-- The entry called `name` does not take this value. -/
  | value (text : String) (name : String)
  /-- The list of the entry called `name` cannot be read. -/
  | unreadable (failure : Failure) (name : String)

namespace Problem

/-- A problem in words. -/
def message : Problem → String
  | literalEntry => "Unexpected meta-item format `literal`"
  | unknown name none => "Unknown field: `" ++ name ++ "`"
  | unknown name (some other) =>
    "Unknown field: `" ++ name ++ "`. Did you mean `" ++ other ++ "`?"
  | duplicate name => "Duplicate field `" ++ name ++ "`"
  | .form found name => "Unexpected meta-item format `" ++ found ++ "` at " ++ name
  | .kind found name => "Unexpected type `" ++ found ++ "` at " ++ name
  | value text name => "Unknown literal value `" ++ text ++ "` at " ++ name
  | unreadable f name => f.message ++ " at " ++ name

/-- Problems in words. -/
def report : List Problem → String
  | [p] => p.message
  | ps => "Multiple errors: (" ++ ", ".intercalate (ps.map message) ++ ")"

theorem report_singleton (p : Problem) : report [p] = p.message := rfl

end Problem

/-! ## Kinds of values -/

/-- What a literal is called. -/
def literalName (text : List Tree) : String :=
  match text with
  | [.word ..] => "bool"
  | [.literal text _] =>
    match Literal.kind text with
    | .string => "string"
    | .byteString => "byte string"
    | .byte => "byte"
    | .character => "char"
    | .whole => "int"
    | .float => "float"
    | .closedString | .unknown => "unknown"
  | [.punct .., .literal text _] => if Literal.kind text = .whole then "int" else "float"
  | _ => "unknown"

/-- What a value is called. -/
def Expression.kindName (e : Expression) : String :=
  match e.kind with
  | .literal text => literalName text
  | .array => "array"
  | .assignment => "assign"
  | .asyncBlock => "async"
  | .awaiting => "await"
  | .binary _ => "binary"
  | .block => "block"
  | .breaking => "break"
  | .call => "call"
  | .cast => "cast"
  | .closure => "closure"
  | .constBlock => "const"
  | .continuing => "continue"
  | .field => "field"
  | .forLoop => "for_loop"
  | .conditional => "if"
  | .index => "index"
  | .inferred => "infer"
  | .letting => "let"
  | .loop => "loop"
  | .invocation => "macro"
  | .matching => "match"
  | .methodCall => "method_call"
  | .paren => "paren"
  | .path _ => "path"
  | .range => "range"
  | .rawAddress => "unknown"
  | .reference => "reference"
  | .repetition => "repeat"
  | .returning => "return"
  | .struct => "struct"
  | .question => "try"
  | .tryBlock => "try_block"
  | .tuple => "tuple"
  | .unary => "unary"
  | .uncheckedBlock => "unsafe"
  | .verbatim => "verbatim"
  | .whileLoop => "while"
  | .yielding => "yield"

end SharedMembers
