import SharedMembers.Token.Lexer

/-!
# Literals

What the spelling of a literal says: its kind, the value of a whole number, the text of a string.

* `wholeNumber?`: the value and the suffix of a whole number.
* `Literal.kind`: the kind that a spelling announces.
* `stringValue?`: the text that a string literal stands for.
-/

namespace SharedMembers

namespace Literal

open Text Lexer

/-- The kinds of literals. -/
inductive Kind where
  | string
  | byteString
  | closedString
  | byte
  | character
  | whole
  | float
  | unknown
deriving Repr, DecidableEq

/-- Behind the letter of an exponent: whether this is an exponent, so that the number is none of
whole ones. -/
def isExponent : (digitSeen : Bool) → List Char → Bool
  | digitSeen, [] => digitSeen
  | digitSeen, c :: cs =>
    if c = '_' then isExponent digitSeen cs
    else if c = '-' || c = '+' then true
    else if c.isDigit then isExponent true cs
    else digitSeen && isIdentifierSpelling (c :: cs)

/-- The value of the digits in a base and the suffix behind them; `value?` is none until a digit
was seen. -/
def wholeDigits? (base : Nat) : (value? : Option Nat) → List Char → Option (Nat × List Char)
  | value?, [] => value?.map (·, [])
  | value?, c :: cs =>
    if c = '_' then wholeDigits? base value? cs
    else if base = 10 && c = '.' then none
    else if base = 10 && (c = 'e' || c = 'E') then
      if isExponent false cs then none else value?.map (·, c :: cs)
    else
      match hexValue? c with
      | some d =>
        if c.isDigit || 10 < base then
          if d < base then wholeDigits? base (some (value?.getD 0 * base + d)) cs else none
        else value?.map (·, c :: cs)
      | none => value?.map (·, c :: cs)

/-- The value and the suffix of a whole number. -/
def wholeNumber? (text : String) : Option (Nat × String) :=
  let cs := text.toList
  if cs.head?.any Char.isDigit then
    let (base, announced) := numberBase cs
    (wholeDigits? base none (cs.drop announced)).bind fun (value, suffix) =>
      if suffix.isEmpty || isIdentifierSpelling suffix then some (value, String.ofList suffix)
      else none
  else none

/-- The kind that a literal's spelling announces. -/
def kind (text : String) : Kind :=
  match text.toList with
  | '"' :: _ | 'r' :: _ => .string
  | 'b' :: '\'' :: _ => .byte
  | 'b' :: _ => .byteString
  | 'c' :: _ => .closedString
  | '\'' :: _ => .character
  | cs =>
    if cs.head?.any Char.isDigit then
      if (wholeNumber? text).isSome then .whole else .float
    else .unknown

/-! ## The text of a string -/

/-- The character of a number escape behind its opening brace, and what follows the escape. -/
def escapedNumber (value : Nat) : List Char → Char × List Char
  | [] => (Char.ofNat value, [])
  | c :: cs =>
    if c.toNat = 125 then (Char.ofNat value, cs)
    else
      match hexValue? c with
      | some d => escapedNumber (value * 16 + d) cs
      | none => escapedNumber value cs

/-- The text of a quoted string up to its closing quote; `skip` characters were read already. A
line break behind a backslash vanishes with the blanks that follow, and one in the text is a single
line feed. -/
def cookedText : (skip : Nat) → List Char → List Char
  | _, [] => []
  | skip + 1, _ :: cs => cookedText skip cs
  | 0, c :: cs =>
    if c = '"' then []
    else if c = '\r' then cookedText 0 cs
    else if c = '\\' then
      match cs with
      | 'n' :: _ => '\n' :: cookedText 1 cs
      | 'r' :: _ => '\r' :: cookedText 1 cs
      | 't' :: _ => '\t' :: cookedText 1 cs
      | '0' :: _ => Char.ofNat 0 :: cookedText 1 cs
      | 'x' :: high :: low :: _ =>
        Char.ofNat ((hexValue? high).getD 0 * 16 + (hexValue? low).getD 0) :: cookedText 3 cs
      | 'u' :: _ :: digits =>
        let (d, rest) := escapedNumber 0 digits
        d :: cookedText (cs.length - rest.length) cs
      | '\n' :: rest | '\r' :: rest =>
        cookedText (1 + (rest.takeWhile isBlank).length) cs
      | d :: _ => d :: cookedText 1 cs
      | [] => []
    else c :: cookedText 0 cs

/-- The text that a string literal stands for; none for a literal of another kind. -/
def stringValue? (text : String) : Option String :=
  match text.toList with
  | '"' :: body => some (String.ofList (cookedText 0 body))
  | 'r' :: body =>
    let hashes := (body.takeWhile (· = '#')).length
    let rest := body.drop (hashes + 1)
    (rawLength? .characters hashes rest).map fun n =>
      String.ofList (rest.take (n - (hashes + 1)))
  | _ => none

end Literal

end SharedMembers
