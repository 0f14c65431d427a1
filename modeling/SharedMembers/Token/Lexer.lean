import SharedMembers.Token.Basic
import SharedMembers.Text.Identifier
import SharedMembers.Text.Quoted

/-!
# Lexer

From characters to token trees, in two steps. The text is first cut into lexemes, each found by the
length it has at the place where it begins; then the brackets are matched.

* `lexemes?`: the lexemes with their places, blanks and comments left out.
* `Tree.ofLexemes?`: the trees of a run of lexemes; none if a bracket has no partner.
* `Tree.ofText?`: both steps.
-/

namespace SharedMembers

/-! ## Lexemes -/

/-- The pieces a text is cut into. A documentation comment keeps the text inside. -/
inductive Lexeme where
  | blank
  | documentation (inner : Bool) (text : String)
  | opening (delimiter : Delimiter)
  | closing (delimiter : Delimiter)
  | word (name : String)
  | lifetime (name : String)
  | literal (text : String)
  | punct (char : Char) (joint : Bool)
deriving Repr, DecidableEq

namespace Lexer

open Text

/-! ## Words -/

/-- The length of the plain word that the characters begin with. -/
def plainWordLength? : List Char → Option Nat
  | [] => none
  | c :: cs => if isIdentifierStart c then some ((cs.takeWhile isIdentifierPart).length + 1) else none

/-- The length of a literal's suffix, which is a word or missing. -/
def suffixLength (cs : List Char) : Nat :=
  (plainWordLength? cs).getD 0

/-- The words that have no raw form. -/
def unrawable : List String := ["_", "super", "self", "Self", "crate"]

/-- The length of the word, plain or raw, that the characters begin with. -/
def wordLength? : List Char → Option Nat
  | 'r' :: '#' :: cs =>
    (plainWordLength? cs).bind fun n =>
      if unrawable.contains (String.ofList (cs.take n)) then none else some (n + 2)
  | cs => plainWordLength? cs

/-- What a literal in quotes begins with; a word does not begin so. -/
def literalOpenings : List String :=
  ["r\"", "r#\"", "r##", "b\"", "b'", "br\"", "br#", "c\"", "cr\"", "cr#"]

/-- The characters begin with the text. -/
def startsWith (text : String) (cs : List Char) : Bool :=
  text.toList.isPrefixOf cs

/-! ## Escapes -/

/-- A hexadecimal digit's value. -/
def hexValue? (c : Char) : Option Nat :=
  if '0' ≤ c && c ≤ '9' then some (c.toNat - 48)
  else if 'a' ≤ c && c ≤ 'f' then some (c.toNat - 87)
  else if 'A' ≤ c && c ≤ 'F' then some (c.toNat - 55)
  else none

/-- The kinds of text that literals hold: characters, bytes, or text closed by a null. -/
inductive Content where
  | characters
  | bytes
  | nullClosed
deriving Repr, DecidableEq

/-- The two hexadecimal digits of a byte escape suit the content. -/
def Content.allowsByte (content : Content) (high low : Char) : Bool :=
  match hexValue? high, hexValue? low with
  | some h, some l =>
    match content with
    | .characters => h < 8
    | .bytes => true
    | .nullClosed => h ≠ 0 || l ≠ 0
  | _, _ => false

/-- The content has the escape of one letter. -/
def Content.allowsLetter (content : Content) (c : Char) : Bool :=
  ['n', 'r', 't', '\\', '\'', '"'].contains c || (c = '0' && content ≠ .nullClosed)

/-- The character with the number may be escaped by it in the content. -/
def Content.allowsNumber (content : Content) (value : Nat) : Bool :=
  value.isValidChar && match content with
    | .characters => true
    | .bytes => false
    | .nullClosed => value ≠ 0

/-- The content may hold the character as it stands. -/
def Content.allowsPlain (content : Content) (c : Char) : Bool :=
  match content with
  | .characters => true
  | .bytes => c.toNat < 128
  | .nullClosed => c.toNat ≠ 0

/-- The length of a number escape behind its opening brace, and its value. -/
def numberEscapeLength? (digits value : Nat) : List Char → Option (Nat × Nat)
  | [] => none
  | c :: cs =>
    if c.toNat = 125 then if 0 < digits then some (1, value) else none
    else if c = '_' then
      if 0 < digits then (numberEscapeLength? digits value cs).map fun (n, v) => (n + 1, v) else none
    else
      match hexValue? c with
      | some d =>
        if digits = 6 then none
        else (numberEscapeLength? (digits + 1) (value * 16 + d) cs).map fun (n, v) => (n + 1, v)
      | none => none

/-- The length of an escape behind its backslash. -/
def escapeLength? (content : Content) : List Char → Option Nat
  | 'x' :: high :: low :: _ => if content.allowsByte high low then some 3 else none
  | 'u' :: brace :: cs =>
    if brace.toNat = 123 then
      (numberEscapeLength? 0 0 cs).bind fun (n, value) =>
        if content.allowsNumber value then some (n + 2) else none
    else none
  | c :: _ => if content.allowsLetter c then some 1 else none
  | [] => none

/-- The length of a line break behind a backslash with the blanks that follow it, if something
follows. A carriage return must belong to a line break. -/
def continuationLength? : List Char → Option Nat
  | [] => none
  | ['\r'] => none
  | '\r' :: '\n' :: cs => (continuationLength? cs).map (· + 2)
  | '\r' :: _ :: _ => none
  | c :: cs =>
    if c = ' ' || c = '\t' || c = '\n' then (continuationLength? cs).map (· + 1) else some 0

/-! ## Literals in quotes -/

/-- The length of a quoted text behind its opening quote, the closing one included; `skip`
characters are known to belong to it. -/
def cookedLength? (content : Content) : (skip : Nat) → List Char → Option Nat
  | _, [] => none
  | skip + 1, _ :: cs => (cookedLength? content skip cs).map (· + 1)
  | 0, c :: cs =>
    if c = '"' then some 1
    else if c = '\r' then
      if cs.head? = some '\n' then (cookedLength? content 1 cs).map (· + 1) else none
    else if c = '\\' then
      let skip? :=
        if cs.head? = some '\n' || cs.head? = some '\r' then continuationLength? cs
        else escapeLength? content cs
      match skip? with
      | some n => (cookedLength? content n cs).map (· + 1)
      | none => none
    else if content.allowsPlain c then (cookedLength? content 0 cs).map (· + 1)
    else none

/-- The length of a raw text behind its opening quote, the closing quote and the hash marks
included. -/
def rawLength? (content : Content) (hashes : Nat) : List Char → Option Nat
  | [] => none
  | c :: cs =>
    if c = '"' && cs.take hashes = List.replicate hashes '#' then some (hashes + 1)
    else if c = '\r' && cs.head? ≠ some '\n' then none
    else if content.allowsPlain c then (rawLength? content hashes cs).map (· + 1)
    else none

/-- The length of a raw text behind the mark that announces it. -/
def rawQuotedLength? (content : Content) (cs : List Char) : Option Nat :=
  let hashes := (cs.takeWhile (· = '#')).length
  match cs.drop hashes with
  | '"' :: rest =>
    if hashes ≤ 255 then (rawLength? content hashes rest).map (· + (hashes + 1)) else none
  | _ => none

/-- The length of a character in apostrophes, behind the opening one. -/
def characterLength? (content : Content) (cs : List Char) : Option Nat :=
  let inner := match cs with
    | '\\' :: rest => (escapeLength? content rest).map (· + 1)
    | c :: _ => if content.allowsPlain c then some 1 else none
    | [] => none
  inner.bind fun n => if (cs.drop n).head? = some '\'' then some (n + 1) else none

/-- The length of a literal in quotes, its suffix included. -/
def quotedLength? (cs : List Char) : Option Nat :=
  let body := match cs with
    | '"' :: rest => (cookedLength? .characters 0 rest).map (· + 1)
    | 'r' :: rest => (rawQuotedLength? .characters rest).map (· + 1)
    | 'b' :: '"' :: rest => (cookedLength? .bytes 0 rest).map (· + 2)
    | 'b' :: 'r' :: rest => (rawQuotedLength? .bytes rest).map (· + 2)
    | 'c' :: '"' :: rest => (cookedLength? .nullClosed 0 rest).map (· + 2)
    | 'c' :: 'r' :: rest => (rawQuotedLength? .nullClosed rest).map (· + 2)
    | 'b' :: '\'' :: rest => (characterLength? .bytes rest).map (· + 2)
    | '\'' :: rest => (characterLength? .characters rest).map (· + 1)
    | _ => none
  body.map fun n => n + suffixLength (cs.drop n)

/-! ## Numbers -/

/-- A decimal digit or the mark that groups digits. -/
def isDigitOrMark (c : Char) : Bool := c.isDigit || c = '_'

/-- A number's length with its suffix, unless a character that continues words follows. -/
def closeNumber (length : Nat) (cs : List Char) : Option Nat :=
  let rest := cs.drop length
  let total := length + suffixLength rest
  if (cs.drop total).head?.any isIdentifierPart then none else some total

/-- The length of an exponent behind its letter; none if it has no digit. -/
def exponentLength? (cs : List Char) : Option Nat :=
  let marks := (cs.takeWhile (· = '_')).length
  let signed := match cs.drop marks with
    | '+' :: _ | '-' :: _ => marks + 1
    | _ => marks
  let digits := (cs.drop signed).takeWhile isDigitOrMark
  if digits.any Char.isDigit then some (signed + digits.length) else none

/-- The length of a number with a point or an exponent, without its suffix. -/
def floatDigitsLength? (cs : List Char) : Option Nat :=
  if cs.head?.any Char.isDigit then
    let whole := (cs.takeWhile isDigitOrMark).length
    let (length, pointed) := match cs.drop whole with
      | '.' :: rest =>
        if rest.head?.any fun c => c = '.' || isIdentifierStart c then (0, false)
        else (whole + 1 + (rest.takeWhile isDigitOrMark).length, true)
      | _ => (whole, false)
    if length = 0 then none
    else
      match cs.drop length with
      | e :: rest =>
        if e = 'e' || e = 'E' then
          match exponentLength? rest with
          | some n => some (length + 1 + n)
          | none => if pointed then some length else none
        else if pointed then some length else none
      | [] => if pointed then some length else none
  else none

/-- The base that a number's spelling announces, and the length of the announcement. -/
def numberBase (cs : List Char) : Nat × Nat :=
  match cs with
  | '0' :: 'x' :: _ => (16, 2)
  | '0' :: 'o' :: _ => (8, 2)
  | '0' :: 'b' :: _ => (2, 2)
  | _ => (10, 0)

/-- The length of the digits of a whole number in a base; `empty` until a digit was seen. A decimal
digit that is too large for the base is refused, a letter ends the number. -/
def wholeDigitsLength? (base : Nat) : (empty : Bool) → List Char → Option Nat
  | empty, [] => if empty then none else some 0
  | empty, c :: cs =>
    if c = '_' then
      if empty && base = 10 then none else (wholeDigitsLength? base empty cs).map (· + 1)
    else
      match hexValue? c with
      | some d =>
        if d < base then (wholeDigitsLength? base false cs).map (· + 1)
        else if c.isDigit then none
        else if empty then none else some 0
      | none => if empty then none else some 0

/-- The length of a number literal. -/
def numberLength? (cs : List Char) : Option Nat :=
  match (floatDigitsLength? cs).bind (closeNumber · cs) with
  | some n => some n
  | none =>
    let (base, announced) := numberBase cs
    (wholeDigitsLength? base true (cs.drop announced)).bind fun n => closeNumber (announced + n) cs

/-! ## Punctuation -/

/-- The punctuation characters. -/
def punctChars : List Char := "~!@#$%^&*-=+|;:,<.>/?'".toList

/-- The characters begin with punctuation, and not with a comment. -/
def beginsPunct (cs : List Char) : Bool :=
  match cs with
  | '/' :: '/' :: _ | '/' :: '*' :: _ => false
  | c :: _ => punctChars.contains c
  | [] => false

/-- The length of the lifetime behind its apostrophe. Another apostrophe, or a hash mark behind a
plain name, may not follow. -/
def lifetimeLength? (cs : List Char) : Option Nat :=
  (wordLength? cs).bind fun n =>
    match (cs.drop n).head? with
    | some '\'' => none
    | some '#' => if startsWith "r#" cs then some n else none
    | _ => some n

/-! ## Comments -/

/-- The length of what is left of a line, its end not included. -/
def lineLength : List Char → Nat
  | [] => 0
  | '\n' :: _ => 0
  | ['\r'] => 1
  | '\r' :: '\n' :: _ => 0
  | _ :: cs => lineLength cs + 1

/-- The length of a block comment to the end of the last open one, `depth` being open. -/
def blockLength? : (depth : Nat) → List Char → Option Nat
  | 0, _ => some 0
  | depth + 1, '/' :: '*' :: cs => (blockLength? (depth + 2) cs).map (· + 2)
  | depth + 1, '*' :: '/' :: cs => (blockLength? depth cs).map (· + 2)
  | depth + 1, _ :: cs => (blockLength? (depth + 1) cs).map (· + 1)
  | _ + 1, [] => none

/-- Each carriage return of the text belongs to a line break. -/
def returnsPaired : List Char → Bool
  | [] => true
  | '\r' :: cs => cs.head? = some '\n' && returnsPaired cs
  | _ :: cs => returnsPaired cs

/-- A documentation comment whose text is the part of `cs` from 3 on with the given length. -/
def documentationOf (inner : Bool) (cs : List Char) (length closing : Nat) :
    Option (Lexeme × Nat) :=
  let text := (cs.drop 3).take length
  if returnsPaired text then
    some (.documentation inner (String.ofList text), 3 + length + closing)
  else none

/-- A comment that the characters begin with. -/
def comment? (cs : List Char) : Option (Lexeme × Nat) :=
  if startsWith "//" cs then
    if startsWith "//!" cs then documentationOf true cs (lineLength (cs.drop 3)) 0
    else if startsWith "///" cs && !startsWith "////" cs then
      documentationOf false cs (lineLength (cs.drop 3)) 0
    else some (.blank, lineLength cs)
  else if startsWith "/**/" cs then some (.blank, 4)
  else
    (blockLength? 1 (cs.drop 2)).bind fun n =>
      if startsWith "/*!" cs then documentationOf true cs (n - 3) 2
      else if startsWith "/**" cs && !startsWith "/***" cs then documentationOf false cs (n - 3) 2
      else some (.blank, n + 2)

/-! ## The lexeme at a place -/

/-- The bracket that a character opens. -/
def opening? : Char → Option Delimiter
  | '(' => some .parenthesis
  | '[' => some .bracket
  | c => if c.toNat = 123 then some .brace else none

/-- The bracket that a character closes. -/
def closing? : Char → Option Delimiter
  | ')' => some .parenthesis
  | ']' => some .bracket
  | c => if c.toNat = 125 then some .brace else none

/-- The literal that the characters begin with. -/
def literalLength? (cs : List Char) : Option Nat :=
  (quotedLength? cs).orElse fun _ => numberLength? cs

/-- The lexeme that the characters begin with, and its length. -/
def lexeme? (cs : List Char) : Option (Lexeme × Nat) :=
  match cs with
  | [] => none
  | c :: rest =>
    if isBlank c then some (.blank, 1)
    else if startsWith "//" cs || startsWith "/*" cs then comment? cs
    else
      match opening? c, closing? c with
      | some d, _ => some (.opening d, 1)
      | _, some d => some (.closing d, 1)
      | none, none =>
        match literalLength? cs with
        | some n => some (.literal (String.ofList (cs.take n)), n)
        | none =>
          if c = '\'' then
            (lifetimeLength? rest).map fun n =>
              (.lifetime (String.ofList (rest.take n)), n + 1)
          else if beginsPunct cs then some (.punct c (beginsPunct rest), 1)
          else if literalOpenings.any (startsWith · cs) then none
          else (wordLength? cs).map fun n => (.word (String.ofList (cs.take n)), n)

end Lexer

/-- The place behind a character. -/
def Position.after (p : Position) (c : Char) : Position :=
  if c = '\n' then ⟨p.line + 1, 0⟩ else ⟨p.line, p.column + 1⟩

/-- The lexemes of the characters with their places, blanks left out; `skip` characters belong to
the lexeme before. None if no lexeme begins where one should. -/
def lexemesFrom? : (place : Position) → (skip : Nat) → List Char →
    Option (List (Lexeme × Position))
  | _, _, [] => some []
  | place, skip + 1, c :: cs => lexemesFrom? (place.after c) skip cs
  | place, 0, c :: cs =>
    match Lexer.lexeme? (c :: cs) with
    | none => none
    | some (lexeme, length) =>
      match lexemesFrom? (place.after c) (length - 1) cs with
      | none => none
      | some later => some (if lexeme = .blank then later else (lexeme, place) :: later)

/-- The lexemes of a text with their places. A byte order mark in front is not part of it. -/
def lexemes? (text : String) : Option (List (Lexeme × Position)) :=
  let cs := text.toList
  lexemesFrom? ⟨1, 0⟩ 0 (if cs.head? = some (Char.ofNat 0xFEFF) then cs.tail else cs)

/-! ## Matching brackets -/

namespace Tree

/-- A documentation comment as the attribute it stands for. -/
def documentation (inner : Bool) (text : String) (o : Origin) : List Tree :=
  punct '#' false o :: (if inner then [punct '!' false o] else []) ++
    [group .bracket [word "doc" o, punct '=' false o, literal (Text.quoted text) o] o o]

/-- A bracket that is still open: its kind, its place, and the trees before it in reverse. -/
structure OpenBracket where
  delimiter : Delimiter
  origin : Origin
  before : List Tree

/-- The trees of the lexemes; `done` are the trees since the last open bracket, in reverse. -/
def assemble? : (stack : List OpenBracket) → (done : List Tree) → List (Lexeme × Position) →
    Option (List Tree)
  | [], done, [] => some done.reverse
  | _ :: _, _, [] => none
  | stack, done, (lexeme, place) :: rest =>
    match lexeme with
    | .blank => assemble? stack done rest
    | .documentation inner text =>
      assemble? stack ((documentation inner text (some place)).reverse ++ done) rest
    | .word name => assemble? stack (word name (some place) :: done) rest
    | .lifetime name => assemble? stack (lifetime name (some place) :: done) rest
    | .literal text => assemble? stack (literal text (some place) :: done) rest
    | .punct char joint => assemble? stack (punct char joint (some place) :: done) rest
    | .opening d => assemble? (⟨d, some place, done⟩ :: stack) [] rest
    | .closing d =>
      match stack with
      | [] => none
      | frame :: stack =>
        if frame.delimiter = d then
          assemble? stack (group d done.reverse frame.origin (some place) :: frame.before) rest
        else none

/-- The trees of a run of lexemes; none if a bracket has no partner of its kind. -/
def ofLexemes? (lexemes : List (Lexeme × Position)) : Option (List Tree) :=
  assemble? [] [] lexemes

/-- The token trees of a text. -/
def ofText? (text : String) : Option (List Tree) :=
  (lexemes? text).bind ofLexemes?

end Tree

end SharedMembers
