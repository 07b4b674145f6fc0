import AgentFlow.Number.Integer
import AgentFlow.Text.Quoted
import AgentFlow.Text.Word

/-!
# Tokens of literals

A literal is written with numbers, quoted texts, names, signs, brackets, commas and
colons.  Numbers are decimal or hexadecimal, octal or binary, or have a fraction or an
exponent; a `j` at the end makes them imaginary.  Texts stand in single, double or
threefold quotes, with letters in front that tell how they are read.
-/

namespace AgentFlow.Console.Literal

open AgentFlow.Number AgentFlow.Text

/-- The kinds of values, by how they combine. -/
inductive Kind where
  | real
  | signedReal
  | imaginary
  | text
  | octets
  | constant
  | collection
  deriving DecidableEq, Repr

/-- Brackets: round ones, curly ones, and the round ones of a call. -/
inductive Bracket where
  | round
  | curly
  | call
  deriving DecidableEq, Repr

/-- A token. -/
inductive Token where
  | value (kind : Kind)
  | setWord
  | sign
  | comma
  | colon
  | opening (bracket : Bracket)
  | closing (bracket : Bracket)
  | lineEnd
  deriving DecidableEq, Repr

/-- Whether a character ends a line. -/
def isLineEnd (c : Char) : Bool := c = '\n' || c = '\r'

/-! ## Numbers -/

/-- Whether a character may stand in a number. -/
def isNumberChar (c : Char) : Bool := c.isAlphanum || c = '_' || c = '.'

/-- Whether a number has a base mark in front. -/
def hasBaseMark (mark : Char) (cs : List Char) : Bool :=
  match cs with
  | '0' :: c :: _ => c.toLower = mark
  | _ => false

/-- The characters of a number that a text starts with.  A sign belongs to it behind the
letter of an exponent. -/
def numberRun (cs : List Char) : List Char :=
  let run := cs.takeWhile isNumberChar
  match run.getLast?, cs.drop run.length with
  | some last, c :: digit :: rest =>
    if last.toLower = 'e' && (c = '+' || c = '-') && digit.isDigit && !hasBaseMark 'x' run then
      run ++ c :: (digit :: rest).takeWhile isNumberChar
    else run
  | _, _ => run

/-- Whether a text is made of digits, with single underscores between them. -/
def areDigits (isDigit : Char → Bool) (cs : List Char) : Bool :=
  (cs.splitOn '_').all fun part => !part.isEmpty && part.all isDigit

/-- Whether a text is made of digits, or there is none. -/
def areDigitsOrNone (cs : List Char) : Bool := cs.isEmpty || areDigits Char.isDigit cs

/-- Whether a text is the front of a number with a fraction or an exponent. -/
def isMantissa (cs : List Char) : Bool :=
  let fraction := (cs.dropWhile (· != '.')).drop 1
  let whole := cs.takeWhile (· != '.')
  !(whole.isEmpty && fraction.isEmpty) && areDigitsOrNone whole && areDigitsOrNone fraction

/-- Whether a text is a number, perhaps with a fraction and an exponent. -/
def isDecimal (cs : List Char) : Bool :=
  let mantissa := cs.takeWhile (·.toLower != 'e')
  match cs.drop mantissa.length with
  | [] => isMantissa mantissa
  | _ :: '+' :: exponent => isMantissa mantissa && areDigits Char.isDigit exponent
  | _ :: '-' :: exponent => isMantissa mantissa && areDigits Char.isDigit exponent
  | _ :: exponent => isMantissa mantissa && areDigits Char.isDigit exponent

/-- Whether a text is a number behind a base mark, perhaps with an underscore between. -/
def isMarked (mark : Char) (base : Nat) (cs : List Char) : Bool :=
  let digits := cs.drop 2
  let digits := if digits.head? = some '_' then digits.drop 1 else digits
  hasBaseMark mark cs && areDigits (fun c => (hexValue? c).any (· < base)) digits

/-- Whether a text is a whole number: zeros, or digits of which the first is none. -/
def isWhole (cs : List Char) : Bool :=
  areDigits Char.isDigit cs && (cs.head? != some '0' || cs.all fun c => c = '0' || c = '_') &&
    (cs.filter Char.isDigit).length ≤ maxDigits

/-- The kind of a number. -/
def numberKind? (cs : List Char) : Option Kind :=
  if cs.getLast?.any (·.toLower = 'j') then
    if isDecimal cs.dropLast then some .imaginary else none
  else if isMarked 'x' 16 cs || isMarked 'o' 8 cs || isMarked 'b' 2 cs then some .real
  else if cs.any fun c => c = '.' || c.toLower = 'e' then
    if isDecimal cs then some .real else none
  else if isWhole cs then some .real
  else none

/-! ## Quoted texts -/

/-- The body of a quoted text that follows its opening quotes.  A backslash takes the
character behind it along. -/
def quotedBody? (closing : List Char) (isLong : Bool) : List Char → Option (List Char)
  | [] => none
  | '\\' :: c :: rest => (quotedBody? closing isLong rest).map ('\\' :: c :: ·)
  | c :: rest =>
    if closing.isPrefixOf (c :: rest) then some []
    else if isLineEnd c && !isLong then none
    else (quotedBody? closing isLong rest).map (c :: ·)

/-- Whether a number of hexadecimal digits stands in front, of a code not above a limit. -/
def hasCode (count limit : Nat) (cs : List Char) : Bool :=
  let digits := (cs.take count).filterMap hexValue?
  digits.length = count && ofDigits 16 digits ≤ limit

/-- Whether a character may stand in the name of a character. -/
def isCodeNameChar (c : Char) : Bool := c.isAlphanum || c = ' ' || c = '-'

/-- Whether the name of a character in curly brackets stands in front. -/
def hasCodeName (cs : List Char) : Bool :=
  match cs with
  | '{' :: rest =>
    let name := rest.takeWhile isCodeNameChar
    !name.isEmpty && (rest.drop name.length).head? = some '}'
  | _ => false

/-- Whether all escapes of a text can be read. -/
def hasReadableEscapes (isText : Bool) : List Char → Bool
  | [] => true
  | '\\' :: c :: rest =>
    (if c = 'x' then hasCode 2 0xFF rest
      else if c = 'u' && isText then hasCode 4 0xFFFF rest
      else if c = 'U' && isText then hasCode 8 0x10FFFF rest
      else if c = 'N' && isText then hasCodeName rest
      else true) && hasReadableEscapes isText rest
  | _ :: rest => hasReadableEscapes isText rest

/-- A quoted text: its kind, and the number of its characters.  The letters in front of it
say whether it holds octets and whether its escapes are read. -/
def quotedText? (letters : List Char) (quote : Char) (rest : List Char) : Option (Kind × Nat) := do
  let isLong := [quote, quote].isPrefixOf rest
  let closing := if isLong then [quote, quote, quote] else [quote]
  let body ← quotedBody? closing isLong (rest.drop (closing.length - 1))
  let isText := !letters.contains 'b'
  let isReadable := (letters.contains 'r' || hasReadableEscapes isText body) &&
    (isText || body.all fun c => c.toNat < 0x80)
  if isReadable then
    some (if isText then .text else .octets, body.length + 2 * closing.length)
  else none

/-- The letters that may stand in front of a quoted text, in small letters. -/
def quoteLetters : List String := ["r", "u", "b", "br", "rb"]

/-- The names of constants. -/
def constantNames : List String := ["True", "False", "None"]

/-! ## Tokens -/

/-- Whether a character starts a quoted text. -/
def isQuote (c : Char) : Bool := c = '"' || c = singleQuote

/-- A name by itself. -/
def nameToken? (word : List Char) : Option Token :=
  if constantNames.contains (String.ofList word) then some (.value .constant)
  else if word = "set".toList then some .setWord
  else none

/-- A name, or a text with letters in front, and the number of its characters. -/
def namedToken? (word rest : List Char) : Option (Token × Nat) :=
  match rest.head?.filter isQuote with
  | some quote =>
    let letters := word.map Char.toLower
    if quoteLetters.contains (String.ofList letters) then
      (quotedText? letters quote (rest.drop 1)).map fun (kind, count) =>
        (.value kind, word.length + count)
    else none
  | none => (nameToken? word).map (·, word.length)

/-- A token of one character. -/
def punctuation? (c : Char) : Option Token :=
  [('+', .sign), ('-', .sign), (',', .comma), (':', .colon), ('(', .opening .round),
    (')', .closing .round), ('{', .opening .curly), ('}', .closing .curly), ('\n', .lineEnd),
    ('\r', .lineEnd)].lookup c

/-- The token that a text starts with, unless it starts with a blank or a comment, and the
number of characters that belong to it. -/
def token? (cs : List Char) : Option (Option Token × Nat) :=
  match cs with
  | [] => none
  | c :: rest =>
    if c = ' ' || c = '\t' || c = '\x0c' then some (none, 1)
    else if c = '#' then some (none, (cs.takeWhile (!isLineEnd ·)).length)
    else if c = '\\' then if rest.head?.any isLineEnd then some (none, 2) else none
    else if c.isDigit || (c = '.' && rest.head?.any Char.isDigit) then
      let run := numberRun cs
      (numberKind? run).map fun kind => (some (.value kind), run.length)
    else if "...".toList.isPrefixOf cs then some (some (.value .constant), 3)
    else if isQuote c then
      (quotedText? [] c rest).map fun (kind, count) => (some (.value kind), count)
    else if isWordChar c then
      let word := cs.takeWhile isWordChar
      (namedToken? word (cs.drop word.length)).map fun (token, count) => (some token, count)
    else (punctuation? c).map fun token => (some token, 1)

/-- The tokens of a text. -/
def tokens? (cs : List Char) : Option (List Token) :=
  match cs with
  | [] => some []
  | c :: rest => do
    let (token, count) ← token? (c :: rest)
    let tokens ← tokens? (rest.drop (count - 1))
    return token.toList ++ tokens
termination_by cs.length
decreasing_by
  simp only [List.length_drop, List.length_cons]
  omega

end AgentFlow.Console.Literal
