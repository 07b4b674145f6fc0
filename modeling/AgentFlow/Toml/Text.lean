import AgentFlow.Text.Digit
import AgentFlow.Text.Quoted

/-!
# TOML strings and keys

The four kinds of TOML strings (basic and literal, on one line or on several) and
the parts of keys.  A reader gives the text and what follows the closing quotes.
-/

namespace AgentFlow.Toml

open AgentFlow.Text

/-- A blank inside of a line. -/
def isSpace (c : Char) : Bool := c == ' ' || c == '\t'

/-- A blank between the items of an array. -/
def isSpaceOrNewline (c : Char) : Bool := isSpace c || c == '\n'

/-- The controls that no string and no comment may hold; the tab is allowed. -/
def isControl (c : Char) : Bool :=
  (c.toNat < 0x20 && c != '\t') || c.toNat = 0x7F

/-- A character of a bare key. -/
def isBareKeyChar (c : Char) : Bool :=
  c.isAlphanum || c == '-' || c == '_'

/-- The text after its leading blanks. -/
def skipSpace (cs : List Char) : List Char := cs.dropWhile isSpace

/-- A number of a given count of hexadecimal digits. -/
def takeHex? : Nat → Nat → List Char → Option (Nat × List Char)
  | 0, value, cs => some (value, cs)
  | count + 1, value, c :: rest =>
    match hexValue? c with
    | some digit => takeHex? count (value * 16 + digit) rest
    | none => none
  | _ + 1, _, [] => none

/-- The character of an escape by its code, which must be that of a character. -/
def takeCode? (count : Nat) (cs : List Char) : Option (Char × List Char) :=
  match takeHex? count 0 cs with
  | none => none
  | some (code, rest) =>
    if code < 0xD800 ∨ (0xDFFF < code ∧ code < 0x110000) then some (Char.ofNat code, rest)
    else none

/-- The characters that are escaped by a letter or by themselves. -/
def letterEscape? (c : Char) : Option Char :=
  if c = '"' ∨ c = '\\' then some c
  else if c = 'b' then some '\x08'
  else if c = 't' then some '\t'
  else if c = 'n' then some '\n'
  else if c = 'f' then some '\x0C'
  else if c = 'r' then some '\r'
  else none

/-- An escape, read after its backslash. -/
def takeEscape? : List Char → Option (Char × List Char)
  | [] => none
  | 'u' :: rest => takeCode? 4 rest
  | 'U' :: rest => takeCode? 8 rest
  | c :: rest => (letterEscape? c).map (·, rest)

/-- After a backslash in a string on several lines: an escape gives a character,
and a line that ends here gives nothing and swallows the blanks that follow. -/
def takeFold? (cs : List Char) : Option (Option Char × List Char) :=
  match cs with
  | '\n' :: rest => some (none, rest.dropWhile isSpaceOrNewline)
  | c :: rest =>
    if isSpace c then
      match skipSpace rest with
      | [] => some (none, [])
      | '\n' :: rest => some (none, rest.dropWhile isSpaceOrNewline)
      | _ => none
    else (takeEscape? cs).map fun (c, rest) => (some c, rest)
  | [] => none

/-- Read a basic string of one line after its opening quote. -/
def readBasic? : Nat → List Char → Option (List Char × List Char)
  | 0, _ => none
  | _ + 1, [] => none
  | fuel + 1, c :: rest =>
    if c = '"' then some ([], rest)
    else if c = '\\' then
      match takeEscape? rest with
      | some (c, rest) => (readBasic? fuel rest).map fun (text, rest) => (c :: text, rest)
      | none => none
    else if isControl c then none
    else (readBasic? fuel rest).map fun (text, rest) => (c :: text, rest)

/-- Read a basic string of several lines up to its three closing quotes. -/
def readBasicLines? : Nat → List Char → Option (List Char × List Char)
  | 0, _ => none
  | _ + 1, [] => none
  | fuel + 1, c :: rest =>
    match c, rest with
    | '"', '"' :: '"' :: rest => some ([], rest)
    | '\\', rest =>
      match takeFold? rest with
      | some (folded, rest) =>
        (readBasicLines? fuel rest).map fun (text, rest) => (folded.toList ++ text, rest)
      | none => none
    | c, rest =>
      if isControl c && c != '\n' then none
      else (readBasicLines? fuel rest).map fun (text, rest) => (c :: text, rest)

/-- Read a literal string of one line after its opening quote. -/
def readLiteral? : List Char → Option (List Char × List Char)
  | [] => none
  | c :: rest =>
    if c = singleQuote then some ([], rest)
    else if isControl c then none
    else (readLiteral? rest).map fun (text, rest) => (c :: text, rest)

/-- Read a literal string of several lines up to its three closing quotes. -/
def readLiteralLines? : List Char → Option (List Char × List Char)
  | a :: b :: c :: rest =>
    if a = singleQuote ∧ b = singleQuote ∧ c = singleQuote then some ([], rest)
    else if isControl a && a != '\n' then none
    else (readLiteralLines? (b :: c :: rest)).map fun (text, rest) => (a :: text, rest)
  | _ => none

/-- One or two quotes right before the three closing ones belong to the text. -/
def absorbQuotes (mark : Char) (read : List Char × List Char) : List Char × List Char :=
  let extra := (read.2.take 2).takeWhile (· == mark)
  (read.1 ++ extra, read.2.drop extra.length)

/-- A line feed right after the opening quotes does not belong to the text. -/
def dropFirstNewline : List Char → List Char
  | '\n' :: rest => rest
  | cs => cs

/-- Read a string of any kind; none if the text does not start with a quote, and
`some none` if it does but holds no string. -/
def readString? (cs : List Char) : Option (Option (List Char × List Char)) :=
  match cs with
  | '"' :: '"' :: '"' :: rest =>
    some ((readBasicLines? (rest.length + 1) (dropFirstNewline rest)).map (absorbQuotes '"'))
  | '"' :: rest => some (readBasic? (rest.length + 1) rest)
  | q :: rest =>
    if q = singleQuote then
      match rest with
      | q2 :: q3 :: inner =>
        if q2 = singleQuote ∧ q3 = singleQuote then
          some ((readLiteralLines? (dropFirstNewline inner)).map (absorbQuotes singleQuote))
        else some (readLiteral? rest)
      | _ => some (readLiteral? rest)
    else none
  | [] => none

/-- Read one part of a key. -/
def readKeyPart? (cs : List Char) : Option (List Char × List Char) :=
  match cs with
  | [] => none
  | c :: rest =>
    if isBareKeyChar c then some (cs.takeWhile isBareKeyChar, cs.dropWhile isBareKeyChar)
    else if c = '"' then readBasic? (rest.length + 1) rest
    else if c = singleQuote then readLiteral? rest
    else none

/-- Read a key: parts with dots between them, and the blanks after it. -/
def readKey? : Nat → List Char → Option (List String × List Char)
  | 0, _ => none
  | fuel + 1, cs =>
    match readKeyPart? cs with
    | none => none
    | some (part, rest) =>
      match skipSpace rest with
      | '.' :: rest =>
        (readKey? fuel (skipSpace rest)).map fun (parts, rest) =>
          (String.ofList part :: parts, rest)
      | rest => some ([String.ofList part], rest)

/-- Skip a comment, if one starts here; none if it holds a control. -/
def skipComment? (cs : List Char) : Option (List Char) :=
  match cs with
  | '#' :: rest =>
    if (rest.takeWhile (· != '\n')).any isControl then none
    else some (rest.dropWhile (· != '\n'))
  | cs => some cs

end AgentFlow.Toml
