import AgentFlow.Console.Colour

/-!
# Styles

A style is told by words: attributes, each by a long or a short name and with `not` in
front to switch it off, a colour, a colour behind the text after `on`, and a target after
`link`.  A style has one name, in which the words stand in a fixed order; a text that is
no style is its own name.
-/

namespace AgentFlow.Console

open AgentFlow.Number AgentFlow.Text

/-- The attributes of text, in the order in which the name of a style gives them. -/
def attributeNames : List String :=
  ["bold", "dim", "italic", "underline", "blink", "blink2", "reverse", "conceal", "strike",
    "underline2", "frame", "encircle", "overline"]

/-- The short names of attributes. -/
def shortAttributes : List (String × String) :=
  [("b", "bold"), ("d", "dim"), ("i", "italic"), ("u", "underline"), ("r", "reverse"),
    ("c", "conceal"), ("s", "strike"), ("uu", "underline2"), ("o", "overline")]

/-- The attribute of a long or a short name. -/
def attribute? (word : String) : Option String :=
  let name := (shortAttributes.lookup word).getD word
  if attributeNames.contains name then some name else none

/-- A style.  Of two settings of an attribute the first counts. -/
structure Style where
  attributes : List (String × Bool)
  colour : Option String
  background : Option String
  link : Option String
  deriving DecidableEq, Repr

namespace Style

/-- The style that changes nothing. -/
def plain : Style := ⟨[], none, none, none⟩

/-- Read the words of a style; none if they tell no style. -/
def ofWords? (style : Style) : List (List Char) → Except IntegerFault (Option Style)
  | [] => .ok (some style)
  | word :: rest => do
    let name := String.ofList (lowered word)
    if name = "on" then
      match rest with
      | [] => .ok none
      | word :: rest =>
        let colour := lowered word
        if ← isColour colour then
          ofWords? { style with background := some (String.ofList colour) } rest
        else .ok none
    else if name = "not" then
      match rest with
      | [] => .ok none
      | word :: rest =>
        match attribute? (String.ofList word) with
        | some long => ofWords? { style with attributes := (long, false) :: style.attributes } rest
        | none => .ok none
    else if name = "link" then
      match rest with
      | [] => .ok none
      | word :: rest => ofWords? { style with link := some (String.ofList word) } rest
    else
      match attribute? name with
      | some long => ofWords? { style with attributes := (long, true) :: style.attributes } rest
      | none =>
        if ← isColour (lowered word) then ofWords? { style with colour := some name } rest
        else .ok none

/-- The words of the name of a style. -/
def words (style : Style) : List String :=
  let attributes := attributeNames.filterMap fun name =>
    (style.attributes.lookup name).map fun isOn => if isOn then name else "not " ++ name
  attributes ++ style.colour.toList ++
    (style.background.map fun colour => "on " ++ colour).toList ++
    (style.link.map fun target => "link " ++ target).toList

/-- The name of a style. -/
def name (style : Style) : String :=
  if style.words.isEmpty then "none" else String.intercalate " " style.words

end Style

/-- The words of a text between its blanks. -/
def wordsOf (cs : List Char) : List (List Char) :=
  (cs.splitOnP isBlank).filter (!·.isEmpty)

/-- The name of the style that a text tells. -/
def styleName (cs : List Char) : Except IntegerFault String := do
  let text := trim cs
  if text = "none".toList then return "none"
  match ← Style.ofWords? .plain (wordsOf text) with
  | some style => return style.name
  | none => return String.ofList (lowered text)

end AgentFlow.Console
