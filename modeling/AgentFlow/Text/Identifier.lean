/-!
# Identifiers

The names of agents, macros and variables: one or more ASCII letters, digits,
underscores and hyphens.
-/

namespace AgentFlow.Text

/-- A character of an identifier. -/
def isIdentifierChar (c : Char) : Bool :=
  c.isAlphanum || c == '_' || c == '-'

/-- Whether the characters spell an identifier. -/
def spellsIdentifier (cs : List Char) : Bool :=
  !cs.isEmpty && cs.all isIdentifierChar

/-- Whether the text is an identifier. -/
def isIdentifier (s : String) : Bool :=
  spellsIdentifier s.toList

/-- Split off the longest run of identifier characters. -/
def takeIdentifier (cs : List Char) : List Char × List Char :=
  (cs.takeWhile isIdentifierChar, cs.dropWhile isIdentifierChar)

theorem takeIdentifier_append (cs : List Char) :
    (takeIdentifier cs).1 ++ (takeIdentifier cs).2 = cs :=
  List.takeWhile_append_dropWhile

end AgentFlow.Text
