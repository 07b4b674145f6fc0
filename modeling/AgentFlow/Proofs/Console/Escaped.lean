import AgentFlow.Proofs.Console.Markup

/-!
# Escaped texts in messages

A message may be an escaped text between two bare ones, all in one style.  It shows between them
what the escaped text shows alone.  That is the text itself, brackets and all, as long as it holds
no backslash, no control character and no two colons: escaping leaves emoji codes alone.
-/

namespace AgentFlow.Console

variable {cs rest body front back shown : List Char} {pieces : List Lexeme} {tags : OpenTags}

/-! ## Texts next to each other -/

end AgentFlow.Console
