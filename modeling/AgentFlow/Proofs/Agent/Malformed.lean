import AgentFlow.Proofs.Agent.Persistence
import AgentFlow.Proofs.Agent.Promotion

/-!
# Malformed files

What a registry file or a journal holds may be anything.  Nearly all of it that cannot be used
becomes an error of the registry file.  This module tells what does not: octets that are no
text, texts that cannot be read as JSON for their depth or their digits, infinite counts, and
in a journal also members of the wrong kind and paths that no file system holds.
-/

namespace AgentFlow

open AgentFlow.Text

namespace Entry

variable {name : String} {fields : List (Value × Value)} {fault : ValueFault}

end Entry

namespace Registry

variable {path : Path} {content : Content} {fault : Fault} {error : Error}

/-- Among the entries of an object the first one that cannot be used has an infinite count. -/
inductive CountsInfinite : List (Value × Value) → Prop where
  | here {key : Value} {fields rest : List (Value × Value)} {negative : Bool} :
      Value.field "usageCount" fields = .float (.infinite negative) →
      CountsInfinite ((key, .table fields) :: rest)
  | later {key value : Value} {entry : Entry} {rest : List (Value × Value)} :
      Entry.ofValue key.displayText value = .ok entry → CountsInfinite rest →
      CountsInfinite ((key, value) :: rest)

/-- The faults that the content of a registry file ends in without an error of the registry. -/
inductive Unforeseen (content : Content) : Fault → Prop where
  | octets {fault : Utf8Fault} : content.read = .error fault → Unforeseen content (.utf8 fault)
  | json {text : String} {fault : Json.Fault} :
      content.read = .ok text → (trim text.toList).isEmpty = false →
      Json.read text = .error fault → fault ≠ .malformed →
      Unforeseen content (.ofJson fault)
  | infiniteCount {text : String} {entries : List (Value × Value)} :
      content.read = .ok text → (trim text.toList).isEmpty = false →
      Json.read text = .ok (.table entries) → CountsInfinite entries →
      Unforeseen content (.value .infiniteCount)

end Registry

namespace Promotion

variable {disk : Disk} {journal : Path} {content : Content} {error : Error}
  {promotion : Promotion}

/-- A journal has a member. -/
def Has (content : Content) (key : String) (value : Value) : Prop :=
  ∃ text journal, content.read = .ok text ∧ Json.read text = .ok journal ∧
    member journal key = .ok value

/-- The faults that the content of a journal ends in without an error of the registry. -/
inductive Unforeseen (content : Content) : Fault → Prop where
  | tooDeep {text : String} :
      content.read = .ok text → Json.read text = .error .tooDeep →
      Unforeseen content (.value .tooDeep)
  | entry {value : Value} :
      Has content "entry" value → (∀ fields, value ≠ .table fields) →
      Unforeseen content (.value (.wrongKind .entry value.kind))
  | infiniteCount {fields : List (Value × Value)} {negative : Bool} :
      Has content "entry" (.table fields) →
      Value.field "usageCount" fields = .float (.infinite negative) →
      Unforeseen content (.value .infiniteCount)
  | name {value : Value} {fault : ValueFault} :
      Has content "name" value → keyOf value = .error fault → Unforeseen content (.value fault)
  | nul {text : String} :
      Has content "target" (.text text) → (Path.ofText text).hasNul = true →
      Unforeseen content .nulInPath
  | tooLong {key text : String} :
      key = "source" ∨ key = "target" → Has content key (.text text) →
      ¬Disk.Fits (Path.ofText text) → Unforeseen content (.file .nameTooLong)

/-- What a promotion that is read from a journal owes to the journal. -/
structure ReadFrom (content : Content) (promotion : Promotion) : Prop where
  source : ∃ text, Has content "source" (.text text) ∧ promotion.source = Path.ofText text
  target : ∃ text, Has content "target" (.text text) ∧ promotion.target = Path.ofText text
  name : Has content "name" promotion.name
  countable : promotion.entry.IsCountable

end Promotion

end AgentFlow
