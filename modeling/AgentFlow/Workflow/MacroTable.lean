import AgentFlow.Workflow.Macro

/-!
# Chains of macros

A table of macros, in the order of their definition.  The base of a macro may be
another macro; `resolve` follows the bases until one names an agent.  A chain visits
no macro twice, so following one ends after as many steps as there are macros.
-/

namespace AgentFlow

/-- Macros in the order of their definition. -/
abbrev MacroTable := List Macro

namespace MacroTable

/-- The macro of a name. -/
def find? (macros : MacroTable) (name : String) : Option Macro :=
  List.find? (·.name = name) macros

/-- Put a macro into the table.  One of the same name is replaced in its place. -/
def insert (definition : Macro) : MacroTable → MacroTable
  | [] => [definition]
  | first :: rest =>
    if first.name = definition.name then definition :: rest
    else first :: insert definition rest

/-- The names of the macros, sorted. -/
def sortedNames (macros : MacroTable) : List String :=
  (macros.map Macro.name).mergeSort (· ≤ ·)

/-- The macros that a chain has not visited. -/
def unvisited (macros : MacroTable) (chain : List String) : MacroTable :=
  macros.filter fun definition => !chain.contains definition.name

theorem mem_of_find? {macros : MacroTable} {name : String} {definition : Macro}
    (found : find? macros name = some definition) :
    definition ∈ macros ∧ definition.name = name := by
  refine ⟨List.mem_of_find?_eq_some found, ?_⟩
  simpa using List.find?_some found

theorem filter_length_lt {α : Type} {keep keepLess : α → Bool} {items : List α} {item : α}
    (less : ∀ x, keepLess x = true → keep x = true) (member : item ∈ items)
    (kept : keep item = true) (dropped : keepLess item = false) :
    (items.filter keepLess).length < (items.filter keep).length := by
  induction items with
  | nil => cases member
  | cons first rest induction =>
    have restLe : (rest.filter keepLess).length ≤ (rest.filter keep).length := by
      rw [← List.countP_eq_length_filter, ← List.countP_eq_length_filter]
      exact List.countP_mono_left fun x _ => less x
    rcases List.mem_cons.mp member with rfl | inRest
    · simp only [List.filter_cons, kept, dropped, if_true, Bool.false_eq_true, if_false,
        List.length_cons]
      omega
    · have shorter := induction inRest
      by_cases keepFirst : keepLess first = true
      · simp [keepFirst, less first keepFirst, shorter]
      · by_cases keptFirst : keep first = true
        · simp only [List.filter_cons, keepFirst, keptFirst, if_true, if_false, List.length_cons,
            Bool.false_eq_true]
          omega
        · simp [keepFirst, keptFirst, shorter]

/-- Visiting a new macro leaves fewer to visit. -/
theorem unvisited_length_lt {macros : MacroTable} {chain : List String} {next : Macro}
    {name : String} (isNew : name ∉ chain) (found : find? macros name = some next) :
    (unvisited macros (chain ++ [name])).length < (unvisited macros chain).length := by
  obtain ⟨member, rfl⟩ := mem_of_find? found
  refine filter_length_lt ?_ member ?_ ?_
  · intro definition kept
    simp only [List.contains_eq_mem, List.mem_append, not_or, Bool.not_eq_true',
      decide_eq_false_iff_not] at kept ⊢
    exact kept.1
  · simpa using isNew
  · simp

/-- Follow the base of a macro.  `chain` holds the names visited so far, and
`preambles` their texts, the innermost first. -/
def follow (macros : MacroTable) (chain : List String) (preambles : List String)
    (definition : Macro) : Except Error (String × List String) :=
  match Macro.link? definition.base with
  | none => .ok (definition.base, preambles)
  | some name =>
    if isNew : name ∉ chain then
      match found : find? macros name with
      | none => .error (.undefinedMacro name .unplaced (sortedNames macros))
      | some next =>
        have := unvisited_length_lt isNew found
        follow macros (chain ++ [name]) (next.prompt :: preambles) next
    else .error (.circularMacro name .unplaced (chain ++ [name]))
termination_by (unvisited macros chain).length

/-- The agent at the end of the chain of a macro, and the texts of the macros on the
chain, the innermost first. -/
def resolve (macros : MacroTable) (name : String) : Except Error (String × List String) :=
  match find? macros name with
  | none => .error (.undefinedMacro name .unplaced (sortedNames macros))
  | some definition => follow macros [name] [definition.prompt] definition

end MacroTable

end AgentFlow
