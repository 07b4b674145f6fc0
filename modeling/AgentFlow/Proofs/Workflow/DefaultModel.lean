import AgentFlow.Proofs.Workflow.Macro
import AgentFlow.Workflow.Expanded

/-!
# The default model

The model of a macro goes along with the expanded calls and decides nothing.  Two
expansions of a source with different default models give the same texts.
-/

namespace AgentFlow

open AgentFlow.Text

namespace Macro

/-- What expansion reads of a macro: all but its model. -/
def withoutModel (definition : Macro) : Macro :=
  { definition with model := .null }

section WithoutModel

variable {definition other : Macro} (same : definition.withoutModel = other.withoutModel)

include same

theorem name_eq_of_withoutModel : definition.name = other.name :=
  (congrArg Macro.name same :)

theorem base_eq_of_withoutModel : definition.base = other.base :=
  (congrArg Macro.base same :)

theorem prompt_eq_of_withoutModel : definition.prompt = other.prompt :=
  (congrArg Macro.prompt same :)

end WithoutModel

theorem ofText_default {text : List Char} {line : Int} {default : Value} {definition : Macro}
    (defined : ofText text line default = .ok definition) (other : Value) :
    ∃ alike, ofText text line other = .ok alike ∧
      alike.withoutModel = definition.withoutModel := by
  obtain ⟨name, rest, block, fields, base, prompt, head, taken, read, basePresent,
    promptPresent, valid, rfl⟩ := ofText_eq_ok_iff.mp defined
  exact ⟨_, ofText_eq_ok_iff.mpr ⟨name, rest, block, fields, base, prompt, head, taken, read,
    basePresent, promptPresent, valid, rfl⟩, rfl⟩

end Macro

namespace MacroTable

/-- Two tables that differ at most in the models of their macros. -/
def Alike (macros other : MacroTable) : Prop :=
  macros.map Macro.withoutModel = other.map Macro.withoutModel

theorem find?_alike {macros other : MacroTable} (alike : Alike macros other) (name : String) :
    (find? macros name).map Macro.withoutModel = (find? other name).map Macro.withoutModel := by
  have mapped (table : MacroTable) :
      (find? table name).map Macro.withoutModel =
        List.find? (·.name = name) (table.map Macro.withoutModel) := by
    rw [List.find?_map]
    rfl
  rw [mapped, mapped, alike]

theorem follow_of_agent {macros : MacroTable} {definition : Macro}
    (link : Macro.link? definition.base = none) (chain preambles : List String) :
    follow macros chain preambles definition = .ok (definition.base, preambles) := by
  unfold follow
  split
  · rfl
  · rename_i name found
    rw [link] at found
    cases found

theorem follow_of_link {macros : MacroTable} {chain : List String} {definition next : Macro}
    {name : String} (link : Macro.link? definition.base = some name) (isNew : name ∉ chain)
    (found : find? macros name = some next) (preambles : List String) :
    follow macros chain preambles definition =
      follow macros (chain ++ [name]) (next.prompt :: preambles) next := by
  rw [follow]
  split
  · rename_i noLink
    rw [link] at noLink
    cases noLink
  · rename_i other otherLink
    rw [link] at otherLink
    cases otherLink
    rw [dif_pos isNew]
    split
    · rename_i notFound
      rw [found] at notFound
      cases notFound
    · rename_i next otherFound
      rw [found] at otherFound
      cases otherFound
      rfl

theorem follow_alike {macros other : MacroTable} (alike : Alike macros other)
    {chain preambles : List String} {definition alikeDefinition : Macro}
    (alikeDefinitions : definition.withoutModel = alikeDefinition.withoutModel)
    {answer : String × List String}
    (followed : follow macros chain preambles definition = .ok answer) :
    follow other chain preambles alikeDefinition = .ok answer := by
  have sameBase : definition.base = alikeDefinition.base := Macro.base_eq_of_withoutModel alikeDefinitions
  fun_induction follow macros chain preambles definition generalizing alikeDefinition with
  | case1 chain preambles definition link =>
      cases followed
      rw [sameBase] at link ⊢
      exact follow_of_agent link chain preambles
  | case2 => cases followed
  | case3 chain preambles definition name link isNew next found _ induction =>
      have tables := find?_alike alike name
      rw [found] at tables
      obtain ⟨alikeNext, otherFound, alikeNexts⟩ := Option.map_eq_some_iff.mp tables.symm
      have samePrompt := Macro.prompt_eq_of_withoutModel alikeNexts
      rw [sameBase] at link
      rw [follow_of_link link isNew otherFound, samePrompt]
      exact induction alikeNexts.symm followed (Macro.base_eq_of_withoutModel alikeNexts.symm)
  | case4 => cases followed

theorem resolve_alike {macros other : MacroTable} (alike : Alike macros other) {name : String}
    {answer : String × List String} (resolved : resolve macros name = .ok answer) :
    resolve other name = .ok answer := by
  unfold resolve at resolved ⊢
  split at resolved
  · cases resolved
  · rename_i definition found
    have tables := find?_alike alike name
    rw [found] at tables
    obtain ⟨alikeDefinition, otherFound, alikeDefinitions⟩ :=
      Option.map_eq_some_iff.mp tables.symm
    have samePrompt := Macro.prompt_eq_of_withoutModel alikeDefinitions
    rw [otherFound]
    simp only [samePrompt]
    exact follow_alike alike alikeDefinitions.symm resolved

end MacroTable

namespace Expanded

open MacroTable

theorem collect_default {default : Value} {macros all alikeMacros : MacroTable}
    {statements remaining : List Statement}
    (collected : collect default macros statements = .ok (all, remaining))
    (alike : Alike macros alikeMacros) (other : Value) :
    ∃ alikeAll, collect other alikeMacros statements = .ok (alikeAll, remaining) ∧
      Alike all alikeAll := by
  induction statements generalizing macros alikeMacros remaining with
  | nil =>
      cases collected
      exact ⟨alikeMacros, rfl, alike⟩
  | cons statement rest induction =>
      unfold collect at collected ⊢
      split at collected
      · rename_i isDefinition
        split at collected
        · cases collected
        · rename_i definition defined
          obtain ⟨alikeDefinition, alikeDefined, alikeDefinitions⟩ :=
            Macro.ofText_default defined other
          split at collected
          · cases collected
          · rename_i notFound
            have sameName := Macro.name_eq_of_withoutModel alikeDefinitions
            have tables := find?_alike alike definition.name
            rw [notFound] at tables
            have alikeNotFound := Option.map_eq_none_iff.mp tables.symm
            have alikeNow : Alike (macros ++ [definition]) (alikeMacros ++ [alikeDefinition]) := by
              unfold Alike at alike ⊢
              simp [alike, alikeDefinitions]
            simp only [isDefinition, if_true, alikeDefined, sameName, alikeNotFound]
            exact induction collected alikeNow
      · rename_i noDefinition
        obtain ⟨⟨others, kept⟩, collectedRest, same⟩ := map_eq_ok_iff.mp collected
        cases same
        obtain ⟨alikeAll, alikeCollected, alikeAlls⟩ := induction collectedRest alike
        refine ⟨alikeAll, ?_, alikeAlls⟩
        simp [noDefinition, alikeCollected, Except.map]

theorem expandCall_alike {macros other : MacroTable} (alike : Alike macros other)
    {statement expanded : Statement} (expands : expandCall macros statement = .ok expanded) :
    ∃ alikeExpanded, expandCall other statement = .ok alikeExpanded ∧
      alikeExpanded.text = expanded.text := by
  unfold expandCall at expands ⊢
  dsimp only at expands ⊢
  split at expands
  · cases expands
  · rename_i form read
    split at expands
    · cases expands
    · rename_i nonempty
      obtain ⟨⟨agent, preambles⟩, resolved, expands⟩ := bind_eq_ok_iff.mp expands
      obtain ⟨invocation, made, expands⟩ := bind_eq_ok_iff.mp expands
      split at expands
      · cases expands
      · rename_i expandedText serialized
        cases expands
        have alikeResolved := resolve_alike alike (mapError_eq_ok_iff.mp resolved)
        rw [if_neg nonempty, mapError_eq_ok_iff.mpr alikeResolved]
        simp only [bind, Except.bind, made, serialized]
        exact ⟨_, rfl, rfl⟩

theorem expandStatement_alike {macros other : MacroTable} (alike : Alike macros other)
    {statement expanded : Statement} (expands : expandStatement macros statement = .ok expanded) :
    ∃ alikeExpanded, expandStatement other statement = .ok alikeExpanded ∧
      alikeExpanded.text = expanded.text := by
  unfold expandStatement at expands ⊢
  split at expands
  · rename_i isCall
    rw [if_pos isCall]
    exact expandCall_alike alike expands
  · rename_i noCall
    rw [if_neg noCall]
    exact ⟨expanded, expands, rfl⟩

theorem expandAll_alike {macros other : MacroTable} (alike : Alike macros other)
    {statements expandedAll : List Statement}
    (expands : expandAll macros statements = .ok expandedAll) :
    ∃ alikeAll, expandAll other statements = .ok alikeAll ∧
      alikeAll.map (·.text) = expandedAll.map (·.text) := by
  induction statements generalizing expandedAll with
  | nil =>
      cases expands
      exact ⟨[], rfl, rfl⟩
  | cons statement rest induction =>
      unfold expandAll at expands
      obtain ⟨first, expandedFirst, expands⟩ := bind_eq_ok_iff.mp expands
      obtain ⟨others, expandedRest, expands⟩ := bind_eq_ok_iff.mp expands
      cases expands
      obtain ⟨alikeFirst, alikeExpanded, sameText⟩ := expandStatement_alike alike expandedFirst
      obtain ⟨alikeOthers, alikeRest, sameTexts⟩ := induction expandedRest
      refine ⟨alikeFirst :: alikeOthers, ?_, by simp [sameText, sameTexts]⟩
      simp [expandAll, alikeExpanded, alikeRest, bind, Except.bind]

/-- The default model changes no text of an expanded source. -/
theorem ofSource_default {source : String} {default : Value} {expanded : Expanded}
    (expands : ofSource source default = .ok expanded) (other : Value) :
    ∃ alike, ofSource source other = .ok alike ∧
      alike.statements.map (·.text) = expanded.statements.map (·.text) := by
  unfold ofSource at expands
  obtain ⟨⟨macros, remaining⟩, collected, expands⟩ := bind_eq_ok_iff.mp expands
  obtain ⟨statements, expandedEach, expands⟩ := bind_eq_ok_iff.mp expands
  cases expands
  obtain ⟨alikeMacros, alikeCollected, alike⟩ :=
    collect_default collected (rfl : Alike [] []) other
  obtain ⟨alikeStatements, alikeExpanded, sameTexts⟩ := expandAll_alike alike expandedEach
  refine ⟨⟨alikeStatements, alikeMacros⟩, ?_, sameTexts⟩
  simp [ofSource, alikeCollected, alikeExpanded, bind, Except.bind]

end Expanded

end AgentFlow
