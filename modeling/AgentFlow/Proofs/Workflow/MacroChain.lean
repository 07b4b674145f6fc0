import AgentFlow.Workflow.MacroTable

/-!
# Chains

The bases of macros lead from a name to an agent.  `Chain` is this way as a relation
without a record of what was visited; resolving a name gives the agent at its end and
the prompts along it.
-/

namespace AgentFlow.MacroTable

/-- The macros that a name leads through, up to the one whose base is an agent. -/
inductive Chain (macros : MacroTable) : String → List Macro → String → Prop where
  | agent {name : String} {definition : Macro} :
      find? macros name = some definition → Macro.link? definition.base = none →
        Chain macros name [definition] definition.base
  | link {name next agent : String} {definition : Macro} {chain : List Macro} :
      find? macros name = some definition → Macro.link? definition.base = some next →
        Chain macros next chain agent → Chain macros name (definition :: chain) agent

namespace Chain

variable {macros : MacroTable} {name agent : String} {chain : List Macro}

theorem subset (leads : Chain macros name chain agent) : chain ⊆ macros := by
  induction leads with
  | agent found _ =>
      intro definition member
      obtain rfl := List.mem_singleton.mp member
      exact (mem_of_find? found).1
  | link found _ _ induction =>
      exact List.cons_subset.mpr ⟨(mem_of_find? found).1, induction⟩

/-- The first macro of a chain is the one of the name. -/
theorem head (leads : Chain macros name chain agent) :
    ∃ definition others, chain = definition :: others ∧ find? macros name = some definition := by
  cases leads with
  | agent found _ => exact ⟨_, [], rfl, found⟩
  | link found _ _ => exact ⟨_, _, rfl, found⟩

/-- The agent of a chain is the base of a macro that names no other macro. -/
theorem exists_base (leads : Chain macros name chain agent) :
    ∃ definition ∈ macros, definition.base = agent ∧ Macro.link? agent = none := by
  induction leads with
  | agent found noLink => exact ⟨_, (mem_of_find? found).1, rfl, noLink⟩
  | link _ _ _ induction => exact induction

end Chain

theorem chain_of_follow {macros : MacroTable} {visited preambles before : List String}
    {name agent : String} {definition : Macro} {all : List String}
    (found : find? macros name = some definition) (starts : preambles = definition.prompt :: before)
    (followed : follow macros visited preambles definition = .ok (agent, all)) :
    ∃ chain, Chain macros name chain agent ∧ all = chain.reverse.map Macro.prompt ++ before := by
  fun_induction follow macros visited preambles definition generalizing name before with
  | case1 visited preambles definition noLink =>
      cases followed
      refine ⟨[definition], .agent found noLink, ?_⟩
      simpa using starts
  | case2 => cases followed
  | case3 visited preambles definition other link isNew next foundNext _ induction =>
      obtain ⟨chain, leads, texts⟩ := induction foundNext rfl followed
      refine ⟨definition :: chain, .link found link leads, ?_⟩
      rw [texts, starts]
      simp
  | case4 => cases followed

/-- Resolving a name follows its chain and keeps the prompts, the last one first. -/
theorem chain_of_resolve {macros : MacroTable} {name agent : String} {preambles : List String}
    (resolved : resolve macros name = .ok (agent, preambles)) :
    ∃ chain, Chain macros name chain agent ∧ preambles = chain.reverse.map Macro.prompt := by
  unfold resolve at resolved
  split at resolved
  · cases resolved
  · rename_i definition found
    obtain ⟨chain, leads, texts⟩ := chain_of_follow found rfl resolved
    refine ⟨chain, leads, ?_⟩
    rwa [List.append_nil] at texts

/-- The errors of a name that leads to no agent. -/
inductive Unresolved : Error → Prop where
  | undefinedMacro {name : String} {place : Place} {available : List String} :
      Unresolved (.undefinedMacro name place available)
  | circularMacro {name : String} {place : Place} {chain : List String} :
      Unresolved (.circularMacro name place chain)

theorem Unresolved.placedAt {e : Error} (unresolved : Unresolved e) (place : Place) :
    Unresolved (e.placedAt place) := by
  cases unresolved with
  | undefinedMacro => exact .undefinedMacro
  | circularMacro => exact .circularMacro

theorem unresolved_of_follow {macros : MacroTable} {visited preambles : List String}
    {definition : Macro} {e : Error}
    (failed : follow macros visited preambles definition = .error e) : Unresolved e := by
  fun_induction follow macros visited preambles definition with
  | case1 => cases failed
  | case2 =>
      cases failed
      exact .undefinedMacro
  | case3 visited preambles definition name link isNew next found _ induction =>
      exact induction failed
  | case4 =>
      cases failed
      exact .circularMacro

theorem unresolved_of_resolve {macros : MacroTable} {name : String} {e : Error}
    (failed : resolve macros name = .error e) : Unresolved e := by
  unfold resolve at failed
  split at failed
  · cases failed
    exact .undefinedMacro
  · exact unresolved_of_follow failed

end AgentFlow.MacroTable
