import AgentFlow.Proofs.Workflow.DefaultModel

/-!
# Chains that lead to no agent

A trail is the way that the bases of macros lead from a name, as far as it visits no name
twice.  Resolving a name fails just when its trail comes to a name that is not defined, or
to a macro whose base names a macro on the trail again.
-/

namespace AgentFlow.MacroTable

/-- The names visited on the way from a name, in order, and the last one of them. -/
inductive Trail (macros : MacroTable) (name : String) : List String → String → Prop where
  | start : Trail macros name [name] name
  | link {visited : List String} {last next : String} {definition : Macro} :
      Trail macros name visited last → find? macros last = some definition →
      Macro.link? definition.base = some next → next ∉ visited →
      Trail macros name (visited ++ [next]) next

/-- Why a name leads to no agent. -/
inductive LeadsAstray (macros : MacroTable) (name : String) : Error → Prop where
  | undefined {visited : List String} {missing : String} :
      Trail macros name visited missing → find? macros missing = none →
      LeadsAstray macros name (.undefinedMacro missing .unplaced (sortedNames macros))
  | circular {visited : List String} {last again : String} {definition : Macro} :
      Trail macros name visited last → find? macros last = some definition →
      Macro.link? definition.base = some again → again ∈ visited →
      LeadsAstray macros name (.circularMacro again .unplaced (visited ++ [again]))

variable {macros : MacroTable} {name last : String} {visited : List String} {definition : Macro}

/-- Resolving a name is to go on from any macro on its trail. -/
theorem Trail.resolve_eq_follow (trail : Trail macros name visited last)
    (found : find? macros last = some definition) :
    ∃ preambles, resolve macros name = follow macros visited preambles definition := by
  induction trail generalizing definition with
  | start =>
      refine ⟨[definition.prompt], ?_⟩
      unfold resolve
      rw [found]
  | link before foundBefore link isNew induction =>
      obtain ⟨preambles, same⟩ := induction foundBefore
      exact ⟨definition.prompt :: preambles, same.trans (follow_of_link link isNew found preambles)⟩

theorem follow_of_missing {missing : String} {preambles : List String}
    (link : Macro.link? definition.base = some missing) (isNew : missing ∉ visited)
    (notFound : find? macros missing = none) :
    follow macros visited preambles definition =
      .error (.undefinedMacro missing .unplaced (sortedNames macros)) := by
  rw [follow]
  split
  · rename_i noLink
    rw [link] at noLink
    cases noLink
  · rename_i other otherLink
    obtain rfl : missing = other := Option.some.inj (link.symm.trans otherLink)
    rw [dif_pos isNew]
    split
    · rfl
    · rename_i found
      rw [notFound] at found
      cases found

theorem follow_of_visited {again : String} {preambles : List String}
    (link : Macro.link? definition.base = some again) (isOld : again ∈ visited) :
    follow macros visited preambles definition =
      .error (.circularMacro again .unplaced (visited ++ [again])) := by
  rw [follow]
  split
  · rename_i noLink
    rw [link] at noLink
    cases noLink
  · rename_i other otherLink
    obtain rfl : again = other := Option.some.inj (link.symm.trans otherLink)
    rw [dif_neg (not_not_intro isOld)]

theorem leadsAstray_of_follow {preambles : List String} {e : Error}
    (trail : Trail macros name visited last) (found : find? macros last = some definition)
    (failed : follow macros visited preambles definition = .error e) :
    LeadsAstray macros name e := by
  fun_induction follow macros visited preambles definition generalizing last with
  | case1 => cases failed
  | case2 visited preambles definition missing link isNew notFound =>
      cases failed
      exact .undefined (.link trail found link isNew) notFound
  | case3 visited preambles definition other link isNew next foundNext _ induction =>
      exact induction (.link trail found link isNew) foundNext failed
  | case4 visited preambles definition again link isOld =>
      cases failed
      exact .circular trail found link (not_not.mp isOld)

theorem LeadsAstray.resolve_eq {e : Error} (astray : LeadsAstray macros name e) :
    resolve macros name = .error e := by
  cases astray with
  | undefined trail notFound =>
      cases trail with
      | start =>
          unfold resolve
          rw [notFound]
      | link before found link isNew =>
          obtain ⟨preambles, same⟩ := before.resolve_eq_follow found
          rw [same, follow_of_missing link isNew notFound]
  | circular trail found link isOld =>
      obtain ⟨preambles, same⟩ := trail.resolve_eq_follow found
      rw [same, follow_of_visited link isOld]

/-- A name is not resolved just when it leads astray. -/
theorem resolve_eq_error_iff {e : Error} :
    resolve macros name = .error e ↔ LeadsAstray macros name e := by
  constructor
  · intro failed
    unfold resolve at failed
    split at failed
    · rename_i notFound
      cases failed
      exact .undefined .start notFound
    · rename_i definition found
      exact leadsAstray_of_follow .start found failed
  · exact LeadsAstray.resolve_eq

end AgentFlow.MacroTable
