import AgentFlow.Proofs.Workflow.Trail
import Mathlib.Data.List.Chain
import Mathlib.Data.List.Nodup
import Mathlib.Data.List.Perm.Subperm

/-!
# Paths of macros

A base that is a dollar sign and a name leads on to the macro of that name.  A path goes
from a name along different macros, and it comes to its end in one of three ways: the last
macro names an agent, the name that comes next is not defined, or it is on the path
already.  Resolving a name tells which of them it is.

The loop that follows the bases is told turn by turn.  Every turn stands at the end of a
path, and no path is longer than the table, so it takes no more turns than there are macros.
-/

namespace AgentFlow

namespace MacroTable

/-- Different macros, the first of the name, each but the last with the next one as its base. -/
structure IsPath (macros : MacroTable) (name : String) (path : List Macro) : Prop where
  starts : path.head?.map Macro.name = some name
  defined : ∀ definition ∈ path, find? macros definition.name = some definition
  linked : path.IsChain fun definition next => definition.base = "$" ++ next.name
  distinct : (path.map Macro.name).Nodup

/-- The name that comes after a path: the one that its last macro leads on to, or where an
empty path starts. -/
inductive LeadsTo (macros : MacroTable) (name : String) : List Macro → String → Prop where
  | start : LeadsTo macros name [] name
  | next {path : List Macro} {definition : Macro} {next : String} :
      IsPath macros name (path ++ [definition]) → definition.base = "$" ++ next →
      LeadsTo macros name (path ++ [definition]) next

/-- What a name comes to. -/
inductive ComesTo (macros : MacroTable) (name : String) :
    Except Error (String × List String) → Prop where
  | agent {path : List Macro} {definition : Macro} :
      IsPath macros name (path ++ [definition]) → definition.base.toList.head? ≠ some '$' →
      ComesTo macros name
        (.ok (definition.base, ((path ++ [definition]).map Macro.prompt).reverse))
  | undefined {path : List Macro} {missing : String} :
      LeadsTo macros name path missing → find? macros missing = none →
      ComesTo macros name (.error (.undefinedMacro missing .unplaced (sortedNames macros)))
  | circular {path : List Macro} {again : String} :
      LeadsTo macros name path again → again ∈ path.map Macro.name →
      ComesTo macros name
        (.error (.circularMacro again .unplaced (path.map Macro.name ++ [again])))

variable {macros : MacroTable} {name next : String} {path : List Macro} {definition : Macro}

theorem leadsTo_append_iff :
    LeadsTo macros name (path ++ [definition]) next ↔
      IsPath macros name (path ++ [definition]) ∧ definition.base = "$" ++ next := by
  constructor
  · intro leads
    generalize whole : path ++ [definition] = all at leads
    cases leads with
    | start => simp at whole
    | next isPath link =>
        obtain ⟨rfl, rfl⟩ := List.append_singleton_inj.mp whole
        exact ⟨isPath, link⟩
  · rintro ⟨isPath, link⟩
    exact .next isPath link

namespace IsPath

/-- A path is not longer than the table. -/
theorem length_le (isPath : IsPath macros name path) : path.length ≤ macros.length := by
  have different : path.Nodup := List.Nodup.of_map Macro.name isPath.distinct
  have within : path ⊆ macros := fun member inPath =>
    (mem_of_find? (isPath.defined member inPath)).1
  exact (different.subperm within).length_le

theorem found (isPath : IsPath macros name (path ++ [definition])) :
    find? macros definition.name = some definition :=
  isPath.defined definition (by simp)

/-- The last macro of a path is new there. -/
theorem notMem (isPath : IsPath macros name (path ++ [definition])) :
    definition.name ∉ path.map Macro.name := by
  have distinct := isPath.distinct
  rw [List.map_append, List.map_singleton, ← List.concat_eq_append, List.nodup_concat] at distinct
  exact distinct.1

/-- A path without its last macro leads to the name of that macro. -/
theorem leadsTo (isPath : IsPath macros name (path ++ [definition])) :
    LeadsTo macros name path definition.name := by
  obtain rfl | ⟨front, before, rfl⟩ := List.eq_nil_or_concat path
  · obtain rfl : definition.name = name := by simpa using isPath.starts
    exact .start
  · rw [List.concat_eq_append] at isPath ⊢
    obtain ⟨linked, -, link⟩ := List.isChain_append.mp isPath.linked
    refine .next ⟨?_, ?_, linked, ?_⟩ (link before (by simp) definition (by simp))
    · have starts := isPath.starts
      rwa [List.head?_append_of_ne_nil _ (by simp)] at starts
    · exact fun member inFront => isPath.defined member (List.mem_append_left _ inFront)
    · have distinct := isPath.distinct
      rw [List.map_append] at distinct
      exact distinct.of_append_left

end IsPath

/-- A path goes on with the macro that it leads to, if that one is new. -/
theorem LeadsTo.isPath (leads : LeadsTo macros name path next)
    (found : find? macros next = some definition) (isNew : next ∉ path.map Macro.name) :
    IsPath macros name (path ++ [definition]) := by
  obtain ⟨-, rfl⟩ := mem_of_find? found
  cases leads with
  | start =>
      refine ⟨rfl, fun member inPath => ?_, .singleton _, by simp⟩
      obtain rfl : member = definition := by simpa using inPath
      exact found
  | next isPath link =>
      refine ⟨?_, fun member inPath => ?_, isPath.linked.append (.singleton _) ?_, ?_⟩
      · rw [List.head?_append_of_ne_nil _ (by simp)]
        exact isPath.starts
      · rcases List.mem_append.mp inPath with inFront | isLast
        · exact isPath.defined member inFront
        · obtain rfl : member = definition := by simpa using isLast
          exact found
      · simpa using link
      · rw [List.map_append, List.map_singleton, ← List.concat_eq_append, List.nodup_concat]
        exact ⟨isNew, isPath.distinct⟩

/-- Resolving a name is to go on from the end of any path. -/
theorem IsPath.resolve_eq_follow (isPath : IsPath macros name (path ++ [definition])) :
    resolve macros name =
      follow macros ((path ++ [definition]).map Macro.name)
        ((path ++ [definition]).map Macro.prompt).reverse definition := by
  induction path using List.reverseRecOn generalizing definition with
  | nil =>
      have found := isPath.found
      obtain rfl : definition.name = name := by simpa using isPath.starts
      unfold resolve
      rw [found]
      rfl
  | append_singleton front before induction =>
      obtain ⟨isFront, link⟩ := leadsTo_append_iff.mp isPath.leadsTo
      have linked := Macro.link?_eq_some_iff.mpr link
      rw [induction isFront, follow_of_link linked isPath.notMem isPath.found]
      simp

/-- What a name comes to is what resolving it gives. -/
theorem ComesTo.resolve_eq {answer : Except Error (String × List String)}
    (comes : ComesTo macros name answer) : resolve macros name = answer := by
  cases comes with
  | agent isPath noDollar =>
      rw [isPath.resolve_eq_follow, follow_of_agent (Macro.link?_eq_none_iff.mpr noDollar)]
  | undefined leads notFound =>
      cases leads with
      | start =>
          unfold resolve
          rw [notFound]
      | next isPath link =>
          have linked := Macro.link?_eq_some_iff.mpr link
          rw [isPath.resolve_eq_follow, follow_of_missing linked ?_ notFound]
          intro isOld
          obtain ⟨visited, inPath, rfl⟩ := List.mem_map.mp isOld
          rw [isPath.defined visited inPath] at notFound
          cases notFound
  | circular leads isOld =>
      cases leads with
      | start => cases isOld
      | next isPath link =>
          have linked := Macro.link?_eq_some_iff.mpr link
          rw [isPath.resolve_eq_follow, follow_of_visited linked isOld]

/-- Where the loop that follows the bases stands: the names visited, their texts, the
innermost first, and the macro to go on from. -/
structure Walk where
  visited : List String
  preambles : List String
  definition : Macro

namespace Walk

/-- At the end of a path. -/
def atEnd (path : List Macro) (definition : Macro) : Walk where
  visited := (path ++ [definition]).map Macro.name
  preambles := ((path ++ [definition]).map Macro.prompt).reverse
  definition := definition

/-- One turn of the loop: its answer, or where it stands then. -/
def turn (macros : MacroTable) (walk : Walk) : Except Error (String × List String) ⊕ Walk :=
  match Macro.link? walk.definition.base with
  | none => .inl (.ok (walk.definition.base, walk.preambles))
  | some next =>
    if next ∈ walk.visited then
      .inl (.error (.circularMacro next .unplaced (walk.visited ++ [next])))
    else
      match find? macros next with
      | none => .inl (.error (.undefinedMacro next .unplaced (sortedNames macros)))
      | some definition =>
        .inr ⟨walk.visited ++ [next], definition.prompt :: walk.preambles, definition⟩

/-- The answer of the loop, if so many turns are enough for it. -/
def answerWithin (macros : MacroTable) : Nat → Walk → Option (Except Error (String × List String))
  | 0, _ => none
  | turns + 1, walk =>
    match walk.turn macros with
    | .inl answer => some answer
    | .inr walk => answerWithin macros turns walk

section Turn

variable {walk : Walk}

theorem turn_of_agent (noLink : Macro.link? walk.definition.base = none) :
    walk.turn macros = .inl (.ok (walk.definition.base, walk.preambles)) := by
  unfold turn
  rw [noLink]

variable (linked : Macro.link? walk.definition.base = some next)

include linked

theorem turn_of_visited (isOld : next ∈ walk.visited) :
    walk.turn macros =
      .inl (.error (.circularMacro next .unplaced (walk.visited ++ [next]))) := by
  unfold turn
  rw [linked]
  exact if_pos isOld

theorem turn_of_missing (isNew : next ∉ walk.visited) (notFound : find? macros next = none) :
    walk.turn macros = .inl (.error (.undefinedMacro next .unplaced (sortedNames macros))) := by
  unfold turn
  rw [linked]
  dsimp only
  rw [if_neg isNew, notFound]

theorem turn_of_link (isNew : next ∉ walk.visited) (found : find? macros next = some definition) :
    walk.turn macros =
      .inr ⟨walk.visited ++ [next], definition.prompt :: walk.preambles, definition⟩ := by
  unfold turn
  rw [linked]
  dsimp only
  rw [if_neg isNew, found]

end Turn

/-- A turn at the end of a path answers what the name comes to, or goes one macro on. -/
theorem turn_atEnd (isPath : IsPath macros name (path ++ [definition])) :
    (∃ answer, (atEnd path definition).turn macros = .inl answer ∧ ComesTo macros name answer) ∨
      ∃ next, (atEnd path definition).turn macros = .inr (atEnd (path ++ [definition]) next) ∧
        IsPath macros name (path ++ [definition] ++ [next]) := by
  cases linked : Macro.link? definition.base with
  | none =>
      exact .inl ⟨_, turn_of_agent linked, .agent isPath (Macro.link?_eq_none_iff.mp linked)⟩
  | some next =>
      have leads : LeadsTo macros name (path ++ [definition]) next :=
        .next isPath (Macro.link?_eq_some_iff.mp linked)
      by_cases isOld : next ∈ (path ++ [definition]).map Macro.name
      · exact .inl ⟨_, turn_of_visited linked isOld, .circular leads isOld⟩
      · cases found : find? macros next with
        | none => exact .inl ⟨_, turn_of_missing linked isOld found, .undefined leads found⟩
        | some following =>
            refine .inr ⟨following, ?_, leads.isPath found isOld⟩
            obtain ⟨-, rfl⟩ := mem_of_find? found
            rw [turn_of_link linked isOld found]
            simp [atEnd]

/-- From the end of a path the loop answers what the name comes to, within as many turns as
there are macros beside those before the end. -/
theorem answerWithin_atEnd {turns : Nat} (isPath : IsPath macros name (path ++ [definition]))
    (enough : macros.length ≤ path.length + turns) :
    ∃ answer, answerWithin macros turns (atEnd path definition) = some answer ∧
      ComesTo macros name answer := by
  induction turns generalizing path definition with
  | zero =>
      have bounded := isPath.length_le
      rw [List.length_append, List.length_singleton] at bounded
      omega
  | succ turns induction =>
      unfold answerWithin
      rcases turn_atEnd isPath with ⟨answer, ends, comes⟩ | ⟨next, goesOn, isLonger⟩
      · rw [ends]
        exact ⟨answer, rfl, comes⟩
      · rw [goesOn]
        refine induction isLonger ?_
        rw [List.length_append, List.length_singleton]
        omega

end Walk

/-- Resolve a name, if so many turns of the loop are enough for it. -/
def resolveWithin (macros : MacroTable) (turns : Nat) (name : String) :
    Option (Except Error (String × List String)) :=
  match find? macros name with
  | none => some (.error (.undefinedMacro name .unplaced (sortedNames macros)))
  | some definition => Walk.answerWithin macros turns (.atEnd [] definition)

/-- As many turns as there are macros give an answer, and it is what the name comes to. -/
theorem comesTo_of_turns (macros : MacroTable) (name : String) :
    ∃ answer, resolveWithin macros macros.length name = some answer ∧
      ComesTo macros name answer := by
  unfold resolveWithin
  split
  · rename_i notFound
    exact ⟨_, rfl, .undefined .start notFound⟩
  · rename_i definition found
    have isPath := LeadsTo.start.isPath found (List.not_mem_nil : name ∉ [])
    exact Walk.answerWithin_atEnd isPath (Nat.le_add_left _ _)

theorem comesTo_iff {answer : Except Error (String × List String)} :
    ComesTo macros name answer ↔ resolve macros name = answer := by
  refine ⟨ComesTo.resolve_eq, fun resolved => ?_⟩
  obtain ⟨found, -, comes⟩ := comesTo_of_turns macros name
  rwa [← resolved, comes.resolve_eq]

theorem resolve_eq_ok_iff {agent : String} {preambles : List String} :
    resolve macros name = .ok (agent, preambles) ↔
      ∃ path, IsPath macros name path ∧ path.getLast?.map Macro.base = some agent ∧
        agent.toList.head? ≠ some '$' ∧ preambles = (path.map Macro.prompt).reverse := by
  rw [← comesTo_iff]
  constructor
  · intro comes
    cases comes with
    | agent isPath noDollar => exact ⟨_, isPath, by simp, noDollar, rfl⟩
  · rintro ⟨path, isPath, ends, noDollar, rfl⟩
    obtain ⟨definition, isLast, rfl⟩ := Option.map_eq_some_iff.mp ends
    obtain ⟨front, rfl⟩ := List.getLast?_eq_some_iff.mp isLast
    exact .agent isPath noDollar

theorem resolve_undefined_iff {missing : String} :
    (∃ e, resolve macros name = .error e ∧ e.kind? = some .undefinedMacro ∧
        e.name? = some missing) ↔
      ∃ path, LeadsTo macros name path missing ∧ find? macros missing = none := by
  constructor
  · rintro ⟨e, failed, kind, named⟩
    cases comesTo_iff.mpr failed with
    | undefined leads notFound =>
        obtain rfl := Option.some.inj named
        exact ⟨_, leads, notFound⟩
    | circular => cases kind
  · rintro ⟨path, leads, notFound⟩
    exact ⟨_, (ComesTo.undefined leads notFound).resolve_eq, rfl, rfl⟩

theorem resolve_circular_iff {again : String} :
    (∃ e, resolve macros name = .error e ∧ e.kind? = some .circularMacro ∧
        e.name? = some again) ↔
      ∃ path, LeadsTo macros name path again ∧ again ∈ path.map Macro.name := by
  constructor
  · rintro ⟨e, failed, kind, named⟩
    cases comesTo_iff.mpr failed with
    | undefined => cases kind
    | circular leads isOld =>
        obtain rfl := Option.some.inj named
        exact ⟨_, leads, isOld⟩
  · rintro ⟨path, leads, isOld⟩
    exact ⟨_, (ComesTo.circular leads isOld).resolve_eq, rfl, rfl⟩

theorem message_circularMacro (again : String) (chain : List String) :
    (Error.circularMacro again .unplaced chain).message =
      "Macro '$" ++ again ++ "' references itself: " ++
        String.intercalate " -> " (chain.map ("$" ++ ·)) := by
  have unplaced : Place.label .unplaced = "" := rfl
  unfold Error.message Error.messageWith
  dsimp only
  rw [unplaced, String.empty_append]
  rfl

/-- Resolving a name follows the bases from it to an agent, to a name that is not defined,
or back to a name visited before, and no longer than there are macros. -/
theorem resolve_outcome (macros : MacroTable) (name : String) :
    (∀ agent preambles, resolve macros name = .ok (agent, preambles) ↔
      ∃ path, IsPath macros name path ∧ path.getLast?.map Macro.base = some agent ∧
        agent.toList.head? ≠ some '$' ∧ preambles = (path.map Macro.prompt).reverse) ∧
    (∀ missing, (∃ e, resolve macros name = .error e ∧ e.kind? = some .undefinedMacro ∧
        e.name? = some missing) ↔
      ∃ path, LeadsTo macros name path missing ∧ find? macros missing = none) ∧
    (∀ again, (∃ e, resolve macros name = .error e ∧ e.kind? = some .circularMacro ∧
        e.name? = some again) ↔
      ∃ path, LeadsTo macros name path again ∧ again ∈ path.map Macro.name) ∧
    (∀ path again, LeadsTo macros name path again → again ∈ path.map Macro.name →
      ∃ e, resolve macros name = .error e ∧
        e.message = "Macro '$" ++ again ++ "' references itself: " ++
          String.intercalate " -> " ((path.map Macro.name ++ [again]).map ("$" ++ ·))) ∧
    resolveWithin macros macros.length name = some (resolve macros name) := by
  refine ⟨fun _ _ => resolve_eq_ok_iff, fun _ => resolve_undefined_iff,
    fun _ => resolve_circular_iff, fun path again leads isOld => ?_, ?_⟩
  · exact ⟨_, (ComesTo.circular leads isOld).resolve_eq, message_circularMacro _ _⟩
  · obtain ⟨answer, answered, comes⟩ := comesTo_of_turns macros name
    rw [answered, comes.resolve_eq]

/-- Three macros, the last of which goes back to the second. -/
def backToSecond : MacroTable :=
  [⟨"a", "$b", "A", .null, 1⟩, ⟨"b", "$c", "B", .null, 2⟩, ⟨"c", "$b", "C", .null, 3⟩]

theorem resolve_backToSecond :
    ∃ e, resolve backToSecond "a" = .error e ∧
      e.message = "Macro '$b' references itself: $a -> $b -> $c -> $b" := by
  have isPath : IsPath backToSecond "a" backToSecond := by
    refine ⟨rfl, ?_, ?_, by decide⟩
    · simp [backToSecond, find?]
    · simp [backToSecond]
  exact (resolve_outcome backToSecond "a").2.2.2.1 backToSecond "b"
    (@LeadsTo.next _ _ backToSecond.dropLast _ _ isPath rfl) (by decide)

end MacroTable

end AgentFlow
