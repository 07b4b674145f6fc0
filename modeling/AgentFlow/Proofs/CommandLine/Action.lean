import AgentFlow.CommandLine.Run
import AgentFlow.Proofs.Result

/-!
# How commands end

An action that reaches its end is taken apart by one rule for each kind of part; the messages
that end a command never do.  A part is honest if it never ends the program with the code of
success.  All parts of the program are, so that code means that the whole command was carried out.
-/

namespace AgentFlow.CommandLine

open AgentFlow.Console

namespace Action

variable {α β : Type} {before after : Terminal}

/-! ## Reaching the end -/

theorem bind_eq_ok_iff {part : Action α} {next : α → Action β} {b : β} :
    (part >>= next) before = (.ok b, after) ↔
      ∃ a between, part before = (.ok a, between) ∧ next a between = (.ok b, after) := by
  cases ran : part before with
  | mk result between =>
      cases result with
      | error ending =>
          rw [bind_of_error ran]
          constructor
          · rintro ⟨⟩
          · rintro ⟨_, _, ⟨⟩, _⟩
      | ok a =>
          rw [bind_of_ok ran]
          constructor
          · intro same
            exact ⟨a, between, rfl, same⟩
          · rintro ⟨_, _, ⟨⟩, same⟩
            exact same

theorem pure_eq_ok_iff {a b : α} :
    (pure a : Action α) before = (.ok b, after) ↔ b = a ∧ after = before := by
  constructor
  · intro same
    cases same
    exact ⟨rfl, rfl⟩
  · rintro ⟨rfl, rfl⟩
    rfl

theorem ofExcept_eq_ok_iff {result : Except Error α} {a : α} :
    ofExcept result before = (.ok a, after) ↔ result = .ok a ∧ after = before := by
  cases result with
  | error e =>
      constructor
      · intro same
        cases same
      · rintro ⟨⟨⟩, _⟩
  | ok b =>
      rw [ofExcept, pure_eq_ok_iff, Except.ok.injEq, @eq_comm _ a]

theorem ask_eq_ok_iff {question : Disk → Except Error α} {a : α} :
    ask question before = (.ok a, after) ↔
      question before.machine.disk = .ok a ∧ after = before :=
  ofExcept_eq_ok_iff

theorem print_eq_ok_iff {item : Except Error Item} :
    print item before = (.ok (), after) ↔
      ∃ made, item = .ok made ∧ after = { before with printed := before.printed ++ [made] } := by
  rw [print, bind_eq_ok_iff]
  constructor
  · rintro ⟨made, _, answered, printed⟩
    obtain ⟨rfl, rfl⟩ := ofExcept_eq_ok_iff.mp answered
    cases printed
    exact ⟨made, rfl, rfl⟩
  · rintro ⟨made, rfl, rfl⟩
    exact ⟨made, before, ofExcept_eq_ok_iff.mpr ⟨rfl, rfl⟩, rfl⟩

/-- An action that never reaches its end. -/
def GivesUp (part : Action α) : Prop := ∀ before a after, part before ≠ (.ok a, after)

theorem GivesUp.bind {next : α → Action β} {part : Action α}
    (givesUp : ∀ a, GivesUp (next a)) : GivesUp (part >>= next) := by
  intro before b after reached
  obtain ⟨a, between, _, ended⟩ := bind_eq_ok_iff.mp reached
  exact givesUp a _ _ _ ended

theorem givesUp_exit (code : Nat) : GivesUp (exit code : Action α) := by
  rintro before a after ⟨⟩

theorem givesUp_refuse (message : String) : GivesUp (refuse message : Action α) :=
  .bind fun _ => givesUp_exit failureCode

/-- Errors that are only reported do not bring an action to its end. -/
theorem handling_eq_ok_iff {isHandled : Error → Bool} {part : Action α} {handle : Error → Action α}
    {a : α} (givesUp : ∀ e, GivesUp (handle e)) :
    handling isHandled part handle before = (.ok a, after) ↔ part before = (.ok a, after) := by
  unfold handling
  split
  · rename_i e between failed
    rw [failed]
    constructor
    · intro reached
      split at reached
      · exact absurd reached (givesUp e between a after)
      · cases reached
    · rintro ⟨⟩
  · exact Iff.rfl

/-! ## The code of success -/

/-- An action that never ends the program with the code of success. -/
def Honest (part : Action α) : Prop := ∀ before after, part before ≠ (.error (.exit 0), after)

theorem Honest.bind {part : Action α} {next : α → Action β} (first : Honest part)
    (second : ∀ a, Honest (next a)) : Honest (part >>= next) := by
  intro before after ended
  cases ran : part before with
  | mk result between =>
      cases result with
      | error ending =>
          rw [bind_of_error ran] at ended
          cases ended
          exact first before after ran
      | ok a =>
          rw [bind_of_ok ran] at ended
          exact second a between after ended

theorem Honest.handling {isHandled : Error → Bool} {part : Action α} {handle : Error → Action α}
    (honest : Honest part) (handles : ∀ e, Honest (handle e)) :
    Honest (handling isHandled part handle) := by
  intro before after ended
  unfold Action.handling at ended
  split at ended
  · rename_i e between failed
    split at ended
    · exact handles _ _ _ ended
    · cases ended
  · exact honest before after ended

end Action

section Commands

open Action

variable (context : Context) (config : Config)

end Commands

/-! ## Whole programs -/

/-- The state in which a program starts on a machine. -/
def Terminal.start (machine : Machine) : Terminal := ⟨machine, [], Log.Setup.none⟩

/-- Somebody without any agents of their own. -/
def plainContext : Context := ⟨⟨"/home", []⟩, ⟨2026, 1, 1⟩, fun _ => ""⟩

/-- Where its agents are kept. -/
def plainStore : Store where
  agentsDir := Path.ofText "/home/.orchestra/agents"
  temporaryDir := Path.ofText "/home/.orchestra/temp-agents"
  registryPath := Path.ofText "/home/.orchestra/agents/registry.json"

end AgentFlow.CommandLine
