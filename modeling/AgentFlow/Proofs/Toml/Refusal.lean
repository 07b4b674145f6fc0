import AgentFlow.Proofs.Toml.Keyed

/-!
# Why a TOML document is refused

A text that is no TOML is malformed.  Apart from that a document is refused for two reasons only:
its values nest too deep, or one of its integers has too many digits.
-/

namespace AgentFlow.Toml

open AgentFlow.Number

/-- The reasons for which a document is refused. -/
inductive Refusal : Fault → Prop where
  | malformed : Refusal .malformed
  | depth : Refusal .tooDeep
  | digits {count : Nat} : maxDigits < count → Refusal (.number (.tooLong count))

variable {α β : Type}

/-- A reader fails for one of these reasons, if it fails. -/
def Refuses (result : Except Fault α) : Prop := ∀ fault, result = .error fault → Refusal fault

theorem refuses_ok (answer : α) : Refuses (.ok answer) := nofun

theorem Refusal.refuses {fault : Fault} (refusal : Refusal fault) :
    Refuses (.error fault : Except Fault α) := by
  intro other same
  cases same
  exact refusal

theorem refuses_malformed : Refuses (.error .malformed : Except Fault α) :=
  Refusal.malformed.refuses

theorem Refuses.bind {result : Except Fault α} {next : α → Except Fault β}
    (first : Refuses result) (second : ∀ answer, Refuses (next answer)) :
    Refuses (result >>= next) := by
  intro fault failed
  rcases bind_eq_error_iff.mp failed with here | ⟨answer, _, later⟩
  · exact first fault here
  · exact second answer fault later

theorem refuses_orMalformed (answer? : Option α) : Refuses (orMalformed answer?) := by
  cases answer? with
  | none => exact refuses_malformed
  | some answer => exact refuses_ok answer

theorem refuses_takeRoom (taken room : Nat) : Refuses (takeRoom taken room) := by
  unfold takeRoom
  split
  · exact Refusal.depth.refuses
  · exact refuses_ok _

/-! ## Values -/

theorem refuses_readScalar (cs : List Char) : Refuses (readScalar cs) := by
  unfold readScalar
  split
  · exact refuses_ok _
  · split
    · exact refuses_ok _
    · exact refuses_malformed
    · split
      · exact refuses_ok _
      · split
        · exact refuses_ok _
        · split
          · rename_i taken
            rcases takeDecimal?_eq_some taken with ⟨length, long, same⟩ | ⟨n, same⟩ | ⟨x, same⟩
            · rw [same]
              exact (Refusal.digits long).refuses
            · rw [same]
              exact refuses_ok _
            · rw [same]
              exact refuses_ok _
          · split
            · exact refuses_ok _
            · exact refuses_malformed

/-- The readers with some bound on the depth of their calls. -/
structure ReadersRefuse (fuel : Nat) : Prop where
  value : ∀ room cs, Refuses (readValue fuel room cs)
  items : ∀ room cs, Refuses (readItems fuel room cs)
  inline : ∀ room entries closures cs, Refuses (readInline fuel room entries closures cs)
  assignment : ∀ room cs, Refuses (readAssignment fuel room cs)

section Readers

variable {fuel : Nat} (inside : ReadersRefuse fuel) (room : Nat) (cs : List Char)

include inside

theorem refuses_readValue : Refuses (readValue (fuel + 1) room cs) := by
  unfold readValue
  split
  · exact refuses_malformed
  · exact refuses_ok _
  · split
    · refine .bind (refuses_takeRoom _ _) fun room => .bind (refuses_orMalformed _) fun rest => ?_
      split
      · exact refuses_ok _
      · exact .bind (inside.items _ _) fun _ => refuses_ok _
    · refine .bind (refuses_takeRoom _ _) fun room => ?_
      split
      · exact refuses_ok _
      · exact .bind (inside.inline _ _ _ _) fun _ => refuses_ok _
    · exact refuses_readScalar _

theorem refuses_readItems : Refuses (readItems (fuel + 1) room cs) := by
  unfold readItems
  refine .bind (inside.value _ _) fun item => .bind (refuses_orMalformed _) fun rest => ?_
  split
  · exact refuses_ok _
  · refine .bind (refuses_orMalformed _) fun rest => ?_
    split
    · exact refuses_ok _
    · exact .bind (inside.items _ _) fun _ => refuses_ok _
  · exact refuses_malformed

theorem refuses_readInline (entries : Entries) (closures : Closures) :
    Refuses (readInline (fuel + 1) room entries closures cs) := by
  unfold readInline
  refine .bind (inside.assignment _ _) fun assigned => ?_
  dsimp only
  split
  · exact refuses_malformed
  · refine .bind (refuses_orMalformed _) fun entries => ?_
    split
    · exact refuses_ok _
    · exact inside.inline _ _ _ _
    · exact refuses_malformed

theorem refuses_readAssignment : Refuses (readAssignment (fuel + 1) room cs) := by
  unfold readAssignment
  refine .bind (refuses_orMalformed _) fun key => ?_
  dsimp only
  split
  · exact .bind (inside.value _ _) fun _ => refuses_ok _
  · exact refuses_malformed

end Readers

theorem readersRefuse (fuel : Nat) : ReadersRefuse fuel := by
  induction fuel with
  | zero =>
      refine ⟨?_, ?_, ?_, ?_⟩
      · intro room cs
        unfold readValue
        exact refuses_malformed
      · intro room cs
        unfold readItems
        exact refuses_malformed
      · intro room entries closures cs
        unfold readInline
        exact refuses_malformed
      · intro room cs
        unfold readAssignment
        exact refuses_malformed
  | succ fuel inside =>
      exact {
        value := refuses_readValue inside
        items := refuses_readItems inside
        inline := fun room entries closures cs => refuses_readInline inside room cs entries closures
        assignment := refuses_readAssignment inside }

/-! ## Documents -/

theorem refuses_openTable (draft : Draft) (path : List String) :
    Refuses (draft.openTable path) := by
  unfold Draft.openTable
  dsimp only
  split
  · exact refuses_malformed
  · exact .bind (refuses_orMalformed _) fun _ => refuses_ok _

theorem refuses_appendTable (draft : Draft) (path : List String) :
    Refuses (draft.appendTable path) := by
  unfold Draft.appendTable
  dsimp only
  split
  · exact refuses_malformed
  · exact .bind (refuses_orMalformed _) fun _ => refuses_ok _

theorem refuses_assign (draft : Draft) (path : List String) (value : Value) :
    Refuses (draft.assign path value) := by
  unfold Draft.assign
  dsimp only
  split
  · exact refuses_malformed
  · split
    · exact refuses_malformed
    · exact .bind (refuses_orMalformed _) fun _ => refuses_ok _

theorem refuses_readStatement (fuel : Nat) (draft : Draft) (cs : List Char) :
    Refuses (readStatement fuel draft cs) := by
  unfold readStatement
  split
  · refine .bind (refuses_orMalformed _) fun key => .bind (refuses_appendTable _ _) fun later => ?_
    split
    · exact refuses_ok _
    · exact refuses_malformed
  · refine .bind (refuses_orMalformed _) fun key => .bind (refuses_openTable _ _) fun later => ?_
    split
    · exact refuses_ok _
    · exact refuses_malformed
  · refine .bind ((readersRefuse fuel).assignment _ _) fun assigned => ?_
    exact .bind (refuses_assign _ _ _) fun _ => refuses_ok _

theorem refuses_readLines (fuel : Nat) (draft : Draft) (cs : List Char) :
    Refuses (readLines fuel draft cs) := by
  induction fuel generalizing draft cs with
  | zero => exact refuses_malformed
  | succ fuel induction =>
      have goesOn (draft : Draft) (rest : List Char) : Refuses (readOn fuel draft rest) := by
        refine .bind (refuses_orMalformed _) fun rest => ?_
        split
        · exact refuses_ok _
        · exact induction _ _
        · exact refuses_malformed
      unfold readLines
      split
      · exact refuses_ok _
      · exact induction _ _
      · dsimp only
        split
        · exact goesOn _ _
        · exact .bind (refuses_readStatement _ _ _) fun _ => goesOn _ _

/-- A document is malformed, or it nests too deep, or an integer has too many digits. -/
theorem refuses_read (text : String) : Refuses (read text) :=
  .bind (refuses_readLines _ _ _) fun _ => refuses_ok _

end AgentFlow.Toml
