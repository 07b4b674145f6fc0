import AgentFlow.Proofs.Value.Table
import AgentFlow.Toml.Reader

/-!
# The keys of a TOML document

The tables of a document have each of their keys once: a value is put under a key that is new,
and what is changed keeps its key.
-/

namespace AgentFlow.Toml

open AgentFlow.Json AgentFlow.Number AgentFlow.Text Value

/-! ## Scalars -/

theorem keyed_readWord? {words : List (String × Value)} {cs rest : List Char} {value : Value}
    (all : ∀ word ∈ words, Keyed word.2) (read : readWord? words cs = some (value, rest)) :
    Keyed value := by
  obtain ⟨⟨word, found⟩, listed, dropped⟩ := List.exists_of_findSome?_eq_some read
  obtain ⟨_, _, same⟩ := Option.map_eq_some_iff.mp dropped
  cases same
  exact all _ listed

theorem keyed_takeDate? {cs rest : List Char} {value : Value}
    (taken : takeDate? cs = some (some value, rest)) : Keyed value := by
  unfold takeDate? at taken
  obtain ⟨⟨year, afterYear⟩, _, taken⟩ := Option.bind_eq_some_iff.mp taken
  obtain ⟨afterDash, _, taken⟩ := Option.bind_eq_some_iff.mp taken
  obtain ⟨⟨month, afterMonth⟩, _, taken⟩ := Option.bind_eq_some_iff.mp taken
  obtain ⟨afterSecond, _, taken⟩ := Option.bind_eq_some_iff.mp taken
  obtain ⟨⟨day, afterDay⟩, _, taken⟩ := Option.bind_eq_some_iff.mp taken
  dsimp only at taken
  split at taken
  · cases taken
  · split at taken
    · simp only [Option.some.injEq, Prod.mk.injEq, Option.map_eq_some_iff] at taken
      obtain ⟨⟨date, _, same⟩, _⟩ := taken
      rw [← same]
      exact .scalar rfl
    · split at taken
      · simp only [Option.some.injEq, Prod.mk.injEq, Option.map_eq_some_iff] at taken
        obtain ⟨⟨date, _, same⟩, _⟩ := taken
        rw [← same]
        exact .scalar rfl
      · simp only [Option.some.injEq, Prod.mk.injEq, Option.map_eq_some_iff] at taken
        obtain ⟨⟨date, _, same⟩, _⟩ := taken
        rw [← same]
        exact .scalar rfl

/-- The ways that a decimal number is read: not at all, as an integer or as a float. -/
theorem number_cases {isEmpty isWhole : Prop} [Decidable isEmpty] [Decidable isWhole]
    {length : Nat} {n : Int} {x : Binary64} {afterWhole afterFloat rest : List Char}
    {read : Except Fault Value}
    (taken : (if isEmpty then none
      else if isWhole then
        some (if length > maxDigits then .error (.number (.tooLong length)) else .ok (.int n),
          afterWhole)
      else some (.ok (.float x), afterFloat)) = some (read, rest)) :
    (maxDigits < length ∧ read = .error (.number (.tooLong length))) ∨
      (∃ n, read = .ok (.int n)) ∨ ∃ x, read = .ok (.float x) := by
  split at taken
  · cases taken
  · split at taken
    · split at taken
      · rename_i long
        cases taken
        exact .inl ⟨long, rfl⟩
      · cases taken
        exact .inr (.inl ⟨n, rfl⟩)
    · cases taken
      exact .inr (.inr ⟨x, rfl⟩)

theorem takeDecimal?_eq_some {cs rest : List Char} {read : Except Fault Value}
    (taken : takeDecimal? cs = some (read, rest)) :
    (∃ length, maxDigits < length ∧ read = .error (.number (.tooLong length))) ∨
      (∃ n, read = .ok (.int n)) ∨ ∃ x, read = .ok (.float x) :=
  (number_cases taken).imp_left fun long => ⟨_, long⟩

theorem keyed_takeDecimal? {cs rest : List Char} {value : Value}
    (taken : takeDecimal? cs = some (.ok value, rest)) : Keyed value := by
  rcases takeDecimal?_eq_some taken with ⟨_, _, impossible⟩ | ⟨n, same⟩ | ⟨x, same⟩
  · cases impossible
  · cases same
    exact .scalar rfl
  · cases same
    exact .scalar rfl

theorem keyed_takeMarkedNumber? {cs rest : List Char} {value : Value}
    (taken : takeMarkedNumber? cs = some (value, rest)) : Keyed value := by
  have marked {base : Nat} {isDigit : Char → Bool} {cs : List Char}
      (taken : takeMarked? base isDigit cs = some (value, rest)) : Keyed value := by
    unfold takeMarked? at taken
    split at taken
    · cases taken
    · cases taken
      exact .scalar rfl
  unfold takeMarkedNumber? at taken
  split at taken
  · exact marked taken
  · exact marked taken
  · exact marked taken
  · cases taken

theorem keyed_readScalar {cs rest : List Char} {value : Value}
    (read : readScalar cs = .ok (value, rest)) : Keyed value := by
  unfold readScalar at read
  split at read
  · rename_i word
    cases read
    refine keyed_readWord? (fun word listed => ?_) word
    simp only [words, List.mem_cons, List.not_mem_nil, or_false] at listed
    rcases listed with same | same
    all_goals
      rw [same]
      exact .scalar rfl
  · split at read
    · rename_i date
      cases read
      exact keyed_takeDate? date
    · cases read
    · split at read
      · cases read
        exact .scalar rfl
      · split at read
        · rename_i number
          cases read
          exact keyed_takeMarkedNumber? number
        · split at read
          · rename_i number
            obtain ⟨found, same, answer⟩ := map_eq_ok_iff.mp read
            cases same
            cases answer
            exact keyed_takeDecimal? number
          · split at read
            · rename_i word
              cases read
              refine keyed_readWord? (fun word listed => ?_) word
              simp only [numberWords, List.mem_cons, List.not_mem_nil, or_false] at listed
              rcases listed with same | same | same | same | same | same
              all_goals
                rw [same]
                exact .scalar rfl
            · cases read

/-! ## Tables -/

theorem keyed_changeAt? {throughLists : Bool} {change : Entries → Option Entries}
    (changes : ∀ before after, Keyed (.table before) → change before = some after →
      Keyed (.table after)) {path : List String} {entries later : Entries}
    (keyed : Keyed (.table entries))
    (changed : changeAt? throughLists change path entries = some later) :
    Keyed (.table later) := by
  induction path generalizing entries later with
  | nil => exact changes entries later keyed changed
  | cons key path induction =>
      unfold changeAt? at changed
      split at changed
      · obtain ⟨inner, made, same⟩ := Option.map_eq_some_iff.mp changed
        cases same
        exact keyed.insertEntry (induction keyed_empty made) key
      · rename_i inner found
        obtain ⟨inner, made, same⟩ := Option.map_eq_some_iff.mp changed
        cases same
        exact keyed.insertEntry (induction (keyed.lookup? found) made) key
      · rename_i items found
        have keyedItems := (keyed.lookup? found).item
        split at changed
        · split at changed
          · rename_i inner last
            obtain ⟨inner, made, same⟩ := Option.map_eq_some_iff.mp changed
            cases same
            have keyedLast := keyedItems _ (List.mem_of_getLast? last)
            refine keyed.insertEntry (.list fun item member => ?_) key
            rcases List.mem_append.mp member with before | isLast
            · exact keyedItems item (List.dropLast_subset items before)
            · rw [List.mem_singleton.mp isLast]
              exact induction keyedLast made
          · cases changed
        · cases changed
      · cases changed

theorem keyed_addNew? {key : String} {value : Value} (keyedValue : Keyed value)
    (before after : Entries) (keyed : Keyed (.table before))
    (added : addNew? key value before = some after) : Keyed (.table after) := by
  unfold addNew? at added
  split at added
  · cases added
  · cases added
    exact keyed.insertEntry keyedValue key

theorem keyed_appendTable? {key : String} (before after : Entries)
    (keyed : Keyed (.table before)) (appended : appendTable? key before = some after) :
    Keyed (.table after) := by
  unfold appendTable? at appended
  split at appended
  · cases appended
    exact keyed.insertEntry (.list (List.forall_mem_singleton.mpr keyed_empty)) key
  · rename_i items found
    cases appended
    refine keyed.insertEntry (.list fun item member => ?_) key
    rcases List.mem_append.mp member with before | isLast
    · exact (keyed.lookup? found).item item before
    · rw [List.mem_singleton.mp isLast]
      exact keyed_empty
  · cases appended

theorem orMalformed_eq_ok_iff {α : Type} {answer? : Option α} {answer : α} :
    orMalformed answer? = .ok answer ↔ answer? = some answer := by
  cases answer? with
  | none => exact iff_of_false nofun nofun
  | some other => simp [orMalformed]

/-! ## Values -/

/-- What the readers give with some bound on the depth of their calls is keyed. -/
structure ReadsKeyed (fuel : Nat) : Prop where
  value : ∀ room cs value rest, readValue fuel room cs = .ok (value, rest) → Keyed value
  items : ∀ room cs items rest, readItems fuel room cs = .ok (items, rest) →
    ∀ item ∈ items, Keyed item
  inline : ∀ room entries closures cs later rest, Keyed (.table entries) →
    readInline fuel room entries closures cs = .ok (later, rest) → Keyed (.table later)
  assignment : ∀ room cs path value rest,
    readAssignment fuel room cs = .ok (path, value, rest) → Keyed value

section Readers

variable {fuel room : Nat} {cs rest : List Char} (inside : ReadsKeyed fuel)

include inside

theorem keyed_readValue {value : Value}
    (read : readValue (fuel + 1) room cs = .ok (value, rest)) : Keyed value := by
  unfold readValue at read
  split at read
  · cases read
  · cases read
    exact .scalar rfl
  · split at read
    · obtain ⟨room, _, read⟩ := bind_eq_ok_iff.mp read
      obtain ⟨afterSpace, _, read⟩ := bind_eq_ok_iff.mp read
      split at read
      · cases read
        exact .list (List.forall_mem_nil _)
      · obtain ⟨⟨items, _⟩, readItems, same⟩ := bind_eq_ok_iff.mp read
        cases same
        exact .list (inside.items _ _ _ _ readItems)
    · obtain ⟨room, _, read⟩ := bind_eq_ok_iff.mp read
      split at read
      · cases read
        exact keyed_empty
      · obtain ⟨⟨entries, _⟩, readEntries, same⟩ := bind_eq_ok_iff.mp read
        cases same
        exact inside.inline _ _ _ _ _ _ keyed_empty readEntries
    · exact keyed_readScalar read

theorem keyed_readItems {items : List Value}
    (read : readItems (fuel + 1) room cs = .ok (items, rest)) : ∀ item ∈ items, Keyed item := by
  unfold readItems at read
  obtain ⟨⟨item, afterItem⟩, readFirst, read⟩ := bind_eq_ok_iff.mp read
  have keyed := inside.value _ _ _ _ readFirst
  obtain ⟨afterSpace, _, read⟩ := bind_eq_ok_iff.mp read
  split at read
  · cases read
    exact List.forall_mem_singleton.mpr keyed
  · obtain ⟨afterComma, _, read⟩ := bind_eq_ok_iff.mp read
    split at read
    · cases read
      exact List.forall_mem_singleton.mpr keyed
    · obtain ⟨⟨others, _⟩, readRest, same⟩ := bind_eq_ok_iff.mp read
      cases same
      exact List.forall_mem_cons.mpr ⟨keyed, inside.items _ _ _ _ readRest⟩
  · cases read

theorem keyed_readInline {entries later : Entries} {closures : Closures}
    (keyed : Keyed (.table entries))
    (read : readInline (fuel + 1) room entries closures cs = .ok (later, rest)) :
    Keyed (.table later) := by
  unfold readInline at read
  obtain ⟨⟨path, value, afterValue⟩, readFirst, read⟩ := bind_eq_ok_iff.mp read
  have keyedValue := inside.assignment _ _ _ _ _ readFirst
  dsimp only at read
  split at read
  · cases read
  · obtain ⟨between, added, read⟩ := bind_eq_ok_iff.mp read
    have keyedBetween := keyed_changeAt? (keyed_addNew? keyedValue) keyed
      (orMalformed_eq_ok_iff.mp added)
    split at read
    · cases read
      exact keyedBetween
    · exact inside.inline _ _ _ _ _ _ keyedBetween read
    · cases read

theorem keyed_readAssignment {path : List String} {value : Value}
    (read : readAssignment (fuel + 1) room cs = .ok (path, value, rest)) : Keyed value := by
  unfold readAssignment at read
  obtain ⟨⟨key, afterKey⟩, _, read⟩ := bind_eq_ok_iff.mp read
  dsimp only at read
  split at read
  · obtain ⟨⟨found, _⟩, readFound, same⟩ := bind_eq_ok_iff.mp read
    cases same
    exact inside.value _ _ _ _ readFound
  · cases read

end Readers

theorem readsKeyed (fuel : Nat) : ReadsKeyed fuel := by
  induction fuel with
  | zero =>
      refine ⟨?_, ?_, ?_, ?_⟩
      · intro room cs value rest read
        unfold readValue at read
        cases read
      · intro room cs items rest read
        unfold readItems at read
        cases read
      · intro room entries closures cs later rest keyed read
        unfold readInline at read
        cases read
      · intro room cs path value rest read
        unfold readAssignment at read
        cases read
  | succ fuel inside =>
      exact {
        value := fun _ _ _ _ => keyed_readValue inside
        items := fun _ _ _ _ => keyed_readItems inside
        inline := fun _ _ _ _ _ _ => keyed_readInline inside
        assignment := fun _ _ _ _ _ => keyed_readAssignment inside }

/-! ## Documents -/

theorem keyed_openTable {draft later : Draft} {path : List String}
    (keyed : Keyed (.table draft.entries)) (opened : draft.openTable path = .ok later) :
    Keyed (.table later.entries) := by
  unfold Draft.openTable at opened
  dsimp only at opened
  split at opened
  · cases opened
  · obtain ⟨entries, changed, same⟩ := bind_eq_ok_iff.mp opened
    cases same
    refine keyed_changeAt? ?_ keyed (orMalformed_eq_ok_iff.mp changed)
    intro before after keyed same
    exact Option.some.inj same ▸ keyed

theorem keyed_appendTable {draft later : Draft} {path : List String}
    (keyed : Keyed (.table draft.entries)) (appended : draft.appendTable path = .ok later) :
    Keyed (.table later.entries) := by
  unfold Draft.appendTable at appended
  dsimp only at appended
  split at appended
  · cases appended
  · obtain ⟨entries, changed, same⟩ := bind_eq_ok_iff.mp appended
    cases same
    exact keyed_changeAt? keyed_appendTable? keyed (orMalformed_eq_ok_iff.mp changed)

theorem keyed_assign {draft later : Draft} {path : List String} {value : Value}
    (keyed : Keyed (.table draft.entries)) (keyedValue : Keyed value)
    (assigned : draft.assign path value = .ok later) : Keyed (.table later.entries) := by
  unfold Draft.assign at assigned
  dsimp only at assigned
  split at assigned
  · cases assigned
  · split at assigned
    · cases assigned
    · obtain ⟨entries, changed, same⟩ := bind_eq_ok_iff.mp assigned
      cases same
      exact keyed_changeAt? (keyed_addNew? keyedValue) keyed (orMalformed_eq_ok_iff.mp changed)

theorem keyed_readStatement {fuel : Nat} {draft later : Draft} {cs rest : List Char}
    (keyed : Keyed (.table draft.entries))
    (read : readStatement fuel draft cs = .ok (later, rest)) : Keyed (.table later.entries) := by
  unfold readStatement at read
  split at read
  · obtain ⟨⟨path, afterPath⟩, _, read⟩ := bind_eq_ok_iff.mp read
    obtain ⟨between, appended, read⟩ := bind_eq_ok_iff.mp read
    split at read
    · cases read
      exact @keyed_appendTable draft.closePending _ _ keyed appended
    · cases read
  · obtain ⟨⟨path, afterPath⟩, _, read⟩ := bind_eq_ok_iff.mp read
    obtain ⟨between, opened, read⟩ := bind_eq_ok_iff.mp read
    split at read
    · cases read
      exact @keyed_openTable draft.closePending _ _ keyed opened
    · cases read
  · obtain ⟨⟨path, value, afterValue⟩, assignment, read⟩ := bind_eq_ok_iff.mp read
    obtain ⟨between, assigned, same⟩ := bind_eq_ok_iff.mp read
    cases same
    exact keyed_assign keyed ((readsKeyed fuel).assignment _ _ _ _ _ assignment) assigned

/-- The end of a line is read, and then the lines after it. -/
def readOn (fuel : Nat) (draft : Draft) (rest : List Char) : Except Fault Draft := do
  match ← orMalformed (skipComment? rest) with
  | [] => .ok draft
  | '\n' :: rest => readLines fuel draft rest
  | _ => .error .malformed

theorem keyed_readLines {fuel : Nat} {draft later : Draft} {cs : List Char}
    (keyed : Keyed (.table draft.entries)) (read : readLines fuel draft cs = .ok later) :
    Keyed (.table later.entries) := by
  induction fuel generalizing draft cs with
  | zero => cases read
  | succ fuel induction =>
      -- Whether the line is a comment or a statement, the rest of it is read alike.
      have goesOn {between : Draft} {rest : List Char} (keyed : Keyed (.table between.entries))
          (read : readOn fuel between rest = .ok later) : Keyed (.table later.entries) := by
        obtain ⟨afterComment, _, read⟩ := bind_eq_ok_iff.mp read
        split at read
        · cases read
          exact keyed
        · exact induction keyed read
        · cases read
      unfold readLines at read
      split at read
      · cases read
        exact keyed
      · exact induction keyed read
      · dsimp only at read
        split at read
        · exact goesOn keyed read
        · obtain ⟨⟨between, rest⟩, statement, read⟩ := bind_eq_ok_iff.mp read
          exact goesOn (keyed_readStatement keyed statement) read

/-- The keys of a document are distinct texts, and so are those of its tables. -/
theorem keyed_of_read {text : String} {document : Entries} (accepted : read text = .ok document) :
    Keyed (.table document) := by
  obtain ⟨draft, readAll, same⟩ := bind_eq_ok_iff.mp accepted
  cases same
  exact keyed_readLines keyed_empty readAll

end AgentFlow.Toml
