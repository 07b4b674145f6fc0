import AgentFlow.Proofs.Result
import AgentFlow.Proofs.Text.Blank
import AgentFlow.Proofs.Text.QuotedBody
import AgentFlow.Proofs.Workflow.CallForm
import AgentFlow.Workflow.Macro

/-!
# The texts of macros

What a definition gives to its macro stands in the definition: the fields are taken
out of the block part by part, and unescaping only drops characters.
-/

namespace AgentFlow

open AgentFlow.Text

theorem lookup_eq_some_iff_mem {κ α : Type} [BEq κ] [LawfulBEq κ] {entries : List (κ × α)}
    (distinct : (entries.map Prod.fst).Nodup) {key : κ} {value : α} :
    entries.lookup key = some value ↔ (key, value) ∈ entries := by
  induction entries with
  | nil => simp
  | cons entry rest induction =>
      obtain ⟨other, otherValue⟩ := entry
      obtain ⟨notInRest, distinctRest⟩ := List.nodup_cons.mp distinct
      rw [List.lookup_cons, List.mem_cons, Prod.mk.injEq]
      by_cases same : key = other
      · subst same
        have absent : (key, value) ∉ rest := fun member =>
          notInRest (List.mem_map.mpr ⟨_, member, rfl⟩)
        simp [absent, eq_comm]
      · rw [beq_false_of_ne same, induction distinctRest]
        simp [same]

namespace Macro

theorem link?_eq_some_iff {base name : String} : link? base = some name ↔ base = "$" ++ name := by
  unfold link?
  constructor
  · intro linked
    split at linked
    · rename_i rest spelled
      obtain rfl := Option.some.inj linked
      exact String.toList_inj.mp (by simpa using spelled)
    · cases linked
  · rintro rfl
    simp

theorem link?_eq_none_iff {base : String} : link? base = none ↔ base.toList.head? ≠ some '$' := by
  unfold link?
  split
  · rename_i rest spelled
    simp [spelled]
  · rename_i noDollar
    refine iff_of_true rfl fun starts => ?_
    obtain ⟨rest, spelled⟩ := List.head?_eq_some_iff.mp starts
    exact noDollar rest spelled

theorem word_of_ofWord? {key : List Char} {field : Field} (found : Field.ofWord? key = some field) :
    key = field.word.toList := by
  have same := List.find?_some found
  simpa using (beq_iff_eq.mp same).symm

theorem ofWord?_word (field : Field) : Field.ofWord? field.word.toList = some field := by
  cases field <;> rfl

/-- A field with all that stands around its parts. -/
structure FieldParts (cs key body rest : List Char) (front afterKey beforeQuote afterBody :
    List Char) : Prop where
  whole : cs = front ++ (key ++ (afterKey ++ ':' :: (beforeQuote ++ '"' ::
    (body ++ '"' :: (afterBody ++ rest)))))
  blank : ∀ c ∈ front ++ afterKey ++ beforeQuote ++ afterBody, isBlank c = true
  quoted : QuotedBody body

theorem takeField?_parts {cs key body rest : List Char}
    (taken : takeField? cs = some (key, body, rest)) :
    ∃ front afterKey beforeQuote afterBody,
      FieldParts cs key body rest front afterKey beforeQuote afterBody := by
  unfold takeField? at taken
  dsimp only at taken
  split at taken
  · cases taken
  · split at taken
    · rename_i afterColon atColon
      split at taken
      · rename_i fromBody atQuote
        split at taken
        · rename_i found mark after split
          cases taken
          obtain ⟨isQuote, quoted⟩ := QuotedBody.of_takeBody split
          have bodyAndAfter := takeBody_append fromBody
          rw [split, isQuote] at bodyAndAfter
          obtain ⟨front, whole, blankFront⟩ := exists_append_trimStart cs
          have keyAndRest := List.takeWhile_append_dropWhile (p := isWordChar) (l := trimStart cs)
          obtain ⟨afterKey, wholeKey, blankKey⟩ :=
            exists_append_trimStart ((trimStart cs).dropWhile isWordChar)
          obtain ⟨beforeQuote, wholeQuote, blankQuote⟩ := exists_append_trimStart afterColon
          obtain ⟨afterBody, wholeBody, blankBody⟩ := exists_append_trimStart after
          refine ⟨front, afterKey, beforeQuote, afterBody, ?_, ?_, quoted⟩
          · rw [← wholeBody, bodyAndAfter, ← atQuote, ← wholeQuote, ← atColon, ← wholeKey,
              keyAndRest]
            exact whole
          · intro c member
            simp only [List.mem_append] at member
            rcases member with ((inFront | inKey) | inQuote) | inBody
            · exact blankFront c inFront
            · exact blankKey c inKey
            · exact blankQuote c inQuote
            · exact blankBody c inBody
        · cases taken
      · cases taken
    · cases taken

theorem unescapeQuotes_subset (body : List Char) : unescapeQuotes body ⊆ body := by
  fun_induction unescapeQuotes body with
  | case1 => exact List.Subset.refl []
  | case2 rest induction =>
      have kept := List.cons_subset_cons '"' induction
      exact fun c member => List.mem_cons_of_mem '\\' (kept member)
  | case3 c rest _ induction => exact List.cons_subset_cons c induction

theorem subset_of_takeField? {cs key body rest : List Char}
    (taken : takeField? cs = some (key, body, rest)) : body ⊆ cs ∧ rest ⊆ cs := by
  obtain ⟨front, afterKey, beforeQuote, afterBody, parts⟩ := takeField?_parts taken
  rw [parts.whole]
  constructor
  all_goals
    intro c member
    simp [member]

/-- The values of fields stand in the block. -/
theorem subset_of_readFields {macroName : String} {block cs : List Char} {fields all : Fields}
    (read : readFields macroName block fields cs = .ok all) :
    ∀ field value, (field, value) ∈ all → (field, value) ∈ fields ∨ value ⊆ cs := by
  fun_induction readFields macroName block fields cs with
  | case1 => cases read
  | case2 => cases read
  | case3 => cases read
  | case4 fields cs key body rest taken field _ _ fieldsNow _ =>
      intro other value member
      rw [← Except.ok.inj read] at member
      rcases List.mem_append.mp member with before | added
      · exact .inl before
      · cases List.mem_singleton.mp added
        exact .inr (List.Subset.trans (unescapeQuotes_subset body) (subset_of_takeField? taken).1)
  | case5 fields cs key body rest taken field _ _ fieldsNow _ _ induction =>
      obtain ⟨bodyWithin, restWithin⟩ := subset_of_takeField? taken
      intro other value member
      rcases induction read other value member with before | within
      · rcases List.mem_append.mp before with before | added
        · exact .inl before
        · cases List.mem_singleton.mp added
          exact .inr (List.Subset.trans (unescapeQuotes_subset body) bodyWithin)
      · exact .inr (List.Subset.trans (List.Subset.trans within (List.drop_subset 1 rest)) restWithin)
  | case6 => cases read

theorem mem_of_required {macroName : String} {fields : Fields} {field : Field}
    {value : List Char} (present : required macroName fields field = .ok value) :
    (field, value) ∈ fields := by
  unfold required at present
  split at present
  · rename_i c rest found
    cases present
    obtain ⟨before, after, whole, _⟩ := List.lookup_eq_some_iff.mp found
    rw [whole]
    exact List.mem_append_right before List.mem_cons_self
  · cases present

theorem takeHead?_parts {cs name rest : List Char} (taken : takeHead? cs = some (name, rest)) :
    spellsIdentifier name = true ∧ ∃ blanks,
      cs = '$' :: (name ++ (blanks ++ ':' :: '=' :: rest)) ∧ ∀ c ∈ blanks, isBlank c = true := by
  unfold takeHead? at taken
  split at taken
  · rename_i cs
    dsimp only at taken
    split at taken
    · cases taken
    · rename_i nonempty
      split at taken
      · rename_i after atMark
        cases taken
        obtain ⟨blanks, whole, blank⟩ := exists_append_trimStart (takeIdentifier cs).2
        refine ⟨CallForm.spellsIdentifier_takeIdentifier (by simpa using nonempty), blanks, ?_, blank⟩
        rw [← atMark, ← whole, takeIdentifier_append]
      · cases taken
  · cases taken

theorem takeBlock?_parts {cs block : List Char} (taken : takeBlock? cs = some block) :
    ∃ blanks, cs = blanks ++ '{' :: (block ++ ['}']) ∧ ∀ c ∈ blanks, isBlank c = true := by
  unfold takeBlock? at taken
  split at taken
  · rename_i rest atBrace
    split at taken
    · rename_i closed
      cases taken
      obtain ⟨blanks, whole, blank⟩ := exists_append_trimStart cs
      refine ⟨blanks, ?_, blank⟩
      rw [List.dropLast_append_getLast? _ closed, ← atBrace]
      exact whole
    · cases taken
  · cases taken

/-- A text defines a macro just when it is read as its parts. -/
theorem ofText_eq_ok_iff {text : List Char} {line : Int} {default : Value} {definition : Macro} :
    ofText text line default = .ok definition ↔
      ∃ name rest block fields base prompt,
        takeHead? text = some (name, rest) ∧ takeBlock? rest = some block ∧
          readFields (String.ofList name) block [] block = .ok fields ∧
          required (String.ofList name) fields .base = .ok base ∧
          required (String.ofList name) fields .prompt = .ok prompt ∧
          isBase (String.ofList base) = true ∧
          definition = {
            name := String.ofList name
            base := String.ofList base
            prompt := String.ofList prompt
            model :=
              if ((fields.lookup .model).getD []).isEmpty then default
              else .text (String.ofList ((fields.lookup .model).getD []))
            line := line } := by
  constructor
  · intro defined
    unfold ofText at defined
    dsimp only at defined
    split at defined
    · cases defined
    · rename_i name rest head
      split at defined
      · cases defined
      · rename_i block taken
        obtain ⟨fields, read, defined⟩ := bind_eq_ok_iff.mp defined
        obtain ⟨base, basePresent, defined⟩ := bind_eq_ok_iff.mp defined
        obtain ⟨prompt, promptPresent, defined⟩ := bind_eq_ok_iff.mp defined
        split at defined
        · rename_i valid
          cases defined
          exact ⟨name, rest, block, fields, base, prompt, head, taken, read, basePresent,
            promptPresent, valid, rfl⟩
        · cases defined
  · rintro ⟨name, rest, block, fields, base, prompt, head, taken, read, basePresent,
      promptPresent, valid, rfl⟩
    simp only [ofText, head, taken, read, basePresent, promptPresent, bind, Except.bind, valid,
      if_true]

theorem block_subset {text name rest block : List Char} (head : takeHead? text = some (name, rest))
    (taken : takeBlock? rest = some block) : block ⊆ text := by
  obtain ⟨_, _, whole, _⟩ := takeHead?_parts head
  obtain ⟨_, behind, _⟩ := takeBlock?_parts taken
  intro c member
  rw [whole, behind]
  simp [member]

/-- The prompt of a macro stands in its definition. -/
theorem prompt_subset_of_ofText {text : List Char} {line : Int} {default : Value}
    {definition : Macro} (defined : ofText text line default = .ok definition) :
    definition.prompt.toList ⊆ text := by
  obtain ⟨name, rest, block, fields, base, prompt, head, taken, read, _, present, _, rfl⟩ :=
    ofText_eq_ok_iff.mp defined
  have within := subset_of_readFields read _ _ (mem_of_required present)
  simp only [List.not_mem_nil, false_or] at within
  simpa using List.Subset.trans within (block_subset head taken)

end Macro

end AgentFlow
