import AgentFlow.Proofs.Workflow.Macro
import Mathlib.Data.List.Nodup

/-!
# The grammar of definitions

A definition is a dollar sign, a name and the mark `:=`, and behind them one or more fields
in braces, with commas between them and blanks wherever two parts meet.  A text is read as a
macro just when it is written so, no field stands twice, and the base and the prompt are
there.  The macro has the values that the bodies of its fields stand for; neither the order
of the fields nor the blanks make a difference.
-/

namespace AgentFlow

open AgentFlow.Text

namespace Text

/-- Words hold no blanks. -/
theorem not_isWordChar_of_isBlank {c : Char} (blank : isBlank c = true) :
    isWordChar c = false := by
  have codes : ([9, 10, 11, 12, 13, 28, 29, 30, 31, 32, 133, 160, 5760, 8192, 8193, 8194, 8195,
      8196, 8197, 8198, 8199, 8200, 8201, 8202, 8232, 8233, 8239, 8287, 12288].all fun code =>
        !inSpans wordBoundaries code) = true := by
    decide +kernel
  have outside : (!inSpans wordBoundaries c.toNat) = true := by
    refine List.all_eq_true.mp codes c.toNat ?_
    simp only [isBlank, Bool.or_eq_true, Bool.and_eq_true, decide_eq_true_eq, beq_iff_eq] at blank
    simp only [List.mem_cons, List.not_mem_nil, or_false]
    omega
  simpa [isWordChar] using outside

theorem mem_or_eq_of_head? {blanks rest : List Char} {mark c : Char}
    (first : (blanks ++ mark :: rest).head? = some c) : c ∈ blanks ∨ c = mark := by
  cases blanks with
  | nil => exact .inr (Option.some.inj first).symm
  | cons blank blanks => exact .inl (by simp [Option.some.inj first])

end Text

namespace Macro

theorem isWordChar_word (field : Field) : ∀ c ∈ field.word.toList, isWordChar c = true := by
  apply List.all_eq_true.mp
  cases field <;> rfl

/-- An identifier, or a dollar sign and an identifier. -/
def IsBaseName (value : List Char) : Prop :=
  ∃ name, spellsIdentifier name = true ∧ (value = name ∨ value = '$' :: name)

theorem isBase_iff {base : String} : isBase base = true ↔ IsBaseName base.toList := by
  unfold isBase
  cases linked : link? base with
  | none =>
      constructor
      · intro valid
        exact ⟨base.toList, valid, .inl rfl⟩
      · rintro ⟨name, spelled, same | same⟩
        · rw [← same] at spelled
          exact spelled
        · exact absurd (by rw [same]; rfl) (link?_eq_none_iff.mp linked)
  | some name =>
      obtain rfl := link?_eq_some_iff.mp linked
      constructor
      · intro valid
        exact ⟨name.toList, valid, .inr (by simp)⟩
      · rintro ⟨other, spelled, same | same⟩
        · have inName := CallForm.isIdentifierChar_of_spellsIdentifier spelled '$' (by simp [← same])
          cases inName
        · have sameName : name.toList = other := by simpa using same
          rw [← sameName] at spelled
          exact spelled

theorem word_ne_nil (field : Field) : field.word.toList ≠ [] := by
  cases field <;> exact List.cons_ne_nil _ _

/-- The parts of a field are taken apart again, if its key is a word. -/
theorem FieldParts.takeField?_eq {cs key body rest front afterKey beforeQuote afterBody : List Char}
    (parts : FieldParts cs key body rest front afterKey beforeQuote afterBody)
    (word : ∀ c ∈ key, isWordChar c = true) (nonempty : key ≠ [])
    (first : ∀ c, rest.head? = some c → isBlank c = false) :
    takeField? cs = some (key, body, rest) := by
  have blank := parts.blank
  simp only [List.mem_append, or_imp, forall_and] at blank
  obtain ⟨⟨⟨blankFront, blankKey⟩, blankQuote⟩, blankBody⟩ := blank
  have startsKey : ∀ tail c, (key ++ tail).head? = some c → isBlank c = false := by
    intro tail c atStart
    rw [List.head?_append_of_ne_nil _ nonempty] at atStart
    have inWord := word c (List.mem_of_head? atStart)
    rw [Bool.eq_false_iff]
    intro isBlank
    rw [not_isWordChar_of_isBlank isBlank] at inWord
    cases inWord
  have endsKey : ∀ tail c, (afterKey ++ ':' :: tail).head? = some c → isWordChar c = false := by
    intro tail c atStart
    rcases mem_or_eq_of_head? atStart with inBlanks | rfl
    · exact not_isWordChar_of_isBlank (blankKey c inBlanks)
    · rfl
  have colonNoBlank : isBlank ':' = false := rfl
  have quoteNoBlank : isBlank '"' = false := rfl
  unfold takeField?
  dsimp only
  rw [parts.whole, trimStart_append blankFront (startsKey _),
    takeWhile_append_of_stops word (endsKey _), dropWhile_append_of_stops word (endsKey _),
    if_neg (by simpa using nonempty)]
  simp only [trimStart_append_cons blankKey colonNoBlank,
    trimStart_append_cons blankQuote quoteNoBlank, parts.quoted.takeBody_append,
    trimStart_append blankBody first]

/-- A field as it is written: the body of its value, and the blanks around the parts. -/
structure WrittenField where
  field : Field
  body : List Char
  front : List Char
  afterKey : List Char
  beforeQuote : List Char
  afterBody : List Char

namespace WrittenField

variable (written : WrittenField)

def chars : List Char :=
  written.front ++ (written.field.word.toList ++ (written.afterKey ++ ':' ::
    (written.beforeQuote ++ '"' :: (written.body ++ '"' :: written.afterBody))))

def blanks : List Char :=
  written.front ++ written.afterKey ++ written.beforeQuote ++ written.afterBody

/-- What the field says, without the blanks. -/
def content : Field × List Char :=
  (written.field, written.body)

/-- The value that the field gives. -/
def entry : Field × List Char :=
  (written.field, unescapeQuotes written.body)

variable {written} {cs key body rest : List Char} {field : Field}

/-- A field that was taken is written in front of what is left. -/
theorem exists_of_takeField? (taken : takeField? cs = some (key, body, rest))
    (known : Field.ofWord? key = some field) :
    ∃ written : WrittenField, cs = written.chars ++ rest ∧ written.field = field ∧
      written.body = body ∧ (∀ c ∈ written.blanks, isBlank c = true) ∧ QuotedBody body := by
  obtain ⟨front, afterKey, beforeQuote, afterBody, parts⟩ := takeField?_parts taken
  refine ⟨⟨field, body, front, afterKey, beforeQuote, afterBody⟩, ?_, rfl, rfl, parts.blank,
    parts.quoted⟩
  rw [parts.whole, word_of_ofWord? known]
  simp [chars]

/-- A written field is taken, up to what is no blank. -/
theorem takeField?_chars (blank : ∀ c ∈ written.blanks, isBlank c = true)
    (quoted : QuotedBody written.body) (first : ∀ c, rest.head? = some c → isBlank c = false) :
    takeField? (written.chars ++ rest) = some (written.field.word.toList, written.body, rest) := by
  have parts : FieldParts (written.chars ++ rest) written.field.word.toList written.body rest
      written.front written.afterKey written.beforeQuote written.afterBody :=
    ⟨by simp [chars], blank, quoted⟩
  exact parts.takeField?_eq (isWordChar_word _) (word_ne_nil _) first

end WrittenField

/-- Written fields with commas between them. -/
def listChars (fields : List WrittenField) : List Char :=
  [','].intercalate (fields.map WrittenField.chars)

theorem listChars_singleton (one : WrittenField) : listChars [one] = one.chars := by
  simp [listChars]

theorem listChars_cons {others : List WrittenField} (nonempty : others ≠ [])
    (one : WrittenField) : listChars (one :: others) = one.chars ++ ',' :: listChars others := by
  obtain ⟨next, rest, rfl⟩ := List.exists_cons_of_ne_nil nonempty
  simp [listChars, List.intercalate_cons_cons]

section Fields

variable {macroName : String} {block cs key body rest : List Char} {fields all : Fields}
  {field : Field}

theorem lookup_eq_none_iff_notMem : fields.lookup field = none ↔ field ∉ fields.map Prod.fst := by
  rw [List.lookup_eq_none_iff]
  constructor
  · rintro absent member
    obtain ⟨entry, inFields, rfl⟩ := List.mem_map.mp member
    simpa using absent entry inFields
  · intro isNew entry inFields
    have differs : field ≠ entry.1 := by
      rintro rfl
      exact isNew (List.mem_map.mpr ⟨entry, inFields, rfl⟩)
    simpa using differs

/-- A field that was not there is one more key. -/
theorem nodup_append_field (distinct : (fields.map Prod.fst).Nodup)
    (isNew : ¬(fields.lookup field).isSome = true) (value : List Char) :
    ((fields ++ [(field, value)]).map Prod.fst).Nodup := by
  have absent := Option.not_isSome_iff_eq_none.mp isNew
  rw [List.map_append, List.map_singleton, ← List.concat_eq_append, List.nodup_concat]
  exact ⟨lookup_eq_none_iff_notMem.mp absent, distinct⟩

theorem readFields_of_last (taken : takeField? cs = some (key, body, []))
    (known : Field.ofWord? key = some field) (isNew : field ∉ fields.map Prod.fst) :
    readFields macroName block fields cs = .ok (fields ++ [(field, unescapeQuotes body)]) := by
  rw [readFields]
  split
  · rename_i notTaken
    rw [taken] at notTaken
    cases notTaken
  · rename_i otherTaken
    rw [taken] at otherTaken
    cases otherTaken
    simp only [known, lookup_eq_none_iff_notMem.mpr isNew]
    rfl

theorem readFields_of_more (taken : takeField? cs = some (key, body, ',' :: rest))
    (known : Field.ofWord? key = some field) (isNew : field ∉ fields.map Prod.fst) :
    readFields macroName block fields cs =
      readFields macroName block (fields ++ [(field, unescapeQuotes body)]) rest := by
  rw [readFields]
  split
  · rename_i notTaken
    rw [taken] at notTaken
    cases notTaken
  · rename_i otherTaken
    rw [taken] at otherTaken
    cases otherTaken
    simp only [known, lookup_eq_none_iff_notMem.mpr isNew]
    rfl

/-- A list of written fields is read as the values that they give. -/
theorem readFields_listChars {written : List WrittenField} (nonempty : written ≠ [])
    (blank : ∀ one ∈ written, ∀ c ∈ one.blanks, isBlank c = true)
    (quoted : ∀ one ∈ written, QuotedBody one.body)
    (distinct : (fields.map Prod.fst ++ written.map WrittenField.field).Nodup) :
    readFields macroName block fields (listChars written) =
      .ok (fields ++ written.map WrittenField.entry) := by
  induction written generalizing fields with
  | nil => exact absurd rfl nonempty
  | cons one others induction =>
      obtain ⟨blankOne, blankOthers⟩ := List.forall_mem_cons.mp blank
      obtain ⟨quotedOne, quotedOthers⟩ := List.forall_mem_cons.mp quoted
      have known := ofWord?_word one.field
      have isNew : one.field ∉ fields.map Prod.fst := fun member =>
        (List.nodup_append.mp distinct).2.2 _ member _ (by simp) rfl
      by_cases isLast : others = []
      · subst isLast
        have nothing : ∀ c, ([] : List Char).head? = some c → isBlank c = false := by
          rintro c ⟨⟩
        have taken := WrittenField.takeField?_chars blankOne quotedOne nothing
        rw [List.append_nil] at taken
        rw [listChars_singleton, readFields_of_last taken known isNew]
        rfl
      · have comma : ∀ c, (',' :: listChars others).head? = some c → isBlank c = false := by
          rintro c ⟨⟩
          rfl
        have taken := WrittenField.takeField?_chars blankOne quotedOne comma
        rw [listChars_cons isLast, readFields_of_more taken known isNew,
          induction isLast blankOthers quotedOthers (by simpa using distinct)]
        simp [WrittenField.entry]

/-- Fields that were read are written, one behind the other. -/
theorem exists_written_of_readFields (read : readFields macroName block fields cs = .ok all)
    (distinct : (fields.map Prod.fst).Nodup) :
    ∃ written : List WrittenField, written ≠ [] ∧ cs = listChars written ∧
      all = fields ++ written.map WrittenField.entry ∧
      (∀ one ∈ written, ∀ c ∈ one.blanks, isBlank c = true) ∧
      (∀ one ∈ written, QuotedBody one.body) ∧ (all.map Prod.fst).Nodup := by
  fun_induction readFields macroName block fields cs with
  | case1 => cases read
  | case2 => cases read
  | case3 => cases read
  | case4 fields cs key body rest taken field known isNew fieldsNow atEnd =>
      obtain ⟨one, whole, rfl, rfl, blank, quoted⟩ := WrittenField.exists_of_takeField? taken known
      obtain rfl := List.isEmpty_iff.mp atEnd
      obtain rfl := Except.ok.inj read
      refine ⟨[one], List.cons_ne_nil _ _, ?_, rfl, ?_, ?_, ?_⟩
      · rw [whole, listChars_singleton, List.append_nil]
      · simpa using blank
      · simpa using quoted
      · exact nodup_append_field distinct isNew _
  | case5 fields cs key body rest taken field known isNew fieldsNow _ atComma induction =>
      obtain ⟨one, whole, rfl, rfl, blank, quoted⟩ := WrittenField.exists_of_takeField? taken known
      obtain ⟨after, rfl⟩ := List.head?_eq_some_iff.mp atComma
      obtain ⟨others, nonempty, wholeRest, rfl, blanks, quotes, distinctAll⟩ :=
        induction read (nodup_append_field distinct isNew _)
      refine ⟨one :: others, List.cons_ne_nil _ _, ?_, ?_, ?_, ?_, distinctAll⟩
      · rw [whole, listChars_cons nonempty, ← wholeRest]
        rfl
      · simp [fieldsNow, WrittenField.entry]
      · exact List.forall_mem_cons.mpr ⟨blank, blanks⟩
      · exact List.forall_mem_cons.mpr ⟨quoted, quotes⟩
  | case6 => cases read

end Fields

/-- The rules for the fields of a definition, in any order. -/
structure Lawful (contents : List (Field × List Char)) : Prop where
  quoted : ∀ content ∈ contents, QuotedBody content.2
  distinct : (contents.map Prod.fst).Nodup
  base : ∃ body, (Field.base, body) ∈ contents ∧ IsBaseName (unescapeQuotes body)
  prompt : ∃ body, (Field.prompt, body) ∈ contents ∧ unescapeQuotes body ≠ []

theorem Lawful.perm {contents other : List (Field × List Char)} (lawful : Lawful contents)
    (reordered : other.Perm contents) : Lawful other where
  quoted := fun content member => lawful.quoted content (reordered.mem_iff.mp member)
  distinct := (reordered.map Prod.fst).nodup_iff.mpr lawful.distinct
  base := by
    obtain ⟨body, member, valid⟩ := lawful.base
    exact ⟨body, reordered.mem_iff.mpr member, valid⟩
  prompt := by
    obtain ⟨body, member, nonempty⟩ := lawful.prompt
    exact ⟨body, reordered.mem_iff.mpr member, nonempty⟩

/-- A definition as it is written. -/
structure WrittenDefinition where
  name : List Char
  afterName : List Char
  afterMark : List Char
  fields : List WrittenField

namespace WrittenDefinition

variable (written : WrittenDefinition)

def chars : List Char :=
  '$' :: (written.name ++ (written.afterName ++ ':' :: '=' ::
    (written.afterMark ++ '{' :: (listChars written.fields ++ ['}']))))

/-- What the fields say. -/
def contents : List (Field × List Char) :=
  written.fields.map WrittenField.content

/-- The values that the fields give. -/
def entries : Fields :=
  written.fields.map WrittenField.entry

/-- What stands between the parts are blanks. -/
structure IsSpaced : Prop where
  head : ∀ c ∈ written.afterName ++ written.afterMark, isBlank c = true
  fields : ∀ one ∈ written.fields, ∀ c ∈ one.blanks, isBlank c = true

/-- The rules of the grammar. -/
structure WellFormed : Prop where
  name : spellsIdentifier written.name = true
  spaced : written.IsSpaced
  lawful : Lawful written.contents

end WrittenDefinition

/-- The macro of a name whose fields give the values.  The default is the model of a
definition that gives none or an empty one. -/
structure Gives (name : List Char) (entries : Fields) (line : Int) (default : Value)
    (definition : Macro) : Prop where
  name : definition.name = String.ofList name
  base : (Field.base, definition.base.toList) ∈ entries
  prompt : (Field.prompt, definition.prompt.toList) ∈ entries
  model : (∃ value, (Field.model, value) ∈ entries ∧ value ≠ [] ∧
      definition.model = .text (String.ofList value)) ∨
    (∀ value, (Field.model, value) ∈ entries → value = []) ∧ definition.model = default
  line : definition.line = line

theorem Gives.perm {name : List Char} {entries other : Fields} {line : Int} {default : Value}
    {definition : Macro} (gives : Gives name entries line default definition)
    (reordered : other.Perm entries) : Gives name other line default definition where
  name := gives.name
  base := reordered.mem_iff.mpr gives.base
  prompt := reordered.mem_iff.mpr gives.prompt
  model := by
    simp only [reordered.mem_iff]
    exact gives.model
  line := gives.line

theorem takeHead?_chars {name blanks : List Char} (spelled : spellsIdentifier name = true)
    (blank : ∀ c ∈ blanks, isBlank c = true) (rest : List Char) :
    takeHead? ('$' :: (name ++ (blanks ++ ':' :: '=' :: rest))) = some (name, rest) := by
  have nonempty : name.isEmpty = false :=
    List.isEmpty_eq_false_iff.mpr (CallForm.ne_nil_of_spellsIdentifier spelled)
  have stops : ∀ c, (blanks ++ ':' :: '=' :: rest).head? = some c → isIdentifierChar c = false := by
    intro c atStart
    rcases mem_or_eq_of_head? atStart with inBlanks | rfl
    · rw [Bool.eq_false_iff]
      intro inName
      have noBlank := not_isBlank_of_isIdentifierChar inName
      rw [blank c inBlanks] at noBlank
      cases noBlank
    · rfl
  have colonNoBlank : isBlank ':' = false := rfl
  simp only [takeHead?, CallForm.takeIdentifier_append_of_stops spelled stops, nonempty,
    trimStart_append_cons blank colonNoBlank, Bool.false_eq_true, if_false]

theorem takeBlock?_chars {blanks : List Char} (blank : ∀ c ∈ blanks, isBlank c = true)
    (block : List Char) : takeBlock? (blanks ++ '{' :: (block ++ ['}'])) = some block := by
  have braceNoBlank : isBlank '{' = false := rfl
  simp [takeBlock?, trimStart_append_cons blank braceNoBlank]

theorem required_eq_ok_iff {macroName : String} {fields : Fields} {field : Field}
    {value : List Char} :
    required macroName fields field = .ok value ↔ fields.lookup field = some value ∧ value ≠ [] := by
  unfold required
  split
  · rename_i c rest found
    rw [found, Except.ok.injEq, Option.some.injEq]
    constructor
    · rintro rfl
      exact ⟨rfl, List.cons_ne_nil _ _⟩
    · exact And.left
  · rename_i notFound
    constructor
    · intro present
      cases present
    · rintro ⟨found, nonempty⟩
      obtain ⟨c, rest, rfl⟩ := List.exists_cons_of_ne_nil nonempty
      exact absurd found (notFound c rest)

theorem IsBaseName.ne_nil {value : List Char} (valid : IsBaseName value) : value ≠ [] := by
  obtain ⟨name, spelled, rfl | rfl⟩ := valid
  · exact CallForm.ne_nil_of_spellsIdentifier spelled
  · exact List.cons_ne_nil _ _

/-- The model that the fields give, told by the first field of the key. -/
theorem model_iff {entries : Fields} (distinct : (entries.map Prod.fst).Nodup)
    {default model : Value} :
    ((∃ value, (Field.model, value) ∈ entries ∧ value ≠ [] ∧
        model = .text (String.ofList value)) ∨
      (∀ value, (Field.model, value) ∈ entries → value = []) ∧ model = default) ↔
    model = if ((entries.lookup .model).getD []).isEmpty then default
      else .text (String.ofList ((entries.lookup .model).getD [])) := by
  simp only [← lookup_eq_some_iff_mem distinct]
  cases entries.lookup .model with
  | none => simp
  | some value => cases value <;> simp

namespace WrittenDefinition

variable {written : WrittenDefinition} {line : Int} {default : Value} {definition : Macro}

theorem entries_eq : written.entries = written.contents.map (Prod.map id unescapeQuotes) := by
  simp [entries, contents, WrittenField.entry, WrittenField.content, Function.comp_def]

theorem mem_entries {field : Field} {body : List Char} (member : (field, body) ∈ written.contents) :
    (field, unescapeQuotes body) ∈ written.entries := by
  rw [entries_eq]
  exact List.mem_map_of_mem member

namespace WellFormed

variable (wellFormed : written.WellFormed)

include wellFormed

theorem quoted : ∀ one ∈ written.fields, QuotedBody one.body :=
  fun one member => wellFormed.lawful.quoted one.content (List.mem_map_of_mem member)

theorem distinct_fields : (written.fields.map WrittenField.field).Nodup := by
  have distinct := wellFormed.lawful.distinct
  rwa [contents, List.map_map] at distinct

theorem distinct_entries : (written.entries.map Prod.fst).Nodup := by
  rw [entries, List.map_map]
  exact wellFormed.distinct_fields

theorem fields_ne_nil : written.fields ≠ [] := by
  obtain ⟨body, member, -⟩ := wellFormed.lawful.base
  intro empty
  rw [contents, empty] at member
  cases member

theorem exists_gives (line : Int) (default : Value) :
    ∃ definition, Gives written.name written.entries line default definition := by
  obtain ⟨base, isBase, -⟩ := wellFormed.lawful.base
  obtain ⟨prompt, isPrompt, -⟩ := wellFormed.lawful.prompt
  refine ⟨⟨String.ofList written.name, String.ofList (unescapeQuotes base),
    String.ofList (unescapeQuotes prompt), _, line⟩, rfl, ?_, ?_,
    (model_iff wellFormed.distinct_entries).mpr rfl, rfl⟩
  · rw [String.toList_ofList]
    exact mem_entries isBase
  · rw [String.toList_ofList]
    exact mem_entries isPrompt

/-- A written definition reads as the macro that its fields give. -/
theorem ofText_chars (gives : Gives written.name written.entries line default definition) :
    ofText written.chars line default = .ok definition := by
  have distinct := wellFormed.distinct_entries
  obtain ⟨blankName, blankMark⟩ := List.forall_mem_append.mp wellFormed.spaced.head
  have read : readFields (String.ofList written.name) (listChars written.fields) []
      (listChars written.fields) = .ok written.entries :=
    readFields_listChars wellFormed.fields_ne_nil wellFormed.spaced.fields wellFormed.quoted
      wellFormed.distinct_fields
  have baseFound := (lookup_eq_some_iff_mem distinct).mpr gives.base
  have promptFound := (lookup_eq_some_iff_mem distinct).mpr gives.prompt
  have validBase : IsBaseName definition.base.toList := by
    obtain ⟨body, member, valid⟩ := wellFormed.lawful.base
    have found := (lookup_eq_some_iff_mem distinct).mpr (mem_entries member)
    rwa [Option.some.inj (baseFound.symm.trans found)]
  have nonemptyPrompt : definition.prompt.toList ≠ [] := by
    obtain ⟨body, member, nonempty⟩ := wellFormed.lawful.prompt
    have found := (lookup_eq_some_iff_mem distinct).mpr (mem_entries member)
    rwa [Option.some.inj (promptFound.symm.trans found)]
  refine ofText_eq_ok_iff.mpr ⟨written.name, _, _, written.entries, definition.base.toList,
    definition.prompt.toList, takeHead?_chars wellFormed.name blankName _,
    takeBlock?_chars blankMark _, read, required_eq_ok_iff.mpr ⟨baseFound, validBase.ne_nil⟩,
    required_eq_ok_iff.mpr ⟨promptFound, nonemptyPrompt⟩, ?_, ?_⟩
  · rw [String.ofList_toList]
    exact isBase_iff.mpr validBase
  · obtain ⟨name, base, prompt, model, lineNumber⟩ := definition
    simp only [String.ofList_toList, Macro.mk.injEq, true_and]
    exact ⟨gives.name, (model_iff distinct).mp gives.model, gives.line⟩

end WellFormed

/-- What reads as a macro is a written definition. -/
theorem exists_of_ofText {text : List Char} (defined : ofText text line default = .ok definition) :
    ∃ written : WrittenDefinition, written.WellFormed ∧ text = written.chars := by
  obtain ⟨name, rest, block, fields, base, prompt, head, taken, read, basePresent, promptPresent,
    valid, rfl⟩ := ofText_eq_ok_iff.mp defined
  obtain ⟨spelled, afterName, whole, blankName⟩ := takeHead?_parts head
  obtain ⟨afterMark, wholeRest, blankMark⟩ := takeBlock?_parts taken
  obtain ⟨written, nonempty, wholeBlock, rfl, blank, quoted, distinct⟩ :=
    exists_written_of_readFields read List.nodup_nil
  rw [List.nil_append] at distinct basePresent promptPresent
  have lawful : Lawful (written.map WrittenField.content) := by
    refine ⟨?_, ?_, ?_, ?_⟩
    · simpa [WrittenField.content] using quoted
    · simpa [WrittenField.entry, WrittenField.content, Function.comp_def] using distinct
    · obtain ⟨one, member, same⟩ := List.mem_map.mp (mem_of_required basePresent)
      obtain ⟨key, rfl⟩ := Prod.mk.inj same
      refine ⟨one.body, List.mem_map.mpr ⟨one, member, by rw [WrittenField.content, key]⟩, ?_⟩
      rw [← String.toList_ofList (l := unescapeQuotes one.body)]
      exact isBase_iff.mp valid
    · obtain ⟨one, member, same⟩ := List.mem_map.mp (mem_of_required promptPresent)
      obtain ⟨key, rfl⟩ := Prod.mk.inj same
      exact ⟨one.body, List.mem_map.mpr ⟨one, member, by rw [WrittenField.content, key]⟩,
        (required_eq_ok_iff.mp promptPresent).2⟩
  refine ⟨⟨name, afterName, afterMark, written⟩,
    ⟨spelled, ⟨List.forall_mem_append.mpr ⟨blankName, blankMark⟩, blank⟩, lawful⟩, ?_⟩
  rw [whole, wholeRest, wholeBlock, chars]

theorem isTrimmed_chars (written : WrittenDefinition) : IsTrimmed written.chars where
  first := by
    rintro c ⟨⟩
    rfl
  last := by
    have closed : written.chars = ('$' :: (written.name ++ (written.afterName ++ ':' :: '=' ::
        (written.afterMark ++ '{' :: listChars written.fields)))) ++ ['}'] := by
      simp [chars]
    intro c atEnd
    rw [closed, List.getLast?_concat] at atEnd
    obtain rfl := Option.some.inj atEnd
    rfl

theorem parse_eq_of_gives {text : String} (wellFormed : written.WellFormed)
    (spelled : trim text.toList = written.chars)
    (gives : Gives written.name written.entries line default definition) :
    parse text line default = .ok definition := by
  refine mapError_eq_ok_iff.mpr ?_
  rw [spelled]
  exact wellFormed.ofText_chars gives

/-- The blanks and the order of the fields do not matter. -/
theorem parse_eq_of_perm {other : WrittenDefinition} {text otherText : String}
    (wellFormed : written.WellFormed) (spaced : other.IsSpaced) (sameName : other.name = written.name)
    (reordered : other.contents.Perm written.contents) (spelled : trim text.toList = written.chars)
    (otherSpelled : trim otherText.toList = other.chars) :
    parse otherText line default = parse text line default := by
  have otherWellFormed : other.WellFormed := by
    refine ⟨?_, spaced, wellFormed.lawful.perm reordered⟩
    rw [sameName]
    exact wellFormed.name
  have sameEntries : other.entries.Perm written.entries := by
    rw [entries_eq, entries_eq]
    exact reordered.map _
  obtain ⟨definition, gives⟩ := wellFormed.exists_gives line default
  have otherGives : Gives other.name other.entries line default definition := by
    rw [sameName]
    exact gives.perm sameEntries
  rw [parse_eq_of_gives wellFormed spelled gives,
    parse_eq_of_gives otherWellFormed otherSpelled otherGives]

end WrittenDefinition

/-- The contents of a definition that is written for a base, a prompt and a model. -/
def rendered (base prompt model : String) : List (Field × List Char) :=
  [(.base, escapeQuotes base.toList), (.prompt, escapeQuotes prompt.toList),
    (.model, escapeQuotes model.toList)]

/-- A base needs no escapes. -/
theorem IsBaseName.complete {value : List Char} (valid : IsBaseName value) :
    endsWithBackslash value = false := by
  have inBase : ∀ c ∈ value, c = '$' ∨ isIdentifierChar c = true := by
    obtain ⟨name, spelled, rfl | rfl⟩ := valid
    · exact fun c member => .inr (CallForm.isIdentifierChar_of_spellsIdentifier spelled c member)
    · exact List.forall_mem_cons.mpr ⟨.inl rfl, fun c member =>
        .inr (CallForm.isIdentifierChar_of_spellsIdentifier spelled c member)⟩
  rw [endsWithBackslash, beq_eq_false_iff_ne]
  intro atEnd
  rcases inBase '\\' (List.mem_of_getLast? atEnd) with isDollar | inName
  · cases isDollar
  · cases inName

theorem lawful_rendered {base prompt model : String} (valid : IsBaseName base.toList)
    (nonempty : prompt ≠ "") (completePrompt : endsWithBackslash prompt.toList = false)
    (completeModel : endsWithBackslash model.toList = false) :
    Lawful (rendered base prompt model) where
  quoted := by
    have quotedBase := QuotedBody.escapeQuotes valid.complete
    have quotedPrompt := QuotedBody.escapeQuotes completePrompt
    have quotedModel := QuotedBody.escapeQuotes completeModel
    simp [rendered, quotedBase, quotedPrompt, quotedModel]
  distinct := by
    have keys : (rendered base prompt model).map Prod.fst = [.base, .prompt, .model] := rfl
    rw [keys]
    decide
  base := by
    refine ⟨escapeQuotes base.toList, by simp [rendered], ?_⟩
    rwa [unescapeQuotes_escapeQuotes]
  prompt := by
    refine ⟨escapeQuotes prompt.toList, by simp [rendered], ?_⟩
    rwa [unescapeQuotes_escapeQuotes, ne_eq, String.toList_eq_nil_iff]

/-- The values of a rendered definition come back. -/
theorem gives_rendered {name base prompt model : String} (nonempty : model ≠ "") (line : Int)
    (default : Value) :
    Gives name.toList ((rendered base prompt model).map (Prod.map id unescapeQuotes)) line default
      ⟨name, base, prompt, .text model, line⟩ := by
  have values : (rendered base prompt model).map (Prod.map id unescapeQuotes) =
      [(.base, base.toList), (.prompt, prompt.toList), (.model, model.toList)] := by
    simp [rendered, unescapeQuotes_escapeQuotes]
  rw [values]
  refine ⟨(String.ofList_toList).symm, by simp, by simp, .inl ⟨model.toList, by simp, ?_, ?_⟩, rfl⟩
  · rwa [ne_eq, String.toList_eq_nil_iff]
  · rw [String.ofList_toList]

/-- A text is read as a macro just when it is a written definition, as the macro that its
fields give, whatever their order and the blanks.  So the values that a definition is
rendered from come back; and any other text is refused as malformed. -/
theorem definition_grammar (line : Int) (default : Value) :
    (∀ text, (∃ definition, parse text line default = .ok definition) ↔
      ∃ written : WrittenDefinition, written.WellFormed ∧ trim text.toList = written.chars) ∧
    (∀ text (written : WrittenDefinition), written.WellFormed →
      trim text.toList = written.chars → ∃ definition,
        parse text line default = .ok definition ∧
          Gives written.name written.entries line default definition) ∧
    (∀ written other : WrittenDefinition, written.WellFormed → other.IsSpaced →
      other.name = written.name → other.contents.Perm written.contents →
      ∀ text otherText, trim text.toList = written.chars → trim otherText.toList = other.chars →
        parse otherText line default = parse text line default) ∧
    (∀ (name base prompt model : String), isIdentifier name = true → IsBaseName base.toList →
      prompt ≠ "" → model ≠ "" → endsWithBackslash prompt.toList = false →
      endsWithBackslash model.toList = false →
      ∀ written : WrittenDefinition, written.name = name.toList → written.IsSpaced →
        written.contents.Perm (rendered base prompt model) →
          parse (String.ofList written.chars) line default =
            .ok ⟨name, base, prompt, .text model, line⟩) ∧
    ∀ text e, parse text line default = .error e → ∃ fault, e = .malformed fault .unplaced text := by
  have reads : ∀ text (written : WrittenDefinition), written.WellFormed →
      trim text.toList = written.chars → ∃ definition,
        parse text line default = .ok definition ∧
          Gives written.name written.entries line default definition := by
    intro text written wellFormed spelled
    obtain ⟨definition, gives⟩ := wellFormed.exists_gives line default
    exact ⟨definition, WrittenDefinition.parse_eq_of_gives wellFormed spelled gives, gives⟩
  refine ⟨fun text => ⟨?_, ?_⟩, reads, ?_, ?_, ?_⟩
  · rintro ⟨definition, parsed⟩
    exact WrittenDefinition.exists_of_ofText (mapError_eq_ok_iff.mp parsed)
  · rintro ⟨written, wellFormed, spelled⟩
    obtain ⟨definition, parsed, -⟩ := reads text written wellFormed spelled
    exact ⟨definition, parsed⟩
  · intro written other wellFormed spaced sameName reordered text otherText spelled otherSpelled
    exact WrittenDefinition.parse_eq_of_perm wellFormed spaced sameName reordered spelled
      otherSpelled
  · intro name base prompt model valid validBase promptNonempty modelNonempty completePrompt
      completeModel written sameName spaced reordered
    have lawful := lawful_rendered validBase promptNonempty completePrompt completeModel
    have spelled : spellsIdentifier written.name = true := by
      rw [sameName]
      exact valid
    have gives : Gives written.name written.entries line default
        ⟨name, base, prompt, .text model, line⟩ := by
      rw [sameName, WrittenDefinition.entries_eq]
      exact (gives_rendered modelNonempty line default).perm (reordered.map _)
    refine WrittenDefinition.parse_eq_of_gives ⟨spelled, spaced, lawful.perm reordered⟩ ?_ gives
    rw [String.toList_ofList]
    exact trim_eq_self written.isTrimmed_chars
  · intro text e failed
    obtain ⟨fault, -, rfl⟩ := mapError_eq_error_iff.mp failed
    exact ⟨fault, rfl⟩

/-- The prompt first, with a quote, a brace and a comma inside, and few blanks. -/
theorem parse_rendered_prompt_first :
    parse "$r :=\x7bprompt:\"a\\\"\x7d,b\", model:\"m\",base: \"$w\"\x7d" 3 (.text "sonnet") =
      .ok ⟨"r", "$w", "a\"\x7d,b", .text "m", 3⟩ := by
  have validBase : IsBaseName "$w".toList := ⟨['w'], rfl, .inr rfl⟩
  exact (definition_grammar 3 (.text "sonnet")).2.2.2.1 "r" "$w" "a\"\x7d,b" "m" rfl validBase
    (by decide) (by decide) rfl rfl
    ⟨['r'], [' '], [], [⟨.prompt, ['a', '\\', '"', '}', ',', 'b'], [], [], [], []⟩,
      ⟨.model, ['m'], [' '], [], [], []⟩, ⟨.base, ['$', 'w'], [], [], [' '], []⟩]⟩
    rfl ⟨by simp; decide, by simp [WrittenField.blanks]; decide⟩ (by decide)

end Macro

end AgentFlow
