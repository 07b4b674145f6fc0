import AgentFlow.Proofs.Workflow.Faults
import AgentFlow.Proofs.Workflow.Recompilation
import AgentFlow.Proofs.Workflow.Statement

/-!
# Reached definitions

Expansion reads only the definitions that some call leads to.  Where these stand, and
what else a source defines, changes neither an expanded statement nor the error that
expansion ends with.
-/

namespace AgentFlow

open AgentFlow.Text

namespace Macro

/-- A macro without the place of its definition. -/
def withoutLine (definition : Macro) : Macro :=
  { definition with line := 0 }

/-- The parts of a macro, its model as a text. -/
def parts (definition : Macro) : String × String × String × Option String :=
  (definition.name, definition.base, definition.prompt, definition.model.text?)

theorem withoutLine_eq_of_parts {definition other : Macro} {model : String}
    (named : definition.model.text? = some model) (sameParts : definition.parts = other.parts) :
    definition.withoutLine = other.withoutLine := by
  have eqText {value : Value} (isText : value.text? = some model) : value = .text model := by
    cases value <;> simp_all [Value.text?]
  simp only [parts, Prod.mk.injEq] at sameParts
  obtain ⟨name, base, prompt, texts⟩ := sameParts
  have models : definition.model = other.model :=
    (eqText named).trans (eqText (texts ▸ named)).symm
  simp [withoutLine, name, base, prompt, models]

end Macro

theorem Error.SameKind.ofOwn {e other : Error} {kind : ErrorKind} (own : e.kind? = some kind)
    (otherOwn : other.kind? = some kind) (sameName : e.name? = other.name?) :
    e.SameKind other where
  kind := own.trans otherOwn.symm
  name := sameName
  foreign := by
    intro isForeign
    rw [own] at isForeign
    cases isForeign

namespace MacroTable

/-- Tables that agree on some names, which no base leads away from. -/
structure AgreeOn (wanted : String → Prop) (macros others : MacroTable) : Prop where
  same : ∀ name, wanted name →
    (find? macros name).map Macro.withoutLine = (find? others name).map Macro.withoutLine
  closed : ∀ name definition next, wanted name → find? macros name = some definition →
    Macro.link? definition.base = some next → wanted next

variable {wanted : String → Prop} {macros others : MacroTable}

theorem AgreeOn.find? (agree : AgreeOn wanted macros others) {name : String} {definition : Macro}
    (isWanted : wanted name) (found : macros.find? name = some definition) :
    ∃ other, others.find? name = some other ∧ other.withoutLine = definition.withoutLine := by
  have same := agree.same name isWanted
  rw [found] at same
  exact Option.map_eq_some_iff.mp same.symm

theorem AgreeOn.find?_eq_none (agree : AgreeOn wanted macros others) {name : String}
    (isWanted : wanted name) (missing : macros.find? name = none) : others.find? name = none := by
  have same := agree.same name isWanted
  rw [missing] at same
  exact Option.map_eq_none_iff.mp same.symm

theorem follow_agree (agree : AgreeOn wanted macros others) {chain preambles : List String}
    {definition other : Macro} (sameDefinition : other.withoutLine = definition.withoutLine)
    (isWanted : ∀ next, Macro.link? definition.base = some next → wanted next) :
    SameOutcome Eq (follow macros chain preambles definition)
      (follow others chain preambles other) := by
  have sameBase : other.base = definition.base := (congrArg Macro.base sameDefinition :)
  fun_induction follow macros chain preambles definition generalizing other with
  | case1 chain preambles definition noLink =>
      rw [follow_of_agent (sameBase ▸ noLink), sameBase]
      exact .ok rfl
  | case2 chain preambles definition missing link isNew notFound =>
      have otherMissing := agree.find?_eq_none (isWanted missing link) notFound
      rw [follow_of_missing (sameBase ▸ link) isNew otherMissing]
      exact .error (.ofOwn rfl rfl rfl)
  | case3 chain preambles definition name link isNew next found _ induction =>
      obtain ⟨otherNext, otherFound, sameNext⟩ := agree.find? (isWanted name link) found
      have samePrompt : otherNext.prompt = next.prompt := (congrArg Macro.prompt sameNext :)
      rw [follow_of_link (sameBase ▸ link) isNew otherFound, samePrompt]
      exact induction sameNext (fun after linkAfter =>
        agree.closed name next after (isWanted name link) found linkAfter)
        (congrArg Macro.base sameNext :)
  | case4 chain preambles definition again link isOld =>
      rw [follow_of_visited (sameBase ▸ link) (not_not.mp isOld)]
      exact .error (.ofOwn rfl rfl rfl)

/-- What a name leads to is decided by the macros on its way. -/
theorem resolve_agree (agree : AgreeOn wanted macros others) {name : String}
    (isWanted : wanted name) : SameOutcome Eq (resolve macros name) (resolve others name) := by
  unfold resolve
  cases found : macros.find? name with
  | none =>
      rw [agree.find?_eq_none isWanted found]
      exact .error (.ofOwn rfl rfl rfl)
  | some definition =>
      obtain ⟨other, otherFound, same⟩ := agree.find? isWanted found
      have samePrompt : other.prompt = definition.prompt := (congrArg Macro.prompt same :)
      simp only [otherFound, samePrompt]
      exact follow_agree agree same fun next link =>
        agree.closed name definition next isWanted found link

end MacroTable

/-- What is told of an expanded call, without the lines. -/
def Expansion.withoutLines (expansion : Expansion) : Expansion :=
  { expansion with line := 0, definitionLine := 0 }

/-- Statements with one text that are expanded from one macro in the same way. -/
structure Statement.SameExpansion (statement other : Statement) : Prop where
  text : statement.text = other.text
  expansion : statement.expansion.map Expansion.withoutLines =
    other.expansion.map Expansion.withoutLines

theorem Error.SameKind.placedAt {e other : Error} (same : e.SameKind other)
    (place otherPlace : Place) : (e.placedAt place).SameKind (other.placedAt otherPlace) where
  kind := by rw [kind?_placedAt, kind?_placedAt, same.kind]
  name := by rw [name?_placedAt, name?_placedAt, same.name]
  foreign := by
    intro isForeign
    rw [kind?_placedAt] at isForeign
    obtain rfl := same.foreign isForeign
    cases e with
    | malformed | unknownAgent | undefinedMacro | circularMacro => cases isForeign
    | _ => rfl

theorem SameOutcome.mapError_placedAt {α β : Type} {related : α → β → Prop}
    {result : Except Error α} {other : Except Error β} (same : SameOutcome related result other)
    (place otherPlace : Place) :
    SameOutcome related (result.mapError (·.placedAt place))
      (other.mapError (·.placedAt otherPlace)) := by
  cases same with
  | ok areRelated => exact .ok areRelated
  | error sameKind => exact .error (sameKind.placedAt place otherPlace)

namespace Expanded

/-- The name that a statement calls. -/
structure CallsName (statement : Statement) (name : String) : Prop where
  isCall : Macro.isCall statement.text = true
  written : ∃ form : CallForm, form.WellFormed ∧ statement.text.toList = '$' :: form.chars ∧
    String.ofList form.name = name

/-- The names that calls lead to: those called, and those that the bases of reached macros
name. -/
inductive Reached (macros : MacroTable) (statements : List Statement) : String → Prop where
  | called {statement : Statement} {name : String} :
      statement ∈ statements → CallsName statement name → Reached macros statements name
  | linked {name next : String} {definition : Macro} :
      Reached macros statements name → macros.find? name = some definition →
      Macro.link? definition.base = some next → Reached macros statements next

/-- The definitions that calls lead to are the same, wherever they stand. -/
def SameReached (macros : MacroTable) (statements : List Statement) (others : MacroTable)
    (otherStatements : List Statement) : Prop :=
  ∀ definition,
    (∃ first ∈ macros, Reached macros statements first.name ∧ first.withoutLine = definition) ↔
      ∃ first ∈ others, Reached others otherStatements first.name ∧ first.withoutLine = definition

section

variable {wanted : String → Prop} {macros others : MacroTable} {statement other : Statement}

theorem expandCall_agree (agree : macros.AgreeOn wanted others)
    (sameText : statement.text = other.text) (isCall : Macro.isCall statement.text = true)
    (isWanted : ∀ name, CallsName statement name → wanted name) :
    SameOutcome Statement.SameExpansion (expandCall macros statement)
      (expandCall others other) := by
  unfold expandCall
  dsimp only
  rw [← sameText]
  cases read : CallForm.read? (statement.text.toList.drop 1) with
  | none => exact .error (.ofOwn rfl rfl rfl)
  | some form =>
      obtain ⟨wellFormed, chars⟩ := CallForm.read?_eq_some_iff.mp read
      have written : statement.text.toList = '$' :: form.chars := by
        rw [toList_of_isCall isCall, chars]
      have nameWanted := isWanted _ ⟨isCall, form, wellFormed, written, rfl⟩
      dsimp only
      split
      · exact .error (.ofOwn rfl rfl rfl)
      · refine .bind ((MacroTable.resolve_agree agree nameWanted).mapError_placedAt _ _) ?_
        rintro ⟨agent, preambles⟩ _ rfl
        refine .bind (.refl _) ?_
        rintro invocation _ rfl
        have sameModel : (macros.find? (String.ofList form.name)).map Macro.model =
            (others.find? (String.ofList form.name)).map Macro.model := by
          simpa [Function.comp_def, Macro.withoutLine] using
            congrArg (Option.map Macro.model) (agree.same _ nameWanted)
        cases invocation.serialize with
        | error fault => exact .error (.ofOwn rfl rfl rfl)
        | ok text =>
            exact .ok ⟨rfl, by simp [Expansion.withoutLines, sameModel]⟩

theorem expandStatement_agree (agree : macros.AgreeOn wanted others)
    (sameText : statement.text = other.text)
    (plain : statement.expansion = none) (otherPlain : other.expansion = none)
    (isWanted : ∀ name, CallsName statement name → wanted name) :
    SameOutcome Statement.SameExpansion (expandStatement macros statement)
      (expandStatement others other) := by
  unfold expandStatement
  rw [← sameText]
  split
  · rename_i isCall
    exact expandCall_agree agree sameText isCall isWanted
  · exact .ok ⟨sameText, by rw [plain, otherPlain]⟩

/-- Expanding statements fails behind the first ones, which are expanded. -/
structure FailsBehind (macros : MacroTable) (statements : List Statement) (count : Nat)
    (e : Error) : Prop where
  expands : ∃ expanded, expandAll macros (statements.take count) = .ok expanded
  fails : ∃ statement, statements[count]? = some statement ∧
    expandStatement macros statement = .error e

theorem FailsBehind.cons {first : Statement} {statements : List Statement} {count : Nat} {e : Error}
    (fails : FailsBehind macros statements count e) {expanded : Statement}
    (expands : expandStatement macros first = .ok expanded) :
    FailsBehind macros (first :: statements) (count + 1) e where
  expands := by
    obtain ⟨others, expandsOthers⟩ := fails.expands
    refine ⟨expanded :: others, ?_⟩
    rw [List.take_succ_cons, expandAll, expands, expandsOthers]
    rfl
  fails := fails.fails

/-- How two expansions end when they agree: with the same statements, or at the same one. -/
inductive Alongside (macros : MacroTable) (statements : List Statement) (others : MacroTable)
    (otherStatements : List Statement) :
    Except Error (List Statement) → Except Error (List Statement) → Prop where
  | ok {expanded otherExpanded : List Statement} :
      List.Forall₂ Statement.SameExpansion expanded otherExpanded →
      Alongside macros statements others otherStatements (.ok expanded) (.ok otherExpanded)
  | error {e other : Error} {count : Nat} :
      e.SameKind other → FailsBehind macros statements count e →
      FailsBehind others otherStatements count other →
      Alongside macros statements others otherStatements (.error e) (.error other)

theorem expandAll_agree (agree : macros.AgreeOn wanted others)
    {statements otherStatements : List Statement}
    (sameTexts : statements.map (·.text) = otherStatements.map (·.text))
    (plain : ∀ statement ∈ statements, statement.expansion = none)
    (otherPlain : ∀ statement ∈ otherStatements, statement.expansion = none)
    (isWanted : ∀ statement ∈ statements, ∀ name, CallsName statement name → wanted name) :
    Alongside macros statements others otherStatements (expandAll macros statements)
      (expandAll others otherStatements) := by
  induction statements generalizing otherStatements with
  | nil =>
      obtain rfl := List.map_eq_nil_iff.mp sameTexts.symm
      exact .ok .nil
  | cons statement rest induction =>
      obtain ⟨other, otherRest, rfl, sameText, sameRest⟩ := List.map_eq_cons_iff.mp sameTexts.symm
      obtain ⟨plainFirst, plainRest⟩ := List.forall_mem_cons.mp plain
      obtain ⟨otherPlainFirst, otherPlainRest⟩ := List.forall_mem_cons.mp otherPlain
      obtain ⟨firstWanted, restWanted⟩ := List.forall_mem_cons.mp isWanted
      have first := expandStatement_agree agree sameText.symm plainFirst otherPlainFirst firstWanted
      have later := induction sameRest.symm plainRest otherPlainRest restWanted
      rw [expandAll, expandAll]
      generalize firstResult : expandStatement macros statement = result at first
      generalize otherFirst : expandStatement others other = otherResult at first
      generalize expandAll macros rest = restResult at later
      generalize expandAll others otherRest = otherRestResult at later
      cases first with
      | @error e otherE sameKind =>
          have fails : FailsBehind macros (statement :: rest) 0 e :=
            ⟨⟨[], rfl⟩, ⟨statement, rfl, firstResult⟩⟩
          have otherFails : FailsBehind others (other :: otherRest) 0 otherE :=
            ⟨⟨[], rfl⟩, ⟨other, rfl, otherFirst⟩⟩
          exact .error sameKind fails otherFails
      | ok sameFirst =>
          cases later with
          | ok sameLater => exact .ok (.cons sameFirst sameLater)
          | error sameKind fails otherFails =>
              exact .error sameKind (fails.cons firstResult) (otherFails.cons otherFirst)

end

/-! ## The whole source -/

/-- The statements of a source that define no macro. -/
def remaining (source : String) : List Statement :=
  (Statement.split source).filter (!Macro.isDefinition ·.text)

theorem expansion_of_mem_remaining {source : String} :
    ∀ statement ∈ remaining source, statement.expansion = none :=
  fun statement member =>
    Statement.expansion_of_mem_ofLines statement (List.mem_of_mem_filter member)

theorem map_statements_ofSource {source : String} {default : Value} {macros : MacroTable}
    (defined : Defined default (Statement.split source) macros) :
    (ofSource source default).map Expanded.statements = expandAll macros (remaining source) := by
  unfold ofSource remaining
  rw [collect_of_defined defined]
  cases result : expandAll macros ((Statement.split source).filter (!Macro.isDefinition ·.text)) <;>
    simp [bind, Except.bind, Except.map, result]

section

variable {macros others : MacroTable} {statements otherStatements : List Statement}

theorem SameReached.symm (sameReached : SameReached macros statements others otherStatements) :
    SameReached others otherStatements macros statements :=
  fun definition => (sameReached definition).symm

theorem SameReached.find? (sameReached : SameReached macros statements others otherStatements)
    (distinct : (others.map Macro.name).Nodup) {name : String} {definition : Macro}
    (reached : Reached macros statements name) (found : macros.find? name = some definition) :
    ∃ other, others.find? name = some other ∧ other.withoutLine = definition.withoutLine := by
  obtain ⟨member, rfl⟩ := MacroTable.mem_of_find? found
  obtain ⟨other, otherMember, _, same⟩ := (sameReached _).mp ⟨definition, member, reached, rfl⟩
  have sameName : other.name = definition.name := (congrArg Macro.name same :)
  exact ⟨other, (MacroTable.find?_eq_some_iff distinct).mpr ⟨otherMember, sameName⟩, same⟩

theorem SameReached.reached (sameReached : SameReached macros statements others otherStatements)
    (distinct : (others.map Macro.name).Nodup)
    (sameTexts : statements.map (·.text) = otherStatements.map (·.text)) {name : String}
    (reached : Reached macros statements name) : Reached others otherStatements name := by
  induction reached with
  | @called statement name member calls =>
      have textMember : statement.text ∈ otherStatements.map (·.text) := by
        rw [← sameTexts]
        exact List.mem_map.mpr ⟨statement, member, rfl⟩
      obtain ⟨other, otherMember, sameText⟩ := List.mem_map.mp textMember
      exact .called otherMember ⟨sameText ▸ calls.isCall, sameText ▸ calls.written⟩
  | @linked name next definition reached found link otherReached =>
      obtain ⟨other, otherFound, same⟩ := sameReached.find? distinct reached found
      have sameBase : other.base = definition.base := (congrArg Macro.base same :)
      exact .linked otherReached otherFound (sameBase ▸ link)

/-- Tables with the same reached definitions agree on all reached names. -/
theorem SameReached.agreeOn (sameReached : SameReached macros statements others otherStatements)
    (distinct : (macros.map Macro.name).Nodup) (otherDistinct : (others.map Macro.name).Nodup)
    (sameTexts : statements.map (·.text) = otherStatements.map (·.text)) :
    macros.AgreeOn (Reached macros statements) others where
  closed := fun _ _ _ reached found link => .linked reached found link
  same := by
    intro name reached
    have otherReached := sameReached.reached otherDistinct sameTexts reached
    cases found : macros.find? name with
    | some definition =>
        obtain ⟨other, otherFound, same⟩ := sameReached.find? otherDistinct reached found
        rw [otherFound, Option.map_some, Option.map_some, same]
    | none =>
        cases otherFound : others.find? name with
        | none => rfl
        | some other =>
            obtain ⟨definition, foundAlike, _⟩ :=
              sameReached.symm.find? distinct otherReached otherFound
            rw [found] at foundAlike
            cases foundAlike

/-- Expansion depends only on the reached definitions, and not on where they stand.  Sources
with the same statements and the same reached definitions are expanded alike, or fail at
the same statement with errors of one kind that name the same macro. -/
theorem ofSource_sameReached {default : Value} {source other : String}
    (defined : Defined default (Statement.split source) macros)
    (otherDefined : Defined default (Statement.split other) others)
    (sameTexts : (remaining source).map (·.text) = (remaining other).map (·.text))
    (sameReached : SameReached macros (remaining source) others (remaining other)) :
    Alongside macros (remaining source) others (remaining other)
      ((ofSource source default).map Expanded.statements)
      ((ofSource other default).map Expanded.statements) := by
  rw [map_statements_ofSource defined, map_statements_ofSource otherDefined]
  exact expandAll_agree
    (sameReached.agreeOn defined.distinct otherDefined.distinct sameTexts) sameTexts
    expansion_of_mem_remaining expansion_of_mem_remaining
    fun statement member name calls => .called member calls

/-- A call behind the definition of its macro. -/
def callBehind : String :=
  "$a := \x7b base: \"b\", prompt: \"p\" \x7d\n$a:\"x\":v"

/-- The call in front of the definition, with a circular definition that nothing calls. -/
def callBefore : String :=
  "$c := \x7b base: \"$c\", prompt: \"q\" \x7d\n$a:\"x\":v\n$a := \x7b base: \"b\", prompt: \"p\" \x7d"

theorem reached_iff_of_call {table : MacroTable} {statements : List Statement}
    (texts : statements.map (·.text) = ["$a:\"x\":v"])
    (base : ∀ definition, table.find? "a" = some definition → definition.base = "b")
    {name : String} : Reached table statements name ↔ name = "a" := by
  have read : CallForm.read? "a:\"x\":v".toList = some ⟨['a'], ['x'], some ['v']⟩ := by decide
  obtain ⟨wellFormed, chars⟩ := CallForm.read?_eq_some_iff.mp read
  constructor
  · intro reached
    induction reached with
    | @called statement name member calls =>
        have text : statement.text ∈ statements.map (·.text) := List.mem_map.mpr ⟨_, member, rfl⟩
        obtain ⟨form, otherWellFormed, written, rfl⟩ := calls.written
        rw [texts, List.mem_singleton] at text
        rw [text] at written
        have sameChars : "a:\"x\":v".toList = form.chars := (List.cons.inj written).2
        have readAlike := CallForm.read?_eq_some_iff.mpr ⟨otherWellFormed, sameChars⟩
        cases read.symm.trans readAlike
        rfl
    | @linked name next definition _ found link isA =>
        subst isA
        rw [base definition found] at link
        cases link
  · rintro rfl
    obtain ⟨statement, _, rfl, text, _⟩ := List.map_eq_cons_iff.mp texts
    refine .called List.mem_cons_self ⟨?_, _, wellFormed, ?_, rfl⟩
    · rw [text]
      decide
    · rw [text, ← chars]
      rfl

theorem ofSource_sameReached_moved :
    ∃ macros others, Defined defaultModel (Statement.split callBehind) macros ∧
      Defined defaultModel (Statement.split callBefore) others ∧
      (remaining callBehind).map (·.text) = (remaining callBefore).map (·.text) ∧
      SameReached macros (remaining callBehind) others (remaining callBefore) ∧
      others.map Macro.name = ["c", "a"] ∧
      Alongside macros (remaining callBehind) others (remaining callBefore)
        ((ofSource callBehind defaultModel).map Expanded.statements)
        ((ofSource callBefore defaultModel).map Expanded.statements) := by
  have expands : (ofSource callBehind defaultModel).toOption.map (·.macros.map Macro.parts) =
      some [("a", "b", "p", some "sonnet")] := by
    decide +kernel
  have otherExpands : (ofSource callBefore defaultModel).toOption.map (·.macros.map Macro.parts) =
      some [("c", "$c", "q", some "sonnet"), ("a", "b", "p", some "sonnet")] := by
    decide +kernel
  have texts : (remaining callBehind).map (·.text) = ["$a:\"x\":v"] := by decide +kernel
  have otherTexts : (remaining callBefore).map (·.text) = ["$a:\"x\":v"] := by decide +kernel
  obtain ⟨expanded, expandsTo, told⟩ := Option.map_eq_some_iff.mp expands
  obtain ⟨otherExpanded, otherExpandsTo, otherTold⟩ := Option.map_eq_some_iff.mp otherExpands
  obtain ⟨defines, distinct, _⟩ := inlines_of_ofSource (toOption_eq_some_iff.mp expandsTo)
  obtain ⟨otherDefines, otherDistinct, _⟩ :=
    inlines_of_ofSource (toOption_eq_some_iff.mp otherExpandsTo)
  have sameTexts := texts.trans otherTexts.symm
  obtain ⟨a, others, isMacros, aTold, othersTold⟩ := List.map_eq_cons_iff.mp told
  obtain rfl := List.map_eq_nil_iff.mp othersTold
  obtain ⟨c, others, isOthers, cTold, othersTold⟩ := List.map_eq_cons_iff.mp otherTold
  obtain ⟨alike, others, rfl, alikeTold, othersTold⟩ := List.map_eq_cons_iff.mp othersTold
  obtain rfl := List.map_eq_nil_iff.mp othersTold
  have same : a.withoutLine = alike.withoutLine :=
    Macro.withoutLine_eq_of_parts (congrArg (·.2.2.2) aTold) (aTold.trans alikeTold.symm)
  simp only [Macro.parts, Prod.mk.injEq] at aTold cTold alikeTold
  obtain ⟨aName, aBase, _⟩ := aTold
  obtain ⟨cName, _⟩ := cTold
  obtain ⟨alikeName, alikeBase, _⟩ := alikeTold
  have reached {name : String} : Reached expanded.macros (remaining callBehind) name ↔ name = "a" :=
    reached_iff_of_call texts (by simp [isMacros, MacroTable.find?, aName, aBase])
  have otherReached {name : String} :
      Reached otherExpanded.macros (remaining callBefore) name ↔ name = "a" :=
    reached_iff_of_call otherTexts (by simp [isOthers, MacroTable.find?, cName, alikeName, alikeBase])
  have sameReached : SameReached expanded.macros (remaining callBehind) otherExpanded.macros
      (remaining callBefore) := by
    intro definition
    simp only [reached, otherReached]
    simp [isMacros, isOthers, aName, cName, alikeName, same]
  refine ⟨_, _, ⟨defines, distinct⟩, ⟨otherDefines, otherDistinct⟩, sameTexts, sameReached, ?_,
    ofSource_sameReached ⟨defines, distinct⟩ ⟨otherDefines, otherDistinct⟩ sameTexts sameReached⟩
  simp [isOthers, cName, alikeName]

end

end Expanded

end AgentFlow
