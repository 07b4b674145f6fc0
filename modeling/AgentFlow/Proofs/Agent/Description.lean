import AgentFlow.Agent.Definition
import AgentFlow.Proofs.Result
import AgentFlow.Proofs.Text.Blank

/-!
# Descriptions

The description of an agent is that of its head, if the head gives one.  Otherwise it is looked
for in the text: the blanks after the first mark are skipped, line feeds among them, so it stands
on the line of the mark only if that line has text after the mark.  If the line has none, the
description is the first line below that has text, whatever stands there.
-/

namespace AgentFlow

open AgentFlow.Text

namespace Definition

variable {cs line rest after : List Char}

/-! ## The head -/

theorem readHead_eq_error_value_iff {head : List Char} {fault : ValueFault} :
    readHead head = .error (.value fault) ↔
      Yaml.read (String.ofList head) = .error (.value fault) := by
  unfold readHead
  split
  · rename_i read
    simp [read]
  · rename_i other read
    simp [read]
  · rename_i document read
    rw [read]
    refine iff_of_false ?_ nofun
    split <;> nofun

theorem textField?_eq_error_iff {key : String} {head : Yaml.Document} {fault : ValueFault} :
    textField? key head = .error fault ↔
      (field key head).isGiven = true ∧ (field key head).displayed = .error fault := by
  unfold textField?
  dsimp only
  split
  · rename_i given
    cases (field key head).displayed with
    | error e => simp [given, Except.map]
    | ok s => simp [Except.map]
  · rename_i notGiven
    simp [notGiven]

/-- The description that a head gives, if there is one that can be read. -/
def headDescription? (cs : List Char) : Except ValueFault (Option String) :=
  match splitHead cs with
  | .error _ => .ok none
  | .ok (head, _) =>
    match readHead head with
    | .ok document => textField? "description" document
    | .error (.definition _) => .ok none
    | .error (.value fault) => .error fault

/-- What else is in a text is read only when its head gives no description. -/
theorem describe_eq (text : String) :
    describe text = (headDescription? text.toList).map fun given =>
      String.ofList (match given with
        | some description => trim description.toList
        | none => findDescription text.toList) := by
  unfold describe headDescription?
  cases splitHead text.toList with
  | error cause => rfl
  | ok parts =>
      obtain ⟨head, body⟩ := parts
      have bound : ((Except.ok (head, body)).mapError HeadFault.definition >>= fun parts =>
        readHead parts.1) = readHead head := rfl
      simp only [bound]
      cases readHead head with
      | error cause => cases cause <;> rfl
      | ok document =>
          dsimp only
          cases textField? "description" document with
          | error fault => rfl
          | ok given => cases given <;> rfl

/-- A text has a description unless a scalar of its head cannot be built or its description cannot
be shown. -/
theorem describe_eq_error_iff {text : String} {fault : ValueFault} :
    describe text = .error fault ↔ ∃ head body, splitHead text.toList = .ok (head, body) ∧
      (Yaml.read (String.ofList head) = .error (.value fault) ∨
        ∃ document, readHead head = .ok document ∧
          (field "description" document).isGiven = true ∧
          (field "description" document).displayed = .error fault) := by
  have same : describe text = .error fault ↔ headDescription? text.toList = .error fault := by
    rw [describe_eq]
    cases headDescription? text.toList with
    | error cause => simp [Except.map]
    | ok given => simp [Except.map]
  rw [same]
  unfold headDescription?
  cases splitHead text.toList with
  | error cause => exact iff_of_false nofun nofun
  | ok parts =>
      obtain ⟨head, body⟩ := parts
      simp only [Except.ok.injEq, Prod.mk.injEq, ← readHead_eq_error_value_iff]
      constructor
      · intro failed
        refine ⟨head, body, ⟨rfl, rfl⟩, ?_⟩
        cases read : readHead head with
        | error cause =>
            rw [read] at failed
            cases cause with
            | definition cause => cases failed
            | value cause =>
                cases failed
                exact .inl rfl
        | ok document =>
            rw [read] at failed
            exact .inr ⟨document, rfl, textField?_eq_error_iff.mp failed⟩
      · rintro ⟨_, _, ⟨rfl, rfl⟩, failed | ⟨document, read, failed⟩⟩
        · rw [failed]
        · rw [read]
          exact textField?_eq_error_iff.mpr failed

/-- The head of a text gives no description: there is none that can be read, or it has no such
value. -/
inductive GivesNone (cs : List Char) : Prop
  | noHead {cause : DefinitionFault} (noHead : splitHead cs = .error cause)
  | unread {head body : List Char} {cause : DefinitionFault}
      (split : splitHead cs = .ok (head, body)) (unread : readHead head = .error (.definition cause))
  | notGiven {head body : List Char} {document : Yaml.Document}
      (split : splitHead cs = .ok (head, body)) (read : readHead head = .ok document)
      (notGiven : (field "description" document).isGiven = false)

theorem textField?_eq_none_iff {key : String} {head : Yaml.Document} :
    textField? key head = .ok none ↔ (field key head).isGiven = false := by
  unfold textField?
  dsimp only
  split
  · rename_i given
    cases (field key head).displayed with
    | error e => simp [given, Except.map]
    | ok s => simp [given, Except.map]
  · rename_i notGiven
    simp [notGiven]

theorem headDescription?_eq_none_iff : headDescription? cs = .ok none ↔ GivesNone cs := by
  unfold headDescription?
  constructor
  · intro none_
    cases split : splitHead cs with
    | error cause => exact .noHead split
    | ok parts =>
        obtain ⟨head, body⟩ := parts
        simp only [split] at none_
        cases read : readHead head with
        | error cause =>
            rw [read] at none_
            cases cause with
            | definition cause => exact .unread split read
            | value cause => cases none_
        | ok document =>
            rw [read] at none_
            exact .notGiven split read (textField?_eq_none_iff.mp none_)
  · intro none_
    cases none_ with
    | noHead noHead => simp only [noHead]
    | unread split unread => simp only [split, unread]
    | notGiven split read notGiven =>
        simp only [split, read]
        exact textField?_eq_none_iff.mpr notGiven

/-! ## The first mark -/

/-- What follows the first mark in a text. -/
def afterMark? : List Char → Option (List Char)
  | [] => none
  | c :: rest =>
    if descriptionMark.isPrefixOf (c :: rest) then some ((c :: rest).drop descriptionMark.length)
    else afterMark? rest

theorem afterMark?_eq_some_iff : afterMark? cs = some after ↔ ∃ before,
    cs = before ++ (descriptionMark ++ after) ∧
      ∀ earlier later, cs = earlier ++ (descriptionMark ++ later) →
        before.length ≤ earlier.length := by
  induction cs with
  | nil =>
      refine iff_of_false nofun ?_
      intro ⟨before, whole, _⟩
      have empty := (List.append_eq_nil_iff.mp whole.symm).2
      exact absurd (List.append_eq_nil_iff.mp empty).1 (by decide)
  | cons c rest induction =>
      rw [afterMark?]
      split
      · rename_i here
        obtain ⟨found, whole⟩ := List.isPrefixOf_iff_prefix.mp here
        rw [← whole, List.drop_left]
        constructor
        · intro same
          cases same
          exact ⟨[], rfl, fun _ _ _ => Nat.zero_le _⟩
        · intro ⟨before, split, first⟩
          have atStart := List.length_eq_zero_iff.mp (Nat.le_zero.mp (first [] found rfl))
          rw [atStart] at split
          rw [List.append_cancel_left split]
      · rename_i notHere
        have notFirst {earlier later : List Char}
            (whole : c :: rest = earlier ++ (descriptionMark ++ later)) :
            ∃ more, earlier = c :: more ∧ rest = more ++ (descriptionMark ++ later) := by
          cases earlier with
          | nil =>
              refine absurd (List.isPrefixOf_iff_prefix.mpr ?_) notHere
              exact ⟨later, whole.symm⟩
          | cons d more =>
              obtain ⟨rfl, same⟩ := List.cons.inj whole
              exact ⟨more, rfl, same⟩
        rw [induction]
        constructor
        · intro ⟨before, split, first⟩
          refine ⟨c :: before, by rw [split, List.cons_append], fun earlier later whole => ?_⟩
          obtain ⟨more, rfl, same⟩ := notFirst whole
          exact Nat.succ_le_succ (first more later same)
        · intro ⟨before, split, first⟩
          obtain ⟨more, rfl, same⟩ := notFirst split
          refine ⟨more, same, fun earlier later whole => ?_⟩
          exact Nat.le_of_succ_le_succ
            (first (c :: earlier) later (by rw [whole, List.cons_append]))

theorem subset_of_afterMark? (found : afterMark? cs = some after) : after ⊆ cs := by
  obtain ⟨before, rfl, _⟩ := afterMark?_eq_some_iff.mp found
  exact fun c member => List.mem_append_right _ (List.mem_append_right _ member)

/-- There is no mark among blanks. -/
theorem afterMark?_of_blank (blank : ∀ c ∈ cs, isBlank c = true) : afterMark? cs = none := by
  cases found : afterMark? cs with
  | none => rfl
  | some after =>
      obtain ⟨before, rfl, _⟩ := afterMark?_eq_some_iff.mp found
      have inMark : 'd' ∈ descriptionMark := by decide
      have isBlank := blank 'd' (List.mem_append_right _ (List.mem_append_left _ inMark))
      cases isBlank

theorem mark_prefix_line : descriptionMark <+: line ++ '\n' :: rest ↔ descriptionMark <+: line := by
  constructor
  · intro isPrefix
    rcases List.prefix_or_prefix_of_prefix isPrefix (List.prefix_append line _) with
      inside | ⟨more, whole⟩
    · exact inside
    · rw [← whole, List.prefix_append_right_inj] at isPrefix
      cases more with
      | nil =>
          rw [List.append_nil] at whole
          exact whole ▸ List.prefix_rfl
      | cons c more =>
          obtain ⟨rfl, _⟩ := List.cons_prefix_cons.mp isPrefix
          have inMark : '\n' ∈ descriptionMark := by
            rw [← whole]
            exact List.mem_append_right _ List.mem_cons_self
          exact absurd inMark (by decide)
  · exact fun isPrefix => isPrefix.trans (List.prefix_append line _)

/-- The first mark is looked for line by line. -/
theorem afterMark?_line (line rest : List Char) : afterMark? (line ++ '\n' :: rest) =
    ((afterMark? line).map (· ++ '\n' :: rest)).or (afterMark? rest) := by
  induction line with
  | nil =>
      refine if_neg fun here => ?_
      have isPrefix := (@mark_prefix_line [] rest).mp (List.isPrefixOf_iff_prefix.mp here)
      exact absurd (List.prefix_nil.mp isPrefix) (by decide)
  | cons c line induction =>
      have same := @mark_prefix_line (c :: line) rest
      rw [List.cons_append] at same
      simp only [List.cons_append, afterMark?, List.isPrefixOf_iff_prefix]
      by_cases here : descriptionMark <+: c :: line
      · rw [if_pos here, if_pos (same.mpr here), ← List.cons_append,
          List.drop_append_of_le_length here.length_le]
        rfl
      · rw [if_neg here, if_neg (fun whole => here (same.mp whole))]
        exact induction

theorem lines_induction {motive : List Char → Prop} (last : ∀ line, '\n' ∉ line → motive line)
    (first : ∀ line rest, '\n' ∉ line → motive rest → motive (line ++ '\n' :: rest))
    (cs : List Char) : motive cs := by
  by_cases ended : '\n' ∈ cs
  · obtain ⟨line, rest, whole, inLine⟩ := List.eq_append_cons_of_mem ended
    have shorter : rest.length < cs.length := by
      rw [whole, List.length_append, List.length_cons]
      omega
    rw [whole]
    exact first line rest inLine (lines_induction last first rest)
  · exact last cs ended
termination_by cs.length

/-! ## Descriptions on the line of their mark -/

/-- What a line says after its first mark, if that is more than blanks. -/
def lineText? (line : List Char) : Option (List Char) :=
  ((afterMark? line).map trim).filter (!·.isEmpty)

/-- What is said on the first line that says anything after its mark. -/
def lineDescription (cs : List Char) : List Char :=
  ((cs.splitOn '\n').findSome? lineText?).getD []

theorem lineDescription_last (inLine : '\n' ∉ line) :
    lineDescription line = (lineText? line).getD [] := by
  rw [lineDescription, List.splitOn_eq_singleton inLine]
  cases text : lineText? line with
  | none => simp [text]
  | some found => simp [text]

theorem lineDescription_line (inLine : '\n' ∉ line) (rest : List Char) :
    lineDescription (line ++ '\n' :: rest) = (lineText? line).getD (lineDescription rest) := by
  rw [lineDescription, List.splitOn_append_cons_self, List.splitOn_eq_singleton inLine]
  cases text : lineText? line with
  | none => simp [text, lineDescription]
  | some found => simp [text]

theorem lineText?_of_none (noMark : afterMark? line = none) : lineText? line = none := by
  simp [lineText?, noMark]

theorem lineText?_of_some (found : afterMark? line = some after) :
    lineText? line = if trim after = [] then none else some (trim after) := by
  rw [lineText?, found]
  by_cases empty : trim after = []
  · simp [empty]
  · simp [empty]

theorem lineDescription_of_none (noMark : afterMark? cs = none) : lineDescription cs = [] := by
  induction cs using lines_induction with
  | last line inLine => rw [lineDescription_last inLine, lineText?_of_none noMark, Option.getD_none]
  | first line rest inLine induction =>
      rw [afterMark?_line, Option.or_eq_none_iff, Option.map_eq_none_iff] at noMark
      rw [lineDescription_line inLine, lineText?_of_none noMark.1, Option.getD_none,
        induction noMark.2]

/-! ## Descriptions on a later line -/

/-- A line below the first mark, where all in between is blank and ends a line. -/
structure Below (above line below cs : List Char) : Prop where
  found : afterMark? cs = some (above ++ (line ++ below))
  blank : ∀ c ∈ above, isBlank c = true
  ended : '\n' ∈ above
  nonempty : line ≠ []
  text : ∀ c, line.head? = some c → isBlank c = false
  inLine : '\n' ∉ line
  whole : ∀ c, below.head? = some c → c = '\n'

theorem findDescription_eq (cs : List Char) : findDescription cs =
    ((afterMark? cs).map fun after => trim ((trimStart after).takeWhile (· != '\n'))).getD [] := by
  induction cs with
  | nil => rfl
  | cons c rest induction =>
      rw [findDescription, afterMark?]
      split
      · rw [Option.map_some, Option.getD_some]
        split
        · rename_i empty
          rw [empty]
          rfl
        · rfl
      · exact induction

theorem findDescription_of_below {above below : List Char} (isBelow : Below above line below cs) :
    findDescription cs = trim line := by
  have first : ∀ c, (line ++ below).head? = some c → isBlank c = false := by
    intro c atStart
    rw [List.head?_append_of_ne_nil _ isBelow.nonempty] at atStart
    exact isBelow.text c atStart
  have inside : ∀ c ∈ line, (c != '\n') = true := by
    intro c member
    rw [bne_iff_ne]
    exact fun same => isBelow.inLine (same ▸ member)
  have stops : ∀ c, below.head? = some c → (c != '\n') = false := by
    intro c atStart
    rw [isBelow.whole c atStart]
    rfl
  rw [findDescription_eq, isBelow.found, Option.map_some, Option.getD_some,
    trimStart_append isBelow.blank first, takeWhile_append_of_stops inside stops]

theorem trim_trimStart (cs : List Char) : trim (trimStart cs) = trim cs := by
  have first : ∀ c, (trimStart cs).head? = some c → isBlank c = false := by
    intro c atStart
    obtain ⟨rest, kept⟩ := List.head?_eq_some_iff.mp atStart
    exact not_isBlank_of_trimStart_eq_cons kept
  rw [trim, trimStart_eq_self first, trim]

theorem isBlank_of_trim_eq_nil (empty : trim cs = []) : ∀ c ∈ cs, isBlank c = true := by
  obtain ⟨front, back, whole, blankFront, blankBack⟩ := exists_trim_append cs
  rw [empty, List.append_nil] at whole
  intro c member
  rw [whole] at member
  rcases List.mem_append.mp member with inFront | inBack
  · exact blankFront c inFront
  · exact blankBack c inBack

theorem ne_newline_of_mem {c : Char} (inLine : '\n' ∉ line) (member : c ∈ line) :
    (c != '\n') = true := by
  rw [bne_iff_ne]
  exact fun same => inLine (same ▸ member)

/-- A mark whose line has text after it is described on that line. -/
theorem findDescription_of_text (found : afterMark? line = some after) (inLine : '\n' ∉ line)
    (text : trim after ≠ []) (rest : List Char) :
    findDescription (line ++ '\n' :: rest) = trim after := by
  have noEnd : '\n' ∉ after := fun member => inLine (subset_of_afterMark? found member)
  obtain ⟨front, split, blankFront⟩ := exists_append_trimStart after
  have kept : trimStart after ≠ [] := by
    intro empty
    exact text (by rw [← trim_trimStart, empty]; rfl)
  have first : ∀ c, (trimStart after ++ '\n' :: rest).head? = some c → isBlank c = false := by
    intro c atStart
    rw [List.head?_append_of_ne_nil _ kept] at atStart
    obtain ⟨more, same⟩ := List.head?_eq_some_iff.mp atStart
    exact not_isBlank_of_trimStart_eq_cons same
  have skipped : trimStart (after ++ '\n' :: rest) = trimStart after ++ '\n' :: rest := by
    conv => lhs; rw [split, List.append_assoc]
    exact trimStart_append blankFront first
  have inside : ∀ c ∈ trimStart after, (c != '\n') = true := fun c member =>
    ne_newline_of_mem noEnd (split ▸ List.mem_append_right front member)
  rw [findDescription_eq, afterMark?_line, found, Option.map_some, Option.some_or,
    Option.map_some, Option.getD_some, skipped, takeWhile_append_of_stops inside, trim_trimStart]
  intro c atStart
  cases atStart
  rfl

/-- Where a mark's line has no text after it, the first line below that has any is found. -/
theorem exists_below (found : afterMark? line = some after) (empty : trim after = [])
    (rest : List Char) : (∀ c ∈ rest, isBlank c = true) ∨
      ∃ above text below, Below above text below (line ++ '\n' :: rest) := by
  obtain ⟨front, split, blankFront⟩ := exists_append_trimStart rest
  cases kept : trimStart rest with
  | nil =>
      rw [kept, List.append_nil] at split
      exact .inl (split ▸ blankFront)
  | cons c more =>
      have text := not_isBlank_of_trimStart_eq_cons kept
      have inLine : (c != '\n') = true := by
        rw [bne_iff_ne]
        intro same
        rw [same] at text
        cases text
      refine .inr ⟨after ++ '\n' :: front, (c :: more).takeWhile (· != '\n'),
        (c :: more).dropWhile (· != '\n'), ?_, ?_, ?_, ?_, ?_, ?_, ?_⟩
      · rw [afterMark?_line, found, List.takeWhile_append_dropWhile, Option.map_some,
          Option.some_or, List.append_assoc, List.cons_append, ← kept, ← split]
      · intro d member
        rcases List.mem_append.mp member with inAfter | member
        · exact isBlank_of_trim_eq_nil empty d inAfter
        · rcases List.mem_cons.mp member with isEnd | inFront
          · rw [isEnd]
            rfl
          · exact blankFront d inFront
      · exact List.mem_append_right _ List.mem_cons_self
      · rw [List.takeWhile_cons_of_pos (p := (· != '\n')) inLine]
        exact List.cons_ne_nil _ _
      · intro d atStart
        rw [List.takeWhile_cons_of_pos (p := (· != '\n')) inLine, List.head?_cons] at atStart
        cases atStart
        exact text
      · intro member
        have ended := List.mem_takeWhile_imp member
        cases ended
      · intro d atStart
        have ended := List.head?_dropWhile_not (· != '\n') (c :: more)
        rw [atStart] at ended
        simpa using ended

theorem findDescription_eq_lineDescription
    (notBelow : ∀ above line below, ¬Below above line below cs) :
    findDescription cs = lineDescription cs := by
  induction cs using lines_induction with
  | last line inLine =>
      rw [findDescription_eq, lineDescription_last inLine]
      cases found : afterMark? line with
      | none => rw [lineText?_of_none found]; rfl
      | some after =>
          have inside : ∀ c ∈ trimStart after, (c != '\n') = true := by
            intro c member
            have inAfter := (List.dropWhile_sublist _).subset member
            exact ne_newline_of_mem inLine (subset_of_afterMark? found inAfter)
          rw [lineText?_of_some found, Option.map_some, Option.getD_some,
            List.takeWhile_eq_self_iff.mpr inside, trim_trimStart]
          split
          · rename_i empty
            rw [empty]
            rfl
          · rfl
  | first line rest inLine induction =>
      rw [lineDescription_line inLine]
      cases found : afterMark? line with
      | none =>
          have same : afterMark? (line ++ '\n' :: rest) = afterMark? rest := by
            rw [afterMark?_line, found]
            rfl
          rw [lineText?_of_none found, Option.getD_none, ← induction, findDescription_eq, same,
            ← findDescription_eq]
          intro above text below isBelow
          exact notBelow above text below { isBelow with found := same.trans isBelow.found }
      | some after =>
          rw [lineText?_of_some found]
          split
          · rename_i empty
            rcases exists_below found empty rest with blank | ⟨above, text, below, isBelow⟩
            · have allBlank : ∀ c ∈ after ++ '\n' :: rest, isBlank c = true := by
                intro c member
                rcases List.mem_append.mp member with inAfter | member
                · exact isBlank_of_trim_eq_nil empty c inAfter
                · rcases List.mem_cons.mp member with isEnd | inRest
                  · rw [isEnd]
                    rfl
                  · exact blank c inRest
              have skipped : trimStart (after ++ '\n' :: rest) = [] :=
                List.dropWhile_eq_nil_iff.mpr allBlank
              rw [Option.getD_none, lineDescription_of_none (afterMark?_of_blank blank),
                findDescription_eq, afterMark?_line, found, Option.map_some, Option.some_or,
                Option.map_some, Option.getD_some, skipped]
              rfl
            · exact absurd isBelow (notBelow above text below)
          · rename_i text
            exact findDescription_of_text found inLine text rest

/-! ## The description of a text -/

/-- What the description of a text is, and when it has none that can be made. -/
inductive Describes (text : String) : Except ValueFault String → Prop
  | given {head body : List Char} {document : Yaml.Document} {shown : String}
      (split : splitHead text.toList = .ok (head, body)) (read : readHead head = .ok document)
      (isGiven : (field "description" document).isGiven = true)
      (displayed : (field "description" document).displayed = .ok shown) :
      Describes text (.ok (trimmed shown))
  | onLine (givesNone : GivesNone text.toList)
      (notBelow : ∀ above line below, ¬Below above line below text.toList) :
      Describes text (.ok (String.ofList (lineDescription text.toList)))
  | onLaterLine {above line below : List Char} (givesNone : GivesNone text.toList)
      (isBelow : Below above line below text.toList) :
      Describes text (.ok (String.ofList (trim line)))
  | unbuildable {head body : List Char} {fault : ValueFault}
      (split : splitHead text.toList = .ok (head, body))
      (unbuildable : Yaml.read (String.ofList head) = .error (.value fault)) :
      Describes text (.error fault)
  | unshown {head body : List Char} {document : Yaml.Document} {fault : ValueFault}
      (split : splitHead text.toList = .ok (head, body)) (read : readHead head = .ok document)
      (isGiven : (field "description" document).isGiven = true)
      (unshown : (field "description" document).displayed = .error fault) :
      Describes text (.error fault)

theorem describe_of_givesNone {text : String} (givesNone : GivesNone text.toList) :
    describe text = .ok (String.ofList (findDescription text.toList)) := by
  rw [describe_eq, headDescription?_eq_none_iff.mpr givesNone]
  rfl

theorem describe_of_given {text shown : String} {head body : List Char} {document : Yaml.Document}
    (split : splitHead text.toList = .ok (head, body)) (read : readHead head = .ok document)
    (isGiven : (field "description" document).isGiven = true)
    (displayed : (field "description" document).displayed = .ok shown) :
    describe text = .ok (trimmed shown) := by
  have given : headDescription? text.toList = .ok (some shown) := by
    simp only [headDescription?, split, read, textField?, isGiven, displayed]
    rfl
  rw [describe_eq, given]
  rfl

theorem describes_of_givesNone {text : String} (givesNone : GivesNone text.toList) :
    Describes text (describe text) := by
  rw [describe_of_givesNone givesNone]
  by_cases isBelow : ∃ above line below, Below above line below text.toList
  · obtain ⟨above, line, below, isBelow⟩ := isBelow
    rw [findDescription_of_below isBelow]
    exact .onLaterLine givesNone isBelow
  · have notBelow : ∀ above line below, ¬Below above line below text.toList :=
      fun above line below here => isBelow ⟨above, line, below, here⟩
    rw [findDescription_eq_lineDescription notBelow]
    exact .onLine givesNone notBelow

/-- The description of a text is the one that its head gives, or else what the first line that has
text after its mark says there, unless the first mark of all has no text on its line: then it is
the first line below that has text. -/
theorem describe_eq_iff {text : String} {result : Except ValueFault String} :
    describe text = result ↔ Describes text result := by
  constructor
  · intro same
    subst same
    cases split : splitHead text.toList with
    | error cause => exact describes_of_givesNone (.noHead split)
    | ok parts =>
        obtain ⟨head, body⟩ := parts
        cases read : readHead head with
        | error cause =>
            cases cause with
            | definition cause => exact describes_of_givesNone (.unread split read)
            | value fault =>
                have unbuildable := readHead_eq_error_value_iff.mp read
                rw [describe_eq_error_iff.mpr ⟨head, body, split, .inl unbuildable⟩]
                exact .unbuildable split unbuildable
        | ok document =>
            cases isGiven : (field "description" document).isGiven with
            | false => exact describes_of_givesNone (.notGiven split read isGiven)
            | true =>
                cases displayed : (field "description" document).displayed with
                | ok shown =>
                    rw [describe_of_given split read isGiven displayed]
                    exact .given split read isGiven displayed
                | error fault =>
                    rw [describe_eq_error_iff.mpr
                      ⟨head, body, split, .inr ⟨document, read, isGiven, displayed⟩⟩]
                    exact .unshown split read isGiven displayed
  · intro describes
    cases describes with
    | given split read isGiven displayed => exact describe_of_given split read isGiven displayed
    | onLine givesNone notBelow =>
        rw [describe_of_givesNone givesNone, findDescription_eq_lineDescription notBelow]
    | onLaterLine givesNone isBelow =>
        rw [describe_of_givesNone givesNone, findDescription_of_below isBelow]
    | unbuildable split unbuildable =>
        exact describe_eq_error_iff.mpr ⟨_, _, split, .inl unbuildable⟩
    | unshown split read isGiven unshown =>
        exact describe_eq_error_iff.mpr ⟨_, _, split, .inr ⟨_, read, isGiven, unshown⟩⟩

theorem describe_on_line : Describes "a\ndescription: x \nb" (.ok "x") :=
  describe_eq_iff.mp (by decide +kernel)

/-- A name on the line below an empty description is taken for the description. -/
theorem describe_takes_next_line :
    describe "description:\nname: x" = .ok "name: x" ∧
      lineDescription "description:\nname: x".toList = [] :=
  ⟨by decide +kernel, by decide +kernel⟩

end Definition

end AgentFlow
