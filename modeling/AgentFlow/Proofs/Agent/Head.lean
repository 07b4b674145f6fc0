import AgentFlow.Agent.Definition
import AgentFlow.Proofs.Files.Disk
import AgentFlow.Proofs.Text.Lines

/-!
# Heads and bodies

A definition is its head between two lines that start with the mark, and the body behind them.
`Heads` tells which head and body a text has; the splitter finds exactly these, so a text that is
composed of a head and a body is split into them again.
-/

namespace AgentFlow

open AgentFlow.Text

namespace Definition

variable {text rest head body : List Char}

/-- The mark that the lines around a head start with. -/
def headMark : List Char := ['-', '-', '-']

/-- No line of a text starts with the mark. -/
structure Unmarked (text : List Char) : Prop where
  first : startsWithDashes text = false
  later : ∀ before rest, text = before ++ '\n' :: rest → startsWithDashes rest = false

/-- An opening line stands behind some line feeds, and a rest below it. -/
inductive Opens : List Char → List Char → Prop where
  | line (newlines : Nat) {opening rest : List Char} : '\n' ∉ opening →
      Opens (List.replicate newlines '\n' ++ (headMark ++ opening ++ '\n' :: rest)) rest

/-- The lines of a head, and below them a line that starts with the mark, which the body follows.
A head may have no lines at all. -/
inductive Closes : List Char → List Char → List Char → Prop where
  | atOnce (body : List Char) : Closes (headMark ++ body) [] body
  | below {head body : List Char} : Unmarked head →
      Closes (head ++ '\n' :: (headMark ++ body)) head body

/-- A text has a head and a body. -/
def Heads (text head body : List Char) : Prop :=
  ∃ rest, Opens text rest ∧ Closes rest head body

/-- A head and a body in one text. -/
def compose (newlines : Nat) (head body : List Char) : List Char :=
  List.replicate newlines '\n' ++ "---\n".toList ++ head ++ "\n---\n".toList ++ body

/-! ## Lines with the mark -/

theorem startsWithDashes_iff :
    startsWithDashes text = true ↔ ∃ rest, text = headMark ++ rest := by
  constructor
  · intro starts
    unfold startsWithDashes at starts
    split at starts
    · exact ⟨_, rfl⟩
    · cases starts
  · intro ⟨rest, whole⟩
    simp [whole, headMark, startsWithDashes]

/-- The first line tells whether a text starts with the mark. -/
theorem startsWithDashes_line (line rest : List Char) :
    startsWithDashes (line ++ '\n' :: rest) = startsWithDashes line := by
  match line with
  | [] => simp [startsWithDashes]
  | [a] => simp [startsWithDashes]
  | [a, b] => simp [startsWithDashes]
  | a :: b :: c :: line =>
      rw [Bool.eq_iff_iff, startsWithDashes_iff, startsWithDashes_iff]
      simp [headMark]

theorem unmarked_nil : Unmarked [] where
  first := rfl
  later := by simp

/-- What follows the first character has no line with the mark but the first. -/
theorem later_of_cons {c : Char}
    (later : ∀ before rest, c :: text = before ++ '\n' :: rest → startsWithDashes rest = false) :
    ∀ before rest, text = before ++ '\n' :: rest → startsWithDashes rest = false := by
  intro before rest whole
  apply later (c :: before) rest
  simp [whole]

/-! ## The closing line -/

/-- The closing line is the first one below that starts with the mark. -/
theorem splitAtClosing?_eq_some_iff :
    splitAtClosing? text = some (head, body) ↔
      text = head ++ '\n' :: (headMark ++ body) ∧
        ∀ before rest, head = before ++ '\n' :: rest → startsWithDashes rest = false := by
  induction text generalizing head with
  | nil => simp [splitAtClosing?]
  | cons c text induction =>
      rw [splitAtClosing?]
      split
      · rename_i closes
        obtain ⟨newline, starts⟩ := closes
        obtain ⟨found, whole⟩ := startsWithDashes_iff.mp starts
        constructor
        · intro same
          cases same
          constructor
          · simp [newline, whole, headMark]
          · simp
        · intro ⟨same, unmarked⟩
          cases head with
          | nil =>
              have same : headMark ++ found = headMark ++ body := by
                simpa [newline, whole] using same
              simp [whole, headMark, List.append_cancel_left same]
          | cons d head =>
              -- A head that goes on would have this line among its own.
              rw [List.cons_append, List.cons.injEq] at same
              obtain ⟨first, others⟩ := same
              rw [others, startsWithDashes_line] at starts
              have noMark := unmarked [] head (by simp [← first, newline])
              simp [starts] at noMark
      · rename_i goesOn
        constructor
        · intro found
          obtain ⟨⟨lines, after⟩, split, same⟩ := Option.map_eq_some_iff.mp found
          cases same
          obtain ⟨whole, unmarked⟩ := induction.mp split
          constructor
          · simp [whole]
          · intro before rest same
            cases before with
            | nil =>
                obtain ⟨newline, others⟩ := List.cons.inj same
                rw [Bool.eq_false_iff]
                intro marked
                apply goesOn
                constructor
                · exact newline
                · rw [whole, startsWithDashes_line, others]
                  exact marked
            | cons d before =>
                obtain ⟨_, others⟩ := List.cons.inj same
                exact unmarked before rest others
        · intro ⟨whole, unmarked⟩
          cases head with
          | nil =>
              obtain ⟨newline, others⟩ := List.cons.inj whole
              apply absurd _ goesOn
              constructor
              · exact newline
              · exact startsWithDashes_iff.mpr ⟨body, others⟩
          | cons d head =>
              obtain ⟨first, others⟩ := List.cons.inj whole
              have split := induction.mpr ⟨others, later_of_cons unmarked⟩
              simp [split, first]

/-- What the splitter makes of the text below the opening line. -/
def splitRest (rest : List Char) : Except DefinitionFault (List Char × List Char) :=
  if startsWithDashes rest then .ok ([], rest.drop 3)
  else
    match splitAtClosing? rest with
    | none => .error .noClosing
    | some parts => .ok parts

theorem splitRest_eq_ok_iff : splitRest rest = .ok (head, body) ↔ Closes rest head body := by
  unfold splitRest
  split
  · rename_i starts
    obtain ⟨found, whole⟩ := startsWithDashes_iff.mp starts
    constructor
    · intro same
      cases same
      rw [whole]
      exact .atOnce found
    · intro closes
      cases closes with
      | atOnce body => simp [headMark]
      | below unmarked =>
          rw [startsWithDashes_line, unmarked.first] at starts
          cases starts
  · rename_i noStart
    have found : splitAtClosing? rest = some (head, body) ↔ Closes rest head body := by
      rw [splitAtClosing?_eq_some_iff]
      constructor
      · intro ⟨whole, unmarked⟩
        rw [whole] at noStart ⊢
        rw [startsWithDashes_line, Bool.not_eq_true] at noStart
        exact .below ⟨noStart, unmarked⟩
      · intro closes
        cases closes with
        | atOnce body => exact absurd (startsWithDashes_iff.mpr ⟨body, rfl⟩) noStart
        | below unmarked => exact ⟨rfl, unmarked.later⟩
    rw [← found]
    cases splitAtClosing? rest with
    | none => simp
    | some parts => simp

/-! ## The opening line -/

theorem afterFirstLine?_eq_some_iff :
    afterFirstLine? text = some rest ↔ ∃ line, '\n' ∉ line ∧ text = line ++ '\n' :: rest := by
  induction text with
  | nil => simp [afterFirstLine?]
  | cons c text induction =>
      by_cases newline : c = '\n'
      · constructor
        · intro found
          have same : text = rest := by simpa [afterFirstLine?, newline] using found
          exact ⟨[], by simp, by simp [newline, same]⟩
        · intro found
          obtain ⟨line, oneLine, whole⟩ := found
          cases line with
          | nil =>
              obtain ⟨_, same⟩ := List.cons.inj whole
              simp [afterFirstLine?, newline, same]
          | cons d line =>
              obtain ⟨first, _⟩ := List.cons.inj whole
              simp [← first, newline] at oneLine
      · have skips : afterFirstLine? (c :: text) = afterFirstLine? text := by
          simp [afterFirstLine?, newline]
        rw [skips, induction]
        constructor
        · intro found
          obtain ⟨line, oneLine, whole⟩ := found
          exact ⟨c :: line, by simp [oneLine, Ne.symm newline], by simp [whole]⟩
        · intro found
          obtain ⟨line, oneLine, whole⟩ := found
          cases line with
          | nil =>
              obtain ⟨first, _⟩ := List.cons.inj whole
              exact absurd first newline
          | cons d line =>
              obtain ⟨_, others⟩ := List.cons.inj whole
              exact ⟨line, fun member => oneLine (List.mem_cons_of_mem d member), others⟩

/-- The line feeds in front of an opening line are all there are. -/
theorem opens_iff : Opens text rest ↔
    startsWithDashes (text.dropWhile (· == '\n')) = true ∧
      afterFirstLine? (text.dropWhile (· == '\n')) = some rest := by
  constructor
  · intro opens
    cases opens with
    | @line newlines opening rest oneLine =>
        have stripped : (List.replicate newlines '\n' ++ (headMark ++ opening ++ '\n' :: rest)).dropWhile
            (· == '\n') = headMark ++ opening ++ '\n' :: rest := by
          rw [List.dropWhile_append_of_pos (by simp)]
          simp [headMark]
        rw [stripped]
        constructor
        · exact startsWithDashes_iff.mpr ⟨opening ++ '\n' :: rest, by simp⟩
        · exact afterFirstLine?_eq_some_iff.mpr ⟨headMark ++ opening, by simp [headMark, oneLine], rfl⟩
  · intro ⟨starts, found⟩
    obtain ⟨line, oneLine, whole⟩ := afterFirstLine?_eq_some_iff.mp found
    rw [whole, startsWithDashes_line] at starts
    obtain ⟨opening, marked⟩ := startsWithDashes_iff.mp starts
    have newlines : text.takeWhile (· == '\n') =
        List.replicate (text.takeWhile (· == '\n')).length '\n' := by
      rw [List.eq_replicate_iff]
      constructor
      · rfl
      · intro c member
        simpa using List.mem_takeWhile_imp member
    have shape : text = List.replicate (text.takeWhile (· == '\n')).length '\n' ++
        (headMark ++ opening ++ '\n' :: rest) := by
      rw [← newlines, ← marked, ← whole, List.takeWhile_append_dropWhile]
    rw [shape]
    apply Opens.line
    intro member
    exact oneLine (by simp [marked, member])

/-! ## The whole text -/

theorem splitHead_eq (text : List Char) : splitHead text =
    if startsWithDashes (text.dropWhile (· == '\n')) then
      match afterFirstLine? (text.dropWhile (· == '\n')) with
      | none => .error .noClosing
      | some rest => splitRest rest
    else .error .noOpening := rfl

/-- The splitter finds the head and the body that a text has. -/
theorem splitHead_eq_ok_iff : splitHead text = .ok (head, body) ↔ Heads text head body := by
  rw [splitHead_eq]
  unfold Heads
  simp only [opens_iff]
  split
  · rename_i starts
    cases found : afterFirstLine? (text.dropWhile (· == '\n')) with
    | none => simp
    | some rest =>
        simp only [starts, true_and, Option.some.injEq]
        rw [splitRest_eq_ok_iff]
        simp
  · rename_i noStart
    simp [noStart]

theorem splitHead_fails_iff :
    (∃ fault, splitHead text = .error fault) ↔ ∀ head body, ¬Heads text head body := by
  simp only [← splitHead_eq_ok_iff]
  cases splitHead text with
  | error fault => simp
  | ok parts =>
      obtain ⟨head, body⟩ := parts
      simp

theorem Closes.unmarked (closes : Closes rest head body) : Unmarked head := by
  cases closes with
  | atOnce body => exact unmarked_nil
  | below unmarked => exact unmarked

theorem heads_compose (newlines : Nat) (unmarked : Unmarked head) (body : List Char) :
    Heads (compose newlines head body) head ('\n' :: body) := by
  have whole : compose newlines head body = List.replicate newlines '\n' ++
      (headMark ++ [] ++ '\n' :: (head ++ '\n' :: (headMark ++ '\n' :: body))) := by
    simp [compose, headMark]
  rw [whole]
  exact ⟨_, .line newlines (by simp), .below unmarked⟩

/-! ## The definition in a file -/

/-- The definition that a head gives, but for its instructions. -/
def ofHead (path : Path) (headText : List Char) : Except HeadFault Definition := do
  let head ← readHead headText
  let name ← (textField? "name" head).mapError HeadFault.value
  let description ← (textField? "description" head).mapError HeadFault.value
  let model ← (textField? "model" head).mapError HeadFault.value
  let tools ← (listField "tools" head).mapError HeadFault.value
  .ok {
    name := name.getD path.stem
    description := description.getD ""
    model := model
    tools := tools
    instructions := ""
    path := path }

theorem ofText_of_split {path : Path} {source : String}
    (split : splitHead source.toList = .ok (head, body)) :
    ofText path source = (ofHead path head).map fun definition =>
      { definition with instructions := String.ofList (trim body) } := by
  unfold ofText ofHead
  rw [split]
  simp only [Except.mapError, bind, Except.bind]
  cases readHead head with
  | error fault => rfl
  | ok document =>
      dsimp only
      cases textField? "name" document with
      | error fault => rfl
      | ok name =>
          cases textField? "description" document with
          | error fault => rfl
          | ok description =>
              cases textField? "model" document with
              | error fault => rfl
              | ok model => cases listField "tools" document <;> rfl

theorem read_of_file {disk : Disk} {path : Path} {location : Location} {source : String}
    (file : disk.fileAt path = .ok (location, .text source)) (noReturn : '\r' ∉ source.toList) :
    read disk path = (ofText path source).mapError (·.error path) := by
  obtain ⟨reaches, same, node⟩ := Disk.fileAt_eq_ok_iff.mp file
  rw [same] at node
  have isThere : disk.pathExists path = .ok true := by
    simp [Disk.pathExists_of_reaches reaches, node]
  have stored : normalizeNewlines source.toList = source.toList :=
    normalizeNewlines_eq_self fun c member isReturn => noReturn (isReturn ▸ member)
  have readText : disk.readText path = .ok source := by
    rw [Disk.readText_of_file reaches node, Content.read, stored, String.ofList_toList]
    rfl
  unfold read
  simp only [isThere, readText]
  rfl

/-- The trimmed instructions do not tell whether a line feed was in front of them. -/
theorem trim_newline (body : List Char) : trim ('\n' :: body) = trim body := by
  simp [trim, trimStart, isBlank]

/-- Splitting undoes composing, for a file as for a text: the metadata are those of the head alone,
and the instructions are the trimmed body.  What is split has the head and the body that the
splitter finds, and a text is refused exactly if it has none. -/
theorem splitHead_undoes_compose :
    (∀ newlines head body, Unmarked head →
      splitHead (compose newlines head body) = .ok (head, '\n' :: body)) ∧
    (∀ (disk : Disk) path location newlines head body, Unmarked head →
      '\r' ∉ compose newlines head body →
      disk.fileAt path = .ok (location, .text (String.ofList (compose newlines head body))) →
      read disk path = ((ofHead path head).map fun definition =>
        { definition with instructions := String.ofList (trim body) }).mapError (·.error path)) ∧
    (∀ text head body, splitHead text = .ok (head, body) ↔ Heads text head body) ∧
    (∀ text head body, Heads text head body → Unmarked head) ∧
    (∀ text, (∃ fault, splitHead text = .error fault) ↔ ∀ head body, ¬Heads text head body) ∧
    ∀ (disk : Disk) path location source, '\r' ∉ source.toList →
      disk.fileAt path = .ok (location, .text source) →
      (∀ head body, ¬Heads source.toList head body) →
      ∃ fault, read disk path = .error (.definition fault path) := by
  refine ⟨?_, ?_, ?_, ?_, ?_, ?_⟩
  · intro newlines head body unmarked
    exact splitHead_eq_ok_iff.mpr (heads_compose newlines unmarked body)
  · intro disk path location newlines head body unmarked noReturn file
    have split : splitHead (String.ofList (compose newlines head body)).toList =
        .ok (head, '\n' :: body) := by
      rw [String.toList_ofList]
      exact splitHead_eq_ok_iff.mpr (heads_compose newlines unmarked body)
    rw [read_of_file file (by simpa using noReturn), ofText_of_split split, trim_newline]
  · intro text head body
    exact splitHead_eq_ok_iff
  · intro text head body heads
    obtain ⟨rest, _, closes⟩ := heads
    exact closes.unmarked
  · intro text
    exact splitHead_fails_iff
  · intro disk path location source noReturn file none_
    obtain ⟨fault, failed⟩ := splitHead_fails_iff.mpr none_
    refine ⟨fault, ?_⟩
    rw [read_of_file file noReturn, ofText, failed]
    rfl

/-- A file with line feeds in front of its head and marks in its body. -/
def markedDisk : Disk :=
  ⟨[(["a.md"], .file (.text "\n\n---\nname: x\n---\none\n---\ntwo\n"))], []⟩

theorem splitHead_undoes_compose_marked :
    Unmarked "name: x".toList ∧
      splitHead (compose 2 "name: x".toList "one\n---\ntwo\n".toList) =
        .ok ("name: x".toList, "\none\n---\ntwo\n".toList) ∧
      read markedDisk ⟨0, ["a.md"]⟩ = ((ofHead ⟨0, ["a.md"]⟩ "name: x".toList).map fun definition =>
        { definition with instructions := "one\n---\ntwo" }).mapError (·.error ⟨0, ["a.md"]⟩) := by
  have unmarked : Unmarked "name: x".toList := by
    refine ⟨by decide, ?_⟩
    intro before rest whole
    have member : '\n' ∈ "name: x".toList := by simp [whole]
    exact absurd member (by decide)
  obtain ⟨undoes, reads, _⟩ := splitHead_undoes_compose
  have readBack := reads markedDisk ⟨0, ["a.md"]⟩ ["a.md"] 2 "name: x".toList
    "one\n---\ntwo\n".toList unmarked (by decide) rfl
  exact ⟨unmarked, undoes 2 _ _ unmarked, readBack⟩

end Definition

end AgentFlow
