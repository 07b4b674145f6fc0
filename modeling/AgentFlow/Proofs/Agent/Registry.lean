import AgentFlow.Agent.Registry
import AgentFlow.Proofs.Files.Disk
import AgentFlow.Proofs.Json.Document
import AgentFlow.Proofs.Text.Blank
import AgentFlow.Proofs.Value.Display

/-!
# Tables that are kept in a file

A table that was loaded has every name once, and every entry knows its own name and has
a file.  Such a table is loaded from its own file as it was written, and putting the
same entry into it again changes nothing.
-/

namespace AgentFlow

open AgentFlow.Json AgentFlow.Number AgentFlow.Text

/-- A file that was written holds its text as it was written. -/
theorem Content.read_fileText (document : Document) :
    (Content.text document.fileText).read = .ok document.fileText := by
  rw [Content.read, normalizeNewlines_fileText, String.ofList_toList]

theorem Disk.readText_written {disk : Disk} {path : Path} {document : Document}
    (reaches : disk.Reaches path)
    (file : disk.node? (disk.destination path) = some (.file (.text document.fileText))) :
    disk.readText path = .ok document.fileText := by
  rw [disk.readText_of_file reaches file, Content.read_fileText]
  rfl

namespace Entry

/-- What an entry under a name is if it can be loaded. -/
structure IsFor (name : String) (entry : Entry) : Prop where
  agentName : entry.agentName = name
  file : entry.file ≠ ""

/-- The count of an entry can be written. -/
def IsCountable (entry : Entry) : Prop := entry.usageCount.natAbs < Nat.pow 10 maxDigits

theorem isCountable_of_unused {entry : Entry} (unused : entry.usageCount = 0) :
    entry.IsCountable := by
  rw [IsCountable, unused, Nat.pow_eq]
  exact Nat.pow_pos (by decide)

theorem textOr_ne_empty {default : String} (some_ : default ≠ "") (value : Value) :
    textOr default value ≠ "" := by
  unfold textOr
  split
  · rename_i given
    exact Value.displayText_ne_empty given
  · exact some_

theorem textOr_text (default s : String) (kept : s ≠ "" ∨ default = "") :
    textOr default (.text s) = s := by
  unfold textOr
  split
  · exact Value.displayText_text s
  · rename_i notGiven
    have empty : s = "" := by simpa [Value.isGiven] using notGiven
    rcases kept with some_ | none
    · exact absurd empty some_
    · rw [none, empty]

theorem countOf_int (n : Int) : countOf (.int n) = .ok n := by
  unfold countOf
  split
  · rfl
  · rename_i notGiven
    have zero : n = 0 := by simpa [Value.isGiven] using notGiven
    rw [zero]

theorem isFor_of_ofFields {name : String} {fields : List (Value × Value)} {entry : Entry}
    (read : ofFields name fields = .ok entry) : entry.IsFor name := by
  obtain ⟨count, _, same⟩ := bind_eq_ok_iff.mp read
  cases same
  refine ⟨rfl, textOr_ne_empty ?_ _⟩
  intro empty
  have noText := congrArg String.toList empty
  simp at noText

/-- The fields that an entry is written with. -/
def fields (entry : Entry) : List (Value × Value) :=
  [(.text "file", .text entry.file), (.text "description", .text entry.description),
    (.text "created", .text entry.created), (.text "usageCount", .int entry.usageCount)]

/-- An entry is read from the fields it is written with. -/
theorem ofFields_fields {name : String} {entry : Entry} (isFor : entry.IsFor name) :
    ofFields name entry.fields = .ok entry := by
  obtain ⟨agentName, file, description, created, usageCount⟩ := entry
  obtain ⟨rfl, someFile⟩ := isFor
  simp [ofFields, fields, Value.field, Value.lookup?, countOf_int, textOr_text, someFile, bind,
    Except.bind]

theorem readable_toDocument {entry : Entry} (countable : entry.IsCountable) {room : Nat}
    (someRoom : 0 < room) : entry.toDocument.Readable room := by
  refine ⟨someRoom, by simp, ?_⟩
  exact ⟨trivial, trivial, trivial, countable, trivial⟩

theorem isCountable_of_longInteger? {entry : Entry}
    (short : entry.toDocument.longInteger? = none) : entry.IsCountable := by
  simpa [toDocument, Document.longInteger?, Document.longIntegerAmong?, IsCountable] using short

end Entry

namespace Registry

/-- What a table is if it can be loaded. -/
structure WellFormed (table : Registry) : Prop where
  distinct : (table.map Prod.fst).Nodup
  entries : ∀ name entry, (name, entry) ∈ table → entry.IsFor name

theorem wellFormed_of_lines {table : Registry} (distinct : (table.map Prod.fst).Nodup)
    (lines : ∀ line ∈ table, line.2.agentName = line.1 ∧ line.2.file ≠ "") : table.WellFormed where
  distinct := distinct
  entries := fun name entry member =>
    ⟨(lines (name, entry) member).1, (lines (name, entry) member).2⟩

/-! ## Putting entries in -/

theorem mem_insert {table : Registry} {name other : String} {entry old : Entry}
    (member : (other, old) ∈ table.insert name entry) :
    (other, old) = (name, entry) ∨ (other, old) ∈ table := by
  induction table with
  | nil => exact Or.inl (List.mem_singleton.mp member)
  | cons first table induction =>
      rw [insert] at member
      split at member
      · rcases List.mem_cons.mp member with new | kept
        · exact Or.inl new
        · exact Or.inr (List.mem_cons_of_mem first kept)
      · rcases List.mem_cons.mp member with same | later
        · exact Or.inr (same ▸ List.mem_cons_self)
        · exact (induction later).imp_right (List.mem_cons_of_mem first)

theorem keys_insert (table : Registry) (name : String) (entry : Entry) :
    (table.insert name entry).map Prod.fst =
      if name ∈ table.map Prod.fst then table.map Prod.fst else table.map Prod.fst ++ [name] := by
  induction table with
  | nil => rfl
  | cons first table induction =>
      by_cases same : first.1 = name
      · simp [insert, same]
      · have order : ¬name = first.1 := fun equal => same equal.symm
        rw [insert, if_neg same, List.map_cons, induction]
        by_cases present : name ∈ table.map Prod.fst
        · have stays : name ∈ (first :: table).map Prod.fst := List.mem_cons_of_mem _ present
          rw [if_pos present, if_pos stays, List.map_cons]
        · have absent : name ∉ (first :: table).map Prod.fst := by
            rw [List.map_cons, List.mem_cons, not_or]
            exact ⟨order, present⟩
          rw [if_neg present, if_neg absent, List.map_cons, List.cons_append]

theorem WellFormed.insert {table : Registry} {name : String} {entry : Entry}
    (wellFormed : table.WellFormed) (isFor : entry.IsFor name) :
    (Registry.insert name entry table).WellFormed where
  distinct := by
    rw [keys_insert]
    split
    · exact wellFormed.distinct
    · rename_i absent
      rw [List.nodup_append]
      refine ⟨wellFormed.distinct, List.nodup_singleton name, ?_⟩
      rintro other inTable _ last rfl
      obtain rfl := List.mem_singleton.mp last
      exact absent inTable
  entries := by
    intro other old member
    rcases mem_insert member with new | kept
    · cases new
      exact isFor
    · exact wellFormed.entries other old kept

/-- Putting an entry in again changes nothing. -/
theorem insert_insert (table : Registry) (name : String) (entry : Entry) :
    (table.insert name entry).insert name entry = table.insert name entry := by
  induction table with
  | nil => simp [insert]
  | cons first table induction =>
      by_cases same : first.1 = name
      · simp [insert, same]
      · simp [insert, same, induction]

/-! ## Loading -/

theorem readEntry_eq_ok {path : Path} {name : String} {value : Value} {entry : Entry}
    (read : readEntry path name value = .ok entry) : entry.IsFor name := by
  unfold readEntry at read
  split at read
  · exact Entry.isFor_of_ofFields (mapError_eq_ok_iff.mp read)
  · cases read

theorem readEntries_eq_ok {path : Path} {members : List (String × Value)} {table : Registry}
    (read : readEntries path (asEntries members) = .ok table) :
    table.map Prod.fst = members.map Prod.fst ∧
      ∀ name entry, (name, entry) ∈ table → entry.IsFor name := by
  induction members generalizing table with
  | nil =>
      cases read
      exact ⟨rfl, nofun⟩
  | cons member members induction =>
      obtain ⟨entry, readFirst, read⟩ := bind_eq_ok_iff.mp read
      obtain ⟨others, readOthers, same⟩ := bind_eq_ok_iff.mp read
      cases same
      obtain ⟨keys, entries⟩ := induction readOthers
      rw [Value.displayText_text] at readFirst
      refine ⟨by simp [keys, Value.displayText_text], ?_⟩
      intro name found inTable
      rcases List.mem_cons.mp inTable with head | later
      · cases head
        rw [Value.displayText_text]
        exact readEntry_eq_ok readFirst
      · exact entries name found later

/-- A table that was loaded can be loaded again. -/
theorem wellFormed_of_ofText {path : Path} {text : String} {table : Registry}
    (read : ofText path text = .ok table) : table.WellFormed := by
  unfold ofText at read
  split at read
  · cases read
    exact ⟨List.nodup_nil, nofun⟩
  · split at read
    · cases read
    · cases read
    · rename_i entries isObject
      obtain ⟨members, distinct, rfl⟩ := textKeyed_of_read isObject
      obtain ⟨keys, wellFormed⟩ := readEntries_eq_ok read
      exact ⟨keys ▸ distinct, wellFormed⟩
    · cases read

/-! ## Loading what was written -/

theorem memberValues_toDocument (table : Registry) :
    Document.memberValues (table.map fun (name, entry) => (name, entry.toDocument)) =
      table.map fun (name, entry) => (name, .table entry.fields) := by
  induction table with
  | nil => rfl
  | cons first table induction =>
      rw [List.map_cons, Document.memberValues, induction]
      rfl

theorem readEntries_written {table : Registry} (path : Path)
    (entries : ∀ name entry, (name, entry) ∈ table → entry.IsFor name) :
    readEntries path (asEntries (table.map fun (name, entry) => (name, .table entry.fields))) =
      .ok table := by
  induction table with
  | nil => rfl
  | cons first table induction =>
      obtain ⟨name, entry⟩ := first
      have isFor := entries name entry List.mem_cons_self
      have others := induction fun other old member =>
        entries other old (List.mem_cons_of_mem _ member)
      have head : readEntry path name (.table entry.fields) = .ok entry := by
        show (Entry.ofFields name entry.fields).mapError _ = _
        rw [Entry.ofFields_fields isFor]
        rfl
      simp only [asEntries, List.map_cons, readEntries, Value.displayText_text] at others ⊢
      rw [head]
      show (readEntries path _ >>= _) = _
      rw [others]
      rfl

theorem readableMembers_toDocument {table : Registry} {room : Nat} (someRoom : 0 < room)
    (countable : ∀ name entry, (name, entry) ∈ table → entry.IsCountable) :
    Document.ReadableMembers room (table.map fun (name, entry) => (name, entry.toDocument)) := by
  induction table with
  | nil => trivial
  | cons first table induction =>
      refine ⟨Entry.readable_toDocument (countable _ _ List.mem_cons_self) someRoom, ?_⟩
      exact induction fun name entry member =>
        countable name entry (List.mem_cons_of_mem _ member)

theorem isCountable_of_longInteger? {table : Registry}
    (short : table.toDocument.longInteger? = none) :
    ∀ name entry, (name, entry) ∈ table → entry.IsCountable := by
  rw [toDocument, Document.longInteger?] at short
  induction table with
  | nil => nofun
  | cons first table induction =>
      rw [List.map_cons, Document.longIntegerAmong?, Option.or_eq_none_iff] at short
      intro name entry member
      rcases List.mem_cons.mp member with head | later
      · cases head
        exact Entry.isCountable_of_longInteger? short.1
      · exact induction short.2 name entry later

theorem head?_fileText (table : Registry) : table.fileText.toList.head? = some '{' := by
  unfold fileText Document.fileText
  rw [String.toList_ofList]
  cases table with
  | nil => rfl
  | cons first table => rfl

theorem not_blank_fileText (table : Registry) : (trim table.fileText.toList).isEmpty = false := by
  have first := head?_fileText table
  cases shape : table.fileText.toList with
  | nil =>
      rw [shape] at first
      cases first
  | cons c cs =>
      rw [shape] at first
      obtain rfl : c = '{' := by simpa using first
      have kept : (trim ('{' :: cs)).head? = some '{' := by
        rw [head?_trim]
        rfl
      cases trimmedShape : trim ('{' :: cs) with
      | nil =>
          rw [trimmedShape] at kept
          cases kept
      | cons d ds => rfl

/-- A table is loaded from the text it is written as. -/
theorem ofText_fileText {table : Registry} (wellFormed : table.WellFormed)
    (short : table.toDocument.longInteger? = none) (path : Path) :
    ofText path table.fileText = .ok table := by
  have readable : table.toDocument.Readable maxDepth := by
    refine ⟨by decide, ?_, readableMembers_toDocument (by decide) (isCountable_of_longInteger? short)⟩
    rw [List.map_map]
    exact wellFormed.distinct
  have value : Json.read table.fileText =
      .ok (.table (asEntries (table.map fun (name, entry) => (name, .table entry.fields)))) := by
    rw [← memberValues_toDocument]
    exact read_fileText readable
  unfold ofText
  rw [not_blank_fileText, value]
  exact readEntries_written path wellFormed.entries

/-! ## The table on a disk -/

/-- The table that what stands at a path holds. -/
def ofNode (path : Path) : Option Node → Except Error Registry
  | none => .ok []
  | some .directory => .error (.registry (.unreadable (.file .isADirectory)) path)
  | some (.file content) =>
    match content.read with
    | .ok text => ofText path text
    | .error fault => .error (.unexpected (.utf8 fault))

theorem read_of_reaches {disk : Disk} {path : Path} (reaches : disk.Reaches path) :
    read disk path = ofNode path (disk.node? (disk.destination path)) := by
  unfold read
  rw [Disk.pathExists_of_reaches reaches]
  cases node : disk.node? (disk.destination path) with
  | none => rfl
  | some kind =>
      cases kind with
      | directory =>
          have refused : disk.readText path = .error (.file .isADirectory) := by
            unfold Disk.readText Disk.fileAt
            rw [reaches.place]
            simp [node, bind, Except.bind]
          rw [refused]
          rfl
      | file content =>
          rw [disk.readText_of_file reaches node, ofNode]
          cases content.read <;> rfl

theorem wellFormed_of_ofNode {path : Path} {node : Option Node} {table : Registry}
    (read : ofNode path node = .ok table) : table.WellFormed := by
  unfold ofNode at read
  split at read
  · cases read
    exact ⟨List.nodup_nil, nofun⟩
  · cases read
  · split at read
    · exact wellFormed_of_ofText read
    · cases read

theorem ofNode_written {table : Registry} (wellFormed : table.WellFormed)
    (short : table.toDocument.longInteger? = none) (path : Path) :
    ofNode path (some (.file (.text table.fileText))) = .ok table := by
  have readAs : (Content.text table.fileText).read = .ok table.fileText :=
    Content.read_fileText table.toDocument
  simp only [ofNode, readAs]
  exact ofText_fileText wellFormed short path

end Registry

end AgentFlow
