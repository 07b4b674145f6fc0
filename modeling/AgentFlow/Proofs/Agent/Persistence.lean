import AgentFlow.Proofs.Agent.Saving
import AgentFlow.Proofs.Files.Writing
import AgentFlow.Proofs.Json.Moderate

/-!
# Tables that are kept

Reading a registry file is lenient, but what it gives is a table that can be written: every
entry has its name and a file, and no count is too long.  Such a table is loaded again as it
was saved, and it is always written in the same way.
-/

namespace AgentFlow

open AgentFlow.Number AgentFlow.Text

/-! ## Counts -/

namespace Entry

theorem isCountable_iff {entry : Entry} : entry.IsCountable ↔ IsWritable entry.usageCount := by
  simp only [IsCountable, IsWritable, Nat.pow_eq]

theorem isWritable_of_countOf {value : Value} {n : Int} (moderate : value.Moderate)
    (counted : countOf value = .ok n) : IsWritable n := by
  unfold countOf at counted
  split at counted
  · cases moderate with
    | null => cases counted
    | bool b =>
        cases counted
        decide +kernel
    | text s => exact isWritable_of_readInteger (mapError_eq_ok_iff.mp counted)
    | int writable =>
        cases counted
        exact writable
    | @float x writable =>
        dsimp only at counted
        split at counted
        · rename_i truncated
          cases counted
          exact writable _ truncated
        · cases counted
    | list => cases counted
    | table => cases counted
  · cases counted
    decide +kernel

theorem isCountable_of_ofFields {name : String} {fields : List (Value × Value)} {entry : Entry}
    (moderate : ∀ field ∈ fields, field.2.Moderate) (read : ofFields name fields = .ok entry) :
    entry.IsCountable := by
  obtain ⟨count, counted, same⟩ := bind_eq_ok_iff.mp read
  cases same
  exact isCountable_iff.mpr
    (isWritable_of_countOf (Value.moderate_field "usageCount" moderate) counted)

end Entry

namespace Registry

/-- A table whose counts can be written. -/
def Countable (table : Registry) : Prop :=
  ∀ name entry, (name, entry) ∈ table → entry.IsCountable

variable {table : Registry} {path : Path}

theorem Countable.insert {name : String} {entry : Entry} (countable : table.Countable)
    (isCountable : entry.IsCountable) : Countable (table.insert name entry) := by
  intro other old member
  rcases mem_insert member with new | kept
  · cases new
    exact isCountable
  · exact countable other old kept

theorem countable_of_readEntries {entries : List (Value × Value)}
    (moderate : ∀ entry ∈ entries, entry.2.Moderate)
    (read : readEntries path entries = .ok table) : table.Countable := by
  induction entries generalizing table with
  | nil =>
      cases read
      nofun
  | cons first entries induction =>
      obtain ⟨moderateFirst, moderateOthers⟩ := List.forall_mem_cons.mp moderate
      obtain ⟨entry, readFirst, read⟩ := bind_eq_ok_iff.mp read
      obtain ⟨others, readOthers, same⟩ := bind_eq_ok_iff.mp read
      cases same
      intro name found member
      rcases List.mem_cons.mp member with head | later
      · cases head
        unfold readEntry at readFirst
        split at readFirst
        · rename_i fields isTable
          rw [isTable] at moderateFirst
          exact Entry.isCountable_of_ofFields moderateFirst.entry (mapError_eq_ok_iff.mp readFirst)
        · cases readFirst
      · exact induction moderateOthers readOthers name found later

theorem countable_of_ofText {text : String} (read : ofText path text = .ok table) :
    table.Countable := by
  unfold ofText at read
  split at read
  · cases read
    nofun
  · split at read
    · cases read
    · cases read
    · rename_i entries isObject
      exact countable_of_readEntries (Json.moderate_of_read isObject).entry read
    · cases read

theorem countable_of_ofNode {node : Option Node} (read : ofNode path node = .ok table) :
    table.Countable := by
  unfold ofNode at read
  split at read
  · cases read
    nofun
  · cases read
  · split at read
    · exact countable_of_ofText read
    · cases read

theorem longInteger?_toDocument (countable : table.Countable) :
    table.toDocument.longInteger? = none := by
  rw [toDocument, Json.Document.longInteger?]
  induction table with
  | nil => rfl
  | cons first table induction =>
      have short := Entry.isCountable_iff.mp (countable first.1 first.2 List.mem_cons_self)
      have others := induction fun name entry member =>
        countable name entry (List.mem_cons_of_mem _ member)
      rw [List.map_cons, Json.Document.longIntegerAmong?, others, Option.or_none]
      unfold IsWritable at short
      simp [Entry.toDocument, Json.Document.longInteger?, Json.Document.longIntegerAmong?, short]

theorem fileText?_toDocument (countable : table.Countable) :
    table.toDocument.fileText? = .ok table.fileText := by
  unfold Json.Document.fileText?
  rw [longInteger?_toDocument countable]
  rfl

end Registry

namespace Store

variable {store : Store} {disk : Disk} {table : Registry}

theorem countable_of_load (loaded : store.load disk = .ok table) : table.Countable := by
  rcases file_of_load loaded with rfl | ⟨reaches, _⟩
  · nofun
  · rw [load_of_reaches reaches] at loaded
    exact Registry.countable_of_ofNode loaded

/-! ## Saving -/

/-- The registry file holds a table in the way it is written, and the table is loaded from it. -/
structure Keeps (store : Store) (table : Registry) (disk : Disk) : Prop where
  reaches : disk.Reaches store.registryPath
  file : disk.node? (disk.destination store.registryPath) = some (.file (.text table.fileText))
  loaded : store.load disk = .ok table

theorem Keeps.ofWritten {later : Disk} (wellFormed : table.WellFormed)
    (short : table.toDocument.longInteger? = none)
    (written : Work.Written store.registryPath table.fileText disk later) :
    store.Keeps table later where
  reaches := written.reaches
  file := by rw [Disk.destination_of_current written.alters.current, written.alters.here]
  loaded := load_of_written wellFormed short written

/-- Whatever happens, a table that is saved is kept. -/
theorem leads_save_keeps (wellFormed : table.WellFormed) :
    (store.save table).Leads disk
      ⟨fun _ later => store.Keeps table later, fun _ _ => True, fun _ => True⟩ := by
  refine (leads_save table).mono ?_ (fun _ _ _ => trivial) fun _ _ => trivial
  rintro _ later ⟨short, _, _, written⟩
  exact .ofWritten wellFormed short written

/-- Without mishaps a table is saved where a file can be written. -/
theorem completes_save (countable : table.Countable)
    (writable : disk.Writable store.registryPath) :
    (store.save table).Completes disk fun _ later =>
      later.nodes.length ≤ disk.nodes.length + store.registryPath.parts.length + 1 := by
  have isText := Registry.fileText?_toDocument countable
  exact Work.completes_ofExcept_bind (mapError_eq_ok_iff.mpr isText)
    (Work.completes_atomicWrite table.fileText writable).mapFault

/-- A table is saved over another one, and takes no more room. -/
theorem completes_save_over {content : Content} (countable : table.Countable)
    (reaches : disk.Reaches store.registryPath)
    (file : disk.node? (disk.destination store.registryPath) = some (.file content))
    (movable : Disk.isMovable store.registryPath = true)
    (temporary : ∃ n, Disk.Fits (Work.temporaryBeside store.registryPath n))
    (room : disk.nodes.length < Work.serials) :
    (store.save table).Completes disk fun _ later => later.nodes.length ≤ disk.nodes.length := by
  have isText := Registry.fileText?_toDocument countable
  have noDirectory := Disk.noDirectory_of_file file
  have writes := Work.completes_atomicWrite_of_reaches table.fileText reaches movable noDirectory
    temporary room
  refine Work.completes_ofExcept_bind (mapError_eq_ok_iff.mpr isText)
    (writes.mono fun _ later few => ?_).mapFault
  have noMore := Disk.length_put_of_taken (Disk.ne_root_of_node? noDirectory)
    (Option.ne_none_iff_exists'.mpr ⟨_, file⟩) (.file (.text table.fileText))
  exact Nat.le_trans few noMore

/-- A table that can be loaded, or was loaded, is kept once it is saved.  It can be saved if
the registry file can be written, and saving it again writes the same. -/
theorem save_load
    (loadable : table.WellFormed ∧ table.Countable ∨ store.load disk = .ok table) :
    (store.save table).Leads disk
        ⟨fun _ later => store.Keeps table later, fun _ _ => True, fun _ => True⟩ ∧
      (disk.Writable store.registryPath →
        (store.save table).Completes disk fun _ later =>
          store.Keeps table later ∧
            (store.save table).Completes later fun _ last => store.Keeps table last) := by
  obtain ⟨wellFormed, countable⟩ : table.WellFormed ∧ table.Countable := by
    rcases loadable with known | loaded
    · exact known
    · exact ⟨wellFormed_of_load loaded, countable_of_load loaded⟩
  refine ⟨leads_save_keeps wellFormed, fun writable => ?_⟩
  refine ((completes_save countable writable).leads (leads_save_keeps wellFormed)).mono ?_
  rintro _ later ⟨keeps, few⟩
  have room := writable.room
  have again := completes_save_over countable keeps.reaches keeps.file writable.movable
    writable.temporary (by omega)
  exact ⟨keeps, (again.leads (leads_save_keeps wellFormed)).mono fun _ _ => And.left⟩

/-- A registry file with a key twice, and with values of other kinds than are written. -/
def lenientDisk : Disk where
  nodes := [(["agents"], .directory), (["agents", "r"], .file (.text
    "\x7b\"a\": \x7b\x7d, \"b\": \x7b\"file\": [0], \"usageCount\": \" 1_0\"\x7d, \"a\": \x7b\"usageCount\": -3.9\x7d\x7d"))]
  current := []

theorem writable_lenientDisk : lenientDisk.Writable plainStore.registryPath where
  movable := by decide
  clear := by decide
  aside := by decide
  noDirectory := by decide
  temporary := ⟨0, by decide⟩
  room := by decide

theorem save_load_lenient :
    (plainStore.load lenientDisk).toOption =
        some [("a", ⟨"a", "a.md", "", "", -3⟩), ("b", ⟨"b", "[0]", "", "", 10⟩)] ∧
      ∃ table, plainStore.load lenientDisk = .ok table ∧
        (plainStore.save table).Completes lenientDisk fun _ later =>
          plainStore.Keeps table later ∧
            (plainStore.save table).Completes later fun _ last => plainStore.Keeps table last := by
  have loads : (plainStore.load lenientDisk).toOption =
      some [("a", ⟨"a", "a.md", "", "", -3⟩), ("b", ⟨"b", "[0]", "", "", 10⟩)] := by
    decide +kernel
  have loaded := toOption_eq_some_iff.mp loads
  exact ⟨loads, _, loaded, (save_load (.inr loaded)).2 writable_lenientDisk⟩

end Store

end AgentFlow
