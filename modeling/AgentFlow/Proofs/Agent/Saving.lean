import AgentFlow.Proofs.Agent.Places
import AgentFlow.Proofs.Agent.Promotion

/-!
# Saving a table

A table is saved as a whole or not at all, and a table that was saved is the one that is
loaded again.  Counting a use loads the table and saves it with one more use of one agent.
-/

namespace AgentFlow

open AgentFlow.Text

theorem Json.Document.fileText?_eq_ok {document : Json.Document} {text : String}
    (written : document.fileText? = .ok text) :
    document.longInteger? = none ∧ text = document.fileText := by
  unfold Json.Document.fileText? at written
  split at written
  · cases written
  · rename_i short
    exact ⟨short, (Except.ok.inj written).symm⟩

namespace Registry

theorem get?_cons (first other : String) (old : Entry) (table : Registry) :
    get? ((first, old) :: table) other = if other = first then some old else table.get? other := by
  unfold get?
  by_cases same : other = first
  · simp [same]
  · rw [List.lookup_cons, beq_false_of_ne same, if_neg same]

theorem get?_insert (table : Registry) (name other : String) (entry : Entry) :
    (table.insert name entry).get? other = if other = name then some entry else table.get? other := by
  induction table with
  | nil => exact get?_cons name other entry []
  | cons first table induction =>
      obtain ⟨firstName, old⟩ := first
      rw [insert]
      by_cases here : firstName = name
      · rw [if_pos here, get?_cons, get?_cons, here]
        split <;> rfl
      · rw [if_neg here, get?_cons, get?_cons, induction]
        by_cases same : other = firstName
        · rw [if_pos same, same, if_neg here, if_pos rfl]
        · rw [if_neg same, if_neg same]

theorem isFor_of_get? {table : Registry} {name : String} {entry : Entry}
    (wellFormed : table.WellFormed) (found : table.get? name = some entry) : entry.IsFor name := by
  obtain ⟨before, after, whole, _⟩ := List.lookup_eq_some_iff.mp found
  apply wellFormed.entries
  rw [whole]
  exact List.mem_append_right before List.mem_cons_self

end Registry

namespace Store

variable {store : Store} {disk : Disk}

/-- What saving a table leads to. -/
def saveOutcomes (store : Store) (disk : Disk) (table : Registry) : Outcomes Error Unit where
  done := fun _ later => table.toDocument.longInteger? = none ∧ ∃ between,
    Disk.Furnished (disk.OnWay store.registryPath.parent) disk between ∧
      Work.Written store.registryPath table.fileText between later
  failed := fun _ later => Disk.Furnished (disk.OnWay store.registryPath.parent) disk later
  stopped := fun later => ∃ between,
    Disk.Furnished (disk.OnWay store.registryPath.parent) disk between ∧
      Work.Littered store.registryPath between later

theorem leads_save (table : Registry) :
    (store.save table).Leads disk (store.saveOutcomes disk table) := by
  refine Work.leads_ofExcept_bind ?_ fun _ _ => Disk.Furnished.refl disk
  intro text isText
  obtain ⟨short, rfl⟩ := Json.Document.fileText?_eq_ok (mapError_eq_ok_iff.mp isText)
  refine .mapFault ((Work.leads_atomicWrite disk _ _).mono ?_ (fun _ _ => id) (fun _ => id))
  exact fun _ _ done => ⟨short, done⟩

theorem load_of_reaches (reaches : disk.Reaches store.registryPath) :
    store.load disk = Registry.ofNode store.registryPath
      (disk.node? (disk.destination store.registryPath)) :=
  Registry.read_of_reaches reaches

/-- A table that can be loaded is loaded from a file that holds its text. -/
theorem load_of_fileText {table : Registry} (wellFormed : table.WellFormed)
    (short : table.toDocument.longInteger? = none) (reaches : disk.Reaches store.registryPath)
    (file : disk.node? (disk.destination store.registryPath) =
      some (.file (.text table.fileText))) : store.load disk = .ok table := by
  rw [load_of_reaches reaches, file]
  exact Registry.ofNode_written wellFormed short store.registryPath

/-- A table that can be loaded can be loaded again once it is saved. -/
theorem load_of_written {table : Registry} {later : Disk} (wellFormed : table.WellFormed)
    (short : table.toDocument.longInteger? = none)
    (written : Work.Written store.registryPath table.fileText disk later) :
    store.load later = .ok table := by
  refine load_of_fileText wellFormed short written.reaches ?_
  rw [Disk.destination_of_current written.alters.current, written.alters.here]

theorem load_of_fileAt {table : Registry} {location : Location} (wellFormed : table.WellFormed)
    (short : table.toDocument.longInteger? = none) (found : (disk.fileAt store.registryPath).toOption =
      some (location, .text table.fileText)) : store.load disk = .ok table := by
  obtain ⟨reaches, rfl, file⟩ := Disk.fileAt_eq_ok_iff.mp (toOption_eq_some_iff.mp found)
  exact load_of_fileText wellFormed short reaches file

/-- The table that is loaded is empty or that of a file at the place of the registry. -/
theorem file_of_load {table : Registry} (loaded : store.load disk = .ok table) :
    table = [] ∨ disk.Reaches store.registryPath ∧ ∃ content,
      disk.node? (disk.destination store.registryPath) = some (.file content) := by
  by_cases isThere : disk.pathExists store.registryPath = .ok true
  · obtain ⟨reaches, taken⟩ := Disk.pathExists_eq_true_iff.mp isThere
    rw [load_of_reaches reaches] at loaded
    cases node : disk.node? (disk.destination store.registryPath) with
    | none =>
        rw [node] at loaded
        cases loaded
        exact .inl rfl
    | some kind =>
        cases kind with
        | directory =>
            rw [node] at loaded
            cases loaded
        | file content => exact .inr ⟨reaches, content, rfl⟩
  · left
    unfold load Registry.read at loaded
    obtain ⟨answer, asked, loaded⟩ := bind_eq_ok_iff.mp loaded
    cases answer with
    | true => exact absurd (mapError_eq_ok_iff.mp asked) isThere
    | false =>
        cases loaded
        rfl

theorem wellFormed_of_load {table : Registry} (loaded : store.load disk = .ok table) :
    table.WellFormed := by
  rcases file_of_load loaded with rfl | ⟨reaches, _⟩
  · exact ⟨List.nodup_nil, nofun⟩
  · rw [load_of_reaches reaches] at loaded
    exact Registry.wellFormed_of_ofNode loaded

end Store

/-! ## Counting a use -/

/-- The entry with one more use. -/
def Entry.used (entry : Entry) : Entry := { entry with usageCount := entry.usageCount + 1 }

theorem Registry.WellFormed.insert_used {table : Registry} {name : String} {entry : Entry}
    (wellFormed : table.WellFormed) (found : table.get? name = some entry) :
    (table.insert name entry.used).WellFormed := by
  have isFor := Registry.isFor_of_get? wellFormed found
  exact wellFormed.insert ⟨isFor.agentName, isFor.file⟩

namespace Store

variable {store : Store} {disk : Disk} {name : String}

/-- What counting a use leads to: nothing for an agent that is not registered, and otherwise
what saving the table leads to. -/
theorem leads_incrementUsage {after : Outcomes Error Unit}
    (failed : ∀ e, store.load disk = .error e → after.failed e disk)
    (absent : ∀ table, store.load disk = .ok table → table.get? name = none → after.done () disk)
    (saves : ∀ table entry, store.load disk = .ok table → table.get? name = some entry →
      (store.save (table.insert name entry.used)).Leads disk after) :
    (store.incrementUsage name).Leads disk after := by
  refine Work.leads_ask_bind (fun table loaded => ?_) failed
  cases found : table.get? name with
  | none => exact Work.leads_tell (absent table loaded found)
  | some entry =>
      exact (saves table entry loaded found).bind (fun _ _ => Work.leads_tell) (fun _ _ => id)
        fun _ => id

end Store

/-- A promotion that names the agent of its entry registers the entry under that name. -/
theorem Promotion.register_of_named {promotion : Promotion}
    (named : promotion.name = .text promotion.entry.agentName) (table : Registry) :
    promotion.register table = .ok (table.insert promotion.entry.agentName promotion.entry) := by
  unfold Promotion.register
  rw [named]
  rfl

end AgentFlow
