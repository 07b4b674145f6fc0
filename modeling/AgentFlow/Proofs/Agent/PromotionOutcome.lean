import AgentFlow.Proofs.Agent.Commit
import AgentFlow.Proofs.Agent.Guards

/-!
# What a promotion does

Past its guards a promotion moves the definition as it is, puts one entry at the end of the
registry and leaves no journal; or an access to files has failed.
-/

namespace AgentFlow

open AgentFlow.Text

/-! ## Accesses that fail -/

namespace Store

variable {store : Store} {disk later : Disk} {touched : Location → Prop} {name : String}
  {table : Registry} {journal : Path} {promotion : Promotion} {content : Content} {nul : Prop}

/-- What is loaded as long as the registry file is left alone is what was loaded before. -/
theorem load_left {after : Registry} (seen : disk.Seen store.registryPath)
    (leaves : Disk.Leaves touched disk later)
    (untouched : ¬touched (disk.destination store.registryPath))
    (loaded : store.load disk = .ok table) (loadedLater : store.load later = .ok after) :
    after = table := by
  have destination := @Disk.destination_of_current disk later leaves.keeps.current
    store.registryPath
  by_cases file : ∃ content,
      disk.node? (disk.destination store.registryPath) = some (.file content)
  · obtain ⟨content, file⟩ := file
    have reaches := seen content file
    rw [load_of_reaches reaches, file] at loaded
    rw [load_of_reaches (leaves.keeps.reaches reaches), destination,
      (leaves.file _ content untouched).mpr file, loaded] at loadedLater
    exact (Except.ok.inj loadedLater).symm
  · have empty : table = [] := (file_of_load loaded).resolve_right fun there => file there.2
    rw [empty]
    refine (file_of_load loadedLater).resolve_right ?_
    rintro ⟨_, content, fileLater⟩
    rw [destination] at fileLater
    exact file ⟨content, (leaves.file _ content untouched).mp fileLater⟩

section Commit

variable (journalPath : store.journalPath = .ok journal)
  (intends : store.Intends name disk promotion)
  (separate : store.Separate name promotion.entry.agentName disk)

include journalPath intends separate

/-- What moving the definition leads to. -/
theorem Journalled.leads_move (journalled : store.Journalled journal disk later)
    (file : disk.node? (disk.destination promotion.source) = some (.file content)) :
    (Work.moveFile promotion.source promotion.target).Leads later
      (.atEnd fun _ moved => store.Underway journal promotion content disk moved) := by
  refine (Work.leads_moveFile (journalled.still journalPath intends file)).atEnd.weaken ?_
  rintro _ moved ⟨paved, furnished, isMoved⟩
  exact journalled.moved journalPath intends separate furnished isMoved

theorem Underway.leads_enroll (underway : store.Underway journal promotion content disk later)
    (loaded : store.load disk = .ok table) :
    (store.enroll promotion).Leads later
      (.atEnd fun _ last => store.Enrolled journal promotion content table disk last) := by
  refine Store.leads_enroll intends.named (fun _ => trivial) fun after asked => ?_
  obtain rfl : after = table := load_left separate.registry underway.reshapes.leaves
    (Underway.registry_untouched journalPath intends separate) loaded asked
  refine (leads_save _).atEnd.weaken ?_
  rintro _ last ⟨short, between, furnished, written⟩
  have wellFormed := (wellFormed_of_load loaded).insert intends.isFor
  exact underway.saved journalPath intends separate furnished written
    (.ofWritten wellFormed short written)

omit separate

include separate

end Commit

/-! ## What may fail -/

section Commit

variable (journalPath : store.journalPath = .ok journal)
  (intends : store.Intends name disk promotion)
  (separate : store.Separate name promotion.entry.agentName disk)

include journalPath intends separate

end Commit

/-! ## The whole of a promotion -/

section Outcome

variable {before : Disk} {today : Date} {target description text : String}
  {newName : Option String} {machine : Machine}

end Outcome

end Store

end AgentFlow
