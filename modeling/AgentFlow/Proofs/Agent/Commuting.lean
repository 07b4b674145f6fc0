import AgentFlow.Proofs.Agent.Deeds

/-!
# Operations that commute

Operations on different agents may be done in either order.  What an operation is told about the
disk is left alone by the deed of another one, so it does the same deed before it and after it;
and deeds that edit different files and different entries give the same in either order.
-/

namespace AgentFlow

open AgentFlow.Text

namespace Deed

/-- The entry of a name afterwards. -/
def entry (name : String) (old : Option Entry) : Deed → Option Entry
  | .moved _ _ _ registered => if name = registered.agentName then some registered else old
  | .counted agent => if name = agent then old.map Entry.used else old
  | .nothing | .removed _ => old

end Deed

namespace Store

variable {store : Store} {disk later : Disk} {journal : Path} {operation : Operation}
  {answer : Option Answer} {deed : Deed} {table : Registry} {name : String}

theorem Does.runs (journalPath : store.journalPath = .ok journal) (tidy : store.Tidy disk)
    (loaded : store.load disk = .ok table)
    (room : disk.nodes.length + store.growth < Work.serials)
    (does : store.Does journal disk operation answer deed) :
    store.Runs journal disk operation answer deed := by
  cases operation with
  | promote today name newName => exact runs_promote journalPath tidy loaded room does
  | deleteTemporary name => exact runs_deleteTemporary tidy does
  | incrementUsage name => exact runs_incrementUsage tidy room does
  | recover => cases does
  | load => cases does
  | get name => cases does
  | listDefined => cases does
  | listTemporary => cases does

section About

variable {today : Date} {newName : Option String}

end About

/-! ## What an operation does again -/

section Again

variable {other : Operation} {done : Deed} {today : Date} {newName : Option String}

theorem Follows.untouched {directory : Path} (journalPath : store.journalPath = .ok journal)
    (identifier : isIdentifier name = true)
    (notRegistry : disk.destination (definitionPath directory name) ≠
      disk.destination store.registryPath)
    (left : ¬done.Edits (disk.destination (definitionPath directory name))) :
    ¬(disk.destination (definitionPath directory name) = disk.destination journal ∨
      disk.destination (definitionPath directory name) = disk.destination store.registryPath ∨
        done.Edits (disk.destination (definitionPath directory name))) := by
  rintro (journal | registry | edits)
  · exact journal_ne_definition journalPath disk identifier journal.symm
  · exact notRegistry registry
  · exact left edits

end Again

/-! ## Either order -/

section Either

variable {first second : Operation} {done other : Deed} {one two : Option Answer}
  {today otherDay : Date} {newName otherName : Option String} {agent : String}

end Either

/-! ## Operations on different agents -/

end Store

end AgentFlow
