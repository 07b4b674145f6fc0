import AgentFlow.Proofs.Agent.Malformed
import AgentFlow.Proofs.Agent.Replay
import AgentFlow.Proofs.Files.Moving
import AgentFlow.Proofs.Files.Refusal

/-!
# How malformed files surface

Loading a table and recovering a promotion read files that other programs may have written.
Without mishaps both give an answer, or an error of the registry file, or a fault that is
unforeseen in the content of the journal or of the file that is loaded.
-/

namespace AgentFlow

open AgentFlow.Text

/-- An error of the registry file, or one of some other faults. -/
def Error.Surfaces (faults : Fault → Prop) (error : Error) : Prop :=
  error.kind? = some .registryFile ∨ ∃ fault, faults fault ∧ error = .unexpected fault

theorem Error.Surfaces.mono {faults others : Fault → Prop} {error : Error}
    (surfaces : error.Surfaces faults) (wider : ∀ fault, faults fault → others fault) :
    error.Surfaces others :=
  surfaces.imp_right fun ⟨fault, isFault, same⟩ => ⟨fault, wider fault isFault, same⟩

namespace Store

variable {store : Store} {disk later : Disk} {error : Error} {journal : Path} {table : Registry}
  {promotion : Promotion} {content : Content}

/-! ## Loading -/

/-- Where the registry is, the journal can be. -/
theorem journal_reaches (journalPath : store.journalPath = .ok journal)
    (fits : Disk.Fits journal) (reaches : disk.Reaches store.registryPath) :
    disk.Reaches journal := by
  obtain ⟨named, shape⟩ := journal_eq journalPath
  obtain ⟨reachesParent, directory⟩ := reaches.parent named
  rw [shape] at fits ⊢
  exact reachesParent.child directory fits

/-- What a recovery has read, and where it stands. -/
structure Recovering (store : Store) (journal : Path) (disk : Disk) (content : Content)
    (promotion : Promotion) : Prop where
  journalPath : store.journalPath = .ok journal
  reaches : disk.Reaches journal
  file : disk.node? (disk.destination journal) = some (.file content)
  read : Promotion.read disk journal = .ok promotion
  readFrom : Promotion.ReadFrom content promotion

theorem Recovering.fits (recovering : store.Recovering journal disk content promotion) :
    Disk.Fits store.registryPath :=
  (registry_reaches recovering.journalPath recovering.reaches).fits

end Store

end AgentFlow
