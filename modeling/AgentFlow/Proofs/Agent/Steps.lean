import AgentFlow.Proofs.Agent.Protocol
import AgentFlow.Proofs.Agent.Replay

/-!
# The steps that a call takes

Promotions, recoveries and counting take the disk through the phases by the steps of the
protocol only, whatever their changes meet.  A recovery that comes to its end ends where
there is no journal.
-/

namespace AgentFlow

namespace Layout

variable {l : Layout} {may : l.Situation → Prop} {x : l.Situation} {promotion : Promotion} {later : Disk}

/-! ## Walks -/

/-- Steps lead to a disk. -/
def Reached (may : l.Situation → Prop) (x : l.Situation) (goal : l.Situation → Prop) (disk : Disk) :
    Prop :=
  ∃ y : l.Situation, y.disk = disk ∧ goal y ∧ l.Steps may x y

/-- Work that takes steps.  The goal is reached if the work comes to its end. -/
def walk {ε α : Type} (may : l.Situation → Prop) (x : l.Situation) (goal : α → l.Situation → Prop) :
    Outcomes ε α where
  done := fun a => Reached may x (goal a)
  failed := fun _ => Reached may x fun _ => True
  stopped := Reached may x fun _ => True

section Walks

variable {ε α β : Type}

theorem Reached.refl : Reached may x (fun _ => True) x.disk := ⟨x, rfl, trivial, .refl⟩

theorem leads_bind {first : Work ε α} {next : α → Work ε β} {middle : α → l.Situation → Prop}
    {goal : β → l.Situation → Prop} (leads : first.Leads x.disk (walk may x middle))
    (goesOn : ∀ a y, middle a y → (next a).Leads y.disk (walk may y goal)) :
    (first >>= next).Leads x.disk (walk may x goal) := by
  refine leads.bind ?_ (fun _ _ => id) fun _ => id
  rintro a _ ⟨y, rfl, reached, steps⟩
  refine (goesOn a y reached).mono ?_ ?_ ?_
  · rintro b _ ⟨z, rfl, atGoal, more⟩
    exact ⟨z, rfl, atGoal, steps.trans more⟩
  · rintro _ _ ⟨z, rfl, _, more⟩
    exact ⟨z, rfl, trivial, steps.trans more⟩
  · rintro _ ⟨z, rfl, _, more⟩
    exact ⟨z, rfl, trivial, steps.trans more⟩

theorem leads_ask {question : Disk → Except ε α} {next : α → Work ε β}
    {goal : β → l.Situation → Prop}
    (goesOn : ∀ a, question x.disk = .ok a → (next a).Leads x.disk (walk may x goal)) :
    (Work.ask question >>= next).Leads x.disk (walk may x goal) :=
  Work.leads_ask_bind goesOn fun _ _ => .refl

theorem leads_ofExcept {result : Except ε α} {next : α → Work ε β} {goal : β → l.Situation → Prop}
    (goesOn : ∀ a, result = .ok a → (next a).Leads x.disk (walk may x goal)) :
    (Work.ofExcept result >>= next).Leads x.disk (walk may x goal) :=
  Work.leads_ofExcept_bind goesOn fun _ _ => .refl

theorem leads_answer {a : α} {goal : α → l.Situation → Prop} (atGoal : goal a x) :
    (pure a : Work ε α).Leads x.disk (walk may x goal) :=
  Work.leads_pure ⟨x, rfl, atGoal, .refl⟩

end Walks

theorem Reached.ofSpares (spares : l.Spares Nothing x.disk later) :
    Reached may x (fun y => y.phase = x.phase) later := by
  let y : l.Situation := {
    phase := x.phase
    disk := later
    stands := {
      current := spares.keeps.current.trans x.stands.current
      registry := x.stands.registry_spared spares nofun
      phase := x.stands.phase.spared spares aside_nothing } }
  exact ⟨y, rfl, rfl, .single (.aside rfl spares)⟩

theorem Reached.any {goal : l.Situation → Prop} {disk : Disk} (reached : Reached may x goal disk) :
    Reached may x (fun _ => True) disk := by
  obtain ⟨y, same, _, steps⟩ := reached
  exact ⟨y, same, trivial, steps⟩

theorem Reached.ofFurnished {ways : Location → Prop}
    (furnished : Disk.Furnished ways x.disk later) : Reached may x (fun _ => True) later :=
  (Reached.ofSpares (.ofFurnished furnished)).any

theorem Reached.ofLittered {ways : Location → Prop} {path : Path} {between : Disk}
    (beside : path = l.journal ∨ path = l.store.registryPath)
    (furnished : Disk.Furnished ways x.disk between) (littered : Work.Littered path between later) :
    Reached may x (fun _ => True) later := by
  have current := furnished.current.trans x.stands.current
  exact (Reached.ofSpares ((Spares.ofFurnished furnished).trans
    (.ofLittered current beside littered))).any

theorem Situation.spares_written {ways : Location → Prop} {path : Path} {text : String}
    {between : Disk} (furnished : Disk.Furnished ways x.disk between)
    (written : Work.Written path text between later) :
    l.Spares (· = l.place path) x.disk later ∧ later.node? (l.place path) = some (.file (.text text)) := by
  obtain ⟨alters, noDirectory⟩ :=
    alters_written (furnished.current.trans x.stands.current) written
  exact ⟨(Spares.ofFurnished furnished).trans (.ofAlters alters noDirectory), alters.here⟩

/-! ## The journal -/

theorem leads_writeJournal {table : Registry} (allowed : may x)
    (belongs : l.Belongs promotion) (reaches : x.disk.Reaches promotion.source)
    (holds : l.Holds x.disk promotion.source) (loaded : l.store.load x.disk = .ok table)
    (absent : table.contains promotion.entry.agentName = false) :
    (l.store.writeJournal promotion).Leads x.disk
      (walk may x fun _ y => y.phase = .waiting promotion) := by
  rw [Store.writeJournal_eq l.journalPath]
  refine .mapFault ((Work.leads_atomicWrite x.disk _ _).mono ?_ ?_ ?_)
  · rintro _ later ⟨between, furnished, written⟩
    obtain ⟨spares, atJournal⟩ := x.spares_written furnished written
    obtain ⟨name, identifier, source⟩ := belongs.source
    have journals : l.Journals promotion later :=
      ⟨belongs, written.reaches, atJournal, spares.keeps.reaches reaches⟩
    have still : l.Holds later promotion.source := by
      rw [source] at holds ⊢
      exact (spares.holds (l.lasting_definition identifier)
        (Ne.symm (l.journalPlace_ne_definition identifier))).mpr holds
    let y : l.Situation := {
      phase := .waiting promotion
      disk := later
      stands := {
        current := spares.keeps.current.trans x.stands.current
        registry := x.stands.registry_spared spares l.registryPlace_ne_journalPlace
        phase := ⟨journals, still⟩ } }
    exact ⟨y, rfl, rfl, .single (.begins allowed rfl loaded absent spares)⟩
  · exact fun _ _ => Reached.ofFurnished
  · rintro later ⟨between, furnished, littered⟩
    exact Reached.ofLittered (.inl rfl) furnished littered

theorem leads_clearJournal (arrived : x.phase = .arrived promotion)
    (listed : l.Lists x.disk promotion.entry.agentName promotion.entry) :
    l.store.clearJournal.Leads x.disk (walk may x fun _ y =>
      y.phase = .idle ∧ l.Lists y.disk promotion.entry.agentName promotion.entry) := by
  have standing := x.stands.phase
  rw [arrived] at standing
  have journals : l.Journals promotion x.disk := standing.1
  have written := journals.atJournal x.stands.current
  rw [Store.clearJournal_eq l.journalPath]
  refine .mapFault ((Work.leads_removeIfThere journals.reaches written).mono ?_ ?_ ?_)
  · intro _ later alters
    have noDirectory := Disk.noDirectory_of_file written
    rw [x.stands.destination] at alters noDirectory
    have spares : l.Spares (· = l.journalPlace) x.disk later := .ofAlters alters noDirectory
    let y : l.Situation := {
      phase := .idle
      disk := later
      stands := {
        current := spares.keeps.current.trans x.stands.current
        registry := x.stands.registry_spared spares l.registryPlace_ne_journalPlace
        phase := by
          rintro ⟨content, found⟩
          rw [alters.here] at found
          cases found } }
    have still : l.Lists y.disk promotion.entry.agentName promotion.entry :=
      (spares.lists (y := y) l.registryPlace_ne_journalPlace).mpr listed
    exact ⟨y, rfl, ⟨rfl, still⟩, .single (.ends arrived rfl listed spares)⟩
  · rintro _ _ rfl
    exact .refl
  · rintro _ rfl
    exact .refl

/-! ## The definition -/

/-- The journal of the promotion is there. -/
def Situation.Pending (x : l.Situation) (promotion : Promotion) : Prop :=
  x.phase = .waiting promotion ∨ x.phase = .arrived promotion

theorem Situation.Pending.journals (pending : x.Pending promotion) :
    l.Journals promotion x.disk := by
  have standing := x.stands.phase
  rcases pending with waiting | arrived
  · rw [waiting] at standing
    exact standing.1
  · rw [arrived] at standing
    exact standing.1

theorem Situation.pathExists {path : Path} (reaches : x.disk.Reaches path)
    (holds : l.Holds x.disk path) : x.disk.pathExists path = .ok true := by
  obtain ⟨content, file⟩ := holds
  rw [← x.stands.destination] at file
  exact Disk.pathExists_eq_true_iff.mpr ⟨reaches, Option.isSome_of_eq_some file⟩

theorem Situation.node?_moved {ways : Location → Prop} {content : Content} {between : Disk}
    (furnished : Disk.Furnished ways x.disk between)
    (moved : Work.Moved promotion.source promotion.target content between later)
    (location : Location) :
    later.node? location =
      if location = l.place promotion.target then some (.file content)
      else if location = l.place promotion.source then none
      else between.node? location :=
  Layout.node?_moved (furnished.current.trans x.stands.current) moved location

theorem reached_of_moved {ways : Location → Prop} {content : Content} {between : Disk}
    (waiting : x.phase = .waiting promotion) (furnished : Disk.Furnished ways x.disk between)
    (moved : Work.Moved promotion.source promotion.target content between later) :
    Reached may x (fun y => y.phase = .arrived promotion) later := by
  have standing := x.stands.phase
  rw [waiting] at standing
  have journals : l.Journals promotion x.disk := standing.1
  have node := x.node?_moved furnished moved
  have spares : l.Spares (l.Route promotion) x.disk later := by
    refine ⟨furnished.keeps.trans moved.keeps, fun location _ untouched => ?_⟩
    obtain ⟨notSource, notTarget⟩ := not_or.mp untouched
    rw [node, if_neg notTarget, if_neg notSource]
    exact (furnished.node location).imp_right fun ⟨free, made, _⟩ => ⟨free, made⟩
  have leaves : l.Holds later promotion.source →
      l.place promotion.source = l.place promotion.target := by
    rintro ⟨other, found⟩
    by_contra differs
    rw [node, if_neg differs, if_pos rfl] at found
    cases found
  let y : l.Situation := {
    phase := .arrived promotion
    disk := later
    stands := {
      current := spares.keeps.current.trans x.stands.current
      registry := x.stands.registry_spared spares journals.belongs.registry_untouched
      phase := ⟨journals.spared spares journals.belongs.journal_untouched, moved.reaches,
        ⟨content, (node _).trans (if_pos rfl)⟩, leaves⟩ } }
  exact ⟨y, rfl, rfl, .single (.moves waiting rfl spares)⟩

/-- A definition that was moved to where it is. -/
theorem reached_of_moved_again {ways : Location → Prop} {content : Content} {between : Disk}
    (same : l.place promotion.source = l.place promotion.target)
    (file : x.disk.node? (l.place promotion.target) = some (.file content))
    (furnished : Disk.Furnished ways x.disk between)
    (moved : Work.Moved promotion.source promotion.target content between later) :
    Reached may x (fun y => y.phase = x.phase) later := by
  refine .ofSpares ⟨furnished.keeps.trans moved.keeps, fun location _ _ => ?_⟩
  rw [x.node?_moved furnished moved, same]
  split
  · rename_i here
    rw [here, file]
    exact .inl rfl
  · exact (furnished.node location).imp_right fun ⟨free, made, _⟩ => ⟨free, made⟩

theorem leads_move (pending : x.Pending promotion)
    (isThere : x.disk.pathExists promotion.source = .ok true) :
    (Work.moveFile promotion.source promotion.target).Leads x.disk
      (walk may x fun _ y => y.phase = .arrived promotion) := by
  obtain ⟨_, taken⟩ := Disk.pathExists_eq_true_iff.mp isThere
  obtain ⟨kind, found⟩ := Option.isSome_iff_exists.mp taken
  have standing := x.stands.phase
  rcases pending with waiting | arrived
  · rw [waiting] at standing
    obtain ⟨_, content, file⟩ := standing
    rw [← x.stands.destination] at file
    refine (Work.leads_moveFile file).mono ?_ (fun _ _ => .ofFurnished) fun _ => .ofFurnished
    rintro _ later ⟨between, furnished, moved⟩
    exact reached_of_moved waiting furnished moved
  · rw [arrived] at standing
    obtain ⟨_, _, ⟨content, atTarget⟩, leaves⟩ := standing
    cases kind with
    | directory =>
        -- A directory was made where the definition came from.  It is not moved over the file.
        rw [← x.stands.destination] at atTarget
        refine (Work.leads_moveFile_directory found atTarget).mono (fun _ _ => False.elim) ?_ ?_
        · exact fun _ _ => .ofFurnished
        · exact fun _ => .ofFurnished
    | file other =>
        have here : x.disk.node? (l.place promotion.source) = some (.file other) := by
          rw [← x.stands.destination, found]
        -- Still there means that both paths lead to one place.
        have same := leaves ⟨other, here⟩
        refine (Work.leads_moveFile found).mono ?_ (fun _ _ => .ofFurnished) fun _ => .ofFurnished
        rintro _ later ⟨between, furnished, moved⟩
        rw [← arrived]
        exact reached_of_moved_again same (same ▸ here) furnished moved

/-! ## The table -/

/-- A table is saved in any phase, and the phase stays. -/
theorem leads_save {table : Registry} (wellFormed : table.WellFormed) :
    (l.store.save table).Leads x.disk
      ⟨fun _ later => ∃ y : l.Situation, y.disk = later ∧ y.phase = x.phase ∧
          l.Saves table x.disk y.disk,
        fun _ => Reached may x fun _ => True, Reached may x fun _ => True⟩ := by
  refine (Store.leads_save table).mono ?_ ?_ ?_
  · rintro _ later ⟨short, between, furnished, written⟩
    have spares := (x.spares_written furnished written).1
    let y : l.Situation := {
      phase := x.phase
      disk := later
      stands := {
        current := spares.keeps.current.trans x.stands.current
        registry := fun _ => written.reaches
        phase := x.stands.phase.spared spares aside_registryPlace } }
    exact ⟨y, rfl, rfl, Store.load_of_written wellFormed short written, spares⟩
  · exact fun _ _ => .ofFurnished
  · rintro later ⟨between, furnished, littered⟩
    exact .ofLittered (.inr rfl) furnished littered

theorem leads_enroll (arrived : x.phase = .arrived promotion) :
    (l.store.enroll promotion).Leads x.disk (walk may x fun _ y =>
      y.phase = .arrived promotion ∧
        l.Lists y.disk promotion.entry.agentName promotion.entry) := by
  have told := (Situation.Pending.journals (.inr arrived)).belongs.told
  refine Store.leads_enroll told.named (fun _ => .refl) fun table loaded => ?_
  have wellFormed := (Store.wellFormed_of_load loaded).insert told.entry
  refine (leads_save wellFormed).mono ?_ (fun _ _ => id) fun _ => id
  rintro _ _ ⟨y, rfl, phase, saves⟩
  rw [arrived] at phase
  refine ⟨y, rfl, ⟨phase, ?_⟩, .single (.enrolls arrived phase loaded saves)⟩
  rw [saves.lists_iff loaded, if_pos rfl]

/-! ## Calls -/

theorem leads_applyPromotion (pending : x.Pending promotion) :
    (l.store.applyPromotion promotion).Leads x.disk (walk may x fun _ y =>
      y.phase = .arrived promotion ∧
        l.Lists y.disk promotion.entry.agentName promotion.entry) := by
  rw [Store.applyPromotion_eq]
  refine leads_ask fun isThere asked => ?_
  rw [Store.asks_eq_ok_iff] at asked
  split
  · rename_i yes
    subst yes
    refine leads_bind (.mapFault (leads_move pending asked)) ?_
    exact fun _ y arrived => leads_enroll arrived
  · rename_i no
    rcases pending with waiting | arrived
    · have standing := x.stands.phase
      rw [waiting] at standing
      obtain ⟨journals, holds⟩ := standing
      rw [x.pathExists journals.source holds] at asked
      exact absurd (Eq.symm (Except.ok.inj asked)) no
    · exact leads_enroll arrived

theorem leads_complete {record : Log.Record} (pending : x.Pending promotion) :
    (do
      l.store.applyPromotion promotion
      l.store.clearJournal
      Work.tell record
      return true : Work Error Bool).Leads x.disk (walk may x fun _ y =>
        y.phase = .idle ∧ l.Lists y.disk promotion.entry.agentName promotion.entry) := by
  refine leads_bind (leads_applyPromotion pending) ?_
  rintro _ y ⟨arrived, listed⟩
  refine leads_bind (leads_clearJournal arrived listed) ?_
  exact fun _ z complete => Work.leads_tell_bind (leads_answer complete)

theorem leads_promote {today : Date} {name : String} {newName : Option String}
    (allowed : ∀ promotion,
      l.store.intend today name newName x.disk = .ok (.ok promotion) → may x) :
    (l.store.promote today name newName).Leads x.disk (walk may x fun _ _ => True) := by
  refine Store.leads_promote (fun _ => .refl) ⟨x, rfl, trivial, .refl⟩ fun promotion decided => ?_
  obtain ⟨intends, _⟩ := Store.intends_of_intend decided
  obtain ⟨reaches, content, file⟩ := Disk.isFile_eq_true_iff.mp intends.isFile
  obtain ⟨table, loaded, absent⟩ := intends.loaded
  rw [x.stands.destination] at file
  refine leads_bind (leads_writeJournal (allowed promotion decided) (belongs_of_intends intends)
    reaches ⟨content, file⟩ loaded absent) ?_
  intro _ y waiting
  exact (leads_complete (.inl waiting)).mono (fun _ _ => .any) (fun _ _ => id) fun _ => id

theorem Situation.Pending.remains (pending : x.Pending promotion) {remains : Bool}
    (asked : Store.definitionRemains promotion x.disk = .ok remains) : remains = true := by
  have standing := x.stands.phase
  obtain ⟨isThere, exists_, asked⟩ := bind_eq_ok_iff.mp asked
  rw [Store.asks_eq_ok_iff] at exists_
  cases isThere with
  | true => exact Eq.symm (Except.ok.inj asked)
  | false =>
      rw [if_neg (by decide), Store.asks_eq_ok_iff] at asked
      rcases pending with waiting | arrived
      · rw [waiting] at standing
        obtain ⟨journals, holds⟩ := standing
        rw [x.pathExists journals.source holds] at exists_
        cases exists_
      · rw [arrived] at standing
        obtain ⟨_, reaches, holds, _⟩ := standing
        rw [x.pathExists reaches holds] at asked
        exact Eq.symm (Except.ok.inj asked)

theorem Situation.Pending.read (pending : x.Pending promotion) :
    Promotion.read x.disk l.journal = .ok promotion :=
  pending.journals.read x.stands.current

theorem Situation.idle_or_pending (x : l.Situation) :
    x.phase = .idle ∨ ∃ promotion, x.Pending promotion := by
  cases phase : x.phase with
  | idle => exact .inl rfl
  | waiting promotion => exact .inr ⟨promotion, .inl phase⟩
  | arrived promotion => exact .inr ⟨promotion, .inr phase⟩

/-- A journal that can be read is a file. -/
theorem holds_of_read {disk : Disk} (current : disk.current = l.start.current)
    (read : Promotion.read disk l.journal = .ok promotion) : l.Holds disk l.journal := by
  obtain ⟨_, content, file⟩ := Promotion.file_of_read read
  rw [Disk.destination_of_current current] at file
  exact ⟨content, file⟩

/-- A recovery that comes to its end leaves no journal, and what the journal told of is
registered. -/
theorem leads_recover : l.store.recover.Leads x.disk (walk may x fun _ y =>
    y.phase = .idle ∧ ∀ promotion, x.Pending promotion →
      l.Lists y.disk promotion.entry.agentName promotion.entry) := by
  rcases x.idle_or_pending with idle | ⟨promotion, pending⟩
  · have standing := x.stands.phase
    rw [idle] at standing
    have unread {promotion : Promotion} (read : Promotion.read x.disk l.journal = .ok promotion) :
        False := standing (holds_of_read x.stands.current read)
    refine Store.leads_recover l.journalPath (fun _ => .refl) (fun _ => ?_) fun _ read =>
      (unread read).elim
    exact ⟨x, rfl, ⟨idle, fun _ pending => (unread pending.read).elim⟩, .refl⟩
  · have journals := pending.journals
    have isThere := x.pathExists journals.reaches ⟨_, journals.written⟩
    refine Store.leads_recover l.journalPath (fun _ => .refl) ?_ ?_
    · intro isGone
      cases isGone.symm.trans isThere
    · intro read isRead
      obtain rfl : promotion = read := Except.ok.inj (pending.read.symm.trans isRead)
      refine Store.leads_resume (fun _ => .refl) ?_ fun record _ => ?_
      · intro isDropped
        cases pending.remains isDropped
      · refine (leads_complete pending).mono ?_ (fun _ _ => id) fun _ => id
        rintro _ _ ⟨y, rfl, ⟨idle, listed⟩, steps⟩
        refine ⟨y, rfl, ⟨idle, fun other isPending => ?_⟩, steps⟩
        rwa [← Except.ok.inj (pending.read.symm.trans isPending.read)]

/-- A use is counted, or the agent is not registered and nothing happens. -/
theorem leads_incrementUsage {name : String} : (l.store.incrementUsage name).Leads x.disk
    ⟨fun _ later => ∃ y : l.Situation, y.disk = later ∧
        (l.Counts name x y ∨ y = x ∧ ∀ entry, ¬l.Lists x.disk name entry),
      fun _ => Reached may x fun _ => True, Reached may x fun _ => True⟩ := by
  refine Store.leads_incrementUsage (fun _ _ => .refl) (fun table loaded absent => ?_)
    fun table entry loaded found => ?_
  · refine ⟨x, rfl, .inr ⟨rfl, ?_⟩⟩
    rintro entry ⟨other, loadedAgain, found⟩
    rw [← Except.ok.inj (loaded.symm.trans loadedAgain), absent] at found
    cases found
  · have wellFormed := (Store.wellFormed_of_load loaded).insert_used found
    refine (leads_save wellFormed).mono ?_ (fun _ _ => id) fun _ => id
    rintro _ _ ⟨y, rfl, phase, saves⟩
    exact ⟨y, rfl, .inl ⟨phase, table, entry, loaded, found, saves⟩⟩

end Layout

end AgentFlow
