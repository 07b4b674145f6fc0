import AgentFlow.Proofs.Agent.Progress

/-!
# Crash safety of promotion

A promotion that is stopped anywhere, and then any number of recoveries that are stopped
anywhere, leave a disk on which one recovery that comes to its end decides: either
nothing is done, or all is done that the promotion would have done.
-/

namespace AgentFlow

namespace Store

/-- The disk after some recoveries, each of which meets its own mishaps. -/
def recoverAll (store : Store) : Disk → List (List Mishap) → Disk :=
  List.foldl fun disk mishaps => (store.recover ⟨disk, mishaps, [], []⟩).2.disk

/-- The journal of a promotion was in place when the promotion ended. -/
def Begun (journal : Path) (crashed : Except (Halt Error) Bool × Machine) : Prop :=
  crashed.1 = .ok true ∨ crashed.2.disk.node? (crashed.2.disk.destination journal) ≠ none

/-- Two disks that are the same up to what interruptions may leave where nothing stood. -/
structure Alike (store : Store) (target journal : Path) (before disk later : Disk) : Prop where
  current : later.current = disk.current
  node : ∀ location, later.node? location = disk.node? location ∨
    before.node? location = none ∧
      store.Leftover target journal before location (disk.node? location) ∧
      store.Leftover target journal before location (later.node? location)

/-- A disk on which a promotion is done as it was on another one. -/
structure Completed (store : Store) (source target journal : Path)
    (before complete disk : Disk) : Prop where
  alike : store.Alike target journal before complete disk
  table : ∃ table, store.load complete = .ok table ∧ store.load disk = .ok table
  definition : ∃ content,
    complete.node? (complete.destination target) = some (.file content) ∧
      disk.node? (disk.destination target) = some (.file content)
  moved : before.destination source ≠ before.destination target →
    disk.node? (disk.destination source) = none
  noJournal : disk.node? (disk.destination journal) = none

theorem recoverAll_of_gone {store : Store} {journal : Path} {disk : Disk}
    (journalPath : store.journalPath = .ok journal)
    (isGone : disk.pathExists journal = .ok false) (runs : List (List Mishap)) :
    store.recoverAll disk runs = disk := by
  induction runs with
  | nil => rfl
  | cons mishaps runs induction =>
      have nothing := @recover_of_gone store journal ⟨disk, mishaps, [], []⟩ journalPath isGone
      rw [recoverAll, List.foldl_cons, nothing]
      exact induction

theorem recoverAll_cons_of_read {store : Store} {journal : Path} {disk : Disk}
    {promotion : Promotion} {mishaps : List Mishap} {runs : List (List Mishap)}
    (journalPath : store.journalPath = .ok journal)
    (read : Promotion.read disk journal = .ok promotion) :
    store.recoverAll disk (mishaps :: runs) =
      store.recoverAll (store.resume promotion ⟨disk, mishaps, [], []⟩).2.disk runs := by
  have resumes := @recover_of_read store journal ⟨disk, mishaps, [], []⟩ promotion journalPath read
  rw [recoverAll, List.foldl_cons, resumes]

end Store

namespace Undertaking

variable {u : Undertaking} {view : View} {disk later complete : Disk}

/-! ## Disks of the same stage -/

theorem Grown.alike (grown : u.Grown view disk) (other : u.Grown view later) :
    u.store.Alike u.promotion.target u.journal u.before disk later where
  current := other.keeps.current.trans grown.keeps.current.symm
  node := fun location => by
    rcases grown.node location with same | ⟨free, nothing, leftover⟩
    · rcases other.node location with sameLater | ⟨free, nothing, leftover⟩
      · exact Or.inl (sameLater.trans same.symm)
      · refine Or.inr ⟨nothing, ?_, leftover⟩
        rw [same, free]
        trivial
    · rcases other.node location with sameLater | ⟨_, _, leftoverLater⟩
      · refine Or.inr ⟨nothing, leftover, ?_⟩
        rw [sameLater, free]
        trivial
      · exact Or.inr ⟨nothing, leftover, leftoverLater⟩

theorem StandsAt.load {table : Registry} (stands : u.StandsAt (u.finished table) disk)
    (loads : u.Loads table) : u.store.load disk = .ok (u.registered table) := by
  have written : u.finished table u.registryPlace =
      some (.file (.text (u.registered table).fileText)) := by
    rw [finished, View.set_elsewhere (Ne.symm u.journalPlace_ne_registryPlace), tabled,
      View.set_here]
  have node := stands.grown.node?_of_some written
  rw [Store.load_of_reaches (Store.registry_reaches u.journalPath stands.journal),
    Disk.destination_of_current stands.grown.keeps.current]
  exact (congrArg (Registry.ofNode u.store.registryPath) node).trans loads.reloaded

/-- A promotion ends in one way only. -/
theorem Finished.completed (finished : u.Finished complete) (other : u.Finished disk) :
    u.store.Completed u.promotion.source u.promotion.target u.journal u.before complete disk := by
  obtain ⟨table, loads, stands, _⟩ := finished
  obtain ⟨sameTable, otherLoads, otherStands, gone⟩ := other
  obtain rfl := loads.unique otherLoads
  have atTarget : ∃ content, u.finished table u.targetPlace = some (.file content) := by
    obtain ⟨content, tabled⟩ := (Replayable.afterTable loads).targetPlace
    refine ⟨content, ?_⟩
    rw [Undertaking.finished, View.set_elsewhere (Ne.symm u.journalPlace_ne_targetPlace), tabled]
  obtain ⟨content, atTarget⟩ := atTarget
  refine ⟨stands.grown.alike otherStands.grown, ?_, ?_, ?_, ?_⟩
  · exact ⟨_, stands.load loads, otherStands.load loads⟩
  · rw [Disk.destination_of_current stands.grown.keeps.current,
      Disk.destination_of_current otherStands.grown.keeps.current]
    exact ⟨content, stands.grown.node?_of_some atTarget,
      otherStands.grown.node?_of_some atTarget⟩
  · intro differs
    rw [Disk.destination_of_current otherStands.grown.keeps.current]
    refine otherStands.grown.node?_sourcePlace ?_
    rw [Undertaking.finished, View.set_elsewhere (Ne.symm u.journalPlace_ne_sourcePlace)]
    exact (Replayable.afterTable loads).sourcePlace differs
  · rw [Disk.destination_of_current otherStands.grown.keeps.current]
    exact gone

/-! ## Journals that are gone -/

theorem Finished.isGone (finished : u.Finished disk) : disk.pathExists u.journal = .ok false := by
  obtain ⟨table, loads, stands, gone⟩ := finished
  rw [Disk.pathExists_of_reaches stands.journal,
    Disk.destination_of_current stands.grown.keeps.current]
  exact congrArg (fun node : Option Node => Except.ok node.isSome) gone

/-- Where nothing is done, nothing stands at the place of the journal. -/
theorem Finished.isGone_untouched (finished : u.Finished complete)
    (untouched : u.Grown u.before.node? disk) : disk.pathExists u.journal = .ok false := by
  have nothing := (finished.node?_journalPlace untouched).trans u.noJournal
  obtain ⟨_, _, stands, _⟩ := finished
  obtain ⟨answer, answered⟩ := @Disk.pathExists_of_fits disk u.journal stands.journal.fits
  cases answer with
  | false => exact answered
  | true =>
      have taken := (Disk.pathExists_eq_true_iff.mp answered).2
      rw [Disk.destination_of_current untouched.keeps.current] at taken
      change (disk.node? u.journalPlace).isSome = true at taken
      rw [nothing] at taken
      cases taken

/-! ## Recoveries -/

theorem Pending.recoverAll (pending : u.Pending disk) (runs : List (List Mishap)) :
    u.Pending (u.store.recoverAll disk runs) ∨ u.Finished (u.store.recoverAll disk runs) := by
  induction runs generalizing disk with
  | nil => exact Or.inl pending
  | cons mishaps runs induction =>
      have holds := pending.leads_recover ⟨disk, mishaps, [], []⟩ rfl
      rw [Store.recoverAll, List.foldl_cons]
      rcases ended : u.store.recover ⟨disk, mishaps, [], []⟩ with ⟨(e | _) | done, later⟩
      · rw [ended] at holds
        exact induction holds
      · rw [ended] at holds
        exact induction holds
      · rw [ended] at holds
        have finished : u.Finished later.disk := holds.2
        have same := Store.recoverAll_of_gone u.journalPath finished.isGone runs
        refine Or.inr ?_
        rw [Store.recoverAll] at same
        rw [same]
        exact finished

/-- A recovery that is not stopped gives an answer. -/
theorem Finished.completes_recover (finished : u.Finished complete)
    (stage : disk.pathExists u.journal = .ok false ∨ u.Pending disk)
    (room : disk.nodes.length + u.promotion.target.parts.length + 1 < Work.serials) :
    ∃ done last, u.store.recover (Machine.ofDisk disk) = (.ok done, last) := by
  rcases stage with isGone | pending
  · exact ⟨false, Machine.ofDisk disk, Store.recover_of_gone u.journalPath isGone⟩
  · obtain ⟨done, last, ended, _⟩ :=
      pending.completes_recover finished room (Machine.ofDisk disk) rfl rfl
    exact ⟨done, last, ended⟩

/-- From where nothing is done, recoveries do nothing. -/
theorem Finished.crash_untouched (finished : u.Finished complete)
    (untouched : u.Grown u.before.node? disk) (runs : List (List Mishap))
    {mishaps : List Mishap} {done : Bool} {last : Machine}
    (ended : u.store.recover ⟨u.store.recoverAll disk runs, mishaps, [], []⟩ = (.ok done, last)) :
    u.store.Alike u.promotion.target u.journal u.before u.before last.disk ∧
      last.disk.pathExists u.journal = .ok false := by
  have isGone := finished.isGone_untouched untouched
  rw [Store.recoverAll_of_gone u.journalPath isGone,
    @Store.recover_of_gone _ _ ⟨disk, mishaps, [], []⟩ u.journalPath isGone] at ended
  cases ended
  have start : u.Grown u.before.node? u.before :=
    ⟨Disk.Keeps.refl u.before, fun _ => Or.inl rfl⟩
  exact ⟨start.alike untouched, isGone⟩

/-- From where the journal is in place, recoveries lead to the end of the promotion. -/
theorem Finished.crash_pending (finished : u.Finished complete)
    (stage : u.Finished disk ∨ u.Pending disk) (runs : List (List Mishap))
    {mishaps : List Mishap} {done : Bool} {last : Machine}
    (ended : u.store.recover ⟨u.store.recoverAll disk runs, mishaps, [], []⟩ = (.ok done, last)) :
    u.store.Completed u.promotion.source u.promotion.target u.journal u.before complete last.disk ∧
      last.disk.pathExists u.journal = .ok false := by
  have recovered : u.Pending (u.store.recoverAll disk runs) ∨
      u.Finished (u.store.recoverAll disk runs) := by
    rcases stage with finishedNow | pending
    · rw [Store.recoverAll_of_gone u.journalPath finishedNow.isGone]
      exact Or.inr finishedNow
    · exact pending.recoverAll runs
  generalize u.store.recoverAll disk runs = started at recovered ended
  have atEnd : u.Finished last.disk := by
    rcases recovered with pending | finishedNow
    · have holds := pending.leads_recover ⟨started, mishaps, [], []⟩ rfl
      rw [ended] at holds
      exact holds.2
    · rw [@Store.recover_of_gone _ _ ⟨started, mishaps, [], []⟩ u.journalPath
        finishedNow.isGone] at ended
      cases ended
      exact finishedNow
  exact ⟨finished.completed atEnd, atEnd.isGone⟩

/-- Whether its journal is in place tells how far a stopped promotion has come. -/
theorem Finished.crashed_stage (finished : u.Finished complete) (stops : List Mishap)
    {crashed : Except (Halt Error) Bool × Machine}
    (ended : u.store.commit u.name u.promotion ⟨u.before, stops, [], []⟩ = crashed) :
    Store.Begun u.journal crashed ∧ (u.Finished crashed.2.disk ∨ u.Pending crashed.2.disk) ∨
      ¬Store.Begun u.journal crashed ∧ u.Grown u.before.node? crashed.2.disk := by
  have holds := u.leads_commit ⟨u.before, stops, [], []⟩ rfl
  rw [ended] at holds
  have early {halt : Halt Error} {later : Machine}
      (stage : u.Grown u.before.node? later.disk ∨ u.Pending later.disk) :
      Store.Begun u.journal (.error halt, later) ∧
          (u.Finished later.disk ∨ u.Pending later.disk) ∨
        ¬Store.Begun u.journal (.error halt, later) ∧ u.Grown u.before.node? later.disk := by
    rcases stage with untouched | pending
    · refine Or.inr ⟨?_, untouched⟩
      rintro (answered | inPlace)
      · cases answered
      · refine inPlace ?_
        rw [Disk.destination_of_current untouched.keeps.current]
        exact (finished.node?_journalPlace untouched).trans u.noJournal
    · refine Or.inl ⟨Or.inr ?_, Or.inr pending⟩
      rw [pending.journal_written]
      exact Option.some_ne_none _
  obtain ⟨(e | _) | done, later⟩ := crashed
  · exact early holds
  · exact early holds
  · exact Or.inl ⟨Or.inl (congrArg Except.ok holds.1), Or.inl holds.2⟩

end Undertaking

namespace Store

variable {store : Store} {before : Disk} {today : Date} {name : String} {newName : Option String}

/-- A promotion that can be done is decided in the same way whatever its changes meet. -/
theorem promote_eq_commit {complete : Machine}
    (promotes : store.promote today name newName (Machine.ofDisk before) = (.ok true, complete)) :
    ∃ promotion, store.Intends name before promotion ∧
      promotion.entry.agentName = promotedName name newName ∧
      ∀ mishaps, store.promote today name newName ⟨before, mishaps, [], []⟩ =
        store.commit name promotion ⟨before, mishaps, [], []⟩ := by
  cases decided : store.intend today name newName before with
  | error e =>
      have failed := @promote_of_error _ _ _ _ (Machine.ofDisk before) _ decided
      cases failed.symm.trans promotes
  | ok answer =>
      cases answer with
      | error record =>
          have declined := @promote_of_record _ _ _ _ (Machine.ofDisk before) _ decided
          cases declined.symm.trans promotes
      | ok promotion =>
          obtain ⟨intends, agentName⟩ := intends_of_intend decided
          refine ⟨promotion, intends, agentName, fun mishaps => ?_⟩
          exact @promote_of_promotion _ _ _ _ ⟨before, mishaps, [], []⟩ _ decided

/-- A promotion that would be done is stopped anywhere, and so are the recoveries after it.
A recovery that ends then leaves nothing done, if the journal was not in place, or all
done as without a stop.  After it there is nothing to recover; and a recovery that meets
no mishap does end, as long as there is a temporary name for the registry. -/
theorem promote_crash_safe (agentsDir : store.agentsDir.IsSpelled)
    (temporaryDir : store.temporaryDir.IsSpelled) {journal : Path}
    (journalPath : store.journalPath = .ok journal)
    (noJournal : before.node? (before.destination journal) = none)
    (apart : before.destination (store.temporaryPath name) ≠
      before.destination store.registryPath) {complete : Machine}
    (promotes : store.promote today name newName (Machine.ofDisk before) = (.ok true, complete))
    (stops : List Mishap) (runs : List (List Mishap)) :
    let source := store.temporaryPath name
    let target := store.definedPath (promotedName name newName)
    let crashed := store.promote today name newName ⟨before, stops, [], []⟩
    let started := store.recoverAll crashed.2.disk runs
    (∀ mishaps done last, store.recover ⟨started, mishaps, [], []⟩ = (.ok done, last) →
      (Begun journal crashed →
        store.Completed source target journal before complete.disk last.disk) ∧
      (¬Begun journal crashed → store.Alike target journal before before last.disk) ∧
      ∀ again : Machine, again.disk = last.disk → store.recover again = (.ok false, again)) ∧
    (started.nodes.length + store.agentsDir.parts.length + 2 < Work.serials →
      ∃ done last, store.recover (Machine.ofDisk started) = (.ok done, last)) := by
  intro source target crashed started
  obtain ⟨promotion, intends, agentName, same⟩ := promote_eq_commit promotes
  obtain ⟨reaches, content, file⟩ := Disk.isFile_eq_true_iff.mp intends.isFile
  let u : Undertaking := {
    store := store
    name := name
    before := before
    promotion := promotion
    journal := journal
    content := content
    intends := intends
    told := Promotion.isTold_of_intends intends agentsDir temporaryDir
    journalPath := journalPath
    reaches := reaches
    file := file
    noJournal := noJournal
    apart := by
      rw [intends.source]
      exact apart }
  have sameSource : source = u.promotion.source := intends.source.symm
  have sameTarget : target = u.promotion.target := by
    rw [show u.promotion.target = _ from intends.target, agentName]
  have finished : u.Finished complete.disk := by
    have holds := u.leads_commit (Machine.ofDisk before) rfl
    rw [show u.store.commit u.name u.promotion (Machine.ofDisk before) = (.ok true, complete) from
      (same []).symm.trans promotes] at holds
    exact holds.2
  have shape : u.promotion.target.parts.length = store.agentsDir.parts.length + 1 := by
    rw [show u.promotion.target = _ from intends.target, definedPath,
      definitionPath_eq intends.targetIsIdentifier, List.length_append, List.length_singleton]
  have again {last : Machine} (isGone : last.disk.pathExists journal = .ok false)
      (machine : Machine) (atLast : machine.disk = last.disk) :
      store.recover machine = (.ok false, machine) :=
    recover_of_gone journalPath (atLast ▸ isGone)
  rw [sameSource, sameTarget]
  rcases finished.crashed_stage stops (same stops).symm with
    ⟨begun, stage⟩ | ⟨notBegun, untouched⟩
  · refine ⟨fun mishaps done last ended => ?_, fun room => ?_⟩
    · obtain ⟨completed, isGone⟩ := finished.crash_pending stage runs ended
      exact ⟨fun _ => completed, fun notBegun => absurd begun notBegun, again isGone⟩
    · refine finished.completes_recover ?_ (by omega)
      rcases stage with finishedNow | pending
      · exact Or.inl (by
          rw [show started = _ from recoverAll_of_gone journalPath finishedNow.isGone runs]
          exact finishedNow.isGone)
      · exact (pending.recoverAll runs).symm.imp_left Undertaking.Finished.isGone
  · refine ⟨fun mishaps done last ended => ?_, fun room => ?_⟩
    · obtain ⟨alike, isGone⟩ := finished.crash_untouched untouched runs ended
      exact ⟨fun begun => absurd begun notBegun, fun _ => alike, again isGone⟩
    · have isGone := finished.isGone_untouched untouched
      refine finished.completes_recover (Or.inl ?_) (by omega)
      rw [show started = _ from recoverAll_of_gone journalPath isGone runs]
      exact isGone

/-! ## A plain store, and stores that are laid out otherwise -/

/-- An agent is promoted under a new name; the program is stopped when the definition is
moved, and then again when the table is written. -/
theorem promote_crash_safe_renamed :
    ∃ complete done last,
      plainStore.promote someDay "a" (some "b")
        (Machine.ofDisk (temporaryDisk [(["temp", "a.md"], .file (.text "A"))])) =
          (.ok true, complete) ∧
      plainStore.recover (Machine.ofDisk (plainStore.recoverAll
        (plainStore.promote someDay "a" (some "b")
          ⟨temporaryDisk [(["temp", "a.md"], .file (.text "A"))],
            List.replicate 8 .none ++ [.stop], [], []⟩).2.disk
        [List.replicate 3 .none ++ [.stop]])) = (.ok done, last) ∧
      plainStore.Completed ⟨0, ["temp", "a.md"]⟩ ⟨0, ["agents", "b.md"]⟩
        ⟨0, ["agents", "r.journal"]⟩ (temporaryDisk [(["temp", "a.md"], .file (.text "A"))])
        complete.disk last.disk := by
  have journalPath : plainStore.journalPath = .ok ⟨0, ["agents", "r.journal"]⟩ := rfl
  have promotes := @eq_of_answer _ (plainStore.promote someDay "a" (some "b")
    (Machine.ofDisk (temporaryDisk [(["temp", "a.md"], .file (.text "A"))]))) true
      (by decide +kernel)
  have safe := promote_crash_safe ⟨by decide, by decide⟩ ⟨by decide, by decide⟩ journalPath
    (by decide +kernel) (by decide +kernel) promotes (List.replicate 8 .none ++ [.stop])
    [List.replicate 3 .none ++ [.stop]]
  have read : Promotion.read (plainStore.promote someDay "a" (some "b")
      ⟨temporaryDisk [(["temp", "a.md"], .file (.text "A"))],
        List.replicate 8 .none ++ [.stop], [], []⟩).2.disk ⟨0, ["agents", "r.journal"]⟩ =
      .ok (somePromotion "a" "b" "") :=
    @Promotion.read_of_fileAt _ _ _ ["agents", "r.journal"]
      (isTold_somePromotion ⟨by decide, by decide⟩ ⟨by decide, by decide⟩ (by decide))
      (by decide +kernel)
  obtain ⟨done, last, ended⟩ := safe.2 (by
    rw [recoverAll_cons_of_read journalPath read]
    decide +kernel)
  refine ⟨_, done, last, promotes, ended, ?_⟩
  exact (safe.1 [] done last ended).1 (Or.inr (by decide +kernel))

/-- Somewhere a recovered disk is neither as before a promotion nor as after it. -/
def GoesAstray (store : Store) (before : Disk) (name : String) (stops : List Mishap) : Prop :=
  ∃ journal complete last location,
    store.journalPath = .ok journal ∧ before.pathExists journal = .ok false ∧
      store.promote someDay name none (Machine.ofDisk before) = (.ok true, complete) ∧
      store.recover (Machine.ofDisk
        (store.promote someDay name none ⟨before, stops, [], []⟩).2.disk) = (.ok true, last) ∧
      last.disk.node? location ≠ before.node? location ∧
      last.disk.node? location ≠ complete.disk.node? location

theorem goesAstray_of_runs {store : Store} {before : Disk} {name : String}
    {stops : List Mishap} {journal : Path} {pending : Promotion} (place location : Location)
    (journalPath : store.journalPath = .ok journal)
    (isGone : (before.pathExists journal).toOption = some false)
    (promotes : (store.promote someDay name none (Machine.ofDisk before)).1.toOption = some true)
    (told : pending.IsTold)
    (written : ((store.promote someDay name none ⟨before, stops, [], []⟩).2.disk.fileAt
      journal).toOption = some (place, .text pending.toDocument.fileText))
    (resumes : let resumed := store.resume pending (Machine.ofDisk
        (store.promote someDay name none ⟨before, stops, [], []⟩).2.disk)
      resumed.1.toOption = some true ∧
        resumed.2.disk.node? location ≠ before.node? location ∧
        resumed.2.disk.node? location ≠
          (store.promote someDay name none (Machine.ofDisk before)).2.disk.node? location) :
    store.GoesAstray before name stops := by
  have recovers := @recover_of_read _ _ (Machine.ofDisk
    (store.promote someDay name none ⟨before, stops, [], []⟩).2.disk) _ journalPath
      (Promotion.read_of_fileAt told written)
  exact ⟨journal, _, _, location, journalPath, toOption_eq_some_iff.mp isGone,
    eq_of_answer promotes, recovers.trans (eq_of_answer resumes.1), resumes.2⟩

theorem promote_not_crash_safe :
    GoesAstray ⟨⟨0, ["agents"]⟩, ⟨0, ["temp"]⟩, ⟨0, ["temp", "a.md"]⟩⟩
      (temporaryDisk [(["temp", "a.md"], .file (.text "\x7b\x7d"))]) "a"
      (List.replicate 12 .none ++ [.stop]) ∧
    GoesAstray ⟨⟨0, ["agents"]⟩, ⟨0, ["temp"]⟩, ⟨0, ["x", "..", "temp", "r"]⟩⟩
      (temporaryDisk [(["temp", "a.md"], .file (.text "A")), (["temp", "b.md"], .file (.text "B")),
        (["temp", "r.journal"], .file (.text (Promotion.toDocument ⟨⟨0, ["temp", "b.md"]⟩,
          ⟨0, ["agents", "b.md"]⟩, .text "b", ⟨"b", "b.md", "B", someDay.text, 0⟩⟩).fileText))]) "a"
      [.none, .none, .none, .stop] ∧
    ∃ complete,
      promote ⟨⟨0, ["x", "..", "temp"]⟩, ⟨0, ["temp"]⟩, ⟨0, ["r"]⟩⟩ someDay "a" none
        (Machine.ofDisk (temporaryDisk [(["temp", "a.md"], .file (.text "A"))])) =
          (.ok true, complete) ∧
      complete.disk.node? ["temp", "a.md"] ≠ none := by
  refine ⟨?_, ?_, ?_⟩
  · exact @goesAstray_of_runs _ _ _ _ _ (somePromotion "a" "a" "") ["temp", "a.md.journal"]
      ["agents", "a.md"] rfl (by decide +kernel) (by decide +kernel)
      (isTold_somePromotion ⟨by decide, by decide⟩ ⟨by decide, by decide⟩ (by decide))
      (by decide +kernel) (by decide +kernel)
  · exact @goesAstray_of_runs _ _ _ _ _ (somePromotion "b" "b" "B") ["temp", "r.journal"]
      ["agents", "b.md"] rfl (by decide +kernel) (by decide +kernel)
      (isTold_somePromotion ⟨by decide, by decide⟩ ⟨by decide, by decide⟩ (by decide))
      (by decide +kernel) (by decide +kernel)
  · exact ⟨_, eq_of_answer (by decide +kernel), by decide +kernel⟩

end Store

end AgentFlow
