import AgentFlow.Agent.Resolver
import AgentFlow.Proofs.Agent.Ending
import AgentFlow.Proofs.Files.Recording

/-!
# What operations change about resolving

A name is resolved by asking whether its definition is a file, first among the defined agents
and then among the temporary ones.  An operation changes what a name resolves to only where it
takes a definition away or puts one.  Directories that are made on the way do not count, as long
as no definition has waited unseen behind them.
-/

namespace AgentFlow

open AgentFlow.Text

namespace Store

variable {store : Store} {disk later : Disk} {name : String} {builtins : List Value}
  {touched : Location → Prop}

/-- What a name resolves to by the three tiers of a store. -/
def resolves (store : Store) (builtins : List Value) (disk : Disk) (name : String) :
    Logged Error (Option Descriptor) :=
  (Resolver.ofStore store builtins).tryResolve disk name

/-- Whether a name is that of a built-in agent. -/
def isBuiltin (builtins : List Value) (name : String) : Bool :=
  builtins.any (·.text? == some name)

/-- The two directories are different ones, and the registry is no definition of either. -/
structure Distinct (store : Store) (disk : Disk) : Prop where
  directories : disk.destination store.agentsDir ≠ disk.destination store.temporaryDir
  defined : ∀ name, isIdentifier name = true →
    disk.destination (store.definedPath name) ≠ disk.destination store.registryPath
  temporary : ∀ name, isIdentifier name = true →
    disk.destination (store.temporaryPath name) ≠ disk.destination store.registryPath

/-- No definition waits unseen behind a directory that is missing, and the names on the way to
the definitions are not too long. -/
structure Visible (store : Store) (disk : Disk) : Prop where
  defined : ∀ name, isIdentifier name = true → disk.Seen (store.definedPath name)
  temporary : ∀ name, isIdentifier name = true → disk.Seen (store.temporaryPath name)
  names : ∀ part ∈ store.agentsDir.parts ++ store.temporaryDir.parts,
    part.utf8ByteSize ≤ Disk.maxNameLength

/-- The name of a definition file is not too long. -/
def IsShort (name : String) : Prop :=
  (name ++ definitionSuffix).utf8ByteSize ≤ Disk.maxNameLength

/-- The directory of the temporary agents is there. -/
def Lends (store : Store) (disk : Disk) : Prop :=
  disk.Reaches store.temporaryDir ∧
    disk.node? (disk.destination store.temporaryDir) = some .directory

/-- A place at which no definition can be. -/
def Aside (store : Store) (disk : Disk) (location : Location) : Prop :=
  ∀ name, isIdentifier name = true → location ≠ disk.destination (store.definedPath name) ∧
    location ≠ disk.destination (store.temporaryPath name)

/-! ## Resolving -/

theorem inDirectory_eq {source : Source} {directory : Path}
    (same : later.isFile (definitionPath directory name) =
      disk.isFile (definitionPath directory name)) :
    Tier.inDirectory later source directory name = Tier.inDirectory disk source directory name := by
  unfold Tier.inDirectory
  simp only [same]

theorem inDirectory_of_isFile {source : Source} {directory : Path} {found : Bool}
    (asked : disk.isFile (definitionPath directory name) = .ok found) :
    Tier.inDirectory disk source directory name =
      .ok (if found = true then some ⟨name, source, some (definitionPath directory name)⟩
        else none) := by
  unfold Tier.inDirectory
  simp only [asked]
  cases found <;> rfl

theorem tryResolve_eq {resolver : Resolver}
    (same : isIdentifier name = true →
      resolver.firstClaim later name = resolver.firstClaim disk name) :
    resolver.tryResolve later name = resolver.tryResolve disk name := by
  unfold Resolver.tryResolve
  split
  · rename_i identifier
    rw [same identifier]
  · rfl

theorem firstClaim_singleton (tier : Tier) :
    Resolver.firstClaim disk name [tier] = tier.claim disk name := by
  show (tier.claim disk name >>= _) = _
  rcases tier.claim disk name with e | _ | descriptor
  · rfl
  · rfl
  · rfl

theorem firstClaim_eq (store : Store) (builtins : List Value) (disk : Disk) (name : String) :
    (Resolver.ofStore store builtins).firstClaim disk name =
      if isBuiltin builtins name = true then .ok (some ⟨name, .builtin, none⟩)
      else Tier.inDirectory disk .defined store.agentsDir name >>= fun claimed =>
        (claimed.map fun descriptor => .ok (some descriptor)).getD
          (Tier.inDirectory disk .temporary store.temporaryDir name) := by
  have last : Resolver.firstClaim disk name [.temporary store.temporaryDir] =
      Tier.inDirectory disk .temporary store.temporaryDir name := firstClaim_singleton _
  have next : Resolver.firstClaim disk name
      [.defined store.agentsDir, .temporary store.temporaryDir] =
      Tier.inDirectory disk .defined store.agentsDir name >>= fun claimed =>
        (claimed.map fun descriptor => .ok (some descriptor)).getD
          (Tier.inDirectory disk .temporary store.temporaryDir name) := by
    rw [← last]
    show (Tier.inDirectory disk .defined store.agentsDir name >>= _) = _
    cases Tier.inDirectory disk .defined store.agentsDir name with
    | error e => rfl
    | ok claimed => cases claimed <;> rfl
  rw [← next]
  show ((if isBuiltin builtins name = true then _ else _ : Except Error (Option Descriptor)) >>= _) = _
  split <;> rfl

/-- A name resolves as before if each directory gives the same answer about it. -/
theorem resolves_eq
    (defined : isIdentifier name = true →
      later.isFile (store.definedPath name) = disk.isFile (store.definedPath name))
    (temporary : isIdentifier name = true →
      later.isFile (store.temporaryPath name) = disk.isFile (store.temporaryPath name)) :
    store.resolves builtins later name = store.resolves builtins disk name := by
  refine tryResolve_eq fun identifier => ?_
  rw [firstClaim_eq, firstClaim_eq, inDirectory_eq (defined identifier),
    inDirectory_eq (temporary identifier)]

theorem resolves_builtin (identifier : isIdentifier name = true)
    (builtin : isBuiltin builtins name = true) :
    (store.resolves builtins disk name).result = .ok (some ⟨name, .builtin, none⟩) := by
  unfold resolves Resolver.tryResolve
  rw [if_pos identifier, firstClaim_eq, if_pos builtin]
  rfl

/-- A definition that is found among the defined agents. -/
theorem resolves_defined (identifier : isIdentifier name = true)
    (notBuiltin : isBuiltin builtins name = false)
    (found : disk.isFile (store.definedPath name) = .ok true) :
    (store.resolves builtins disk name).result =
      .ok (some ⟨name, .defined, some (store.definedPath name)⟩) := by
  unfold resolves Resolver.tryResolve
  rw [if_pos identifier, firstClaim_eq, if_neg (by simp [notBuiltin]),
    inDirectory_of_isFile found]
  rfl

/-- Only the temporary tier is left where the first two do not claim a name. -/
theorem resolves_temporary (identifier : isIdentifier name = true)
    (notBuiltin : isBuiltin builtins name = false)
    (unclaimed : Tier.inDirectory disk .defined store.agentsDir name = .ok none)
    (found : disk.isFile (store.temporaryPath name) = .ok true) :
    (store.resolves builtins disk name).result =
      .ok (some ⟨name, .temporary, some (store.temporaryPath name)⟩) := by
  unfold resolves Resolver.tryResolve
  rw [if_pos identifier, firstClaim_eq, if_neg (by simp [notBuiltin]), unclaimed,
    inDirectory_of_isFile found]
  rfl

/-- Without a definition among the temporary agents the first two tiers decide alone. -/
theorem resolves_without_temporary
    (defined : isIdentifier name = true →
      later.isFile (store.definedPath name) = disk.isFile (store.definedPath name))
    (gone : isIdentifier name = true → later.isFile (store.temporaryPath name) = .ok false) :
    store.resolves builtins later name =
      Resolver.tryResolve [.builtin builtins, .defined store.agentsDir] disk name := by
  unfold resolves Resolver.tryResolve
  split
  · rename_i identifier
    have firstTwo : Resolver.firstClaim disk name [.builtin builtins, .defined store.agentsDir] =
        if isBuiltin builtins name = true then .ok (some ⟨name, .builtin, none⟩)
        else Tier.inDirectory disk .defined store.agentsDir name := by
      show ((if isBuiltin builtins name = true then _ else _ :
        Except Error (Option Descriptor)) >>= _) = _
      split
      · rfl
      · exact firstClaim_singleton (.defined store.agentsDir)
    rw [firstClaim_eq, firstTwo, inDirectory_of_isFile (gone identifier),
      inDirectory_eq (defined identifier)]
    congr 2
    split
    · rfl
    · show (Tier.inDirectory disk .defined store.agentsDir name >>= _) = _
      cases Tier.inDirectory disk .defined store.agentsDir name with
      | error e => rfl
      | ok claimed => cases claimed <;> rfl
  · rfl

/-! ## Names that are too long -/

theorem identifier_noNul (identifier : isIdentifier name = true) :
    (name ++ definitionSuffix).toList.contains '\x00' = false := by
  rw [String.toList_append, List.contains_eq_mem, decide_eq_false_iff_not, List.mem_append, not_or]
  refine ⟨fun member => ?_, by decide⟩
  unfold isIdentifier spellsIdentifier at identifier
  rw [Bool.and_eq_true, List.all_eq_true] at identifier
  exact absurd (identifier.2 _ member) (by decide)

theorem noNul_singleton (identifier : isIdentifier name = true) :
    [name ++ definitionSuffix].any (·.toList.contains '\x00') = false := by
  rw [List.any_cons, identifier_noNul identifier]
  rfl

theorem isFile_ne_true_of_long {directory : Path} (identifier : isIdentifier name = true)
    (long : ¬IsShort name) : disk.isFile (definitionPath directory name) ≠ .ok true := by
  intro found
  rw [definitionPath_eq identifier] at found
  obtain ⟨reaches, _⟩ := Disk.isFile_eq_true_iff.mp found
  exact long (reaches.fits.names _ (List.mem_append_right _ (List.mem_singleton_self _)))

/-- Whether a file stands at a path is not told only if a name is too long. -/
theorem asks_isFile_eq_error_iff {path : Path} {error : Error} :
    asks (disk.isFile path) = .error error ↔ error = .unexpected (.file .nameTooLong) ∧
      disk.isFile path = .error .nameTooLong := by
  constructor
  · intro failed
    obtain ⟨fault, unasked, rfl⟩ := mapError_eq_error_iff.mp failed
    obtain rfl := (Disk.ask_eq_error_iff.mp unasked).1
    exact ⟨rfl, unasked⟩
  · rintro ⟨rfl, unasked⟩
    exact mapError_eq_error_iff.mpr ⟨_, unasked, rfl⟩

theorem asks_isFile_cases (path : Path) : asks (disk.isFile path) = .ok true ∨
    asks (disk.isFile path) = .ok false ∨
    asks (disk.isFile path) = .error (.unexpected (.file .nameTooLong)) := by
  cases asked : asks (disk.isFile path) with
  | error e =>
      obtain ⟨rfl, _⟩ := asks_isFile_eq_error_iff.mp asked
      simp
  | ok found => cases found <;> simp

theorem Lends.keeps (lends : store.Lends disk) (keeps : disk.Keeps later) : store.Lends later := by
  obtain ⟨reaches, directory⟩ := lends
  refine ⟨keeps.reaches reaches, ?_⟩
  rw [Disk.destination_of_current keeps.current]
  exact keeps.directory _ directory

theorem lends_of_isFile (identifier : isIdentifier name = true)
    (found : disk.isFile (store.temporaryPath name) = .ok true) : store.Lends disk := by
  obtain ⟨reaches, _⟩ := Disk.isFile_eq_true_iff.mp found
  rw [temporaryPath, definitionPath_eq identifier] at reaches
  have parent := reaches.parent (by simp)
  simp only [Path.parent, List.dropLast_concat] at parent
  exact parent

/-- Where the temporary agents have a directory, a name that is too long is always told. -/
theorem firstClaim_of_long (lends : store.Lends disk) (identifier : isIdentifier name = true)
    (long : ¬IsShort name) :
    (Resolver.ofStore store builtins).firstClaim disk name =
      if isBuiltin builtins name = true then .ok (some ⟨name, .builtin, none⟩)
      else .error (.unexpected (.file .nameTooLong)) := by
  have temporary : Tier.inDirectory disk .temporary store.temporaryDir name =
      .error (.unexpected (.file .nameTooLong)) := by
    unfold Tier.inDirectory
    simp only [definitionPath_eq identifier, Disk.isFile_of_longName lends.1 lends.2
      (noNul_singleton identifier) (Nat.lt_of_not_le long)]
    rfl
  rw [firstClaim_eq, temporary]
  split
  · rfl
  · unfold Tier.inDirectory
    rcases @asks_isFile_cases disk (definitionPath store.agentsDir name) with yes | no | tooLong
    · exact absurd (asks_eq_ok_iff.mp yes) (isFile_ne_true_of_long identifier long)
    · simp only [no]
      rfl
    · simp only [tooLong]
      rfl

/-! ## What is left alone -/

theorem definition_parts_short (visible : store.Visible disk) (identifier : isIdentifier name = true)
    (short : IsShort name) :
    (∀ part ∈ (store.definedPath name).parts, part.utf8ByteSize ≤ Disk.maxNameLength) ∧
      ∀ part ∈ (store.temporaryPath name).parts, part.utf8ByteSize ≤ Disk.maxNameLength := by
  have names := visible.names
  rw [List.forall_mem_append] at names
  rw [definedPath, temporaryPath, definitionPath_eq identifier, definitionPath_eq identifier,
    List.forall_mem_append, List.forall_mem_append, List.forall_mem_singleton]
  exact ⟨⟨names.1, short⟩, names.2, short⟩

/-- A name resolves as before as long as its two definitions are left alone, unless it is so
long that a directory has to be there to tell it. -/
theorem Visible.resolves (visible : store.Visible disk)
    (leaves : Disk.Leaves touched disk later)
    (defined : isIdentifier name = true → ¬touched (disk.destination (store.definedPath name)))
    (temporary : isIdentifier name = true → ¬touched (disk.destination (store.temporaryPath name)))
    (told : IsShort name ∨ store.Lends disk) :
    store.resolves builtins later name = store.resolves builtins disk name := by
  by_cases short : IsShort name
  · refine resolves_eq (fun identifier => ?_) fun identifier => ?_
    · exact leaves.isFile_of_short (defined identifier) (visible.defined name identifier)
        (definition_parts_short visible identifier short).1
    · exact leaves.isFile_of_short (temporary identifier) (visible.temporary name identifier)
        (definition_parts_short visible identifier short).2
  · obtain lends := told.resolve_left short
    refine tryResolve_eq fun identifier => ?_
    rw [firstClaim_of_long (lends.keeps leaves.keeps) identifier short,
      firstClaim_of_long lends identifier short]

theorem aside_of_current (sameCurrent : later.current = disk.current) :
    store.Aside later = store.Aside disk := by
  funext location
  simp only [Aside, Disk.destination_of_current sameCurrent]

theorem Distinct.registry_aside (distinct : store.Distinct disk) :
    store.Aside disk (disk.destination store.registryPath) := fun name identifier =>
  ⟨Ne.symm (distinct.defined name identifier), Ne.symm (distinct.temporary name identifier)⟩

/-- Nothing is touched but places at which no definition is.  No directory is new if something
stands wherever one could be made. -/
structure Sidesteps (store : Store) (ways : Location → Prop) (disk later : Disk) : Prop where
  leaves : Disk.Leaves (store.Aside disk) disk later
  noneMade : (∀ location, ways location → disk.node? location ≠ none) →
    Layout.NoneMade disk later

section Sidesteps

variable {ways : Location → Prop} {path : Path} {text : String} {between : Disk}

theorem Sidesteps.refl (disk : Disk) : store.Sidesteps ways disk disk :=
  ⟨.refl disk, fun _ _ => id⟩

theorem Sidesteps.ofFurnished (furnished : Disk.Furnished ways disk later) :
    store.Sidesteps ways disk later where
  leaves := .ofFurnished furnished
  noneMade := by
    intro taken location made
    rcases furnished.node location with same | ⟨free, _, onWay⟩
    · rwa [same] at made
    · exact absurd free (taken location onWay)

/-- After the directories a file is put at a place at which no definition is. -/
theorem Sidesteps.altered {location : Location} {content : Content}
    (sidesteps : store.Sidesteps ways disk between)
    (alters : Disk.Alters location (some (.file content)) between later)
    (noDirectory : between.node? location ≠ some .directory) (aside : store.Aside disk location) :
    store.Sidesteps ways disk later where
  leaves := sidesteps.leaves.trans
    ((Disk.Leaves.ofAlters alters noDirectory).mono fun _ here => here ▸ aside)
  noneMade := fun taken => (sidesteps.noneMade taken).trans (.ofAlters alters nofun)

theorem Sidesteps.ofWritten (aside : store.Aside disk (disk.destination path))
    (furnished : Disk.Furnished ways disk between) (written : Work.Written path text between later) :
    store.Sidesteps ways disk later := by
  refine (ofFurnished furnished).altered written.alters written.noDirectory ?_
  rwa [Disk.destination_of_current furnished.current]

theorem Sidesteps.ofLittered (furnished : Disk.Furnished ways disk between)
    (littered : Work.Littered path between later) : store.Sidesteps ways disk later := by
  rcases littered with rfl | ⟨n, content, free, alters⟩
  · exact .ofFurnished furnished
  · refine (ofFurnished furnished).altered alters (Disk.noDirectory_of_none free) ?_
    rw [Disk.destination_of_current furnished.current]
    exact fun name identifier =>
      ⟨Ne.symm (Disk.definition_ne_temporary identifier path n),
        Ne.symm (Disk.definition_ne_temporary identifier path n)⟩

end Sidesteps

/-- Above a registry that lists an agent nothing is missing. -/
theorem registry_ways_taken {table : Registry} {entry : Entry}
    (loaded : store.load disk = .ok table) (found : table.get? name = some entry)
    (location : Location) (onWay : disk.OnWay store.registryPath.parent location) :
    disk.node? location ≠ none := by
  rcases file_of_load loaded with rfl | ⟨reaches, content, file⟩
  · cases found
  · by_cases named : store.registryPath.parts = []
    · obtain ⟨passed, isPrefix, rfl⟩ := onWay
      rw [Path.parent, named] at isPrefix
      obtain rfl := List.prefix_nil.mp isPrefix
      have here : disk.destination store.registryPath = disk.start store.registryPath := by
        rw [Disk.destination, named]
        rfl
      rw [here] at file
      exact fun nothing => Option.some_ne_none _ (file.symm.trans nothing)
    · rw [reaches.directory_of_onWay named onWay]
      exact Option.some_ne_none _

end Store

end AgentFlow
