import AgentFlow.Files.Change
import AgentFlow.Proofs.Files.Path
import AgentFlow.Proofs.Result
import Mathlib.Data.List.Infix

/-!
# What is found on a disk

A path that can be followed leads to its destination: the location that its names spell,
whatever the disk holds.  Whether it can be followed depends on the directories only, so
a path that leads somewhere keeps doing so as long as no directory goes away.
-/

namespace AgentFlow

namespace Disk

variable {disk later : Disk}

/-! ## Nodes -/

theorem lookup_filter_of_ne {nodes : List (Location × Node)} {location other : Location}
    (differs : other ≠ location) :
    (nodes.filter (·.1 != location)).lookup other = nodes.lookup other := by
  induction nodes with
  | nil => rfl
  | cons node nodes induction =>
      obtain ⟨place, content⟩ := node
      by_cases removed : place = location
      · have notHere : (other == place) = false := by
          rw [removed]
          exact beq_false_of_ne differs
        rw [List.filter_cons_of_neg (by simp [removed]), induction, List.lookup_cons, notHere]
      · rw [List.filter_cons_of_pos (by simp [removed]), List.lookup_cons, List.lookup_cons,
          induction]

theorem lookup_filter_self (nodes : List (Location × Node)) (location : Location) :
    (nodes.filter (·.1 != location)).lookup location = none := by
  rw [List.lookup_eq_none_iff]
  rintro ⟨place, content⟩ member
  have kept : place ≠ location := by simpa using (List.mem_filter.mp member).2
  simpa using Ne.symm kept

@[simp] theorem node?_root (disk : Disk) : disk.node? [] = some .directory := rfl

theorem node?_eq_lookup {location : Location} (inside : location ≠ []) :
    disk.node? location = disk.nodes.lookup location := by
  simp [node?, inside]

/-- What stands somewhere else than at the root is listed. -/
theorem mem_nodes_of_node? {location : Location} {node : Node} (inside : location ≠ [])
    (found : disk.node? location = some node) : (location, node) ∈ disk.nodes := by
  rw [node?_eq_lookup inside, List.lookup_eq_some_iff] at found
  obtain ⟨before, after, nodes, _⟩ := found
  rw [nodes]
  exact List.mem_append_right _ List.mem_cons_self

theorem node?_put {location : Location} (inside : location ≠ []) (node : Node)
    (other : Location) :
    (disk.put location node).node? other =
      if other = location then some node else disk.node? other := by
  by_cases root : other = []
  · subst root
    rw [if_neg (Ne.symm inside)]
    rfl
  · rw [node?_eq_lookup root, node?_eq_lookup root]
    by_cases same : other = location
    · rw [if_pos same, same]
      simp [put]
    · rw [if_neg same, put, List.lookup_cons, beq_false_of_ne same]
      exact lookup_filter_of_ne same

theorem node?_erase {location : Location} (inside : location ≠ []) (other : Location) :
    (disk.erase location).node? other = if other = location then none else disk.node? other := by
  by_cases root : other = []
  · subst root
    rw [if_neg (Ne.symm inside)]
    rfl
  · rw [node?_eq_lookup root, node?_eq_lookup root]
    by_cases same : other = location
    · rw [if_pos same, same]
      exact lookup_filter_self disk.nodes location
    · rw [if_neg same]
      exact lookup_filter_of_ne same

@[simp] theorem current_put (disk : Disk) (location : Location) (node : Node) :
    (disk.put location node).current = disk.current := rfl

@[simp] theorem current_erase (disk : Disk) (location : Location) :
    (disk.erase location).current = disk.current := rfl

theorem noDirectory_of_none {location : Location} (free : disk.node? location = none) :
    disk.node? location ≠ some .directory := by
  rw [free]
  nofun

theorem noDirectory_of_file {location : Location} {content : Content}
    (file : disk.node? location = some (.file content)) :
    disk.node? location ≠ some .directory := by
  rw [file]
  nofun

theorem ne_root_of_node? {location : Location} (noDirectory : disk.node? location ≠ some .directory) :
    location ≠ [] := by
  rintro rfl
  exact noDirectory rfl

/-! ## Destinations -/

/-- Where the names of a path start. -/
def start (disk : Disk) (path : Path) : Location :=
  if path.isAbsolute then [] else disk.current

/-- The location that the names of a path lead to, if all directories on the way are there. -/
def destination (disk : Disk) (path : Path) : Location :=
  path.parts.foldl step (disk.start path)

theorem start_of_current (sameCurrent : later.current = disk.current) (path : Path) :
    later.start path = disk.start path := by
  rw [start, start, sameCurrent]

theorem destination_of_current (sameCurrent : later.current = disk.current) (path : Path) :
    later.destination path = disk.destination path := by
  rw [destination, destination, start_of_current sameCurrent]

/-- Names that can be followed from a location. -/
def Passable (disk : Disk) : Location → List String → Prop
  | _, [] => True
  | location, name :: names =>
    disk.node? location = some .directory ∧ name.utf8ByteSize ≤ maxNameLength ∧
      disk.Passable (step location name) names

theorem follow_eq_ok_iff {location found : Location} {names : List String} :
    disk.follow location names = .ok found ↔
      disk.Passable location names ∧ found = names.foldl step location := by
  induction names generalizing location with
  | nil => simp [follow, Passable, eq_comm]
  | cons name names induction =>
      rw [follow, Passable, List.foldl_cons]
      cases node : disk.node? location with
      | none => simp
      | some kind =>
          cases kind with
          | file content => simp
          | directory =>
              simp only [true_and]
              by_cases long : name.utf8ByteSize > maxNameLength
              · simp [long, Nat.not_le.mpr long]
              · rw [if_neg long, induction, and_assoc]
                simp [Nat.not_lt.mp long]

theorem passable_append {location : Location} {names more : List String} :
    disk.Passable location (names ++ more) ↔
      disk.Passable location names ∧ disk.Passable (names.foldl step location) more := by
  induction names generalizing location with
  | nil => simp [Passable]
  | cons name names induction =>
      simp only [List.cons_append, Passable, List.foldl_cons, induction, and_assoc]

/-- A path that the file system can hold. -/
structure Fits (path : Path) : Prop where
  noNul : path.hasNul = false
  short : path.text.utf8ByteSize < maxPathLength
  names : ∀ name ∈ path.parts, name.utf8ByteSize ≤ maxNameLength

theorem Passable.names {location : Location} {names : List String}
    (passable : disk.Passable location names) :
    ∀ name ∈ names, name.utf8ByteSize ≤ maxNameLength := by
  induction names generalizing location with
  | nil => nofun
  | cons name names induction =>
      obtain ⟨_, short, passable⟩ := passable
      exact List.forall_mem_cons.mpr ⟨short, induction passable⟩

/-- A path that leads to its destination. -/
structure Reaches (disk : Disk) (path : Path) : Prop where
  noNul : path.hasNul = false
  short : path.text.utf8ByteSize < maxPathLength
  passable : disk.Passable (disk.start path) path.parts

theorem Reaches.fits {path : Path} (reaches : disk.Reaches path) : Fits path :=
  ⟨reaches.noNul, reaches.short, reaches.passable.names⟩

/-- A file system that can hold a path can hold it with another last name that is not
longer. -/
theorem Fits.sibling {slashes : Nat} {names : List String} {name other : String}
    (fits : Fits ⟨slashes, names ++ [name]⟩) (notLonger : other.utf8ByteSize ≤ name.utf8ByteSize)
    (noNul : other.toList.contains '\x00' = false) : Fits ⟨slashes, names ++ [other]⟩ := by
  obtain ⟨noNulBefore, short, shortNames⟩ := fits
  obtain ⟨lead, spelled, _⟩ := Path.text_concat slashes names
  simp only [List.forall_mem_append, List.forall_mem_singleton] at shortNames
  refine ⟨?_, ?_, ?_⟩
  · simp only [Path.hasNul, List.any_append, List.any_cons, List.any_nil, Bool.or_false,
      Bool.or_eq_false_iff] at noNulBefore ⊢
    exact ⟨noNulBefore.1, noNul⟩
  · rw [spelled, String.utf8ByteSize_append] at short ⊢
    omega
  · simp only [List.forall_mem_append, List.forall_mem_singleton]
    exact ⟨shortNames.1, by omega⟩

theorem Fits.parent {path : Path} (fits : Fits path) (named : path.parts ≠ []) :
    Fits path.parent := by
  rw [Path.eq_concat named] at fits
  obtain ⟨noNul, short, shortNames⟩ := fits
  obtain ⟨lead, spelled, notLonger⟩ := Path.text_concat path.slashes path.parts.dropLast
  refine ⟨?_, ?_, fun name member => ?_⟩
  · simp only [Path.hasNul, List.any_append, Bool.or_eq_false_iff] at noNul
    exact noNul.1
  · rw [spelled, String.utf8ByteSize_append] at short
    have limit : maxPathLength = 4096 := rfl
    have same : path.parent.text.utf8ByteSize ≤ max 1 lead.utf8ByteSize := notLonger
    omega
  · exact shortNames name (List.mem_append_left _ member)

/-- A path in a directory leads somewhere. -/
theorem Reaches.child {slashes : Nat} {names : List String} {name : String}
    (reaches : disk.Reaches ⟨slashes, names⟩)
    (directory : disk.node? (disk.destination ⟨slashes, names⟩) = some .directory)
    (fits : Fits ⟨slashes, names ++ [name]⟩) : disk.Reaches ⟨slashes, names ++ [name]⟩ where
  noNul := fits.noNul
  short := fits.short
  passable := by
    have short := fits.names name (List.mem_append_right _ (List.mem_singleton_self name))
    exact passable_append.mpr ⟨reaches.passable, directory, short, trivial⟩

theorem Reaches.parent {path : Path} (reaches : disk.Reaches path) (named : path.parts ≠ []) :
    disk.Reaches path.parent ∧ disk.node? (disk.destination path.parent) = some .directory := by
  have fits := reaches.fits.parent named
  have passable := reaches.passable
  rw [Path.parts_eq_concat named] at passable
  obtain ⟨before, directory, _⟩ := passable_append.mp passable
  exact ⟨⟨fits.noNul, fits.short, before⟩, directory⟩

/-- What leads to one name in a directory leads to any other that is not longer. -/
theorem Reaches.sibling {slashes : Nat} {names : List String} {name other : String}
    (reaches : disk.Reaches ⟨slashes, names ++ [name]⟩)
    (notLonger : other.utf8ByteSize ≤ name.utf8ByteSize)
    (noNul : other.toList.contains '\x00' = false) :
    disk.Reaches ⟨slashes, names ++ [other]⟩ := by
  have named : (⟨slashes, names ++ [name]⟩ : Path).parts ≠ [] := by simp
  have parent := reaches.parent named
  simp only [Path.parent, List.dropLast_concat] at parent
  exact parent.1.child parent.2 (reaches.fits.sibling notLonger noNul)

/-- Where a path leads, all that is on the way is directories. -/
theorem Reaches.paved {path : Path} (reaches : disk.Reaches path) {passed rest : List String}
    (parts : path.parts = passed ++ rest) (goesOn : rest ≠ []) :
    disk.node? (passed.foldl step (disk.start path)) = some .directory := by
  have passable := reaches.passable
  rw [parts] at passable
  cases rest with
  | nil => exact absurd rfl goesOn
  | cons name names => exact (passable_append.mp passable).2.1

theorem locate_eq_ok_iff {path : Path} {location : Location} :
    disk.locate path = .ok location ↔
      path.text.utf8ByteSize < maxPathLength ∧ disk.Passable (disk.start path) path.parts ∧
        location = disk.destination path := by
  unfold locate
  split
  · rename_i long
    simp [Nat.not_lt.mpr long]
  · rename_i short
    simp only [Nat.not_le.mp short, true_and]
    exact follow_eq_ok_iff

theorem place_eq_ok_iff {path : Path} {location : Location} :
    disk.place path = .ok location ↔ disk.Reaches path ∧ location = disk.destination path := by
  unfold place
  split
  · rename_i nul
    constructor
    · nofun
    · rintro ⟨reaches, _⟩
      rw [reaches.noNul] at nul
      cases nul
  · rename_i noNul
    rw [mapError_eq_ok_iff, locate_eq_ok_iff]
    constructor
    · rintro ⟨short, passable, same⟩
      exact ⟨⟨by simpa using noNul, short, passable⟩, same⟩
    · rintro ⟨reaches, same⟩
      exact ⟨reaches.short, reaches.passable, same⟩

theorem Reaches.place {path : Path} (reaches : disk.Reaches path) :
    disk.place path = .ok (disk.destination path) :=
  place_eq_ok_iff.mpr ⟨reaches, rfl⟩

theorem fileAt_eq_ok_iff {path : Path} {location : Location} {content : Content} :
    disk.fileAt path = .ok (location, content) ↔
      disk.Reaches path ∧ location = disk.destination path ∧
        disk.node? location = some (.file content) := by
  unfold fileAt
  rw [bind_eq_ok_iff]
  constructor
  · rintro ⟨found, placed, answered⟩
    obtain ⟨reaches, rfl⟩ := place_eq_ok_iff.mp placed
    split at answered
    · cases answered
    · cases answered
    · rename_i node
      cases answered
      exact ⟨reaches, rfl, node⟩
  · rintro ⟨reaches, rfl, node⟩
    refine ⟨disk.destination path, reaches.place, ?_⟩
    simp only [node]

theorem readText_of_file {path : Path} {content : Content} (reaches : disk.Reaches path)
    (file : disk.node? (disk.destination path) = some (.file content)) :
    disk.readText path = content.read.mapError .utf8 := by
  have found : disk.fileAt path = .ok (disk.destination path, content) :=
    fileAt_eq_ok_iff.mpr ⟨reaches, rfl, file⟩
  unfold readText
  rw [found]
  rfl

/-! ## Questions -/

theorem ask_of_reaches {path : Path} (reaches : disk.Reaches path) (answer : Node → Bool) :
    disk.ask path answer = .ok ((disk.node? (disk.destination path)).any answer) := by
  have located := locate_eq_ok_iff.mpr ⟨reaches.short, reaches.passable, rfl⟩
  unfold ask find
  rw [if_neg (by simp [reaches.noNul]), located]
  cases node : disk.node? (disk.destination path) with
  | none => simp [bind, Except.bind, node]
  | some kind => simp [bind, Except.bind, node]

theorem ask_eq_true_iff {path : Path} {answer : Node → Bool} :
    disk.ask path answer = .ok true ↔
      disk.Reaches path ∧
        ∃ node, disk.node? (disk.destination path) = some node ∧ answer node = true := by
  constructor
  · intro asked
    have reaches : disk.Reaches path := by
      unfold ask at asked
      split at asked
      · cases asked
      · rename_i noNul
        split at asked
        · rename_i node found
          obtain ⟨location, located, _⟩ := bind_eq_ok_iff.mp found
          obtain ⟨short, passable, _⟩ := locate_eq_ok_iff.mp located
          exact ⟨by simpa using noNul, short, passable⟩
        · cases asked
        · cases asked
    rw [ask_of_reaches reaches, Except.ok.injEq] at asked
    cases found : disk.node? (disk.destination path) with
    | none =>
        rw [found] at asked
        cases asked
    | some node =>
        rw [found] at asked
        exact ⟨reaches, node, rfl, asked⟩
  · rintro ⟨reaches, node, found, answered⟩
    rw [ask_of_reaches reaches, found]
    simp [answered]

theorem pathExists_of_reaches {path : Path} (reaches : disk.Reaches path) :
    disk.pathExists path = .ok (disk.node? (disk.destination path)).isSome := by
  rw [pathExists, ask_of_reaches reaches]
  cases disk.node? (disk.destination path) <;> rfl

theorem pathExists_eq_true_iff {path : Path} :
    disk.pathExists path = .ok true ↔
      disk.Reaches path ∧ (disk.node? (disk.destination path)).isSome = true := by
  rw [pathExists, ask_eq_true_iff, Option.isSome_iff_exists]
  simp

theorem follow_ne_nameTooLong {location : Location} {names : List String}
    (short : ∀ name ∈ names, name.utf8ByteSize ≤ maxNameLength) :
    disk.follow location names ≠ .error .nameTooLong := by
  induction names generalizing location with
  | nil => nofun
  | cons name names induction =>
      obtain ⟨shortName, shortNames⟩ := List.forall_mem_cons.mp short
      rw [follow]
      split
      · nofun
      · nofun
      · rw [if_neg (Nat.not_lt.mpr shortName)]
        exact induction shortNames

theorem find_ne_nameTooLong {path : Path} (fits : Fits path) :
    disk.find path ≠ .error .nameTooLong := by
  unfold find
  intro found
  rcases bind_eq_error_iff.mp found with located | ⟨location, _, answered⟩
  · unfold locate at located
    rw [if_neg (Nat.not_le.mpr fits.short)] at located
    exact follow_ne_nameTooLong fits.names located
  · split at answered <;> cases answered

/-- Whether something stands at a path that fits can be told. -/
theorem pathExists_of_fits {path : Path} (fits : Fits path) :
    ∃ isThere, disk.pathExists path = .ok isThere := by
  have notLong := @find_ne_nameTooLong disk path fits
  unfold pathExists ask
  rw [if_neg (by simp [fits.noNul])]
  split
  · exact ⟨_, rfl⟩
  · rename_i found
    exact absurd found notLong
  · exact ⟨_, rfl⟩

theorem isFile_eq_true_iff {path : Path} :
    disk.isFile path = .ok true ↔
      disk.Reaches path ∧ ∃ content, disk.node? (disk.destination path) = some (.file content) := by
  rw [isFile, ask_eq_true_iff]
  refine and_congr_right fun _ => ?_
  constructor
  · rintro ⟨node, found, isFile⟩
    cases node with
    | directory => cases isFile
    | file content => exact ⟨content, found⟩
  · rintro ⟨content, found⟩
    exact ⟨.file content, found, rfl⟩

theorem isDirectory_eq_true_iff {path : Path} :
    disk.isDirectory path = .ok true ↔
      disk.Reaches path ∧ disk.node? (disk.destination path) = some .directory := by
  rw [isDirectory, ask_eq_true_iff]
  refine and_congr_right fun _ => ?_
  constructor
  · rintro ⟨node, found, isDirectory⟩
    cases node with
    | directory => exact found
    | file content => cases isDirectory
  · exact fun found => ⟨.directory, found, rfl⟩

/-! ## Directories that stay -/

/-- A disk on which every directory of another one still stands. -/
structure Keeps (disk later : Disk) : Prop where
  current : later.current = disk.current
  directory : ∀ location, disk.node? location = some .directory →
    later.node? location = some .directory

theorem Keeps.refl (disk : Disk) : disk.Keeps disk := ⟨rfl, fun _ found => found⟩

theorem Keeps.trans {last : Disk} (first : disk.Keeps later) (second : later.Keeps last) :
    disk.Keeps last where
  current := second.current.trans first.current
  directory := fun location found => second.directory location (first.directory location found)

theorem keeps_put {location : Location} (noDirectory : disk.node? location ≠ some .directory)
    (node : Node) : disk.Keeps (disk.put location node) where
  current := rfl
  directory := by
    intro other found
    rw [node?_put (ne_root_of_node? noDirectory), if_neg]
    · exact found
    · rintro rfl
      exact noDirectory found

theorem Keeps.passable (keeps : disk.Keeps later) {location : Location} {names : List String}
    (passable : disk.Passable location names) : later.Passable location names := by
  induction names generalizing location with
  | nil => trivial
  | cons name names induction =>
      obtain ⟨directory, short, passable⟩ := passable
      exact ⟨keeps.directory location directory, short, induction passable⟩

theorem Keeps.reaches (keeps : disk.Keeps later) {path : Path} (reaches : disk.Reaches path) :
    later.Reaches path where
  noNul := reaches.noNul
  short := reaches.short
  passable := by
    rw [start_of_current keeps.current]
    exact keeps.passable reaches.passable

end Disk

end AgentFlow
