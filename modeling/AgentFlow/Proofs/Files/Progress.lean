import AgentFlow.Proofs.Files.Completion
import AgentFlow.Proofs.Files.Work
import Mathlib.Data.List.Nodup
import Mathlib.Data.List.Range

/-!
# Work on files that comes to its end

Without mishaps a directory is made if nothing but directories stands on the way to it,
and a file is moved if it may be moved and no directory stands where it goes.  A temporary
name is free as long as there are fewer nodes than names of its length.
-/

namespace AgentFlow

open AgentFlow.Text

namespace Disk

variable {disk later : Disk} {path : Path}

/-- Nothing but directories stands on the way to a path and at its end. -/
def Clear (disk : Disk) (path : Path) : Prop :=
  ∀ location, disk.OnWay path location →
    disk.node? location = none ∨ disk.node? location = some .directory

theorem Clear.parent (clear : disk.Clear path) : disk.Clear path.parent :=
  fun location onWay => clear location onWay.of_parent

theorem Clear.furnished {ways : Location → Prop} (clear : disk.Clear path)
    (furnished : Furnished ways disk later) : later.Clear path := by
  intro location onWay
  rw [onWay_of_current furnished.current] at onWay
  rcases furnished.node location with same | ⟨_, made, _⟩
  · rw [same]
    exact clear location onWay
  · exact Or.inr made

theorem follow_of_clear {location : Location} {names : List String}
    (short : ∀ name ∈ names, name.utf8ByteSize ≤ maxNameLength)
    (clear : ∀ passed, passed <+: names →
      disk.node? (passed.foldl step location) = none ∨
        disk.node? (passed.foldl step location) = some .directory) :
    disk.Passable location names ∨
      disk.follow location names = .error .missing ∧ names ≠ [] := by
  induction names generalizing location with
  | nil => exact Or.inl trivial
  | cons name names induction =>
      obtain ⟨shortName, shortNames⟩ := List.forall_mem_cons.mp short
      rcases clear [] List.nil_prefix with free | directory
      · have missing : disk.node? location = none := free
        exact Or.inr ⟨by rw [follow, missing], List.cons_ne_nil _ _⟩
      · have directory : disk.node? location = some .directory := directory
        have further := @induction (step location name) shortNames fun passed isPrefix =>
          clear (name :: passed) (List.cons_prefix_cons.mpr ⟨rfl, isPrefix⟩)
        refine further.imp (fun passable => ⟨directory, shortName, passable⟩) ?_
        rintro ⟨missing, _⟩
        refine ⟨?_, List.cons_ne_nil _ _⟩
        rw [follow, directory]
        simp only [if_neg (Nat.not_lt.mpr shortName), missing]

/-- A clear path leads somewhere, or a directory on its way is missing. -/
theorem Clear.place (clear : disk.Clear path) (fits : Fits path) :
    disk.Reaches path ∨ disk.place path = .error (.file .missing) ∧ path.parts ≠ [] := by
  have followed := follow_of_clear fits.names fun passed isPrefix =>
    clear _ ⟨passed, isPrefix, rfl⟩
  refine followed.imp (fun passable => ⟨fits.noNul, fits.short, passable⟩) ?_
  rintro ⟨missing, named⟩
  refine ⟨?_, named⟩
  unfold Disk.place locate
  rw [if_neg (by simp [fits.noNul]), if_neg (Nat.not_le.mpr fits.short)]
  exact mapError_eq_error_iff.mpr ⟨_, missing, rfl⟩

theorem length_put (disk : Disk) (location : Location) (node : Node) :
    (disk.put location node).nodes.length ≤ disk.nodes.length + 1 :=
  Nat.succ_le_succ (List.length_filter_le _ _)

theorem length_erase (disk : Disk) (location : Location) :
    (disk.erase location).nodes.length ≤ disk.nodes.length :=
  List.length_filter_le _ _

theorem mem_nodes {location : Location} (inside : location ≠ [])
    (taken : disk.node? location ≠ none) : location ∈ disk.nodes.map (·.1) := by
  obtain ⟨node, found⟩ := Option.ne_none_iff_exists'.mp taken
  exact List.mem_map_of_mem (mem_nodes_of_node? inside found)

end Disk

namespace Work

variable {disk : Disk} {path : Path}

/-! ## Directories -/

theorem completes_acceptDirectory (fault : FileFault) (reaches : disk.Reaches path)
    (directory : disk.node? (disk.destination path) = some .directory) :
    (acceptDirectory path (.file fault)).Completes disk fun _ later => later = disk := by
  have isDirectory := Disk.isDirectory_eq_true_iff.mpr ⟨reaches, directory⟩
  unfold acceptDirectory
  refine completes_ask_bind (mapError_eq_ok_iff.mpr isDirectory) ?_
  rw [if_pos rfl]
  exact completes_pure rfl

/-- A directory that is there already is not made. -/
theorem completes_ensureDirectory_of_directory (depth : Nat) (reaches : disk.Reaches path)
    (directory : disk.node? (disk.destination path) = some .directory) :
    (ensureDirectory depth path).Completes disk fun _ later => later = disk := by
  have refused := Change.apply_makeDirectory_of_taken reaches (Option.isSome_of_eq_some directory)
  have accepted := completes_acceptDirectory .alreadyExists reaches directory
  cases depth with
  | zero => exact completes_refused refused accepted
  | succ depth =>
      refine completes_refused refused ?_
      rw [if_neg (by simp), if_neg (by simp)]
      exact accepted

theorem completes_ensureDirectory_of_reaches (depth : Nat) (clear : disk.Clear path)
    (reaches : disk.Reaches path) :
    (ensureDirectory depth path).Completes disk fun _ later =>
      later.nodes.length ≤ disk.nodes.length + 1 := by
  rcases clear _ (disk.onWay_destination path) with free | directory
  · have applied := Change.apply_makeDirectory_eq_ok_iff.mpr ⟨reaches, free, rfl⟩
    have made := @completes_perform _ _ _ (fun _ later =>
      later.nodes.length ≤ disk.nodes.length + 1) applied (disk.length_put _ _)
    cases depth with
    | zero => exact made.orElse
    | succ depth => exact made.orElse
  · refine (completes_ensureDirectory_of_directory depth reaches directory).mono ?_
    rintro _ _ rfl
    exact Nat.le_succ _

/-- A directory is made with all that are missing above it. -/
theorem completes_ensureDirectory {depth : Nat} (clear : disk.Clear path)
    (fits : Disk.Fits path) (enough : path.parts.length ≤ depth) :
    (ensureDirectory depth path).Completes disk fun _ later =>
      later.nodes.length ≤ disk.nodes.length + path.parts.length + 1 := by
  induction depth generalizing path with
  | zero =>
      rcases clear.place fits with reaches | ⟨_, named⟩
      · refine (completes_ensureDirectory_of_reaches 0 clear reaches).mono ?_
        intro _ later few
        omega
      · exact absurd (List.length_eq_zero_iff.mp (Nat.le_zero.mp enough)) named
  | succ depth induction =>
      rcases clear.place fits with reaches | ⟨missing, named⟩
      · refine (completes_ensureDirectory_of_reaches (depth + 1) clear reaches).mono ?_
        intro _ later few
        omega
      · have shorter : path.parent.parts.length + 1 = path.parts.length := by
          have some_ := List.length_pos_iff.mpr named
          simp only [Path.parent, List.length_dropLast]
          omega
        have differs : path.parent ≠ path := by
          intro same
          rw [same] at shorter
          omega
        refine completes_refused (Change.apply_makeDirectory_of_place missing) ?_
        rw [if_pos ⟨rfl, differs⟩]
        have above := (induction clear.parent (fits.parent named) (by omega)).leads
          (leads_ensureDirectory depth path.parent)
        refine above.bind ?_
        rintro _ later ⟨⟨furnished, reaches, directory⟩, few⟩
        have reachesPath : later.Reaches path := by
          rw [Path.eq_concat named] at fits ⊢
          rw [← Disk.destination_of_current furnished.current] at directory
          exact reaches.child directory fits
        refine (completes_ensureDirectory_of_reaches 0 (clear.furnished furnished)
          reachesPath).mono ?_
        intro _ last one
        omega

/-! ## Temporary names -/

theorem ofDigitChars_serial (n : Nat) : Nat.ofDigitChars 10 (serial n).toList 0 = n := by
  rw [serial, String.toList_ofList, paddedDigits, Nat.ofDigitChars_append,
    Nat.ofDigitChars_replicate_zero, Nat.mul_zero, Nat.ofDigitChars_ten_toDigits]

theorem serial_injective : Function.Injective serial := by
  intro m n same
  rw [← ofDigitChars_serial m, same, ofDigitChars_serial]

theorem isDigit_of_mem_serial {n : Nat} {c : Char} (member : c ∈ (serial n).toList) :
    c.isDigit = true := by
  rw [serial, String.toList_ofList, paddedDigits, List.mem_append] at member
  rcases member with zero | digit
  · rw [List.eq_of_mem_replicate zero]
    rfl
  · exact Nat.isDigit_of_mem_toDigits (by decide) (by decide) digit

theorem utf8ByteSize_ofDigits {digits : List Char}
    (areDigits : ∀ c ∈ digits, c.isDigit = true) :
    (String.ofList digits).utf8ByteSize = digits.length := by
  induction digits with
  | nil => rfl
  | cons c digits induction =>
      obtain ⟨isDigit, areDigits⟩ := List.forall_mem_cons.mp areDigits
      have one : c.utf8Size = 1 := by
        have bounds : 48 ≤ c.val ∧ c.val ≤ 57 := by simpa [Char.isDigit] using isDigit
        unfold Char.utf8Size
        rw [if_pos (UInt32.le_trans bounds.2 (by decide))]
      rw [String.ofList_cons, String.utf8ByteSize_append, induction areDigits,
        String.utf8ByteSize_singleton, one, List.length_cons, Nat.add_comm]

theorem utf8ByteSize_serial (n : Nat) :
    (serial n).utf8ByteSize = max 8 (Nat.toDigits 10 n).length := by
  have areDigits : ∀ c ∈ paddedDigits 8 n, c.isDigit = true := by
    intro c member
    refine @isDigit_of_mem_serial n c ?_
    rwa [serial, String.toList_ofList]
  rw [serial, utf8ByteSize_ofDigits areDigits, paddedDigits, List.length_append,
    List.length_replicate]
  omega

/-- How many numbers have eight digits. -/
def serials : Nat := 100000000

/-- All numbers of eight digits fit if one number does. -/
theorem fits_temporaryBeside {m n : Nat} (fits : Disk.Fits (temporaryBeside path n))
    (few : m < serials) : Disk.Fits (temporaryBeside path m) := by
  have short : (Nat.toDigits 10 m).length ≤ 8 :=
    (Nat.length_toDigits_le_iff (by decide) (by decide)).mpr (by simpa [serials] using few)
  refine Disk.Fits.sibling fits ?_ ?_
  · simp only [String.utf8ByteSize_append, utf8ByteSize_serial]
    omega
  · have noNul := fits.noNul
    have digits : '\x00' ∉ (serial m).toList := by
      intro member
      exact absurd (isDigit_of_mem_serial member) (by decide)
    simp only [temporaryBeside, Path.hasNul, List.any_append, List.any_cons, List.any_nil,
      Bool.or_false, Bool.or_eq_false_iff, String.toList_append, List.contains_eq_mem,
      List.mem_append, decide_eq_false_iff_not, not_or] at noNul ⊢
    exact ⟨⟨noNul.2.1.1, digits⟩, noNul.2.2⟩

theorem destination_temporary_injective (disk : Disk) (path : Path) :
    Function.Injective fun n => disk.destination (temporaryBeside path n) := by
  intro m n same
  simp only [Disk.destination_temporaryBeside] at same
  have sameName : path.temporaryName m = path.temporaryName n := by simpa using same
  simp only [Path.temporaryName, String.append_left_inj, String.append_right_inj] at sameName
  exact serial_injective sameName

/-- There are more numbers than nodes. -/
theorem exists_free (disk : Disk) (path : Path) :
    ∃ n, n ≤ disk.nodes.length ∧ disk.node? (disk.destination (temporaryBeside path n)) = none := by
  by_contra taken
  push Not at taken
  have distinct := (List.nodup_range (n := disk.nodes.length + 1)).map
    (destination_temporary_injective disk path)
  have covered : (List.range (disk.nodes.length + 1)).map
      (fun n => disk.destination (temporaryBeside path n)) ⊆ disk.nodes.map (·.1) := by
    intro location member
    obtain ⟨n, inRange, rfl⟩ := List.mem_map.mp member
    refine Disk.mem_nodes ?_ (taken n (Nat.le_of_lt_succ (List.mem_range.mp inRange)))
    rw [Disk.destination_temporaryBeside]
    simp
  have tooMany := distinct.length_le_of_subset covered
  simp only [List.length_map, List.length_range] at tooMany
  omega

/-- The temporary path that is taken is free. -/
theorem freeSerial_spec (reaches : disk.Reaches path.parent)
    (directory : disk.node? (disk.destination path.parent) = some .directory)
    (temporary : ∃ n, Disk.Fits (temporaryBeside path n))
    (room : disk.nodes.length < serials) :
    disk.Reaches (temporaryBeside path (freeSerial disk path)) ∧
      disk.node? (disk.destination (temporaryBeside path (freeSerial disk path))) = none := by
  obtain ⟨fitting, fits⟩ := temporary
  have reached {n : Nat} (few : n ≤ disk.nodes.length) : disk.Reaches (temporaryBeside path n) :=
    reaches.child directory (fits_temporaryBeside fits (by omega))
  obtain ⟨free, few, nothing⟩ := exists_free disk path
  cases found : (List.range (disk.nodes.length + 1)).find? fun n =>
      (disk.pathExists (temporaryBeside path n)).toOption != some true with
  | none =>
      have taken := List.find?_eq_none.mp found free (List.mem_range.mpr (by omega))
      rw [Disk.pathExists_of_reaches (reached few), nothing] at taken
      simp [Except.toOption] at taken
  | some n =>
      have fewer := List.mem_range.mp (List.mem_of_find?_eq_some found)
      have isFree := List.find?_some found
      have reaches := reached (Nat.le_of_lt_succ fewer)
      have isFirst : freeSerial disk path = n := congrArg (fun n => Option.getD n 0) found
      rw [Disk.pathExists_of_reaches reaches] at isFree
      rw [isFirst]
      refine ⟨reaches, ?_⟩
      simpa [Except.toOption] using isFree

/-! ## Files -/

theorem isMovable_temporaryBeside (path : Path) (n : Nat) :
    Disk.isMovable (temporaryBeside path n) = true := by
  have long := path.temporaryName_length n
  have named : (temporaryBeside path n).name = path.temporaryName n := by
    simp [temporaryBeside_eq, Path.name]
  have notEmpty : path.temporaryName n ≠ "" := by
    intro none
    rw [none, String.length_empty] at long
    omega
  have notDots : path.temporaryName n ≠ ".." := by
    intro dots
    have short : "..".length = 2 := rfl
    rw [dots, short] at long
    omega
  simp [Disk.isMovable, named, notEmpty, notDots]

/-- A file is moved with the directories that are missing where it goes. -/
theorem completes_moveFile {source target : Path} {content : Content}
    (reaches : disk.Reaches source)
    (file : disk.node? (disk.destination source) = some (.file content))
    (fits : Disk.Fits target) (clear : disk.Clear target.parent)
    (movable : (Disk.isMovable source && Disk.isMovable target) = true)
    (noDirectory : disk.node? (disk.destination target) ≠ some .directory)
    (aside : ¬disk.OnWay target.parent (disk.destination target)) :
    (moveFile source target).Completes disk fun _ later =>
      later.nodes.length ≤ disk.nodes.length + target.parts.length + 1 := by
  have named := Path.parts_ne_nil_of_isMovable (Bool.and_eq_true_iff.mp movable).2
  have shorter : target.parent.parts.length + 1 = target.parts.length := by
    have some_ := List.length_pos_iff.mpr named
    simp only [Path.parent, List.length_dropLast]
    omega
  have above := (completes_ensureDirectory clear (fits.parent named) (by omega)).leads
    (leads_ensureDirectory target.parts.length target.parent)
  refine above.bind ?_
  rintro _ between ⟨⟨furnished, reachesParent, directory⟩, few⟩
  have sameCurrent := furnished.current
  have still : between.node? (between.destination source) = some (.file content) := by
    rw [Disk.destination_of_current sameCurrent]
    exact furnished.node?_some file
  have reachesTarget : between.Reaches target := by
    rw [Path.eq_concat named] at fits ⊢
    rw [← Disk.destination_of_current sameCurrent] at directory
    exact reachesParent.child directory fits
  have free : between.node? (between.destination target) ≠ some .directory := by
    rw [Disk.destination_of_current sameCurrent]
    rcases furnished.node (disk.destination target) with same | ⟨_, _, onWay⟩
    · rw [same]
      exact noDirectory
    · exact absurd onWay aside
  have replaces := (Change.apply_replace_file_eq_ok_iff still).mpr
    ⟨furnished.keeps.reaches reaches, reachesTarget, movable, free, rfl⟩
  refine completes_perform replaces ?_
  split
  · omega
  · have put := (between.erase (between.destination source)).length_put
      (between.destination target) (.file content)
    have erased := between.length_erase (between.destination source)
    omega

theorem completes_removeIfThere {content : Content} (reaches : disk.Reaches path)
    (file : disk.node? (disk.destination path) = some (.file content)) :
    (removeIfThere path).Completes disk fun _ _ => True :=
  (completes_perform (Change.apply_remove_eq_ok_iff.mpr ⟨reaches, content, file, rfl⟩)
    trivial).orElse

end Work

end AgentFlow
