import AgentFlow.Proofs.Config.Loading
import AgentFlow.Proofs.Files.Disk
import AgentFlow.Proofs.Toml.Refusal

/-!
# Configurations that are refused

A configuration is refused for what stands at the path of a file, or for a section that is no
table.  A directory and a malformed text are errors of the configuration.  Octets that are no
text, values that nest too deep, integers with too many digits and sections that are no tables
are faults that nobody expects.
-/

namespace AgentFlow

open AgentFlow.Json AgentFlow.Number AgentFlow.Text
open Value (Keyed lookup?)

/-- Whether something stands at a path can be told. -/
def Disk.Answers (disk : Disk) (path : Path) : Prop :=
  ∃ isThere, disk.pathExists path = .ok isThere

namespace Config

variable {disk : Disk} {homes : Homes} {project path shared own : Path} {home : Option String}
  {document sharedDocument ownDocument : Entries} {error : Error} {kind : Value.Kind}

/-! ## Files -/

/-- How what stands at a path is refused as a document. -/
inductive Refused (path : Path) : Node → Error → Prop where
  | directory : Refused path .directory (.config (.file .isADirectory) path)
  | malformed {content : Content} {text : String} : content.readExact = .ok text →
      Toml.read text = .error .malformed → Refused path (.file content) (.config .toml path)
  | octets {content : Content} {fault : Utf8Fault} : content.readExact = .error fault →
      Refused path (.file content) (.unexpected (.utf8 fault))
  | depth {content : Content} {text : String} : content.readExact = .ok text →
      Toml.read text = .error .tooDeep →
      Refused path (.file content) (.unexpected (.value .tooDeep))
  | digits {content : Content} {text : String} {count : Nat} : content.readExact = .ok text →
      Toml.read text = .error (.number (.tooLong count)) → maxDigits < count →
      Refused path (.file content) (.unexpected (.integer (.tooLong count)))

/-- What stands at a path is refused. -/
def RefusedAt (disk : Disk) (path : Path) (error : Error) : Prop :=
  disk.Reaches path ∧
    ∃ node, disk.node? (disk.destination path) = some node ∧ Refused path node error

/-- The document that what stands at a path is read as. -/
def ofNode (path : Path) : Node → Except Error Entries
  | .directory => .error (.config (.file .isADirectory) path)
  | .file content =>
    match content.readExact with
    | .error fault => .error (.unexpected (.utf8 fault))
    | .ok text =>
      match Toml.read text with
      | .ok document => .ok document
      | .error .malformed => .error (.config .toml path)
      | .error fault => .error (.unexpected (.ofToml fault))

theorem ofNode_eq_error_iff {node : Node} :
    ofNode path node = .error error ↔ Refused path node error := by
  constructor
  · intro failed
    cases node with
    | directory =>
        cases failed
        exact .directory
    | file content =>
        unfold ofNode at failed
        dsimp only at failed
        split at failed
        · rename_i octets
          cases failed
          exact .octets octets
        · rename_i text reads
          split at failed
          · cases failed
          · rename_i malformed
            cases failed
            exact .malformed reads malformed
          · rename_i notMalformed refused
            cases failed
            cases Toml.refuses_read text _ refused with
            | malformed => exact absurd rfl notMalformed
            | depth => exact .depth reads refused
            | digits long => exact .digits reads refused long
  · intro refused
    cases refused with
    | directory => rfl
    | malformed reads refused => simp only [ofNode, reads, refused]
    | octets refused => simp only [ofNode, refused]
    | depth reads refused =>
        simp only [ofNode, reads, refused]
        rfl
    | digits reads refused _ =>
        simp only [ofNode, reads, refused]
        rfl

theorem readDocument_of_node {node : Node} (reaches : disk.Reaches path)
    (found : disk.node? (disk.destination path) = some node) :
    readDocument disk path = ofNode path node := by
  have isThere : disk.pathExists path = .ok true := by
    rw [Disk.pathExists_of_reaches reaches, found]
    rfl
  unfold readDocument
  rw [isThere]
  cases node with
  | directory =>
      have refused : disk.readExact path = .error (.file .isADirectory) := by
        unfold Disk.readExact Disk.fileAt
        rw [reaches.place]
        simp [found, bind, Except.bind]
      rw [refused]
      rfl
  | file content =>
      have reads : disk.readExact path = content.readExact.mapError .utf8 := by
        unfold Disk.readExact
        rw [Disk.fileAt_eq_ok_iff.mpr ⟨reaches, rfl, found⟩]
        rfl
      rw [reads, ofNode]
      cases content.readExact <;> rfl

theorem readDocument_eq_error_iff (answers : disk.Answers path) :
    readDocument disk path = .error error ↔ RefusedAt disk path error := by
  constructor
  · intro failed
    obtain ⟨isThere, asked⟩ := answers
    cases isThere with
    | false =>
        rw [readDocument_eq_ok_iff.mpr (.absent asked)] at failed
        cases failed
    | true =>
        obtain ⟨reaches, some_⟩ := Disk.pathExists_eq_true_iff.mp asked
        obtain ⟨node, found⟩ := Option.isSome_iff_exists.mp some_
        rw [readDocument_of_node reaches found, ofNode_eq_error_iff] at failed
        exact ⟨reaches, node, found, failed⟩
  · intro ⟨reaches, node, found, refused⟩
    rw [readDocument_of_node reaches found, ofNode_eq_error_iff]
    exact refused

/-! ## Sections -/

/-- The kind of a section that is there and is no table. -/
def strayKind? (found : Option Value) : Option Value.Kind :=
  match found with
  | none => none
  | some (.table _) => none
  | some value => some value.kind

/-- The kind of the first section that is no table, in the order in which they are read. -/
def firstStray? (find? : String → Option Value) : Option Value.Kind :=
  sections.findSome? fun name => strayKind? (find? name)

theorem firstStray?_congr {find? others? : String → Option Value}
    (same : ∀ name, strayKind? (find? name) = strayKind? (others? name)) :
    firstStray? find? = firstStray? others? := by
  unfold firstStray?
  simp only [same]

theorem section?_eq (name : String) (document : Entries) : section? name document =
      match strayKind? (lookup? name document) with
      | none => .ok (sectionAt document name)
      | some kind => .error (.wrongKind .fields kind) := by
  unfold section? sectionAt
  cases lookup? name document with
  | none => rfl
  | some value => cases value <;> rfl

theorem ofDocument_eq_error_iff {fault : ValueFault} :
    ofDocument document = .error fault ↔
      ∃ kind, firstStray? (lookup? · document) = some kind ∧ fault = .wrongKind .fields kind := by
  unfold ofDocument firstStray? sections
  simp only [section?_eq, List.findSome?_cons, List.findSome?_nil]
  cases strayKind? (lookup? "paths" document) with
  | some kind => simp [bind, Except.bind, eq_comm]
  | none =>
      cases strayKind? (lookup? "agents" document) with
      | some kind => simp [bind, Except.bind, eq_comm]
      | none =>
          cases strayKind? (lookup? "macros" document) with
          | some kind => simp [bind, Except.bind, eq_comm]
          | none =>
              cases strayKind? (lookup? "logging" document) with
              | some kind => simp [bind, Except.bind, eq_comm]
              | none => simp [bind, Except.bind]

/-- Of two documents that are merged the second one tells whether a section is a table. -/
theorem firstStray?_merge (keyed : Keyed (.table ownDocument)) (sharedDocument : Entries) :
    firstStray? (lookup? · (merge sharedDocument ownDocument)) =
      firstStray? fun name => (lookup? name ownDocument).or (lookup? name sharedDocument) := by
  refine firstStray?_congr fun name => ?_
  rw [lookup?_merge keyed.textKeyed]
  cases lookup? name ownDocument with
  | none => rfl
  | some value =>
      rw [Option.map_some, Option.some_or, Option.some_or]
      unfold joined
      split <;> rfl

theorem ofEntries_eq_error_iff :
    ofEntries document = .error error ↔
      ∃ kind, firstStray? (lookup? · document) = some kind ∧
        error = .unexpected (.value (.wrongKind .fields kind)) := by
  unfold ofEntries
  rw [mapError_eq_error_iff]
  constructor
  · intro ⟨fault, failed, same⟩
    obtain ⟨kind, stray, isKind⟩ := ofDocument_eq_error_iff.mp failed
    exact ⟨kind, stray, by rw [← same, isKind]⟩
  · intro ⟨kind, stray, same⟩
    exact ⟨_, ofDocument_eq_error_iff.mpr ⟨kind, stray, rfl⟩, same.symm⟩

/-! ## Loading -/

/-- How the configuration of one file is refused. -/
inductive FileRefused (disk : Disk) (path : Path) : Error → Prop where
  | file {error : Error} : RefusedAt disk path error → FileRefused disk path error
  | section_ {document : Entries} {kind : Value.Kind} : Holds disk path document →
      firstStray? (lookup? · document) = some kind →
      FileRefused disk path (.unexpected (.value (.wrongKind .fields kind)))

/-- How the configuration of two files is refused.  The second file is read if the first one is
a document, and a section is that of the second file if it is there. -/
inductive LoadRefused (disk : Disk) (shared own : Path) : Error → Prop where
  | shared {error : Error} : RefusedAt disk shared error → LoadRefused disk shared own error
  | own {document : Entries} {error : Error} : Holds disk shared document →
      RefusedAt disk own error → LoadRefused disk shared own error
  | section_ {sharedDocument ownDocument : Entries} {kind : Value.Kind} :
      Holds disk shared sharedDocument → Holds disk own ownDocument →
      (firstStray? fun name => (lookup? name ownDocument).or (lookup? name sharedDocument)) =
        some kind →
      LoadRefused disk shared own (.unexpected (.value (.wrongKind .fields kind)))

theorem ofFile_eq_error_iff (answers : disk.Answers path) :
    ofFile disk path = .error error ↔ FileRefused disk path error := by
  unfold ofFile
  rw [bind_eq_error_iff, readDocument_eq_error_iff answers]
  constructor
  · intro failed
    rcases failed with refused | ⟨document, read, failed⟩
    · exact .file refused
    · obtain ⟨kind, stray, same⟩ := ofEntries_eq_error_iff.mp failed
      rw [same]
      exact .section_ (readDocument_eq_ok_iff.mp read) stray
  · intro refused
    cases refused with
    | file refused => exact .inl refused
    | section_ holds stray =>
        exact .inr ⟨_, readDocument_eq_ok_iff.mpr holds,
          ofEntries_eq_error_iff.mpr ⟨_, stray, rfl⟩⟩

/-- Loading is reading two documents and merging them. -/
theorem load_fails_iff (globalPath : globalFile homes home = .ok shared)
    (projectPath : projectFile disk project = .ok own) :
    load disk homes project home = .error error ↔
      (do
        let sharedDocument ← readDocument disk shared
        let ownDocument ← readDocument disk own
        ofEntries (merge sharedDocument ownDocument)) = .error error := by
  unfold load
  rw [globalPath, projectPath]
  change (readDocument disk shared >>= _) = _ ↔ _
  cases readDocument disk shared with
  | error e => exact Iff.rfl
  | ok sharedDocument =>
      change (readDocument disk own >>= _) = _ ↔ (readDocument disk own >>= _) = _
      cases readDocument disk own with
      | error e => exact Iff.rfl
      | ok ownDocument =>
          change (ofEntries (merge sharedDocument ownDocument) >>= _) = _ ↔
            ofEntries (merge sharedDocument ownDocument) = _
          cases ofEntries (merge sharedDocument ownDocument) with
          | error e => exact Iff.rfl
          | ok config =>
              cases home with
              | none => exact Iff.rfl
              | some given => exact iff_of_false nofun nofun

theorem load_eq_error_iff (globalPath : globalFile homes home = .ok shared)
    (projectPath : projectFile disk project = .ok own) (sharedAnswers : disk.Answers shared)
    (ownAnswers : disk.Answers own) :
    load disk homes project home = .error error ↔ LoadRefused disk shared own error := by
  rw [load_fails_iff globalPath projectPath, bind_eq_error_iff,
    readDocument_eq_error_iff sharedAnswers]
  constructor
  · intro failed
    rcases failed with refused | ⟨sharedDocument, readShared, failed⟩
    · exact .shared refused
    have shares := readDocument_eq_ok_iff.mp readShared
    rcases bind_eq_error_iff.mp failed with refused | ⟨ownDocument, readOwn, failed⟩
    · exact .own shares ((readDocument_eq_error_iff ownAnswers).mp refused)
    · have owns := readDocument_eq_ok_iff.mp readOwn
      obtain ⟨kind, stray, same⟩ := ofEntries_eq_error_iff.mp failed
      rw [firstStray?_merge (keyed_of_holds owns)] at stray
      rw [same]
      exact .section_ shares owns stray
  · intro refused
    cases refused with
    | shared refused => exact .inl refused
    | own shares refused =>
        exact .inr ⟨_, readDocument_eq_ok_iff.mpr shares,
          bind_eq_error_iff.mpr (.inl ((readDocument_eq_error_iff ownAnswers).mpr refused))⟩
    | section_ shares owns stray =>
        refine .inr ⟨_, readDocument_eq_ok_iff.mpr shares,
          bind_eq_error_iff.mpr (.inr ⟨_, readDocument_eq_ok_iff.mpr owns, ?_⟩)⟩
        exact ofEntries_eq_error_iff.mpr
          ⟨_, (firstStray?_merge (keyed_of_holds owns) _).trans stray, rfl⟩

/-! ## Errors -/

/-- The varieties of the faults that a configuration is refused for without an error of its
own. -/
def strayVarieties : List Fault.Variety := [.encoding, .depth, .badValue, .noSuchPart]

/-- An error of the configuration at one of some paths, or a fault that nobody expects. -/
def IsRefusal (paths : List Path) (error : Error) : Prop :=
  (∃ path ∈ paths, ∃ fault, error = .config fault path) ∨
    ∃ fault, fault.variety ∈ strayVarieties ∧ error = .unexpected fault

theorem RefusedAt.isRefusal (refused : RefusedAt disk path error) {paths : List Path}
    (listed : path ∈ paths) : IsRefusal paths error := by
  obtain ⟨_, node, _, refused⟩ := refused
  cases refused with
  | directory => exact .inl ⟨path, listed, _, rfl⟩
  | malformed _ _ => exact .inl ⟨path, listed, _, rfl⟩
  | octets _ => exact .inr ⟨_, by simp [strayVarieties, Fault.variety], rfl⟩
  | depth _ _ => exact .inr ⟨_, by simp [strayVarieties, Fault.variety], rfl⟩
  | digits _ _ _ => exact .inr ⟨_, by simp [strayVarieties, Fault.variety], rfl⟩

theorem FileRefused.isRefusal (refused : FileRefused disk path error) :
    IsRefusal [path] error := by
  cases refused with
  | file refused => exact refused.isRefusal List.mem_cons_self
  | section_ _ _ => exact .inr ⟨_, by simp [strayVarieties, Fault.variety], rfl⟩

theorem LoadRefused.isRefusal (refused : LoadRefused disk shared own error) :
    IsRefusal [shared, own] error := by
  cases refused with
  | shared refused => exact refused.isRefusal List.mem_cons_self
  | own _ refused => exact refused.isRefusal (List.mem_cons_of_mem _ List.mem_cons_self)
  | section_ _ _ _ => exact .inr ⟨_, by simp [strayVarieties, Fault.variety], rfl⟩

end Config

end AgentFlow
