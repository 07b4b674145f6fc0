import AgentFlow.Config
import AgentFlow.Proofs.Files.Homes
import AgentFlow.Proofs.Toml.Keyed

/-!
# Layers of configuration

A configuration is told field by field.  What a document sets is found under the name of a
section and a key; of two documents that are merged the second one is asked first.  Anything
else in the documents is no matter.
-/

namespace AgentFlow

open AgentFlow.Json Value

namespace Config

variable {base new document : Entries} {key name : String}

/-! ## One document -/

/-- The fields of a section. -/
def sectionAt (document : Entries) (name : String) : Entries :=
  match lookup? name document with
  | some (.table entries) => entries
  | _ => []

/-- What a document sets for a field of a section. -/
def setting? (document : Entries) (name key : String) : Option Value :=
  lookup? key (sectionAt document name)

/-- The sections that are read. -/
def sections : List String := ["paths", "agents", "macros", "logging"]

/-- The sections that are read are tables, as far as they are there. -/
def IsSectioned (document : Entries) : Prop :=
  ∀ name ∈ sections, ∀ value, lookup? name document = some value →
    ∃ entries, value = .table entries

/-- The fields of a configuration, with their sections. -/
def fields : List (String × String) :=
  [("paths", "home"), ("paths", "agents_dir"), ("paths", "temp_agents_dir"),
    ("paths", "registry_file"), ("agents", "builtins"), ("agents", "extra_builtins"),
    ("macros", "default_model"), ("logging", "level"), ("logging", "json")]

/-- The configuration with these values for its fields; a field without one has its default. -/
def ofSettings (set? : String → String → Option Value) : Config where
  paths := {
    home := (set? "paths" "home").getD (.text defaultHome)
    agentsDir := (set? "paths" "agents_dir").getD (.text "agents")
    temporaryDir := (set? "paths" "temp_agents_dir").getD (.text "temp-agents")
    registryFile := (set? "paths" "registry_file").getD (.text "agents/registry.json") }
  agents := {
    builtins := (set? "agents" "builtins").getD .null
    extraBuiltins := (set? "agents" "extra_builtins").getD (.list []) }
  macroModel := (set? "macros" "default_model").getD defaultModel
  logging := {
    level := (set? "logging" "level").getD (.text "INFO")
    json := (set? "logging" "json").getD (.bool false) }

theorem ofSettings_congr {set? others? : String → String → Option Value}
    (same : ∀ field ∈ fields, set? field.1 field.2 = others? field.1 field.2) :
    ofSettings set? = ofSettings others? := by
  simp only [fields, List.forall_mem_cons, List.not_mem_nil, false_implies, implies_true,
    and_true] at same
  simp only [ofSettings, same]

theorem section?_of_isSectioned (isSectioned : IsSectioned document)
    (known : name ∈ sections) : section? name document = .ok (sectionAt document name) := by
  unfold section? sectionAt
  cases found : lookup? name document with
  | none => rfl
  | some value =>
      obtain ⟨entries, isTable⟩ := isSectioned name known value found
      rw [isTable]

theorem ofDocument_eq (isSectioned : IsSectioned document) :
    ofDocument document = .ok (ofSettings (setting? document)) := by
  have isRead {name : String} (known : name ∈ sections) := section?_of_isSectioned isSectioned known
  unfold ofDocument
  rw [isRead (by decide), isRead (by decide), isRead (by decide), isRead (by decide)]
  rfl

/-! ## Two documents -/

theorem asEntries_cons (member : String × Value) (members : List (String × Value)) :
    asEntries (member :: members) = (.text member.1, member.2) :: asEntries members := rfl

theorem lookup?_asEntries_of_not_mem {members : List (String × Value)}
    (absent : key ∉ members.map Prod.fst) : lookup? key (asEntries members) = none := by
  induction members with
  | nil => rfl
  | cons member members induction =>
      rw [List.map_cons, List.mem_cons, not_or] at absent
      rw [asEntries_cons, lookup?_cons, if_neg (Ne.symm absent.1), induction absent.2]

/-- Of two layers of fields the second one is asked first. -/
theorem lookup?_overlay (keyed : TextKeyed new) (base : Entries) (key : String) :
    lookup? key (overlay base new) = (lookup? key new).or (lookup? key base) := by
  obtain ⟨members, distinct, whole⟩ := keyed
  subst whole
  induction members generalizing base with
  | nil => rfl
  | cons member members induction =>
      obtain ⟨fresh, distinct⟩ := List.nodup_cons.mp distinct
      rw [asEntries_cons, overlay, induction _ distinct, lookup?_insertEntry, lookup?_cons]
      by_cases here : member.1 = key
      · rw [if_pos here, if_pos here, lookup?_asEntries_of_not_mem (here ▸ fresh)]
        rfl
      · rw [if_neg here, if_neg here]

/-- The value of a section in two documents: two tables are put together. -/
def joined (old : Option Value) (value : Value) : Value :=
  match old, value with
  | some (.table old), .table new => .table (overlay old new)
  | _, value => value

theorem find?_sameKey (base : Entries) (key : String) :
    (base.find? fun (old, _) => old.sameKey (.text key)).map Prod.snd = lookup? key base := by
  induction base with
  | nil => rfl
  | cons entry base induction =>
      obtain ⟨old, value⟩ := entry
      rw [List.find?_cons]
      dsimp only
      by_cases same : old.sameKey (.text key) = true
      · rw [same]
        rw [sameKey_text_iff] at same
        subst same
        exact (if_pos rfl).symm
      · rw [Bool.eq_false_iff.mpr same, induction]
        rw [sameKey_text_iff] at same
        cases old with
        | text s => exact (if_neg fun here => same (by rw [here])).symm
        | _ => rfl

theorem mergeEntry_text (base : Entries) (key : String) (value : Value) :
    mergeEntry base (.text key) value =
      insertEntry (.text key) (joined (lookup? key base) value) base := by
  unfold mergeEntry joined
  rw [← find?_sameKey]
  cases base.find? fun (old, _) => old.sameKey (.text key) with
  | none => rfl
  | some entry =>
      obtain ⟨old, held⟩ := entry
      cases held with
      | table entries => cases value <;> rfl
      | _ => rfl

theorem lookup?_merge (keyed : TextKeyed new) (base : Entries) (name : String) :
    lookup? name (merge base new) =
      ((lookup? name new).map (joined (lookup? name base))).or (lookup? name base) := by
  obtain ⟨members, distinct, whole⟩ := keyed
  subst whole
  induction members generalizing base with
  | nil => rfl
  | cons member members induction =>
      obtain ⟨fresh, distinct⟩ := List.nodup_cons.mp distinct
      rw [asEntries_cons, merge, induction _ distinct, mergeEntry_text, lookup?_insertEntry,
        lookup?_cons]
      by_cases here : member.1 = name
      · rw [if_pos here, if_pos here, lookup?_asEntries_of_not_mem (here ▸ fresh), here]
        rfl
      · rw [if_neg here, if_neg here]

theorem isSectioned_merge (keyed : TextKeyed new) (isBase : IsSectioned base)
    (isNew : IsSectioned new) : IsSectioned (merge base new) := by
  intro name known value found
  rw [lookup?_merge keyed] at found
  cases own : lookup? name new with
  | none =>
      rw [own] at found
      exact isBase name known value found
  | some section_ =>
      obtain ⟨entries, isTable⟩ := isNew name known section_ own
      rw [own, isTable] at found
      cases found
      unfold joined
      split
      · exact ⟨_, rfl⟩
      · exact ⟨_, rfl⟩

/-- Of two documents the second one is asked first for each of its fields. -/
theorem setting?_merge (keyed : Keyed (.table new)) (isNew : IsSectioned new)
    (known : name ∈ sections) (base : Entries) (key : String) :
    setting? (merge base new) name key = (setting? new name key).or (setting? base name key) := by
  unfold setting? sectionAt
  rw [lookup?_merge keyed.textKeyed]
  cases own : lookup? name new with
  | none => rfl
  | some section_ =>
      obtain ⟨entries, isTable⟩ := isNew name known section_ own
      subst isTable
      have keyedSection := (keyed.lookup? own).textKeyed
      rw [Option.map_some, Option.some_or]
      cases lookup? name base with
      | none => exact (Option.or_none).symm
      | some old =>
          cases old with
          | table old => exact lookup?_overlay keyedSection old key
          | _ => exact (Option.or_none).symm

theorem ofDocument_merge (keyed : Keyed (.table new)) (isBase : IsSectioned base)
    (isNew : IsSectioned new) : ofDocument (merge base new) =
      .ok (ofSettings fun name key => (setting? new name key).or (setting? base name key)) := by
  rw [ofDocument_eq (isSectioned_merge keyed.textKeyed isBase isNew)]
  refine congrArg Except.ok (ofSettings_congr fun field member => ?_)
  refine setting?_merge keyed isNew ?_ base field.2
  revert member
  revert field
  decide

end Config

end AgentFlow
