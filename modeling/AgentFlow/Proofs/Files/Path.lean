import AgentFlow.Agent.Descriptor
import AgentFlow.Proofs.Text.Blank
import Mathlib.Logic.Basic

/-!
# Texts of paths

The text of a path that some text spells spells the same path again, so a path can be
kept as a text.  The name of a definition file is an identifier with a suffix, which a
path takes as one name.
-/

namespace AgentFlow

open AgentFlow.Text

namespace Path

/-- What the slashes and the names of a path are if a text spells it. -/
structure IsSpelled (p : Path) : Prop where
  slashes : p.slashes ≤ 2
  names : ∀ part ∈ p.parts, isName part.toList = true ∧ '/' ∉ part.toList

theorem splitAtSlashes_eq_splitOn (cs : List Char) : splitAtSlashes cs = cs.splitOn '/' := by
  induction cs with
  | nil => rfl
  | cons c cs induction =>
      rw [splitAtSlashes, List.splitOn_cons_eq_if_modifyHead, induction]
      by_cases slash : c = '/'
      · simp [slash]
      · obtain ⟨piece, pieces, shape⟩ := List.exists_cons_of_ne_nil (List.splitOn_ne_nil '/' cs)
        simp [slash, shape]

theorem not_slash_of_mem_splitAtSlashes {cs piece : List Char}
    (member : piece ∈ splitAtSlashes cs) : '/' ∉ piece := by
  induction cs generalizing piece with
  | nil =>
      obtain rfl := List.mem_singleton.mp member
      nofun
  | cons c cs induction =>
      rw [splitAtSlashes] at member
      split at member
      · rcases List.mem_cons.mp member with rfl | later
        · nofun
        · exact induction later
      · rename_i noSlash
        split at member
        · obtain rfl := List.mem_singleton.mp member
          simpa using fun same => noSlash (Eq.symm same)
        · rename_i first others shape
          rw [shape] at induction
          rcases List.mem_cons.mp member with rfl | later
          · have noneInFirst := induction List.mem_cons_self
            simp [noneInFirst, Ne.symm noSlash]
          · exact induction (List.mem_cons_of_mem first later)

theorem leadingSlashes_le (cs : List Char) : leadingSlashes cs ≤ 2 := by
  unfold leadingSlashes
  simp only
  split <;> omega

theorem isSpelled_ofText (s : String) : (ofText s).IsSpelled where
  slashes := leadingSlashes_le s.toList
  names := by
    intro part member
    obtain ⟨piece, kept, rfl⟩ := List.mem_map.mp member
    obtain ⟨isPiece, named⟩ := List.mem_filter.mp kept
    rw [String.toList_ofList]
    exact ⟨named, not_slash_of_mem_splitAtSlashes isPiece⟩

/-- The name of a path is the last of its names. -/
theorem parts_eq_concat {p : Path} (named : p.parts ≠ []) :
    p.parts = p.parts.dropLast ++ [p.name] := by
  rw [name, List.getLastD_eq_getLast?, List.getLast?_eq_some_getLast named]
  exact (List.dropLast_append_getLast named).symm

theorem eq_concat {p : Path} (named : p.parts ≠ []) :
    p = ⟨p.slashes, p.parts.dropLast ++ [p.name]⟩ := by
  rw [← parts_eq_concat named]

/-! ## Reading a text of a path -/

theorem leadingSlashes_replicate {slashes : Nat} (few : slashes ≤ 2) {body : List Char}
    (noSlash : body.head? ≠ some '/') :
    leadingSlashes (List.replicate slashes '/' ++ body) = slashes := by
  have taken : (List.replicate slashes '/' ++ body).takeWhile (· == '/') =
      List.replicate slashes '/' := by
    rw [List.takeWhile_append_of_pos (by simp)]
    cases body with
    | nil => simp
    | cons c cs =>
        have other : c ≠ '/' := fun same => noSlash (same ▸ rfl)
        simp [other]
  unfold leadingSlashes
  simp only [taken, List.length_replicate]
  split <;> omega

theorem splitAtSlashes_replicate (slashes : Nat) (body : List Char) :
    (splitAtSlashes (List.replicate slashes '/' ++ body)).filter isName =
      (splitAtSlashes body).filter isName := by
  induction slashes with
  | zero => rfl
  | succ slashes induction =>
      rw [List.replicate_succ, List.cons_append, splitAtSlashes, if_pos rfl]
      exact induction

theorem splitAtSlashes_intercalate {pieces : List (List Char)} (some_ : pieces ≠ [])
    (noSlash : ∀ piece ∈ pieces, '/' ∉ piece) :
    splitAtSlashes (['/'].intercalate pieces) = pieces := by
  rw [splitAtSlashes_eq_splitOn, List.splitOn_intercalate '/' noSlash some_]

theorem head?_intercalate {pieces : List (List Char)}
    (named : ∀ piece ∈ pieces, isName piece = true ∧ '/' ∉ piece) :
    (['/'].intercalate pieces).head? ≠ some '/' := by
  cases pieces with
  | nil => nofun
  | cons piece pieces =>
      obtain ⟨name, noSlash⟩ := named piece List.mem_cons_self
      cases piece with
      | nil => cases name
      | cons c cs =>
          intro head
          have first : c = '/' := by
            cases pieces with
            | nil => simpa using head
            | cons next others => simpa using head
          exact noSlash (first ▸ List.mem_cons_self)

theorem toList_text {p : Path} (named : ¬(p.slashes = 0 ∧ p.parts.isEmpty = true)) :
    p.text.toList =
      List.replicate p.slashes '/' ++ ['/'].intercalate (p.parts.map String.toList) := by
  unfold text
  rw [if_neg named, String.toList_append, String.toList_ofList, String.toList_intercalate]
  rfl

/-- The text of a path spells the path. -/
theorem ofText_text {p : Path} (spelled : p.IsSpelled) : ofText p.text = p := by
  obtain ⟨slashes, parts⟩ := p
  have named : ∀ piece ∈ parts.map String.toList, isName piece = true ∧ '/' ∉ piece := by
    intro piece member
    obtain ⟨part, inParts, rfl⟩ := List.mem_map.mp member
    exact spelled.names part inParts
  by_cases isCurrent : slashes = 0 ∧ parts.isEmpty = true
  · obtain ⟨rfl, none⟩ := isCurrent
    obtain rfl := List.isEmpty_iff.mp none
    decide
  · have leading := leadingSlashes_replicate spelled.slashes (head?_intercalate named)
    have kept : (splitAtSlashes (['/'].intercalate (parts.map String.toList))).filter isName =
        parts.map String.toList := by
      cases parts with
      | nil => rfl
      | cons part parts =>
          rw [splitAtSlashes_intercalate (by simp) fun piece member => (named piece member).2,
            List.filter_eq_self]
          exact fun piece member => (named piece member).1
    have spelling := @toList_text ⟨slashes, parts⟩ isCurrent
    have restored : (parts.map String.toList).map String.ofList = parts := by
      rw [List.map_map]
      exact (List.map_congr_left fun part _ => String.ofList_toList).trans (List.map_id parts)
    unfold ofText
    simp only [spelling, leading, splitAtSlashes_replicate, kept, restored]

/-- The last name of a path ends its text, and what is before it is hardly shorter than
the text of the path above. -/
theorem text_concat (slashes : Nat) (names : List String) :
    ∃ lead, (∀ name, (⟨slashes, names ++ [name]⟩ : Path).text = lead ++ name) ∧
      (⟨slashes, names⟩ : Path).text.utf8ByteSize ≤ max 1 lead.utf8ByteSize := by
  cases names with
  | nil =>
      refine ⟨String.ofList (List.replicate slashes '/'), fun name => ?_, ?_⟩
      · simp [text]
      · by_cases relative : slashes = 0
        · subst relative
          decide
        · have spelled : (⟨slashes, []⟩ : Path).text =
              String.ofList (List.replicate slashes '/') := by
            simp [text, relative]
          rw [spelled]
          exact Nat.le_max_right _ _
  | cons first names =>
      refine ⟨String.ofList (List.replicate slashes '/') ++
        ("/".intercalate (first :: names) ++ "/"), fun name => ?_, ?_⟩
      · have shape : "/".intercalate (first :: names ++ [name]) =
            "/".intercalate (first :: names) ++ "/" ++ name := by
          rw [String.intercalate_append_of_ne_nil (by simp) (by simp),
            String.intercalate_singleton]
        simp only [text]
        rw [if_neg (by simp), shape]
        simp only [String.append_assoc]
      · simp only [text]
        rw [if_neg (by simp)]
        simp only [String.utf8ByteSize_append]
        omega

/-! ## Names of files -/

theorem ofText_name {s : String} (named : isName s.toList = true) (noSlash : '/' ∉ s.toList) :
    ofText s = ⟨0, [s]⟩ := by
  have spelled : (⟨0, [s]⟩ : Path).IsSpelled := by
    refine ⟨Nat.zero_le _, ?_⟩
    intro part member
    obtain rfl := List.mem_singleton.mp member
    exact ⟨named, noSlash⟩
  have spells : (⟨0, [s]⟩ : Path).text = s := by
    rw [← String.toList_inj, toList_text (by simp)]
    simp
  rw [← spells, ofText_text spelled, spells]

theorem child_of_name {s : String} (p : Path) (named : isName s.toList = true)
    (noSlash : '/' ∉ s.toList) : p.child s = ⟨p.slashes, p.parts ++ [s]⟩ := by
  rw [child, ofText_name named noSlash, join_relative rfl]

end Path

/-! ## Definition files -/

theorem isName_definition (name : String) :
    Path.isName (name ++ definitionSuffix).toList = true := by
  rw [String.toList_append]
  cases name.toList with
  | nil => decide
  | cons c cs => simp [Path.isName, definitionSuffix]

theorem not_slash_definition {name : String} (identifier : isIdentifier name = true) :
    '/' ∉ (name ++ definitionSuffix).toList := by
  rw [String.toList_append, List.mem_append, not_or]
  refine ⟨?_, by decide⟩
  intro slash
  have inName : isIdentifierChar '/' = true := by
    unfold isIdentifier spellsIdentifier at identifier
    rw [Bool.and_eq_true, List.all_eq_true] at identifier
    exact identifier.2 '/' slash
  exact absurd inName (by decide)

/-- The definition of an agent lies right in its directory. -/
theorem definitionPath_eq {directory : Path} {name : String}
    (identifier : isIdentifier name = true) :
    definitionPath directory name =
      ⟨directory.slashes, directory.parts ++ [name ++ definitionSuffix]⟩ :=
  directory.child_of_name (isName_definition name) (not_slash_definition identifier)

theorem name_definitionPath {directory : Path} {name : String}
    (identifier : isIdentifier name = true) :
    (definitionPath directory name).name = name ++ definitionSuffix := by
  rw [definitionPath_eq identifier]
  simp [Path.name]

theorem definition_ne_empty (name : String) : name ++ definitionSuffix ≠ "" := by
  intro empty
  exact absurd (String.append_eq_empty_iff.mp empty).2 (by decide)

theorem definition_ne_dots (name : String) : name ++ definitionSuffix ≠ ".." := by
  intro same
  have last := congrArg (fun s : String => s.toList.getLast?) same
  simp [definitionSuffix, String.toList_append, List.getLast?_append] at last

theorem isSpelled_definitionPath {directory : Path} {name : String}
    (spelled : directory.IsSpelled) (identifier : isIdentifier name = true) :
    (definitionPath directory name).IsSpelled := by
  rw [definitionPath_eq identifier]
  refine ⟨spelled.slashes, ?_⟩
  intro part member
  rcases List.mem_append.mp member with before | last
  · exact spelled.names part before
  · obtain rfl := List.mem_singleton.mp last
    exact ⟨isName_definition name, not_slash_definition identifier⟩

end AgentFlow
