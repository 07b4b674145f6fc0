import AgentFlow.Proofs.Json.Integer
import AgentFlow.Proofs.Json.Object
import AgentFlow.Proofs.Json.Text
import AgentFlow.Proofs.Text.Lines

/-!
# Written documents are read back

A document whose members have distinct keys, whose integers are not too long and whose
objects are not nested too deep is read back as the value it says.  Reading goes along
the layout: the value of a member is read in front of the comma or the line feed that
follows it.
-/

namespace AgentFlow.Json

open AgentFlow.Number AgentFlow.Text

namespace Document

mutual

/-- What a document says. -/
def toValue : Document → Value
  | .text s => .text s
  | .int n => .int n
  | .object members => .table (asEntries (memberValues members))

/-- What the members of an object say. -/
def memberValues : List (String × Document) → List (String × Value)
  | [] => []
  | (key, document) :: members => (key, document.toValue) :: memberValues members

end

mutual

/-- A document that a reader with some room for objects in each other understands. -/
def Readable (room : Nat) : Document → Prop
  | .text _ => True
  | .int n => n.natAbs < Nat.pow 10 maxDigits
  | .object members =>
    0 < room ∧ (members.map Prod.fst).Nodup ∧ ReadableMembers (room - 1) members

/-- `Readable` for the members of an object. -/
def ReadableMembers (room : Nat) : List (String × Document) → Prop
  | [] => True
  | (_, document) :: members => document.Readable room ∧ ReadableMembers room members

end

theorem memberValues_keys (members : List (String × Document)) :
    (memberValues members).map Prod.fst = members.map Prod.fst := by
  induction members with
  | nil => rfl
  | cons member members induction => simp [memberValues, induction]

end Document

open Document

/-! ## Layout -/

theorem skipSpace_cons {c : Char} (noSpace : isSpace c = false) (cs : List Char) :
    skipSpace (c :: cs) = c :: cs := by
  simp [skipSpace, noSpace]

theorem skipSpace_newLine (level : Nat) {c : Char} (noSpace : isSpace c = false)
    (cs : List Char) : skipSpace (newLine level ++ c :: cs) = c :: cs := by
  have blanks : ∀ d ∈ newLine level, isSpace d = true := by
    intro d member
    rcases List.mem_cons.mp member with rfl | inIndentation
    · rfl
    · obtain rfl := List.eq_of_mem_replicate inIndentation
      rfl
  unfold skipSpace
  rw [List.dropWhile_append_of_pos blanks]
  exact skipSpace_cons noSpace cs

theorem ends_newLine (level : Nat) (rest : List Char) : Ends (newLine level ++ rest) :=
  ends_cons (Or.inr rfl) _

theorem encodeString_append (cs rest : List Char) :
    encodeString cs ++ rest = '"' :: (cs.flatMap encodeChar ++ '"' :: rest) := by
  simp [encodeString]

theorem isSpace_digit {c : Char} (isDigit : c.isDigit = true) : isSpace c = false := by
  have differs {d : Char} (other : d.isDigit = false) : c ≠ d := by
    rintro rfl
    rw [isDigit] at other
    cases other
  simp [isSpace, differs]

theorem render_head (level : Nat) (document : Document) :
    ∃ c cs, document.render level = c :: cs ∧ isSpace c = false := by
  cases document with
  | text s => exact ⟨'"', _, rfl, rfl⟩
  | int n =>
      cases n with
      | ofNat n =>
          cases shape : Nat.toDigits 10 n with
          | nil => exact absurd shape Nat.toDigits_ne_nil
          | cons c cs =>
              refine ⟨c, cs, ?_, isSpace_digit (isDigit_toDigits c (shape ▸ List.mem_cons_self))⟩
              rw [render]
              exact shape
      | negSucc n => exact ⟨'-', _, rfl, rfl⟩
  | object members =>
      cases members with
      | nil => exact ⟨'{', _, rfl, rfl⟩
      | cons member members => exact ⟨'{', _, rfl, rfl⟩

theorem skipSpace_render (level : Nat) (document : Document) (rest : List Char) :
    skipSpace (document.render level ++ rest) = document.render level ++ rest := by
  obtain ⟨c, cs, shape, noSpace⟩ := render_head level document
  rw [shape]
  exact skipSpace_cons noSpace _

/-! ## Reading along the layout -/

theorem length_renderMember (level : Nat) (key : String) (document : Document) :
    (document.render level).length + 4 ≤ (renderMember level (key, document)).length := by
  simp only [renderMember, encodeString, List.length_append, List.length_cons, List.length_nil]
  omega

theorem readMembers_member {level fuel room : Nat} {key : String} {document : Document}
    {rest : List Char}
    (value : readValue fuel room (document.render level ++ rest) =
      .ok (document.toValue, rest)) :
    readMembers (fuel + 1) room (renderMember level (key, document) ++ rest) =
      match skipSpace rest with
      | '}' :: rest => .ok ([(key, document.toValue)], rest)
      | ',' :: rest => do
        let (members, rest) ← readMembers fuel room (skipSpace rest)
        .ok ((key, document.toValue) :: members, rest)
      | _ => .error .malformed := by
  have shape : renderMember level (key, document) ++ rest =
      '"' :: (key.toList.flatMap encodeChar ++
        '"' :: (':' :: ' ' :: (document.render level ++ rest))) := by
    simp [renderMember, encodeString_append]
  have colon : skipSpace (':' :: ' ' :: (document.render level ++ rest)) =
      ':' :: ' ' :: (document.render level ++ rest) :=
    skipSpace_cons rfl _
  have blank : skipSpace (' ' :: (document.render level ++ rest)) =
      document.render level ++ rest :=
    skipSpace_render level document rest
  rw [shape, readMembers]
  simp only [decodeString?_encode, colon, blank, value, String.ofList_toList]
  rfl

mutual

/-- A readable document is read back in front of any rest that ends it. -/
theorem readValue_render (document : Document) {level fuel room : Nat} {rest : List Char}
    (readable : document.Readable room) (enough : (document.render level).length ≤ fuel)
    (ends : Ends rest) :
    readValue fuel room (document.render level ++ rest) = .ok (document.toValue, rest) := by
  obtain ⟨fuel, rfl⟩ : ∃ smaller, fuel = smaller + 1 := by
    obtain ⟨c, cs, shape, _⟩ := render_head level document
    rw [shape, List.length_cons] at enough
    exact ⟨fuel - 1, by omega⟩
  match document with
  | .text s =>
      rw [render, encodeString_append, readValue]
      simp only [decodeString?_encode, String.ofList_toList]
      rfl
  | .int n =>
      rw [render]
      exact readValue_integer readable ends fuel room
  | .object [] =>
      have someRoom : room ≠ 0 := Nat.pos_iff_ne_zero.mp readable.1
      rw [render]
      simp only [List.cons_append, List.nil_append]
      rw [readValue, if_neg someRoom, skipSpace_cons rfl]
      rfl
  | .object (member :: members) =>
      obtain ⟨positive, distinct, readable⟩ := readable
      have someRoom : room ≠ 0 := Nat.pos_iff_ne_zero.mp positive
      have shorter : (renderMember (level + 1) member ++ renderMembers (level + 1) members).length ≤
          fuel := by
        rw [render] at enough
        simp only [List.length_append, List.length_cons] at enough ⊢
        omega
      have body := @readMembers_render member members (level + 1) level fuel (room - 1) rest
        readable shorter
      obtain ⟨tail, shape⟩ : ∃ tail, renderMember (level + 1) member ++
          (renderMembers (level + 1) members ++ (newLine level ++ '}' :: rest)) = '"' :: tail := by
        rw [renderMember, encodeString_append]
        exact ⟨_, rfl⟩
      have keys : ((memberValues (member :: members)).map Prod.fst).Nodup := by
        rw [memberValues_keys]
        exact distinct
      rw [render]
      simp only [List.append_assoc, List.cons_append, List.nil_append]
      rw [shape] at body ⊢
      rw [readValue, if_neg someRoom, skipSpace_newLine (level + 1) rfl]
      show (readMembers fuel (room - 1) ('"' :: tail)).map _ = _
      rw [body]
      show Except.ok (Value.table (gather (memberValues (member :: members))), rest) = _
      rw [gather_distinct keys]
      rfl
termination_by fuel

/-- List counterpart of `readValue_render`. -/
theorem readMembers_render (member : String × Document) (members : List (String × Document))
    {level outer fuel room : Nat} {rest : List Char}
    (readable : ReadableMembers room (member :: members))
    (enough : (renderMember level member ++ renderMembers level members).length ≤ fuel) :
    readMembers fuel room
        (renderMember level member ++
          (renderMembers level members ++ (newLine outer ++ '}' :: rest))) =
      .ok (memberValues (member :: members), rest) := by
  obtain ⟨key, document⟩ := member
  obtain ⟨readable, others⟩ := readable
  have shorter := length_renderMember level key document
  rw [List.length_append] at enough
  obtain ⟨fuel, rfl⟩ : ∃ smaller, fuel = smaller + 1 := ⟨fuel - 1, by omega⟩
  match members with
  | [] =>
      have value := @readValue_render document level fuel room (newLine outer ++ '}' :: rest)
        readable (by omega) (ends_newLine outer _)
      rw [renderMembers, List.nil_append, readMembers_member value,
        skipSpace_newLine outer rfl]
      rfl
  | next :: members =>
      have value := @readValue_render document level fuel room
        (renderMembers level (next :: members) ++ (newLine outer ++ '}' :: rest))
        readable (by omega) (ends_cons (Or.inl rfl) _)
      rw [renderMembers] at enough
      have following := @readMembers_render next members level outer fuel room rest others (by
        simp only [List.length_append, List.length_cons] at enough ⊢
        omega)
      obtain ⟨tail, shape⟩ : ∃ tail, renderMember level next ++
          (renderMembers level members ++ (newLine outer ++ '}' :: rest)) = '"' :: tail := by
        rw [renderMember, encodeString_append]
        exact ⟨_, rfl⟩
      rw [readMembers_member value, renderMembers]
      simp only [List.append_assoc, List.cons_append]
      rw [shape] at following ⊢
      rw [skipSpace_cons rfl]
      simp only [skipSpace_newLine level (c := '"') rfl, following]
      rfl
termination_by fuel

end

/-- The content of a written file is read back as what the document says. -/
theorem read_fileText {document : Document} (readable : document.Readable maxDepth) :
    Json.read document.fileText = .ok document.toValue := by
  have enough : (document.render 0).length ≤ 2 * (document.render 0 ++ ['\n']).length + 2 := by
    rw [List.length_append]
    omega
  have value := readValue_render document readable enough (ends_cons (Or.inr rfl) [])
  unfold Json.read Document.fileText
  simp only [String.toList_ofList, skipSpace_render, value]
  rfl

/-! ## Written characters -/

/-- A character of a written document: a line feed, or printable ASCII. -/
def IsWritten (c : Char) : Prop := c = '\n' ∨ 0x20 ≤ c.toNat ∧ c.toNat ≤ 0x7E

theorem isWritten_newLine (level : Nat) : ∀ c ∈ newLine level, IsWritten c := by
  refine List.forall_mem_cons.mpr ⟨Or.inl rfl, ?_⟩
  intro c inIndentation
  obtain rfl := List.eq_of_mem_replicate inIndentation
  exact Or.inr (by decide)

theorem isWritten_encodeString (cs : List Char) : ∀ c ∈ encodeString cs, IsWritten c := by
  have quote : IsWritten '"' := Or.inr (by decide)
  refine List.forall_mem_append.mpr
    ⟨List.forall_mem_cons.mpr ⟨quote, ?_⟩, List.forall_mem_singleton.mpr quote⟩
  intro c body
  obtain ⟨d, _, written⟩ := List.mem_flatMap.mp body
  exact Or.inr (encodeChar_bounds d c written)

theorem isWritten_of_isDigit {c : Char} (isDigit : c.isDigit = true) : IsWritten c := by
  simp only [Char.isDigit, Bool.and_eq_true, decide_eq_true_eq] at isDigit
  have lower : 48 ≤ c.toNat := isDigit.1
  have upper : c.toNat ≤ 57 := isDigit.2
  exact Or.inr (by omega)

theorem isWritten_integerChars (n : Int) : ∀ c ∈ integerChars n, IsWritten c := by
  intro c member
  cases n with
  | ofNat n => exact isWritten_of_isDigit (isDigit_toDigits c member)
  | negSucc n =>
      rcases List.mem_cons.mp member with rfl | digit
      · exact Or.inr (by decide)
      · exact isWritten_of_isDigit (isDigit_toDigits c digit)

theorem isWritten_renderMember {level : Nat} {key : String} {document : Document}
    (value : ∀ c ∈ document.render level, IsWritten c) :
    ∀ c ∈ renderMember level (key, document), IsWritten c := by
  rw [renderMember]
  refine List.forall_mem_append.mpr ⟨isWritten_encodeString key.toList, ?_⟩
  refine List.forall_mem_cons.mpr ⟨Or.inr (by decide), ?_⟩
  exact List.forall_mem_cons.mpr ⟨Or.inr (by decide), value⟩

mutual

theorem isWritten_render (document : Document) (level : Nat) :
    ∀ c ∈ document.render level, IsWritten c := by
  have opened : IsWritten '{' := Or.inr (by decide)
  have closed : IsWritten '}' := Or.inr (by decide)
  match document with
  | .text s => exact isWritten_encodeString s.toList
  | .int n => exact isWritten_integerChars n
  | .object [] =>
      rw [render]
      exact List.forall_mem_cons.mpr ⟨opened, List.forall_mem_singleton.mpr closed⟩
  | .object ((key, document) :: members) =>
      have member := @isWritten_renderMember _ key _ (isWritten_render document (level + 1))
      have others := isWritten_renderMembers members (level + 1)
      rw [render]
      simp only [List.forall_mem_append, List.forall_mem_cons]
      exact ⟨⟨⟨⟨⟨opened, isWritten_newLine (level + 1)⟩, member⟩, others⟩,
        isWritten_newLine level⟩, closed, nofun⟩

/-- List counterpart of `isWritten_render`. -/
theorem isWritten_renderMembers (members : List (String × Document)) (level : Nat) :
    ∀ c ∈ renderMembers level members, IsWritten c := by
  match members with
  | [] => nofun
  | (key, document) :: members =>
      have member := @isWritten_renderMember _ key _ (isWritten_render document level)
      have others := isWritten_renderMembers members level
      rw [renderMembers]
      simp only [List.forall_mem_append, List.forall_mem_cons]
      exact ⟨⟨⟨Or.inr (by decide), isWritten_newLine level⟩, member⟩, others⟩

end

/-- Reading a written file as a text changes none of its line ends. -/
theorem normalizeNewlines_fileText (document : Document) :
    normalizeNewlines document.fileText.toList = document.fileText.toList := by
  refine normalizeNewlines_eq_self ?_
  rw [fileText, String.toList_ofList]
  refine List.forall_mem_append.mpr ⟨?_, List.forall_mem_singleton.mpr (by decide)⟩
  rintro c member rfl
  rcases isWritten_render document 0 _ member with newline | printable
  · exact absurd newline (by decide)
  · exact absurd printable (by decide)

end AgentFlow.Json
