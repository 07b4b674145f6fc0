import AgentFlow.Console.Item
import AgentFlow.Text.Identifier
import AgentFlow.Proofs.Result
import Mathlib.Data.List.TakeWhile

/-!
# Reading markup

`Reads` says how a text is cut into characters and tags: a tag takes all backslashes in front of
it, and a character stands for itself where no tag begins.  The pieces that `lexemes` finds are
the only ones.  Escaping gives every tag an odd number of backslashes and leaves all other pieces
alone, so it makes a text that is always shown.
-/

namespace AgentFlow.Console

open AgentFlow.Number AgentFlow.Text

/-! ## Tags -/

/-- What the brackets of a tag may hold. -/
def IsTag (body : List Char) : Prop :=
  ∃ c inner, body = c :: inner ∧ opensTag c = true ∧ ∀ d ∈ inner, isInner d = true

/-- No tag begins, however many backslashes are in front. -/
def NoTag (cs : List Char) : Prop := readTag? (cs.dropWhile (· == '\\')) = none

/-- The pieces of a marked-up text. -/
inductive Reads : List Char → List Lexeme → Prop where
  | nil : Reads [] []
  | tag {n : Nat} {body rest : List Char} {pieces : List Lexeme} : IsTag body →
      Reads rest pieces →
      Reads (backslashRun n ++ (bracketed body ++ rest)) (.tag n body :: pieces)
  | plain {c : Char} {rest : List Char} {pieces : List Lexeme} : NoTag (c :: rest) →
      Reads rest pieces → Reads (c :: rest) (.plain c :: pieces)

variable {cs rest body remaining : List Char} {pieces : List Lexeme}

theorem readTag?_bracketed (isTag : IsTag body) (rest : List Char) :
    readTag? (bracketed body ++ rest) = some (body, rest) := by
  obtain ⟨c, inner, rfl, opens, allInner⟩ := isTag
  have dropped : (inner ++ ']' :: rest).dropWhile isInner = ']' :: rest := by
    rw [List.dropWhile_append_of_pos allInner]
    rfl
  have taken : (inner ++ ']' :: rest).takeWhile isInner = inner := by
    rw [List.takeWhile_append_of_pos allInner]
    simp [isInner]
  have shape : bracketed (c :: inner) ++ rest = '[' :: c :: (inner ++ ']' :: rest) := by
    simp [bracketed]
  rw [shape, readTag?, if_pos opens]
  simp only [dropped, taken]

theorem readTag?_eq_some (found : readTag? cs = some (body, remaining)) :
    IsTag body ∧ cs = bracketed body ++ remaining := by
  unfold readTag? at found
  split at found
  · rename_i c rest
    split at found
    · rename_i opens
      split at found
      · rename_i after dropped
        cases found
        refine ⟨⟨c, rest.takeWhile isInner, rfl, opens, fun d member => ?_⟩, ?_⟩
        · exact List.mem_takeWhile_imp member
        · have whole := @List.takeWhile_append_dropWhile _ isInner rest
          rw [dropped] at whole
          show '[' :: c :: rest = '[' :: c :: ((rest.takeWhile isInner ++ [']']) ++ remaining)
          rw [List.append_assoc]
          exact congrArg (fun more => '[' :: c :: more) whole.symm
      · cases found
    · cases found
  · cases found

theorem readTag?_of_head (noBracket : cs.head? ≠ some '[') : readTag? cs = none := by
  unfold readTag?
  split
  · exact absurd rfl noBracket
  · rfl

theorem drop_leadingBackslashes (cs : List Char) :
    cs.drop (leadingBackslashes cs) = cs.dropWhile (· == '\\') := by
  have whole := @List.takeWhile_append_dropWhile _ (· == '\\') cs
  unfold leadingBackslashes
  conv =>
    lhs
    arg 2
    rw [← whole]
  exact List.drop_left

theorem noTag_of_noBracket (noBracket : '[' ∉ cs) : NoTag cs := by
  refine readTag?_of_head fun found => noBracket ?_
  exact (List.dropWhile_sublist _).mem (List.mem_of_head? found)

/-! ## Pieces -/

theorem dropWhile_backslashRun (n : Nat) (body rest : List Char) :
    (backslashRun n ++ (bracketed body ++ rest)).dropWhile (· == '\\') =
      bracketed body ++ rest := by
  rw [List.dropWhile_append_of_pos (by simp [backslashRun])]
  rfl

theorem leadingBackslashes_backslashRun (n : Nat) (body rest : List Char) :
    leadingBackslashes (backslashRun n ++ (bracketed body ++ rest)) = n := by
  unfold leadingBackslashes
  rw [List.takeWhile_append_of_pos (by simp [backslashRun])]
  simp [backslashRun, bracketed]

theorem Reads.lexemes_eq (reads : Reads cs pieces) : lexemes cs = pieces := by
  induction reads with
  | nil => rw [lexemes]
  | @tag n body rest pieces isTag _ induction =>
      have found := readTag?_bracketed isTag rest
      rw [← dropWhile_backslashRun n, ← drop_leadingBackslashes] at found
      have leading := leadingBackslashes_backslashRun n body rest
      generalize backslashRun n ++ (bracketed body ++ rest) = cs at found leading
      cases cs with
      | nil => cases found
      | cons c cs =>
          rw [lexemes]
          split
          · rename_i other after foundAgain
            obtain ⟨rfl, rfl⟩ := Prod.mk.inj (Option.some.inj (found.symm.trans foundAgain))
            rw [induction, leading]
          · rename_i notFound
            cases found.symm.trans notFound
  | @plain c rest pieces noTag _ induction =>
      unfold NoTag at noTag
      rw [← drop_leadingBackslashes] at noTag
      rw [lexemes]
      split
      · rename_i found
        cases noTag.symm.trans found
      · rw [induction]

theorem reads_lexemes (cs : List Char) : Reads cs (lexemes cs) := by
  fun_induction lexemes cs with
  | case1 => exact .nil
  | case2 c rest backslashes body remaining found induction =>
      obtain ⟨isTag, shape⟩ := readTag?_eq_some found
      have whole := @List.takeWhile_append_dropWhile _ (· == '\\') (c :: rest)
      rw [← drop_leadingBackslashes, shape] at whole
      have run : (c :: rest).takeWhile (· == '\\') = backslashRun backslashes := by
        refine List.eq_replicate_iff.mpr ⟨rfl, fun d member => ?_⟩
        simpa using List.mem_takeWhile_imp member
      rw [run] at whole
      rw [← whole]
      exact .tag isTag induction
  | case3 c rest backslashes notFound induction =>
      refine .plain ?_ induction
      rw [NoTag, ← drop_leadingBackslashes]
      exact notFound

/-- A piece as it is read after escaping. -/
def Lexeme.bumped : Lexeme → Lexeme
  | .plain c => .plain c
  | .tag backslashes body => .tag (2 * backslashes + 1) body

/-- Escaping keeps what the run of characters inside of brackets ends with. -/
theorem Reads.head?_dropWhile_escaped (reads : Reads cs pieces) :
    ((pieces.flatMap Lexeme.escaped).dropWhile isInner).head? = (cs.dropWhile isInner).head? := by
  have atBracket (n : Nat) (rest : List Char) :
      ((backslashRun n ++ '[' :: rest).dropWhile isInner).head? = some '[' := by
    rw [List.dropWhile_append_of_pos (by simp [backslashRun, isInner])]
    rfl
  induction reads with
  | nil => rfl
  | tag isTag _ _ =>
      simp only [List.flatMap_cons, Lexeme.escaped, bracketed, List.cons_append,
        List.append_assoc, atBracket]
  | @plain c rest pieces _ _ induction =>
      rw [List.flatMap_cons, Lexeme.escaped, List.singleton_append]
      by_cases inner : isInner c = true
      · rw [List.dropWhile_cons_of_pos inner, List.dropWhile_cons_of_pos inner]
        exact induction
      · rw [List.dropWhile_cons_of_neg inner, List.dropWhile_cons_of_neg inner]
        rfl

theorem readTag?_bracket_cons {c : Char} : readTag? ('[' :: c :: rest) = none ↔
    opensTag c = false ∨ (rest.dropWhile isInner).head? ≠ some ']' := by
  rw [readTag?]
  by_cases opens : opensTag c = true
  · rw [if_pos opens]
    split
    · rename_i dropped
      simp [opens, dropped]
    · rename_i other
      refine iff_of_true rfl (.inr fun found => ?_)
      obtain ⟨tail, dropped⟩ := List.head?_eq_some_iff.mp found
      exact other tail dropped
  · rw [if_neg opens]
    exact iff_of_true rfl (.inl (by simpa using opens))

/-- Escaping makes no new tag. -/
theorem Reads.noTag_escaped (reads : Reads cs pieces) (noTag : NoTag cs) :
    NoTag (pieces.flatMap Lexeme.escaped) := by
  induction reads with
  | nil => exact noTag
  | @tag n body rest pieces isTag _ _ =>
      unfold NoTag at noTag
      rw [dropWhile_backslashRun, readTag?_bracketed isTag] at noTag
      cases noTag
  | @plain c rest pieces _ reads induction =>
      rw [List.flatMap_cons, Lexeme.escaped, List.singleton_append]
      unfold NoTag at noTag induction ⊢
      by_cases backslash : c = '\\'
      · subst backslash
        rw [List.dropWhile_cons_of_pos rfl] at noTag ⊢
        exact induction noTag
      · rw [List.dropWhile_cons_of_neg (by simpa using backslash)] at noTag ⊢
        by_cases bracket : c = '['
        · subst bracket
          cases reads with
          | nil => rfl
          | tag isTag _ => exact readTag?_bracket_cons.mpr (.inl rfl)
          | @plain d rest pieces _ inside =>
              refine readTag?_bracket_cons.mpr ((readTag?_bracket_cons.mp noTag).imp_right ?_)
              change _ → ((pieces.flatMap Lexeme.escaped).dropWhile isInner).head? ≠ some ']'
              rw [inside.head?_dropWhile_escaped]
              exact id
        · exact readTag?_of_head (by simpa using bracket)

/-- Escaping is read as the same pieces, and all tags are text. -/
theorem Reads.escaped (reads : Reads cs pieces) :
    Reads (pieces.flatMap Lexeme.escaped) (pieces.map Lexeme.bumped) := by
  induction reads with
  | nil => exact .nil
  | tag isTag _ induction =>
      rw [List.flatMap_cons, Lexeme.escaped, List.append_assoc]
      exact .tag isTag induction
  | plain noTag reads induction =>
      exact .plain ((Reads.plain noTag reads).noTag_escaped noTag) induction

/-- No tag begins in a text with more behind it that neither opens a tag nor closes one. -/
theorem readTag?_append {c : Char} {more : List Char} (opens : (more.head?.all (!opensTag ·)) = true)
    (closes : (more.dropWhile isInner).head? ≠ some ']') (none_ : readTag? (c :: rest) = none) :
    readTag? (c :: rest ++ more) = none := by
  by_cases bracket : c = '['
  · subst bracket
    cases rest with
    | nil =>
        cases more with
        | nil => rfl
        | cons d more => exact readTag?_bracket_cons.mpr (.inl (by simpa using opens))
    | cons d rest =>
        refine readTag?_bracket_cons.mpr ((readTag?_bracket_cons.mp none_).imp_right ?_)
        change _ → ((rest ++ more).dropWhile isInner).head? ≠ some ']'
        rw [List.dropWhile_append]
        cases dropped : rest.dropWhile isInner with
        | nil => exact fun _ => closes
        | cons e after => exact id
  · exact readTag?_of_head (by simpa using bracket)

/-- No tag begins before what is added, unless there are only backslashes. -/
theorem NoTag.append {more : List Char} (opens : (more.head?.all (!opensTag ·)) = true)
    (closes : (more.dropWhile isInner).head? ≠ some ']') (noTag : NoTag cs) :
    NoTag (cs ++ more) ∨ cs = backslashRun cs.length := by
  unfold NoTag at noTag ⊢
  rw [List.dropWhile_append]
  cases dropped : cs.dropWhile (· == '\\') with
  | nil =>
      refine .inr (List.eq_replicate_iff.mpr ⟨rfl, fun c member => ?_⟩)
      simpa using List.dropWhile_eq_nil_iff.mp dropped c member
  | cons d after =>
      rw [dropped] at noTag
      exact .inl (readTag?_append opens closes noTag)

/-- A backslash at the end is a character. -/
theorem Reads.append_backslash (reads : Reads cs pieces) :
    Reads (cs ++ ['\\']) (pieces ++ [.plain '\\']) := by
  induction reads with
  | nil => exact .plain rfl .nil
  | tag isTag _ induction =>
      rw [List.append_assoc, List.append_assoc, List.cons_append]
      exact .tag isTag induction
  | @plain c rest pieces noTag _ induction =>
      refine .plain ?_ induction
      rcases @NoTag.append _ ['\\'] rfl (by decide) noTag with noTag | backslashes
      · exact noTag
      · refine noTag_of_noBracket fun bracket => ?_
        change '[' ∈ (c :: rest) ++ ['\\'] at bracket
        rw [backslashes] at bracket
        simp [backslashRun] at bracket

/-- A tag at the end takes the backslashes in front of it, and leaves the other pieces alone. -/
theorem Reads.append_tag (reads : Reads cs pieces) (isTag : IsTag body) :
    ∃ n kept, Reads (cs ++ bracketed body) (kept ++ [.tag n body]) ∧ kept ⊆ pieces := by
  induction reads with
  | nil =>
      have alone := Reads.tag (n := 0) isTag .nil
      rw [List.append_nil] at alone
      exact ⟨0, [], alone, List.nil_subset _⟩
  | @tag m other rest pieces isOther _ induction =>
      obtain ⟨n, kept, reads, among⟩ := induction
      refine ⟨n, .tag m other :: kept, ?_, List.cons_subset_cons _ among⟩
      rw [List.append_assoc, List.append_assoc]
      exact .tag isOther reads
  | @plain c rest pieces noTag _ induction =>
      rcases @NoTag.append _ (bracketed body) rfl (by simp [bracketed, isInner]) noTag with
        noTag | backslashes
      · obtain ⟨n, kept, reads, among⟩ := induction
        exact ⟨n, .plain c :: kept, .plain noTag reads, List.cons_subset_cons _ among⟩
      · have alone := Reads.tag (n := (c :: rest).length) isTag .nil
        rw [List.append_nil, ← backslashes] at alone
        exact ⟨_, [], alone, List.nil_subset _⟩

/-! ## What is shown -/

/-- A text of which all is shown as it is. -/
structure IsLiteral (cs : List Char) : Prop where
  noBracket : '[' ∉ cs
  colons : cs.count ':' ≤ 1
  noControl : ∀ c ∈ cs, isControl c = false

/-- A tag that is text. -/
def Lexeme.IsText : Lexeme → Prop
  | .plain _ => True
  | .tag backslashes _ => backslashes % 2 = 1

/-- Tags that are none are never wrong. -/
theorem shownFrom_append_text {tags : OpenTags} {front : List Char} {rest : List Lexeme}
    (text : ∀ piece ∈ pieces, piece.IsText)
    (shows : ∀ front, ∃ shown, shownFrom tags front rest = .ok shown) :
    ∃ shown, shownFrom tags front (pieces ++ rest) = .ok shown := by
  induction pieces generalizing front with
  | nil => exact shows front
  | cons piece pieces induction =>
      have later := fun front => @induction front fun piece member =>
        text piece (List.mem_cons_of_mem _ member)
      cases piece with
      | plain c => exact later (c :: front)
      | tag backslashes body =>
          have odd : backslashes % 2 = 1 := text _ List.mem_cons_self
          obtain ⟨shown, showing⟩ := later []
          rw [List.cons_append, shownFrom]
          simp only [if_pos odd, showing]
          exact ⟨_, rfl⟩

theorem render_of_reads {s : String} {shown : List Char} (reads : Reads s.toList pieces)
    (showing : shownFrom [] [] pieces = .ok shown) :
    render s = .ok (String.ofList (shown.filter (!isControl ·))) := by
  unfold render Console.shown
  rw [reads.lexemes_eq, showing]
  rfl

theorem reads_escapeChars (cs : List Char) :
    ∃ pieces, Reads (escapeChars cs) pieces ∧ ∀ piece ∈ pieces, piece.IsText := by
  have text : ∀ piece ∈ (lexemes cs).map Lexeme.bumped, piece.IsText := by
    intro piece member
    obtain ⟨before, _, rfl⟩ := List.mem_map.mp member
    cases before with
    | plain c => trivial
    | tag backslashes body =>
        show (2 * backslashes + 1) % 2 = 1
        omega
  have reads := (reads_lexemes cs).escaped
  unfold escapeChars
  dsimp only
  split
  · refine ⟨_, reads.append_backslash, List.forall_mem_append.mpr ⟨text, ?_⟩⟩
    exact List.forall_mem_singleton.mpr trivial
  · exact ⟨_, reads, text⟩

/-- Whether a character has no meaning in marked-up text. -/
def isBare (c : Char) : Bool := c != '[' && c != '\\' && c != ':' && !isControl c

/-- A text that needs no escaping and is shown as it is. -/
def IsBare (s : String) : Prop := ∀ c ∈ s.toList, isBare c = true

theorem isBare_of_all {s : String} (all : s.toList.all isBare = true) : IsBare s :=
  List.all_eq_true.mp all

theorem IsBare.append {s t : String} (first : IsBare s) (second : IsBare t) : IsBare (s ++ t) := by
  rw [IsBare, String.toList_append]
  exact List.forall_mem_append.mpr ⟨first, second⟩

theorem IsBare.intercalate {separator : String} {pieces : List String} (between : IsBare separator)
    (bare : ∀ piece ∈ pieces, IsBare piece) : IsBare (String.intercalate separator pieces) := by
  induction pieces with
  | nil => exact isBare_of_all rfl
  | cons piece rest induction =>
      obtain ⟨first, others⟩ := List.forall_mem_cons.mp bare
      cases rest with
      | nil => rwa [String.intercalate_singleton]
      | cons next rest =>
          rw [String.intercalate_cons_of_ne_nil (by simp)]
          exact (first.append between).append (induction others)

theorem IsBare.noBackslash {s : String} (bare : IsBare s) : '\\' ∉ s.toList :=
  fun member => absurd (bare _ member) (by decide)

theorem IsBare.isLiteral {s : String} (bare : IsBare s) : IsLiteral s.toList where
  noBracket := fun member => absurd (bare _ member) (by decide)
  colons := by
    rw [List.count_eq_zero.mpr fun member => absurd (bare _ member) (by decide)]
    exact Nat.zero_le 1
  noControl := by
    intro c member
    have bare := bare c member
    simp only [isBare, Bool.and_eq_true, Bool.not_eq_true'] at bare
    exact bare.2

/-- A style that can be opened and closed by its name. -/
structure IsStyle (style : String) : Prop where
  opening : IsTag style.toList
  closing : IsTag ('/' :: style.toList)
  noSlash : style.toList.head? ≠ some '/'
  noEquals : '=' ∉ style.toList
  visible : (trim style.toList).isEmpty = false
  name : ∃ name, styleName style.toList = .ok name ∧ isHandlerName name = false

theorem takeWhile_of_noEquals (noEquals : '=' ∉ cs) : cs.takeWhile (· != '=') = cs :=
  List.takeWhile_eq_self_iff.mpr fun c member => by
    rw [bne_iff_ne]
    exact fun same => noEquals (same ▸ member)

theorem IsStyle.afterTags {style : String} (isStyle : IsStyle style) : ∃ tag,
    OpenTags.afterTag [] style.toList = .ok [tag] ∧
      OpenTags.afterTag [tag] ('/' :: style.toList) = .ok [] := by
  obtain ⟨name, named, noHandler⟩ := isStyle.name
  have opened : style.toList.takeWhile (· != '=') = style.toList :=
    takeWhile_of_noEquals isStyle.noEquals
  refine ⟨⟨name, []⟩, ?_, ?_⟩
  · unfold OpenTags.afterTag
    rw [opened]
    split
    · rename_i slash
      exact absurd (by rw [slash]; rfl) isStyle.noSlash
    · rw [named]
      simp [Except.mapError, bind, Except.bind, pure, Except.pure]
  · unfold OpenTags.afterTag
    rw [List.takeWhile_cons_of_pos (by decide), opened]
    simp only [isStyle.visible, named, Except.mapError]
    simp [bind, Except.bind, OpenTags.close, noHandler]

theorem shownFrom_tag {tags after : OpenTags} {front shown : List Char}
    (changed : tags.afterTag body = .ok after) (showing : shownFrom after [] pieces = .ok shown) :
    shownFrom tags front (.tag 0 body :: pieces) = .ok (shownPlain front.reverse ++ shown) := by
  rw [shownFrom]
  simp [changed, showing, backslashRun, bind, Except.bind, pure, Except.pure]

/-- Whatever a text holds, it can be shown in a style once it is escaped.  Backslashes at its end
may make the closing tag a text, and a style that is not closed is no matter. -/
theorem render_styled_escape {style : String} (isStyle : IsStyle style) (s : String) :
    ∃ shown, render (styled style (escape s)) = .ok shown := by
  obtain ⟨pieces, reads, text⟩ := reads_escapeChars s.toList
  obtain ⟨n, kept, readsAll, among⟩ := reads.append_tag isStyle.closing
  obtain ⟨tag, opened, closed⟩ := isStyle.afterTags
  have ends (front : List Char) :
      ∃ shown, shownFrom [tag] front [.tag n ('/' :: style.toList)] = .ok shown := by
    rw [shownFrom]
    by_cases odd : n % 2 = 1
    · simp only [if_pos odd]
      exact ⟨_, rfl⟩
    · simp only [if_neg odd, closed]
      exact ⟨_, rfl⟩
  obtain ⟨shown, showing⟩ := @shownFrom_append_text kept [tag] [] _
    (fun piece member => text piece (among member)) ends
  refine ⟨_, render_of_reads ?_ (@shownFrom_tag _ _ _ _ [] _ opened showing)⟩
  have shape : (styled style (escape s)).toList =
      backslashRun 0 ++ (bracketed style.toList ++
        (escapeChars s.toList ++ bracketed ('/' :: style.toList))) := by
    simp [styled, escape, backslashRun, bracketed, String.toList_append]
  rw [shape]
  exact .tag isStyle.opening readsAll

/-- A text without parentheses is a colour or is none. -/
theorem isColour_of_noParenthesis (noParenthesis : '(' ∉ cs) :
    ∃ known, isColour cs = .ok known := by
  have notEnclosed {start : String} (opens : '(' ∈ start.toList) : enclosed? start cs = none := by
    refine if_neg fun enclosed => noParenthesis ?_
    exact (List.isPrefixOf_iff_prefix.mp enclosed.1).subset opens
  unfold isColour
  split
  · exact ⟨_, rfl⟩
  · split
    · exact ⟨_, rfl⟩
    · rw [notEnclosed (by decide), notEnclosed (by decide)]
      exact ⟨_, rfl⟩

/-- A word of small letters that is no attribute is its own name, whether or not it is a colour. -/
theorem styleName_word {word : String} {known : Bool} (trimmed : trim word.toList = word.toList)
    (alone : wordsOf word.toList = [word.toList]) (small : lowered word.toList = word.toList)
    (free : word ∉ ["none", "on", "not", "link"]) (noAttribute : attribute? word = none)
    (colour : isColour word.toList = .ok known) : styleName word.toList = .ok word := by
  simp only [List.mem_cons, List.not_mem_nil, or_false, not_or] at free
  obtain ⟨notNone, notOn, notNot, notLink⟩ := free
  have differs : word.toList ≠ "none".toList := fun same => notNone (String.toList_inj.mp same)
  have told : Style.ofWords? .plain [word.toList] =
      .ok (if known then some { Style.plain with colour := some word } else none) := by
    rw [Style.ofWords?]
    simp only [small, String.ofList_toList, if_neg notOn, if_neg notNot, if_neg notLink,
      noAttribute, colour]
    cases known <;> rfl
  have named : ({ Style.plain with colour := some word } : Style).name = word := by
    have words : ({ Style.plain with colour := some word } : Style).words = [word] := rfl
    simp [Style.name, words]
  unfold styleName
  simp only [trimmed, if_neg differs, alone, told]
  cases known
  · show Except.ok (String.ofList (lowered word.toList)) = _
    rw [small, String.ofList_toList]
  · exact congrArg Except.ok named

/-- A colour word is a style. -/
theorem isStyle_colour {word : String} (listed : word ∈ ["red", "cyan", "green", "yellow"]) :
    IsStyle word := by
  have all : ∀ word ∈ ["red", "cyan", "green", "yellow"],
      trim word.toList = word.toList ∧ wordsOf word.toList = [word.toList] ∧
        lowered word.toList = word.toList ∧ word ∉ ["none", "on", "not", "link"] ∧
        attribute? word = none ∧ isHandlerName word = false := by
    decide +kernel
  obtain ⟨trimmed, alone, small, free, noAttribute, noHandler⟩ := all word listed
  have shape : ∀ word ∈ ["red", "cyan", "green", "yellow"], '(' ∉ word.toList ∧ '=' ∉ word.toList ∧
      word.toList.head? ≠ some '/' ∧ (word.toList.head?.all opensTag) = true ∧
      word.toList ≠ [] ∧ word.toList.all isInner = true := by
    decide +kernel
  obtain ⟨noParenthesis, noEquals, noSlash, opens, notEmpty, allInner⟩ := shape word listed
  have inner := List.all_eq_true.mp allInner
  obtain ⟨known, colour⟩ := isColour_of_noParenthesis noParenthesis
  obtain ⟨c, rest, parts⟩ := List.exists_cons_of_ne_nil notEmpty
  rw [parts] at opens inner
  exact {
    opening := ⟨c, rest, parts, opens, fun d member => inner d (List.mem_cons_of_mem c member)⟩
    closing := ⟨'/', word.toList, rfl, rfl, parts ▸ inner⟩
    noSlash, noEquals
    visible := by rw [trimmed, parts]; rfl
    name := ⟨word, styleName_word trimmed alone small free noAttribute colour, noHandler⟩ }

/-! ## Tables -/

end AgentFlow.Console
