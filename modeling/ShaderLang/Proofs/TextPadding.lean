import Mathlib.Data.List.DropRight
import ShaderLang.Proofs.ReaderStability

/-!
# Padding

What may stand between instructions: spaces, tabs, line breaks and comments.  A comment goes up to
the end of its line, so it needs a line break if something follows it.  Padding is skipped as a
whole, what is skipped is padding, and trimming turns padding at the end of a text into padding at
the end of a text.
-/

namespace ShaderLang

open Text (Reader Ends EndsSolid)

/-! ## What padding is -/

namespace Text

/-- Whether a character can stand between instructions outside of a comment. -/
def isPaddingCharacter (character : Char) : Bool :=
  character = ' ' || character = '\t' || character = '\r' || character = '\n'

/-- Whether a character can stand in a comment. -/
def isCommentCharacter (character : Char) : Bool :=
  character ≠ '\n' && character ≠ '\r'

/-- A text that starts with a line feed, alone or behind a carriage return. -/
def StartsLine (text : List Char) : Prop :=
  ∃ behind, text = '\n' :: behind ∨ text = '\r' :: '\n' :: behind

/-- A text of blanks and comments.  Each comment is ended by a line feed, alone or behind a carriage
return; only if the padding is the last of its text, a comment may also be ended by the text. -/
inductive IsPadding (isLast : Bool) : List Char → Prop where
  | nil : IsPadding isLast []
  | blank {first : Char} {rest : List Char} (isPadding : isPaddingCharacter first = true)
      (others : IsPadding isLast rest) : IsPadding isLast (first :: rest)
  | comment {body rest : List Char}
      (noBreak : ∀ character ∈ body, isCommentCharacter character = true)
      (ends : StartsLine rest ∨ isLast = true ∧ rest = [])
      (others : IsPadding isLast rest) : IsPadding isLast (';' :: (body ++ rest))

/-- A text that starts with a blank or a comment. -/
def StartsPadding (text : List Char) : Prop :=
  ∃ isLast padding behind, text = padding ++ behind ∧ padding ≠ [] ∧ IsPadding isLast padding ∧
    (isLast = true → behind = [])

theorem eq_of_isPaddingCharacter {character : Char}
    (isPadding : isPaddingCharacter character = true) :
    character = ' ' ∨ character = '\t' ∨ character = '\r' ∨ character = '\n' := by
  simpa [isPaddingCharacter, or_assoc] using isPadding

variable {isLast : Bool} {padding rest : List Char}

theorem StartsLine.append {text : List Char} (starts : StartsLine text) (rest : List Char) :
    StartsLine (text ++ rest) := by
  obtain ⟨behind, rfl | rfl⟩ := starts
  · exact ⟨behind ++ rest, .inl rfl⟩
  · exact ⟨behind ++ rest, .inr rfl⟩

theorem StartsLine.ends_isCommentCharacter {text : List Char} (starts : StartsLine text) :
    Ends isCommentCharacter text := by
  obtain ⟨behind, rfl | rfl⟩ := starts <;> exact ends_cons _ (by decide)

theorem IsPadding.append {front back : List Char}
    (isFront : IsPadding false front) (isBack : IsPadding isLast back) :
    IsPadding isLast (front ++ back) := by
  induction isFront with
  | nil => exact isBack
  | blank isPadding _ inductionHypothesis => exact .blank isPadding inductionHypothesis
  | comment noBreak ends _ inductionHypothesis =>
      rcases ends with starts | ⟨last, -⟩
      · rw [List.cons_append, List.append_assoc]
        exact .comment noBreak (.inl (starts.append back)) inductionHypothesis
      · cases last

end Text

open Text (isPaddingCharacter isCommentCharacter StartsLine IsPadding StartsPadding)

/-! ## Skipping -/

namespace Instruction

variable {isLast : Bool} {padding rest : List Char}

theorem skipBlanks_cons_of_isPadding {first : Char} (isPadding : isPaddingCharacter first = true)
    (rest : List Char) :
    skipBlanks (first :: rest) = skipBlanks rest := by
  rcases Text.eq_of_isPaddingCharacter isPadding with rfl | rfl | rfl | rfl <;> rfl

/-- A comment closes if a line feed ends it, or the text. -/
theorem commentCloses_append {body : List Char}
    (noBreak : ∀ character ∈ body, isCommentCharacter character = true)
    (ends : StartsLine rest ∨ rest = []) :
    commentCloses (body ++ rest) = true := by
  have behind : (body ++ rest).dropWhile
      (fun character => character ≠ '\n' && character ≠ '\r') = rest := by
    refine Text.dropWhile_append_of_ends body noBreak ?_
    rcases ends with starts | rfl
    · exact starts.ends_isCommentCharacter
    · exact Text.ends_nil _
  unfold commentCloses
  rw [behind]
  rcases ends with ⟨others, rfl | rfl⟩ | rfl <;> rfl

/-- A comment is skipped up to the line break that ends it. -/
theorem skipBlanksFrom_comment {body : List Char}
    (noBreak : ∀ character ∈ body, isCommentCharacter character = true)
    (ends : StartsLine rest ∨ rest = []) :
    skipBlanksFrom true (body ++ rest) = skipBlanks rest := by
  induction body with
  | nil => rcases ends with ⟨others, rfl | rfl⟩ | rfl <;> rfl
  | cons first body inductionHypothesis =>
      obtain ⟨here, others⟩ := List.forall_mem_cons.mp noBreak
      have goesOn : (first ≠ '\n' && first ≠ '\r') = true := here
      rw [List.cons_append, skipBlanksFrom, if_pos rfl, goesOn]
      exact inductionHypothesis others

theorem skipBlanks_semicolon {body : List Char}
    (closes : commentCloses body = true) :
    skipBlanks (';' :: body) = skipBlanksFrom true body := by
  unfold skipBlanks
  rw [skipBlanksFrom]
  simp [closes]

/-- Padding is skipped as a whole. -/
theorem skipBlanks_append (isPadding : IsPadding isLast padding)
    (atEnd : isLast = true → rest = []) :
    skipBlanks (padding ++ rest) = skipBlanks rest := by
  induction isPadding with
  | nil => rfl
  | blank isPadding _ inductionHypothesis =>
      rw [List.cons_append, skipBlanks_cons_of_isPadding isPadding, inductionHypothesis]
  | @comment body line noBreak ends _ inductionHypothesis =>
      have endsHere : StartsLine (line ++ rest) ∨ line ++ rest = [] := by
        rcases ends with starts | ⟨last, rfl⟩
        · exact .inl (starts.append rest)
        · exact .inr (by simp [atEnd last])
      rw [List.cons_append, List.append_assoc,
        skipBlanks_semicolon (commentCloses_append noBreak endsHere),
        skipBlanksFrom_comment noBreak endsHere, inductionHypothesis]

/-- A comment that closes goes up to a line feed or to the end of the text. -/
theorem exists_comment_of_commentCloses {text : List Char} (closes : commentCloses text = true) :
    ∃ body line, text = body ++ line ∧ (∀ character ∈ body, isCommentCharacter character = true) ∧
      (StartsLine line ∨ line = []) := by
  have ends : Ends isCommentCharacter (text.dropWhile isCommentCharacter) :=
    Text.ends_dropWhile isCommentCharacter text
  refine ⟨text.takeWhile isCommentCharacter, text.dropWhile isCommentCharacter,
    List.takeWhile_append_dropWhile.symm, fun _ member => List.mem_takeWhile_imp member, ?_⟩
  have behind : text.dropWhile (fun character => character ≠ '\n' && character ≠ '\r') =
      text.dropWhile isCommentCharacter := rfl
  unfold commentCloses at closes
  rw [behind] at closes
  cases line : text.dropWhile isCommentCharacter with
  | nil => exact .inr rfl
  | cons first others =>
      rw [line] at closes ends
      have isBreak : first = '\n' ∨ first = '\r' := by
        have outside := ends first rfl
        by_contra noBreak
        simp [isCommentCharacter, not_or.mp noBreak] at outside
      rcases isBreak with rfl | rfl
      · exact .inl ⟨others, .inl rfl⟩
      · split at closes
        · next same =>
            obtain ⟨-, rfl⟩ := List.cons.inj same
            exact .inl ⟨_, .inr rfl⟩
        · cases closes
        · next noReturn => exact absurd rfl (noReturn others)

theorem skipBlanks_of_solid {first : Char} {rest : List Char}
    (noBlank : isPaddingCharacter first = false)
    (noComment : ¬ (first = ';' ∧ commentCloses rest = true)) :
    skipBlanks (first :: rest) = first :: rest := by
  have noStart : ¬ (first = ';' && commentCloses rest) = true := by simpa using noComment
  have noSpace : ¬ (first = ' ' || first = '\t' || first = '\r' || first = '\n') = true :=
    Bool.eq_false_iff.mp noBlank
  unfold skipBlanks
  rw [skipBlanksFrom, if_neg Bool.false_ne_true, if_neg noSpace, if_neg noStart]

/-- What skipping leaves of a text: nothing, or what stands behind padding; it does not start with
padding again. -/
structure LeftBehindPadding (text rest : List Char) : Prop where
  split : rest = [] ∨ ∃ padding, IsPadding false padding ∧ text = padding ++ rest
  ends : Ends isPaddingCharacter rest
  stops : skipBlanks rest = rest

theorem LeftBehindPadding.blank {first : Char} {text : List Char}
    (isBlank : isPaddingCharacter first = true) (left : LeftBehindPadding text rest) :
    LeftBehindPadding (first :: text) rest where
  split := by
    refine left.split.imp_right fun ⟨padding, isPadding, written⟩ => ?_
    exact ⟨first :: padding, .blank isBlank isPadding, congrArg (first :: ·) written⟩
  ends := left.ends
  stops := left.stops

/-- A line break in front of what is left belongs to the padding. -/
theorem startsLine_of_append {padding : List Char} (starts : StartsLine (padding ++ rest))
    (ends : Ends isPaddingCharacter rest) :
    StartsLine padding := by
  have noBreak (others : List Char) : rest ≠ '\n' :: others ∧ rest ≠ '\r' :: others := by
    constructor <;> rintro rfl <;> exact absurd (ends _ rfl) (by decide)
  obtain ⟨behind, alone | returned⟩ := starts
  · rcases List.append_eq_cons_iff.mp alone with ⟨-, left⟩ | ⟨others, rfl, -⟩
    · exact absurd left (noBreak _).1
    · exact ⟨others, .inl rfl⟩
  · rcases List.append_eq_cons_iff.mp returned with ⟨-, left⟩ | ⟨others, rfl, feed⟩
    · exact absurd left (noBreak _).2
    · rcases List.append_eq_cons_iff.mp feed.symm with ⟨-, left⟩ | ⟨others, rfl, -⟩
      · exact absurd left (noBreak _).1
      · exact ⟨others, .inr rfl⟩

theorem LeftBehindPadding.comment {body line : List Char}
    (noBreak : ∀ character ∈ body, isCommentCharacter character = true)
    (starts : StartsLine line) (left : LeftBehindPadding line rest) :
    LeftBehindPadding (';' :: (body ++ line)) rest where
  split := by
    refine left.split.imp_right fun ⟨padding, isPadding, written⟩ => ?_
    have startsPadding : StartsLine padding := by
      rw [written] at starts
      exact startsLine_of_append starts left.ends
    refine ⟨';' :: (body ++ padding), .comment noBreak (.inl startsPadding) isPadding, ?_⟩
    rw [written, List.cons_append, List.append_assoc]
  ends := left.ends
  stops := left.stops

/-- Skipping leaves what stands behind the padding. -/
theorem leftBehindPadding_skipBlanks (text : List Char) :
    LeftBehindPadding text (skipBlanks text) := by
  -- Comments are skipped as a whole, so the induction is on the length.
  induction length : text.length using Nat.strong_induction_on generalizing text with
  | _ length inductionHypothesis =>
      subst length
      cases text with
      | nil => exact ⟨.inl rfl, Text.ends_nil _, rfl⟩
      | cons first rest =>
          by_cases isBlank : isPaddingCharacter first = true
          · rw [skipBlanks_cons_of_isPadding isBlank]
            exact (inductionHypothesis _ (Nat.lt_succ_self _) rest rfl).blank isBlank
          by_cases isComment : first = ';' ∧ commentCloses rest = true
          · obtain ⟨rfl, closes⟩ := isComment
            obtain ⟨body, line, rfl, noBreak, ends⟩ := exists_comment_of_commentCloses closes
            rw [skipBlanks_semicolon closes, skipBlanksFrom_comment noBreak ends]
            rcases ends with starts | rfl
            · have shorter : line.length < (';' :: (body ++ line)).length := by
                simp only [List.length_cons, List.length_append]
                omega
              exact (inductionHypothesis _ shorter line rfl).comment noBreak starts
            · exact ⟨.inl rfl, Text.ends_nil _, rfl⟩
          · have noBlank := Bool.eq_false_iff.mpr isBlank
            rw [skipBlanks_of_solid noBlank isComment]
            exact ⟨.inr ⟨[], .nil, rfl⟩, Text.ends_cons rest noBlank,
              skipBlanks_of_solid noBlank isComment⟩

theorem length_skipBlanks_le (text : List Char) : (skipBlanks text).length ≤ text.length := by
  rcases (leftBehindPadding_skipBlanks text).split with empty | ⟨padding, -, written⟩
  · rw [empty]
    exact Nat.zero_le _
  · have lengths := congrArg List.length written
    rw [List.length_append] at lengths
    omega

/-- What is not skipped does not start with padding. -/
theorem not_startsPadding_of_skipBlanks (stops : skipBlanks rest = rest) :
    ¬ StartsPadding rest := by
  rintro ⟨isLast, padding, behind, rfl, nonempty, isPadding, atEnd⟩
  rw [skipBlanks_append isPadding atEnd] at stops
  have notLonger := length_skipBlanks_le behind
  have positive := List.length_pos_iff.mpr nonempty
  rw [stops, List.length_append] at notLonger
  omega

end Instruction

/-! ## Ids behind padding -/

namespace Operand

variable {isLast : Bool} {padding rest : List Char}

/-- Where the first character that does not separate tokens is no mark, no id follows. -/
theorem noIdFollows_of_ends {text : List Char}
    (ends : Ends (· == '%') (text.dropWhile isSeparator)) :
    NoIdFollows text := by
  unfold NoIdFollows
  by_cases starts : Ends isSeparator text
  · exact behindSpace_of_ends _ starts
  · obtain ⟨gap, reads⟩ := Reader.exists_run1_of_not_ends starts
    refine (Reader.bind_of_some reads).trans (Reader.map_of_none ?_)
    cases behind : text.dropWhile isSeparator with
    | nil => rfl
    | cons first others =>
        rw [behind] at ends
        exact Reader.bind_of_none (if_neg (by simpa using ends first rfl))

/-- Padding that goes on behind its first line, or with nothing behind it, has no id behind it. -/
theorem noIdFollows_padding (isPadding : IsPadding isLast padding)
    (stops : rest = [] ∨ ∃ character ∈ padding, isSeparator character = false) :
    NoIdFollows (padding ++ rest) := by
  refine noIdFollows_of_ends ?_
  induction isPadding with
  | nil =>
      rcases stops with rfl | ⟨character, member, -⟩
      · exact Text.ends_nil _
      · cases member
  | @blank first others isBlank _ inductionHypothesis =>
      by_cases separator : isSeparator first = true
      · rw [List.cons_append, List.dropWhile_cons_of_pos separator]
        refine inductionHypothesis (stops.imp_right fun ⟨character, member, outside⟩ => ?_)
        rcases List.mem_cons.mp member with rfl | later
        · rw [separator] at outside
          cases outside
        · exact ⟨character, later, outside⟩
      · rw [List.cons_append, List.dropWhile_cons_of_neg separator]
        refine Text.ends_cons _ ?_
        rw [beq_eq_false_iff_ne]
        rintro rfl
        exact absurd isBlank (by decide)
  | comment => exact Text.ends_cons _ (by decide)

end Operand

/-! ## Trimming -/

namespace Text

variable {isLast : Bool} {padding rest : List Char}

theorem trim_eq_rdropWhile (text : List Char) :
    trim text = (text.dropWhile isBlank).rdropWhile isBlank :=
  rfl

theorem rdropWhile_append_of_ne_nil (front : List Char) {back : List Char}
    (solid : back.rdropWhile isBlank ≠ []) :
    (front ++ back).rdropWhile isBlank = front ++ back.rdropWhile isBlank := by
  induction back using List.reverseRecOn with
  | nil => exact absurd rfl solid
  | append_singleton back last inductionHypothesis =>
      rw [← List.append_assoc, List.rdropWhile_concat]
      rw [List.rdropWhile_concat] at solid ⊢
      by_cases blank : isBlank last = true
      · rw [if_pos blank] at solid ⊢
        rw [if_pos blank, inductionHypothesis solid]
      · rw [if_neg blank, if_neg blank, List.append_assoc]

theorem rdropWhile_append_of_eq_nil (front : List Char) {back : List Char}
    (blank : back.rdropWhile isBlank = []) :
    (front ++ back).rdropWhile isBlank = front.rdropWhile isBlank := by
  have allBlank : ∀ character ∈ back.reverse, isBlank character = true := by
    simpa [List.rdropWhile_eq_nil_iff] using blank
  unfold List.rdropWhile
  rw [List.reverse_append, List.dropWhile_append_of_pos allBlank]

/-- Behind a text that does not end with a blank, blanks are trimmed as if they stood alone. -/
theorem EndsSolid.rdropWhile_append {front : List Char} (solid : EndsSolid front)
    (back : List Char) :
    (front ++ back).rdropWhile isBlank = front ++ back.rdropWhile isBlank := by
  by_cases blank : back.rdropWhile isBlank = []
  · obtain ⟨others, last, rfl, notBlank⟩ := solid
    rw [rdropWhile_append_of_eq_nil _ blank, blank, List.append_nil,
      List.rdropWhile_concat_neg _ _ _ (Bool.eq_false_iff.mp notBlank)]
  · exact rdropWhile_append_of_ne_nil front blank

theorem EndsSolid.rdropWhile_between {line : List Char} (solid : EndsSolid line)
    (front back : List Char) :
    (front ++ (line ++ back)).rdropWhile isBlank = front ++ (line ++ back.rdropWhile isBlank) := by
  rw [← List.append_assoc, (solid.append front).rdropWhile_append, List.append_assoc]

theorem isBlank_of_isPadding {character : Char} (isPadding : isPaddingCharacter character = true) :
    isBlank character = true := by
  rcases eq_of_isPaddingCharacter isPadding with rfl | rfl | rfl | rfl <;> decide

theorem IsPadding.dropWhile_append (isPadding : IsPadding isLast padding)
    (ends : Ends isBlank rest) :
    ∃ left, IsPadding isLast left ∧ (padding ++ rest).dropWhile isBlank = left ++ rest := by
  induction isPadding with
  | nil =>
      exact ⟨[], .nil, dropWhile_append_of_ends [] (List.forall_mem_nil _) ends⟩
  | blank isPadding _ inductionHypothesis =>
      obtain ⟨left, isLeft, written⟩ := inductionHypothesis
      refine ⟨left, isLeft, ?_⟩
      rw [List.cons_append, List.dropWhile_cons_of_pos (isBlank_of_isPadding isPadding), written]
  | comment noBreak endsLine others _ =>
      refine ⟨_, .comment noBreak endsLine others, ?_⟩
      exact List.dropWhile_cons_of_neg (by decide)

theorem StartsLine.rdropWhile {text : List Char} (starts : StartsLine text)
    (solid : text.rdropWhile isBlank ≠ []) :
    StartsLine (text.rdropWhile isBlank) := by
  have kept (front : List Char) {back : List Char} (blank : front.rdropWhile isBlank = [])
      (solid : (front ++ back).rdropWhile isBlank ≠ []) :
      (front ++ back).rdropWhile isBlank = front ++ back.rdropWhile isBlank := by
    refine rdropWhile_append_of_ne_nil front fun none => solid ?_
    rw [rdropWhile_append_of_eq_nil front none, blank]
  obtain ⟨behind, rfl | rfl⟩ := starts
  · exact ⟨_, .inl (kept ['\n'] (by decide) solid)⟩
  · exact ⟨_, .inr (kept ['\r', '\n'] (by decide) solid)⟩

/-- Padding at the end of a text is trimmed to padding at the end of a text. -/
theorem IsPadding.rdropWhile (isPadding : IsPadding isLast padding) :
    IsPadding true (padding.rdropWhile isBlank) := by
  induction isPadding with
  | nil => exact .nil
  | @blank first others isPadding _ inductionHypothesis =>
      by_cases none : others.rdropWhile isBlank = []
      · have trimmed := rdropWhile_append_of_eq_nil [first] none
        rw [List.rdropWhile_singleton, if_pos (isBlank_of_isPadding isPadding)] at trimmed
        exact trimmed ▸ IsPadding.nil
      · have trimmed := rdropWhile_append_of_ne_nil [first] none
        exact trimmed ▸ IsPadding.blank isPadding inductionHypothesis
  | @comment body line noBreak ends _ inductionHypothesis =>
      have mark : EndsSolid [';'] := ⟨[], ';', rfl, by decide⟩
      rw [← List.singleton_append, mark.rdropWhile_append, List.singleton_append]
      by_cases none : line.rdropWhile isBlank = []
      · have shorter : ∀ character ∈ body.rdropWhile isBlank, isCommentCharacter character = true :=
          fun character member => noBreak character ((List.rdropWhile_prefix _ _).subset member)
        rw [rdropWhile_append_of_eq_nil _ none, ← List.append_nil (body.rdropWhile isBlank)]
        exact .comment shorter (.inr ⟨rfl, rfl⟩) .nil
      · have endsThere : StartsLine (line.rdropWhile isBlank) := by
          rcases ends with starts | ⟨-, rfl⟩
          · exact starts.rdropWhile none
          · exact absurd rfl none
        rw [rdropWhile_append_of_ne_nil _ none]
        exact .comment noBreak (.inl endsThere) inductionHypothesis

end Text

end ShaderLang
