import ShaderLang.Proofs.TextPadding

/-!
# Runs of instructions

A text that is read as instructions: padding in front of each of them, and padding behind the last.
What was read in front of some rest is read again when it stands alone and is trimmed.
-/

namespace ShaderLang

open Text (Reader Ends EndsSolid isBlank IsPadding)
open Operand (CutsIds NoIdFollows)

namespace Instruction

variable {instruction : Instruction} {instructions : List Instruction}
  {input line front rest : List Char}

/-! ## Single instructions -/

/-- A text that is read as an instruction does not end with a blank, and is read again if what follows
it is cut off. -/
theorem read_again (reads : read (line ++ rest) = some (instruction, rest)) :
    EndsSolid line ∧
      ∀ rest', CutsIds rest rest' → read (line ++ rest') = some (instruction, rest') := by
  obtain ⟨used, split, solid, again⟩ := stable_read _ _ _ reads
  obtain rfl : line = used := List.append_cancel_right split
  exact ⟨solid, again⟩

/-- An instruction starts with the id of its result or with its opcode. -/
theorem exists_cons_of_read (reads : read input = some (instruction, rest)) :
    ∃ first others, input = first :: others ∧
      (first = '%' ∧ Operand.readId input ≠ none ∨ first = 'O') := by
  cases input with
  | nil => cases reads
  | cons first others =>
      refine ⟨first, others, rfl, ?_⟩
      by_cases isMark : first = '%'
      · subst isMark
        refine .inl ⟨rfl, fun noId => ?_⟩
        rw [read_of_mark, readWithResult, Reader.bind_of_none noId] at reads
        cases reads
      · rw [read_of_ends (Text.ends_cons _ (by simpa using isMark))] at reads
        by_contra notOpcode
        rw [readBody_of_ne none others (not_or.mp notOpcode).2] at reads
        cases reads

/-- No instruction starts with a character that is none of the marks. -/
theorem ends_of_read (isMember : Char → Bool) (reads : read input = some (instruction, rest))
    (noId : isMember '%' = false) (noOpcode : isMember 'O' = false) :
    Ends isMember input := by
  obtain ⟨first, others, rfl, ⟨rfl, -⟩ | rfl⟩ := exists_cons_of_read reads
  · exact Text.ends_cons others noId
  · exact Text.ends_cons others noOpcode

theorem skipBlanks_of_read (reads : read input = some (instruction, rest)) :
    skipBlanks input = input := by
  obtain ⟨first, others, rfl, starts⟩ := exists_cons_of_read reads
  rcases starts with ⟨rfl, -⟩ | rfl
  · exact skipBlanks_of_solid (by decide) (by simp)
  · exact skipBlanks_of_solid (by decide) (by simp)

/-! ## Runs -/

/-- A text that is read as instructions, up to some rest. -/
inductive ReadsBefore (rest : List Char) : List Instruction → List Char → Prop where
  | stop {padding : List Char} (isPadding : IsPadding true padding) : ReadsBefore rest [] padding
  | read {instruction : Instruction} {instructions : List Instruction}
      {padding line front : List Char} (isPadding : IsPadding false padding)
      (reads : Instruction.read (line ++ (front ++ rest)) = some (instruction, front ++ rest))
      (others : ReadsBefore rest instructions front) :
      ReadsBefore rest (instruction :: instructions) (padding ++ (line ++ front))

theorem ReadsBefore.pad {padding : List Char} (isPadding : IsPadding false padding)
    (reads : ReadsBefore rest instructions front) :
    ReadsBefore rest instructions (padding ++ front) := by
  cases reads with
  | stop isLast => exact .stop (isPadding.append isLast)
  | read isOther here others =>
      rw [← List.append_assoc]
      exact .read (isPadding.append isOther) here others

theorem prefix_of_rdropWhile (line front rest : List Char) :
    line ++ front.rdropWhile isBlank <+: line ++ (front ++ rest) :=
  (List.prefix_append_right_inj line).mpr
    ((List.rdropWhile_prefix isBlank front).trans (List.prefix_append front rest))

/-- Where no id follows a text of instructions, none follows when it stands alone. -/
theorem ReadsBefore.noIdFollows_rdropWhile (reads : ReadsBefore rest instructions front)
    (stops : NoIdFollows (front ++ rest)) :
    NoIdFollows (front.rdropWhile isBlank) := by
  cases reads with
  | stop isPadding =>
      rw [← List.append_nil (List.rdropWhile _ _)]
      exact Operand.noIdFollows_padding isPadding.rdropWhile (.inl rfl)
  | @read instruction _ padding line front isPadding here others =>
      rw [(read_again here).1.rdropWhile_between]
      by_cases leaves : ∃ character ∈ padding, Operand.isSeparator character = false
      · exact Operand.noIdFollows_padding isPadding (.inr leaves)
      have separators : ∀ character ∈ padding, Operand.isSeparator character = true := by
        intro character member
        by_contra outside
        exact leaves ⟨character, member, Bool.eq_false_iff.mpr outside⟩
      have ends := ends_of_read Operand.isSeparator here (by decide) (by decide)
      have cut := prefix_of_rdropWhile line front rest
      obtain ⟨first, others, starts, ⟨rfl, hasId⟩ | rfl⟩ := exists_cons_of_read here
      · by_cases nonempty : padding = []
        · rw [nonempty]
          exact Operand.behindSpace_of_ends _ (ends.of_isPrefix cut)
        · -- The result of the next instruction would have been read as an id of the line before.
          obtain ⟨⟨result, behind⟩, readsId⟩ := Option.ne_none_iff_exists'.mp hasId
          have follows := Operand.behindSpace_gap OperandKind.id.read nonempty separators ends
          rw [NoIdFollows, List.append_assoc, List.append_assoc, follows, OperandKind.read,
            Reader.map_of_some readsId] at stops
          cases stops
      · refine Operand.noIdFollows_of_ends ?_
        have opcodeEnds : Ends (· == '%') (line ++ (front ++ rest)) := by
          rw [starts]
          exact Text.ends_cons others (by decide)
        rw [Text.dropWhile_append_of_ends padding separators (ends.of_isPrefix cut)]
        exact opcodeEnds.of_isPrefix cut

/-- What is read as instructions up to some rest is read as the same instructions when it stands
alone, without the blanks at its end. -/
theorem ReadsBefore.rdropWhile (reads : ReadsBefore rest instructions front) :
    ReadsBefore [] instructions (front.rdropWhile isBlank) := by
  induction reads with
  | stop isPadding => exact .stop isPadding.rdropWhile
  | @read instruction _ padding line front isPadding here others inductionHypothesis =>
      obtain ⟨solid, again⟩ := read_again here
      have cuts : CutsIds (front ++ rest) (front.rdropWhile isBlank) :=
        ⟨(List.rdropWhile_prefix isBlank front).trans (List.prefix_append front rest),
          others.noIdFollows_rdropWhile⟩
      rw [solid.rdropWhile_between]
      refine .read isPadding ?_ inductionHypothesis
      rw [List.append_nil]
      exact again _ cuts

theorem ReadsBefore.dropWhile (reads : ReadsBefore rest instructions front) :
    ReadsBefore rest instructions (front.dropWhile isBlank) := by
  cases reads with
  | stop isPadding =>
      obtain ⟨left, isLeft, written⟩ := isPadding.dropWhile_append (Text.ends_nil isBlank)
      rw [List.append_nil, List.append_nil] at written
      exact written ▸ .stop isLeft
  | @read instruction _ padding line front isPadding here others =>
      have ends : Ends isBlank (line ++ front) := by
        refine (ends_of_read isBlank here (by decide) (by decide)).of_isPrefix ?_
        exact (List.prefix_append_right_inj line).mpr (List.prefix_append front rest)
      obtain ⟨left, isLeft, written⟩ := isPadding.dropWhile_append ends
      exact written ▸ .read isLeft here others

theorem ReadsBefore.trim (reads : ReadsBefore rest instructions front) :
    ReadsBefore [] instructions (Text.trim front) := by
  rw [Text.trim_eq_rdropWhile]
  exact reads.dropWhile.rdropWhile

/-- Reading gives the instructions of a text and leaves nothing. -/
theorem readRun_of_readsBefore {text : List Char} (reads : ReadsBefore [] instructions text) :
    readRun text = (instructions, []) := by
  induction reads with
  | @stop padding isPadding =>
      have skipped := skipBlanks_append isPadding fun _ => rfl
      rw [List.append_nil] at skipped
      unfold readRun
      rw [skipped]
      exact Reader.many_of_none rfl
  | @read instruction _ padding line front isPadding here others inductionHypothesis =>
      rw [List.append_nil] at here
      have skipped : skipBlanks (padding ++ (line ++ front)) = skipBlanks (line ++ front) :=
        skipBlanks_append isPadding (by simp)
      have readsHere : readAndSkip (line ++ front) = some (instruction, skipBlanks front) := by
        unfold readAndSkip
        rw [here, Option.map_some]
      have shorter : (skipBlanks front).length < (line ++ front).length :=
        Nat.lt_of_le_of_lt (length_skipBlanks_le front) ((read_again here).1.length_lt front)
      unfold readRun at inductionHypothesis ⊢
      rw [skipped, skipBlanks_of_read here, Reader.many_of_some readsHere shorter,
        inductionHypothesis]

/-- A text of instructions is read to its end, also with blanks around it. -/
theorem parseAll_of_readsBefore (reads : ReadsBefore rest instructions front) :
    parseAll (String.ofList front) = .ok instructions := by
  unfold parseAll
  rw [String.toList_ofList]
  simp only [readRun_of_readsBefore reads.trim]
  rfl

end Instruction

end ShaderLang
