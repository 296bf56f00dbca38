import ShaderLang.Proofs.ReadRuns

/-!
# Where reading fails

A text that is not read to its end is reported with the place of the first thing that cannot be
read.  What stands in front of that place is read on its own, and what stands behind it starts
neither with an instruction nor with padding.
-/

namespace ShaderLang

open Text (Reader IsPadding StartsPadding)

/-! ## Where a run of instructions stops -/

namespace Instruction

variable {instruction : Instruction} {instructions : List Instruction}
  {input text rest : List Char}

/-- An instruction takes at least one character, also with the padding behind it. -/
theorem length_lt_of_readAndSkip (reads : readAndSkip input = some (instruction, rest)) :
    rest.length < input.length := by
  obtain ⟨behind, readsHere, rfl⟩ : ∃ behind, read input = some (instruction, behind) ∧
      skipBlanks behind = rest := by
    simpa [readAndSkip] using reads
  obtain ⟨line, rfl, solid, -⟩ := stable_read _ _ _ readsHere
  exact Nat.lt_of_le_of_lt (length_skipBlanks_le behind) (solid.length_lt behind)

/-- Where reading stopped in front of a rest: what stands in front of it is read up to there, and
nothing more can be read or skipped. -/
structure StopsAt (input : List Char) (instructions : List Instruction) (rest : List Char) :
    Prop where
  split : ∃ front, input = front ++ rest ∧ ReadsBefore rest instructions front
  noInstruction : read rest = none
  noPadding : skipBlanks rest = rest

theorem StopsAt.pad {padding : List Char} (isPadding : IsPadding false padding)
    (stops : StopsAt input instructions rest) :
    StopsAt (padding ++ input) instructions rest where
  split := by
    obtain ⟨front, rfl, reads⟩ := stops.split
    exact ⟨padding ++ front, (List.append_assoc ..).symm, reads.pad isPadding⟩
  noInstruction := stops.noInstruction
  noPadding := stops.noPadding

/-- Padding is skipped in front of what is read next, if something is left behind that. -/
theorem StopsAt.of_skipBlanks (nonempty : rest ≠ [])
    (stops : StopsAt (skipBlanks input) instructions rest) :
    StopsAt input instructions rest := by
  rcases (leftBehindPadding_skipBlanks input).split with empty | ⟨padding, isPadding, written⟩
  · obtain ⟨front, split, -⟩ := stops.split
    rw [empty] at split
    exact absurd (List.append_eq_nil_iff.mp split.symm).2 nonempty
  · rw [written]
    exact stops.pad isPadding

theorem StopsAt.read (readsHere : Instruction.read input = some (instruction, text))
    (stops : StopsAt text instructions rest) :
    StopsAt input (instruction :: instructions) rest where
  split := by
    obtain ⟨line, rfl, -⟩ := stable_read _ _ _ readsHere
    obtain ⟨front, rfl, reads⟩ := stops.split
    exact ⟨[] ++ (line ++ front), (List.append_assoc ..).symm, .read .nil readsHere reads⟩
  noInstruction := stops.noInstruction
  noPadding := stops.noPadding

/-- Reading goes on up to the place where nothing more can be read. -/
theorem stopsAt_many (skipped : skipBlanks input = input)
    (nonempty : (Reader.many readAndSkip input).2 ≠ []) :
    StopsAt input (Reader.many readAndSkip input).1 (Reader.many readAndSkip input).2 := by
  fun_induction Reader.many readAndSkip input with
  | case1 input fails =>
      refine ⟨⟨[], rfl, .stop .nil⟩, ?_, skipped⟩
      simpa [readAndSkip] using fails
  | case2 input instruction behind reads shorter following inductionHypothesis =>
      obtain ⟨rest, readsHere, rfl⟩ : ∃ rest, Instruction.read input = some (instruction, rest) ∧
          skipBlanks rest = behind := by
        simpa [readAndSkip] using reads
      have stops := inductionHypothesis (leftBehindPadding_skipBlanks rest).stops nonempty
      exact (stops.of_skipBlanks nonempty).read readsHere
  | case3 input instruction behind reads longer => exact absurd (length_lt_of_readAndSkip reads) longer

theorem stopsAt_readRun (nonempty : (readRun text).2 ≠ []) :
    StopsAt text (readRun text).1 (readRun text).2 :=
  (stopsAt_many (leftBehindPadding_skipBlanks text).stops nonempty).of_skipBlanks nonempty

end Instruction

/-! ## What is reported -/

/-- What is reported about a source that is not read to its end: the place between what can be read
on its own and what starts neither with an instruction nor with padding. -/
structure ReadError.PointsBetween (error : ReadError) (source front rest : List Char) : Prop where
  split : source = front ++ rest
  position : error.position = (String.ofList front).utf8ByteSize
  boundary : String.Pos.Raw.IsValid (String.ofList source) ⟨error.position⟩
  inside : error.position < (String.ofList source).utf8ByteSize
  accepted : ∃ instructions, Instruction.parseAll (String.ofList front) = .ok instructions
  noInstruction : Instruction.read rest = none
  noPadding : ¬ StartsPadding rest
  message : error.message = "Unexpected input remaining: " ++ String.ofList rest
  line : error.line = 1 + front.count '\n'
  column : ∃ lines last, front = lines ++ last ∧ (lines = [] ∨ ∃ earlier, lines = earlier ++ ['\n']) ∧
    '\n' ∉ last ∧ error.column = 1 + last.length

namespace ReadError

/-- The column of a failure counts the characters behind the last line feed. -/
theorem column_eq (error : ReadError) :
    ∃ lines last, error.consumed = lines ++ last ∧
      (lines = [] ∨ ∃ earlier, lines = earlier ++ ['\n']) ∧ '\n' ∉ last ∧
      error.column = 1 + last.length := by
  refine ⟨error.consumed.rdropWhile (· ≠ '\n'), error.consumed.rtakeWhile (· ≠ '\n'),
    List.rdropWhile_append_rtakeWhile.symm, ?_, ?_, ?_⟩
  · by_cases none : error.consumed.rdropWhile (· ≠ '\n') = []
    · exact .inl none
    · have isFeed : (error.consumed.rdropWhile (· ≠ '\n')).getLast none = '\n' := by
        simpa using List.rdropWhile_last_not _ _ none
      have split := List.dropLast_append_getLast none
      rw [isFeed] at split
      exact .inr ⟨_, split.symm⟩
  · intro member
    simpa using List.mem_rtakeWhile_imp member
  · unfold column List.rtakeWhile
    rw [List.length_reverse, Nat.add_comm]

/-- The place of a failure is one between two characters of the source. -/
theorem boundary_of_consumed (error : ReadError) {rest : List Char} (nonempty : rest ≠ []) :
    String.Pos.Raw.IsValid (String.ofList (error.consumed ++ rest)) ⟨error.position⟩ ∧
      error.position < (String.ofList (error.consumed ++ rest)).utf8ByteSize := by
  rw [String.ofList_append]
  refine ⟨String.Pos.Raw.isValid_iff_exists_append.mpr ⟨_, _, rfl, rfl⟩, ?_⟩
  have positive : 0 < (String.ofList rest).utf8ByteSize := by
    refine Nat.pos_of_ne_zero fun empty => nonempty ?_
    rw [String.utf8ByteSize_eq_zero_iff] at empty
    simpa using congrArg String.toList empty
  rw [String.utf8ByteSize_append]
  exact Nat.lt_add_of_pos_right positive

end ReadError

namespace Instruction

theorem eq_of_finishReading_error {α : Type} {source rest : List Char} {value : α}
    {error : ReadError} (fails : finishReading source rest value = .error error) :
    rest ≠ [] ∧ error = ⟨.unexpectedInput rest, source.take (source.length - rest.length)⟩ := by
  unfold finishReading at fails
  split at fails
  · cases fails
  · next blank =>
      refine ⟨?_, (Except.error.inj fails).symm⟩
      rintro rfl
      exact blank rfl

theorem ReadsBefore.pointsBetween {front : List Char}
    (reads : ReadsBefore rest instructions front)
    (nonempty : rest ≠ []) (noInstruction : Instruction.read rest = none)
    (skipped : skipBlanks rest = rest) :
    ReadError.PointsBetween ⟨.unexpectedInput rest, front⟩ (front ++ rest) front rest where
  split := rfl
  position := rfl
  boundary := (ReadError.boundary_of_consumed ⟨.unexpectedInput rest, front⟩ nonempty).1
  inside := (ReadError.boundary_of_consumed ⟨.unexpectedInput rest, front⟩ nonempty).2
  accepted := ⟨instructions, parseAll_of_readsBefore reads⟩
  noInstruction := noInstruction
  noPadding := not_startsPadding_of_skipBlanks skipped
  message := rfl
  line := Nat.add_comm _ _
  column := ReadError.column_eq ⟨.unexpectedInput rest, front⟩

/-- A text that is not read to its end is reported with the place between what can be read on its
own and what cannot.  The reading never gets stuck, as each instruction takes a character. -/
theorem parseAll_fails_between {text : String} {error : ReadError}
    (fails : parseAll text = .error error) :
    (∃ front rest, error.PointsBetween (Text.trim text.toList) front rest) ∧
      ∀ input instruction rest, readAndSkip input = some (instruction, rest) →
        rest.length < input.length := by
  refine ⟨?_, fun _ _ _ => length_lt_of_readAndSkip⟩
  obtain ⟨nonempty, reported⟩ := eq_of_finishReading_error fails
  have stops := stopsAt_readRun nonempty
  obtain ⟨front, split, reads⟩ := stops.split
  have consumed : (Text.trim text.toList).take
      ((Text.trim text.toList).length - (readRun (Text.trim text.toList)).2.length) = front := by
    have lengths := congrArg List.length split
    rw [List.length_append] at lengths
    rw [lengths, Nat.add_sub_cancel, split]
    exact List.take_left
  rw [consumed] at reported
  have points := reads.pointsBetween nonempty stops.noInstruction stops.noPadding
  rw [← split, ← reported] at points
  exact ⟨front, _, points⟩

/-- A text with characters of several bytes, and with a line feed in a string. -/
def unreadable : String :=
  "\u3000; \u00fc\r\n%1 = OpTypeStruct %2; \u20ac\n\tOpName %1 \"\u00e9\\\"\n\u00e9\" \t%3 = OpTypeVoid\t\r%4 = x"

theorem unreadable_between :
    ∃ error, parseAll unreadable = .error error ∧ error.position = 71 ∧ error.line = 4 ∧
      error.column = 22 ∧
      ∃ front rest, error.PointsBetween (Text.trim unreadable.toList) front rest := by
  have fails : parseAll unreadable = .error ⟨.unexpectedInput "%4 = x".toList,
      (Text.trim unreadable.toList).rdrop 6⟩ := by
    decide +kernel
  exact ⟨_, fails, by decide +kernel, by decide +kernel, by decide +kernel,
    (parseAll_fails_between fails).1⟩

end Instruction

end ShaderLang
