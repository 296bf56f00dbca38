import ShaderLang.Proofs.ReadRuns

/-!
# Layout

How instructions are laid out in a text does not matter.  Any spaces and tabs may stand between the
parts of a line, and any padding between lines, as long as there is a line feed in it.
-/

namespace ShaderLang

open Text (Ends IsPadding)

namespace Instruction

/-- A text of instructions with padding around their lines.  Behind another line, a line feed is
needed in front of the next one. -/
inductive IsLayout : (isBehindLine : Bool) → List Instruction → List Char → Prop where
  | last {isBehindLine : Bool} {padding : List Char} (isPadding : IsPadding true padding) :
      IsLayout isBehindLine [] padding
  | line {isBehindLine : Bool} {instruction : Instruction} {instructions : List Instruction}
      {padding line text : List Char} (isPadding : IsPadding false padding)
      (breaks : isBehindLine = true → '\n' ∈ padding) (spread : instruction.IsSpread line)
      (others : IsLayout true instructions text) :
      IsLayout isBehindLine (instruction :: instructions) (padding ++ (line ++ text))

variable {instruction : Instruction} {instructions : List Instruction} {line text : List Char}

/-- No operand goes on into padding. -/
theorem ends_isTokenCharacter_padding {isLast : Bool} {padding : List Char}
    (isPadding : IsPadding isLast padding) :
    Ends isTokenCharacter padding := by
  cases isPadding with
  | nil => exact Text.ends_nil _
  | blank isBlank =>
      rcases Text.eq_of_isPaddingCharacter isBlank with rfl | rfl | rfl | rfl
      all_goals exact Text.ends_cons _ (by decide)
  | comment => exact Text.ends_cons _ (by decide)

theorem IsLayout.ends (layout : IsLayout true instructions text) :
    Ends isTokenCharacter text := by
  cases layout with
  | last isPadding => exact ends_isTokenCharacter_padding isPadding
  | line isPadding breaks =>
      exact Text.ends_append _ (List.ne_nil_of_mem (breaks rfl))
        (ends_isTokenCharacter_padding isPadding)

theorem IsLayout.noIdFollows (layout : IsLayout true instructions text) :
    Operand.NoIdFollows text := by
  cases layout with
  | last isPadding =>
      rw [← List.append_nil text]
      exact Operand.noIdFollows_padding isPadding (.inl rfl)
  | line isPadding breaks =>
      exact Operand.noIdFollows_padding isPadding (.inr ⟨'\n', breaks rfl, by decide⟩)

/-- Each line is read back in front of the others. -/
theorem IsLayout.readsBefore {isBehindLine : Bool} (layout : IsLayout isBehindLine instructions text)
    (fits : ∀ instruction ∈ instructions, instruction.Fits)
    (finite : ∀ instruction ∈ instructions, instruction.HasFiniteFloat) :
    ReadsBefore [] instructions text := by
  induction layout with
  | last isPadding => exact .stop isPadding
  | @line _ instruction _ padding line text isPadding breaks spread others inductionHypothesis =>
      obtain ⟨fitsHere, fitsBehind⟩ := List.forall_mem_cons.mp fits
      obtain ⟨finiteHere, finiteBehind⟩ := List.forall_mem_cons.mp finite
      have reads := read_spread fitsHere finiteHere spread others.ends others.noIdFollows
      refine .read isPadding ?_ (inductionHypothesis fitsBehind finiteBehind)
      rwa [List.append_nil]

/-- Instructions with finite floats are read back from their lines, however these are laid out. -/
theorem parseAll_of_isLayout {text : String} (layout : IsLayout false instructions text.toList)
    (fits : ∀ instruction ∈ instructions, instruction.Fits)
    (finite : ∀ instruction ∈ instructions, instruction.HasFiniteFloat) :
    parseAll text = .ok instructions := by
  have reads := parseAll_of_readsBefore (layout.readsBefore fits finite)
  rwa [String.ofList_toList] at reads

/-- Lines with comments that look like ids, and with a name that looks like a comment. -/
def scattered : String :=
  ";\u00e9 %7\r\n%1=OpTypeFloat\t32;\n%2 \t= OpTypeStruct  %1\t%1 \r\n\tOpName %2 \";\n%9\";\n" ++
    "%3 =OpConstant %1 \t-0.25 ;%4"

theorem scattered_parses :
    parseAll scattered = .ok [.typeFloat 1 32, .typeStruct 2 [1, 1], .name 2 ";\n%9",
      .constant 3 1 (.float ⟨true, 4598175219545276416, by decide⟩)] := by
  have gap : ∀ text : List Char, text.all Operand.isSeparator = true → Operand.IsGap text :=
    fun _ => List.all_eq_true.mp
  have noBreak : ∀ text : List Char, text.all Text.isCommentCharacter = true →
      ∀ character ∈ text, Text.isCommentCharacter character = true :=
    fun _ => List.all_eq_true.mp
  have leading : IsPadding false _ :=
    .comment (noBreak ['\u00e9', ' ', '%', '7'] rfl) (.inl ⟨[], .inr rfl⟩)
      (.blank rfl (.blank rfl .nil))
  have commented : IsPadding false _ :=
    .comment (noBreak [] rfl) (.inl ⟨[], .inl rfl⟩) (.blank rfl .nil)
  have blank : IsPadding false [' ', '\r', '\n', '\t'] :=
    .blank rfl (.blank rfl (.blank rfl (.blank rfl .nil)))
  have trailing : IsPadding true (' ' :: _) :=
    .blank rfl (.comment (noBreak ['%', '4'] rfl) (.inr ⟨rfl, rfl⟩) .nil)
  have float : (typeFloat 1 32).IsSpread _ :=
    .withResult rfl (gap [] rfl) (gap [] rfl) (.cons (by decide) (gap ['\t'] rfl) .nil)
  have struct : (typeStruct 2 [1, 1]).IsSpread _ :=
    .withResult rfl (gap [' ', '\t'] rfl) (gap [' '] rfl) (.cons (by decide) (gap [' ', ' '] rfl)
      (.cons (by decide) (gap ['\t'] rfl) .nil))
  have named : (name 2 ";\n%9").IsSpread _ :=
    .plain rfl (.cons (by decide) (gap [' '] rfl) (.cons (by decide) (gap [' '] rfl) .nil))
  have quarter : (constant 3 1 (.float ⟨true, 4598175219545276416, by decide⟩)).IsSpread _ :=
    .withResult rfl (gap [' '] rfl) (gap [] rfl) (.cons (by decide) (gap [' '] rfl)
      (.cons (by decide) (gap [' ', '\t'] rfl) .nil))
  have lines : IsLayout false _ _ := .line leading (by decide) float
    (.line commented (by decide) struct (.line blank (by decide) named
      (.line commented (by decide) quarter (.last trailing))))
  refine parseAll_of_isLayout ?_ (by decide) (by decide)
  convert lines using 1
  decide +kernel

end Instruction

end ShaderLang
