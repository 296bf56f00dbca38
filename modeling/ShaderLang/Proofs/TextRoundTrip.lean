import ShaderLang.Proofs.LiteralText
import ShaderLang.ShaderModule.Parser

/-!
# Reading back the text of a module

The numbers of a module fit in the words of the text form: ids, counts and indices in 32 bits,
integer literals in 64.  The text of such a module is read back as the module if its floats are
finite, and is refused otherwise.  The argument follows the layers of the text: operands, the
operands of a line, lines, the lines of a module.
-/

namespace ShaderLang

open Text (Reader Ends)

/-! ## Ranges -/

/-- Whether a natural fits in 32 bits. -/
def FitsWord (value : Nat) : Prop :=
  value ≤ 4294967295

instance (value : Nat) : Decidable (FitsWord value) :=
  inferInstanceAs (Decidable (value ≤ 4294967295))

/-- Whether the number of an operand fits in the word that holds it. -/
def Operand.Fits : Operand → Prop
  | .id target => FitsWord target
  | .number value => FitsWord value
  | .literal (.int value) => Constant.FitsInteger value
  | _ => True

instance : DecidablePred Operand.Fits
  | .id target => inferInstanceAs (Decidable (FitsWord target))
  | .number value => inferInstanceAs (Decidable (FitsWord value))
  | .literal (.int value) => inferInstanceAs (Decidable (_ ≤ value ∧ value ≤ _))
  | .literal (.float _) | .text _ | .storageClass _ | .executionModel _ | .dimension _
  | .functionControl _ => inferInstanceAs (Decidable True)

/-- Whether every number of an instruction fits in the word that holds it. -/
structure Instruction.Fits (instruction : Instruction) : Prop where
  result : ∀ result ∈ instruction.result?, FitsWord result
  operands : ∀ operand ∈ instruction.operands, operand.Fits

instance : DecidablePred Instruction.Fits := fun instruction =>
  decidable_of_iff ((∀ result ∈ instruction.result?, FitsWord result) ∧
      ∀ operand ∈ instruction.operands, operand.Fits)
    ⟨fun both => ⟨both.1, both.2⟩, fun fits => ⟨fits.result, fits.operands⟩⟩

/-- Whether every number of a module fits in the word that holds it. -/
structure ShaderModule.Fits (shaderModule : ShaderModule) : Prop where
  bound : FitsWord shaderModule.bound
  instructions : ∀ instruction ∈ shaderModule.instructions, instruction.Fits

instance : DecidablePred ShaderModule.Fits := fun shaderModule =>
  decidable_of_iff (FitsWord shaderModule.bound ∧
      ∀ instruction ∈ shaderModule.instructions, instruction.Fits)
    ⟨fun both => ⟨both.1, both.2⟩, fun fits => ⟨fits.bound, fits.instructions⟩⟩

/-- The value of a float constant. -/
def Instruction.float? : Instruction → Option Binary64
  | .constant _ _ (.float value) => some value
  | _ => none

/-- Whether an instruction is not the constant of an infinity or of what is no number. -/
def Instruction.HasFiniteFloat (instruction : Instruction) : Prop :=
  ∀ value ∈ instruction.float?, value.isFinite = true

instance : DecidablePred Instruction.HasFiniteFloat := fun instruction =>
  inferInstanceAs (Decidable (∀ value ∈ instruction.float?, value.isFinite = true))

/-- Whether every float constant of a module is finite. -/
def ShaderModule.HasFiniteFloats (shaderModule : ShaderModule) : Prop :=
  ∀ instruction ∈ shaderModule.instructions, instruction.HasFiniteFloat

instance : DecidablePred ShaderModule.HasFiniteFloats := fun shaderModule =>
  inferInstanceAs (Decidable (∀ instruction ∈ shaderModule.instructions, _))

/-! ## Operands -/

/-- The kind of an operand. -/
def Operand.kind : Operand → OperandKind
  | .id _ => .id
  | .number _ => .number
  | .text _ => .text
  | .literal _ => .literal
  | .storageClass _ => .storageClass
  | .executionModel _ => .executionModel
  | .dimension _ => .dimension
  | .functionControl _ => .functionControl

/-- The characters that cannot end a line. -/
def isLineCharacter (character : Char) : Bool :=
  character ≠ '\n'

/-- The characters that can go on with an operand. -/
def isTokenCharacter (character : Char) : Bool :=
  Operand.isWordCharacter character || character = '.'

theorem ne_of_isMember {isMember : Char → Bool} {excluded : Char}
    (outside : isMember excluded = false) {character : Char} (member : isMember character = true) :
    character ≠ excluded := by
  rintro rfl
  rw [outside] at member
  cases member

/-- What ends a line ends every class without a line break. -/
theorem ends_of_lineEnd {isMember : Char → Bool} {rest : List Char}
    (ends : Ends isLineCharacter rest)
    (noBreak : isMember '\n' = false) :
    Ends isMember rest :=
  ends.mono fun _ member => decide_eq_true (ne_of_isMember noBreak member)

namespace Operand

variable {rest : List Char}

theorem ends_isWordCharacter (ends : Ends isTokenCharacter rest) : Ends isWordCharacter rest :=
  ends.mono fun _ member => by simp [isTokenCharacter, member]

theorem ends_isDigit (ends : Ends isTokenCharacter rest) : Ends Char.isDigit rest :=
  (ends_isWordCharacter ends).mono fun _ digit => by simp [isWordCharacter, Char.isAlphanum, digit]

theorem ends_isMark (ends : Ends isTokenCharacter rest) : Ends Constant.isMark rest := by
  refine ends.mono fun character member => ?_
  have cases : ((character.isDigit = true ∨ character = '.') ∨ character = 'e') ∨
      character = 'E' := by
    simpa [Constant.isMark] using member
  rcases cases with ((digit | rfl) | rfl) | rfl
  · simp [isTokenCharacter, isWordCharacter, Char.isAlphanum, digit]
  all_goals decide

theorem readNumber_digits {value : Nat} (fits : FitsWord value)
    (ends : Ends Char.isDigit rest) :
    readNumber (Text.digits value ++ rest) = some (value, rest) := by
  refine Reader.accept_of_some (Constant.run1_digits value ends) ?_
  unfold word32?
  rw [Text.digitsValue_digits]
  exact if_pos fits

theorem readId_characters {target : ResultId} (fits : FitsWord target)
    (ends : Ends Char.isDigit rest) :
    readId ((Operand.id target).characters ++ rest) = some (target, rest) :=
  (Reader.bind_of_some (Reader.character_cons '%' _)).trans (readNumber_digits fits ends)

/-- A value of a vocabulary is read back from its word. -/
theorem readWord_word {α : Type} [Vocabulary α] (value : α)
    (nonempty : (Vocabulary.word value).toList ≠ [])
    (members : (Vocabulary.word value).toList.all isWordCharacter = true)
    (ends : Ends isTokenCharacter rest) :
    readWord α ((Vocabulary.word value).toList ++ rest) = some (value, rest) := by
  refine Reader.accept_of_some
    (Reader.run1_append _ nonempty (List.all_eq_true.mp members) (ends_isWordCharacter ends)) ?_
  rw [String.ofList_toList]
  exact Vocabulary.ofWord?_word value

/-- An operand is read back from its text. -/
theorem read_characters {operand : Operand} (fits : operand.Fits)
    (finite : ∀ value, operand = .literal (.float value) → value.isFinite = true)
    (ends : Ends isTokenCharacter rest) :
    operand.kind.read (operand.characters ++ rest) = some (operand, rest) := by
  cases operand with
  | id target => exact Reader.map_of_some (readId_characters fits (ends_isDigit ends))
  | number value => exact Reader.map_of_some (readNumber_digits fits (ends_isDigit ends))
  | text content =>
      have reads : readText ((Operand.text content).characters ++ rest) = some (content, rest) := by
        change (Text.readQuoted? (Text.quote content.toList ++ rest)).map _ = _
        rw [Text.readQuoted?_quote, Option.map_some, String.ofList_toList]
      exact Reader.map_of_some reads
  | literal value =>
      have markEnds := ends_isMark ends
      have reads : Constant.read (value.characters ++ rest) = some (value, rest) := by
        cases value with
        | int value => exact Constant.read_int fits markEnds
        | float value => exact Constant.read_float (finite value rfl) markEnds
      exact Reader.map_of_some reads
  | storageClass storage =>
      exact Reader.map_of_some (readWord_word storage
        (by cases storage <;> decide) (by cases storage <;> decide) ends)
  | executionModel model =>
      exact Reader.map_of_some (readWord_word model
        (by cases model <;> decide) (by cases model <;> decide) ends)
  | dimension shape =>
      exact Reader.map_of_some (readWord_word shape
        (by cases shape <;> decide) (by cases shape <;> decide) ends)
  | functionControl control =>
      exact Reader.map_of_some (readWord_word control
        (by cases control <;> decide) (by cases control <;> decide) ends)

end Operand

/-! ## The operands of a line -/

namespace OperandKind

/-- No operand starts with a space. -/
theorem read_of_isSeparator (kind : OperandKind) {first : Char} (others : List Char)
    (separator : Operand.isSeparator first = true) :
    kind.read (first :: others) = none := by
  have isBlank : first = ' ' ∨ first = '\t' := by
    simpa [Operand.isSeparator] using separator
  cases kind with
  | literal =>
      have unsigned : Constant.readMinus (first :: others) = some (false, first :: others) := by
        refine Constant.readMinus_of_ne ?_
        rcases isBlank with rfl | rfl <;> decide
      have noDigit : Ends Char.isDigit (first :: others) := by
        rcases isBlank with rfl | rfl <;> exact Text.ends_cons _ (by decide)
      refine Reader.map_of_none ?_
      unfold Constant.read
      rw [Reader.bind_of_some unsigned]
      exact Reader.bind_of_none (Reader.run1_of_ends noDigit)
  | _ => rcases isBlank with rfl | rfl <;> rfl

theorem ends_isSeparator_of_read (kind : OperandKind) {input rest : List Char} {operand : Operand}
    (reads : kind.read input = some (operand, rest)) :
    Ends Operand.isSeparator input := by
  intro first starts
  cases input with
  | nil => cases starts
  | cons character others =>
      cases starts
      by_contra separator
      rw [kind.read_of_isSeparator others (Bool.not_eq_false _ ▸ separator)] at reads
      cases reads

end OperandKind

namespace Operand

variable {rest : List Char}

/-- A text of spaces and tabs. -/
def IsGap (text : List Char) : Prop :=
  ∀ character ∈ text, isSeparator character = true

theorem isGap_space : IsGap [' '] :=
  List.forall_mem_singleton.mpr rfl

theorem IsGap.ends {isMember : Char → Bool} {gap : List Char} (isGap : IsGap gap)
    (noSpace : isMember ' ' = false) (noTab : isMember '\t' = false)
    (ends : Ends isMember rest) :
    Ends isMember (gap ++ rest) := by
  cases gap with
  | nil => exact ends
  | cons first others =>
      refine Text.ends_cons _ ?_
      have isBlank : first = ' ' ∨ first = '\t' := by
        simpa [isSeparator] using isGap first List.mem_cons_self
      rcases isBlank with rfl | rfl
      · exact noSpace
      · exact noTab

/-- Spaces and tabs are skipped in front of what does not start with one. -/
theorem behindSpace_gap {α : Type} (reader : Reader α) {gap input : List Char}
    (nonempty : gap ≠ []) (isGap : IsGap gap)
    (ends : Ends isSeparator input) :
    behindSpace reader (gap ++ input) = reader input :=
  Reader.bind_of_some (Reader.run1_append gap nonempty isGap ends)

theorem behindSpace_space {α : Type} (reader : Reader α) {input : List Char}
    (ends : Ends isSeparator input) :
    behindSpace reader (' ' :: input) = reader input :=
  behindSpace_gap reader (List.cons_ne_nil ' ' []) isGap_space ends

/-- The texts of operands, each behind spaces and tabs. -/
inductive IsSpread : List Operand → List Char → Prop where
  | nil : IsSpread [] []
  | cons {operand : Operand} {operands : List Operand} {gap text : List Char}
      (nonempty : gap ≠ []) (isGap : IsGap gap) (others : IsSpread operands text) :
      IsSpread (operand :: operands) (gap ++ (operand.characters ++ text))

/-- The text of operands, each behind a space. -/
def lineCharacters (operands : List Operand) : List Char :=
  operands.flatMap fun operand => ' ' :: operand.characters

theorem lineCharacters_cons (operand : Operand) (operands : List Operand) :
    lineCharacters (operand :: operands) ++ rest =
      ' ' :: (operand.characters ++ (lineCharacters operands ++ rest)) := by
  simp [lineCharacters]

theorem isSpread_lineCharacters (operands : List Operand) :
    IsSpread operands (lineCharacters operands) := by
  induction operands with
  | nil => exact .nil
  | cons operand operands inductionHypothesis =>
      exact .cons (List.cons_ne_nil ' ' []) isGap_space inductionHypothesis

/-- What operands are written for can be split where the operands are. -/
theorem IsSpread.split {front back : List Operand} {text : List Char}
    (spread : IsSpread (front ++ back) text) :
    ∃ first second, text = first ++ second ∧ IsSpread front first ∧ IsSpread back second := by
  induction front generalizing text with
  | nil => exact ⟨[], text, rfl, .nil, spread⟩
  | cons operand front inductionHypothesis =>
      cases spread with
      | @cons _ _ gap text nonempty isGap others =>
          obtain ⟨first, second, rfl, isFirst, isSecond⟩ := inductionHypothesis others
          refine ⟨gap ++ (operand.characters ++ first), second, ?_, .cons nonempty isGap isFirst,
            isSecond⟩
          simp only [List.append_assoc]

theorem IsSpread.ends {operands : List Operand} {text : List Char}
    (spread : IsSpread operands text) (ends : Ends isTokenCharacter rest) :
    Ends isTokenCharacter (text ++ rest) := by
  cases spread with
  | nil => exact ends
  | cons nonempty isGap others =>
      have gapEnds := isGap.ends (by decide) (by decide) (Text.ends_nil isTokenCharacter)
      rw [List.append_nil] at gapEnds
      rw [List.append_assoc]
      exact Text.ends_append _ nonempty gapEnds

/-- Whether an operand is read back from its text. -/
def Reads (operand : Operand) : Prop :=
  operand.Fits ∧ ∀ value, operand = .literal (.float value) → value.isFinite = true

theorem behindSpace_characters {operand : Operand} {gap : List Char} (reads : operand.Reads)
    (nonempty : gap ≠ []) (isGap : IsGap gap)
    (ends : Ends isTokenCharacter rest) :
    behindSpace operand.kind.read (gap ++ (operand.characters ++ rest)) = some (operand, rest) := by
  have read := read_characters reads.1 reads.2 ends
  rw [behindSpace_gap _ nonempty isGap (operand.kind.ends_isSeparator_of_read read)]
  exact read

/-- Operands of known kinds are read back from their texts. -/
theorem readAll_spread {operands : List Operand} {text : List Char}
    (reads : ∀ operand ∈ operands, operand.Reads)
    (spread : IsSpread operands text)
    (ends : Ends isTokenCharacter rest) :
    OperandKind.readAll (operands.map kind) (text ++ rest) = some (operands, rest) := by
  induction spread with
  | nil => rfl
  | @cons operand operands gap text nonempty isGap spread inductionHypothesis =>
      have first := behindSpace_characters (reads operand List.mem_cons_self) nonempty isGap
        (spread.ends ends)
      have others := inductionHypothesis fun other member =>
        reads other (List.mem_cons_of_mem _ member)
      rw [List.append_assoc, List.append_assoc, List.map_cons, OperandKind.readAll,
        Reader.bind_of_some first, Reader.bind_of_some others]
      rfl

/-- Whether no id follows on the line. -/
def NoIdFollows (text : List Char) : Prop :=
  behindSpace OperandKind.id.read text = none

theorem behindSpace_of_ends {α : Type} (reader : Reader α) (ends : Ends isSeparator rest) :
    behindSpace reader rest = none :=
  Reader.bind_of_none (Reader.run1_of_ends ends)

theorem noIdFollows_of_lineEnd (ends : Ends isLineCharacter rest) : NoIdFollows rest :=
  behindSpace_of_ends _ (ends_of_lineEnd ends (by decide))

/-- Ids are read back from their texts as long as they follow on the line. -/
theorem many_spread {targets : List ResultId} {text : List Char}
    (fits : ∀ target ∈ targets, FitsWord target)
    (spread : IsSpread (targets.map .id) text)
    (ends : Ends isTokenCharacter rest) (stops : NoIdFollows rest) :
    Reader.many (behindSpace OperandKind.id.read) (text ++ rest) = (targets.map .id, rest) := by
  induction targets generalizing text with
  | nil =>
      cases spread with
      | nil => exact Reader.many_of_none stops
  | cons target targets inductionHypothesis =>
      cases spread with
      | @cons _ _ gap text nonempty isGap spread =>
          have idReads : (Operand.id target).Reads :=
            ⟨fits target List.mem_cons_self, fun _ different => by cases different⟩
          have first := behindSpace_characters idReads nonempty isGap (spread.ends ends)
          have others := inductionHypothesis
            (fun other member => fits other (List.mem_cons_of_mem _ member)) spread
          change behindSpace OperandKind.id.read _ = _ at first
          have shorter : (text ++ rest).length <
              (gap ++ ((Operand.id target).characters ++ (text ++ rest))).length := by
            have gapLength := List.length_pos_iff.mpr nonempty
            simp only [List.length_append]
            omega
          rw [List.append_assoc, List.append_assoc, Reader.many_of_some first shorter, others]
          rfl

end Operand

/-! ## Lines -/

namespace Opcode

/-- The name of an opcode is a mark in front of letters. -/
theorem text_eq (opcode : Opcode) :
    opcode.text.toList = 'O' :: 'p' :: opcode.text.toList.drop 2 ∧
      opcode.text.toList.drop 2 ≠ [] ∧
      (opcode.text.toList.drop 2).all Operand.isWordCharacter = true := by
  have checked : ∀ opcode ∈ all,
      opcode.text.toList = 'O' :: 'p' :: opcode.text.toList.drop 2 ∧
      opcode.text.toList.drop 2 ≠ [] ∧
      (opcode.text.toList.drop 2).all Operand.isWordCharacter = true := by
    decide +kernel
  exact checked opcode (mem_all opcode)

theorem text_eq_cons (opcode : Opcode) (rest : List Char) :
    ∃ others, opcode.text.toList ++ rest = 'O' :: others := by
  obtain ⟨written, -, -⟩ := opcode.text_eq
  rw [written]
  exact ⟨_, rfl⟩

/-- An opcode is read back from its name. -/
theorem read_text (opcode : Opcode) {rest : List Char} (ends : Ends isTokenCharacter rest) :
    read (opcode.text.toList ++ rest) = some (opcode, rest) := by
  obtain ⟨written, nonempty, members⟩ := opcode.text_eq
  have wordEnds := Operand.ends_isWordCharacter ends
  have mark : Reader.literal ['O', 'p'] (opcode.text.toList ++ rest) =
      some ((), opcode.text.toList.drop 2 ++ rest) := by
    rw [written]
    rfl
  refine (Reader.bind_of_some mark).trans ?_
  refine Reader.accept_of_some
    (Reader.run1_append _ nonempty (List.all_eq_true.mp members) wordEnds) ?_
  rw [← written, String.ofList_toList]
  exact Vocabulary.ofWord?_word opcode

end Opcode

namespace Instruction

variable {rest : List Char}

/-- The operands of an instruction are those that its opcode asks for, and ids behind them if the
opcode takes ids. -/
theorem operands_eq (instruction : Instruction) :
    ∃ fixed targets, instruction.operands = fixed ++ targets.map .id ∧
      fixed.map Operand.kind = instruction.opcode.operandKinds ∧
      (instruction.opcode.takesIds = false → targets = []) := by
  cases instruction with
  | typeStruct result members => exact ⟨[], members, rfl, rfl, by simp [opcode, Opcode.takesIds]⟩
  | typeFunction result returned parameters =>
      exact ⟨[.id returned], parameters, rfl, rfl, by simp [opcode, Opcode.takesIds]⟩
  | _ => exact ⟨_, [], (List.append_nil _).symm, rfl, fun _ => rfl⟩

/-- The operands of an instruction are read back from their texts. -/
theorem readOperands_spread {instruction : Instruction} {text : List Char}
    (reads : ∀ operand ∈ instruction.operands, operand.Reads)
    (spread : Operand.IsSpread instruction.operands text)
    (ends : Ends isTokenCharacter rest) (stops : Operand.NoIdFollows rest) :
    instruction.opcode.readOperands (text ++ rest) = some (instruction.operands, rest) := by
  obtain ⟨fixed, targets, split, kinds, onlyFixed⟩ := instruction.operands_eq
  have fixedReads : ∀ operand ∈ fixed, operand.Reads := by
    intro operand member
    refine reads operand ?_
    rw [split]
    exact List.mem_append_left _ member
  have targetFits : ∀ target ∈ targets, FitsWord target := by
    intro target member
    refine (reads (.id target) ?_).1
    rw [split]
    exact List.mem_append_right _ (List.mem_map_of_mem member)
  rw [split] at spread
  obtain ⟨fixedText, targetText, rfl, fixedSpread, targetSpread⟩ := spread.split
  have first := Operand.readAll_spread fixedReads fixedSpread (targetSpread.ends ends)
  have second : instruction.opcode.readIds (targetText ++ rest) = some (targets.map .id, rest) := by
    unfold Opcode.readIds
    split
    · rw [Operand.many_spread targetFits targetSpread ends stops]
    · next noIds =>
        obtain rfl := onlyFixed (Bool.not_eq_true _ ▸ noIds)
        cases targetSpread with
        | nil => rfl
  unfold Opcode.readOperands
  rw [List.append_assoc, ← kinds, Reader.bind_of_some first, Reader.bind_of_some second, split]
  rfl

theorem readBody_spread {instruction : Instruction} {text : List Char}
    (reads : ∀ operand ∈ instruction.operands, operand.Reads)
    (spread : Operand.IsSpread instruction.operands text)
    (ends : Ends isTokenCharacter rest) (stops : Operand.NoIdFollows rest) :
    readBody instruction.result? (instruction.opcode.text.toList ++ (text ++ rest)) =
      some (instruction, rest) := by
  unfold readBody
  rw [Reader.bind_of_some (instruction.opcode.read_text (spread.ends ends)),
    Reader.bind_of_some (readOperands_spread reads spread ends stops)]
  exact Reader.lift_of_some (assemble?_parts instruction)

/-- The line of an instruction with any spaces and tabs between its parts. -/
inductive IsSpread (instruction : Instruction) : List Char → Prop where
  | plain {text : List Char} (noResult : instruction.result? = none)
      (spread : Operand.IsSpread instruction.operands text) :
      IsSpread instruction (instruction.opcode.text.toList ++ text)
  | withResult {result : ResultId} {front back text : List Char}
      (defines : instruction.result? = some result)
      (isFront : Operand.IsGap front) (isBack : Operand.IsGap back)
      (spread : Operand.IsSpread instruction.operands text) :
      IsSpread instruction ((Operand.id result).characters ++
        (front ++ '=' :: (back ++ (instruction.opcode.text.toList ++ text))))

theorem isSpread_characters (instruction : Instruction) :
    instruction.IsSpread instruction.characters := by
  have spread := Operand.isSpread_lineCharacters instruction.operands
  unfold characters resultCharacters
  cases defines : instruction.result? with
  | none => exact .plain defines spread
  | some result =>
      have written := IsSpread.withResult defines Operand.isGap_space Operand.isGap_space spread
      simp only [List.append_assoc] at written ⊢
      exact written

/-- The part of a line behind its result. -/
def bodyCharacters (instruction : Instruction) : List Char :=
  instruction.opcode.text.toList ++ Operand.lineCharacters instruction.operands

theorem characters_eq (instruction : Instruction) (rest : List Char) :
    instruction.characters ++ rest =
      instruction.resultCharacters ++ (instruction.bodyCharacters ++ rest) := by
  simp [characters, bodyCharacters, Operand.lineCharacters]

theorem bodyCharacters_eq_cons (instruction : Instruction) (rest : List Char) :
    ∃ others, instruction.bodyCharacters ++ rest = 'O' :: others := by
  unfold bodyCharacters
  rw [List.append_assoc]
  exact instruction.opcode.text_eq_cons _

/-- What follows the result and the equals sign of a line is its body. -/
theorem readWithResult_gaps {result : ResultId} {front back : List Char} {first : Char}
    (fits : FitsWord result)
    (isFront : Operand.IsGap front) (isBack : Operand.IsGap back)
    (starts : Operand.isSeparator first = false) :
    readWithResult ((Operand.id result).characters ++
        (front ++ '=' :: (back ++ first :: rest))) =
      readBody (some result) (first :: rest) := by
  have ends : Ends Char.isDigit (front ++ '=' :: (back ++ first :: rest)) :=
    isFront.ends (by decide) (by decide) (Text.ends_cons _ (by decide))
  have frontReads := Reader.run_append front isFront
    (Text.ends_cons (back ++ first :: rest) (show Operand.isSeparator '=' = false by decide))
  have backReads := Reader.run_append back isBack (Text.ends_cons rest starts)
  unfold readWithResult
  rw [Reader.bind_of_some (Operand.readId_characters fits ends), Reader.bind_of_some frontReads,
    Reader.bind_of_some (Reader.character_cons '=' _), Reader.bind_of_some backReads]

theorem readWithResult_resultCharacters {instruction : Instruction} {result : ResultId}
    (defines : instruction.result? = some result)
    (fits : FitsWord result) :
    readWithResult (instruction.characters ++ rest) =
      readBody (some result) (instruction.bodyCharacters ++ rest) := by
  obtain ⟨others, body⟩ := instruction.bodyCharacters_eq_cons rest
  have resultText : instruction.resultCharacters =
      (Operand.id result).characters ++ [' ', '=', ' '] := by
    unfold resultCharacters
    rw [defines]
  rw [characters_eq, resultText, List.append_assoc, body]
  exact readWithResult_gaps fits Operand.isGap_space Operand.isGap_space (by decide)

theorem readWithResult_of_ne {first : Char} (others : List Char) (noMark : first ≠ '%') :
    readWithResult (first :: others) = none := by
  have noId : Operand.readId (first :: others) = none :=
    Reader.bind_of_none (if_neg noMark)
  exact Reader.bind_of_none noId

theorem readBody_of_ne (result : Option ResultId) {first : Char} (others : List Char)
    (noMark : first ≠ 'O') :
    readBody result (first :: others) = none := by
  have noCharacter : Reader.character 'O' (first :: others) = none := if_neg noMark
  have noOpcode : Opcode.read (first :: others) = none :=
    Reader.bind_of_none (Reader.bind_of_none noCharacter)
  exact Reader.bind_of_none noOpcode

theorem reads_of_mem_operands {instruction : Instruction} (fits : instruction.Fits)
    (finite : instruction.HasFiniteFloat) :
    ∀ operand ∈ instruction.operands, operand.Reads := by
  have operandFinite : ∀ value, .literal (.float value) ∈ instruction.operands →
      value.isFinite = true := by
    intro value member
    cases instruction with
    | constant result type literal =>
        have same : Constant.float value = literal := by
          simpa [operands] using member
        rw [← same] at finite
        exact finite value rfl
    | _ => simp [operands] at member
  intro operand member
  refine ⟨fits.operands operand member, ?_⟩
  rintro value rfl
  exact operandFinite value member

/-- An instruction is read back from its line, however its parts are spread over the line. -/
theorem read_spread {instruction : Instruction} {line : List Char} (fits : instruction.Fits)
    (finite : instruction.HasFiniteFloat) (spread : instruction.IsSpread line)
    (ends : Ends isTokenCharacter rest) (stops : Operand.NoIdFollows rest) :
    read (line ++ rest) = some (instruction, rest) := by
  have reads := reads_of_mem_operands fits finite
  unfold read
  cases spread with
  | @plain text noResult spread =>
      have body := readBody_spread reads spread ends stops
      obtain ⟨others, starts⟩ := instruction.opcode.text_eq_cons (text ++ rest)
      rw [noResult, starts] at body
      rw [List.append_assoc, starts, readWithResult_of_ne others (by decide)]
      exact body
  | @withResult result front back text defines isFront isBack spread =>
      have body := readBody_spread reads spread ends stops
      obtain ⟨others, starts⟩ := instruction.opcode.text_eq_cons (text ++ rest)
      rw [defines, starts] at body
      simp only [List.append_assoc, List.cons_append, starts]
      rw [readWithResult_gaps (fits.result result defines) isFront isBack (by decide), body]

theorem read_characters {instruction : Instruction} (fits : instruction.Fits)
    (finite : instruction.HasFiniteFloat)
    (ends : Ends isLineCharacter rest) :
    read (instruction.characters ++ rest) = some (instruction, rest) :=
  read_spread fits finite instruction.isSpread_characters (ends_of_lineEnd ends (by decide))
    (Operand.noIdFollows_of_lineEnd ends)

/-- The line of a constant that is not finite is no instruction. -/
theorem read_characters_of_not_isFinite {result type : ResultId} {value : Binary64}
    (fits : (constant result type (.float value)).Fits)
    (infinite : value.isFinite = false) :
    read ((constant result type (.float value)).characters ++ rest) = none := by
  obtain ⟨negative, word, text, isWord⟩ := Binary64.text_of_not_isFinite infinite
  have noSpace : Ends Operand.isSeparator ((Constant.float value).characters ++ rest) := by
    change Ends Operand.isSeparator (value.text ++ rest)
    rw [text]
    rcases isWord with rfl | rfl <;> cases negative <;> exact Text.ends_cons _ (by decide)
  have typeReads : (Operand.id type).Reads :=
    ⟨fits.operands _ List.mem_cons_self, fun _ different => by cases different⟩
  have valueEnds : Ends isTokenCharacter
      (' ' :: ((Constant.float value).characters ++ rest)) :=
    Text.ends_cons _ (by decide)
  have first := Operand.behindSpace_characters typeReads (List.cons_ne_nil ' ' [])
    Operand.isGap_space valueEnds
  rw [List.singleton_append] at first
  have second : Operand.behindSpace OperandKind.literal.read
      (' ' :: ((Constant.float value).characters ++ rest)) = none := by
    rw [Operand.behindSpace_space _ noSpace]
    exact Reader.map_of_none (Constant.read_float_of_not_isFinite infinite rest)
  have noOperands : Opcode.constant.readOperands
      (Operand.lineCharacters [.id type, .literal (.float value)] ++ rest) = none := by
    refine Reader.bind_of_none ?_
    rw [Operand.lineCharacters_cons, Operand.lineCharacters_cons]
    change OperandKind.readAll [(Operand.id type).kind, .literal]
      (' ' :: ((Operand.id type).characters ++
        ' ' :: ((Constant.float value).characters ++ rest))) = none
    rw [OperandKind.readAll, Reader.bind_of_some first]
    exact Reader.bind_of_none (Reader.bind_of_none second)
  have noBody : readBody (some result)
      ((constant result type (.float value)).bodyCharacters ++ rest) = none := by
    unfold readBody bodyCharacters
    have operandsEnd : Ends isTokenCharacter
        (Operand.lineCharacters [.id type, .literal (.float value)] ++ rest) :=
      Text.ends_cons _ (by decide)
    have opcodeReads := Opcode.constant.read_text operandsEnd
    rw [List.append_assoc]
    exact (Reader.bind_of_some opcodeReads).trans (Reader.bind_of_none noOperands)
  have withResult : readWithResult ((constant result type (.float value)).characters ++ rest) =
      none := by
    rw [readWithResult_resultCharacters rfl (fits.result result rfl)]
    exact noBody
  unfold read
  rw [withResult]
  exact readBody_of_ne none _ (by decide)

end Instruction

/-! ## The lines of a module -/

namespace Instruction

/-- The text of instructions, each on a line of its own. -/
def lines (instructions : List Instruction) : List Char :=
  instructions.flatMap fun instruction => '\n' :: instruction.characters

theorem ends_lines (instructions : List Instruction) :
    Ends isLineCharacter (lines instructions) := by
  cases instructions with
  | nil => exact Text.ends_nil _
  | cons instruction instructions => exact Text.ends_cons _ (by decide)

/-- A line starts with the mark of an id or of an opcode. -/
theorem characters_eq_cons (instruction : Instruction) (rest : List Char) :
    ∃ first others, instruction.characters ++ rest = first :: others ∧
      (first = '%' ∨ first = 'O') := by
  rw [characters_eq]
  unfold resultCharacters
  cases instruction.result? with
  | some result => exact ⟨'%', _, rfl, Or.inl rfl⟩
  | none =>
      obtain ⟨others, starts⟩ := instruction.bodyCharacters_eq_cons rest
      exact ⟨'O', others, starts, Or.inr rfl⟩

theorem skipBlanks_lines_cons (instruction : Instruction) (instructions : List Instruction) :
    skipBlanks (lines (instruction :: instructions)) =
      instruction.characters ++ lines instructions := by
  obtain ⟨first, others, starts, mark⟩ :=
    instruction.characters_eq_cons (lines instructions)
  change skipBlanksFrom false ('\n' :: (instruction.characters ++ lines instructions)) = _
  rw [starts]
  rcases mark with rfl | rfl <;> rfl

theorem length_skipBlanks_lines_le (instructions : List Instruction) :
    (skipBlanks (lines instructions)).length ≤ (lines instructions).length := by
  cases instructions with
  | nil => exact Nat.le_refl _
  | cons instruction instructions =>
      rw [skipBlanks_lines_cons]
      exact Nat.le_succ _

/-- The lines in front are read back, and reading goes on behind them. -/
theorem many_lines_append (front : List Instruction) (back : List Instruction)
    (fits : ∀ instruction ∈ front, instruction.Fits)
    (finite : ∀ instruction ∈ front, instruction.HasFiniteFloat) :
    Reader.many readAndSkip (skipBlanks (lines (front ++ back))) =
      (front ++ (Reader.many readAndSkip (skipBlanks (lines back))).1,
        (Reader.many readAndSkip (skipBlanks (lines back))).2) := by
  induction front with
  | nil => rfl
  | cons instruction front inductionHypothesis =>
      have others := inductionHypothesis
        (fun other member => fits other (List.mem_cons_of_mem _ member))
        (fun other member => finite other (List.mem_cons_of_mem _ member))
      have reads : readAndSkip (instruction.characters ++ lines (front ++ back)) =
          some (instruction, skipBlanks (lines (front ++ back))) := by
        unfold readAndSkip
        rw [read_characters (fits instruction List.mem_cons_self)
          (finite instruction List.mem_cons_self) (ends_lines _), Option.map_some]
      have nonempty : 0 < instruction.characters.length := by
        obtain ⟨first, others, starts, -⟩ := instruction.characters_eq_cons []
        rw [List.append_nil] at starts
        rw [starts]
        exact Nat.succ_pos _
      have shorter : (skipBlanks (lines (front ++ back))).length <
          (instruction.characters ++ lines (front ++ back)).length := by
        have notLonger := length_skipBlanks_lines_le (front ++ back)
        rw [List.length_append]
        omega
      rw [List.cons_append, skipBlanks_lines_cons, Reader.many, reads]
      simp only [shorter, if_true, others, List.cons_append]

/-- Lines of finite instructions are read back to the end. -/
theorem readRun_lines {instructions : List Instruction}
    (fits : ∀ instruction ∈ instructions, instruction.Fits)
    (finite : ∀ instruction ∈ instructions, instruction.HasFiniteFloat) :
    readRun (lines instructions) = (instructions, []) := by
  have reads := many_lines_append instructions [] fits finite
  have atEnd : Reader.many readAndSkip (skipBlanks (lines [])) = ([], []) := by
    rw [Reader.many]
    rfl
  rw [List.append_nil, atEnd, List.append_nil] at reads
  exact reads

theorem eq_constant_of_not_hasFiniteFloat {instruction : Instruction}
    (infinite : ¬ instruction.HasFiniteFloat) :
    ∃ result type value, instruction = .constant result type (.float value) ∧
      value.isFinite = false := by
  obtain ⟨value, float, isInfinite⟩ : ∃ value ∈ instruction.float?, ¬ value.isFinite = true := by
    simpa [HasFiniteFloat] using infinite
  have notFinite : value.isFinite = false := Bool.not_eq_true _ ▸ isInfinite
  cases instruction with
  | constant result type literal =>
      cases literal with
      | int other => cases float
      | float other =>
          cases float
          exact ⟨result, type, value, rfl, notFinite⟩
  | _ => cases float

/-- Reading stops in front of the first line that is not finite. -/
theorem readRun_lines_stops {instructions : List Instruction}
    (fits : ∀ instruction ∈ instructions, instruction.Fits)
    (infinite : ¬ ∀ instruction ∈ instructions, instruction.HasFiniteFloat) :
    ∃ others, (readRun (lines instructions)).2 = '%' :: others := by
  induction instructions with
  | nil => exact absurd (List.forall_mem_nil _) infinite
  | cons instruction instructions inductionHypothesis =>
      by_cases finite : instruction.HasFiniteFloat
      · have laterInfinite : ¬ ∀ other ∈ instructions, other.HasFiniteFloat :=
          fun later => infinite (List.forall_mem_cons.mpr ⟨finite, later⟩)
        obtain ⟨others, stops⟩ := inductionHypothesis
          (fun other member => fits other (List.mem_cons_of_mem _ member)) laterInfinite
        have reads := many_lines_append [instruction] instructions
          (List.forall_mem_singleton.mpr (fits instruction List.mem_cons_self))
          (List.forall_mem_singleton.mpr finite)
        exact ⟨others, (congrArg Prod.snd reads).trans stops⟩
      · obtain ⟨result, type, value, rfl, isInfinite⟩ := eq_constant_of_not_hasFiniteFloat finite
        have fails : readAndSkip ((constant result type (.float value)).characters ++
            lines instructions) = none := by
          unfold readAndSkip
          rw [read_characters_of_not_isFinite (fits _ List.mem_cons_self) isInfinite]
          rfl
        unfold readRun
        rw [skipBlanks_lines_cons, Reader.many, fails]
        exact ⟨_, rfl⟩

end Instruction

/-! ## Trimming -/

namespace Text

theorem isBlank_of_isDigit {character : Char} (isDigit : character.isDigit = true) :
    isBlank character = false := by
  have range : 48 ≤ character.toNat ∧ character.toNat ≤ 57 := by
    simpa [Char.isDigit, UInt32.le_iff_toNat_le] using isDigit
  simp [isBlank, blankRanges]
  omega

/-- A text that ends with a character other than a blank. -/
def EndsSolid (text : List Char) : Prop :=
  ∃ front last, text = front ++ [last] ∧ isBlank last = false

theorem EndsSolid.append {back : List Char} (solid : EndsSolid back) (front : List Char) :
    EndsSolid (front ++ back) := by
  obtain ⟨middle, last, rfl, notBlank⟩ := solid
  exact ⟨front ++ middle, last, (List.append_assoc _ _ _).symm, notBlank⟩

theorem endsSolid_of_forall {text : List Char} (nonempty : text ≠ [])
    (noBlank : ∀ character ∈ text, isBlank character = false) :
    EndsSolid text :=
  ⟨text.dropLast, text.getLast nonempty, (List.dropLast_concat_getLast nonempty).symm,
    noBlank _ (List.getLast_mem nonempty)⟩

theorem endsSolid_of_any {text : List Char} (nonempty : text ≠ [])
    (noBlank : text.any isBlank = false) :
    EndsSolid text :=
  endsSolid_of_forall nonempty fun _ member =>
    Bool.eq_false_iff.mpr (List.any_eq_false.mp noBlank _ member)

/-- A line break behind a text without blanks at its ends is trimmed. -/
theorem trim_lineBreak {text : List Char} (starts : Ends isBlank text) (solid : EndsSolid text) :
    trim (text ++ ['\n']) = text := by
  obtain ⟨front, last, written, notBlank⟩ := solid
  have nonempty : text ≠ [] := by
    rw [written]
    exact List.concat_ne_nil last front
  have dropFront : (text ++ ['\n']).dropWhile isBlank = text ++ ['\n'] :=
    dropWhile_append_of_ends [] (List.forall_mem_nil _) (ends_append _ nonempty starts)
  have dropBack : (text ++ ['\n']).reverse.dropWhile isBlank = text.reverse := by
    have stops : Ends isBlank text.reverse := by
      rw [written, List.reverse_append]
      exact ends_cons _ notBlank
    rw [List.reverse_append]
    exact dropWhile_append_of_ends ['\n'] (List.forall_mem_singleton.mpr (by decide)) stops
  unfold trim
  rw [dropFront, dropBack, List.reverse_reverse]

/-- What starts with a character other than a blank is not trimmed away. -/
theorem isEmpty_trim_cons {first : Char} (others : List Char) (notBlank : isBlank first = false) :
    (trim (first :: others)).isEmpty = false := by
  have kept : (first :: others).dropWhile isBlank = first :: others :=
    dropWhile_append_of_ends [] (List.forall_mem_nil _) (ends_cons _ notBlank)
  have nonempty : (first :: others).reverse.dropWhile isBlank ≠ [] := by
    intro empty
    have allBlank := List.dropWhile_eq_nil_iff.mp empty first (by simp)
    rw [notBlank] at allBlank
    cases allBlank
  unfold trim
  rw [kept]
  simpa using nonempty

theorem isBlank_of_mem_digits {value : Nat} {character : Char}
    (member : character ∈ digits value) :
    isBlank character = false :=
  isBlank_of_isDigit (isDigit_of_mem_digits member)

theorem isBlank_of_mem_signedDigits {value : Int} {character : Char}
    (member : character ∈ signedDigits value) :
    isBlank character = false := by
  cases value with
  | ofNat value => exact isBlank_of_mem_digits member
  | negSucc value =>
      rcases List.mem_cons.mp member with rfl | digit
      · decide
      · exact isBlank_of_mem_digits digit

end Text

theorem LiteralParts.isBlank_of_mem_text {parts : LiteralParts} (wellFormed : parts.WellFormed)
    {character : Char} (member : character ∈ parts.text) :
    Text.isBlank character = false := by
  have placeDigits : ∀ place ∈ parts.fraction.getD [], place.isDigit = true :=
    fun place inPlaces => wellFormed.digits place (List.mem_append_right _ inPlaces)
  rcases List.mem_append.mp member with inWhole | behind
  · exact Text.isBlank_of_isDigit (wellFormed.digits character (List.mem_append_left _ inWhole))
  rcases List.mem_append.mp behind with inFraction | inExponent
  · cases fraction : parts.fraction with
    | none =>
        rw [fraction] at inFraction
        cases inFraction
    | some places =>
        rw [fraction] at inFraction placeDigits
        rcases List.mem_cons.mp inFraction with rfl | inPlaces
        · decide
        · exact Text.isBlank_of_isDigit (placeDigits character inPlaces)
  · cases exponent : parts.exponent with
    | none =>
        rw [exponent] at inExponent
        cases inExponent
    | some power =>
        rw [exponent] at inExponent
        rcases List.mem_cons.mp inExponent with rfl | inDigits
        · decide
        · exact Text.isBlank_of_mem_signedDigits inDigits

/-- There is no blank in a literal. -/
theorem Constant.endsSolid_characters (value : Constant) : Text.EndsSolid value.characters := by
  cases value with
  | int value =>
      refine Text.endsSolid_of_forall ?_ fun _ => Text.isBlank_of_mem_signedDigits
      cases value with
      | ofNat value => exact Text.digits_ne_nil value
      | negSucc value => exact List.cons_ne_nil _ _
  | float value =>
      change Text.EndsSolid value.text
      cases finite : value.isFinite with
      | true =>
          obtain ⟨parts, wellFormed, -, text, -⟩ :=
            Binary64.exists_parts_magnitudeText (of_decide_eq_true finite)
          rw [Binary64.text_of_isFinite finite, text]
          refine Text.EndsSolid.append (Text.endsSolid_of_forall ?_ fun _ member =>
            LiteralParts.isBlank_of_mem_text wellFormed member) _
          exact List.append_ne_nil_of_left_ne_nil wellFormed.nonempty _
      | false =>
          obtain ⟨negative, word, text, isWord⟩ := Binary64.text_of_not_isFinite finite
          rw [text]
          refine Text.EndsSolid.append ?_ _
          rcases isWord with rfl | rfl
          all_goals exact Text.endsSolid_of_any (by decide) (by decide)

theorem Operand.endsSolid_characters (operand : Operand) :
    Text.EndsSolid operand.characters := by
  cases operand with
  | id target =>
      exact (Text.endsSolid_of_forall (Text.digits_ne_nil target)
        fun _ => Text.isBlank_of_mem_digits).append ['%']
  | number value =>
      exact Text.endsSolid_of_forall (Text.digits_ne_nil value) fun _ => Text.isBlank_of_mem_digits
  | text content => exact ⟨'"' :: Text.escape content.toList, '"', rfl, by decide⟩
  | literal value => exact value.endsSolid_characters
  | storageClass storage =>
      exact Text.endsSolid_of_any (by cases storage <;> decide) (by cases storage <;> decide)
  | executionModel model =>
      exact Text.endsSolid_of_any (by cases model <;> decide) (by cases model <;> decide)
  | dimension shape =>
      exact Text.endsSolid_of_any (by cases shape <;> decide) (by cases shape <;> decide)
  | functionControl control =>
      exact Text.endsSolid_of_any (by cases control <;> decide) (by cases control <;> decide)

theorem Opcode.endsSolid_text (opcode : Opcode) : Text.EndsSolid opcode.text.toList := by
  have checked : ∀ opcode ∈ all, opcode.text.toList ≠ [] ∧
      opcode.text.toList.any Text.isBlank = false := by
    decide +kernel
  obtain ⟨nonempty, noBlank⟩ := checked opcode (mem_all opcode)
  exact Text.endsSolid_of_any nonempty noBlank

namespace Instruction

theorem endsSolid_bodyCharacters (instruction : Instruction) :
    Text.EndsSolid instruction.bodyCharacters := by
  unfold bodyCharacters
  rcases List.eq_nil_or_concat instruction.operands with none | ⟨front, last, operands⟩
  · rw [none]
    exact (List.append_nil _).symm ▸ instruction.opcode.endsSolid_text
  · have lineEnd : Operand.lineCharacters (front ++ [last]) =
        Operand.lineCharacters front ++ ' ' :: last.characters := by
      simp [Operand.lineCharacters]
    rw [operands, List.concat_eq_append, lineEnd]
    exact ((last.endsSolid_characters.append [' ']).append _).append _

/-- No line ends with a blank. -/
theorem endsSolid_characters (instruction : Instruction) :
    Text.EndsSolid instruction.characters := by
  have parts := instruction.characters_eq []
  rw [List.append_nil, List.append_nil] at parts
  rw [parts]
  exact instruction.endsSolid_bodyCharacters.append _

end Instruction

/-! ## Modules -/

namespace ShaderModule

/-- The text of a module without its last line break. -/
def source (shaderModule : ShaderModule) : List Char :=
  headerMark ++ ' ' :: Text.digits shaderModule.bound ++
    Instruction.lines shaderModule.instructions

theorem lineBreak_flatMap (instructions : List Instruction) :
    '\n' :: (instructions.flatMap fun instruction => instruction.characters ++ ['\n']) =
      Instruction.lines instructions ++ ['\n'] := by
  induction instructions with
  | nil => rfl
  | cons instruction instructions inductionHypothesis =>
      simp only [Instruction.lines, List.flatMap_cons, List.append_assoc, List.cons_append,
        List.nil_append] at inductionHypothesis ⊢
      rw [inductionHypothesis]

theorem characters_eq_source (shaderModule : ShaderModule) :
    shaderModule.characters = shaderModule.source ++ ['\n'] := by
  unfold characters source
  rw [List.append_assoc _ ['\n'], List.append_assoc _ (Instruction.lines _), ← lineBreak_flatMap]
  rfl

theorem endsSolid_source (shaderModule : ShaderModule) : Text.EndsSolid shaderModule.source := by
  unfold source
  rcases List.eq_nil_or_concat shaderModule.instructions with none | ⟨front, last, instructions⟩
  · have bound : Text.EndsSolid (Text.digits shaderModule.bound) :=
      Text.endsSolid_of_forall (Text.digits_ne_nil _) fun _ => Text.isBlank_of_mem_digits
    rw [none]
    change Text.EndsSolid (headerMark ++ ' ' :: Text.digits shaderModule.bound ++ [])
    rw [List.append_nil]
    exact (bound.append [' ']).append _
  · have lastLine : Instruction.lines (front ++ [last]) =
        Instruction.lines front ++ '\n' :: last.characters := by
      simp [Instruction.lines]
    rw [instructions, List.concat_eq_append, lastLine]
    exact ((last.endsSolid_characters.append ['\n']).append _).append _

/-- Trimming the text of a module takes off its last line break. -/
theorem trim_text (shaderModule : ShaderModule) :
    Text.trim shaderModule.text.toList = shaderModule.source := by
  unfold text
  rw [String.toList_ofList, characters_eq_source]
  exact Text.trim_lineBreak (Text.ends_cons _ (by decide)) shaderModule.endsSolid_source

/-- The bound is read back from the header. -/
theorem readHeader_source {shaderModule : ShaderModule} (fits : FitsWord shaderModule.bound) :
    readHeader shaderModule.source =
      .ok (shaderModule.bound, Instruction.lines shaderModule.instructions) := by
  have number := Operand.readNumber_digits fits
    (ends_of_lineEnd (Instruction.ends_lines shaderModule.instructions) (by decide))
  have noSpace : Ends Operand.isSeparator (Text.digits shaderModule.bound ++
      Instruction.lines shaderModule.instructions) :=
    OperandKind.number.ends_isSeparator_of_read (Reader.map_of_some number)
  have skipped : (' ' :: (Text.digits shaderModule.bound ++
        Instruction.lines shaderModule.instructions)).dropWhile Operand.isSeparator =
      Text.digits shaderModule.bound ++ Instruction.lines shaderModule.instructions :=
    Text.dropWhile_append_of_ends [' '] (List.forall_mem_singleton.mpr rfl) noSpace
  have marked : Text.Reader.literal headerMark shaderModule.source =
      some ((), ' ' :: (Text.digits shaderModule.bound ++
        Instruction.lines shaderModule.instructions)) := by
    unfold source
    rw [List.append_assoc]
    rfl
  simp only [readHeader, marked, skipped, number]

/-- What is read of the text of a module is its header and its lines. -/
theorem parse_text_eq {shaderModule : ShaderModule} (fits : FitsWord shaderModule.bound) :
    parse shaderModule.text =
      finishReading shaderModule.source
        (Instruction.readRun (Instruction.lines shaderModule.instructions)).2
        ⟨shaderModule.bound,
          (Instruction.readRun (Instruction.lines shaderModule.instructions)).1⟩ := by
  unfold parse
  simp only [trim_text, readHeader_source fits]

theorem parse_text_of_hasFiniteFloats {shaderModule : ShaderModule} (fits : shaderModule.Fits)
    (finite : shaderModule.HasFiniteFloats) :
    parse shaderModule.text = .ok shaderModule := by
  rw [parse_text_eq fits.bound, Instruction.readRun_lines fits.instructions finite]
  rfl

theorem parse_text_of_not_hasFiniteFloats {shaderModule : ShaderModule} (fits : shaderModule.Fits)
    (infinite : ¬ shaderModule.HasFiniteFloats) :
    ∃ error, parse shaderModule.text = .error error := by
  obtain ⟨others, stops⟩ := Instruction.readRun_lines_stops fits.instructions infinite
  have leftOver : (Text.trim ('%' :: others)).isEmpty = false :=
    Text.isEmpty_trim_cons others (by decide)
  rw [parse_text_eq fits.bound, stops]
  unfold finishReading
  rw [leftOver]
  exact ⟨_, rfl⟩

/-- The text of a module is read back as the module if its floats are finite, and is refused
otherwise. -/
theorem parse_text_of_fits {shaderModule : ShaderModule} (fits : shaderModule.Fits) :
    (shaderModule.HasFiniteFloats → parse shaderModule.text = .ok shaderModule) ∧
      (¬ shaderModule.HasFiniteFloats → ∃ error, parse shaderModule.text = .error error) :=
  ⟨parse_text_of_hasFiniteFloats fits, parse_text_of_not_hasFiniteFloats fits⟩

/-- A module with names that need escapes or hold line breaks, and with both kinds of literals. -/
def escapes : ShaderModule where
  bound := 6
  instructions :=
    [.typeFloat 1 32, .constant 2 1 (.float ⟨true, 5, by decide⟩), .typeInt 3 64 true,
      .constant 4 3 (.int (-9223372036854775808)), .typeStruct 5 [1, 3], .name 5 "",
      .memberName 5 0 "a\"b\\", .memberName 5 4294967295 "\r\n ; é"]

theorem escapes_roundTrips :
    escapes.HasFiniteFloats ∧ parse escapes.text = .ok escapes ∧
      ∃ error, parse (text ⟨3, [.constant 2 1 (.float ⟨false, Binary64.infiniteMagnitude,
        Binary64.infiniteMagnitude_lt⟩)]⟩) = .error error :=
  ⟨by decide, (parse_text_of_fits (by decide)).1 (by decide),
    (parse_text_of_fits (by decide)).2 (by decide)⟩

end ShaderModule

end ShaderLang
