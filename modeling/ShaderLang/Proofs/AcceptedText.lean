import ShaderLang.Proofs.TextRoundTrip

/-!
# What is accepted as the text of a module

The reader accepts more than the writer makes: other spacing, comments, leading zeros, any
signedness but zero, every spelling of a decimal.  All of it ends in numbers that fit in their words
and in floats that are numbers or infinities.  So a module that was read is written to a text that
is read back as the module, unless a literal was too large for a float and was read as an infinity,
which is written to a text that is refused.
-/

namespace ShaderLang

namespace Text.Reader

variable {α β : Type} {reader : Reader α} {good : α → Prop} {result : β → Prop}

/-! ## What readers give -/

/-- Every value that a reader gives has a property, whatever the text is. -/
def Gives (reader : Reader α) (good : α → Prop) : Prop :=
  ∀ input value rest, reader input = some (value, rest) → good value

theorem gives_pure {value : α} (holds : good value) : (pure value : Reader α).Gives good := by
  intro input other rest reads
  cases reads
  exact holds

theorem gives_lift {found : Option α} (holds : ∀ value ∈ found, good value) :
    Gives (StateT.lift found) good := by
  intro input value rest reads
  cases found with
  | none => cases reads
  | some other =>
      cases reads
      exact holds value rfl

/-- A sequence gives what its second part gives on the values of its first. -/
theorem Gives.bind {next : α → Reader β} (first : reader.Gives good)
    (second : ∀ value, good value → (next value).Gives result) :
    (reader >>= next).Gives result := by
  intro input value rest reads
  cases outcome : reader input with
  | none =>
      rw [bind_of_none outcome] at reads
      cases reads
  | some read =>
      obtain ⟨middle, between⟩ := read
      rw [bind_of_some outcome] at reads
      exact second middle (first input middle between outcome) between value rest reads

/-- A sequence of which the first part does not matter. -/
theorem gives_behind {next : α → Reader β} (second : ∀ value, (next value).Gives result) :
    (reader >>= next).Gives result := by
  have anything : reader.Gives fun _ => True := fun _ _ _ _ => trivial
  exact anything.bind fun value _ => second value

theorem Gives.map {change : α → β} (gives : reader.Gives good)
    (holds : ∀ value, good value → result (change value)) :
    (change <$> reader).Gives result := by
  intro input value rest reads
  cases outcome : reader input with
  | none =>
      rw [map_of_none outcome] at reads
      cases reads
  | some read =>
      obtain ⟨middle, between⟩ := read
      rw [map_of_some outcome] at reads
      cases reads
      exact holds middle (gives input middle rest outcome)

/-- A reader of which only the shape of the result matters. -/
theorem gives_map {change : α → β} (holds : ∀ value, result (change value)) :
    (change <$> reader).Gives result := by
  have anything : reader.Gives fun _ => True := fun _ _ _ _ => trivial
  exact anything.map fun value _ => holds value

theorem gives_accept {select : α → Option β}
    (holds : ∀ value, ∀ selected ∈ select value, result selected) :
    (reader.accept select).Gives result :=
  gives_behind fun value => gives_lift (holds value)

/-- A repetition gives values of its reader only. -/
theorem Gives.many (gives : reader.Gives good) (input : List Char) :
    ∀ value ∈ (many reader input).1, good value := by
  fun_induction Reader.many reader input with
  | case1 input stops => exact List.forall_mem_nil _
  | case2 input value rest reads shorter following inductionHypothesis =>
      exact List.forall_mem_cons.mpr ⟨gives input value rest reads, inductionHypothesis⟩
  | case3 input value rest reads stays => exact List.forall_mem_nil _

end Text.Reader

open Text (Reader)

/-! ## Operands -/

/-- Whether an operand can be the result of reading: its number fits in its word, and its float is a
number or an infinity. -/
structure Operand.Accepted (operand : Operand) : Prop where
  fits : operand.Fits
  number : ∀ value, operand = .literal (.float value) → value.isNaN = false

/-- An operand that is no literal is accepted if its number fits. -/
theorem Operand.accepted_of_fits {operand : Operand} (fits : operand.Fits)
    (noLiteral : operand.kind ≠ .literal) :
    operand.Accepted := by
  refine ⟨fits, fun value isFloat => ?_⟩
  rw [isFloat] at noLiteral
  exact absurd rfl noLiteral

theorem Operand.gives_readNumber : readNumber.Gives FitsWord := by
  apply Reader.gives_accept
  intro run value selected
  unfold word32? at selected
  by_cases small : Text.digitsValue run ≤ 4294967295
  · simp only [small, if_true, Option.mem_def, Option.some.injEq] at selected
    rw [← selected]
    exact small
  · simp [small] at selected

theorem Operand.gives_readId : readId.Gives FitsWord :=
  Reader.gives_behind fun _ => Operand.gives_readNumber

theorem Binary64.isNaN_ofDecimal (negative : Bool) (decimal : Decimal) :
    (Binary64.ofDecimal negative decimal).isNaN = false := by
  exact decide_eq_false (Nat.not_lt.mpr decimal.magnitude_le)

theorem Constant.accepted_of_ofParts? {negative : Bool} {whole : List Char}
    {fraction : Option (List Char)} {exponent : Option Int} {value : Constant}
    (found : ofParts? negative whole fraction exponent = some value) :
    (Operand.literal value).Accepted := by
  unfold ofParts? at found
  split at found
  · generalize (if negative then -(Text.digitsValue whole : Int)
      else (Text.digitsValue whole : Int)) = integer at found
    by_cases fits : -9223372036854775808 ≤ integer ∧ integer ≤ 9223372036854775807
    · simp only [fits, and_self, if_true, Option.some.injEq] at found
      rw [← found]
      exact ⟨fits, fun _ isFloat => by cases isFloat⟩
    · simp only [fits, if_false, reduceCtorEq] at found
  · cases found
    refine ⟨trivial, fun float isFloat => ?_⟩
    cases isFloat
    exact Binary64.isNaN_ofDecimal _ _

theorem Constant.gives_read : Constant.read.Gives fun value => (Operand.literal value).Accepted :=
  Reader.gives_behind fun _ => Reader.gives_behind fun _ => Reader.gives_behind fun _ =>
    Reader.gives_behind fun _ => Reader.gives_lift fun _ found =>
      Constant.accepted_of_ofParts? found

theorem OperandKind.gives_read (kind : OperandKind) : kind.read.Gives Operand.Accepted := by
  cases kind with
  | id =>
      exact Operand.gives_readId.map fun _ fits =>
        Operand.accepted_of_fits fits (by simp [Operand.kind])
  | number =>
      exact Operand.gives_readNumber.map fun _ fits =>
        Operand.accepted_of_fits fits (by simp [Operand.kind])
  | literal => exact Constant.gives_read.map fun _ accepted => accepted
  | text | storageClass | executionModel | dimension | functionControl =>
      refine Reader.gives_map fun value => Operand.accepted_of_fits trivial ?_
      simp [Operand.kind]

theorem Operand.gives_behindSpace {α : Type} {reader : Reader α} {good : α → Prop}
    (gives : reader.Gives good) :
    (behindSpace reader).Gives good :=
  Reader.gives_behind fun _ => gives

theorem OperandKind.gives_readAll (kinds : List OperandKind) :
    (readAll kinds).Gives fun operands => ∀ operand ∈ operands, operand.Accepted := by
  induction kinds with
  | nil => exact Reader.gives_pure (List.forall_mem_nil _)
  | cons kind rest inductionHypothesis =>
      refine (Operand.gives_behindSpace kind.gives_read).bind fun operand accepted => ?_
      refine inductionHypothesis.bind fun operands othersAccepted => ?_
      exact Reader.gives_pure (List.forall_mem_cons.mpr ⟨accepted, othersAccepted⟩)

theorem Opcode.gives_readIds (opcode : Opcode) :
    opcode.readIds.Gives fun operands => ∀ operand ∈ operands, operand.Accepted := by
  intro input operands rest reads
  unfold Opcode.readIds at reads
  by_cases takes : opcode.takesIds = true
  · simp only [takes, if_true, Option.some.injEq] at reads
    have given := (Operand.gives_behindSpace OperandKind.id.gives_read).many input
    rw [reads] at given
    exact given
  · simp only [takes, Bool.false_eq_true, if_false, Option.some.injEq, Prod.mk.injEq] at reads
    rw [← reads.1]
    exact List.forall_mem_nil _

theorem Opcode.gives_readOperands (opcode : Opcode) :
    opcode.readOperands.Gives fun operands => ∀ operand ∈ operands, operand.Accepted := by
  refine (OperandKind.gives_readAll opcode.operandKinds).bind fun operands accepted => ?_
  refine opcode.gives_readIds.bind fun ids idsAccepted => ?_
  exact Reader.gives_pure (List.forall_mem_append.mpr ⟨accepted, idsAccepted⟩)

/-! ## Instructions -/

namespace Instruction

/-- Whether an instruction can be the result of reading. -/
structure Accepted (instruction : Instruction) : Prop where
  result : ∀ result ∈ instruction.result?, FitsWord result
  operands : ∀ operand ∈ instruction.operands, operand.Accepted

theorem Accepted.fits {instruction : Instruction} (accepted : instruction.Accepted) :
    instruction.Fits :=
  ⟨accepted.result, fun operand member => (accepted.operands operand member).fits⟩

theorem Accepted.number {instruction : Instruction} (accepted : instruction.Accepted)
    {value : Binary64} (isFloat : instruction.float? = some value) :
    value.isNaN = false := by
  unfold float? at isFloat
  split at isFloat
  · next result type float =>
      cases isFloat
      have inside : Operand.literal (.float value) ∈
          (constant result type (.float value)).operands := by
        simp [Instruction.operands]
      exact (accepted.operands _ inside).number value rfl
  · cases isFloat

theorem eq_map_of_ids? {operands : List Operand} {targets : List ResultId}
    (found : ids? operands = some targets) :
    operands = targets.map .id := by
  induction operands generalizing targets with
  | nil =>
      cases found
      rfl
  | cons operand rest inductionHypothesis =>
      unfold ids? at found inductionHypothesis
      rw [List.mapM_cons] at found
      cases operand with
      | id target =>
          obtain ⟨first, isFirst, found⟩ := Option.bind_eq_some_iff.mp found
          obtain ⟨others, othersFound, made⟩ := Option.bind_eq_some_iff.mp found
          cases isFirst
          cases made
          rw [inductionHypothesis othersFound]
          rfl
      | _ => cases found

/-- An instruction has the operands that it is assembled from.  The signedness of an integer type is
one if it is not zero. -/
theorem operands_of_define? {result : ResultId} {opcode : Opcode} {operands : List Operand}
    {instruction : Instruction}
    (defined : define? result opcode operands = some instruction) :
    instruction.result? = some result ∧
      ∀ operand ∈ instruction.operands, operand ∈ operands ∨ operand = .number 0 ∨
        operand = .number 1 := by
  fun_cases define? result opcode operands
  case case3 width signedness =>
    cases defined
    refine ⟨rfl, fun operand member => ?_⟩
    rcases List.mem_cons.mp member with isWidth | member
    · exact .inl (isWidth ▸ List.mem_cons_self)
    · have isSignedness := List.mem_singleton.mp member
      by_cases signed : (signedness != 0) = true
      · exact .inr (.inr (by rw [isSignedness, if_pos signed]))
      · exact .inr (.inl (by rw [isSignedness, if_neg signed]))
  case case9 =>
    obtain ⟨targets, found, rfl⟩ := Option.map_eq_some_iff.mp defined
    rw [eq_map_of_ids? found]
    exact ⟨rfl, fun operand member => .inl member⟩
  case case10 =>
    obtain ⟨targets, found, rfl⟩ := Option.map_eq_some_iff.mp defined
    rw [eq_map_of_ids? found]
    exact ⟨rfl, fun operand member => .inl member⟩
  case case22 =>
    simp only [define?, reduceCtorEq] at defined
  all_goals
    cases defined
    exact ⟨rfl, fun operand member => .inl member⟩

theorem operands_of_plain? {opcode : Opcode} {operands : List Operand} {instruction : Instruction}
    (made : plain? opcode operands = some instruction) :
    instruction.result? = none ∧ instruction.operands = operands := by
  fun_cases plain? opcode operands
  case case9 => simp only [plain?, reduceCtorEq] at made
  all_goals
    cases made
    exact ⟨rfl, rfl⟩

/-- What is assembled from accepted parts is accepted. -/
theorem accepted_of_assemble? {result : Option ResultId} {opcode : Opcode}
    {operands : List Operand} {instruction : Instruction}
    (assembled : assemble? result opcode operands = some instruction)
    (fits : ∀ target ∈ result, FitsWord target)
    (accepted : ∀ operand ∈ operands, operand.Accepted) :
    instruction.Accepted := by
  cases result with
  | none =>
      obtain ⟨noResult, sameOperands⟩ := operands_of_plain? assembled
      refine ⟨fun target isResult => ?_, sameOperands ▸ accepted⟩
      rw [noResult] at isResult
      cases isResult
  | some result =>
      obtain ⟨defines, given⟩ := operands_of_define? assembled
      refine ⟨defines ▸ fits, fun operand member => ?_⟩
      rcases given operand member with isGiven | isZero | isOne
      · exact accepted operand isGiven
      · exact isZero ▸ Operand.accepted_of_fits (by decide) (by decide)
      · exact isOne ▸ Operand.accepted_of_fits (by decide) (by decide)

theorem gives_readBody {result : Option ResultId} (fits : ∀ target ∈ result, FitsWord target) :
    (readBody result).Gives Accepted := by
  refine Reader.gives_behind fun opcode => ?_
  refine opcode.gives_readOperands.bind fun operands accepted => ?_
  exact Reader.gives_lift fun instruction assembled =>
    accepted_of_assemble? assembled fits accepted

theorem gives_readWithResult : readWithResult.Gives Accepted := by
  refine Operand.gives_readId.bind fun result fits => ?_
  refine Reader.gives_behind fun _ => Reader.gives_behind fun _ => Reader.gives_behind fun _ => ?_
  exact gives_readBody (by simpa using fits)

theorem gives_read : read.Gives Accepted := by
  intro input instruction rest reads
  unfold read at reads
  split at reads
  · next withResult =>
      cases reads
      exact gives_readWithResult input instruction rest withResult
  · exact gives_readBody (by simp) input instruction rest reads

theorem gives_readAndSkip : readAndSkip.Gives Accepted := by
  intro input instruction rest reads
  obtain ⟨⟨first, behind⟩, readsFirst, same⟩ := Option.map_eq_some_iff.mp reads
  cases same
  exact gives_read input first behind readsFirst

theorem accepted_of_mem_readRun (text : List Char) :
    ∀ instruction ∈ (readRun text).1, instruction.Accepted :=
  gives_readAndSkip.many (skipBlanks text)

end Instruction

/-! ## Modules -/

namespace ShaderModule

theorem fitsWord_of_readHeader {source body : List Char} {bound : ResultId}
    (reads : readHeader source = .ok (bound, body)) :
    FitsWord bound := by
  unfold readHeader at reads
  split at reads
  · cases reads
  · next behindMark _ =>
      dsimp only at reads
      split at reads
      · next number =>
          cases reads
          exact Operand.gives_readNumber _ _ _ number
      · split at reads <;> cases reads

theorem eq_of_finishReading {α : Type} {source rest : List Char} {value result : α}
    (finishes : finishReading source rest value = .ok result) :
    result = value := by
  unfold finishReading at finishes
  split at finishes
  · cases finishes
    rfl
  · cases finishes

/-- The bound of a module that was read fits in its word, and its instructions are accepted. -/
theorem accepted_of_parse {text : String} {shaderModule : ShaderModule}
    (reads : parse text = .ok shaderModule) :
    FitsWord shaderModule.bound ∧
      ∀ instruction ∈ shaderModule.instructions, instruction.Accepted := by
  unfold parse at reads
  dsimp only at reads
  split at reads
  · cases reads
  · next bound body header =>
      rw [eq_of_finishReading reads]
      exact ⟨fitsWord_of_readHeader header, Instruction.accepted_of_mem_readRun body⟩

theorem fits_of_parse {text : String} {shaderModule : ShaderModule}
    (reads : parse text = .ok shaderModule) :
    shaderModule.Fits := by
  obtain ⟨bound, accepted⟩ := accepted_of_parse reads
  exact ⟨bound, fun instruction member => (accepted instruction member).fits⟩

/-- The text of a module that was read is read back as the module if its floats are finite and is
refused otherwise.  A float of such a module that is not finite is an infinity. -/
theorem parse_text_of_parse {text : String} {shaderModule : ShaderModule}
    (reads : parse text = .ok shaderModule) :
    (parse shaderModule.text = .ok shaderModule ↔ shaderModule.HasFiniteFloats) ∧
      (¬ shaderModule.HasFiniteFloats → ∃ error, parse shaderModule.text = .error error) ∧
      ∀ instruction ∈ shaderModule.instructions, ∀ value ∈ instruction.float?,
        value.isNaN = false := by
  have fits := fits_of_parse reads
  refine ⟨⟨fun readsBack => ?_, parse_text_of_hasFiniteFloats fits⟩,
    parse_text_of_not_hasFiniteFloats fits, fun instruction member value isFloat => ?_⟩
  · by_contra infinite
    obtain ⟨error, refused⟩ := parse_text_of_not_hasFiniteFloats fits infinite
    rw [refused] at readsBack
    cases readsBack
  · exact ((accepted_of_parse reads).2 instruction member).number isFloat

/-- A text that the writer would not make: zeros and blanks to spare, a comment, a signedness of
two, a literal with an exponent that is not needed. -/
def spacious : String :=
  "; Bound:004 ; types\n%1=OpTypeInt 32 2 %2 =\tOpTypeFloat 0032\r\n%3 = OpConstant %2 -00.5E+1"

theorem spacious_survives :
    ∃ shaderModule, parse spacious = .ok shaderModule ∧ shaderModule.text ≠ spacious ∧
      parse shaderModule.text = .ok shaderModule := by
  have reads : parse spacious = .ok ⟨4, [.typeInt 1 32 true, .typeFloat 2 32,
      .constant 3 2 (.float ⟨true, 4617315517961601024, by decide⟩)]⟩ := by
    decide +kernel
  exact ⟨_, reads, by decide +kernel, (parse_text_of_parse reads).1.mpr (by decide)⟩

/-- A text with a literal that is too large for a float. -/
def overflowing : String :=
  "; Bound: 3\n%1 = OpTypeFloat 32\n%2 = OpConstant %1 1e999"

/-- The literal is read as an infinity, and the text of the module is refused. -/
theorem overflowing_refused :
    ∃ shaderModule, parse overflowing = .ok shaderModule ∧
      parse shaderModule.text ≠ .ok shaderModule := by
  have reads : parse overflowing = .ok ⟨3, [.typeFloat 1 32, .constant 2 1
      (.float ⟨false, Binary64.infiniteMagnitude, Binary64.infiniteMagnitude_lt⟩)]⟩ := by
    decide +kernel
  refine ⟨_, reads, fun readsBack => ?_⟩
  obtain ⟨error, refused⟩ := parse_text_of_not_hasFiniteFloats (fits_of_parse reads) (by decide)
  rw [refused] at readsBack
  cases readsBack

end ShaderModule

end ShaderLang
