import Mathlib.Data.List.TakeWhile
import ShaderLang.Instruction.Parser
import ShaderLang.ShaderModule.Basic
import ShaderLang.Proofs.DecimalRounding

/-!
# Literals in text

What readers do on a text that starts with what they look for, and the literals of constants: an
integer of 64 bits and a finite float are read back from their texts, and the text of a float that
is not finite is no literal.
-/

namespace ShaderLang

/-! ## Readers -/

namespace Text

/-- A text that is empty or does not start with a character of a class. -/
def Ends (isMember : Char → Bool) (rest : List Char) : Prop :=
  ∀ character, rest.head? = some character → isMember character = false

theorem ends_nil (isMember : Char → Bool) : Ends isMember [] := by
  intro character starts
  cases starts

theorem ends_cons {isMember : Char → Bool} {character : Char} (rest : List Char)
    (outside : isMember character = false) :
    Ends isMember (character :: rest) := by
  intro first starts
  cases starts
  exact outside

theorem Ends.mono {isMember isOther : Char → Bool} {rest : List Char}
    (ends : Ends isOther rest)
    (included : ∀ character, isMember character = true → isOther character = true) :
    Ends isMember rest := by
  intro character starts
  by_contra isInside
  have inside := included character (Bool.not_eq_false _ ▸ isInside)
  rw [ends character starts] at inside
  cases inside

theorem ends_append {isMember : Char → Bool} {text : List Char} (rest : List Char)
    (nonempty : text ≠ [])
    (ends : Ends isMember text) :
    Ends isMember (text ++ rest) := by
  cases text with
  | nil => exact absurd rfl nonempty
  | cons first others => exact ends_cons _ (ends first rfl)

theorem takeWhile_append_of_ends {isMember : Char → Bool} {run rest : List Char}
    (members : ∀ character ∈ run, isMember character = true)
    (ends : Ends isMember rest) :
    (run ++ rest).takeWhile isMember = run := by
  rw [List.takeWhile_append_of_pos members]
  cases rest with
  | nil => exact List.append_nil run
  | cons first others => simp [ends first rfl]

theorem dropWhile_append_of_ends {isMember : Char → Bool} (run : List Char) {rest : List Char}
    (members : ∀ character ∈ run, isMember character = true)
    (ends : Ends isMember rest) :
    (run ++ rest).dropWhile isMember = rest := by
  rw [List.dropWhile_append_of_pos members]
  cases rest with
  | nil => rfl
  | cons first others => simp [ends first rfl]

namespace Reader

variable {α β : Type} {reader : Reader α} {input rest : List Char} {value : α}

/-- A sequence goes on where its first part stopped. -/
theorem bind_of_some {next : α → Reader β} (reads : reader input = some (value, rest)) :
    (reader >>= next) input = next value rest := by
  change (reader input).bind _ = _
  rw [reads]
  rfl

theorem bind_of_none {next : α → Reader β} (fails : reader input = none) :
    (reader >>= next) input = none := by
  change (reader input).bind _ = none
  rw [fails]
  rfl

theorem map_of_some {change : α → β} (reads : reader input = some (value, rest)) :
    (change <$> reader) input = some (change value, rest) := by
  change (reader input).bind _ = _
  rw [reads]
  rfl

theorem map_of_none {change : α → β} (fails : reader input = none) :
    (change <$> reader) input = none := by
  change (reader input).bind _ = none
  rw [fails]
  rfl

theorem lift_of_some {result : Option α} (found : result = some value) :
    (StateT.lift result : Reader α) input = some (value, input) := by
  rw [found]
  rfl

theorem accept_of_some {select : α → Option β} {selected : β}
    (reads : reader input = some (value, rest))
    (accepts : select value = some selected) :
    reader.accept select input = some (selected, rest) :=
  (bind_of_some reads).trans (lift_of_some accepts)

theorem many_of_none (fails : reader input = none) : many reader input = ([], input) := by
  rw [many, fails]

theorem many_of_some (reads : reader input = some (value, rest))
    (shorter : rest.length < input.length) :
    many reader input = (value :: (many reader rest).1, (many reader rest).2) := by
  rw [many, reads]
  exact if_pos shorter

theorem character_cons (expected : Char) (rest : List Char) :
    character expected (expected :: rest) = some ((), rest) :=
  if_pos rfl

/-- A run of characters of a class is read up to the first other character. -/
theorem run1_append {isMember : Char → Bool} (run : List Char)
    (nonempty : run ≠ [])
    (members : ∀ character ∈ run, isMember character = true)
    (ends : Ends isMember rest) :
    run1 isMember (run ++ rest) = some (run, rest) := by
  unfold run1
  rw [takeWhile_append_of_ends members ends, dropWhile_append_of_ends run members ends]
  cases run with
  | nil => exact absurd rfl nonempty
  | cons first others => rfl

theorem run_append {isMember : Char → Bool} (gap : List Char)
    (members : ∀ character ∈ gap, isMember character = true)
    (ends : Ends isMember rest) :
    run isMember (gap ++ rest) = some (gap, rest) := by
  unfold run
  rw [takeWhile_append_of_ends members ends, dropWhile_append_of_ends gap members ends]

theorem run1_of_ends {isMember : Char → Bool} (ends : Ends isMember input) :
    run1 isMember input = none := by
  have empty : input.takeWhile isMember = [] :=
    takeWhile_append_of_ends (List.forall_mem_nil _) ends
  unfold run1
  rw [empty]

end Reader

/-! ## Digits -/

theorem digits_ne_nil (value : Nat) : digits value ≠ [] :=
  Nat.toDigits_ne_nil

theorem isDigit_of_mem_digits {value : Nat} {character : Char}
    (member : character ∈ digits value) :
    character.isDigit = true :=
  Nat.isDigit_of_mem_toDigits (by decide) (by decide) member

theorem notMem_digits {mark : Char} (noDigit : mark.isDigit = false) (value : Nat) :
    mark ∉ digits value := by
  intro member
  rw [isDigit_of_mem_digits member] at noDigit
  cases noDigit

theorem digitsValue_append_zeros (run : List Char) (places : Nat) :
    digitsValue (run ++ List.replicate places '0') = digitsValue run * 10 ^ places := by
  unfold digitsValue
  rw [Nat.ofDigitChars_append, Nat.ofDigitChars_replicate_zero, Nat.mul_comm]

theorem digitsValue_zeros_append (places : Nat) (run : List Char) :
    digitsValue (List.replicate places '0' ++ run) = digitsValue run := by
  unfold digitsValue
  rw [Nat.ofDigitChars_append, Nat.ofDigitChars_replicate_zero, Nat.mul_zero]

theorem digitsValue_zero_cons (run : List Char) : digitsValue ('0' :: run) = digitsValue run :=
  digitsValue_zeros_append 1 run

/-- The digits of a natural start with a digit. -/
theorem digits_eq_cons (value : Nat) :
    ∃ first others, digits value = first :: others ∧ first.isDigit = true := by
  cases written : digits value with
  | nil => exact absurd written (digits_ne_nil value)
  | cons first others =>
      have member : first ∈ digits value := by
        rw [written]
        exact List.mem_cons_self
      exact ⟨first, others, rfl, isDigit_of_mem_digits member⟩

end Text

/-! ## The parts of a literal -/

/-- A literal without its sign: the digits in front of the point, those behind it if there is a
point, and the exponent if there is one. -/
structure LiteralParts where
  whole : List Char
  fraction : Option (List Char)
  exponent : Option Int

namespace LiteralParts

/-- The text of a point and the digits behind it. -/
def fractionText : Option (List Char) → List Char
  | none => []
  | some places => '.' :: places

/-- The text of an exponent. -/
def exponentText : Option Int → List Char
  | none => []
  | some exponent => 'e' :: Text.signedDigits exponent

/-- The text of a literal without its sign. -/
def text (parts : LiteralParts) : List Char :=
  parts.whole ++ (fractionText parts.fraction ++ exponentText parts.exponent)

/-- The digits behind the point. -/
def places (parts : LiteralParts) : List Char :=
  parts.fraction.getD []

/-- The decimal that a literal denotes. -/
def decimal (parts : LiteralParts) : Decimal :=
  ⟨Text.digitsValue (parts.whole ++ parts.places), parts.exponent.getD 0 - parts.places.length⟩

/-- There is a digit in front of the point, and only digits stand around it. -/
structure WellFormed (parts : LiteralParts) : Prop where
  nonempty : parts.whole ≠ []
  digits : ∀ character ∈ parts.whole ++ parts.places, character.isDigit = true

end LiteralParts

namespace Constant

open Text (Reader Ends)

theorem isDigit_ne_mark {character : Char} (isDigit : character.isDigit = true) :
    character ≠ '-' ∧ character ≠ '+' ∧ character ≠ '.' := by
  refine ⟨?_, ?_, ?_⟩ <;> rintro rfl <;> exact absurd isDigit (by decide)

theorem readMinus_of_ne {first : Char} {rest : List Char} (unsigned : first ≠ '-') :
    readMinus (first :: rest) = some (false, first :: rest) := by
  unfold readMinus
  split
  · next same => exact absurd (List.cons.inj same).1 unsigned
  · rfl

/-- The characters that a literal can go on with. -/
def isMark (character : Char) : Bool :=
  character.isDigit || character = '.' || character = 'e' || character = 'E'

theorem ends_isDigit {rest : List Char} (ends : Ends isMark rest) : Ends Char.isDigit rest := by
  intro character starts
  have outside := ends character starts
  simp only [isMark, Bool.or_eq_false_iff] at outside
  exact outside.1.1.1

theorem readFraction_text {fraction : Option (List Char)} {rest : List Char}
    (digits : ∀ character ∈ fraction.getD [], character.isDigit = true)
    (ends : Ends Char.isDigit rest)
    (noPoint : rest.head? ≠ some '.') :
    readFraction (LiteralParts.fractionText fraction ++ rest) = some (fraction, rest) := by
  cases fraction with
  | none =>
      change readFraction rest = _
      unfold readFraction
      split
      · exact absurd rfl noPoint
      · rfl
  | some places =>
      have taken : (places ++ rest).takeWhile Char.isDigit = places :=
        Text.takeWhile_append_of_ends digits ends
      have dropped : (places ++ rest).dropWhile Char.isDigit = rest :=
        Text.dropWhile_append_of_ends _ digits ends
      change some (some ((places ++ rest).takeWhile Char.isDigit),
        (places ++ rest).dropWhile Char.isDigit) = _
      rw [taken, dropped]

theorem run1_digits (value : Nat) {rest : List Char} (ends : Ends Char.isDigit rest) :
    Reader.run1 Char.isDigit (Text.digits value ++ rest) = some (Text.digits value, rest) :=
  Reader.run1_append _ (Text.digits_ne_nil value) (fun _ => Text.isDigit_of_mem_digits) ends

theorem readExponentDigits_signedDigits (exponent : Int) {rest : List Char}
    (ends : Ends Char.isDigit rest) :
    readExponentDigits (Text.signedDigits exponent ++ rest) = some (exponent, rest) := by
  cases exponent with
  | ofNat value =>
      obtain ⟨first, others, written, isDigit⟩ := Text.digits_eq_cons value
      obtain ⟨notMinus, notPlus, -⟩ := isDigit_ne_mark isDigit
      have reads := run1_digits value ends
      change readExponentDigits (Text.digits value ++ rest) = _
      unfold readExponentDigits
      split
      · next same =>
          rw [written] at same
          exact absurd (List.cons.inj same).1 notMinus
      · next same =>
          rw [written] at same
          exact absurd (List.cons.inj same).1 notPlus
      · rw [reads]
        simp
  | negSucc value =>
      have reads := run1_digits (value + 1) ends
      change (Reader.run1 Char.isDigit (Text.digits (value + 1) ++ rest)).bind _ = _
      rw [reads]
      simp [Int.negSucc_eq]

theorem readExponent_text (exponent : Option Int) {rest : List Char} (ends : Ends isMark rest) :
    readExponent (LiteralParts.exponentText exponent ++ rest) = some (exponent, rest) := by
  cases exponent with
  | none =>
      cases rest with
      | nil => rfl
      | cons first others =>
          have outside := ends first rfl
          simp only [isMark, Bool.or_eq_false_iff, decide_eq_false_iff_not] at outside
          have noMark : ¬ (first = 'e' ∨ first = 'E') := by
            rintro (same | same)
            · exact outside.1.2 same
            · exact outside.2 same
          exact if_neg noMark
  | some value =>
      have reads := readExponentDigits_signedDigits value (ends_isDigit ends)
      have marked : LiteralParts.exponentText (some value) ++ rest =
          'e' :: (Text.signedDigits value ++ rest) := rfl
      rw [marked]
      simp only [readExponent, true_or, if_true, reads]

/-- The text of a sign. -/
def signText (negative : Bool) : List Char :=
  if negative then ['-'] else []

theorem readMinus_signText (negative : Bool) {rest : List Char}
    (unsigned : rest.head? ≠ some '-') :
    readMinus (signText negative ++ rest) = some (negative, rest) := by
  cases negative with
  | true => rfl
  | false =>
      cases rest with
      | nil => rfl
      | cons first others =>
          refine readMinus_of_ne ?_
          rintro rfl
          exact unsigned rfl

/-- A literal is read from its sign and its parts. -/
theorem read_parts {negative : Bool} {parts : LiteralParts} {rest : List Char} {value : Constant}
    (wellFormed : parts.WellFormed)
    (ends : Ends isMark rest)
    (accepts : ofParts? negative parts.whole parts.fraction parts.exponent = some value) :
    read (signText negative ++ (parts.text ++ rest)) = some (value, rest) := by
  have wholeDigits : ∀ character ∈ parts.whole, character.isDigit = true :=
    fun character member => wellFormed.digits character (List.mem_append_left _ member)
  have placeDigits : ∀ character ∈ parts.fraction.getD [], character.isDigit = true :=
    fun character member => wellFormed.digits character (List.mem_append_right _ member)
  have unsigned : (parts.text ++ rest).head? ≠ some '-' := by
    unfold LiteralParts.text
    cases written : parts.whole with
    | nil => exact absurd written wellFormed.nonempty
    | cons first others =>
        have isDigit := wholeDigits first (by rw [written]; exact List.mem_cons_self)
        intro same
        exact (isDigit_ne_mark isDigit).1 (Option.some.inj same)
  -- what follows the whole digits and the places starts with a mark, or the literal ends there
  have exponentEnds : Ends Char.isDigit (LiteralParts.exponentText parts.exponent ++ rest) := by
    cases parts.exponent with
    | none => exact ends_isDigit ends
    | some exponent => exact Text.ends_cons _ (by decide)
  have noPoint : (LiteralParts.exponentText parts.exponent ++ rest).head? ≠ some '.' := by
    cases parts.exponent with
    | none =>
        intro same
        exact absurd (ends '.' same) (by decide)
    | some exponent => exact fun same => absurd (Option.some.inj same) (by decide)
  have fractionEnds : Ends Char.isDigit (LiteralParts.fractionText parts.fraction ++
      (LiteralParts.exponentText parts.exponent ++ rest)) := by
    cases parts.fraction with
    | none => exact exponentEnds
    | some places => exact Text.ends_cons _ (by decide)
  unfold read
  rw [Reader.bind_of_some (readMinus_signText negative unsigned), LiteralParts.text,
    List.append_assoc, List.append_assoc,
    Reader.bind_of_some (Reader.run1_append _ wellFormed.nonempty wholeDigits fractionEnds),
    Reader.bind_of_some (readFraction_text placeDigits exponentEnds noPoint),
    Reader.bind_of_some (readExponent_text parts.exponent ends)]
  exact Reader.lift_of_some accepts

end Constant

/-! ## Integers -/

namespace Constant

open Text (Ends)

/-- Whether an integer fits in 64 signed bits. -/
def FitsInteger (value : Int) : Prop :=
  -9223372036854775808 ≤ value ∧ value ≤ 9223372036854775807

theorem read_digits (negative : Bool) {value : Nat} {signed : Int} {rest : List Char}
    (same : signed = if negative then -(value : Int) else value)
    (fits : FitsInteger signed)
    (ends : Ends isMark rest) :
    read (signText negative ++ (Text.digits value ++ rest)) = some (.int signed, rest) := by
  have wellFormed : LiteralParts.WellFormed ⟨Text.digits value, none, none⟩ := by
    refine ⟨Text.digits_ne_nil value, fun character member => ?_⟩
    rw [LiteralParts.places, Option.getD_none, List.append_nil] at member
    exact Text.isDigit_of_mem_digits member
  have accepts : ofParts? negative (Text.digits value) none none = some (.int signed) := by
    simp only [ofParts?, Option.isNone_none, and_self, if_true, Text.digitsValue_digits, ← same]
    exact if_pos fits
  have text : LiteralParts.text ⟨Text.digits value, none, none⟩ = Text.digits value :=
    List.append_nil _
  have reads := read_parts wellFormed ends accepts
  rw [text] at reads
  exact reads

/-- An integer of 64 bits is read back from its text. -/
theorem read_int {value : Int} {rest : List Char} (fits : FitsInteger value)
    (ends : Ends isMark rest) :
    read ((Constant.int value).characters ++ rest) = some (.int value, rest) := by
  cases value with
  | ofNat value => exact read_digits false rfl fits ends
  | negSucc value => exact read_digits true (Int.negSucc_eq value) fits ends

end Constant

/-! ## Floats -/

namespace Decimal

/-- A run of characters ends with the zeros that are dropped from its end. -/
theorem exists_zeros_behind (run : List Char) :
    ∃ zeros, run = (run.reverse.dropWhile (· == '0')).reverse ++ List.replicate zeros '0' := by
  have onlyZeros : ∀ character ∈ run.reverse.takeWhile (· == '0'), character = '0' := by
    intro character member
    have isZero := List.mem_takeWhile_imp (p := fun character => character == '0') member
    exact beq_iff_eq.mp isZero
  have split : run.reverse.takeWhile (· == '0') ++ run.reverse.dropWhile (· == '0') =
      run.reverse :=
    List.takeWhile_append_dropWhile
  refine ⟨(run.reverse.takeWhile (· == '0')).length, ?_⟩
  rw [List.eq_replicate_of_mem onlyZeros] at split
  have whole := congrArg List.reverse split
  rw [List.reverse_append, List.reverse_replicate, List.reverse_reverse] at whole
  exact whole.symm

/-- The digits of a decimal are its significant digits and zeros. -/
theorem digits_eq_significantDigits (decimal : Decimal) :
    ∃ zeros, Text.digits decimal.digits =
      decimal.significantDigits ++ List.replicate zeros '0' :=
  exists_zeros_behind _

variable {decimal : Decimal}

theorem isDigit_of_mem_significantDigits {character : Char}
    (member : character ∈ decimal.significantDigits) :
    character.isDigit = true := by
  obtain ⟨zeros, split⟩ := decimal.digits_eq_significantDigits
  have digit : character ∈ Text.digits decimal.digits := by
    rw [split]
    exact List.mem_append_left _ member
  exact Text.isDigit_of_mem_digits digit

theorem significantDigits_ne_nil (nonzero : decimal.digits ≠ 0) :
    decimal.significantDigits ≠ [] := by
  intro empty
  obtain ⟨zeros, split⟩ := decimal.digits_eq_significantDigits
  have value := congrArg Text.digitsValue split
  rw [empty, Text.digitsValue_append_zeros, Text.digitsValue_digits] at value
  exact nonzero (value.trans (Nat.zero_mul _))

/-- A decimal has the magnitude of its significant digits in front of its leading place. -/
theorem magnitude_significantDigits (decimal : Decimal) :
    (Decimal.mk (Text.digitsValue decimal.significantDigits)
      (decimal.top - decimal.significantDigits.length)).magnitude = decimal.magnitude := by
  obtain ⟨zeros, split⟩ := decimal.digits_eq_significantDigits
  have value := congrArg Text.digitsValue split
  rw [Text.digitsValue_append_zeros, Text.digitsValue_digits] at value
  have length := congrArg List.length split
  rw [List.length_append, List.length_replicate] at length
  have exponent : decimal.top - decimal.significantDigits.length = decimal.exponent + zeros := by
    unfold top Text.digitCount
    omega
  rw [exponent, ← magnitude_scaled, ← value]

end Decimal

namespace LiteralParts

/-- A literal with a point or an exponent writes the digits `run` behind a point that is moved `top`
places to the right. -/
structure Writes (parts : LiteralParts) (run : List Char) (top : Int) (written : List Char) :
    Prop where
  wellFormed : parts.WellFormed
  isFloat : ¬ (parts.fraction.isNone ∧ parts.exponent.isNone)
  text : parts.text = written
  magnitude : parts.decimal.magnitude =
    (Decimal.mk (Text.digitsValue run) (top - run.length)).magnitude

variable {run : List Char}

theorem isDigit_of_mem_zeros (count : Nat) {character : Char}
    (member : character ∈ List.replicate count '0') :
    character.isDigit = true := by
  rw [List.eq_of_mem_replicate member]
  decide

/-- A zero stands in front of the point, and zeros up to the first digit. -/
theorem writes_below_one (allDigits : ∀ character ∈ run, character.isDigit = true) {top : Int}
    (small : top ≤ 0) :
    Writes ⟨['0'], some (List.replicate (-top).toNat '0' ++ run), none⟩ run top
      (['0', '.'] ++ List.replicate (-top).toNat '0' ++ run) := by
  have value : Text.digitsValue ('0' :: (List.replicate (-top).toNat '0' ++ run)) =
      Text.digitsValue run := by
    rw [Text.digitsValue_zero_cons, Text.digitsValue_zeros_append]
  have exponent : (0 : Int) - (List.replicate (-top).toNat '0' ++ run).length =
      top - run.length := by
    rw [List.length_append, List.length_replicate]
    omega
  refine ⟨⟨by simp, fun character member => ?_⟩, by simp,
    by simp [LiteralParts.text, fractionText, exponentText], ?_⟩
  · rcases List.mem_append.mp member with front | later
    · exact isDigit_of_mem_zeros 1 front
    · rcases List.mem_append.mp later with zero | digit
      · exact isDigit_of_mem_zeros _ zero
      · exact allDigits character digit
  · change (Decimal.mk (Text.digitsValue ('0' :: (List.replicate (-top).toNat '0' ++ run)))
      (0 - (List.replicate (-top).toNat '0' ++ run).length)).magnitude = _
    rw [value, exponent]

/-- The point stands between the digits. -/
theorem writes_inside (allDigits : ∀ character ∈ run, character.isDigit = true) {top : Int}
    (positive : 0 < top) (inside : top < run.length) :
    Writes ⟨run.take top.toNat, some (run.drop top.toNat), none⟩ run top
      (run.take top.toNat ++ '.' :: run.drop top.toNat) := by
  have exponent : (0 : Int) - (run.drop top.toNat).length = top - run.length := by
    rw [List.length_drop]
    omega
  refine ⟨⟨fun empty => ?_, ?_⟩, by simp, by simp [LiteralParts.text, fractionText, exponentText],
    ?_⟩
  · have length := congrArg List.length empty
    rw [List.length_take, List.length_nil] at length
    omega
  · change ∀ character ∈ run.take top.toNat ++ run.drop top.toNat, _
    rw [List.take_append_drop]
    exact allDigits
  · change (Decimal.mk (Text.digitsValue (run.take top.toNat ++ run.drop top.toNat))
      (0 - (run.drop top.toNat).length)).magnitude = _
    rw [List.take_append_drop, exponent]

/-- Zeros stand up to the point, and one behind it. -/
theorem writes_above (nonempty : run ≠ [])
    (allDigits : ∀ character ∈ run, character.isDigit = true) {top : Int}
    (large : run.length ≤ top) :
    Writes ⟨run ++ List.replicate (top.toNat - run.length) '0', some ['0'], none⟩ run top
      (run ++ List.replicate (top.toNat - run.length) '0' ++ ['.', '0']) := by
  have value : Text.digitsValue (run ++ List.replicate (top.toNat - run.length) '0' ++ ['0']) =
      Text.digitsValue run * 10 ^ (top.toNat - run.length + 1) := by
    rw [List.append_assoc, ← List.replicate_succ', Text.digitsValue_append_zeros]
  have exponent : (0 : Int) - 1 + (top.toNat - run.length + 1 : Nat) = top - run.length := by
    omega
  refine ⟨⟨by simp [nonempty], fun character member => ?_⟩, by simp,
    by simp [LiteralParts.text, fractionText, exponentText], ?_⟩
  · rcases List.mem_append.mp member with front | back
    · rcases List.mem_append.mp front with digit | zero
      · exact allDigits character digit
      · exact isDigit_of_mem_zeros _ zero
    · exact isDigit_of_mem_zeros 1 back
  · change (Decimal.mk (Text.digitsValue
      (run ++ List.replicate (top.toNat - run.length) '0' ++ ['0'])) (0 - 1)).magnitude = _
    rw [value, Decimal.magnitude_scaled, exponent]

theorem exists_writes_positional (nonempty : run ≠ [])
    (allDigits : ∀ character ∈ run, character.isDigit = true) (top : Int) :
    ∃ parts : LiteralParts, parts.Writes run top (Decimal.positional run top) := by
  unfold Decimal.positional
  split
  · next small => exact ⟨_, writes_below_one allDigits small⟩
  · next positive =>
      split
      · next inside => exact ⟨_, writes_inside allDigits (Int.not_le.mp positive) inside⟩
      · next large => exact ⟨_, writes_above nonempty allDigits (Int.not_lt.mp large)⟩

/-- The exponent counts the places behind the first digit. -/
theorem exists_writes_scientific (nonempty : run ≠ [])
    (allDigits : ∀ character ∈ run, character.isDigit = true) (top : Int) :
    ∃ parts : LiteralParts, parts.Writes run top (Decimal.scientific run top) := by
  cases run with
  | nil => exact absurd rfl nonempty
  | cons first others =>
      have isDigit := allDigits first List.mem_cons_self
      cases others with
      | nil =>
          refine ⟨⟨[first], none, some (top - 1)⟩, ⟨by simp, ?_⟩, by simp, rfl, ?_⟩
          · exact List.forall_mem_singleton.mpr isDigit
          · change (Decimal.mk (Text.digitsValue [first]) (top - 1 - (0 : Nat))).magnitude = _
            rw [Int.natCast_zero, Int.sub_zero]
            rfl
      | cons second rest =>
          refine ⟨⟨[first], some (second :: rest), some (top - 1)⟩, ⟨by simp, allDigits⟩, by simp,
            by simp [LiteralParts.text, fractionText, exponentText, Decimal.scientific], ?_⟩
          have exponent : top - 1 - (second :: rest).length =
              top - (first :: second :: rest).length := by
            simp only [List.length_cons]
            omega
          exact congrArg (fun power => (Decimal.mk _ power).magnitude) exponent

end LiteralParts

namespace Decimal

variable {decimal : Decimal}

/-- A decimal is written as a literal with a point or an exponent that denotes a decimal of its
magnitude. -/
theorem exists_writes_text (nonzero : decimal.digits ≠ 0) :
    ∃ parts : LiteralParts,
      parts.Writes decimal.significantDigits decimal.top decimal.text := by
  have nonempty := significantDigits_ne_nil nonzero
  unfold text
  split
  · exact LiteralParts.exists_writes_positional nonempty
      (fun _ => isDigit_of_mem_significantDigits) _
  · exact LiteralParts.exists_writes_scientific nonempty
      (fun _ => isDigit_of_mem_significantDigits) _

end Decimal

namespace Binary64

/-- The text of a finite magnitude is a literal that denotes a decimal of the magnitude. -/
theorem exists_parts_magnitudeText {magnitude : Nat} (finite : magnitude < infiniteMagnitude) :
    ∃ parts : LiteralParts, parts.WellFormed ∧
      ¬ (parts.fraction.isNone ∧ parts.exponent.isNone) ∧
      magnitudeText magnitude = parts.text ∧ parts.decimal.magnitude = magnitude := by
  unfold magnitudeText
  split
  · next zero =>
      refine ⟨⟨['0'], some ['0'], none⟩, ⟨by simp, ?_⟩, by simp, rfl, ?_⟩
      · exact fun character => LiteralParts.isDigit_of_mem_zeros 2
      · exact (Decimal.magnitude_of_zero rfl).trans zero.symm
  · next nonzero =>
      have positive := Nat.pos_of_ne_zero nonzero
      have rounds := magnitude_shortestDecimal positive finite
      have digits : (shortestDecimal magnitude).digits ≠ 0 := by
        intro zero
        rw [Decimal.magnitude_of_zero zero] at rounds
        exact nonzero rounds.symm
      obtain ⟨parts, writes⟩ := Decimal.exists_writes_text digits
      rw [if_neg (Nat.ne_of_lt finite)]
      refine ⟨parts, writes.wellFormed, writes.isFloat, writes.text.symm, ?_⟩
      rw [writes.magnitude, Decimal.magnitude_significantDigits, rounds]

/-- The text of a finite datum is its sign and the text of its magnitude. -/
theorem text_of_isFinite {datum : Binary64} (finite : datum.isFinite = true) :
    datum.text = Constant.signText datum.negative ++ magnitudeText datum.magnitude := by
  have below : datum.magnitude < infiniteMagnitude := of_decide_eq_true finite
  have isNumber : ¬ datum.isNaN = true := by
    intro isNaN
    exact Nat.lt_asymm below (of_decide_eq_true isNaN)
  unfold text Constant.signText
  rw [if_neg isNumber]
  split <;> rfl

/-- A datum that is not finite is written as a word behind its sign. -/
theorem text_of_not_isFinite {datum : Binary64} (infinite : datum.isFinite = false) :
    ∃ negative word, datum.text = Constant.signText negative ++ word ∧
      (word = ['N', 'a', 'N'] ∨ word = ['i', 'n', 'f']) := by
  have above : infiniteMagnitude ≤ datum.magnitude := by
    simpa [isFinite] using infinite
  unfold text
  by_cases isNaN : datum.isNaN = true
  · rw [if_pos isNaN]
    exact ⟨false, ['N', 'a', 'N'], rfl, Or.inl rfl⟩
  · have notAbove : ¬ infiniteMagnitude < datum.magnitude := by
      simpa [Binary64.isNaN] using isNaN
    have atLimit : datum.magnitude = infiniteMagnitude :=
      Nat.le_antisymm (Nat.not_lt.mp notAbove) above
    have magnitude : magnitudeText datum.magnitude = ['i', 'n', 'f'] := by
      unfold magnitudeText
      rw [atLimit, if_neg (by decide), if_pos rfl]
    refine ⟨datum.negative, ['i', 'n', 'f'], ?_, Or.inr rfl⟩
    rw [if_neg isNaN, magnitude]
    unfold Constant.signText
    split <;> rfl

end Binary64

namespace Constant

open Text (Reader Ends)

/-- A finite float is read back from its text. -/
theorem read_float {value : Binary64} {rest : List Char} (finite : value.isFinite = true)
    (ends : Ends isMark rest) :
    read ((Constant.float value).characters ++ rest) = some (.float value, rest) := by
  obtain ⟨parts, wellFormed, isFloat, text, magnitude⟩ :=
    Binary64.exists_parts_magnitudeText (of_decide_eq_true finite)
  have accepts : ofParts? value.negative parts.whole parts.fraction parts.exponent =
      some (.float value) := by
    have datum : Binary64.ofDecimal value.negative parts.decimal = value := by
      unfold Binary64.ofDecimal
      congr 1
    unfold ofParts?
    rw [if_neg isFloat]
    exact congrArg (fun read => some (Constant.float read)) datum
  have reads := read_parts wellFormed ends accepts
  rw [← text, ← List.append_assoc, ← Binary64.text_of_isFinite finite] at reads
  exact reads

/-- The text of a float that is not finite is no literal. -/
theorem read_float_of_not_isFinite {value : Binary64} (infinite : value.isFinite = false)
    (rest : List Char) :
    read ((Constant.float value).characters ++ rest) = none := by
  obtain ⟨negative, word, text, isWord⟩ := Binary64.text_of_not_isFinite infinite
  have unsigned : (word ++ rest).head? ≠ some '-' := by
    rcases isWord with rfl | rfl
    all_goals exact fun same => absurd (Option.some.inj same) (by decide)
  have noDigit : Ends Char.isDigit (word ++ rest) := by
    rcases isWord with rfl | rfl
    all_goals exact Text.ends_cons _ (by decide)
  change read (value.text ++ rest) = none
  unfold read
  rw [text, List.append_assoc, Reader.bind_of_some (readMinus_signText negative unsigned)]
  exact Reader.bind_of_none (Reader.run1_of_ends noDigit)

end Constant

end ShaderLang
