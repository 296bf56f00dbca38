import ShaderLang.Proofs.TextRoundTrip

/-!
# Readers and what follows

What a reader takes off a text does not depend on all that follows: a text that is cut off somewhere
behind what was read is read in the same way.  Readers are greedy, so this is not so for every text
that could follow.  Only a repetition of ids looks further ahead than one character in order to stop,
so there the cut must not make an id of what was none.
-/

namespace ShaderLang

namespace Text

variable {isMember : Char → Bool} {rest rest' : List Char}

theorem Ends.of_isPrefix (ends : Ends isMember rest) (cut : rest' <+: rest) :
    Ends isMember rest' := by
  obtain ⟨gone, rfl⟩ := cut
  intro first starts
  apply ends first
  cases rest' with
  | nil => simp at starts
  | cons head others => simpa using starts

theorem exists_cons_of_not_ends {text : List Char} (starts : ¬ Ends isMember text) :
    ∃ first others, text = first :: others ∧ isMember first = true := by
  cases text with
  | nil => exact absurd (ends_nil isMember) starts
  | cons first others =>
      by_cases member : isMember first = true
      · exact ⟨first, others, rfl, member⟩
      · exact absurd (ends_cons others (Bool.eq_false_iff.mpr member)) starts

theorem ends_dropWhile (isMember : Char → Bool) (text : List Char) :
    Ends isMember (text.dropWhile isMember) := by
  induction text with
  | nil => exact ends_nil isMember
  | cons first others inductionHypothesis =>
      by_cases member : isMember first = true
      · rwa [List.dropWhile_cons_of_pos member]
      · rw [List.dropWhile_cons_of_neg member]
        exact ends_cons others (Bool.eq_false_iff.mpr member)

/-- A text that is empty or ends with a character other than a blank. -/
def Settled (text : List Char) : Prop :=
  text = [] ∨ EndsSolid text

theorem EndsSolid.ne_nil {text : List Char} (solid : EndsSolid text) : text ≠ [] := by
  obtain ⟨front, last, rfl, -⟩ := solid
  simp

theorem EndsSolid.length_lt {front : List Char} (solid : EndsSolid front) (back : List Char) :
    back.length < (front ++ back).length := by
  have nonempty := List.length_pos_iff.mpr solid.ne_nil
  rw [List.length_append]
  omega

theorem EndsSolid.then_settled {front back : List Char} (solid : EndsSolid front)
    (settled : Settled back) :
    EndsSolid (front ++ back) := by
  rcases settled with rfl | backSolid
  · simpa using solid
  · exact backSolid.append front

theorem Settled.then_settled {front back : List Char} (frontSettled : Settled front)
    (backSettled : Settled back) :
    Settled (front ++ back) := by
  rcases frontSettled with rfl | solid
  · simpa using backSettled
  · exact .inr (solid.then_settled backSettled)

end Text

namespace Text.Reader

variable {α β : Type} {reader : Reader α} {shape shape' together : List Char → Prop}
  {isMember : Char → Bool}
  {follows : List Char → List Char → Prop}

/-! ## Stable readers -/

/-- Whether what a reader takes has a given shape, and is also read as the same value in front of
every text that may follow in place of the rest. -/
def Stable (shape : List Char → Prop) (follows : List Char → List Char → Prop)
    (reader : Reader α) : Prop :=
  ∀ input value rest, reader input = some (value, rest) →
    ∃ used, input = used ++ rest ∧ shape used ∧
      ∀ rest', follows rest rest' → reader (used ++ rest') = some (value, rest')

/-- Whether a text is another one that has been cut off. -/
def Cuts (rest rest' : List Char) : Prop :=
  rest' <+: rest

theorem Cuts.append {rest rest' : List Char} (cuts : Cuts rest rest') (front : List Char) :
    Cuts (front ++ rest) (front ++ rest') :=
  (List.prefix_append_right_inj front).mpr cuts

theorem Stable.weaken (stable : reader.Stable shape follows)
    (included : ∀ used, shape used → together used) :
    reader.Stable together follows := by
  intro input value rest reads
  obtain ⟨used, split, isShape, again⟩ := stable input value rest reads
  exact ⟨used, split, included used isShape, again⟩

theorem stable_pure (value : α) (holds : shape []) : (pure value : Reader α).Stable shape follows := by
  intro input other rest reads
  cases reads
  exact ⟨[], rfl, holds, fun rest' _ => rfl⟩

/-- A sequence is stable if its parts are.  What follows its first part is what its second part takes
and what follows that. -/
theorem Stable.bind {next : α → Reader β}
    (first : reader.Stable shape Cuts)
    (second : ∀ value, (next value).Stable shape' follows)
    (cuts : ∀ rest rest', follows rest rest' → Cuts rest rest')
    (joins : ∀ front back, shape front → shape' back → together (front ++ back)) :
    (reader >>= next).Stable together follows := by
  intro input result rest reads
  cases outcome : reader input with
  | none => simp [bind_of_none outcome] at reads
  | some read =>
      obtain ⟨value, middle⟩ := read
      rw [bind_of_some outcome] at reads
      obtain ⟨front, rfl, frontShape, readsFront⟩ := first input value middle outcome
      obtain ⟨back, rfl, backShape, readsBack⟩ := second value middle result rest reads
      refine ⟨front ++ back, (List.append_assoc ..).symm, joins _ _ frontShape backShape, ?_⟩
      intro rest' follow
      rw [List.append_assoc, bind_of_some (readsFront _ ((cuts _ _ follow).append back))]
      exact readsBack rest' follow

theorem Stable.bind_solid {next : α → Reader β}
    (first : reader.Stable shape Cuts)
    (second : ∀ value, (next value).Stable EndsSolid follows)
    (cuts : ∀ rest rest', follows rest rest' → Cuts rest rest') :
    (reader >>= next).Stable EndsSolid follows :=
  first.bind second cuts fun front _ _ solid => solid.append front

theorem Stable.solid_bind {next : α → Reader β}
    (first : reader.Stable EndsSolid Cuts)
    (second : ∀ value, (next value).Stable Settled follows)
    (cuts : ∀ rest rest', follows rest rest' → Cuts rest rest') :
    (reader >>= next).Stable EndsSolid follows :=
  first.bind second cuts fun _ _ => EndsSolid.then_settled

theorem Stable.bind_settled {next : α → Reader β}
    (first : reader.Stable Settled Cuts)
    (second : ∀ value, (next value).Stable Settled follows)
    (cuts : ∀ rest rest', follows rest rest' → Cuts rest rest') :
    (reader >>= next).Stable Settled follows :=
  first.bind second cuts fun _ _ => Settled.then_settled

theorem Stable.accept {select : α → Option β} (stable : reader.Stable shape follows) :
    (reader.accept select).Stable shape follows := by
  intro input result rest reads
  cases outcome : reader input with
  | none => simp [Reader.accept, bind_of_none outcome] at reads
  | some read =>
      obtain ⟨value, middle⟩ := read
      cases selected : select value with
      | none =>
          rw [Reader.accept, bind_of_some outcome, selected] at reads
          cases reads
      | some other =>
          rw [accept_of_some outcome selected] at reads
          cases reads
          obtain ⟨used, split, isShape, again⟩ := stable input value rest outcome
          exact ⟨used, split, isShape, fun rest' follow =>
            accept_of_some (again rest' follow) selected⟩

theorem Stable.map {change : α → β} (stable : reader.Stable shape follows) :
    (change <$> reader).Stable shape follows := by
  intro input result rest reads
  cases outcome : reader input with
  | none => simp [map_of_none outcome] at reads
  | some read =>
      obtain ⟨value, middle⟩ := read
      rw [map_of_some outcome] at reads
      cases reads
      obtain ⟨used, split, isShape, again⟩ := stable input value rest outcome
      exact ⟨used, split, isShape, fun rest' follow => map_of_some (again rest' follow)⟩

theorem stable_character {expected : Char} (notBlank : isBlank expected = false) :
    (character expected).Stable EndsSolid Cuts := by
  intro input value rest reads
  cases input with
  | nil => cases reads
  | cons first others =>
      by_cases same : first = expected
      · subst same
        obtain rfl : others = rest := by simpa [character] using reads
        exact ⟨[first], rfl, ⟨[], first, rfl, notBlank⟩, fun rest' _ => character_cons first rest'⟩
      · simp [character, same] at reads

/-- A mark in front of what may be empty. -/
theorem stable_marked (mark : Char) (notBlank : isBlank mark = false)
    (stable : reader.Stable Settled Cuts) :
    (do character mark; reader).Stable EndsSolid Cuts :=
  (stable_character notBlank).solid_bind (fun _ => stable) fun _ _ cuts => cuts

/-- A run consists of characters of its class. -/
theorem stable_run (isMember : Char → Bool) :
    (run isMember).Stable (fun used => ∀ character ∈ used, isMember character = true) Cuts := by
  intro input value rest reads
  obtain ⟨rfl, rfl⟩ : input.takeWhile isMember = value ∧ input.dropWhile isMember = rest := by
    simpa [run] using reads
  have members : ∀ character ∈ input.takeWhile isMember, isMember character = true :=
    fun _ member => List.mem_takeWhile_imp member
  refine ⟨input.takeWhile isMember, List.takeWhile_append_dropWhile.symm, members, ?_⟩
  intro rest' cuts
  have ends := (ends_dropWhile isMember input).of_isPrefix cuts
  unfold run
  rw [takeWhile_append_of_ends members ends, dropWhile_append_of_ends _ members ends]

theorem exists_run1_of_not_ends {input : List Char} (starts : ¬ Ends isMember input) :
    ∃ value, run1 isMember input = some (value, input.dropWhile isMember) := by
  obtain ⟨first, others, rfl, member⟩ := exists_cons_of_not_ends starts
  exact ⟨first :: others.takeWhile isMember, by simp [run1, member]⟩

/-- So does a run that is not empty. -/
theorem stable_run1 (isMember : Char → Bool) :
    (run1 isMember).Stable
      (fun used => used ≠ [] ∧ ∀ character ∈ used, isMember character = true) Cuts := by
  intro input value rest reads
  obtain ⟨used, split, members, -⟩ := stable_run isMember input _ _ rfl
  cases taken : input.takeWhile isMember with
  | nil => simp [run1, taken] at reads
  | cons first others =>
      obtain ⟨rfl, rfl⟩ : first :: others = value ∧ input.dropWhile isMember = rest := by
        simpa [run1, taken] using reads
      obtain rfl : used = first :: others := by
        rw [← taken]
        exact List.append_cancel_right
          (split.symm.trans List.takeWhile_append_dropWhile.symm)
      refine ⟨first :: others, split, ⟨List.cons_ne_nil _ _, members⟩, fun rest' cuts => ?_⟩
      exact run1_append _ (List.cons_ne_nil _ _) members
        ((ends_dropWhile isMember input).of_isPrefix cuts)

/-- A run of characters that are no blanks does not end with a blank. -/
theorem stable_run_settled (isMember : Char → Bool)
    (noBlank : ∀ character, isMember character = true → isBlank character = false) :
    (run isMember).Stable Settled Cuts := by
  refine (stable_run isMember).weaken fun used members => ?_
  by_cases empty : used = []
  · exact .inl empty
  · exact .inr (endsSolid_of_forall empty fun _ member => noBlank _ (members _ member))

theorem stable_run1_solid (isMember : Char → Bool)
    (noBlank : ∀ character, isMember character = true → isBlank character = false) :
    (run1 isMember).Stable EndsSolid Cuts :=
  (stable_run1 isMember).weaken fun _ members =>
    endsSolid_of_forall members.1 fun _ member => noBlank _ (members.2 _ member)

/-- A reader that looks at the first character in order to choose how to read. -/
theorem Stable.choose {marked : Char → Reader α} {other : Reader α} (isMark : Char → Bool)
    (first : ∀ mark, isMark mark = true → (marked mark).Stable EndsSolid follows)
    (second : other.Stable shape follows)
    (cuts : ∀ rest rest', follows rest rest' → Cuts rest rest')
    (choosesMarked : ∀ mark rest, isMark mark = true →
      reader (mark :: rest) = marked mark (mark :: rest))
    (choosesOther : ∀ input, Ends isMark input → reader input = other input)
    (solid : ∀ used, EndsSolid used → together used)
    (included : ∀ used, shape used → together used) :
    reader.Stable together follows := by
  intro input value rest reads
  by_cases ends : Ends isMark input
  · rw [choosesOther input ends] at reads
    obtain ⟨used, rfl, isShape, again⟩ := second input value rest reads
    refine ⟨used, rfl, included used isShape, fun rest' follow => ?_⟩
    rw [choosesOther _ (ends.of_isPrefix ((cuts _ _ follow).append used))]
    exact again rest' follow
  · obtain ⟨mark, others, rfl, isMarked⟩ := exists_cons_of_not_ends ends
    rw [choosesMarked mark others isMarked] at reads
    obtain ⟨used, split, isSolid, again⟩ := first mark isMarked _ value rest reads
    refine ⟨used, split, solid used isSolid, fun rest' follow => ?_⟩
    -- What was taken is not empty, so the mark still comes first.
    cases used with
    | nil => exact absurd rfl isSolid.ne_nil
    | cons head tail =>
        obtain ⟨rfl, -⟩ := List.cons.inj split
        rw [List.cons_append, choosesMarked _ _ isMarked]
        exact again rest' follow

/-- A reader of something that starts with a mark, or that is missing. -/
theorem Stable.optional {behind : Reader α} (mark : Char) (missing : α)
    (notBlank : isBlank mark = false)
    (stable : behind.Stable Settled Cuts)
    (readsMarked : ∀ rest, reader (mark :: rest) = behind rest)
    (readsMissing : ∀ input, Ends (· == mark) input → reader input = some (missing, input)) :
    reader.Stable Settled Cuts := by
  have marked : ∀ first, (first == mark) = true →
      (do character mark; behind).Stable EndsSolid Cuts :=
    fun _ _ => stable_marked mark notBlank stable
  have nothing : (pure missing : Reader α).Stable Settled Cuts := stable_pure missing (.inl rfl)
  refine Stable.choose (· == mark) marked nothing (fun _ _ cuts => cuts) ?_ readsMissing
    (fun _ => .inr) fun _ settled => settled
  intro first rest isMark
  obtain rfl : first = mark := by simpa using isMark
  rw [readsMarked, bind_of_some (character_cons first rest)]

end Text.Reader

open Text (Reader Ends EndsSolid Settled)
open Text.Reader (Stable Cuts)

/-! ## Literals -/

namespace Constant

theorem stable_digits : (Reader.run1 Char.isDigit).Stable EndsSolid Cuts :=
  Reader.stable_run1_solid Char.isDigit fun _ => Text.isBlank_of_isDigit

theorem stable_readMinus : readMinus.Stable Settled Cuts := by
  refine Stable.optional '-' false (by decide) (Reader.stable_pure true (.inl rfl))
    (fun _ => rfl) fun input ends => ?_
  cases input with
  | nil => rfl
  | cons first others => exact readMinus_of_ne (by simpa using ends first rfl)

theorem readFraction_of_ne {first : Char} {rest : List Char} (noPoint : first ≠ '.') :
    readFraction (first :: rest) = some (none, first :: rest) := by
  unfold readFraction
  split
  · next same => exact absurd (List.cons.inj same).1 noPoint
  · rfl

theorem stable_readFraction : readFraction.Stable Settled Cuts := by
  have places : (some <$> Reader.run Char.isDigit).Stable Settled Cuts :=
    (Reader.stable_run_settled Char.isDigit fun _ => Text.isBlank_of_isDigit).map
  refine Stable.optional '.' none (by decide) places (fun _ => rfl) fun input ends => ?_
  cases input with
  | nil => rfl
  | cons first others => exact readFraction_of_ne (by simpa using ends first rfl)

/-- Reads digits as an exponent with a sign. -/
def readDigitsAs (negative : Bool) : Reader Int :=
  (fun run => if negative then -(Text.digitsValue run : Int) else Text.digitsValue run) <$>
    Reader.run1 Char.isDigit

/-- Reads a sign and the digits of an exponent behind it. -/
def readSignedDigits (mark : Char) : Reader Int := do
  Reader.character mark
  readDigitsAs (mark == '-')

theorem readExponentDigits_of_sign {mark : Char} (rest : List Char)
    (isSign : (mark == '-' || mark == '+') = true) :
    readExponentDigits (mark :: rest) = readSignedDigits mark (mark :: rest) := by
  have signs : mark = '-' ∨ mark = '+' := by simpa using isSign
  rcases signs with rfl | rfl <;> rfl

theorem readExponentDigits_of_ends {input : List Char}
    (ends : Ends (fun mark => mark == '-' || mark == '+') input) :
    readExponentDigits input = readDigitsAs false input := by
  cases input with
  | nil => rfl
  | cons first others =>
      obtain ⟨notMinus, notPlus⟩ : first ≠ '-' ∧ first ≠ '+' := by simpa using ends first rfl
      unfold readExponentDigits
      split
      · next same => exact absurd (List.cons.inj same).1 notMinus
      · next same => exact absurd (List.cons.inj same).1 notPlus
      · rfl

theorem stable_readExponentDigits : readExponentDigits.Stable EndsSolid Cuts := by
  have unsigned (negative : Bool) : (readDigitsAs negative).Stable EndsSolid Cuts :=
    stable_digits.map
  have signed : ∀ mark, (mark == '-' || mark == '+') = true →
      (readSignedDigits mark).Stable EndsSolid Cuts := by
    intro mark isSign
    have notBlank : Text.isBlank mark = false := by
      have signs : mark = '-' ∨ mark = '+' := by simpa using isSign
      rcases signs with rfl | rfl <;> decide
    exact Reader.stable_marked mark notBlank ((unsigned _).weaken fun _ => .inr)
  exact Stable.choose (fun mark => mark == '-' || mark == '+') signed (unsigned false)
    (fun _ _ cuts => cuts) (fun _ => readExponentDigits_of_sign)
    (fun _ => readExponentDigits_of_ends) (fun _ solid => solid) fun _ solid => solid

theorem readDigitsAs_eq_none_iff (negative : Bool) (input : List Char) :
    readDigitsAs negative input = none ↔ Ends Char.isDigit input := by
  constructor
  · intro fails
    by_contra starts
    obtain ⟨value, reads⟩ := Reader.exists_run1_of_not_ends starts
    rw [readDigitsAs, Reader.map_of_some reads] at fails
    cases fails
  · intro ends
    exact Reader.map_of_none (Reader.run1_of_ends ends)

/-- A text without the digits of an exponent does not get them by being cut off. -/
theorem readExponentDigits_of_cut {input input' : List Char}
    (fails : readExponentDigits input = none)
    (cut : input' <+: input) :
    readExponentDigits input' = none := by
  cases input' with
  | nil => rfl
  | cons first others =>
      obtain ⟨gone, rfl⟩ := cut
      have shorter : others <+: others ++ gone := List.prefix_append others gone
      rw [List.cons_append] at fails
      by_cases isSign : (first == '-' || first == '+') = true
      · rw [readExponentDigits_of_sign _ isSign, readSignedDigits,
          Reader.bind_of_some (Reader.character_cons _ _), readDigitsAs_eq_none_iff] at fails ⊢
        exact fails.of_isPrefix shorter
      · have noSign := Bool.eq_false_iff.mpr isSign
        rw [readExponentDigits_of_ends (Text.ends_cons _ noSign), readDigitsAs_eq_none_iff]
          at fails ⊢
        exact fails.of_isPrefix ((List.prefix_cons_inj first).mpr shorter)

theorem readExponent_of_none {mark : Char} {rest : List Char}
    (fails : mark = 'e' ∨ mark = 'E' → readExponentDigits rest = none) :
    readExponent (mark :: rest) = some (none, mark :: rest) := by
  unfold readExponent
  by_cases isMark : mark = 'e' ∨ mark = 'E'
  · simp only [if_pos isMark, fails isMark]
  · simp only [if_neg isMark]

theorem readExponent_of_some {mark : Char} {rest behind : List Char} {exponent : Int}
    (isMark : mark = 'e' ∨ mark = 'E')
    (reads : readExponentDigits rest = some (exponent, behind)) :
    readExponent (mark :: rest) = some (some exponent, behind) := by
  unfold readExponent
  simp only [if_pos isMark, reads]

/-- An exponent mark that is left unread is still left when its text is cut off. -/
theorem readExponent_of_cut {input input' : List Char}
    (left : readExponent input = some (none, input))
    (cut : input' <+: input) :
    readExponent input' = some (none, input') := by
  cases input' with
  | nil => rfl
  | cons mark others =>
      obtain ⟨gone, rfl⟩ := cut
      refine readExponent_of_none fun isMark => ?_
      cases digits : readExponentDigits (others ++ gone) with
      | none => exact readExponentDigits_of_cut digits (List.prefix_append others gone)
      | some read =>
          rw [List.cons_append, readExponent_of_some isMark digits] at left
          cases left

theorem stable_readExponent : readExponent.Stable Settled Cuts := by
  intro input value rest reads
  cases input with
  | nil =>
      cases reads
      exact ⟨[], rfl, .inl rfl, fun rest' => readExponent_of_cut rfl⟩
  | cons mark others =>
      by_cases fails : mark = 'e' ∨ mark = 'E' → readExponentDigits others = none
      · have left := readExponent_of_none fails
        rw [left] at reads
        cases reads
        exact ⟨[], rfl, .inl rfl, fun rest' => readExponent_of_cut left⟩
      · obtain ⟨isMark, found⟩ := Classical.not_imp.mp fails
        obtain ⟨⟨exponent, behind⟩, digits⟩ := Option.ne_none_iff_exists'.mp found
        rw [readExponent_of_some isMark digits] at reads
        cases reads
        obtain ⟨used, rfl, solid, again⟩ := stable_readExponentDigits _ _ _ digits
        exact ⟨mark :: used, rfl, .inr (solid.append [mark]), fun rest' cuts =>
          readExponent_of_some isMark (again rest' cuts)⟩

theorem stable_read : Constant.read.Stable EndsSolid Cuts := by
  have chosen (negative : Bool) (whole : List Char) (fraction : Option (List Char)) :
      (readExponent.accept (ofParts? negative whole fraction)).Stable Settled Cuts :=
    stable_readExponent.accept
  have behindWhole (negative : Bool) (whole : List Char) :
      (do
        let fraction ← readFraction
        readExponent.accept (ofParts? negative whole fraction)).Stable Settled Cuts :=
    stable_readFraction.bind_settled (chosen negative whole) fun _ _ cuts => cuts
  have unsigned (negative : Bool) :
      (do
        let whole ← Reader.run1 Char.isDigit
        let fraction ← readFraction
        readExponent.accept (ofParts? negative whole fraction)).Stable EndsSolid Cuts :=
    stable_digits.solid_bind (behindWhole negative) fun _ _ cuts => cuts
  exact stable_readMinus.bind_solid unsigned fun _ _ cuts => cuts

end Constant

/-! ## Operands -/

namespace Operand

theorem isBlank_of_isAlpha {character : Char} (isAlpha : character.isAlpha = true) :
    Text.isBlank character = false := by
  have range : 65 ≤ character.toNat ∧ character.toNat ≤ 122 := by
    rcases Bool.or_eq_true_iff.mp isAlpha with upper | lower
    · obtain ⟨above, below⟩ := of_decide_eq_true upper
      have above := UInt32.le_iff_toNat_le.mp above
      have below := UInt32.le_iff_toNat_le.mp below
      exact ⟨above, Nat.le_trans below (by decide)⟩
    · obtain ⟨above, below⟩ := Bool.and_eq_true_iff.mp lower
      have above := UInt32.le_iff_toNat_le.mp (of_decide_eq_true above)
      have below := UInt32.le_iff_toNat_le.mp (of_decide_eq_true below)
      exact ⟨Nat.le_trans (by decide) above, below⟩
  simp [Text.isBlank, Text.blankRanges]
  omega

theorem isBlank_of_isWordCharacter {character : Char} (inWord : isWordCharacter character = true) :
    Text.isBlank character = false := by
  have cases : (character.isAlpha = true ∨ character.isDigit = true) ∨ character = '_' := by
    simpa [isWordCharacter, Char.isAlphanum] using inWord
  rcases cases with (letter | digit) | rfl
  · exact isBlank_of_isAlpha letter
  · exact Text.isBlank_of_isDigit digit
  · decide

theorem stable_readNumber : readNumber.Stable EndsSolid Cuts :=
  Constant.stable_digits.accept

theorem stable_readId : readId.Stable EndsSolid Cuts :=
  Reader.stable_marked '%' (by decide) (stable_readNumber.weaken fun _ => .inr)

theorem stable_readWord (α : Type) [Vocabulary α] : (readWord α).Stable EndsSolid Cuts :=
  (Reader.stable_run1_solid isWordCharacter fun _ => isBlank_of_isWordCharacter).accept

end Operand

namespace Text

/-- Whether the first part of an input is read up to a closing quote, whatever follows it. -/
def ReadsUpToQuote (input text rest : List Char) : Prop :=
  ∃ used, input = used ++ rest ∧ EndsSolid used ∧
    ∀ rest', readEscaped? (used ++ rest') = some (text, rest')

/-- One written character in front of what is read up to a closing quote. -/
theorem ReadsUpToQuote.of_step {behind text rest : List Char} (written : List Char)
    (character : Char)
    (step : ∀ more, readEscaped? (written ++ more) =
      (readEscaped? more).map fun read => (character :: read.1, read.2))
    (later : ∀ {text}, readEscaped? behind = some (text, rest) → ReadsUpToQuote behind text rest)
    (reads : ((readEscaped? behind).map fun read => (character :: read.1, read.2)) =
      some (text, rest)) :
    ReadsUpToQuote (written ++ behind) text rest := by
  obtain ⟨others, readsOthers, rfl⟩ : ∃ others,
      readEscaped? behind = some (others, rest) ∧ character :: others = text := by
    simpa using reads
  obtain ⟨used, rfl, solid, again⟩ := later readsOthers
  refine ⟨written ++ used, (List.append_assoc ..).symm, solid.append written, fun rest' => ?_⟩
  rw [List.append_assoc, step, again rest', Option.map_some]

/-- A string ends with its closing quote, whatever follows. -/
theorem readsUpToQuote_of_readEscaped? {input text rest : List Char}
    (reads : readEscaped? input = some (text, rest)) :
    ReadsUpToQuote input text rest := by
  -- One case for each way to go on: behind the closing quote, an escape or any other character.
  fun_induction readEscaped? input generalizing text with
  | case1 => cases reads
  | case2 behind =>
      cases reads
      exact ⟨['"'], rfl, ⟨[], '"', rfl, by decide⟩, fun rest' => by simp [readEscaped?]⟩
  | case3 behind inductionHypothesis =>
      exact .of_step ['\\', '"'] '"' (fun _ => by simp [readEscaped?]) inductionHypothesis reads
  | case4 behind inductionHypothesis =>
      exact .of_step ['\\', '\\'] '\\' (fun _ => by simp [readEscaped?]) inductionHypothesis reads
  | case5 => cases reads
  | case6 character behind noQuote noEscapedQuote noEscapedMark noMark inductionHypothesis =>
      refine .of_step [character] character (fun more => ?_) inductionHypothesis reads
      rw [List.singleton_append, readEscaped?]
      · exact noQuote
      · exact fun _ isMark _ => noMark isMark
      · exact fun _ isMark _ => noMark isMark
      · exact noMark

end Text

namespace Operand

theorem stable_readText : readText.Stable EndsSolid Cuts := by
  intro input value rest reads
  obtain ⟨text, quoted, rfl⟩ : ∃ text, Text.readQuoted? input = some (text, rest) ∧
      String.ofList text = value := by
    simpa [readText] using reads
  unfold Text.readQuoted? at quoted
  split at quoted
  · next behind =>
      obtain ⟨used, rfl, solid, again⟩ := Text.readsUpToQuote_of_readEscaped? quoted
      refine ⟨'"' :: used, rfl, solid.append ['"'], fun rest' _ => ?_⟩
      change (Text.readEscaped? (used ++ rest')).map _ = _
      rw [again rest', Option.map_some]
  · cases quoted

theorem stable_behindSpace {α : Type} {reader : Reader α} (stable : reader.Stable EndsSolid Cuts) :
    (behindSpace reader).Stable EndsSolid Cuts :=
  (Reader.stable_run1 isSeparator).bind_solid (fun _ => stable) fun _ _ cuts => cuts

end Operand

namespace OperandKind

theorem stable_read (kind : OperandKind) : kind.read.Stable EndsSolid Cuts := by
  cases kind with
  | id => exact Operand.stable_readId.map
  | number => exact Operand.stable_readNumber.map
  | text => exact Operand.stable_readText.map
  | literal => exact Constant.stable_read.map
  | storageClass => exact (Operand.stable_readWord StorageClass).map
  | executionModel => exact (Operand.stable_readWord ExecutionModel).map
  | dimension => exact (Operand.stable_readWord Dimension).map
  | functionControl => exact (Operand.stable_readWord FunctionControl).map

theorem stable_readAll (kinds : List OperandKind) : (readAll kinds).Stable Settled Cuts := by
  induction kinds with
  | nil => exact Reader.stable_pure [] (.inl rfl)
  | cons kind kinds inductionHypothesis =>
      have others (operand : Operand) :
          (do return operand :: (← readAll kinds)).Stable Settled Cuts :=
        inductionHypothesis.bind_settled (fun _ => Reader.stable_pure _ (.inl rfl))
          fun _ _ cuts => cuts
      have whole := (Operand.stable_behindSpace kind.stable_read).solid_bind others
        fun _ _ cuts => cuts
      exact whole.weaken fun _ => .inr

end OperandKind

/-! ## Instructions -/

namespace Operand

/-- Whether a text is another one that has been cut off, without leaving an id where there was
none. -/
def CutsIds (rest rest' : List Char) : Prop :=
  Cuts rest rest' ∧ (NoIdFollows rest → NoIdFollows rest')

/-- All ids are read again if no other one follows. -/
theorem stable_many_ids (input : List Char) :
    ∃ used, input = used ++ (Reader.many (behindSpace OperandKind.id.read) input).2 ∧
      Settled used ∧
      ∀ rest', CutsIds (Reader.many (behindSpace OperandKind.id.read) input).2 rest' →
        Reader.many (behindSpace OperandKind.id.read) (used ++ rest') =
          ((Reader.many (behindSpace OperandKind.id.read) input).1, rest') := by
  have stable := stable_behindSpace OperandKind.id.stable_read
  fun_induction Reader.many (behindSpace OperandKind.id.read) input with
  | case1 input fails =>
      exact ⟨[], rfl, .inl rfl, fun rest' cuts => Reader.many_of_none (cuts.2 fails)⟩
  | case2 input value rest reads shorter following inductionHypothesis =>
      obtain ⟨first, rfl, solid, readsFirst⟩ := stable input value rest reads
      obtain ⟨others, split, settled, readsOthers⟩ := inductionHypothesis
      refine ⟨first ++ others, ?_, .inr (solid.then_settled settled), fun rest' cuts => ?_⟩
      · rw [List.append_assoc, ← split]
      · have firstCuts : Cuts rest (others ++ rest') := by
          rw [split]
          exact cuts.1.append others
        rw [List.append_assoc, Reader.many_of_some (readsFirst _ firstCuts)
          (solid.length_lt _), readsOthers rest' cuts]
  | case3 input value rest reads longer =>
      obtain ⟨used, rfl, solid, -⟩ := stable input value rest reads
      exact absurd (solid.length_lt rest) longer

end Operand

namespace Opcode

open Operand (CutsIds)

theorem stable_read : read.Stable EndsSolid Cuts := by
  have word : ((Reader.run1 Operand.isWordCharacter).accept fun run =>
      Vocabulary.ofWord? (String.ofList ('O' :: 'p' :: run)) : Reader Opcode).Stable
        EndsSolid Cuts :=
    (Reader.stable_run1_solid _ fun _ => Operand.isBlank_of_isWordCharacter).accept
  have mark : (Reader.literal ['O', 'p']).Stable EndsSolid Cuts :=
    Reader.stable_marked 'O' (by decide)
      ((Reader.stable_marked 'p' (by decide) (Reader.stable_pure () (.inl rfl))).weaken
        fun _ => .inr)
  exact mark.bind_solid (fun _ => word) fun _ _ cuts => cuts

theorem stable_readIds (opcode : Opcode) : opcode.readIds.Stable Settled CutsIds := by
  intro input value rest reads
  unfold readIds at reads ⊢
  by_cases takesIds : opcode.takesIds = true
  · obtain ⟨rfl, rfl⟩ : (Reader.many (Operand.behindSpace OperandKind.id.read) input).1 = value ∧
        (Reader.many (Operand.behindSpace OperandKind.id.read) input).2 = rest := by
      simpa [takesIds, Prod.ext_iff] using reads
    obtain ⟨used, split, settled, again⟩ := Operand.stable_many_ids input
    refine ⟨used, split, settled, fun rest' cuts => ?_⟩
    rw [if_pos takesIds, again rest' cuts]
  · obtain ⟨rfl, rfl⟩ : [] = value ∧ input = rest := by simpa [takesIds] using reads
    exact ⟨[], rfl, .inl rfl, fun rest' _ => if_neg takesIds⟩

theorem stable_readOperands (opcode : Opcode) : opcode.readOperands.Stable Settled CutsIds := by
  have ids (operands : List Operand) :
      (do return operands ++ (← opcode.readIds)).Stable Settled CutsIds :=
    opcode.stable_readIds.map
  exact (OperandKind.stable_readAll opcode.operandKinds).bind_settled ids fun _ _ cuts => cuts.1

end Opcode

namespace Instruction

open Operand (CutsIds)

theorem stable_readBody (result : Option ResultId) :
    (readBody result).Stable EndsSolid CutsIds := by
  have assembled (opcode : Opcode) :
      (opcode.readOperands.accept (assemble? result opcode)).Stable Settled CutsIds :=
    opcode.stable_readOperands.accept
  exact Opcode.stable_read.solid_bind assembled fun _ _ cuts => cuts.1

theorem stable_readWithResult : readWithResult.Stable EndsSolid CutsIds := by
  have spaces := Reader.stable_run Operand.isSeparator
  have body (result : ResultId) :
      (do let _ ← Reader.run Operand.isSeparator; readBody (some result)).Stable
        EndsSolid CutsIds :=
    spaces.bind_solid (fun _ => stable_readBody (some result)) fun _ _ cuts => cuts.1
  have equation (result : ResultId) :
      (do
        Reader.character '='
        let _ ← Reader.run Operand.isSeparator
        readBody (some result)).Stable EndsSolid CutsIds :=
    (Reader.stable_character (by decide)).bind_solid (fun _ => body result) fun _ _ cuts => cuts.1
  have behindId (result : ResultId) :
      (do
        let _ ← Reader.run Operand.isSeparator
        Reader.character '='
        let _ ← Reader.run Operand.isSeparator
        readBody (some result)).Stable EndsSolid CutsIds :=
    spaces.bind_solid (fun _ => equation result) fun _ _ cuts => cuts.1
  exact Operand.stable_readId.bind_solid behindId fun _ _ cuts => cuts.1

theorem read_of_mark (rest : List Char) : read ('%' :: rest) = readWithResult ('%' :: rest) := by
  unfold read
  cases readWithResult ('%' :: rest) with
  | none => exact readBody_of_ne none rest (by decide)
  | some found => rfl

theorem read_of_ends {input : List Char} (ends : Ends (· == '%') input) :
    read input = readBody none input := by
  unfold read
  cases input with
  | nil => rfl
  | cons first others =>
      rw [readWithResult_of_ne others (by simpa using ends first rfl)]
      rfl

/-- What is read as an instruction does not end with a blank, and is read again in front of every
text that is cut off from what follows it and gives it no further id. -/
theorem stable_read : Instruction.read.Stable EndsSolid CutsIds := by
  refine Stable.choose (· == '%') (fun _ _ => stable_readWithResult) (stable_readBody none)
    (fun _ _ cuts => cuts.1) ?_ (fun _ => read_of_ends) (fun _ solid => solid) fun _ solid => solid
  intro mark rest isMark
  obtain rfl : mark = '%' := by simpa using isMark
  exact read_of_mark rest

end Instruction

end ShaderLang
