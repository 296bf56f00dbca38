/-!
# Texts

A text is a list of characters.  It is trimmed by the Unicode property `White_Space`, numbers are
written in it in decimal, and a reader takes characters off its front and gives a value and the
rest, or fails.
-/

namespace ShaderLang.Text

/-! ## Blank characters -/

/-- The inclusive code point ranges of the Unicode property `White_Space`. -/
def blankRanges : List (Nat × Nat) :=
  [(0x09, 0x0D), (0x20, 0x20), (0x85, 0x85), (0xA0, 0xA0), (0x1680, 0x1680),
    (0x2000, 0x200A), (0x2028, 0x2029), (0x202F, 0x202F), (0x205F, 0x205F), (0x3000, 0x3000)]

/-- Whether a character has the Unicode property `White_Space`. -/
def isBlank (character : Char) : Bool :=
  blankRanges.any fun range => range.1 ≤ character.toNat && character.toNat ≤ range.2

/-- The text without the blanks at its two ends. -/
def trim (text : List Char) : List Char :=
  ((text.dropWhile isBlank).reverse.dropWhile isBlank).reverse

/-! ## Decimal digits -/

/-- The decimal digits of a natural, without leading zeros. -/
def digits (value : Nat) : List Char :=
  Nat.toDigits 10 value

/-- The natural that a run of decimal digits denotes. -/
def digitsValue (run : List Char) : Nat :=
  Nat.ofDigitChars 10 run 0

/-- The decimal digits of an integer, with a minus sign in front of a negative one. -/
def signedDigits : Int → List Char
  | .ofNat value => digits value
  | .negSucc value => '-' :: digits (value + 1)

/-- The number of decimal digits of a natural; zero has one. -/
def digitCount (value : Nat) : Nat :=
  (digits value).length

/-- Digits denote the natural they were written for. -/
@[simp]
theorem digitsValue_digits (value : Nat) : digitsValue (digits value) = value :=
  Nat.ofDigitChars_toDigits (by decide) (by decide)

/-- Different naturals have different digits. -/
theorem digits_injective {first second : Nat} (same : digits first = digits second) :
    first = second := by
  have sameValue := congrArg digitsValue same
  simpa using sameValue

/-! ## Readers -/

/-- Reads a value off the front of a text, or fails. -/
abbrev Reader (α : Type) :=
  StateT (List Char) Option α

namespace Reader

/-- Reads the expected character. -/
def character (expected : Char) : Reader Unit
  | [] => none
  | first :: rest => if first = expected then some ((), rest) else none

/-- Reads the expected characters. -/
def literal : List Char → Reader Unit
  | [] => pure ()
  | first :: rest => do
      character first
      literal rest

/-- Reads the longest run, possibly empty, of characters of a class. -/
def run (isMember : Char → Bool) : Reader (List Char) := fun input =>
  some (input.takeWhile isMember, input.dropWhile isMember)

/-- Reads the longest run of characters of a class, and fails if it is empty. -/
def run1 (isMember : Char → Bool) : Reader (List Char) := fun input =>
  match input.takeWhile isMember with
  | [] => none
  | first :: rest => some (first :: rest, input.dropWhile isMember)

/-- Keeps the values that a partial function accepts. -/
def accept {α β : Type} (reader : Reader α) (select : α → Option β) : Reader β := do
  let value ← reader
  StateT.lift (select value)

/-- Reads values until the reader fails, and gives them with the rest.  A reader that succeeds
without reading anything counts as failing. -/
def many {α : Type} (reader : Reader α) (input : List Char) : List α × List Char :=
  match reader input with
  | none => ([], input)
  | some (value, rest) =>
      if rest.length < input.length then
        let following := many reader rest
        (value :: following.1, following.2)
      else
        ([], input)
termination_by input.length

end Reader

end ShaderLang.Text
