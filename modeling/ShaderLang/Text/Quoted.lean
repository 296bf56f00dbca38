import ShaderLang.Text.Printable

/-!
# Quoted text

Two forms of quoted text.  An operand string escapes only the quote and the backslash, and is read
back by `readQuoted?`.  A text shown in a message also escapes what is not printable, and is never
read back.
-/

namespace ShaderLang.Text

/-! ## Operand strings -/

/-- A backslash in front of every quote and backslash. -/
def escape : List Char → List Char
  | [] => []
  | character :: rest =>
      if character = '"' ∨ character = '\\' then
        '\\' :: character :: escape rest
      else
        character :: escape rest

/-- The operand form of a text: escaped and between quotes. -/
def quote (text : List Char) : List Char :=
  '"' :: (escape text ++ ['"'])

/-- Reads an escaped text up to and with its closing quote.  A backslash has to stand in front of
a quote or a backslash. -/
def readEscaped? : List Char → Option (List Char × List Char)
  | [] => none
  | '"' :: rest => some ([], rest)
  | '\\' :: '"' :: rest => (readEscaped? rest).map fun read => ('"' :: read.1, read.2)
  | '\\' :: '\\' :: rest => (readEscaped? rest).map fun read => ('\\' :: read.1, read.2)
  | '\\' :: _ => none
  | character :: rest => (readEscaped? rest).map fun read => (character :: read.1, read.2)

/-- Reads an operand string, giving its text and the input after the closing quote. -/
def readQuoted? : List Char → Option (List Char × List Char)
  | '"' :: rest => readEscaped? rest
  | _ => none

theorem readEscaped?_escape (text rest : List Char) :
    readEscaped? (escape text ++ '"' :: rest) = some (text, rest) := by
  induction text with
  | nil => rfl
  | cons character tail inductionHypothesis =>
      by_cases isQuote : character = '"'
      · subst isQuote
        simp [escape, readEscaped?, inductionHypothesis]
      · by_cases isBackslash : character = '\\'
        · subst isBackslash
          simp [escape, readEscaped?, inductionHypothesis]
        · simp [escape, isQuote, isBackslash]
          rw [readEscaped?]
          · simp [inductionHypothesis]
          all_goals simp_all

/-- Every text is read back from its operand form, whatever follows. -/
@[simp]
theorem readQuoted?_quote (text rest : List Char) :
    readQuoted? (quote text ++ rest) = some (text, rest) := by
  simp [quote, readQuoted?, readEscaped?_escape]

/-! ## Text shown in a message -/

/-- How a character of a shown text is written. -/
def showCharacter (character : Char) : List Char :=
  match character with
  | '\x00' => ['\\', '0']
  | '\t' => ['\\', 't']
  | '\n' => ['\\', 'n']
  | '\r' => ['\\', 'r']
  | '"' => ['\\', '"']
  | '\\' => ['\\', '\\']
  | _ =>
      if isPrintable character then
        [character]
      else
        ['\\', 'u', '\x7b'] ++ Nat.toDigits 16 character.toNat ++ ['\x7d']

/-- A text between quotes, with what is not printable escaped. -/
def showQuoted (text : List Char) : List Char :=
  '"' :: (text.flatMap showCharacter ++ ['"'])

end ShaderLang.Text
