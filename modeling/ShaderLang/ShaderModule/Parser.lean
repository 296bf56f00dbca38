import ShaderLang.Instruction.Parser
import ShaderLang.ShaderModule.Basic
import ShaderLang.Text.Basic

/-!
# Reading modules

A text is trimmed and then read to its end.  What stops the reading is reported with the place
where it stopped: a byte offset, a line and a column.
-/

namespace ShaderLang

/-! ## Failures -/

/-- The step of reading a module header that failed. -/
inductive HeaderStep where
  /-- The mark that starts the header is missing. -/
  | mark
  /-- No digit follows the mark. -/
  | digits
  /-- The bound does not fit in 32 bits. -/
  | range
  deriving DecidableEq, Repr

/-- The name of a header step in messages. -/
def HeaderStep.name : HeaderStep → String
  | mark => "Tag"
  | digits => "Digit"
  | range => "MapRes"

/-- Why reading stopped, and the text in front of which it stopped. -/
inductive ReadFault where
  | unexpectedInput (rest : List Char)
  | badHeader (step : HeaderStep) (rest : List Char)
  deriving DecidableEq, Repr

/-- A failure to read a text, with the text in front of the place it is reported at. -/
structure ReadError where
  fault : ReadFault
  consumed : List Char
  deriving DecidableEq, Repr

namespace ReadError

/-- What went wrong. -/
def message (error : ReadError) : String :=
  match error.fault with
  | .unexpectedInput rest => "Unexpected input remaining: " ++ String.ofList rest
  | .badHeader step rest =>
      "Parse error: Error(Error \x7b input: " ++ String.ofList (Text.showQuoted rest) ++
        ", code: " ++ step.name ++ " \x7d)"

/-- The byte offset of the failure. -/
def position (error : ReadError) : Nat :=
  (String.ofList error.consumed).utf8ByteSize

/-- The line of the failure, counted from one. -/
def line (error : ReadError) : Nat :=
  error.consumed.count '\n' + 1

/-- The column of the failure in characters, counted from one. -/
def column (error : ReadError) : Nat :=
  (error.consumed.reverse.takeWhile (· ≠ '\n')).length + 1

/-- The message and the place of a failure. -/
def text (error : ReadError) : String :=
  error.message ++ " at " ++ toString error.line ++ ":" ++ toString error.column

end ReadError

/-! ## Whole texts -/

/-- What was read of `source`, if nothing but blanks is left over. -/
def finishReading {α : Type} (source rest : List Char) (value : α) : Except ReadError α :=
  if (Text.trim rest).isEmpty then
    .ok value
  else
    .error ⟨.unexpectedInput rest, source.take (source.length - rest.length)⟩

/-- Reads a text that holds instructions only. -/
def Instruction.parseAll (text : String) : Except ReadError (List Instruction) :=
  let source := Text.trim text.toList
  let read := Instruction.readRun source
  finishReading source read.2 read.1

namespace ShaderModule

/-- Reads the header of a module. -/
def readHeader (source : List Char) : Except ReadFault (ResultId × List Char) :=
  match Text.Reader.literal headerMark source with
  | none => .error (.badHeader .mark source)
  | some (_, behindMark) =>
      let rest := behindMark.dropWhile Operand.isSeparator
      match Operand.readNumber rest with
      | some read => .ok read
      | none =>
          if (rest.takeWhile Char.isDigit).isEmpty then
            .error (.badHeader .digits rest)
          else
            .error (.badHeader .range rest)

/-- Reads the text of a module. -/
def parse (text : String) : Except ReadError ShaderModule :=
  let source := Text.trim text.toList
  match readHeader source with
  | .error fault => .error ⟨fault, []⟩
  | .ok (bound, body) =>
      let read := Instruction.readRun body
      finishReading source read.2 ⟨bound, read.1⟩

end ShaderModule

end ShaderLang
