import ShaderLang.Binary64.Decimal
import ShaderLang.Instruction.Basic
import ShaderLang.Text.Quoted
import ShaderLang.Text.Basic

/-!
# Reading instructions

Readers for operands, for single instructions and for a run of instructions with blanks and
comments between them.  An operand stands on the line of its instruction behind spaces or tabs;
between instructions nothing is required.
-/

namespace ShaderLang

open Text (Reader)

namespace Operand

/-! ## Operands -/

/-- Whether a character separates the tokens of a line. -/
def isSeparator (character : Char) : Bool :=
  character = ' ' || character = '\t'

/-- The number that a run of digits denotes, if it fits in 32 bits. -/
def word32? (run : List Char) : Option Nat :=
  let value := Text.digitsValue run
  if value ≤ 4294967295 then some value else none

/-- Reads a natural of at most 32 bits. -/
def readNumber : Reader Nat :=
  (Reader.run1 Char.isDigit).accept word32?

/-- Reads an id. -/
def readId : Reader ResultId := do
  Reader.character '%'
  readNumber

/-- Reads a string between quotes. -/
def readText : Reader String := fun input =>
  (Text.readQuoted? input).map fun read => (String.ofList read.1, read.2)

/-- Whether a character can stand in a word. -/
def isWordCharacter (character : Char) : Bool :=
  character.isAlphanum || character = '_'

/-- Reads a word of a vocabulary. -/
def readWord (α : Type) [Vocabulary α] : Reader α :=
  (Reader.run1 isWordCharacter).accept fun run => Vocabulary.ofWord? (String.ofList run)

/-- Reads what another reader reads, behind at least one space or tab. -/
def behindSpace {α : Type} (reader : Reader α) : Reader α := do
  let _ ← Reader.run1 isSeparator
  reader

end Operand

namespace Constant

/-! ## Literals -/

/-- Reads a minus sign if there is one, and tells whether there was. -/
def readMinus : Reader Bool
  | '-' :: rest => some (true, rest)
  | input => some (false, input)

/-- Reads a point and the digits behind it, if there is a point. -/
def readFraction : Reader (Option (List Char))
  | '.' :: rest => some (some (rest.takeWhile Char.isDigit), rest.dropWhile Char.isDigit)
  | input => some (none, input)

/-- Reads the sign and the digits of an exponent. -/
def readExponentDigits : Reader Int
  | '-' :: rest => do
      let (run, rest) ← Reader.run1 Char.isDigit rest
      return (-(Text.digitsValue run : Int), rest)
  | '+' :: rest => do
      let (run, rest) ← Reader.run1 Char.isDigit rest
      return ((Text.digitsValue run : Int), rest)
  | input => do
      let (run, rest) ← Reader.run1 Char.isDigit input
      return ((Text.digitsValue run : Int), rest)

/-- Reads an exponent if there is one.  An exponent mark without digits is left unread. -/
def readExponent : Reader (Option Int) := fun input =>
  match input with
  | [] => some (none, input)
  | mark :: rest =>
      if mark = 'e' ∨ mark = 'E' then
        match readExponentDigits rest with
        | some (exponent, rest) => some (some exponent, rest)
        | none => some (none, input)
      else
        some (none, input)

/-- The literal with the given parts.  A point or an exponent makes it a float; an integer has to
fit in 64 bits. -/
def ofParts? (negative : Bool) (whole : List Char) (fraction : Option (List Char))
    (exponent : Option Int) : Option Constant :=
  if fraction.isNone ∧ exponent.isNone then
    let value : Int := if negative then -Text.digitsValue whole else Text.digitsValue whole
    if -9223372036854775808 ≤ value ∧ value ≤ 9223372036854775807 then
      some (.int value)
    else
      none
  else
    let places := fraction.getD []
    some (.float (.ofDecimal negative
      ⟨Text.digitsValue (whole ++ places), exponent.getD 0 - places.length⟩))

/-- Reads a literal. -/
def read : Reader Constant := do
  let negative ← readMinus
  let whole ← Reader.run1 Char.isDigit
  let fraction ← readFraction
  let exponent ← readExponent
  StateT.lift (ofParts? negative whole fraction exponent)

end Constant

namespace OperandKind

/-! ## Operands of an instruction -/

/-- Reads an operand of a kind. -/
def read : OperandKind → Reader Operand
  | id => .id <$> Operand.readId
  | number => .number <$> Operand.readNumber
  | text => .text <$> Operand.readText
  | literal => .literal <$> Constant.read
  | storageClass => .storageClass <$> Operand.readWord StorageClass
  | executionModel => .executionModel <$> Operand.readWord ExecutionModel
  | dimension => .dimension <$> Operand.readWord Dimension
  | functionControl => .functionControl <$> Operand.readWord FunctionControl

/-- Reads operands of the given kinds, each behind a space. -/
def readAll : List OperandKind → Reader (List Operand)
  | [] => pure []
  | kind :: rest => do
      let operand ← Operand.behindSpace kind.read
      let operands ← readAll rest
      return operand :: operands

end OperandKind

namespace Opcode

/-- Reads an opcode. -/
def read : Reader Opcode := do
  Reader.literal ['O', 'p']
  (Reader.run1 Operand.isWordCharacter).accept fun run =>
    Vocabulary.ofWord? (String.ofList ('O' :: 'p' :: run))

/-- Reads the ids behind the other operands, as many as follow, if an opcode takes them. -/
def readIds (opcode : Opcode) : Reader (List Operand) := fun input =>
  if opcode.takesIds then
    some (Reader.many (Operand.behindSpace OperandKind.id.read) input)
  else
    some ([], input)

/-- Reads the operands of an instruction with an opcode. -/
def readOperands (opcode : Opcode) : Reader (List Operand) := do
  let operands ← OperandKind.readAll opcode.operandKinds
  let ids ← opcode.readIds
  return operands ++ ids

end Opcode

namespace Instruction

/-! ## Single instructions -/

/-- Reads an opcode and its operands, and assembles the instruction with the given result. -/
def readBody (result : Option ResultId) : Reader Instruction := do
  let opcode ← Opcode.read
  let operands ← opcode.readOperands
  StateT.lift (assemble? result opcode operands)

/-- Reads an instruction in the form with a result. -/
def readWithResult : Reader Instruction := do
  let result ← Operand.readId
  let _ ← Reader.run Operand.isSeparator
  Reader.character '='
  let _ ← Reader.run Operand.isSeparator
  readBody (some result)

/-- Reads an instruction in the form without a result. -/
def readWithoutResult : Reader Instruction :=
  readBody none

/-- Reads an instruction. -/
def read : Reader Instruction := fun input =>
  match readWithResult input with
  | some (instruction, rest) => some (instruction, rest)
  | none => readWithoutResult input

/-! ## Runs of instructions -/

/-- Whether a comment that starts in front of `text` is well formed: the line break that ends it is
a line feed, alone or behind a carriage return, or the end of the text. -/
def commentCloses (text : List Char) : Bool :=
  match text.dropWhile fun character => character ≠ '\n' && character ≠ '\r' with
  | '\r' :: '\n' :: _ => true
  | '\r' :: _ => false
  | _ => true

/-- Skips blanks and comments, starting inside a comment or not. -/
def skipBlanksFrom (inComment : Bool) : List Char → List Char
  | [] => []
  | character :: rest =>
      if inComment then
        skipBlanksFrom (character ≠ '\n' && character ≠ '\r') rest
      else if character = ' ' || character = '\t' || character = '\r' || character = '\n' then
        skipBlanksFrom false rest
      else if character = ';' && commentCloses rest then
        skipBlanksFrom true rest
      else
        character :: rest

/-- Skips spaces, tabs, line breaks and comments. -/
def skipBlanks (text : List Char) : List Char :=
  skipBlanksFrom false text

/-- Reads an instruction and skips the blanks behind it. -/
def readAndSkip : Reader Instruction := fun input =>
  (read input).map fun result => (result.1, skipBlanks result.2)

/-- Reads instructions until something is none, and gives them with the rest. -/
def readRun (text : List Char) : List Instruction × List Char :=
  Reader.many readAndSkip (skipBlanks text)

end Instruction

end ShaderLang
