import ShaderLang.Binary64.Text
import ShaderLang.Instruction.Basic
import ShaderLang.Text.Quoted

/-!
# Modules and their text

A module is a list of instructions with a bound on its ids.  It is written as a header line that
gives the bound, then one line per instruction: its result and an equals sign if it has a result,
its opcode, and each operand behind one space.
-/

namespace ShaderLang

/-! ## Instructions -/

/-- The text of a literal.  A float always has a point or an exponent, an integer never. -/
def Constant.characters : Constant → List Char
  | .int value => Text.signedDigits value
  | .float value => value.text

/-- The text of an operand. -/
def Operand.characters : Operand → List Char
  | .id target => '%' :: Text.digits target
  | .number value => Text.digits value
  | .text content => Text.quote content.toList
  | .literal value => value.characters
  | .storageClass storage => storage.name.toList
  | .executionModel model => model.name.toList
  | .dimension shape => shape.name.toList
  | .functionControl control => control.name.toList

namespace Instruction

/-- The part of a line in front of the opcode. -/
def resultCharacters (instruction : Instruction) : List Char :=
  match instruction.result? with
  | none => []
  | some result => (Operand.id result).characters ++ [' ', '=', ' ']

/-- The line of an instruction, as characters. -/
def characters (instruction : Instruction) : List Char :=
  instruction.resultCharacters ++ instruction.opcode.text.toList ++
    instruction.operands.flatMap fun operand => ' ' :: operand.characters

/-- The line of an instruction. -/
def text (instruction : Instruction) : String :=
  String.ofList instruction.characters

end Instruction

/-! ## Modules -/

/-- A list of instructions and the id that comes after the last one in use. -/
structure ShaderModule where
  bound : ResultId
  instructions : List Instruction
  deriving DecidableEq

namespace ShaderModule

/-- The ids that the instructions define, in order. -/
def resultIds (shaderModule : ShaderModule) : List ResultId :=
  shaderModule.instructions.filterMap Instruction.result?

/-- The number of instructions whose opcode has the given name. -/
def countOpcode (shaderModule : ShaderModule) (name : String) : Nat :=
  shaderModule.instructions.countP fun instruction => instruction.opcode.text == name

/-- What the header line starts with. -/
def headerMark : List Char :=
  [';', ' ', 'B', 'o', 'u', 'n', 'd', ':']

/-- The text of a module, as characters. -/
def characters (shaderModule : ShaderModule) : List Char :=
  headerMark ++ ' ' :: Text.digits shaderModule.bound ++ ['\n'] ++
    shaderModule.instructions.flatMap fun instruction => instruction.characters ++ ['\n']

/-- The text of a module. -/
def text (shaderModule : ShaderModule) : String :=
  String.ofList shaderModule.characters

end ShaderModule

end ShaderLang
