import ShaderLang.Diagnostic
import ShaderLang.Type.Equality

/-!
# Symbol tables

A symbol table holds the stack of open frames, the declared types, the overloads of the methods and
the annotations of the nodes.  A frame holds the symbols of one scope, in order of name, kind and
storage and one for each such key; a later symbol replaces an earlier one with its key.  Annotations
are what analysis finds out about the nodes of a shader: their types, the states of the methods and
the symbol of the shader.  A later annotation of a node replaces an earlier one.
-/

namespace ShaderLang

/-! ## Frames -/

/-- The order of two symbols: by name, then kind, then storage. -/
def Symbol.order (first second : Symbol) : Ordering :=
  (compare first.name second.name).then
    ((compare first.kind.rank second.kind.rank).then
      (compare first.storage.rank second.storage.rank))

/-- The symbols of one scope, in order. -/
structure Frame where
  symbols : List Symbol
  deriving DecidableEq

namespace Frame

/-- The frame without symbols. -/
def empty : Frame :=
  ⟨[]⟩

/-- Puts a symbol in its place among ordered symbols, replacing one with its key. -/
def insertOrdered (symbol : Symbol) : List Symbol → List Symbol
  | [] => [symbol]
  | first :: rest =>
      match symbol.order first with
      | .lt => symbol :: first :: rest
      | .eq => symbol :: rest
      | .gt => first :: insertOrdered symbol rest

/-- Adds a symbol, replacing one with its key. -/
def add (frame : Frame) (symbol : Symbol) : Frame :=
  ⟨insertOrdered symbol frame.symbols⟩

/-- The symbol with the given key. -/
def get? (frame : Frame) (name : String) (kind : SymbolKind) (storage : Storage) :
    Option Symbol :=
  frame.symbols.find? fun symbol =>
    symbol.name == name && symbol.kind == kind && symbol.storage == storage

/-- The first symbol with the given name and kind, whatever its storage. -/
def find? (frame : Frame) (name : String) (kind : SymbolKind) : Option Symbol :=
  Symbol.find? frame.symbols name kind

end Frame

/-! ## Annotations -/

/-- The symbol of a shader: its name and the symbols of its components, in order of declaration. -/
structure ShaderSymbol where
  name : String
  components : List Symbol
  deriving DecidableEq

namespace ShaderSymbol

/-- The first component with the given name and kind. -/
def find? (shader : ShaderSymbol) (name : String) (kind : SymbolKind) : Option Symbol :=
  Symbol.find? shader.components name kind

/-- The first component with the given name and kind, or a report that there is none. -/
def get (shader : ShaderSymbol) (name : String) (kind : SymbolKind) : Except Diagnostic Symbol :=
  match shader.find? name kind with
  | some symbol => .ok symbol
  | none => .error (.missingMember ("shader " ++ shader.name) name kind)

end ShaderSymbol

/-- The results of analysis by node, the latest first. -/
structure Annotations where
  types : List (NodeId × ShaderType)
  methods : List (NodeId × MethodInfo)
  shader : Option ShaderSymbol
  deriving DecidableEq

namespace Annotations

/-- No results. -/
def empty : Annotations :=
  ⟨[], [], none⟩

/-- The type of a node, if it has been found. -/
def type? (annotations : Annotations) (node : NodeId) : Option ShaderType :=
  annotations.types.lookup node

/-- What is known about a method. -/
def method? (annotations : Annotations) (node : NodeId) : Option MethodInfo :=
  annotations.methods.lookup node

/-- Records the type of a node. -/
def setType (annotations : Annotations) (node : NodeId) (type : ShaderType) : Annotations :=
  { annotations with types := (node, type) :: annotations.types }

/-- Records what is known about a method. -/
def setMethod (annotations : Annotations) (node : NodeId) (info : MethodInfo) : Annotations :=
  { annotations with methods := (node, info) :: annotations.methods }

/-- Records the symbol of the shader. -/
def setShader (annotations : Annotations) (shader : ShaderSymbol) : Annotations :=
  { annotations with shader := some shader }

end Annotations

/-! ## Tables -/

/-- The return type and the parameter types of a function. -/
structure Signature where
  returned : ShaderType
  parameters : List ShaderType
  deriving DecidableEq

/-- The function type with a signature. -/
def Signature.type (signature : Signature) : ShaderType :=
  .function signature.returned signature.parameters

/-- One overload of a method.  It has no signature until its registration is complete. -/
structure Overload where
  parameters : List Symbol
  signature : Option Signature
  deriving DecidableEq

/-- What analysis knows at one point of a shader. -/
structure SymbolTable where
  /-- The open frames, the innermost first. -/
  frames : List Frame
  /-- The declared types by name. -/
  declaredTypes : List (String × ShaderType)
  /-- The overloads by method name, the latest first. -/
  overloads : List (String × Overload)
  /-- Whether the latest overload is still being registered. -/
  registering : Bool
  annotations : Annotations
  deriving DecidableEq

namespace SymbolTable

/-- The table without any entry. -/
def empty : SymbolTable :=
  ⟨[], [], [], false, .empty⟩

/-! ### Frames -/

/-- The number of open frames. -/
def depth (table : SymbolTable) : Nat :=
  table.frames.length

/-- The innermost frame. -/
def currentFrame? (table : SymbolTable) : Option Frame :=
  table.frames.head?

/-- Opens a frame. -/
def push (table : SymbolTable) : SymbolTable :=
  { table with frames := .empty :: table.frames }

/-- Closes the innermost frame, and gives it. -/
def pop (table : SymbolTable) : Except Diagnostic (Frame × SymbolTable) :=
  match table.frames with
  | [] => .error .scopeUnderflow
  | frame :: rest => .ok (frame, { table with frames := rest })

/-- The table without its innermost frame. -/
def dropFrame (table : SymbolTable) : SymbolTable :=
  { table with frames := table.frames.tail }

/-- Declares a symbol in the innermost frame. -/
def declare (table : SymbolTable) (symbol : Symbol) : Except Diagnostic SymbolTable :=
  match table.frames with
  | [] => .error .noActiveScope
  | frame :: rest => .ok { table with frames := frame.add symbol :: rest }

/-- The innermost symbol with the given name and kind. -/
def lookup? (table : SymbolTable) (name : String) (kind : SymbolKind) : Option Symbol :=
  table.frames.findSome? fun frame => frame.find? name kind

/-! ### Types -/

/-- The declared type with the given name. -/
def declaredType? (table : SymbolTable) (name : String) : Option ShaderType :=
  table.declaredTypes.lookup name

/-- Declares a type, unless its name is taken. -/
def declareType (table : SymbolTable) (name : String) (type : ShaderType) : SymbolTable :=
  if (table.declaredType? name).isSome then
    table
  else
    { table with declaredTypes := (name, type) :: table.declaredTypes }

/-- The type with the given name: a numeric type, an object type or a declared type. -/
def resolveType? (table : SymbolTable) (name : String) : Option ShaderType :=
  (ShaderType.resolveNumeric? name).or <|
    (ShaderType.resolveObject? name).or (table.declaredType? name)

/-! ### Methods -/

/-- The overloads of a method name, in order of registration. -/
def overloadsOf (table : SymbolTable) (name : String) : List Overload :=
  (table.overloads.reverse.filter fun entry => entry.1 == name).map Prod.snd

/-- Starts the registration of an overload. -/
def registerFunction (table : SymbolTable) (name : String) : SymbolTable :=
  { table with
    overloads := (name, ⟨[], none⟩) :: table.overloads
    registering := true }

/-- The overload that is being registered. -/
def currentOverload? (table : SymbolTable) : Option Overload :=
  if table.registering then table.overloads.head?.map Prod.snd else none

/-- Adds a parameter to the overload that is being registered. -/
def addParameter (table : SymbolTable) (parameter : Symbol) : Except Diagnostic SymbolTable :=
  match table.registering, table.overloads with
  | true, (name, overload) :: rest =>
      .ok { table with
        overloads :=
          (name, { overload with parameters := overload.parameters ++ [parameter] }) :: rest }
  | _, _ => .error (.emission .parameterOutsideFunction)

/-- Gives the overload that is being registered its signature, and ends its registration. -/
def completeFunction (table : SymbolTable) (signature : Signature) :
    Except Diagnostic SymbolTable :=
  match table.registering, table.overloads with
  | true, (name, overload) :: rest =>
      .ok { table with
        overloads := (name, { overload with signature := some signature }) :: rest
        registering := false }
  | _, _ => .error (.emission .noFunctionRegistering)

/-! ### Annotations -/

/-- Records the type of a node. -/
def annotate (table : SymbolTable) (node : NodeId) (type : ShaderType) : SymbolTable :=
  { table with annotations := table.annotations.setType node type }

/-- Records what is known about a method. -/
def annotateMethod (table : SymbolTable) (node : NodeId) (info : MethodInfo) : SymbolTable :=
  { table with annotations := table.annotations.setMethod node info }

/-- Records the types of nodes, in order. -/
def annotateAll (table : SymbolTable) (notes : List (NodeId × ShaderType)) : SymbolTable :=
  notes.foldl (fun current note => current.annotate note.1 note.2) table

/-- Records the symbol of the shader. -/
def setShader (table : SymbolTable) (shader : ShaderSymbol) : SymbolTable :=
  { table with annotations := table.annotations.setShader shader }

end SymbolTable

end ShaderLang
