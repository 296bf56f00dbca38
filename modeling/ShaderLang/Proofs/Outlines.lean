import ShaderLang.Proofs.Execution
import ShaderLang.Proofs.EmissionGrowth

/-!
# Outlines of emitted code

How the outline of a module grows with the code that is emitted: declarations do not change it, the
members and the sampler states add a variable each, and a method adds the body of its function.
-/

namespace ShaderLang

open Instruction

/-! ## Whole functions -/

namespace Outline

variable {code new : List Instruction} {outline : Outline}

theorem ofCode_append (code new : List Instruction) :
    ofCode (code ++ new) = new.foldl after (ofCode code) :=
  List.foldl_append ..

/-- Declarations outside of functions do not change an outline. -/
theorem foldl_declarations (outside : outline.current = none)
    (declares : ∀ instruction ∈ new, instruction.isDeclaration = true) :
    new.foldl after outline = outline := by
  induction new with
  | nil => rfl
  | cons instruction rest inductionHypothesis =>
      have isDeclaration := declares instruction List.mem_cons_self
      have same : outline.after instruction = outline := by
        unfold after
        rw [outside]
        cases instruction <;> cases isDeclaration <;> rfl
      rw [List.foldl_cons, same]
      exact inductionHypothesis fun other member => declares other (List.mem_cons_of_mem _ member)

/-- The instructions of a function are collected. -/
theorem foldl_plain {body : List Instruction} (inside : outline.current = some body)
    (plain : ∀ instruction ∈ new, instruction.isBoundary = false) :
    new.foldl after outline = { outline with current := some (body ++ new) } := by
  induction new generalizing outline body with
  | nil =>
      rw [List.append_nil, ← inside]
      rfl
  | cons instruction rest inductionHypothesis =>
      have notEnd : instruction ≠ .functionEnd := by
        rintro rfl
        exact absurd (plain _ List.mem_cons_self) (by simp [isBoundary])
      have next : outline.after instruction =
          { outline with current := some (body ++ [instruction]) } := by
        unfold after
        rw [inside]
        exact if_neg notEnd
      rw [List.foldl_cons, next, inductionHypothesis rfl fun other member =>
        plain other (List.mem_cons_of_mem _ member)]
      simp

/-- A whole function adds its body. -/
theorem foldl_function {id returned functionType : ResultId} {inner : List Instruction}
    (outside : outline.current = none) (name : String) (entryPoint : Option EntryPoint)
    (plain : ∀ instruction ∈ inner, instruction.isBoundary = false) :
    (entryPointCode id name entryPoint ++ Instruction.uncontrolled id returned functionType ::
      (inner ++ [Instruction.functionEnd])).foldl after outline =
      { outline with bodies := outline.bodies ++ [inner] } := by
  have entry : (entryPointCode id name entryPoint).foldl after outline = outline := by
    cases entryPoint with
    | none => rfl
    | some stage =>
        change outline.after _ = outline
        unfold after
        rw [outside]
  have start : outline.after (.uncontrolled id returned functionType) =
      { outline with current := some [] } := by
    unfold after uncontrolled
    rw [outside]
  rw [List.foldl_append, entry, List.foldl_cons, start, List.foldl_append,
    foldl_plain rfl plain, List.nil_append]
  simp [after, outside]

end Outline

/-! ## Code outside of functions -/

namespace ModuleBuilder

variable {builder before middle after : ModuleBuilder}

/-- What a builder adds outside of functions does not change the outline. -/
def KeepsOutline (before after : ModuleBuilder) : Prop :=
  (Outline.ofCode before.code).current = none →
    Outline.ofCode after.code = Outline.ofCode before.code

namespace KeepsOutline

theorem trans (front : before.KeepsOutline middle) (back : middle.KeepsOutline after) :
    before.KeepsOutline after := by
  intro outside
  have same := front outside
  rw [← same] at outside
  exact (back outside).trans same

theorem declarations {new : List Instruction} (code : after.code = before.code ++ new)
    (declares : ∀ instruction ∈ new, instruction.isDeclaration = true) :
    before.KeepsOutline after := by
  intro outside
  rw [code, Outline.ofCode_append]
  exact Outline.foldl_declarations outside declares

theorem register {type : ShaderType} {id : ResultId}
    (registers : (Build.register type).run before = .ok id after) :
    before.KeepsOutline after := by
  obtain ⟨new, code, declares⟩ := (Build.register_reaches type registers).1.appends
  exact declarations code declares

theorem addName (builder : ModuleBuilder) (id : ResultId) (name : String) :
    builder.KeepsOutline (builder.addName id name) := by
  unfold ModuleBuilder.addName
  split
  · exact declarations rfl (by simp [Instruction.isDeclaration])
  · exact fun _ => rfl

theorem addOptionalSemantic (builder : ModuleBuilder) (id : ResultId)
    (semantic : Option String) :
    builder.KeepsOutline (builder.addOptionalSemantic id semantic) := by
  cases semantic with
  | none => exact fun _ => rfl
  | some text => exact declarations rfl (by simp [Instruction.isDeclaration])

theorem storeOptional (builder : ModuleBuilder) (cell : ResultId) (value : Option ResultId) :
    builder.KeepsOutline (builder.storeOptional cell value) := by
  cases value with
  | none => exact fun _ => rfl
  | some id =>
      intro outside
      change Outline.ofCode (builder.code ++ [.store cell id]) = _
      rw [Outline.ofCode_append]
      simp only [List.foldl_cons, List.foldl_nil, Outline.after, outside]

/-- The value of a member is a constant, which is a declaration. -/
theorem literal {annotations : Annotations} {functions : FunctionBuilder}
    {value : Option Expression} {id : Option ResultId}
    (emits : Expression.EmitsOptional annotations functions value before id after)
    (literals : ∀ expression ∈ value, ∃ node location literal,
      expression = .literal node location literal) :
    before.KeepsOutline after := by
  cases emits with
  | none => exact fun _ => rfl
  | some emits =>
      obtain ⟨node, location, literal, rfl⟩ := literals _ rfl
      cases emits with
      | literal registers =>
          obtain ⟨new, code, declares⟩ := (Build.registerConstant_reaches registers).1.appends
          exact declarations code declares
      | value bound => simp [Expression.resolve?] at bound
      | load bound registers => simp [Expression.resolve?] at bound

end KeepsOutline

/-- What a builder adds outside of functions is one variable. -/
theorem outline_cell {typeId : ResultId} {storage : StorageClass}
    (front : before.KeepsOutline builder)
    (back : (builder.defined fun result => .cell result typeId storage).KeepsOutline after)
    (outside : (Outline.ofCode before.code).current = none) :
    Outline.ofCode after.code =
      { Outline.ofCode before.code with
        shared := (Outline.ofCode before.code).shared ++ [builder.bound] } := by
  have same := front outside
  have added : Outline.ofCode (builder.defined fun result => .cell result typeId storage).code =
      { Outline.ofCode before.code with
        shared := (Outline.ofCode before.code).shared ++ [builder.bound] } := by
    change Outline.ofCode (builder.code ++ [.cell builder.bound typeId storage]) = _
    rw [Outline.ofCode_append, same]
    simp only [List.foldl_cons, List.foldl_nil, Outline.after, outside]
  rw [← added]
  exact back (by rw [added]; exact outside)

/-- What a builder adds outside of functions is one function. -/
theorem outline_function {closed : ModuleBuilder} {returned functionType : ResultId}
    {inner : List Instruction} (name : String) (entryPoint : Option EntryPoint)
    (front : before.KeepsOutline builder)
    (code : closed.code =
      (builder.withFunction name entryPoint returned functionType).code ++ inner)
    (plain : ∀ instruction ∈ inner, instruction.isBoundary = false)
    (outside : (Outline.ofCode before.code).current = none) :
    Outline.ofCode (closed.append .functionEnd).code =
      { Outline.ofCode before.code with
        bodies := (Outline.ofCode before.code).bodies ++ [inner] } := by
  have whole : (closed.append .functionEnd).code =
      builder.code ++ (entryPointCode builder.bound name entryPoint ++
        .uncontrolled builder.bound returned functionType :: (inner ++ [.functionEnd])) := by
    unfold append
    rw [code]
    simp [withFunction]
  rw [whole, Outline.ofCode_append, front outside]
  exact Outline.foldl_function outside name entryPoint plain

end ModuleBuilder

end ShaderLang
