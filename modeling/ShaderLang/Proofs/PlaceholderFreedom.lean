import ShaderLang.Proofs.CompilationOutcome
import ShaderLang.Proofs.TableTypes
import ShaderLang.Proofs.TypeNaming

/-!
# Placeholders do not survive a clean analysis

A placeholder stands for a type that could not be found, and later checks accept it in silence.  So
that nothing is built on one, every placeholder has to come with a report: shaders that are checked
one after the other without a report leave a symbol table in which no type holds a placeholder, at
any depth.
-/

namespace ShaderLang

namespace ShaderType

/-- Whether a type is no placeholder. -/
def isDefined (type : ShaderType) : Bool :=
  !type.isUndefined

theorem isDefined_of_isValue {type : ShaderType} (value : type.isValue = true) :
    type.isDefined = true := by
  cases type with
  | undefined name => cases value
  | _ => rfl

/-- All that analysis makes types of, apart from placeholders, is defined. -/
theorem isDefined_suitsAnalysis (shader : Shader) (final : SymbolTable) :
    SuitsAnalysis shader final isDefined where
  undefined _ := rfl
  numeric _ numeric := isDefined_of_isValue (isValue_of_mem_numericTypes numeric)
  sampler kind := by cases kind <;> rfl
  array _ _ _ _ _ := rfl
  struct _ _ _ _ := rfl
  function _ _ _ _ := rfl
  shader _ := rfl

end ShaderType

/-- Shaders that are checked one after the other without a report keep a symbol table without
placeholders. -/
theorem Shader.typesPass_forEach {shaders : List Shader} {before after : SymbolTable}
    {result : Unit}
    (passes : (Check.forEach Shader.check shaders).Passes before result after)
    (passed : before.TypesPass ShaderType.isDefined) :
    after.TypesPass ShaderType.isDefined := by
  apply Check.forEach_invariant (fun _ table => table.TypesPass ShaderType.isDefined) passes passed
  intro done shader rest _ table table' earlier checks _
  exact Shader.typesPass_check (ShaderType.isDefined_suitsAnalysis shader table') checks earlier

/-- If no shader of a sequence is reported on, then no type of the symbol table holds a placeholder:
none of a symbol in a frame, of a declared name, of an overload, of a node or of a component. -/
theorem Shader.check_leavesNoPlaceholder {shaders : List Shader}
    (clean : (Check.forEach Shader.check shaders .empty).reports = []) :
    (Check.forEach Shader.check shaders .empty).table.TypesPass ShaderType.isDefined := by
  have passes := Check.passes_of_reports clean
  exact Shader.typesPass_forEach passes .empty

/-- Two shaders in turn: one with statements behind a return, and one with structs of arrays and
structs. -/
theorem Shader.unspecialized_lighting_leavesNoPlaceholder :
    (Check.forEach Shader.check [.unspecialized, .lighting "LightMap"] .empty).reports = [] ∧
    (Check.forEach Shader.check [.unspecialized, .lighting "LightMap"] .empty).table.TypesPass
      ShaderType.isDefined :=
  have clean :
      (Check.forEach Shader.check [.unspecialized, .lighting "LightMap"] .empty).reports = [] := by
    decide +kernel
  ⟨clean, Shader.check_leavesNoPlaceholder clean⟩

end ShaderLang
