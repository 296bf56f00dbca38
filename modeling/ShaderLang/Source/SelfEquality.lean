import ShaderLang.Source.Shader

/-!
# Equality of shaders with themselves

Float literals are compared as numbers, and what is no number differs even from itself.  So a
shader is equal to itself exactly when none of its expressions holds such a literal.
-/

namespace ShaderLang

/-- Whether an expression is equal to itself: no literal in it is a float that is no number. -/
def Expression.equalsItself : Expression → Bool
  | literal _ _ (.float value) => !value.isNaN
  | literal .. | identifier .. | stream .. => true
  | binary _ _ _ left right => left.equalsItself && right.equalsItself

/-- The array size of a written type, if it has one. -/
def TypeName.expressions (type : TypeName) : List Expression :=
  type.size.toList

mutual

/-- The expressions of a statement. -/
def Statement.expressions : Statement → List Expression
  | .declare _ _ type _ value => type.expressions ++ value.toList
  | .assign _ target value => [target, value]
  | .evaluate value => [value]
  | .exit _ value => value.toList
  | .block _ body => Statement.allExpressions body

/-- The expressions of some statements. -/
def Statement.allExpressions : List Statement → List Expression
  | [] => []
  | statement :: rest => statement.expressions ++ Statement.allExpressions rest

end

/-- The expressions of an element without its attributes. -/
def Element.ownExpressions : Element → List Expression
  | member element => element.type.expressions ++ element.value.toList
  | method element =>
      element.returned.expressions ++
        element.parameters.flatMap (fun parameter => parameter.type.expressions) ++
        Statement.allExpressions (element.body.getD [])
  | struct element => element.fields.flatMap fun field => field.type.expressions
  | sampler element => element.settings.map SamplerSetting.value
  | composition element => element.generics

/-- The expressions of an element. -/
def Element.expressions (element : Element) : List Expression :=
  element.ownExpressions ++ element.attributes.flatMap Attribute.arguments

/-- Whether a shader is equal to itself. -/
def Shader.equalsItself (shader : Shader) : Bool :=
  (shader.generics.flatMap (fun generic => generic.type.expressions) ++
    shader.elements.flatMap Element.expressions).all Expression.equalsItself

end ShaderLang
