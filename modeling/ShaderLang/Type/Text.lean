import ShaderLang.Type.Basic

/-!
# The two texts of a type

The canonical id of a type is a compact token that names it in a module.  The description of a type
is what messages show.
-/

namespace ShaderLang.ShaderType

/-! ## Canonical ids -/

mutual

/-- The canonical id of a type. -/
def canonicalId : ShaderType → String
  | undefined name => name
  | pointer base => "ptr_" ++ canonicalId base
  | scalar element => element.name
  | vector shape => shape.text
  | matrix shape => shape.text
  | array base size => canonicalId base ++ "[" ++ toString size ++ "]"
  | struct name _ => name
  | buffer base size => "Buffer<" ++ canonicalId base ++ ", " ++ toString size ++ ">"
  | texture1D base size => "Texture<" ++ canonicalId base ++ ", " ++ toString size ++ ">"
  | texture2D base width height =>
      "Texture<" ++ canonicalId base ++ ", " ++ toString width ++ ", " ++ toString height ++ ">"
  | texture3D base width height depth =>
      "Texture<" ++ canonicalId base ++ ", " ++ toString width ++ ", " ++ toString height ++
        ", " ++ toString depth ++ ">"
  | function returned parameters =>
      "fn_" ++ canonicalIds parameters ++ canonicalId returned
  | sampler => "SamplerState"
  | comparisonSampler => "SamplerComparisonState"
  | streams => "streams"
  | group kind name _ => kind.name ++ "_" ++ name
  | shader name _ => "shader_" ++ name

/-- The canonical ids of parameter types, each with an underscore behind it. -/
def canonicalIds : List ShaderType → String
  | [] => ""
  | type :: rest => canonicalId type ++ "_" ++ canonicalIds rest

end

/-! ## Descriptions -/

mutual

/-- The description of a type. -/
def text : ShaderType → String
  | undefined name => name
  | pointer base => "*" ++ text base
  | scalar element => element.name
  | vector shape => shape.text
  | matrix shape => shape.text
  | array base size => text base ++ "[" ++ toString size ++ "]"
  | struct name fields => name ++ "\x7b" ++ ", ".intercalate (fieldTexts fields) ++ "\x7d"
  | buffer base size => "Buffer<" ++ text base ++ ", " ++ toString size ++ ">"
  | texture1D base size => "Texture<" ++ text base ++ ", " ++ toString size ++ ">"
  | texture2D base width height =>
      "Texture<" ++ text base ++ ", " ++ toString width ++ ", " ++ toString height ++ ">"
  | texture3D base width height depth =>
      "Texture<" ++ text base ++ ", " ++ toString width ++ ", " ++ toString height ++
        ", " ++ toString depth ++ ">"
  | function returned parameters =>
      "fn(" ++ "*".intercalate (texts parameters) ++ ")->" ++ text returned
  | sampler => "SamplerState"
  | comparisonSampler => "SamplerComparisonState"
  | streams => "Streams"
  | group kind name _ => kind.name ++ " " ++ name
  | shader name _ => "shader " ++ name

/-- The descriptions of types. -/
def texts : List ShaderType → List String
  | [] => []
  | type :: rest => text type :: texts rest

/-- The description of a field. -/
def fieldText : Field → String
  | ⟨name, type⟩ => text type ++ " " ++ name

/-- The descriptions of fields. -/
def fieldTexts : List Field → List String
  | [] => []
  | field :: rest => fieldText field :: fieldTexts rest

end

end ShaderLang.ShaderType
