import Mathlib.Data.List.Perm.Subperm
import ShaderLang.Check.Shader

/-!
# The nodes of a shader

Every id that stands in a shader, those included that analysis never looks at.  Analysis visits a
shader kind by kind, so what it visits is a part of the nodes in another order.
-/

namespace ShaderLang

/-! ## The ids of each construct -/

/-- The ids of an expression and its parts. -/
def Expression.nodes : Expression → List NodeId
  | literal node .. | identifier node .. | stream node .. => [node]
  | binary node _ _ left right => node :: (left.nodes ++ right.nodes)

/-- The ids of an expression that may be missing. -/
def Expression.optionalNodes (value : Option Expression) : List NodeId :=
  value.elim [] Expression.nodes

/-- The ids of the array size of a written type. -/
def TypeName.nodes (written : TypeName) : List NodeId :=
  Expression.optionalNodes written.size

mutual

/-- The ids of a statement and its parts. -/
def Statement.nodes : Statement → List NodeId
  | .declare node _ written _ value =>
      node :: (written.nodes ++ Expression.optionalNodes value)
  | .assign _ target value => target.nodes ++ value.nodes
  | .evaluate value => value.nodes
  | .exit _ value => Expression.optionalNodes value
  | .block _ body => Statement.allNodes body

/-- The ids of statements. -/
def Statement.allNodes : List Statement → List NodeId
  | [] => []
  | statement :: rest => statement.nodes ++ Statement.allNodes rest

end

/-- The ids of the arguments of attributes. -/
def Attribute.allNodes (attributes : List Attribute) : List NodeId :=
  (attributes.flatMap Attribute.arguments).flatMap Expression.nodes

/-- The ids of a generic parameter. -/
def Generic.nodes (generic : Generic) : List NodeId :=
  generic.node :: generic.type.nodes

/-- The ids of a parameter. -/
def Parameter.nodes (parameter : Parameter) : List NodeId :=
  parameter.node :: parameter.type.nodes

/-- The ids of the body of a method, if it has one. -/
def Method.bodyNodes (method : Method) : List NodeId :=
  method.body.elim [] Statement.allNodes

namespace Element

/-- The ids of an element without those in its attributes. -/
def ownNodes : Element → List NodeId
  | member element =>
      element.node :: (element.type.nodes ++ Expression.optionalNodes element.value)
  | method element =>
      element.node :: (element.returned.nodes ++ element.parameters.flatMap Parameter.nodes ++
        element.bodyNodes)
  | struct element => element.node :: element.fields.flatMap fun field => field.type.nodes
  | sampler element => element.node :: element.settings.flatMap fun setting => setting.value.nodes
  | composition element => element.node :: element.generics.flatMap Expression.nodes

/-- The ids of an element. -/
def nodes (element : Element) : List NodeId :=
  element.ownNodes ++ Attribute.allNodes element.attributes

end Element

/-- Every id that stands in a shader. -/
def Shader.nodes (shader : Shader) : List NodeId :=
  shader.generics.flatMap Generic.nodes ++ shader.elements.flatMap Element.nodes

/-! ## The ids that analysis visits -/

/-- The ids of the value and of the declaration of a member. -/
def Member.visited (member : Member) : List NodeId :=
  Expression.optionalNodes member.value ++ [member.node]

/-- The ids of the declaration of a method. -/
def Method.visited (method : Method) : List NodeId :=
  method.parameters.map Parameter.node ++ [method.node]

/-- The ids that the declarations of a shader visit, kind by kind. -/
def Shader.visitedDeclarations (shader : Shader) : List NodeId :=
  shader.generics.map Generic.node ++ shader.structs.map Struct.node ++
    shader.members.flatMap Member.visited ++ shader.samplers.map Sampler.node ++
    shader.compositions.map Composition.node ++ shader.methods.flatMap Method.visited

/-- The ids that analysis visits: declarations, attributes, bodies. -/
def Shader.visited (shader : Shader) : List NodeId :=
  shader.visitedDeclarations ++ shader.attributeArguments.flatMap Expression.nodes ++
    shader.methods.flatMap Method.bodyNodes

theorem nodup_of_subperm {part whole : List NodeId} (within : part.Subperm whole)
    (distinct : whole.Nodup) :
    part.Nodup := by
  obtain ⟨arranged, same, ordered⟩ := within
  exact same.nodup_iff.mp (distinct.sublist ordered)

theorem flatMap_subperm {α : Type} {items : List α} {first second : α → List NodeId}
    (within : ∀ item ∈ items, (first item).Subperm (second item)) :
    (items.flatMap first).Subperm (items.flatMap second) := by
  induction items with
  | nil => exact List.Subperm.refl _
  | cons item rest inductionHypothesis =>
      rw [List.flatMap_cons, List.flatMap_cons]
      exact List.Subperm.append (within item List.mem_cons_self)
        (inductionHypothesis fun other member => within other (List.mem_cons_of_mem _ member))

namespace Element

/-- The ids of an element that analysis visits. -/
def visited (element : Element) : List NodeId :=
  match element with
  | struct element => [element.node]
  | member element => element.visited
  | sampler element => [element.node]
  | composition element => [element.node]
  | method element => element.visited ++ element.bodyNodes

theorem visited_subperm (element : Element) : element.visited.Subperm element.ownNodes := by
  cases element with
  | struct element => exact (List.Sublist.cons_cons _ (List.nil_sublist _)).subperm
  | sampler element => exact (List.Sublist.cons_cons _ (List.nil_sublist _)).subperm
  | composition element => exact (List.Sublist.cons_cons _ (List.nil_sublist _)).subperm
  | member element =>
      have valueFirst : element.visited.Perm
          (element.node :: Expression.optionalNodes element.value) :=
        List.perm_append_singleton _ _
      exact valueFirst.subperm.trans
        (List.Sublist.cons_cons _ (List.sublist_append_right _ _)).subperm
  | method element =>
      have parameters : (element.parameters.map Parameter.node).Subperm
          (element.parameters.flatMap Parameter.nodes) := by
        rw [List.map_eq_flatMap]
        exact flatMap_subperm fun parameter _ =>
          (List.Sublist.cons_cons _ (List.nil_sublist _)).subperm
      have nodeFirst : (element.visited ++ element.bodyNodes).Perm
          (element.node :: (element.parameters.map Parameter.node ++ element.bodyNodes)) :=
        (List.perm_append_singleton _ _).append_right _
      refine nodeFirst.subperm.trans ?_
      refine (List.subperm_cons _).mpr ?_
      rw [List.append_assoc]
      exact (List.Subperm.append parameters (List.Subperm.refl _)).trans
        (List.sublist_append_right _ _).subperm

end Element

/-- Analysis visits the elements of a shader kind by kind. -/
theorem Shader.visited_perm (shader : Shader) :
    shader.visited.Perm (shader.generics.map Generic.node ++
      shader.elements.flatMap fun element =>
        element.visited ++ Attribute.allNodes element.attributes) := by
  rw [List.perm_iff_count]
  intro node
  unfold visited visitedDeclarations structs members samplers compositions methods
    attributeArguments
  -- Each element counts on both sides for what it is.
  induction shader.elements with
  | nil => simp
  | cons element rest inductionHypothesis =>
      cases element <;>
        simp [List.count_append, Element.visited, Attribute.allNodes, Element.attributes,
          List.count_cons] at inductionHypothesis ⊢ <;>
        omega

/-- What analysis visits stands in the shader. -/
theorem Shader.visited_subperm (shader : Shader) : shader.visited.Subperm shader.nodes := by
  have generics : (shader.generics.map Generic.node).Subperm
      (shader.generics.flatMap Generic.nodes) := by
    rw [List.map_eq_flatMap]
    exact flatMap_subperm fun generic _ => (List.Sublist.cons_cons _ (List.nil_sublist _)).subperm
  refine shader.visited_perm.subperm.trans
    (List.Subperm.append generics (flatMap_subperm fun element _ => ?_))
  exact List.Subperm.append element.visited_subperm (List.Subperm.refl _)

end ShaderLang
