import ShaderLang.Proofs.Nodes
import ShaderLang.Proofs.Steps

/-!
# What emission reads of the annotations

Emission reads the types of the nodes that stand in what it emits, and the states of methods.  So a
shader is emitted in the same way from any annotations that agree on its nodes.
-/

namespace ShaderLang

namespace Annotations

/-- Annotations that agree on the states of methods and on the types of some nodes. -/
structure AgreeOn (nodes : List NodeId) (first second : Annotations) : Prop where
  types : ∀ node ∈ nodes, first.type? node = second.type? node
  methods : ∀ node, first.method? node = second.method? node

namespace AgreeOn

variable {first second : Annotations} {nodes part : List NodeId} {node : NodeId}

theorem mono (agree : AgreeOn nodes first second) (within : part ⊆ nodes) :
    AgreeOn part first second :=
  ⟨fun node member => agree.types node (within member), agree.methods⟩

theorem left {others : List NodeId} (agree : AgreeOn (nodes ++ others) first second) :
    AgreeOn nodes first second :=
  agree.mono (List.subset_append_left _ _)

theorem right {others : List NodeId} (agree : AgreeOn (nodes ++ others) first second) :
    AgreeOn others first second :=
  agree.mono (List.subset_append_right _ _)

theorem tail (agree : AgreeOn (node :: nodes) first second) : AgreeOn nodes first second :=
  agree.mono (List.subset_cons_self _ _)

theorem ofItem {α : Type} {items : List α} {own : α → List NodeId}
    (agree : AgreeOn (items.flatMap own) first second) {item : α} (member : item ∈ items) :
    AgreeOn (own item) first second :=
  agree.mono fun _ present => List.mem_flatMap_of_mem member present

theorem require (agree : AgreeOn (node :: nodes) first second) (thing : TypedThing)
    (name : String) :
    first.require node thing name = second.require node thing name := by
  unfold Annotations.require
  rw [agree.types node List.mem_cons_self]

end AgreeOn

end Annotations

theorem Run.forM_congr {ε σ α : Type} {step step' : α → EStateM ε σ PUnit} {items : List α}
    (same : ∀ item ∈ items, step item = step' item) :
    items.forM step = items.forM step' := by
  induction items with
  | nil => rfl
  | cons item rest inductionHypothesis =>
      obtain ⟨itemSame, restSame⟩ := List.forall_mem_cons.mp same
      rw [forM_cons, forM_cons, itemSame, inductionHypothesis restSame]

/-- What is selected from the elements of a shader stands among them. -/
theorem Shader.mem_elements {α : Type} {shader : Shader} {item : α} {select : Element → Option α}
    (make : α → Element)
    (makes : ∀ element item, select element = some item → element = make item)
    (selected : item ∈ shader.elements.filterMap select) :
    make item ∈ shader.elements := by
  obtain ⟨element, member, found⟩ := List.mem_filterMap.mp selected
  exact makes element item found ▸ member

variable {first second : Annotations}

theorem Expression.emit_congr {expression : Expression}
    (agree : first.AgreeOn expression.nodes second) :
    expression.emit first = expression.emit second := by
  induction expression with
  | literal node location value => rfl
  | identifier node location name => rfl
  | stream node location name => rfl
  | binary node location operator left right leftHypothesis rightHypothesis =>
      unfold Expression.emit emitOperation
      rw [leftHypothesis agree.tail.left, rightHypothesis agree.tail.right,
        agree.types node List.mem_cons_self]

theorem Expression.emitOptional_congr {value : Option Expression}
    (agree : first.AgreeOn (Expression.optionalNodes value) second) :
    Expression.emitOptional first value = Expression.emitOptional second value := by
  unfold Expression.emitOptional
  cases value with
  | none => rfl
  | some expression =>
      dsimp only
      rw [Expression.emit_congr agree]

mutual

theorem Statement.emit_congr : ∀ {statement : Statement},
    first.AgreeOn statement.nodes second → statement.emit first = statement.emit second
  | .declare node location written name value, agree => by
      unfold Statement.emit emitDeclaration
      rw [agree.require, Expression.emitOptional_congr agree.tail.right]
  | .assign location target value, agree => by
      unfold Statement.emit
      rw [Expression.emit_congr agree.right]
  | .evaluate value, agree => by
      unfold Statement.emit
      rw [Expression.emit_congr agree]
  | .exit location value, agree => by
      unfold Statement.emit
      rw [Expression.emitOptional_congr agree]
  | .block location body, agree => by
      unfold Statement.emit
      rw [Statement.emitAll_congr agree]

theorem Statement.emitAll_congr : ∀ {body : List Statement},
    first.AgreeOn (Statement.allNodes body) second →
      Statement.emitAll first body = Statement.emitAll second body
  | [], _ => by
      unfold Statement.emitAll
      rfl
  | statement :: rest, agree => by
      unfold Statement.emitAll
      rw [Statement.emit_congr agree.left, Statement.emitAll_congr agree.right]

end

theorem Method.emit_congr {method : Method}
    (agree : first.AgreeOn (Element.method method).nodes second) :
    method.emit first = method.emit second := by
  have own := agree.left
  have sameParameters : (method.parameters.forM fun parameter => parameter.emit first) =
      method.parameters.forM fun parameter => parameter.emit second := by
    refine Run.forM_congr fun parameter member => ?_
    unfold Parameter.emit
    rw [(own.tail.left.right.ofItem member).require]
  have sameBody : Method.emitBody first method.body = Method.emitBody second method.body := by
    have inBody : first.AgreeOn method.bodyNodes second := own.tail.right
    unfold Method.bodyNodes at inBody
    unfold Method.emitBody
    cases present : method.body with
    | none => rfl
    | some body =>
        rw [present] at inBody
        dsimp only
        rw [Statement.emitAll_congr inBody]
  unfold Method.emit Method.checkedInfo Method.signature
  rw [own.types method.node List.mem_cons_self, agree.methods, sameBody, sameParameters]

/-- Emission reads the types of the nodes of a shader and the states of methods only. -/
theorem Shader.emit_congr {shader : Shader} (agree : first.AgreeOn shader.nodes second) :
    shader.emit first = shader.emit second := by
  have inElement : ∀ element ∈ shader.elements, first.AgreeOn element.nodes second :=
    fun _ member => agree.right.ofItem member
  have generics : ∀ generic ∈ shader.generics, generic.emit first = generic.emit second := by
    intro generic member
    unfold Generic.emit
    rw [(agree.left.ofItem member).require]
  have structs : ∀ struct ∈ shader.structs, struct.emit first = struct.emit second := by
    intro struct selected
    have member := mem_elements .struct
      (fun element _ found => by cases element <;> cases found; rfl) selected
    unfold Struct.emit
    rw [(inElement _ member).left.require]
  have members : ∀ declared ∈ shader.members, declared.emit first = declared.emit second := by
    intro declared selected
    have member := mem_elements .member
      (fun element _ found => by cases element <;> cases found; rfl) selected
    have own := (inElement _ member).left
    unfold Member.emit
    rw [own.require, Expression.emitOptional_congr own.tail.right]
  have samplers : ∀ sampler ∈ shader.samplers, sampler.emit first = sampler.emit second := by
    intro sampler selected
    have member := mem_elements .sampler
      (fun element _ found => by cases element <;> cases found; rfl) selected
    unfold Sampler.emit
    rw [(inElement _ member).left.require]
  have methods : ∀ method ∈ shader.methods, method.emit first = method.emit second := by
    intro method selected
    have member := mem_elements .method
      (fun element _ found => by cases element <;> cases found; rfl) selected
    exact Method.emit_congr (inElement _ member)
  unfold Shader.emit
  rw [Run.forM_congr generics, Run.forM_congr structs, Run.forM_congr members,
    Run.forM_congr samplers, Run.forM_congr methods]

end ShaderLang
