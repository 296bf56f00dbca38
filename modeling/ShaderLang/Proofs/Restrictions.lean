import ShaderLang.Proofs.Typing

/-!
# The restrictions of emission

A generic parameter has no value to read before specialization, and only variables can be assigned.
Analysis does not look for these faults.  They are found here by the scoping of names alone, in the
statements that are reached before the first return, in the order in which emission comes upon them.
-/

namespace ShaderLang

/-! ## Roles of names -/

/-- The roles of the names of a shader, the latest first. -/
def Shader.roles (shader : Shader) : List (String × Role) :=
  (shader.generics.map (fun generic => (Generic.name generic, Role.generic)) ++
    shader.members.map (fun member => (Member.name member, Role.variable)) ++
    shader.samplers.map (fun sampler => (Sampler.name sampler, Role.variable))).reverse

/-- The roles of the names that the body of a method starts with. -/
def Method.roles (method : Method) (shader : Shader) : NameTable Role :=
  ⟨[(method.parameters.map fun parameter => (Parameter.name parameter, Role.parameter)).reverse],
    shader.roles⟩

/-! ## Faults -/

namespace Expression

/-- The reads of generic parameters in an expression, operands from left to right. -/
def genericReads (roles : NameTable Role) : Expression → List EmissionFault
  | identifier _ _ name =>
      if roles.lookup? name = some .generic then [.genericRead name] else []
  | binary _ _ _ left right => left.genericReads roles ++ right.genericReads roles
  | literal .. | stream .. => []

/-- The reads of generic parameters in an expression that may be missing. -/
def optionalGenericReads (roles : NameTable Role) (value : Option Expression) :
    List EmissionFault :=
  value.elim [] (genericReads roles)

/-- What is wrong with the assignment to an expression. -/
def assignmentFaults (roles : NameTable Role) : Expression → List EmissionFault
  | identifier _ _ name =>
      match roles.lookup? name with
      | some .parameter => [.parameterAssigned name]
      | some .generic => [.genericAssigned name]
      | _ => []
  | literal .. | stream .. | binary .. => []

end Expression

namespace Statement

mutual

/-- Whether no statement behind a statement is reached: it returns, or it is a block of which a
statement does. -/
def stops : Statement → Bool
  | exit .. => true
  | block _ body => anyStops body
  | _ => false

/-- Whether one of some statements stops the others. -/
def anyStops : List Statement → Bool
  | [] => false
  | statement :: rest => statement.stops || anyStops rest

end

/-- The roles that the statement behind a statement sees. -/
def bindRole (roles : NameTable Role) : Statement → NameTable Role
  | declare _ _ _ name _ => roles.bind name .variable
  | _ => roles

mutual

/-- The faults of a statement.  The value of an assignment comes before its target. -/
def faults (roles : NameTable Role) : Statement → List EmissionFault
  | declare _ _ _ _ value => Expression.optionalGenericReads roles value
  | assign _ target value => value.genericReads roles ++ target.assignmentFaults roles
  | evaluate value => value.genericReads roles
  | exit _ value => Expression.optionalGenericReads roles value
  | block _ body => reachedFaults roles.push body

/-- The faults of statements, up to the first one that stops. -/
def reachedFaults (roles : NameTable Role) : List Statement → List EmissionFault
  | [] => []
  | statement :: rest =>
      statement.faults roles ++
        if statement.stops then [] else reachedFaults (statement.bindRole roles) rest

end

mutual

theorem stops_of_returns : ∀ (statement : Statement),
    statement.returns = true → statement.stops = true
  | exit .., _ => rfl
  | block _ body, ends => anyStops_of_endsWithReturn body ends
  | declare .., ends | assign .., ends | evaluate .., ends => by simp [returns] at ends

/-- Statements of which the last one returns stop. -/
theorem anyStops_of_endsWithReturn : ∀ (body : List Statement),
    endsWithReturn body = true → anyStops body = true
  | [], ends => by simp [endsWithReturn] at ends
  | statement :: rest, ends => by
      unfold endsWithReturn at ends
      unfold anyStops
      rw [Bool.or_eq_true]
      split at ends
      · exact .inl (stops_of_returns statement ends)
      · exact .inr (anyStops_of_endsWithReturn rest ends)

end

end Statement

/-- The faults of the body of a method, if it has one. -/
def Method.faults (method : Method) (shader : Shader) : List EmissionFault :=
  method.body.elim [] (Statement.reachedFaults (method.roles shader))

/-- The faults of a shader, method by method. -/
def Shader.faults (shader : Shader) : List EmissionFault :=
  shader.methods.flatMap fun method => method.faults shader

/-! ## There are three kinds of faults -/

/-- The faults that emission can find in a shader that analysis has no report about. -/
inductive EmissionFault.IsRestriction : EmissionFault → Prop
  | genericRead (name : String) : IsRestriction (.genericRead name)
  | parameterAssigned (name : String) : IsRestriction (.parameterAssigned name)
  | genericAssigned (name : String) : IsRestriction (.genericAssigned name)

theorem Expression.isRestriction_genericReads {roles : NameTable Role} {fault : EmissionFault}
    {expression : Expression}
    (member : fault ∈ expression.genericReads roles) :
    fault.IsRestriction := by
  induction expression with
  | literal node location value => simp [genericReads] at member
  | stream node location name => simp [genericReads] at member
  | identifier node location name =>
      unfold genericReads at member
      split at member
      · rw [List.mem_singleton.mp member]
        exact .genericRead name
      · simp at member
  | binary node location operator left right leftHypothesis rightHypothesis =>
      rcases List.mem_append.mp member with inLeft | inRight
      · exact leftHypothesis inLeft
      · exact rightHypothesis inRight

theorem Expression.isRestriction_optionalGenericReads {roles : NameTable Role}
    {fault : EmissionFault} {value : Option Expression}
    (member : fault ∈ Expression.optionalGenericReads roles value) :
    fault.IsRestriction := by
  cases value with
  | none => simp [optionalGenericReads] at member
  | some expression => exact Expression.isRestriction_genericReads member

theorem Expression.isRestriction_assignmentFaults {roles : NameTable Role}
    {fault : EmissionFault} {target : Expression}
    (member : fault ∈ target.assignmentFaults roles) :
    fault.IsRestriction := by
  cases target with
  | identifier node location name =>
      simp only [assignmentFaults] at member
      split at member
      · rw [List.mem_singleton.mp member]
        exact .parameterAssigned name
      · rw [List.mem_singleton.mp member]
        exact .genericAssigned name
      · simp at member
  | literal node location value => simp [assignmentFaults] at member
  | stream node location name => simp [assignmentFaults] at member
  | binary node location operator left right => simp [assignmentFaults] at member

mutual

theorem Statement.isRestriction_faults : ∀ (statement : Statement) (roles : NameTable Role),
    ∀ fault ∈ statement.faults roles, fault.IsRestriction
  | .declare .., _, _, member | .exit .., _, _, member =>
      Expression.isRestriction_optionalGenericReads member
  | .evaluate .., _, _, member => Expression.isRestriction_genericReads member
  | .assign _ target value, roles, fault, member => by
      rcases List.mem_append.mp member with inValue | inTarget
      · exact Expression.isRestriction_genericReads inValue
      · exact Expression.isRestriction_assignmentFaults inTarget
  | .block _ body, roles, fault, member =>
      Statement.isRestriction_reachedFaults body roles.push fault member

theorem Statement.isRestriction_reachedFaults : ∀ (body : List Statement)
    (roles : NameTable Role), ∀ fault ∈ Statement.reachedFaults roles body, fault.IsRestriction
  | [], _, fault, member => by simp [Statement.reachedFaults] at member
  | statement :: rest, roles, fault, member => by
      unfold Statement.reachedFaults at member
      rcases List.mem_append.mp member with here | later
      · exact Statement.isRestriction_faults statement roles fault here
      · split at later
        · simp at later
        · exact Statement.isRestriction_reachedFaults rest _ fault later

end

theorem Shader.isRestriction_faults {shader : Shader} {fault : EmissionFault}
    (member : fault ∈ shader.faults) :
    fault.IsRestriction := by
  obtain ⟨method, -, inMethod⟩ := List.mem_flatMap.mp member
  unfold Method.faults at inMethod
  cases body : method.body with
  | none => simp [body] at inMethod
  | some statements =>
      rw [body] at inMethod
      exact Statement.isRestriction_reachedFaults statements _ fault inMethod

end ShaderLang
