import ShaderLang.Proofs.LocalChecks

/-!
# Each fault of an expression is reported once

An expression with a fault has a placeholder for a type, and what is made of it is accepted in
silence.  The typing rules here know no placeholder: they say which expressions have a type and
which are ill-typed.  Typing reports exactly the ill-typed parts whose operands have types, and the
literals out of range, in the order in which it comes upon them.
-/

namespace ShaderLang

/-! ## What an expression can refer to -/

namespace SymbolTable

/-- The first component of the shader that is a variable of the given name. -/
def component? (table : SymbolTable) (name : String) : Option Symbol :=
  table.annotations.shader.bind fun shader => shader.find? name .binding

/-- The stream of the given name: the first variable of that name, if it is a stream. -/
def stream? (table : SymbolTable) (name : String) : Option Symbol :=
  (table.component? name).filter fun symbol => symbol.storage = .stream

theorem stream?_eq_some_iff {table : SymbolTable} {name : String} {symbol : Symbol} :
    table.stream? name = some symbol ↔
      table.component? name = some symbol ∧ symbol.storage = .stream := by
  simp [stream?, Option.filter_eq_some_iff]

theorem stream?_eq_none_iff {table : SymbolTable} {name : String} :
    table.stream? name = none ↔
      ∀ symbol, table.component? name = some symbol → symbol.storage ≠ .stream := by
  simp [stream?]

/-- No visible variable and no component of the shader has a placeholder for a type. -/
structure ShowsDefined (table : SymbolTable) : Prop where
  visible : ∀ name symbol, table.lookup? name .binding = some symbol →
    symbol.type.isUndefined = false
  components : ∀ shader, table.annotations.shader = some shader →
    ∀ symbol ∈ shader.components, symbol.type.isUndefined = false

theorem ShowsDefined.component {table : SymbolTable} (defined : table.ShowsDefined) {name : String}
    {symbol : Symbol} (found : table.component? name = some symbol) :
    symbol.type.isUndefined = false := by
  obtain ⟨shader, known, found⟩ := Option.bind_eq_some_iff.mp found
  exact defined.components shader known symbol (List.mem_of_find?_eq_some found)

end SymbolTable

theorem streamType_some (table : SymbolTable) (stage : EntryPoint) (name : String)
    (location : Location) :
    streamType table (some stage) name location =
      match table.stream? name with
      | some symbol => (symbol.type, [])
      | none => (faultyType, [.missingMember "streams" name .binding]) :=
  rfl

/-- A literal that has no exact value in its type. -/
def Literal.OutOfRange : Literal → Prop
  | bool _ => False
  | int value => value < -2147483648 ∨ 2147483647 < value
  | float value => value.isFinite = false

instance (value : Literal) : Decidable value.OutOfRange :=
  match value with
  | .bool _ => inferInstanceAs (Decidable False)
  | .int value => inferInstanceAs (Decidable (value < -2147483648 ∨ 2147483647 < value))
  | .float value => inferInstanceAs (Decidable (value.isFinite = false))

theorem Literal.excess?_eq_none_iff (value : Literal) :
    value.excess? = none ↔ ¬value.OutOfRange := by
  cases value with
  | bool value => simp [Literal.excess?, Literal.OutOfRange]
  | int value =>
      simp only [Literal.excess?, Literal.OutOfRange, ite_eq_left_iff, reduceCtorEq, imp_false]
      omega
  | float value => simp [Literal.excess?, Literal.OutOfRange]

namespace Expression

variable {table : SymbolTable} {entryPoint : Option EntryPoint}

/-! ## Typing without placeholders -/

/-- An expression has a type. -/
inductive HasTypeIn (table : SymbolTable) (entryPoint : Option EntryPoint) :
    Expression → ShaderType → Prop
  | literal {node : NodeId} {location : Location} {value : Literal} :
      HasTypeIn table entryPoint (.literal node location value) value.type
  | identifier {node : NodeId} {location : Location} {name : String} {symbol : Symbol}
      (visible : table.lookup? name .binding = some symbol) :
      HasTypeIn table entryPoint (.identifier node location name) symbol.type
  | stream {node : NodeId} {location : Location} {name : String} {symbol : Symbol}
      (inside : entryPoint ≠ none)
      (found : table.component? name = some symbol)
      (passed : symbol.storage = .stream) :
      HasTypeIn table entryPoint (.stream node location name) symbol.type
  | binary {node : NodeId} {location : Location} {operator : Operator} {left right : Expression}
      {type : ShaderType}
      (leftTyped : HasTypeIn table entryPoint left type)
      (rightTyped : HasTypeIn table entryPoint right type)
      (numeric : type.isNumeric = true) :
      HasTypeIn table entryPoint (.binary node location operator left right) type

/-- An expression has no type. -/
inductive IllTyped (table : SymbolTable) (entryPoint : Option EntryPoint) : Expression → Prop
  | unbound {node : NodeId} {location : Location} {name : String}
      (hidden : table.lookup? name .binding = none) :
      IllTyped table entryPoint (.identifier node location name)
  | outside {node : NodeId} {location : Location} {name : String}
      (outside : entryPoint = none) :
      IllTyped table entryPoint (.stream node location name)
  | notPassed {node : NodeId} {location : Location} {name : String}
      (absent : ∀ symbol, table.component? name = some symbol → symbol.storage ≠ .stream) :
      IllTyped table entryPoint (.stream node location name)
  | left {node : NodeId} {location : Location} {operator : Operator} {left right : Expression}
      (illTyped : IllTyped table entryPoint left) :
      IllTyped table entryPoint (.binary node location operator left right)
  | right {node : NodeId} {location : Location} {operator : Operator} {left right : Expression}
      (illTyped : IllTyped table entryPoint right) :
      IllTyped table entryPoint (.binary node location operator left right)
  | notNumeric {node : NodeId} {location : Location} {operator : Operator}
      {left right : Expression} {type : ShaderType}
      (leftTyped : HasTypeIn table entryPoint left type)
      (notNumeric : type.isNumeric = false) :
      IllTyped table entryPoint (.binary node location operator left right)
  | mismatch {node : NodeId} {location : Location} {operator : Operator}
      {left right : Expression} {leftType rightType : ShaderType}
      (leftTyped : HasTypeIn table entryPoint left leftType)
      (rightTyped : HasTypeIn table entryPoint right rightType)
      (different : leftType ≠ rightType) :
      IllTyped table entryPoint (.binary node location operator left right)

/-- The type of an expression, if it has one. -/
def typeIn? (table : SymbolTable) (entryPoint : Option EntryPoint) : Expression → Option ShaderType
  | literal _ _ value => some value.type
  | identifier _ _ name => (table.lookup? name .binding).map Symbol.type
  | stream _ _ name =>
      if entryPoint = none then
        none
      else
        (table.stream? name).map Symbol.type
  | binary _ _ _ left right =>
      match left.typeIn? table entryPoint, right.typeIn? table entryPoint with
      | some leftType, some rightType =>
          if leftType.isNumeric = true ∧ leftType = rightType then some leftType else none
      | _, _ => none

theorem typeIn?_of_hasTypeIn {expression : Expression} {type : ShaderType}
    (typed : expression.HasTypeIn table entryPoint type) :
    expression.typeIn? table entryPoint = some type := by
  induction typed with
  | literal => rfl
  | identifier visible => simp [typeIn?, visible]
  | stream inside found passed =>
      simp [typeIn?, inside, SymbolTable.stream?_eq_some_iff.mpr ⟨found, passed⟩]
  | binary leftTyped rightTyped numeric leftHypothesis rightHypothesis =>
      simp [typeIn?, leftHypothesis, rightHypothesis, numeric]

theorem typeIn?_of_illTyped {expression : Expression}
    (illTyped : expression.IllTyped table entryPoint) :
    expression.typeIn? table entryPoint = none := by
  induction illTyped with
  | unbound hidden => simp [typeIn?, hidden]
  | outside outside => simp [typeIn?, outside]
  | notPassed absent => simp [typeIn?, SymbolTable.stream?_eq_none_iff.mpr absent]
  | left illTyped inductionHypothesis => simp [typeIn?, inductionHypothesis]
  | right illTyped inductionHypothesis => simp [typeIn?, inductionHypothesis]
  | notNumeric leftTyped notNumeric =>
      rw [typeIn?, typeIn?_of_hasTypeIn leftTyped]
      split <;> simp_all
  | mismatch leftTyped rightTyped different =>
      simp [typeIn?, typeIn?_of_hasTypeIn leftTyped, typeIn?_of_hasTypeIn rightTyped, different]

/-- Every expression has a type or is ill-typed. -/
theorem hasTypeIn_or_illTyped (table : SymbolTable) (entryPoint : Option EntryPoint)
    (expression : Expression) :
    (∃ type, expression.HasTypeIn table entryPoint type) ∨
      expression.IllTyped table entryPoint := by
  induction expression with
  | literal node location value => exact .inl ⟨_, .literal⟩
  | identifier node location name =>
      cases visible : table.lookup? name .binding with
      | none => exact .inr (.unbound visible)
      | some symbol => exact .inl ⟨_, .identifier visible⟩
  | stream node location name =>
      by_cases outside : entryPoint = none
      · exact .inr (.outside outside)
      · by_cases found : ∃ symbol, table.component? name = some symbol ∧ symbol.storage = .stream
        · obtain ⟨symbol, found, passed⟩ := found
          exact .inl ⟨_, .stream outside found passed⟩
        · exact .inr (.notPassed fun symbol present passed => found ⟨symbol, present, passed⟩)
  | binary node location operator left right leftHypothesis rightHypothesis =>
      rcases leftHypothesis with ⟨leftType, leftTyped⟩ | leftIll
      · rcases rightHypothesis with ⟨rightType, rightTyped⟩ | rightIll
        · by_cases same : leftType = rightType
          · subst same
            cases numeric : leftType.isNumeric with
            | true => exact .inl ⟨_, .binary leftTyped rightTyped numeric⟩
            | false => exact .inr (.notNumeric leftTyped numeric)
          · exact .inr (.mismatch leftTyped rightTyped same)
        · exact .inr (.right rightIll)
      · exact .inr (.left leftIll)

theorem illTyped_iff {expression : Expression} :
    expression.IllTyped table entryPoint ↔ expression.typeIn? table entryPoint = none := by
  refine ⟨typeIn?_of_illTyped, fun absent => ?_⟩
  rcases expression.hasTypeIn_or_illTyped table entryPoint with ⟨other, typed⟩ | illTyped
  · rw [typeIn?_of_hasTypeIn typed] at absent
    cases absent
  · exact illTyped

instance (expression : Expression) : Decidable (expression.IllTyped table entryPoint) :=
  decidable_of_iff _ illTyped_iff.symm

/-! ## Parts with a fault of their own -/

/-- An expression and its parts, from left to right and operands before operations. -/
def parts : Expression → List Expression
  | literal node location value => [.literal node location value]
  | identifier node location name => [.identifier node location name]
  | stream node location name => [.stream node location name]
  | binary node location operator left right =>
      left.parts ++ right.parts ++ [.binary node location operator left right]

/-- The operands of an operation. -/
def operands : Expression → List Expression
  | binary _ _ _ left right => [left, right]
  | literal .. | identifier .. | stream .. => []

/-- Whether an expression is a literal out of range. -/
def IsExcess : Expression → Prop
  | literal _ _ value => value.OutOfRange
  | identifier .. | stream .. | binary .. => False

instance (expression : Expression) : Decidable expression.IsExcess :=
  match expression with
  | .literal _ _ value => inferInstanceAs (Decidable value.OutOfRange)
  | .identifier .. | .stream .. | .binary .. => inferInstanceAs (Decidable False)

/-- An expression has a fault of its own: it is ill-typed but its operands are not, or it is a
literal out of range. -/
def IsFault (table : SymbolTable) (entryPoint : Option EntryPoint) (expression : Expression) :
    Prop :=
  (expression.IllTyped table entryPoint ∧
    ∀ operand ∈ expression.operands, ¬operand.IllTyped table entryPoint) ∨ expression.IsExcess

instance (expression : Expression) : Decidable (expression.IsFault table entryPoint) :=
  inferInstanceAs (Decidable ((_ ∧ _) ∨ _))

/-- A diagnostic tells what the fault of an expression is. -/
inductive Blames (table : SymbolTable) (entryPoint : Option EntryPoint) :
    Expression → Diagnostic → Prop
  | excess {node : NodeId} {location : Location} {value : Literal} {text : String}
      (written : value.excess? = some text) :
      Blames table entryPoint (.literal node location value)
        (.literalOutOfRange text value.type location)
  | unbound {node : NodeId} {location : Location} {name : String} :
      Blames table entryPoint (.identifier node location name) (.undefinedVariable name location)
  | outside {node : NodeId} {location : Location} {name : String}
      (outside : entryPoint = none) :
      Blames table entryPoint (.stream node location name)
        (.streamsOutsideEntryPoint name location)
  | notPassed {node : NodeId} {location : Location} {name : String}
      (inside : entryPoint ≠ none) :
      Blames table entryPoint (.stream node location name)
        (.missingMember "streams" name .binding)
  | notNumeric {node : NodeId} {location : Location} {operator : Operator}
      {left right : Expression} {type : ShaderType}
      (leftTyped : HasTypeIn table entryPoint left type)
      (notNumeric : type.isNumeric = false) :
      Blames table entryPoint (.binary node location operator left right)
        (.invalidOperand operator type location)
  | mismatch {node : NodeId} {location : Location} {operator : Operator}
      {left right : Expression} {leftType rightType : ShaderType}
      (leftTyped : HasTypeIn table entryPoint left leftType)
      (rightTyped : HasTypeIn table entryPoint right rightType)
      (numeric : leftType.isNumeric = true) :
      Blames table entryPoint (.binary node location operator left right)
        (.typeMismatch leftType rightType right.location)

/-- The parts of an expression that have a fault of their own. -/
def faultyParts (table : SymbolTable) (entryPoint : Option EntryPoint) (expression : Expression) :
    List Expression :=
  expression.parts.filter fun part => part.IsFault table entryPoint

/-! ## What typing finds -/

theorem HasTypeIn.isUndefined_eq_false (defined : table.ShowsDefined) {expression : Expression}
    {type : ShaderType} (typed : expression.HasTypeIn table entryPoint type) :
    type.isUndefined = false := by
  induction typed with
  | @literal node location value => cases value <;> rfl
  | identifier visible => exact defined.visible _ _ visible
  | stream inside found passed => exact defined.component found
  | binary leftTyped rightTyped numeric leftHypothesis rightHypothesis => exact leftHypothesis

theorem HasTypeIn.typing_type (defined : table.ShowsDefined) {expression : Expression}
    {type : ShaderType} (typed : expression.HasTypeIn table entryPoint type) :
    (expression.typing table entryPoint).type = type := by
  induction typed with
  | literal => rfl
  | identifier visible => simp [typing, identifierType, visible]
  | @stream node location name symbol inside found passed =>
      obtain ⟨stage, rfl⟩ := Option.ne_none_iff_exists'.mp inside
      simp [typing, streamType_some, SymbolTable.stream?_eq_some_iff.mpr ⟨found, passed⟩]
  | binary leftTyped rightTyped numeric leftHypothesis rightHypothesis =>
      simp [typing, operationType, leftHypothesis, rightHypothesis, numeric,
        leftTyped.isUndefined_eq_false defined]

theorem IllTyped.typing_type (defined : table.ShowsDefined) {expression : Expression}
    (illTyped : expression.IllTyped table entryPoint) :
    (expression.typing table entryPoint).type = faultyType := by
  induction illTyped with
  | unbound hidden => simp [typing, identifierType, hidden]
  | outside outside => simp [typing, streamType, outside]
  | @notPassed node location name absent =>
      cases entryPoint with
      | none => rfl
      | some stage =>
          simp [typing, streamType_some, SymbolTable.stream?_eq_none_iff.mpr absent]
  | left illTyped inductionHypothesis =>
      simp [typing, operationType, inductionHypothesis, faultyType, ShaderType.isUndefined]
  | right illTyped inductionHypothesis =>
      simp [typing, operationType, inductionHypothesis, faultyType, ShaderType.isUndefined]
  | notNumeric leftTyped notNumeric =>
      simp only [typing, operationType, leftTyped.typing_type defined, notNumeric]
      split <;> rfl
  | mismatch leftTyped rightTyped different =>
      simp only [typing, operationType, leftTyped.typing_type defined,
        rightTyped.typing_type defined]
      split_ifs <;> rfl

theorem notes_eq_parts (table : SymbolTable) (entryPoint : Option EntryPoint)
    (expression : Expression) :
    (expression.typing table entryPoint).notes =
      expression.parts.map fun part => (part.node, (part.typing table entryPoint).type) := by
  induction expression with
  | literal node location value => rfl
  | identifier node location name => rfl
  | stream node location name => rfl
  | binary node location operator left right leftHypothesis rightHypothesis =>
      rw [parts, List.map_append, List.map_append, ← leftHypothesis, ← rightHypothesis]
      rfl

theorem not_illTyped_of_hasTypeIn {expression : Expression} {type : ShaderType}
    (typed : expression.HasTypeIn table entryPoint type) :
    ¬expression.IllTyped table entryPoint := by
  intro illTyped
  have absent := typeIn?_of_illTyped illTyped
  rw [typeIn?_of_hasTypeIn typed] at absent
  cases absent

theorem not_isFault_of_hasTypeIn {expression : Expression} {type : ShaderType}
    (typed : expression.HasTypeIn table entryPoint type)
    (within : ¬expression.IsExcess) :
    ¬expression.IsFault table entryPoint := by
  rintro (⟨illTyped, -⟩ | excess)
  · exact not_illTyped_of_hasTypeIn typed illTyped
  · exact within excess

theorem blames_fault {expression : Expression} {diagnostic : Diagnostic}
    (fault : expression.IsFault table entryPoint)
    (blames : expression.Blames table entryPoint diagnostic) :
    List.Forall₂ (Blames table entryPoint)
      ([expression].filter fun part => part.IsFault table entryPoint) [diagnostic] := by
  have kept : [expression].filter (fun part => part.IsFault table entryPoint) = [expression] := by
    simp [fault]
  rw [kept]
  exact .cons blames .nil

theorem blames_nothing {expression : Expression}
    (sound : ¬expression.IsFault table entryPoint) :
    List.Forall₂ (Blames table entryPoint)
      ([expression].filter fun part => part.IsFault table entryPoint) [] := by
  have dropped : [expression].filter (fun part => part.IsFault table entryPoint) = [] := by
    simp [sound]
  rw [dropped]
  exact .nil

/-- The report on an operation: there is one if it is ill-typed but its operands are not. -/
theorem blames_operation (defined : table.ShowsDefined) (node : NodeId) (location : Location)
    (operator : Operator) (left right : Expression) :
    List.Forall₂ (Blames table entryPoint)
      ([.binary node location operator left right].filter fun part =>
        part.IsFault table entryPoint)
      (operationType operator (left.typing table entryPoint).type
        (right.typing table entryPoint).type location right.location).2 := by
  -- An operand without a type is the cause, and was reported before.
  have silent : ∀ operand ∈ [left, right], operand.IllTyped table entryPoint →
      ¬(Expression.binary node location operator left right).IsFault table entryPoint := by
    rintro operand member illTyped (⟨-, operandsTyped⟩ | excess)
    · exact operandsTyped operand member illTyped
    · exact excess
  rcases left.hasTypeIn_or_illTyped table entryPoint with ⟨leftType, leftTyped⟩ | leftIll
  · rcases right.hasTypeIn_or_illTyped table entryPoint with ⟨rightType, rightTyped⟩ | rightIll
    · have operandsTyped : ∀ operand ∈ [left, right], ¬operand.IllTyped table entryPoint := by
        simp [not_illTyped_of_hasTypeIn leftTyped, not_illTyped_of_hasTypeIn rightTyped]
      rw [leftTyped.typing_type defined, rightTyped.typing_type defined]
      unfold operationType
      rw [leftTyped.isUndefined_eq_false defined, rightTyped.isUndefined_eq_false defined]
      cases numeric : leftType.isNumeric with
      | false =>
          exact blames_fault (.inl ⟨.notNumeric leftTyped numeric, operandsTyped⟩)
            (.notNumeric leftTyped numeric)
      | true =>
          by_cases same : leftType = rightType
          · subst same
            simp only [Bool.or_self, Bool.false_eq_true, if_false, Bool.not_true, ne_eq,
              not_true_eq_false]
            exact blames_nothing
              (not_isFault_of_hasTypeIn (.binary leftTyped rightTyped numeric) not_false)
          · simp only [Bool.or_self, Bool.false_eq_true, if_false, Bool.not_true, ne_eq, same,
              not_false_eq_true, if_true]
            exact blames_fault (.inl ⟨.mismatch leftTyped rightTyped same, operandsTyped⟩)
              (.mismatch leftTyped rightTyped numeric)
    · rw [rightIll.typing_type defined]
      simp only [operationType, faultyType, ShaderType.isUndefined, Bool.or_true, if_true]
      exact blames_nothing (silent right (by simp) rightIll)
  · rw [leftIll.typing_type defined]
    simp only [operationType, faultyType, ShaderType.isUndefined, Bool.true_or, if_true]
    exact blames_nothing (silent left (by simp) leftIll)

/-- Typing reports on each part with a fault of its own, in order, and on nothing else. -/
theorem blames_typing (defined : table.ShowsDefined) (expression : Expression) :
    List.Forall₂ (Blames table entryPoint) (expression.faultyParts table entryPoint)
      (expression.typing table entryPoint).reports := by
  induction expression with
  | literal node location value =>
      unfold typing
      cases beyond : value.excess? with
      | none =>
          exact blames_nothing
            (not_isFault_of_hasTypeIn .literal (value.excess?_eq_none_iff.mp beyond))
      | some text =>
          refine blames_fault (.inr ?_) (.excess beyond)
          by_contra within
          rw [value.excess?_eq_none_iff.mpr within] at beyond
          cases beyond
  | identifier node location name =>
      unfold typing identifierType
      cases visible : table.lookup? name .binding with
      | none => exact blames_fault (.inl ⟨.unbound visible, List.forall_mem_nil _⟩) .unbound
      | some symbol =>
          exact blames_nothing (not_isFault_of_hasTypeIn (.identifier visible) not_false)
  | stream node location name =>
      cases entryPoint with
      | none => exact blames_fault (.inl ⟨.outside rfl, List.forall_mem_nil _⟩) (.outside rfl)
      | some stage =>
          unfold typing
          rw [streamType_some]
          cases passed : table.stream? name with
          | none =>
              have absent := SymbolTable.stream?_eq_none_iff.mp passed
              exact blames_fault (.inl ⟨.notPassed absent, List.forall_mem_nil _⟩)
                (.notPassed (Option.some_ne_none stage))
          | some symbol =>
              obtain ⟨found, isStream⟩ := SymbolTable.stream?_eq_some_iff.mp passed
              exact blames_nothing (not_isFault_of_hasTypeIn
                (.stream (Option.some_ne_none stage) found isStream) not_false)
  | binary node location operator left right leftHypothesis rightHypothesis =>
      unfold faultyParts at leftHypothesis rightHypothesis ⊢
      unfold parts typing
      rw [List.filter_append, List.filter_append]
      exact List.rel_append (List.rel_append leftHypothesis rightHypothesis)
        (blames_operation defined node location operator left right)

/-! ## The theorem -/

/-- A type that is found for an expression: a placeholder if the expression is ill-typed, and its
type otherwise. -/
structure FoundAs (table : SymbolTable) (entryPoint : Option EntryPoint) (expression : Expression)
    (found : ShaderType) : Prop where
  placeholder : found.isUndefined = true ↔ expression.IllTyped table entryPoint
  typed : ∀ type, expression.HasTypeIn table entryPoint type → found = type

theorem foundAs_typing (defined : table.ShowsDefined) (expression : Expression) :
    expression.FoundAs table entryPoint (expression.typing table entryPoint).type where
  placeholder := by
    rcases expression.hasTypeIn_or_illTyped table entryPoint with ⟨type, typed⟩ | illTyped
    · rw [typed.typing_type defined, typed.isUndefined_eq_false defined]
      exact iff_of_false Bool.false_ne_true (not_illTyped_of_hasTypeIn typed)
    · rw [illTyped.typing_type defined]
      exact iff_of_true rfl illTyped
  typed _ typed := typed.typing_type defined

/-- In a symbol table without placeholders, checking an expression reports each part that is
ill-typed though its operands are not, each literal out of range, and nothing else, from left to
right and operands before operations.  It gives a placeholder exactly if the expression is ill-typed
and its type otherwise.  If the nodes are distinct, each part is annotated in the same way. -/
theorem check_reportsFaults (defined : table.ShowsDefined) (context : BodyContext)
    (expression : Expression) :
    let checked := expression.check context table
    List.Forall₂ (Blames table context.entryPoint)
      (expression.faultyParts table context.entryPoint) checked.reports ∧
    expression.FoundAs table context.entryPoint checked.value ∧
    (expression.nodes.Nodup → ∀ part ∈ expression.parts, ∃ found,
      checked.table.annotations.type? part.node = some found ∧
        part.FoundAs table context.entryPoint found) ∧
    ∀ node ∉ expression.nodes,
      checked.table.annotations.type? node = table.annotations.type? node := by
  intro checked
  have noted : checked.table = table.noted
      (expression.typing table context.entryPoint).notes.reverse :=
    SymbolTable.annotateAll_eq_noted table _
  refine ⟨blames_typing defined expression, foundAs_typing defined expression, ?_, ?_⟩
  · intro distinct part member
    refine ⟨(part.typing table context.entryPoint).type, ?_, foundAs_typing defined part⟩
    have once : ((expression.typing table context.entryPoint).notes.map Prod.fst).Nodup :=
      (expression.notes_perm table context.entryPoint).nodup_iff.mpr distinct
    have present : (part.node, (part.typing table context.entryPoint).type) ∈
        (expression.typing table context.entryPoint).notes := by
      rw [notes_eq_parts]
      exact List.mem_map_of_mem member
    rw [noted, SymbolTable.type?_noted, ← lookup_perm (List.reverse_perm _).symm once,
      lookup_eq_some_of_mem once present, Option.some_or]
  · intro node other
    rw [noted]
    refine SymbolTable.type?_noted_of_not_mem fun note present same => other ?_
    rw [← same]
    exact Expression.mem_nodes_of_notes (List.mem_reverse.mp present)

/-- The scope of a stage with two locals and a stream. -/
def stageScope : SymbolTable where
  frames := [⟨[⟨"flag", .binding, .function, .scalar .bool⟩,
    ⟨"step", .binding, .function, .scalar .int⟩]⟩]
  declaredTypes := []
  overloads := []
  registering := false
  annotations := ⟨[], [], some ⟨"Scaled", [⟨"depth", .binding, .stream, .scalar .int⟩]⟩⟩

/-- The quotient of `(step + flag) * streams.depth` and `missing - 3000000000`.  Both of its operands
are ill-typed, and so are all operations in it, but only the sum has no ill-typed operand. -/
def tangled : Expression :=
  .binary 0 .unknown .div
    (.binary 1 .unknown .mul
      (.binary 2 .unknown .add (.identifier 3 .unknown "step") (.identifier 4 .unknown "flag"))
      (.stream 5 .unknown "depth"))
    (.binary 6 .unknown .sub
      (.identifier 7 .unknown "missing") (.literal 8 .unknown (.int 3000000000)))

theorem tangled_reportsFaults :
    stageScope.ShowsDefined ∧ tangled.nodes.Nodup ∧
    (tangled.faultyParts stageScope (some .vertex)).map Expression.node = [2, 7, 8] ∧
    (tangled.check ⟨some .vertex, .void⟩ stageScope).reports =
      [.typeMismatch (.scalar .int) (.scalar .bool) .unknown, .undefinedVariable "missing" .unknown,
        .literalOutOfRange "3000000000" (.scalar .int) .unknown] ∧
    List.Forall₂ (Blames stageScope (some .vertex)) (tangled.faultyParts stageScope (some .vertex))
      (tangled.check ⟨some .vertex, .void⟩ stageScope).reports := by
  have defined : stageScope.ShowsDefined := by
    constructor
    · intro name symbol found
      have noPlaceholder : ∀ frame ∈ stageScope.frames, ∀ symbol ∈ frame.symbols,
          symbol.type.isUndefined = false := by decide
      obtain ⟨frame, opened, found⟩ := List.exists_of_findSome?_eq_some found
      exact noPlaceholder frame opened symbol (List.mem_of_find?_eq_some found)
    · rintro shader ⟨rfl⟩
      decide
  exact ⟨defined, by decide, by decide +kernel, by decide +kernel,
    (check_reportsFaults defined ⟨some .vertex, .void⟩ tangled).1⟩

end Expression

end ShaderLang
