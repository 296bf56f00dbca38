import ShaderLang.Proofs.FrameLookup

/-!
# A clean analysis leaves a well-typed shader

If a shader with distinct nodes is checked without a report, then it is well typed under the symbol
table at the end.  The proof follows the check: at each point the frames show the visible names, and
every type that was found has an instruction form.
-/

namespace ShaderLang

/-! ## Types that can be written -/

theorem ShaderType.isEmittable_of_resolveNumeric? {name : String} {type : ShaderType}
    (resolved : ShaderType.resolveNumeric? name = some type) :
    type.isEmittable = true := by
  unfold ShaderType.resolveNumeric? at resolved
  rcases Option.or_eq_some_iff.mp resolved with isScalar | ⟨-, rest⟩
  · obtain ⟨scalar, -, rfl⟩ := Option.map_eq_some_iff.mp isScalar
    rfl
  · rcases Option.or_eq_some_iff.mp rest with isVector | ⟨-, rest⟩
    · obtain ⟨vector, -, rfl⟩ := Option.map_eq_some_iff.mp isVector
      rfl
    · rcases Option.or_eq_some_iff.mp rest with isMatrix | ⟨-, rest⟩
      · obtain ⟨matrix, -, rfl⟩ := Option.map_eq_some_iff.mp isMatrix
        rfl
      · split at rest
        · cases rest
          rfl
        · cases rest

theorem ShaderType.isEmittable_of_resolveObject? {name : String} {type : ShaderType}
    (resolved : ShaderType.resolveObject? name = some type) :
    type.isEmittable = true := by
  unfold ShaderType.resolveObject? at resolved
  split at resolved
  · cases resolved
    rfl
  · split at resolved
    · cases resolved
      rfl
    · cases resolved

/-- Every declared type has an instruction form. -/
def SymbolTable.DeclaresEmittable (table : SymbolTable) : Prop :=
  ∀ name type, table.declaredType? name = some type → type.isEmittable = true

theorem SymbolTable.DeclaresEmittable.resolve {table : SymbolTable}
    (declares : table.DeclaresEmittable) {written : TypeName} {type : ShaderType}
    (resolved : written.resolve table = .ok type) :
    type.isEmittable = true := by
  unfold TypeName.resolve at resolved
  cases known : table.resolveType? written.name with
  | none => simp [known] at resolved
  | some base =>
      have baseEmittable : base.isEmittable = true := by
        unfold SymbolTable.resolveType? at known
        rcases Option.or_eq_some_iff.mp known with numeric | ⟨-, rest⟩
        · exact ShaderType.isEmittable_of_resolveNumeric? numeric
        · rcases Option.or_eq_some_iff.mp rest with object | ⟨-, declared⟩
          · exact ShaderType.isEmittable_of_resolveObject? object
          · exact declares _ _ declared
      simp only [known] at resolved
      split at resolved
      · cases resolved
        exact baseEmittable
      · split at resolved
        · cases resolved
          exact baseEmittable
        · cases resolved

theorem SymbolTable.DeclaresEmittable.declareType {table : SymbolTable}
    (declares : table.DeclaresEmittable) {type : ShaderType}
    (emittable : type.isEmittable = true) (name : String) :
    (table.declareType name type).DeclaresEmittable := by
  intro asked found known
  unfold SymbolTable.declareType at known
  split at known
  · exact declares asked found known
  · unfold SymbolTable.declaredType? at known
    rw [lookup_cons_eq] at known
    split at known
    · cases known
      exact emittable
    · exact declares asked found known

theorem ShaderType.isUndefined_of_isEmittable {type : ShaderType}
    (emittable : type.isEmittable = true) :
    type.isUndefined = false := by
  unfold ShaderType.isUndefined
  split
  · cases emittable
  · rfl

theorem eq_of_mismatchReports {expected found : ShaderType} {location : Location}
    (expectedEmittable : expected.isEmittable = true)
    (foundEmittable : found.isEmittable = true)
    (matching : mismatchReports expected found location = []) :
    expected = found := by
  unfold mismatchReports at matching
  rw [ShaderType.isUndefined_of_isEmittable expectedEmittable,
    ShaderType.isUndefined_of_isEmittable foundEmittable] at matching
  simp only [Bool.or_self, Bool.false_eq_true, if_false] at matching
  split at matching
  · next same => exact same
  · cases matching

/-! ## What a body sees -/

/-- A symbol table shows the visible names at a point of a body. -/
structure SymbolTable.Shows (table : SymbolTable) (names : NameTable Referent) : Prop where
  frames : ∃ locals frame, table.frames = locals ++ [frame] ∧
    List.Forall₂ Frame.ShowsLocally locals names.scopes ∧ frame.Shows names.shader
  /-- A component that is passed between stages is a variable of the shader. -/
  streams : ∀ name symbol,
    (table.annotations.shader.bind fun shader => shader.find? name .binding) = some symbol →
      symbol.storage = .stream → names.shader.lookup name = some ⟨.variable, symbol.type⟩
  types : table.DeclaresEmittable
  emittable : ∀ entry ∈ names.entries, entry.2.type.isEmittable = true

namespace SymbolTable.Shows

variable {table changed : SymbolTable} {names : NameTable Referent}

/-- Annotations of nodes do not change what is shown. -/
theorem congr (shows : table.Shows names)
    (sameFrames : changed.frames = table.frames)
    (sameShader : changed.annotations.shader = table.annotations.shader)
    (sameTypes : changed.declaredTypes = table.declaredTypes) :
    changed.Shows names where
  frames := by
    rw [sameFrames]
    exact shows.frames
  streams := by
    rw [sameShader]
    exact shows.streams
  types name type known := by
    unfold SymbolTable.declaredType? at known
    rw [sameTypes] at known
    exact shows.types name type known
  emittable := shows.emittable

theorem push (shows : table.Shows names) : table.push.Shows names.push where
  frames := by
    obtain ⟨locals, frame, frames, localsShow, shaderShows⟩ := shows.frames
    refine ⟨.empty :: locals, frame, ?_, .cons Frame.showsLocally_empty localsShow, shaderShows⟩
    unfold SymbolTable.push
    rw [frames]
    rfl
  streams := shows.streams
  types := shows.types
  emittable := by
    rw [NameTable.entries_push]
    exact shows.emittable

/-- A declaration in a body is shown behind it. -/
theorem declare (shows : table.Shows names) {name : String} {type : ShaderType}
    {referent : Referent} {result : Unit}
    (opened : names.scopes ≠ [])
    (sameType : referent.type = type)
    (emittable : type.isEmittable = true)
    (declares : (Check.declare ⟨name, .binding, .function, type⟩).Passes table result changed) :
    changed.Shows (names.bind name referent) := by
  obtain ⟨first, rest, tableFrames, rfl⟩ := Check.passes_declare.mp declares
  obtain ⟨locals, frame, frames, localsShow, shaderShows⟩ := shows.frames
  refine ⟨?_, shows.streams, shows.types, ?_⟩
  · obtain ⟨scopes, shader⟩ := names
    cases localsShow with
    | nil => exact absurd rfl opened
    | @cons innermost scope others outer innermostShows othersShow =>
        rw [tableFrames] at frames
        obtain ⟨rfl, rfl⟩ := List.cons.inj frames
        exact ⟨_ :: others, frame, rfl, .cons (innermostShows.add name sameType) othersShow,
          shaderShows⟩
  · rw [NameTable.entries_bind opened]
    intro entry member
    rcases List.mem_cons.mp member with rfl | earlier
    · rw [sameType]
      exact emittable
    · exact shows.emittable entry earlier

/-- Names are looked up alike in the frames and among the visible names. -/
theorem lookup? (shows : table.Shows names) (name : String) :
    (table.lookup? name .binding).map Symbol.type = (names.lookup? name).map Referent.type := by
  obtain ⟨locals, frame, frames, localsShow, shaderShows⟩ := shows.frames
  unfold SymbolTable.lookup? NameTable.lookup?
  rw [frames]
  clear frames
  generalize names.scopes = scopes at localsShow ⊢
  induction localsShow with
  | nil =>
      rw [List.nil_append, List.findSome?_singleton, List.findSome?_nil, Option.none_or]
      exact shaderShows name
  | @cons innermost scope others outer innermostShows othersShow inductionHypothesis =>
      have same := innermostShows.shows name
      rw [List.cons_append, List.findSome?_cons, List.findSome?_cons]
      cases found : innermost.find? name .binding with
      | none =>
          rw [found, Option.map_none] at same
          rw [Option.map_eq_none_iff.mp same.symm]
          exact inductionHypothesis
      | some symbol =>
          rw [found, Option.map_some] at same
          obtain ⟨referent, foundScope, sameType⟩ := Option.map_eq_some_iff.mp same.symm
          rw [foundScope]
          exact congrArg some sameType.symm

end SymbolTable.Shows

/-! ## Expressions -/

section Bodies

variable {last table : SymbolTable} {names : NameTable Referent}

theorem Literal.isEmittable_type (value : Literal) : value.type.isEmittable = true := by
  cases value <;> rfl

/-- An operation without a report has two operands of one numeric type. -/
theorem operationType_eq {operator : Operator} {left right : ShaderType}
    {location rightLocation : Location}
    (leftDefined : left.isUndefined = false)
    (rightDefined : right.isUndefined = false)
    (clean : (operationType operator left right location rightLocation).2 = []) :
    left.isNumeric = true ∧ right = left ∧
      (operationType operator left right location rightLocation).1 = left := by
  unfold operationType at clean ⊢
  rw [leftDefined, rightDefined] at clean ⊢
  simp only [Bool.or_self, Bool.false_eq_true, if_false] at clean ⊢
  by_cases numeric : left.isNumeric = true
  · by_cases same : left = right
    · subst same
      simp [numeric]
    · simp [numeric, same] at clean
  · simp [numeric] at clean

/-- An expression that is typed without a report has the type it is given. -/
theorem Expression.hasType_of_typing {expression : Expression} {entryPoint : Option EntryPoint}
    (shows : table.Shows names)
    (clean : (expression.typing table entryPoint).reports = [])
    (noted : ∀ note ∈ (expression.typing table entryPoint).notes,
      last.annotations.type? note.1 = some note.2) :
    expression.HasType last.annotations names (expression.typing table entryPoint).type ∧
      (expression.typing table entryPoint).type.isEmittable = true := by
  induction expression with
  | literal node location value => exact ⟨.literal, value.isEmittable_type⟩
  | identifier node location name =>
      have same := shows.lookup? name
      unfold Expression.typing identifierType at clean ⊢
      cases found : table.lookup? name .binding with
      | none =>
          rw [found] at clean
          cases clean
      | some symbol =>
          rw [found, Option.map_some] at same
          obtain ⟨referent, resolved, sameType⟩ := Option.map_eq_some_iff.mp same.symm
          dsimp only
          rw [← sameType]
          exact ⟨.identifier resolved,
            shows.emittable _ (NameTable.mem_entries_of_lookup? resolved)⟩
  | stream node location name =>
      unfold Expression.typing streamType at clean ⊢
      cases entryPoint with
      | none => cases clean
      | some stage =>
          dsimp only at clean ⊢
          split at clean
          · next symbol found =>
              obtain ⟨component, isStream⟩ := Option.filter_eq_some_iff.mp found
              have resolved := shows.streams name symbol component (by simpa using isStream)
              exact ⟨.stream resolved, shows.emittable _
                (List.mem_append_right _ (mem_of_lookup_eq_some resolved))⟩
          · cases clean
  | binary node location operator left right leftHypothesis rightHypothesis =>
      unfold Expression.typing at clean noted ⊢
      dsimp only at clean noted ⊢
      obtain ⟨operandsClean, operationClean⟩ := List.append_eq_nil_iff.mp clean
      obtain ⟨leftClean, rightClean⟩ := List.append_eq_nil_iff.mp operandsClean
      obtain ⟨leftTyped, leftEmittable⟩ := leftHypothesis leftClean fun note member =>
        noted note (List.mem_append_left _ (List.mem_append_left _ member))
      obtain ⟨rightTyped, rightEmittable⟩ := rightHypothesis rightClean fun note member =>
        noted note (List.mem_append_left _ (List.mem_append_right _ member))
      obtain ⟨numeric, sameType, operationType⟩ :=
        operationType_eq (ShaderType.isUndefined_of_isEmittable leftEmittable)
          (ShaderType.isUndefined_of_isEmittable rightEmittable) operationClean
      have annotated := noted _ (List.mem_append_right _ List.mem_cons_self)
      rw [operationType] at annotated ⊢
      rw [sameType] at rightTyped
      exact ⟨.binary leftTyped rightTyped numeric annotated, leftEmittable⟩

theorem SymbolTable.mem_annotateAll {notes : List (NodeId × ShaderType)}
    {note : NodeId × ShaderType} (table : SymbolTable) (member : note ∈ notes) :
    note ∈ (table.annotateAll notes).annotations.types := by
  induction notes generalizing table with
  | nil => simp at member
  | cons first rest inductionHypothesis =>
      rcases List.mem_cons.mp member with rfl | later
      · exact (SymbolTable.Leads.annotateAll (table.annotate note.1 note.2) rest).mem_types
          List.mem_cons_self
      · exact inductionHypothesis _ later

theorem SymbolTable.annotateAll_same (table : SymbolTable)
    (notes : List (NodeId × ShaderType)) :
    (table.annotateAll notes).frames = table.frames ∧
      (table.annotateAll notes).annotations.shader = table.annotations.shader ∧
      (table.annotateAll notes).declaredTypes = table.declaredTypes := by
  induction notes generalizing table with
  | nil => exact ⟨rfl, rfl, rfl⟩
  | cons note rest inductionHypothesis => exact inductionHypothesis (table.annotate note.1 note.2)

/-- An expression that passes its check has the type that the check gives. -/
theorem Expression.hasType_of_check {expression : Expression} {context : BodyContext}
    {type : ShaderType} {after : SymbolTable} {nodes : List NodeId}
    (passes : (expression.check context).Passes table type after)
    (shows : table.Shows names)
    (leads : SymbolTable.Leads nodes after last)
    (isFinal : last.Final) :
    expression.HasType last.annotations names type ∧ type.isEmittable = true ∧
      after.Shows names := by
  obtain ⟨clean, rfl, rfl⟩ := Expression.passes_check.mp passes
  obtain ⟨sameFrames, sameShader, sameTypes⟩ := table.annotateAll_same
    (expression.typing table context.entryPoint).notes
  obtain ⟨typed, emittable⟩ := Expression.hasType_of_typing shows clean fun note member =>
    isFinal.type? (leads.mem_types (table.mem_annotateAll member))
  exact ⟨typed, emittable, shows.congr sameFrames sameShader sameTypes⟩

/-! ## Statements -/

/-- Two tables that differ in the innermost frame and in the annotations of nodes only. -/
structure SymbolTable.SameOuter (before after : SymbolTable) : Prop where
  frames : after.frames.tail = before.frames.tail
  shader : after.annotations.shader = before.annotations.shader
  types : after.declaredTypes = before.declaredTypes

theorem SymbolTable.SameOuter.refl (table : SymbolTable) : table.SameOuter table :=
  ⟨rfl, rfl, rfl⟩

theorem SymbolTable.SameOuter.trans {first second third : SymbolTable}
    (front : first.SameOuter second)
    (back : second.SameOuter third) :
    first.SameOuter third :=
  ⟨back.frames.trans front.frames, back.shader.trans front.shader, back.types.trans front.types⟩

theorem SymbolTable.sameOuter_annotateAll (table : SymbolTable)
    (notes : List (NodeId × ShaderType)) :
    table.SameOuter (table.annotateAll notes) := by
  obtain ⟨sameFrames, sameShader, sameTypes⟩ := table.annotateAll_same notes
  exact ⟨congrArg List.tail sameFrames, sameShader, sameTypes⟩

theorem Expression.sameOuter_check {expression : Expression} {context : BodyContext}
    {type : ShaderType} {before after : SymbolTable}
    (passes : (expression.check context).Passes before type after) :
    before.SameOuter after := by
  obtain ⟨-, -, rfl⟩ := Expression.passes_check.mp passes
  exact before.sameOuter_annotateAll _

theorem Check.sameOuter_declare {symbol : Symbol} {before after : SymbolTable} {result : Unit}
    (passes : (Check.declare symbol).Passes before result after) :
    before.SameOuter after := by
  obtain ⟨frame, rest, frames, rfl⟩ := Check.passes_declare.mp passes
  refine ⟨?_, rfl, rfl⟩
  rw [frames]
  rfl

/-- The value that a name is declared with has the type of the name. -/
theorem hasType_of_checkInitializer {context : BodyContext} {expected : ShaderType}
    {value : Option Expression} {before after : SymbolTable} {nodes : List NodeId}
    {result : Unit}
    (passes : (checkInitializer context expected value).Passes before result after)
    (shows : before.Shows names)
    (emittable : expected.isEmittable = true)
    (leads : SymbolTable.Leads nodes after last)
    (isFinal : last.Final) :
    (∀ expression ∈ value, expression.HasType last.annotations names expected) ∧
      after.Shows names ∧ before.SameOuter after := by
  cases value with
  | none =>
      obtain ⟨-, rfl⟩ := Check.passes_pure.mp passes
      exact ⟨by simp, shows, .refl before⟩
  | some expression =>
      obtain ⟨found, middle, checks, reports⟩ := Check.passes_bind.mp passes
      obtain ⟨matching, rfl⟩ := Check.passes_report.mp reports
      obtain ⟨typed, foundEmittable, shown⟩ :=
        Expression.hasType_of_check checks shows leads isFinal
      rw [← eq_of_mismatchReports emittable foundEmittable matching] at typed
      refine ⟨fun other same => ?_, shown, Expression.sameOuter_check checks⟩
      cases same
      exact typed

/-- A returned value has the type that the context requires, and a missing one is required to be
missing. -/
theorem hasType_of_checkReturn {context : BodyContext} {location : Location}
    {value : Option Expression} {before after : SymbolTable} {nodes : List NodeId}
    {result : Unit}
    (passes : (checkReturn context location value).Passes before result after)
    (shows : before.Shows names)
    (emittable : context.returned.isEmittable = true)
    (leads : SymbolTable.Leads nodes after last)
    (isFinal : last.Final) :
    (∀ expression ∈ value, expression.HasType last.annotations names context.returned) ∧
      (value = none → context.returned.isVoid = true) ∧
      after.Shows names ∧ before.SameOuter after := by
  cases value with
  | none =>
      obtain ⟨matching, rfl⟩ := Check.passes_report.mp passes
      have voidEmittable : ShaderType.void.isEmittable = true := rfl
      have isVoid := eq_of_mismatchReports emittable voidEmittable matching
      exact ⟨by simp, fun _ => by rw [isVoid]; rfl, shows, .refl before⟩
  | some expression =>
      obtain ⟨found, middle, checks, reports⟩ := Check.passes_bind.mp passes
      obtain ⟨matching, rfl⟩ := Check.passes_report.mp reports
      obtain ⟨typed, foundEmittable, shown⟩ :=
        Expression.hasType_of_check checks shows leads isFinal
      rw [← eq_of_mismatchReports emittable foundEmittable matching] at typed
      refine ⟨fun other same => ?_, by simp, shown, Expression.sameOuter_check checks⟩
      cases same
      exact typed

mutual

/-- A statement that passes its check is well typed. -/
theorem Statement.typed_of_check {context : BodyContext} {nodes : List NodeId}
    (emittable : context.returned.isEmittable = true)
    (isFinal : last.Final) :
    ∀ (statement : Statement) {before after : SymbolTable} {names : NameTable Referent},
      (statement.check context).Passes before () after → before.Shows names →
      names.scopes ≠ [] → SymbolTable.Leads nodes after last →
      before.SameOuter after ∧
      ((∃ names', statement.TypedSimple last context.returned names names' ∧
          after.Shows names' ∧ names'.scopes ≠ []) ∨
        ∃ location body, statement = .block location body ∧
          Statement.TypedAll last context.returned names.push body ∧ after.Shows names)
  | .declare node location written name value, before, after, names, passes, shows, opened,
      leads => by
      have whole := (Statement.leads_check _ passes).trans leads
      obtain ⟨type, middle, resolved, initializes, declares⟩ := Statement.passes_declare passes
      have typeEmittable := shows.types.resolve resolved
      have denoted := TypeName.denoted_of_resolve (whole.resolve resolved)
      subst denoted
      have annotatedLeads := (Check.leads_declare declares).trans leads
      have middleLeads := (SymbolTable.Leads.annotate middle node _).trans annotatedLeads
      obtain ⟨valueTyped, middleShows, middleOuter⟩ :=
        hasType_of_checkInitializer initializes shows typeEmittable middleLeads isFinal
      have annotated : last.annotations.type? node = some (written.denoted last) :=
        isFinal.type? (annotatedLeads.mem_types List.mem_cons_self)
      have annotatedShows : (middle.annotate node (written.denoted last)).Shows names :=
        middleShows.congr rfl rfl rfl
      have annotatedOuter : middle.SameOuter (middle.annotate node (written.denoted last)) :=
        ⟨rfl, rfl, rfl⟩
      refine ⟨(middleOuter.trans annotatedOuter).trans (Check.sameOuter_declare declares), .inl
        ⟨_, .declare annotated typeEmittable valueTyped,
          annotatedShows.declare opened rfl typeEmittable declares, ?_⟩⟩
      unfold NameTable.bind
      cases scopes : names.scopes with
      | nil => exact absurd scopes opened
      | cons scope rest => simp
  | .assign location target value, before, after, names, passes, shows, opened, leads => by
      obtain ⟨found, expected, middle, assignable, valueChecks, targetChecks, matching⟩ :=
        passes_checkAssignment passes
      have middleLeads := (Expression.leads_check targetChecks).trans leads
      obtain ⟨valueTyped, valueEmittable, middleShows⟩ :=
        Expression.hasType_of_check valueChecks shows middleLeads isFinal
      obtain ⟨targetTyped, targetEmittable, afterShows⟩ :=
        Expression.hasType_of_check targetChecks middleShows leads isFinal
      rw [eq_of_mismatchReports targetEmittable valueEmittable matching] at targetTyped
      have sameOuter := (Expression.sameOuter_check valueChecks).trans
        (Expression.sameOuter_check targetChecks)
      exact ⟨sameOuter, .inl ⟨names, .assign valueTyped targetTyped assignable, afterShows, opened⟩⟩
  | .evaluate value, before, after, names, passes, shows, opened, leads => by
      obtain ⟨found, middle, checks, finished⟩ := Check.passes_bind.mp passes
      obtain ⟨-, rfl⟩ := Check.passes_pure.mp finished
      obtain ⟨typed, -, afterShows⟩ := Expression.hasType_of_check checks shows leads isFinal
      exact ⟨Expression.sameOuter_check checks, .inl ⟨names, .evaluate typed, afterShows, opened⟩⟩
  | .exit location value, before, after, names, passes, shows, opened, leads => by
      obtain ⟨valueTyped, absent, afterShows, outer⟩ :=
        hasType_of_checkReturn passes shows emittable leads isFinal
      exact ⟨outer, .inl ⟨names, .exit valueTyped absent, afterShows, opened⟩⟩
  | .block location body, before, after, names, passes, shows, opened, leads => by
      obtain ⟨inner, checks, rfl⟩ := Check.passes_inFrame.mp passes
      have closes : SymbolTable.Leads [] inner inner.dropFrame := .of_same rfl rfl rfl
      obtain ⟨bodyTyped, outer⟩ := Statement.typedAll_of_checkAll emittable isFinal body checks
        shows.push (by simp [NameTable.push]) (closes.trans leads)
      -- The frames behind the block are those in front of it.
      have sameFrames : inner.dropFrame.frames = before.frames := outer.frames
      exact ⟨⟨congrArg List.tail sameFrames, outer.shader, outer.types⟩,
        .inr ⟨location, body, rfl, bodyTyped, shows.congr sameFrames outer.shader outer.types⟩⟩

/-- Statements that pass their check are well typed. -/
theorem Statement.typedAll_of_checkAll {context : BodyContext} {nodes : List NodeId}
    (emittable : context.returned.isEmittable = true)
    (isFinal : last.Final) :
    ∀ (body : List Statement) {before after : SymbolTable} {names : NameTable Referent},
      (Statement.checkAll context body).Passes before () after → before.Shows names →
      names.scopes ≠ [] → SymbolTable.Leads nodes after last →
      Statement.TypedAll last context.returned names body ∧ before.SameOuter after
  | [], before, after, names, passes, shows, opened, leads => by
      obtain ⟨-, rfl⟩ := Check.passes_pure.mp passes
      exact ⟨.nil, .refl before⟩
  | statement :: rest, before, after, names, passes, shows, opened, leads => by
      obtain ⟨_, middle, statementChecks, restChecks⟩ := Check.passes_bind.mp passes
      have middleLeads := (Statement.leads_checkAll rest restChecks).trans leads
      obtain ⟨outer, ⟨names', typed, middleShows, stillOpened⟩ |
          ⟨location, body, rfl, bodyTyped, middleShows⟩⟩ :=
        Statement.typed_of_check emittable isFinal statement statementChecks shows opened
          middleLeads
      · obtain ⟨restTyped, restOuter⟩ := Statement.typedAll_of_checkAll emittable isFinal rest
          restChecks middleShows stillOpened leads
        exact ⟨.simple typed restTyped, outer.trans restOuter⟩
      · obtain ⟨restTyped, restOuter⟩ := Statement.typedAll_of_checkAll emittable isFinal rest
          restChecks middleShows opened leads
        exact ⟨.block bodyTyped restTyped, outer.trans restOuter⟩

end

end Bodies

end ShaderLang
