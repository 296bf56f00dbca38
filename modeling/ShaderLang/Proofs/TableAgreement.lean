import ShaderLang.Proofs.DeclarationEffects

/-!
# What attributes and bodies see

The arguments of attributes and the bodies of methods read the names in scope, the declared types,
the streams and what is known about their method.  All they leave behind are the types of their own
nodes.  So they find the same in two symbol tables that agree on what they read, and they can be
checked in any order.
-/

namespace ShaderLang

variable {α β : Type}

namespace SymbolTable

/-- Two tables that agree on the names in scope, the written types, the streams, the states of
methods and the types of the given nodes. -/
structure AgreeOn (nodes : List NodeId) (first second : SymbolTable) : Prop where
  names : ∀ name, first.lookup? name .binding = second.lookup? name .binding
  written : first.ReadsAlike second
  streams : ∀ name, (first.annotations.shader.bind fun shader => shader.find? name .binding) =
    second.annotations.shader.bind fun shader => shader.find? name .binding
  methods : ∀ node, first.annotations.method? node = second.annotations.method? node
  types : ∀ node ∈ nodes, first.annotations.type? node = second.annotations.type? node

/-- The table inside of the frames of a body, with more types of nodes. -/
def inside (table : SymbolTable) (locals : List Frame) (notes : List (NodeId × ShaderType)) :
    SymbolTable :=
  { table.noted notes with frames := locals ++ table.frames }

variable {first second third : SymbolTable} {nodes : List NodeId}
  {notes : List (NodeId × ShaderType)}

theorem type?_noted (table : SymbolTable) (notes : List (NodeId × ShaderType)) (node : NodeId) :
    (table.noted notes).annotations.type? node =
      (notes.lookup node).or (table.annotations.type? node) :=
  List.lookup_append

/-- A note on a node that is not read goes unnoticed. -/
theorem type?_noted_of_not_mem {table : SymbolTable} {node : NodeId}
    (other : ∀ note ∈ notes, note.1 ≠ node) :
    (table.noted notes).annotations.type? node = table.annotations.type? node := by
  have absent : notes.lookup node = none := by
    rw [List.lookup_eq_none_iff]
    intro note noted
    exact bne_iff_ne.mpr (other note noted).symm
  rw [type?_noted, absent, Option.none_or]

theorem noted_inside (table : SymbolTable) (locals : List Frame)
    (notes more : List (NodeId × ShaderType)) :
    (table.inside locals notes).noted more = table.inside locals (more ++ notes) := by
  unfold inside noted
  simp

theorem noted_injective {table : SymbolTable} {first second : List (NodeId × ShaderType)}
    (same : table.noted first = table.noted second) :
    first = second :=
  List.append_cancel_right (congrArg (fun table => table.annotations.types) same)

theorem Leads.keys_noted (leads : Leads nodes first (first.noted notes)) :
    (notes.map Prod.fst).Subperm nodes := by
  obtain ⟨new, newEq, within⟩ := leads.types
  rw [List.append_cancel_right newEq]
  exact within

namespace AgreeOn

theorem trans (agree : AgreeOn nodes first second) (agree' : AgreeOn nodes second third) :
    AgreeOn nodes first third where
  names name := (agree.names name).trans (agree'.names name)
  written := agree.written.trans agree'.written
  streams name := (agree.streams name).trans (agree'.streams name)
  methods node := (agree.methods node).trans (agree'.methods node)
  types node member := (agree.types node member).trans (agree'.types node member)

theorem symm (agree : AgreeOn nodes first second) : AgreeOn nodes second first where
  names name := (agree.names name).symm
  written := agree.written.symm
  streams name := (agree.streams name).symm
  methods node := (agree.methods node).symm
  types node member := (agree.types node member).symm

/-- Types of other nodes do not matter. -/
theorem noted (table : SymbolTable) (other : ∀ note ∈ notes, note.1 ∉ nodes) :
    AgreeOn nodes (table.noted notes) table where
  names _ := rfl
  written _ _ := rfl
  streams _ := rfl
  methods _ := rfl
  types node member := by
    refine type?_noted_of_not_mem ?_
    rintro note noted rfl
    exact other note noted member

theorem inside (agree : AgreeOn nodes first second) (locals : List Frame)
    (notes : List (NodeId × ShaderType)) :
    AgreeOn nodes (first.inside locals notes) (second.inside locals notes) where
  names name := by
    unfold lookup? SymbolTable.inside
    rw [List.findSome?_append, List.findSome?_append]
    exact congrArg _ (agree.names name)
  written := agree.written
  streams := agree.streams
  methods := agree.methods
  types node member := by
    change (first.noted notes).annotations.type? node = (second.noted notes).annotations.type? node
    rw [type?_noted, type?_noted, agree.types node member]

end AgreeOn

end SymbolTable

/-! ## Checks inside of a body -/

namespace Check

variable {first second : SymbolTable} {nodes : List NodeId}

/-- A check that passes inside of a body on one table passes on the other one as well, finds the
same value, and leaves the same innermost frame and the same types of nodes. -/
def Carries (check : Check α) (first second : SymbolTable) : Prop :=
  ∀ frame rest notes value after, check.Passes (first.inside (frame :: rest) notes) value after →
    ∃ frame' notes', after = first.inside (frame' :: rest) notes' ∧
      check.Passes (second.inside (frame :: rest) notes) value
        (second.inside (frame' :: rest) notes')

theorem carries_pure (value : α) : (pure value : Check α).Carries first second := by
  intro frame rest notes found after passes
  obtain ⟨rfl, rfl⟩ := passes_pure.mp passes
  exact ⟨frame, notes, rfl, passes_pure.mpr ⟨rfl, rfl⟩⟩

theorem Carries.bind {check : Check α} {next : α → Check β}
    (carries : check.Carries first second)
    (nextCarries : ∀ value, (next value).Carries first second) :
    (check >>= next).Carries first second := by
  intro frame rest notes result after passes
  obtain ⟨value, middle, checks, remaining⟩ := passes_bind.mp passes
  obtain ⟨frame', notes', rfl, checks'⟩ := carries frame rest notes value middle checks
  obtain ⟨frame'', notes'', rfl, remaining'⟩ :=
    nextCarries value frame' rest notes' result after remaining
  exact ⟨frame'', notes'', rfl, passes_bind.mpr ⟨value, _, checks', remaining'⟩⟩

theorem carries_report (diagnostics : List Diagnostic) :
    (report diagnostics).Carries first second := by
  intro frame rest notes value after passes
  obtain ⟨clean, rfl⟩ := passes_report.mp passes
  exact ⟨frame, notes, rfl, passes_report.mpr ⟨clean, rfl⟩⟩

theorem carries_read {view : SymbolTable → α}
    (same : ∀ locals notes, view (first.inside locals notes) = view (second.inside locals notes)) :
    (read view).Carries first second := by
  intro frame rest notes value after passes
  obtain ⟨rfl, rfl⟩ := passes_read.mp passes
  exact ⟨frame, notes, rfl, passes_read.mpr ⟨(same _ _).symm, rfl⟩⟩

theorem carries_annotate (node : NodeId) (type : ShaderType) :
    (annotate node type).Carries first second := by
  intro frame rest notes value after passes
  rw [passes_annotate] at passes
  subst passes
  exact ⟨frame, (node, type) :: notes, rfl, passes_annotate.mpr rfl⟩

theorem carries_declare (symbol : Symbol) : (declare symbol).Carries first second := by
  intro frame rest notes value after passes
  obtain ⟨innermost, outer, frames, rfl⟩ := passes_declare.mp passes
  obtain ⟨rfl, rfl⟩ := List.cons.inj frames
  exact ⟨frame.add symbol, notes, rfl, passes_declare.mpr ⟨frame, _, rfl, rfl⟩⟩

theorem carries_inFrame {check : Check α} (carries : check.Carries first second) :
    (inFrame check).Carries first second := by
  intro frame rest notes value after passes
  obtain ⟨inner, checks, rfl⟩ := passes_inFrame.mp passes
  obtain ⟨frame', notes', rfl, checks'⟩ := carries .empty (frame :: rest) notes value inner checks
  exact ⟨frame, notes', rfl, passes_inFrame.mpr ⟨_, checks', rfl⟩⟩

theorem carries_forEach {check : α → Check Unit} {items : List α}
    (each : ∀ item ∈ items, (check item).Carries first second) :
    (forEach check items).Carries first second := by
  induction items with
  | nil => exact carries_pure ()
  | cons item rest inductionHypothesis =>
      obtain ⟨itemCarries, restCarries⟩ := List.forall_mem_cons.mp each
      exact itemCarries.bind fun _ => inductionHypothesis restCarries

theorem carries_resolve (agree : SymbolTable.AgreeOn nodes first second) {written : TypeName}
    (plain : isPlainName written.name = true) :
    (resolve written).Carries first second := by
  intro frame rest notes type after passes
  obtain ⟨resolved, rfl⟩ := passes_resolve.mp passes
  refine ⟨frame, notes, rfl, passes_resolve.mpr ⟨?_, rfl⟩⟩
  rw [← (agree.inside (frame :: rest) notes).written.resolve plain]
  exact resolved

end Check

section Bodies

variable {first second : SymbolTable} {nodes : List NodeId} {context : BodyContext}

theorem Expression.typing_congr (agree : SymbolTable.AgreeOn nodes first second)
    (entryPoint : Option EntryPoint) (expression : Expression) :
    expression.typing first entryPoint = expression.typing second entryPoint := by
  induction expression with
  | literal node location value => rfl
  | identifier node location name =>
      unfold Expression.typing identifierType
      rw [agree.names]
  | stream node location name =>
      unfold Expression.typing streamType
      rw [agree.streams]
  | binary node location operator left right leftHypothesis rightHypothesis =>
      unfold Expression.typing
      rw [leftHypothesis, rightHypothesis]

theorem Expression.carries_check (agree : SymbolTable.AgreeOn nodes first second)
    (expression : Expression) (context : BodyContext) :
    (expression.check context).Carries first second := by
  intro frame rest notes type after passes
  obtain ⟨clean, typed, rfl⟩ := Expression.passes_check.mp passes
  have same := expression.typing_congr (agree.inside (frame :: rest) notes) context.entryPoint
  refine ⟨frame, (expression.typing (first.inside (frame :: rest) notes)
    context.entryPoint).notes.reverse ++ notes, ?_, Expression.passes_check.mpr ⟨?_, ?_, ?_⟩⟩
  · rw [SymbolTable.annotateAll_eq_noted]
    exact SymbolTable.noted_inside _ _ _ _
  · rw [← same, clean]
  · rw [← same, typed]
  · rw [← same, SymbolTable.annotateAll_eq_noted]
    exact (SymbolTable.noted_inside _ _ _ _).symm

theorem carries_checkInitializer (agree : SymbolTable.AgreeOn nodes first second)
    (context : BodyContext) (expected : ShaderType) (value : Option Expression) :
    (checkInitializer context expected value).Carries first second := by
  cases value with
  | none => exact Check.carries_pure ()
  | some expression =>
      exact (expression.carries_check agree context).bind fun _ => Check.carries_report _

mutual

theorem Statement.carries_check (agree : SymbolTable.AgreeOn nodes first second) :
    ∀ statement : Statement,
      (∀ written ∈ statement.localTypes, isPlainName written.name = true) →
        (statement.check context).Carries first second
  | .declare node _ written _ value, plain =>
      (Check.carries_resolve agree (plain written List.mem_cons_self)).bind fun type =>
        (carries_checkInitializer agree context type value).bind fun _ =>
          (Check.carries_annotate node type).bind fun _ => Check.carries_declare _
  | .assign _ target value, _ => by
      refine (value.carries_check agree context).bind fun found => ?_
      split
      · exact (target.carries_check agree context).bind fun _ => Check.carries_report _
      · exact Check.carries_report _
  | .evaluate value, _ => (value.carries_check agree context).bind fun _ => Check.carries_pure ()
  | .exit _ none, _ => Check.carries_report _
  | .exit _ (some value), _ =>
      (value.carries_check agree context).bind fun _ => Check.carries_report _
  | .block _ body, plain => Check.carries_inFrame (Statement.carries_checkAll agree body plain)

theorem Statement.carries_checkAll (agree : SymbolTable.AgreeOn nodes first second) :
    ∀ body : List Statement,
      (∀ written ∈ Statement.allLocalTypes body, isPlainName written.name = true) →
        (Statement.checkAll context body).Carries first second
  | [], _ => Check.carries_pure ()
  | statement :: rest, plain => by
      obtain ⟨statementPlain, restPlain⟩ := List.forall_mem_append.mp plain
      exact (Statement.carries_check agree statement statementPlain).bind fun _ =>
        Statement.carries_checkAll agree rest restPlain

end

theorem Parameter.carries_bind (agree : SymbolTable.AgreeOn nodes first second)
    {parameter : Parameter} (seen : parameter.node ∈ nodes) :
    parameter.bind.Carries first second := by
  refine Check.Carries.bind (Check.carries_read fun locals notes => ?_) fun type =>
    Check.carries_declare _
  rw [(agree.inside locals notes).types _ seen]

end Bodies

/-! ## Checks that leave types of nodes only -/

namespace Check

/-- A check that passes on one table passes on every table that agrees with it on some nodes, and
leaves the same types of nodes. -/
def Transfers (check : Check Unit) (nodes : List NodeId) : Prop :=
  ∀ first second after, SymbolTable.AgreeOn nodes first second → check.Passes first () after →
    ∃ notes, after = first.noted notes ∧ check.Passes second () (second.noted notes)

end Check

theorem Shader.transfers_checkArgument (argument : Expression) (nodes : List NodeId) :
    (Shader.checkArgument argument).Transfers nodes := by
  intro first second after agree passes
  obtain ⟨type, middle, checks, finished⟩ := Check.passes_bind.mp passes
  obtain ⟨-, rfl⟩ := Check.passes_pure.mp finished
  obtain ⟨clean, typed, rfl⟩ := Expression.passes_check.mp checks
  have same := argument.typing_congr agree none
  refine ⟨_, SymbolTable.annotateAll_eq_noted _ _, Check.passes_bind.mpr ⟨type, _,
    Expression.passes_check.mpr ⟨?_, ?_, ?_⟩, Check.passes_pure.mpr ⟨rfl, rfl⟩⟩⟩
  · exact same ▸ clean
  · exact same ▸ typed
  · rw [SymbolTable.annotateAll_eq_noted]
    exact congrArg (fun typing : Typing => second.noted typing.notes.reverse) same

theorem Method.context_congr {method : Method} {nodes : List NodeId} {first second : SymbolTable}
    (agree : SymbolTable.AgreeOn nodes first second) (seen : method.node ∈ nodes) :
    method.context first = method.context second := by
  unfold Method.context Method.annotatedReturn
  rw [agree.methods, agree.types _ seen]

/-- A body reads what is known about its method, and its local types are plain. -/
theorem Method.transfers_checkBody {method : Method} {nodes : List NodeId}
    (seen : method.visited ⊆ nodes)
    (plain : ∀ written ∈ method.variableTypes, isPlainName written.name = true) :
    method.checkBody.Transfers nodes := by
  unfold Method.checkBody
  split
  · intro first second after agree passes
    obtain ⟨-, rfl⟩ := Check.passes_pure.mp passes
    exact ⟨[], rfl, Check.passes_pure.mpr ⟨rfl, rfl⟩⟩
  · next body present =>
      intro first second after agree passes
      have nodeSeen : method.node ∈ nodes := seen (by simp [Method.visited])
      have parameterSeen : ∀ parameter ∈ method.parameters, parameter.node ∈ nodes :=
        fun parameter member => seen (List.mem_append_left _ (List.mem_map_of_mem member))
      have bodyPlain : ∀ written ∈ Statement.allLocalTypes body,
          isPlainName written.name = true := by
        intro written member
        exact plain written (by simp [Method.variableTypes, present, member])
      have carries : ∀ context : BodyContext, Check.Carries (do
          Check.forEach Parameter.bind method.parameters
          Statement.checkAll context body
          Check.report (method.missingReturnReports context.returned body)) first second :=
        fun context => (Check.carries_forEach fun parameter member =>
          Parameter.carries_bind agree (parameterSeen parameter member)).bind fun _ =>
            (Statement.carries_checkAll agree body bodyPlain).bind fun _ => Check.carries_report _
      obtain ⟨context, _, reads, framed⟩ := Check.passes_bind.mp passes
      obtain ⟨rfl, rfl⟩ := Check.passes_read.mp reads
      obtain ⟨inner, checks, rfl⟩ := Check.passes_inFrame.mp framed
      obtain ⟨frame, notes, rfl, checks'⟩ := carries _ .empty [] [] () inner checks
      refine ⟨notes, rfl, Check.passes_bind.mpr ⟨method.context first, second,
        Check.passes_read.mpr ⟨(Method.context_congr agree nodeSeen).symm, rfl⟩, ?_⟩⟩
      exact Check.passes_inFrame.mpr ⟨_, checks', rfl⟩

/-! ## Passes in any order -/

namespace Check

variable {check : α → Check Unit} {items reordered : List α} {nodes : List NodeId}
  {first second after : SymbolTable}

/-- Checks that transfer between tables which agree on some nodes, and annotate other nodes. -/
structure Independent (check : α → Check Unit) (items : List α) (nodes : List NodeId) : Prop where
  transfers : ∀ item ∈ items, (check item).Transfers nodes
  annotates : ∀ item ∈ items, ∀ table notes, (check item).Passes table () (table.noted notes) →
    ∀ note ∈ notes, note.1 ∉ nodes

theorem independent_of_leads (annotated : α → List NodeId)
    (transfers : ∀ item ∈ items, (check item).Transfers nodes)
    (leads : ∀ item ∈ items, ∀ table table', (check item).Passes table () table' →
      SymbolTable.Leads (annotated item) table table')
    (disjoint : nodes.Disjoint (items.flatMap annotated)) :
    Independent check items nodes where
  transfers := transfers
  annotates item member table notes checks note noted inNodes := by
    have within := (leads item member table _ checks).keys_noted.subset
      (List.mem_map_of_mem noted)
    exact disjoint inNodes (List.mem_flatMap_of_mem member within)

theorem Independent.perm (independent : Independent check items nodes)
    (same : items.Perm reordered) :
    Independent check reordered nodes where
  transfers item member := independent.transfers item (same.mem_iff.mpr member)
  annotates item member := independent.annotates item (same.mem_iff.mpr member)

theorem Independent.tail {item : α} (independent : Independent check (item :: items) nodes) :
    Independent check items nodes where
  transfers other member := independent.transfers other (List.mem_cons_of_mem _ member)
  annotates other member := independent.annotates other (List.mem_cons_of_mem _ member)

/-- What is checked in sequence could as well be checked on its own, on another table. -/
theorem Independent.exists_notes (independent : Independent check items nodes)
    (agree : SymbolTable.AgreeOn nodes first second)
    (passes : (forEach check items).Passes first () after) :
    ∃ parts notes, after = first.noted notes ∧ notes.Perm parts.flatten ∧
      List.Forall₂ (fun item part => (check item).Passes second () (second.noted part)) items
        parts := by
  induction items generalizing first with
  | nil =>
      obtain ⟨-, rfl⟩ := passes_pure.mp passes
      exact ⟨[], [], rfl, List.Perm.refl _, .nil⟩
  | cons item rest inductionHypothesis =>
      obtain ⟨_, middle, checks, remaining⟩ := passes_bind.mp passes
      obtain ⟨part, rfl, checks'⟩ := independent.transfers item List.mem_cons_self first second
        middle agree checks
      -- The rest does not read the nodes that the item annotates.
      have other := independent.annotates item List.mem_cons_self first part checks
      obtain ⟨parts, notes, rfl, same, each⟩ := inductionHypothesis independent.tail
        ((SymbolTable.AgreeOn.noted first other).trans agree) remaining
      refine ⟨part :: parts, notes ++ part, SymbolTable.noted_noted _ _ _, ?_, .cons checks' each⟩
      rw [List.flatten_cons]
      exact List.perm_append_comm.trans (same.append_left part)

/-- What can be checked on its own can be checked in sequence. -/
theorem Independent.forEach_of_each (independent : Independent check items nodes)
    (agree : SymbolTable.AgreeOn nodes first second) {parts : List (List (NodeId × ShaderType))}
    (each : List.Forall₂ (fun item part => (check item).Passes first () (first.noted part)) items
      parts) :
    ∃ notes, (forEach check items).Passes second () (second.noted notes) ∧
      notes.Perm parts.flatten := by
  induction each generalizing second with
  | nil => exact ⟨[], passes_pure.mpr ⟨rfl, rfl⟩, List.Perm.refl _⟩
  | @cons item part rest parts checks restChecks inductionHypothesis =>
      obtain ⟨notes, same, checks'⟩ := independent.transfers item List.mem_cons_self first second
        _ agree checks
      obtain rfl := SymbolTable.noted_injective same
      have other := independent.annotates item List.mem_cons_self second part checks'
      obtain ⟨notes, remaining, same⟩ := inductionHypothesis independent.tail
        (agree.trans (SymbolTable.AgreeOn.noted second other).symm)
      rw [SymbolTable.noted_noted] at remaining
      refine ⟨notes ++ part, passes_bind.mpr ⟨(), _, checks', remaining⟩, ?_⟩
      rw [List.flatten_cons]
      exact List.perm_append_comm.trans (same.append_left part)

/-- Independent checks that pass in one order on one table pass in every order on another one, and
leave the same types of nodes. -/
theorem Independent.forEach_perm (independent : Independent check items nodes)
    (agree : SymbolTable.AgreeOn nodes first second)
    (passes : (forEach check items).Passes first () after)
    (same : items.Perm reordered) :
    ∃ notes notes', notes.Perm notes' ∧ after = first.noted notes ∧
      (forEach check reordered).Passes second () (second.noted notes') := by
  obtain ⟨parts, notes, rfl, samePart, each⟩ := independent.exists_notes agree passes
  obtain ⟨parts', each', sameParts⟩ := List.perm_comp_forall₂ same.symm each
  have agreeSelf : SymbolTable.AgreeOn nodes second second := agree.symm.trans agree
  obtain ⟨notes', passes', samePart'⟩ :=
    (independent.perm same).forEach_of_each agreeSelf each'
  refine ⟨notes, notes', samePart.trans ?_, rfl, passes'⟩
  exact (sameParts.symm.flatten).trans samePart'.symm

end Check

end ShaderLang
