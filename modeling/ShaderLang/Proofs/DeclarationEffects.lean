import Mathlib.Data.List.Forall2
import ShaderLang.Proofs.DeclaredTypes

/-!
# What declarations add

A declaration of a shader adds a symbol and annotations to the symbol table, and all it reads there
is what its written types denote and whether its symbol is taken.  So declarations can be made in
any order: whether all of them can be made depends on the declarations alone, and so does what the
table shows in the end.
-/

namespace ShaderLang

/-! ## Symbols that exclude each other -/

namespace Symbol

/-- Two symbols that cannot be declared by one shader: they have the same name and the same kind
and, if they are methods, the same type. -/
def Clashes (first second : Symbol) : Prop :=
  first.name = second.name ∧ first.kind = second.kind ∧
    (first.kind = .method → first.type = second.type)

theorem Clashes.symm {first second : Symbol} (clashes : first.Clashes second) :
    second.Clashes first := by
  obtain ⟨sameName, sameKind, sameType⟩ := clashes
  refine ⟨sameName.symm, sameKind.symm, fun isMethod => ?_⟩
  rw [← sameKind] at isMethod
  exact (sameType isMethod).symm

theorem find?_append (front back : List Symbol) (name : String) (kind : SymbolKind) :
    find? (front ++ back) name kind = (find? front name kind).or (find? back name kind) :=
  List.find?_append

theorem isSome_find?_iff {symbols : List Symbol} {name : String} {kind : SymbolKind} :
    (find? symbols name kind).isSome = true ↔
      ∃ symbol ∈ symbols, symbol.name = name ∧ symbol.kind = kind := by
  unfold find?
  rw [List.find?_isSome]
  simp

/-- Among symbols that do not clash it does not matter which comes first. -/
theorem find?_perm {first second : List Symbol} {name : String} {kind : SymbolKind}
    (same : first.Perm second)
    (apart : first.Pairwise fun symbol other => ¬symbol.Clashes other)
    (notMethod : kind ≠ .method) :
    find? first name kind = find? second name kind := by
  induction same with
  | nil => rfl
  | cons symbol rest inductionHypothesis =>
      rw [Frame.find?_cons, Frame.find?_cons,
        inductionHypothesis (List.pairwise_cons.mp apart).2]
  | swap symbol other rest =>
      rw [Frame.find?_cons, Frame.find?_cons, Frame.find?_cons, Frame.find?_cons]
      have different := (List.pairwise_cons.mp apart).1 symbol List.mem_cons_self
      -- If both were asked for, they would clash.
      by_cases isSymbol : symbol.name = name ∧ symbol.kind = kind
      · by_cases isOther : other.name = name ∧ other.kind = kind
        · refine absurd ⟨isOther.1.trans isSymbol.1.symm, isOther.2.trans isSymbol.2.symm, ?_⟩
            different
          intro isMethod
          exact absurd (isOther.2.symm.trans isMethod) notMethod
        · rw [if_neg isOther, if_pos isSymbol, if_pos isSymbol]
      · rw [if_neg isSymbol, if_neg isSymbol]
  | trans firstSame secondSame firstHypothesis secondHypothesis =>
      rw [firstHypothesis apart]
      refine secondHypothesis ((firstSame.pairwise_iff ?_).mp apart)
      exact fun apart clashes => apart clashes.symm

end Symbol

/-! ## Views of a symbol table -/

namespace SymbolTable

/-- The symbol of the innermost frame with the given name and kind. -/
def findHere? (table : SymbolTable) (name : String) (kind : SymbolKind) : Option Symbol :=
  table.currentFrame?.bind fun frame => frame.find? name kind

/-- Whether a symbol is taken: a method by an overload of its type, another symbol by one of its
name and kind in the innermost frame. -/
def Holds (table : SymbolTable) (symbol : Symbol) : Prop :=
  if symbol.kind = .method then
    ∃ overload ∈ table.overloadsOf symbol.name,
      overload.signature.map Signature.type = some symbol.type
  else
    (table.findHere? symbol.name symbol.kind).isSome = true

/-- Plain names denote the same types in two tables. -/
def ReadsAlike (first second : SymbolTable) : Prop :=
  ∀ name, isPlainName name = true → first.resolveType? name = second.resolveType? name

/-- The table with more types of nodes, the latest first. -/
def noted (table : SymbolTable) (notes : List (NodeId × ShaderType)) : SymbolTable :=
  { table with
    annotations := { table.annotations with types := notes ++ table.annotations.types } }

variable {table first second third : SymbolTable}

theorem lookup?_eq_or (table : SymbolTable) (name : String) (kind : SymbolKind) :
    table.lookup? name kind = (table.findHere? name kind).or
      (table.frames.tail.findSome? fun frame => frame.find? name kind) := by
  unfold lookup? findHere? currentFrame?
  cases table.frames with
  | nil => rfl
  | cons frame rest =>
      rw [List.findSome?_cons]
      cases found : frame.find? name kind <;> simp [found]

theorem ReadsAlike.symm (alike : first.ReadsAlike second) : second.ReadsAlike first :=
  fun name plain => (alike name plain).symm

theorem ReadsAlike.trans (alike : first.ReadsAlike second) (other : second.ReadsAlike third) :
    first.ReadsAlike third :=
  fun name plain => (alike name plain).trans (other name plain)

theorem ReadsAlike.resolve (alike : first.ReadsAlike second) {written : TypeName}
    (plain : isPlainName written.name = true) :
    written.resolve first = written.resolve second := by
  unfold TypeName.resolve
  rw [alike _ plain]

theorem annotate_eq_noted (table : SymbolTable) (node : NodeId) (type : ShaderType) :
    table.annotate node type = table.noted [(node, type)] :=
  rfl

theorem noted_noted (table : SymbolTable) (first second : List (NodeId × ShaderType)) :
    (table.noted first).noted second = table.noted (second ++ first) := by
  unfold noted
  simp

theorem annotateAll_eq_noted (table : SymbolTable) (notes : List (NodeId × ShaderType)) :
    table.annotateAll notes = table.noted notes.reverse := by
  induction notes generalizing table with
  | nil => rfl
  | cons note rest inductionHypothesis =>
      change (table.annotate note.1 note.2).annotateAll rest = _
      rw [inductionHypothesis, annotate_eq_noted, noted_noted, List.reverse_cons]

/-- A method is taken by an overload, whenever it was registered. -/
theorem holds_method_iff {symbol : Symbol} (isMethod : symbol.kind = .method) :
    table.Holds symbol ↔ ∃ overload, (symbol.name, overload) ∈ table.overloads ∧
      overload.signature.map Signature.type = some symbol.type := by
  unfold Holds overloadsOf
  rw [if_pos isMethod]
  constructor
  · rintro ⟨overload, member, sameType⟩
    obtain ⟨entry, kept, rfl⟩ := List.mem_map.mp member
    obtain ⟨inTable, sameName⟩ := List.mem_filter.mp kept
    refine ⟨entry.2, ?_, sameType⟩
    rw [← beq_iff_eq.mp sameName]
    exact List.mem_reverse.mp inTable
  · rintro ⟨overload, member, sameType⟩
    refine ⟨overload, List.mem_map.mpr ⟨(symbol.name, overload), ?_, rfl⟩, sameType⟩
    exact List.mem_filter.mpr ⟨List.mem_reverse.mpr member, beq_self_eq_true _⟩

theorem holds_other_iff {symbol : Symbol} (notMethod : symbol.kind ≠ .method) :
    table.Holds symbol ↔ (table.findHere? symbol.name symbol.kind).isSome = true := by
  unfold Holds
  rw [if_neg notMethod]

end SymbolTable

/-! ## Declarations -/

/-- What a declaration adds to a symbol table: a symbol, the types of its nodes and, for a method,
its state. -/
structure Declaration where
  symbol : Symbol
  types : List (NodeId × ShaderType)
  methods : List (NodeId × MethodInfo)

namespace SymbolTable

/-- Declarations can be made: a frame is open, and every declared type has its name. -/
structure Ready (table : SymbolTable) : Prop where
  opened : table.frames ≠ []
  named : table.NamesTypes

/-- Declarations that can be made together: none is taken, and no two of them clash. -/
structure Admits (table : SymbolTable) (declarations : List Declaration) : Prop where
  free : ∀ declaration ∈ declarations, ¬table.Holds declaration.symbol
  apart : declarations.Pairwise fun first second => ¬first.symbol.Clashes second.symbol

/-- A symbol table that goes on from another by declarations. -/
structure Adds (declarations : List Declaration) (before after : SymbolTable) : Prop where
  ready : after.Ready
  outer : after.frames.tail = before.frames.tail
  found : ∀ name kind, kind ≠ .method → after.findHere? name kind =
    (before.findHere? name kind).or
      (Symbol.find? (declarations.map Declaration.symbol) name kind)
  overloads : ∀ symbol, symbol.kind = .method → (after.Holds symbol ↔
    before.Holds symbol ∨ ∃ declaration ∈ declarations, declaration.symbol.Clashes symbol)
  alike : after.ReadsAlike before
  types : ∃ new, after.annotations.types = new ++ before.annotations.types ∧
    new.Perm (declarations.flatMap Declaration.types)
  methods : ∃ new, after.annotations.methods = new ++ before.annotations.methods ∧
    new.Perm (declarations.flatMap Declaration.methods)

variable {table before middle after : SymbolTable} {declarations more : List Declaration}

theorem Admits.perm (admits : table.Admits declarations) (same : declarations.Perm more) :
    table.Admits more where
  free declaration member := admits.free declaration (same.mem_iff.mpr member)
  apart := by
    refine (same.pairwise_iff ?_).mp admits.apart
    exact fun apart clashes => apart clashes.symm

theorem exists_prepended {β : Type} {start between final front back : List β}
    (first : ∃ new, between = new ++ start ∧ new.Perm front)
    (second : ∃ new, final = new ++ between ∧ new.Perm back) :
    ∃ new, final = new ++ start ∧ new.Perm (front ++ back) := by
  obtain ⟨new, rfl, same⟩ := first
  obtain ⟨later, rfl, same'⟩ := second
  refine ⟨later ++ new, (List.append_assoc _ _ _).symm, ?_⟩
  exact List.perm_append_comm.trans (same.append same')

theorem Adds.refl (ready : table.Ready) : Adds [] table table where
  ready := ready
  outer := rfl
  found _ _ _ := (Option.or_none).symm
  overloads _ _ := by simp
  alike _ _ := rfl
  types := ⟨[], rfl, List.Perm.refl _⟩
  methods := ⟨[], rfl, List.Perm.refl _⟩

theorem Adds.trans (first : Adds declarations before middle) (second : Adds more middle after) :
    Adds (declarations ++ more) before after where
  ready := second.ready
  outer := second.outer.trans first.outer
  found name kind notMethod := by
    rw [second.found name kind notMethod, first.found name kind notMethod, List.map_append,
      Symbol.find?_append, Option.or_assoc]
  overloads symbol isMethod := by
    rw [second.overloads symbol isMethod, first.overloads symbol isMethod, or_assoc]
    simp only [List.mem_append, or_and_right, exists_or]
  alike := second.alike.trans first.alike
  types := by
    rw [List.flatMap_append]
    exact exists_prepended first.types second.types
  methods := by
    rw [List.flatMap_append]
    exact exists_prepended first.methods second.methods

/-- After declarations, a symbol is taken if it was before or if it clashes with one of them. -/
theorem Adds.holds_iff (adds : Adds declarations before after) (symbol : Symbol) :
    after.Holds symbol ↔
      before.Holds symbol ∨ ∃ declaration ∈ declarations, declaration.symbol.Clashes symbol := by
  by_cases isMethod : symbol.kind = .method
  · exact adds.overloads symbol isMethod
  · rw [holds_other_iff isMethod, holds_other_iff isMethod, adds.found _ _ isMethod,
      Option.isSome_or, Bool.or_eq_true, Symbol.isSome_find?_iff]
    refine or_congr_right ⟨?_, ?_⟩
    · rintro ⟨other, member, sameName, sameKind⟩
      obtain ⟨declaration, declared, rfl⟩ := List.mem_map.mp member
      exact ⟨declaration, declared, sameName, sameKind, fun other =>
        absurd (sameKind.symm.trans other) isMethod⟩
    · rintro ⟨declaration, declared, sameName, sameKind, -⟩
      exact ⟨declaration.symbol, List.mem_map_of_mem declared, sameName, sameKind⟩

end SymbolTable

namespace Check

/-- From every table in which written types denote what they denote in the given one, a check makes
a declaration, unless the symbol is taken. -/
def Declares (check : Check Symbol) (table : SymbolTable) (declaration : Declaration) : Prop :=
  ∀ start : SymbolTable, start.Ready → start.ReadsAlike table → ¬start.Holds declaration.symbol →
    ∃ after, check.Passes start declaration.symbol after ∧
      SymbolTable.Adds [declaration] start after

/-- A check that does nothing but make a declaration whose symbol is not taken. -/
def IsDeclaration (check : Check Symbol) : Prop :=
  ∀ before symbol after, before.Ready → check.Passes before symbol after →
    ¬before.Holds symbol ∧
      ∃ declaration, declaration.symbol = symbol ∧ check.Declares before declaration

variable {α : Type} {check : α → Check Symbol} {items reordered : List α}
  {before after : SymbolTable} {values : List Symbol}

theorem Declares.congr {check : Check Symbol} {first second : SymbolTable}
    {declaration : Declaration} (declares : check.Declares first declaration)
    (alike : second.ReadsAlike first) :
    check.Declares second declaration :=
  fun start ready startAlike => declares start ready (startAlike.trans alike)

/-- The declarations that a pass over declarations makes can be made together. -/
theorem exists_declares_of_collect (isDeclaration : ∀ item ∈ items, (check item).IsDeclaration)
    (passes : (collect check items).Passes before values after)
    (ready : before.Ready) :
    ∃ declarations, values = declarations.map Declaration.symbol ∧
      List.Forall₂ (fun item declaration => (check item).Declares before declaration) items
        declarations ∧
      before.Admits declarations ∧ SymbolTable.Adds declarations before after := by
  induction items generalizing before values with
  | nil =>
      obtain ⟨rfl, rfl⟩ := passes_pure.mp passes
      exact ⟨[], rfl, .nil, ⟨by simp, .nil⟩, .refl ready⟩
  | cons item rest inductionHypothesis =>
      obtain ⟨value, middle, itemPasses, restPasses⟩ := passes_bind.mp passes
      obtain ⟨others, last, othersPass, finished⟩ := passes_bind.mp restPasses
      obtain ⟨rfl, rfl⟩ := passes_pure.mp finished
      obtain ⟨free, declaration, rfl, declares⟩ :=
        isDeclaration item List.mem_cons_self _ _ _ ready itemPasses
      obtain ⟨reached, reaches, adds⟩ := declares before ready (fun _ _ => rfl) free
      obtain ⟨-, rfl⟩ := reaches.unique itemPasses
      obtain ⟨declarations, rfl, correspond, admits, addsRest⟩ := inductionHypothesis
        (fun other member => isDeclaration other (List.mem_cons_of_mem _ member)) othersPass
        adds.ready
      -- Nothing that the rest declares is taken behind the item, so it was not taken before it
      -- either, and does not clash with it.
      have freeRest : ∀ other ∈ declarations, ¬before.Holds other.symbol ∧
          ¬declaration.symbol.Clashes other.symbol := by
        intro other member
        have free := admits.free other member
        rw [adds.holds_iff] at free
        exact ⟨fun held => free (.inl held), fun clashes =>
          free (.inr ⟨declaration, List.mem_singleton_self _, clashes⟩)⟩
      refine ⟨declaration :: declarations, rfl, .cons declares ?_, ⟨?_, ?_⟩, adds.trans addsRest⟩
      · exact correspond.imp fun _ _ declares => declares.congr adds.alike.symm
      · exact List.forall_mem_cons.mpr ⟨free, fun other member => (freeRest other member).1⟩
      · exact List.pairwise_cons.mpr ⟨fun other member => (freeRest other member).2, admits.apart⟩

/-- Declarations that can be made together are made by a pass over them. -/
theorem collect_of_declares {declarations : List Declaration}
    (correspond : List.Forall₂ (fun item declaration => (check item).Declares before declaration)
      items declarations)
    (admits : before.Admits declarations)
    (ready : before.Ready) :
    ∃ after, (collect check items).Passes before (declarations.map Declaration.symbol) after ∧
      SymbolTable.Adds declarations before after := by
  induction items generalizing before declarations with
  | nil =>
      cases correspond
      exact ⟨before, passes_pure.mpr ⟨rfl, rfl⟩, .refl ready⟩
  | cons item rest inductionHypothesis =>
      cases correspond with
      | @cons _ declaration _ declarations declares restDeclares =>
          obtain ⟨middle, itemPasses, adds⟩ := declares before ready (fun _ _ => rfl)
            (admits.free declaration List.mem_cons_self)
          have admitsRest : middle.Admits declarations := by
            refine ⟨fun other member => ?_, (List.pairwise_cons.mp admits.apart).2⟩
            rw [adds.holds_iff]
            rintro (held | ⟨_, same, clashes⟩)
            · exact admits.free other (List.mem_cons_of_mem _ member) held
            · rw [List.mem_singleton.mp same] at clashes
              exact (List.pairwise_cons.mp admits.apart).1 other member clashes
          obtain ⟨after, restPasses, addsRest⟩ := inductionHypothesis
            (restDeclares.imp fun _ _ declares => declares.congr adds.alike) admitsRest adds.ready
          exact ⟨after, passes_bind.mpr ⟨_, _, itemPasses, passes_bind.mpr
            ⟨_, _, restPasses, passes_pure.mpr ⟨rfl, rfl⟩⟩⟩, adds.trans addsRest⟩

/-- A pass over declarations succeeds in every order, and makes the same declarations. -/
theorem collect_perm (isDeclaration : ∀ item ∈ items, (check item).IsDeclaration)
    (passes : (collect check items).Passes before values after)
    (ready : before.Ready)
    (same : items.Perm reordered) :
    ∃ declarations declarations' after', declarations.Perm declarations' ∧
      before.Admits declarations ∧ values = declarations.map Declaration.symbol ∧
      (collect check reordered).Passes before (declarations'.map Declaration.symbol) after' ∧
      SymbolTable.Adds declarations before after ∧
      SymbolTable.Adds declarations' before after' := by
  obtain ⟨declarations, isValues, correspond, admits, adds⟩ :=
    exists_declares_of_collect isDeclaration passes ready
  obtain ⟨declarations', correspond', same'⟩ := List.perm_comp_forall₂ same.symm correspond
  obtain ⟨after', passes', adds'⟩ :=
    collect_of_declares correspond' (admits.perm same'.symm) ready
  exact ⟨declarations, declarations', after', same'.symm, admits, isValues, passes', adds, adds'⟩

end Check

/-! ## Variables, sampler states and compositions -/

theorem Frame.find?_add {frame : Frame} {symbol : Symbol} {name : String} {kind : SymbolKind}
    (absent : frame.find? symbol.name symbol.kind = none) :
    (frame.add symbol).find? name kind =
      (frame.find? name kind).or (Symbol.find? [symbol] name kind) := by
  unfold Frame.add Frame.find? at *
  rw [Frame.find?_cons]
  by_cases same : symbol.name = name ∧ symbol.kind = kind
  · obtain ⟨rfl, rfl⟩ := same
    rw [absent, if_pos ⟨rfl, rfl⟩, Option.none_or]
    apply Frame.find?_insertOrdered_self
    intro earlier member sameName sameKind
    have notFound := List.find?_eq_none.mp absent earlier member
    simp [sameName, sameKind] at notFound
  · rw [Frame.find?_insertOrdered_other same, if_neg same]
    exact (Option.or_none).symm

section Checks

variable {before after start : SymbolTable} {symbol : Symbol} {location : Location}
  {notes : List (NodeId × ShaderType)} {result : Unit}

theorem Check.free_of_declareUnique (notMethod : symbol.kind ≠ .method)
    (passes : (Check.declareUnique symbol location).Passes (before.noted notes) result after) :
    ¬before.Holds symbol := by
  obtain ⟨frame, rest, frames, absent, -⟩ := Check.passes_declareUnique.mp passes
  change before.frames = frame :: rest at frames
  rw [SymbolTable.holds_other_iff notMethod]
  simp [SymbolTable.findHere?, SymbolTable.currentFrame?, frames, absent]

theorem Check.adds_declareUnique (ready : start.Ready) (notMethod : symbol.kind ≠ .method)
    (free : ¬start.Holds symbol) :
    ∃ after, (Check.declareUnique symbol location).Passes (start.noted notes) () after ∧
      SymbolTable.Adds [⟨symbol, notes, []⟩] start after := by
  obtain ⟨frame, rest, frames⟩ := List.exists_cons_of_ne_nil ready.opened
  have absent : frame.find? symbol.name symbol.kind = none := by
    rw [SymbolTable.holds_other_iff notMethod] at free
    simpa [SymbolTable.findHere?, SymbolTable.currentFrame?, frames] using free
  refine ⟨{ start.noted notes with frames := frame.add symbol :: rest },
    Check.passes_declareUnique.mpr ⟨frame, rest, frames, absent, rfl⟩, ?_⟩
  refine
    { ready := ⟨List.cons_ne_nil _ _, ready.named⟩
      outer := by rw [frames]; rfl
      found := ?_
      overloads := ?_
      alike := fun _ _ => rfl
      types := ⟨notes, rfl, by simp⟩
      methods := ⟨[], rfl, by simp⟩ }
  · intro name kind _
    unfold SymbolTable.findHere? SymbolTable.currentFrame?
    rw [frames]
    exact Frame.find?_add absent
  · intro other isMethod
    rw [SymbolTable.holds_method_iff isMethod, SymbolTable.holds_method_iff isMethod]
    refine (or_iff_left ?_).symm
    rintro ⟨declaration, member, -, sameKind, -⟩
    rw [List.mem_singleton.mp member] at sameKind
    exact notMethod (sameKind.trans isMethod)

/-- A check that annotates nodes and then declares a symbol that is not in the frame. -/
theorem Check.isDeclaration_of_declareUnique {check : Check Symbol}
    (declares : ∀ before symbol after, check.Passes before symbol after →
      symbol.kind ≠ .method ∧ ∃ notes,
        (Check.declareUnique symbol location).Passes (before.noted notes) () after ∧
        ∀ start changed, start.ReadsAlike before →
          (Check.declareUnique symbol location).Passes (start.noted notes) () changed →
            check.Passes start symbol changed) :
    check.IsDeclaration := by
  intro before symbol after ready passes
  obtain ⟨notMethod, notes, unique, again⟩ := declares before symbol after passes
  refine ⟨Check.free_of_declareUnique notMethod unique, ⟨symbol, notes, []⟩, rfl, ?_⟩
  intro start startReady alike free
  obtain ⟨changed, declared, adds⟩ := Check.adds_declareUnique startReady notMethod free
  exact ⟨changed, again start changed alike declared, adds⟩

theorem Check.isDeclaration_annotated (node : NodeId) (location : Location)
    (notMethod : symbol.kind ≠ .method) :
    Check.IsDeclaration (do
      Check.annotate node symbol.type
      Check.declareUnique symbol location
      return symbol) := by
  apply Check.isDeclaration_of_declareUnique
  intro before value after passes
  obtain ⟨_, _, annotates, rest⟩ := Check.passes_bind.mp passes
  rw [Check.passes_annotate] at annotates
  subst annotates
  obtain ⟨_, _, declares, finished⟩ := Check.passes_bind.mp rest
  obtain ⟨rfl, rfl⟩ := Check.passes_pure.mp finished
  refine ⟨notMethod, [(node, symbol.type)], declares, ?_⟩
  intro start changed _ declared
  exact Check.passes_bind.mpr ⟨(), _, Check.passes_annotate.mpr rfl, Check.passes_bind.mpr
    ⟨(), changed, declared, Check.passes_pure.mpr ⟨rfl, rfl⟩⟩⟩

theorem Sampler.isDeclaration_check (sampler : Sampler) : sampler.check.IsDeclaration :=
  Check.isDeclaration_annotated sampler.node sampler.location nofun

theorem Composition.isDeclaration_check (composition : Composition) :
    composition.check.IsDeclaration :=
  Check.isDeclaration_annotated composition.node composition.location nofun

/-- The value of a member is a literal, whose check reads nothing. -/
theorem Member.checkValue_noted {member : Member} {type : ShaderType}
    (passes : (member.checkValue type).Passes before result after) :
    ∃ notes, after = before.noted notes ∧
      ∀ start, (member.checkValue type).Passes start () (start.noted notes) := by
  unfold Member.checkValue at *
  split at passes
  · obtain ⟨-, rfl⟩ := Check.passes_pure.mp passes
    exact ⟨[], rfl, fun start => Check.passes_pure.mpr ⟨rfl, rfl⟩⟩
  · split at passes
    · next node location value present =>
        obtain ⟨found, middle, checks, reports⟩ := Check.passes_bind.mp passes
        obtain ⟨matching, rfl⟩ := Check.passes_report.mp reports
        obtain ⟨clean, rfl, rfl⟩ := Expression.passes_check.mp checks
        refine ⟨[(node, value.type)], rfl, fun start => Check.passes_bind.mpr ⟨value.type, _,
          Expression.passes_check.mpr ⟨clean, rfl, rfl⟩, Check.passes_report.mpr ⟨matching, rfl⟩⟩⟩
    · obtain ⟨impossible, -⟩ := Check.passes_report.mp passes
      cases impossible

theorem Member.isDeclaration_check {member : Member}
    (plain : isPlainName member.type.name = true) :
    member.check.IsDeclaration := by
  apply Check.isDeclaration_of_declareUnique
  intro before symbol after passes
  obtain ⟨type, middle, resolved, rfl, values, declares⟩ := Member.passes_check passes
  obtain ⟨notes, rfl, valuesAgain⟩ := Member.checkValue_noted values
  rw [SymbolTable.annotate_eq_noted, SymbolTable.noted_noted] at declares
  refine ⟨nofun, (member.node, type) :: notes, declares, ?_⟩
  intro start changed alike declared
  rw [← alike.resolve plain] at resolved
  refine Check.passes_bind.mpr ⟨type, start, Check.passes_resolve.mpr ⟨resolved, rfl⟩, ?_⟩
  refine Check.passes_bind.mpr ⟨(), _, valuesAgain start, ?_⟩
  refine Check.passes_bind.mpr ⟨(), _, Check.passes_annotate.mpr rfl, ?_⟩
  rw [SymbolTable.annotate_eq_noted, SymbolTable.noted_noted]
  exact Check.passes_bind.mpr ⟨(), changed, declared, Check.passes_pure.mpr ⟨rfl, rfl⟩⟩

end Checks

/-! ## Methods -/

/-- A table in which an overload is being registered: since the start, types of nodes have been
noted, and plain names denote what they did. -/
structure SymbolTable.Registering (name : String) (start : SymbolTable)
    (notes : List (NodeId × ShaderType)) (table : SymbolTable) : Prop where
  frames : table.frames = start.frames
  annotations : table.annotations = (start.noted notes).annotations
  registering : table.registering = true
  overloads : ∃ overload, table.overloads = (name, overload) :: start.overloads
  named : table.NamesTypes
  alike : table.ReadsAlike start

/-- The types of the parameters of a method, the latest first. -/
def Parameter.notes (parameters : List Parameter) (types : List ShaderType) :
    List (NodeId × ShaderType) :=
  ((parameters.map Parameter.node).zip types).reverse

section Methods

variable {before after start table : SymbolTable} {name : String}
  {notes : List (NodeId × ShaderType)} {symbol : Symbol} {type : ShaderType}

namespace SymbolTable.Registering

theorem registerFunction (named : start.NamesTypes) (name : String) :
    Registering name start [] (start.registerFunction name) where
  frames := rfl
  annotations := rfl
  registering := rfl
  overloads := ⟨_, rfl⟩
  named := named
  alike _ _ := rfl

/-- The type of a parameter is declared under a name that is not plain or denotes it already. -/
theorem declareType (registering : Registering name start notes table) {written : TypeName}
    (resolved : written.resolve table = .ok type) :
    Registering name start notes (table.declareType type.text type) := by
  have named := registering.named.declareType (.inr (Eq.refl type.text))
  have alike : (table.declareType type.text type).ReadsAlike start := by
    intro asked plain
    rw [registering.named.resolveType?_declareType resolved plain]
    exact registering.alike asked plain
  unfold SymbolTable.declareType at named alike ⊢
  split
  · exact registering
  · next untaken =>
      rw [if_neg untaken] at named alike
      exact { registering with named := named, alike := alike }

theorem addParameter (registering : Registering name start notes table) (parameter : Symbol) :
    ∃ changed, table.addParameter parameter = .ok changed ∧
      Registering name start notes changed := by
  obtain ⟨overload, overloads⟩ := registering.overloads
  unfold SymbolTable.addParameter
  rw [registering.registering, overloads]
  exact ⟨_, rfl, { registering with registering := rfl, overloads := ⟨_, rfl⟩ }⟩

theorem annotate (registering : Registering name start notes table) (node : NodeId)
    (type : ShaderType) :
    Registering name start ((node, type) :: notes) (table.annotate node type) :=
  { registering with
    annotations := by
      unfold SymbolTable.annotate
      rw [registering.annotations]
      rfl }

/-- A parameter whose type is known before the registration passes. -/
theorem check (registering : Registering name start notes table) {parameter : Parameter}
    (plain : isPlainName parameter.type.name = true)
    (resolved : parameter.type.resolve start = .ok type) :
    ∃ after, parameter.check.Passes table type after ∧
      Registering name start ((parameter.node, type) :: notes) after := by
  rw [← registering.alike.resolve plain] at resolved
  have declared : Registering name start notes
      (if type.isUndefined then table else table.declareType type.text type) := by
    split
    · exact registering
    · exact registering.declareType resolved
  obtain ⟨changed, added, adding⟩ :=
    declared.addParameter ⟨parameter.name, .binding, .function, type⟩
  refine ⟨changed.annotate parameter.node type, ?_, adding.annotate parameter.node type⟩
  refine Check.passes_bind.mpr ⟨type, table, Check.passes_resolve.mpr ⟨resolved, rfl⟩, ?_⟩
  refine Check.passes_bind.mpr ⟨(), _, Check.passes_update.mpr rfl, ?_⟩
  refine Check.passes_bind.mpr ⟨(), changed, Check.passes_attempt.mpr added, ?_⟩
  exact Check.passes_bind.mpr ⟨(), _, Check.passes_annotate.mpr rfl,
    Check.passes_pure.mpr ⟨rfl, rfl⟩⟩

variable {parameters : List Parameter} {types : List ShaderType}

theorem collect (registering : Registering name start notes table)
    (plain : ∀ parameter ∈ parameters, isPlainName parameter.type.name = true)
    (resolved : parameters.map (fun parameter => parameter.type.resolve start) =
      types.map .ok) :
    ∃ after, (Check.collect Parameter.check parameters).Passes table types after ∧
      Registering name start (Parameter.notes parameters types ++ notes) after := by
  induction parameters generalizing notes table types with
  | nil =>
      obtain rfl := List.map_eq_nil_iff.mp resolved.symm
      exact ⟨table, Check.passes_pure.mpr ⟨rfl, rfl⟩, registering⟩
  | cons parameter rest inductionHypothesis =>
      obtain ⟨type, others, rfl, resolves, restResolves⟩ := List.map_eq_cons_iff.mp resolved.symm
      obtain ⟨parameterPlain, restPlain⟩ := List.forall_mem_cons.mp plain
      obtain ⟨middle, passes, annotated⟩ := registering.check parameterPlain resolves.symm
      obtain ⟨after, restPasses, finished⟩ :=
        inductionHypothesis annotated restPlain restResolves.symm
      refine ⟨after, Check.passes_bind.mpr ⟨type, middle, passes, Check.passes_bind.mpr
        ⟨others, after, restPasses, Check.passes_pure.mpr ⟨rfl, rfl⟩⟩⟩, ?_⟩
      simpa [Parameter.notes] using finished

theorem resolve_of_collect (registering : Registering name start notes table)
    (plain : ∀ parameter ∈ parameters, isPlainName parameter.type.name = true)
    (passes : (Check.collect Parameter.check parameters).Passes table types after) :
    parameters.map (fun parameter => parameter.type.resolve start) = types.map .ok := by
  induction parameters generalizing notes table types with
  | nil =>
      obtain ⟨rfl, -⟩ := Check.passes_pure.mp passes
      rfl
  | cons parameter rest inductionHypothesis =>
      obtain ⟨parameterPlain, restPlain⟩ := List.forall_mem_cons.mp plain
      obtain ⟨type, middle, checks, remaining⟩ := Check.passes_bind.mp passes
      obtain ⟨others, _, restPasses, finished⟩ := Check.passes_bind.mp remaining
      obtain ⟨rfl, rfl⟩ := Check.passes_pure.mp finished
      have resolved : parameter.type.resolve start = .ok type := by
        rw [← registering.alike.resolve parameterPlain]
        exact (Parameter.passes_check checks).1
      obtain ⟨reached, reaches, annotated⟩ := registering.check parameterPlain resolved
      obtain ⟨-, rfl⟩ := reaches.unique checks
      rw [List.map_cons, List.map_cons, resolved,
        inductionHypothesis annotated restPlain restPasses]

theorem completeFunction (registering : Registering name start notes table)
    (signature : Signature) :
    ∃ overload : Overload, overload.signature = some signature ∧
      table.completeFunction signature = .ok { table with
        overloads := (name, overload) :: start.overloads
        registering := false } := by
  obtain ⟨overload, overloads⟩ := registering.overloads
  refine ⟨{ overload with signature := some signature }, rfl, ?_⟩
  unfold SymbolTable.completeFunction
  rw [registering.registering, overloads]

/-- What the end of a registration and the declaration of the method add to the start. -/
theorem adds (registering : Registering name start notes table) {frame : Frame}
    {rest : List Frame} {overload : Overload} {signature : Signature} {node : NodeId}
    {info : MethodInfo}
    (frames : start.frames = frame :: rest)
    (completed : overload.signature = some signature) :
    Adds [⟨⟨name, .method, .none, signature.type⟩, (node, signature.type) :: notes,
      [(node, info)]⟩] start
      { table with
        frames := frame.add ⟨name, .method, .none, signature.type⟩ :: rest
        overloads := (name, overload) :: start.overloads
        registering := false
        annotations := (table.annotations.setType node signature.type).setMethod node info } where
  ready := ⟨List.cons_ne_nil _ _, registering.named⟩
  outer := by rw [frames]; rfl
  found asked kind notMethod := by
    have other : ¬(name = asked ∧ SymbolKind.method = kind) := fun same => notMethod same.2.symm
    unfold findHere? currentFrame?
    rw [frames]
    change Symbol.find? (Frame.insertOrdered _ frame.symbols) asked kind =
      (Symbol.find? frame.symbols asked kind).or (Symbol.find? [_] asked kind)
    rw [Frame.find?_insertOrdered_other other, Frame.find?_cons, if_neg other]
    exact (Option.or_none).symm
  overloads symbol isMethod := by
    rw [holds_method_iff isMethod, holds_method_iff isMethod]
    constructor
    · rintro ⟨found, member, sameType⟩
      rcases List.mem_cons.mp member with same | earlier
      · obtain ⟨sameName, rfl⟩ := Prod.mk.inj same
        rw [completed, Option.map_some, Option.some.injEq] at sameType
        exact .inr ⟨_, List.mem_singleton_self _, sameName.symm, isMethod.symm, fun _ => sameType⟩
      · exact .inl ⟨found, earlier, sameType⟩
    · rintro (⟨found, earlier, sameType⟩ | ⟨declaration, member, clashes⟩)
      · exact ⟨found, List.mem_cons_of_mem _ earlier, sameType⟩
      · rw [List.mem_singleton.mp member] at clashes
        obtain ⟨sameName, -, sameType⟩ := clashes
        refine ⟨overload, ?_, ?_⟩
        · rw [← sameName]
          exact List.mem_cons_self
        · rw [completed, ← sameType rfl]
          rfl
  alike := registering.alike
  types := by
    refine ⟨(node, signature.type) :: notes, ?_, by simp⟩
    rw [registering.annotations]
    rfl
  methods := by
    refine ⟨[(node, info)], ?_, by simp⟩
    rw [registering.annotations]
    rfl

end SymbolTable.Registering

namespace Method

variable {method : Method} {returned : ShaderType} {parameters : List ShaderType}

theorem signature_type_injective {first second : Signature} (same : first.type = second.type) :
    first = second := by
  obtain ⟨returned, parameters⟩ := first
  cases same
  rfl

/-- A method is taken by an overload of its name that has its signature. -/
theorem holds_iff (returned : ShaderType) (parameters : List ShaderType) :
    table.Holds ⟨name, .method, .none, .function returned parameters⟩ ↔
      ∃ overload ∈ table.overloadsOf name, overload.signature = some ⟨returned, parameters⟩ := by
  unfold SymbolTable.Holds
  rw [if_pos rfl]
  refine exists_congr fun overload => and_congr_right fun _ => ?_
  constructor
  · intro sameType
    obtain ⟨found, isSignature, same⟩ := Option.map_eq_some_iff.mp sameType
    have equal : found = ⟨returned, parameters⟩ := signature_type_injective same
    rw [isSignature, equal]
  · intro same
    rw [same]
    rfl

theorem free_of_declare (passes : method.declare.Passes before symbol after) :
    ¬before.Holds symbol := by
  obtain ⟨earlier, _, reads, rest⟩ := Check.passes_bind.mp passes
  obtain ⟨rfl, rfl⟩ := Check.passes_read.mp reads
  obtain ⟨_, _, -, rest⟩ := Check.passes_bind.mp rest
  obtain ⟨returned, _, -, rest⟩ := Check.passes_bind.mp rest
  obtain ⟨parameters, _, -, rest⟩ := Check.passes_bind.mp rest
  dsimp only at rest
  -- An earlier overload with this signature would have been reported.
  split at rest
  · obtain ⟨_, _, reports, -⟩ := Check.passes_bind.mp rest
    obtain ⟨impossible, -⟩ := Check.passes_report.mp reports
    cases impossible
  · next different =>
      obtain ⟨_, _, -, rest⟩ := Check.passes_bind.mp rest
      obtain ⟨_, _, -, rest⟩ := Check.passes_bind.mp rest
      obtain ⟨_, _, -, rest⟩ := Check.passes_bind.mp rest
      obtain ⟨_, _, -, finished⟩ := Check.passes_bind.mp rest
      obtain ⟨rfl, -⟩ := Check.passes_pure.mp finished
      rw [Signature.type, holds_iff]
      simpa using different

/-- What the declaration of a method with a given signature adds. -/
def declaration (method : Method) (signature : Signature) : Declaration where
  symbol := ⟨method.name, .method, .none, signature.type⟩
  types := (method.node, signature.type) :: Parameter.notes method.parameters signature.parameters
  methods := [(method.node, ⟨EntryPoint.ofMethodName? method.name, .typeResolved⟩)]

theorem adds_declare (ready : start.Ready) {signature : Signature}
    (plain : ∀ parameter ∈ method.parameters, isPlainName parameter.type.name = true)
    (returns : method.returned.resolve start = .ok signature.returned)
    (resolved : method.parameters.map (fun parameter => parameter.type.resolve start) =
      signature.parameters.map .ok)
    (free : ¬start.Holds (method.declaration signature).symbol) :
    ∃ after, method.declare.Passes start (method.declaration signature).symbol after ∧
      SymbolTable.Adds [method.declaration signature] start after := by
  obtain ⟨frame, rest, frames⟩ := List.exists_cons_of_ne_nil ready.opened
  obtain ⟨middle, collects, registering⟩ :=
    (SymbolTable.Registering.registerFunction ready.named method.name).collect plain resolved
  rw [List.append_nil] at registering
  obtain ⟨overload, completed, completes⟩ := registering.completeFunction signature
  have different : ¬(start.overloadsOf method.name).any
      (fun overload => overload.signature = some signature) = true := by
    intro found
    apply free
    simpa [declaration, Signature.type, holds_iff] using found
  refine ⟨_, ?_, registering.adds frames completed⟩
  refine Check.passes_bind.mpr ⟨_, start, Check.passes_read.mpr ⟨rfl, rfl⟩, ?_⟩
  refine Check.passes_bind.mpr ⟨(), _, Check.passes_update.mpr rfl, ?_⟩
  refine Check.passes_bind.mpr ⟨signature.returned, _, Check.passes_resolve.mpr ⟨returns, rfl⟩, ?_⟩
  refine Check.passes_bind.mpr ⟨signature.parameters, middle, collects, ?_⟩
  dsimp only
  rw [if_neg different]
  refine Check.passes_bind.mpr ⟨(), _, Check.passes_attempt.mpr completes, ?_⟩
  refine Check.passes_bind.mpr ⟨(), _, Check.passes_annotate.mpr rfl, ?_⟩
  refine Check.passes_bind.mpr ⟨(), _, Check.passes_update.mpr rfl, ?_⟩
  exact Check.passes_bind.mpr ⟨(), _, Check.passes_declare.mpr
    ⟨frame, rest, registering.frames.trans frames, rfl⟩, Check.passes_pure.mpr ⟨rfl, rfl⟩⟩

theorem isDeclaration_declare
    (returnsPlain : isPlainName method.returned.name = true)
    (plain : ∀ parameter ∈ method.parameters, isPlainName parameter.type.name = true) :
    method.declare.IsDeclaration := by
  intro before symbol after ready passes
  obtain ⟨returned, parameters, middle, completed, returns, collects, -, rfl, -⟩ :=
    Method.passes_declare passes
  have resolved :=
    (SymbolTable.Registering.registerFunction ready.named method.name).resolve_of_collect plain
      collects
  refine ⟨free_of_declare passes, method.declaration ⟨returned, parameters⟩, rfl, ?_⟩
  intro start startReady alike free
  rw [← alike.resolve returnsPlain] at returns
  have resolvedAgain : method.parameters.map (fun parameter => parameter.type.resolve start) =
      parameters.map .ok := by
    rw [← resolved]
    exact List.map_congr_left fun parameter member => alike.resolve (plain parameter member)
  exact adds_declare startReady plain returns resolvedAgain free

end Method

end Methods

end ShaderLang
