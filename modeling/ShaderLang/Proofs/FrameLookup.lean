import ShaderLang.Proofs.AnalysisGrowth
import ShaderLang.Proofs.Typing

/-!
# What the frames of analysis show

Frames keep their symbols in order, and names are looked up from the innermost frame on.  While
nothing is reported, the frames show the visible names with their types, and nothing else.
-/

namespace ShaderLang

/-! ## Adding a symbol to a frame -/

theorem SymbolKind.rank_injective {first second : SymbolKind} (same : first.rank = second.rank) :
    first = second := by
  cases first <;> cases second <;> cases same <;> rfl

theorem Storage.rank_injective {first second : Storage} (same : first.rank = second.rank) :
    first = second := by
  cases first <;> cases second <;> cases same <;> rfl

/-- Symbols stand at one place exactly when they have the same key. -/
theorem Symbol.order_eq_iff {first second : Symbol} :
    first.order second = .eq ↔
      first.name = second.name ∧ first.kind = second.kind ∧ first.storage = second.storage := by
  unfold Symbol.order
  rw [Ordering.then_eq_eq, Ordering.then_eq_eq, Std.compare_eq_iff_eq, Std.compare_eq_iff_eq,
    Std.compare_eq_iff_eq]
  constructor
  · rintro ⟨sameName, sameKind, sameStorage⟩
    exact ⟨sameName, SymbolKind.rank_injective sameKind, Storage.rank_injective sameStorage⟩
  · rintro ⟨sameName, sameKind, sameStorage⟩
    exact ⟨sameName, congrArg _ sameKind, congrArg _ sameStorage⟩

namespace Frame

theorem find?_cons (first : Symbol) (rest : List Symbol) (name : String) (kind : SymbolKind) :
    Symbol.find? (first :: rest) name kind =
      if first.name = name ∧ first.kind = kind then some first
      else Symbol.find? rest name kind := by
  unfold Symbol.find?
  rw [List.find?_cons]
  by_cases same : first.name = name ∧ first.kind = kind
  · simp [same]
  · rw [if_neg same]
    have different : (first.name == name && first.kind == kind) = false := by
      simpa using same
    rw [different]

/-- Adding a symbol does not hide symbols of another name or kind. -/
theorem find?_insertOrdered_other {symbol : Symbol} {name : String} {kind : SymbolKind}
    (other : ¬(symbol.name = name ∧ symbol.kind = kind)) (symbols : List Symbol) :
    Symbol.find? (insertOrdered symbol symbols) name kind = Symbol.find? symbols name kind := by
  induction symbols with
  | nil =>
      unfold insertOrdered
      rw [find?_cons, if_neg other]
  | cons first rest inductionHypothesis =>
      unfold insertOrdered
      split
      · rw [find?_cons, if_neg other]
      · next same =>
          obtain ⟨sameName, sameKind, -⟩ := Symbol.order_eq_iff.mp same
          rw [sameName, sameKind] at other
          rw [find?_cons, find?_cons, if_neg other, if_neg (sameName ▸ sameKind ▸ other)]
      · rw [find?_cons, find?_cons, inductionHypothesis]

/-- An added symbol is found, unless one of its name and kind lives elsewhere. -/
theorem find?_insertOrdered_self {symbol : Symbol} {symbols : List Symbol}
    (sameStorage : ∀ earlier ∈ symbols, earlier.name = symbol.name → earlier.kind = symbol.kind →
      earlier.storage = symbol.storage) :
    Symbol.find? (insertOrdered symbol symbols) symbol.name symbol.kind = some symbol := by
  induction symbols with
  | nil =>
      unfold insertOrdered
      rw [find?_cons, if_pos ⟨rfl, rfl⟩]
  | cons first rest inductionHypothesis =>
      unfold insertOrdered
      split
      · rw [find?_cons, if_pos ⟨rfl, rfl⟩]
      · rw [find?_cons, if_pos ⟨rfl, rfl⟩]
      · next later =>
          have different : ¬(first.name = symbol.name ∧ first.kind = symbol.kind) := by
            rintro ⟨sameName, sameKind⟩
            have equal := Symbol.order_eq_iff.mpr ⟨sameName.symm, sameKind.symm,
              (sameStorage first List.mem_cons_self sameName sameKind).symm⟩
            rw [equal] at later
            cases later
          rw [find?_cons, if_neg different]
          exact inductionHypothesis fun earlier member =>
            sameStorage earlier (List.mem_cons_of_mem _ member)

theorem mem_insertOrdered {symbol added : Symbol} {symbols : List Symbol}
    (member : symbol ∈ insertOrdered added symbols) :
    symbol = added ∨ symbol ∈ symbols := by
  induction symbols with
  | nil => exact .inl (List.mem_singleton.mp member)
  | cons first rest inductionHypothesis =>
      unfold insertOrdered at member
      split at member
      · exact List.mem_cons.mp member
      · rcases List.mem_cons.mp member with same | later
        · exact .inl same
        · exact .inr (List.mem_cons_of_mem _ later)
      · rcases List.mem_cons.mp member with same | later
        · exact .inr (by rw [same]; exact List.mem_cons_self)
        · rcases inductionHypothesis later with same | earlier
          · exact .inl same
          · exact .inr (List.mem_cons_of_mem _ earlier)

/-! ## Frames and scopes -/

/-- A frame shows the names of a scope with their types. -/
def Shows (frame : Frame) (scope : List (String × Referent)) : Prop :=
  ∀ name, (frame.find? name .binding).map Symbol.type = (scope.lookup name).map Referent.type

/-- A frame of a body shows the names of a scope, and all its symbols live in the function. -/
structure ShowsLocally (frame : Frame) (scope : List (String × Referent)) : Prop where
  shows : frame.Shows scope
  storage : ∀ symbol ∈ frame.symbols, symbol.storage = .function

variable {frame : Frame} {scope : List (String × Referent)} {symbol : Symbol}

theorem showsLocally_empty : Frame.empty.ShowsLocally [] where
  shows _ := rfl
  storage := List.forall_mem_nil _

theorem Shows.add_other (shows : frame.Shows scope) (other : symbol.kind ≠ .binding) :
    (frame.add symbol).Shows scope := by
  intro name
  unfold Frame.add Frame.find?
  rw [find?_insertOrdered_other fun same => other same.2]
  exact shows name

theorem Shows.add_of_find? (shows : frame.Shows scope) (symbol : Symbol) {referent : Referent}
    (isBinding : symbol.kind = .binding)
    (found : (frame.add symbol).find? symbol.name symbol.kind = some symbol)
    (sameType : referent.type = symbol.type) :
    (frame.add symbol).Shows ((symbol.name, referent) :: scope) := by
  intro name
  rw [lookup_cons_eq]
  by_cases same : name = symbol.name
  · rw [if_pos same, same, ← isBinding, found, Option.map_some, Option.map_some, sameType]
  · rw [if_neg same]
    unfold Frame.add Frame.find?
    rw [find?_insertOrdered_other fun equal => same equal.1.symm]
    exact shows name

/-- A symbol that is not shadowed in its frame is shown after it is added. -/
theorem Shows.add_unique (shows : frame.Shows scope) {referent : Referent}
    (isBinding : symbol.kind = .binding)
    (absent : frame.find? symbol.name symbol.kind = none)
    (sameType : referent.type = symbol.type) :
    (frame.add symbol).Shows ((symbol.name, referent) :: scope) := by
  refine shows.add_of_find? symbol isBinding (find?_insertOrdered_self ?_) sameType
  intro earlier member sameName sameKind
  have notFound := List.find?_eq_none.mp absent earlier member
  simp [sameName, sameKind] at notFound

theorem ShowsLocally.add (shows : frame.ShowsLocally scope) (name : String)
    {type : ShaderType} {referent : Referent}
    (sameType : referent.type = type) :
    (frame.add ⟨name, .binding, .function, type⟩).ShowsLocally ((name, referent) :: scope) where
  shows := by
    refine shows.shows.add_of_find? ⟨name, .binding, .function, type⟩ rfl
      (find?_insertOrdered_self ?_) sameType
    intro earlier member _ _
    exact shows.storage earlier member
  storage symbol member := by
    rcases mem_insertOrdered member with rfl | earlier
    · rfl
    · exact shows.storage symbol earlier

theorem Shows.lookup_eq_none (shows : frame.Shows scope) {name : String}
    (absent : frame.find? name .binding = none) :
    scope.lookup name = none := by
  have same := shows name
  rw [absent, Option.map_none] at same
  exact Option.map_eq_none_iff.mp same.symm

end Frame

end ShaderLang
