import ShaderLang.Proofs.DeclarationEffects

/-!
# What a frame holds

A frame keeps its symbols in order of their keys, to which the storage belongs, but names are looked
up without it.  In a tidy frame this makes no difference: there is one symbol of each name and kind,
so what the frame holds is what is found in it.
-/

namespace ShaderLang

/-! ## The order of symbols -/

namespace Symbol

/-- Two symbols that a lookup cannot tell apart. -/
def Rivals (first second : Symbol) : Prop :=
  first.name = second.name ∧ first.kind = second.kind

instance : Std.TransCmp Symbol.order :=
  inferInstanceAs (Std.TransCmp (compareLex (compareOn Symbol.name)
    (compareLex (compareOn fun symbol => symbol.kind.rank)
      (compareOn fun symbol => symbol.storage.rank))))

/-- Among symbols without rivals, the symbols are those that are found. -/
theorem mem_iff_find? {symbols : List Symbol}
    (apart : symbols.Pairwise fun first second => ¬first.Rivals second) {symbol : Symbol} :
    symbol ∈ symbols ↔ find? symbols symbol.name symbol.kind = some symbol := by
  refine ⟨fun member => ?_, List.mem_of_find?_eq_some⟩
  induction symbols with
  | nil => cases member
  | cons first rest inductionHypothesis =>
      obtain ⟨firstApart, restApart⟩ := List.pairwise_cons.mp apart
      rw [Frame.find?_cons]
      rcases List.mem_cons.mp member with rfl | later
      · rw [if_pos ⟨rfl, rfl⟩]
      · have different : ¬(first.name = symbol.name ∧ first.kind = symbol.kind) :=
          firstApart symbol later
        rw [if_neg different]
        exact inductionHypothesis restApart later

end Symbol

namespace Frame

/-! ## Tidy frames -/

/-- A frame whose symbols stand in order, in which only variables differ in their storage, and rivals
do not. -/
structure Tidy (frame : Frame) : Prop where
  ordered : frame.symbols.Pairwise fun first second => first.order second = .lt
  plain : ∀ symbol ∈ frame.symbols, symbol.kind ≠ .binding → symbol.storage = .none
  single : ∀ first ∈ frame.symbols, ∀ second ∈ frame.symbols, first.Rivals second →
    first.storage = second.storage

/-- A symbol has the storage of its rivals in a frame. -/
def Fits (frame : Frame) (symbol : Symbol) : Prop :=
  ∀ earlier ∈ frame.symbols, earlier.Rivals symbol → earlier.storage = symbol.storage

variable {frame : Frame} {symbol : Symbol} {symbols : List Symbol} {name : String}
  {kind : SymbolKind}

theorem tidy_empty : Frame.empty.Tidy where
  ordered := .nil
  plain := List.forall_mem_nil _
  single := List.forall_mem_nil _

/-- A tidy frame has one symbol of each name and kind. -/
theorem Tidy.apart (tidy : frame.Tidy) :
    frame.symbols.Pairwise fun first second => ¬first.Rivals second := by
  refine tidy.ordered.imp_of_mem fun {first second} firstMember secondMember less rivals => ?_
  have sameStorage := tidy.single first firstMember second secondMember rivals
  rw [Symbol.order_eq_iff.mpr ⟨rivals.1, rivals.2, sameStorage⟩] at less
  cases less

theorem ordered_insertOrdered
    (ordered : symbols.Pairwise fun first second => first.order second = .lt) :
    (insertOrdered symbol symbols).Pairwise fun first second => first.order second = .lt := by
  induction symbols with
  | nil => exact List.pairwise_singleton _ _
  | cons first rest inductionHypothesis =>
      obtain ⟨firstLess, restOrdered⟩ := List.pairwise_cons.mp ordered
      unfold insertOrdered
      split
      · next less =>
          refine List.pairwise_cons.mpr ⟨fun other member => ?_, ordered⟩
          rcases List.mem_cons.mp member with rfl | later
          · exact less
          · exact Std.TransCmp.lt_trans less (firstLess other later)
      · next same =>
          refine List.pairwise_cons.mpr ⟨fun other member => ?_, restOrdered⟩
          exact Std.TransCmp.lt_of_eq_of_lt same (firstLess other member)
      · next greater =>
          refine List.pairwise_cons.mpr ⟨fun other member => ?_, inductionHypothesis restOrdered⟩
          rcases mem_insertOrdered member with rfl | later
          · exact Std.OrientedCmp.lt_of_gt greater
          · exact firstLess other later

theorem Tidy.add (tidy : frame.Tidy) (fits : frame.Fits symbol)
    (plain : symbol.kind ≠ .binding → symbol.storage = .none) :
    (frame.add symbol).Tidy where
  ordered := ordered_insertOrdered tidy.ordered
  plain other member := by
    rcases mem_insertOrdered member with rfl | earlier
    · exact plain
    · exact tidy.plain other earlier
  single first firstMember second secondMember rivals := by
    rcases mem_insertOrdered firstMember with rfl | firstEarlier
    · rcases mem_insertOrdered secondMember with rfl | secondEarlier
      · rfl
      · exact (fits second secondEarlier ⟨rivals.1.symm, rivals.2.symm⟩).symm
    · rcases mem_insertOrdered secondMember with rfl | secondEarlier
      · exact fits first firstEarlier rivals
      · exact tidy.single first firstEarlier second secondEarlier rivals

/-- Only variables have to be looked at before a symbol is added. -/
theorem Tidy.fits (tidy : frame.Tidy) (notVariable : symbol.kind ≠ .binding)
    (plain : symbol.storage = .none) :
    frame.Fits symbol := by
  intro earlier member rivals
  rw [plain]
  exact tidy.plain earlier member (rivals.2 ▸ notVariable)

theorem find?_add_of_fits (fits : frame.Fits symbol) :
    (frame.add symbol).find? name kind =
      (Symbol.find? [symbol] name kind).or (frame.find? name kind) := by
  rw [find?_cons]
  split
  · next same =>
      obtain ⟨rfl, rfl⟩ := same
      exact find?_insertOrdered_self fun earlier member sameName sameKind =>
        fits earlier member ⟨sameName, sameKind⟩
  · next other => exact find?_insertOrdered_other other frame.symbols

/-! ## Adding a symbol unless there is one -/

/-- Adds a symbol, unless there is one of its name and kind. -/
def addUnique (frame : Frame) (symbol : Symbol) : Frame :=
  match frame.find? symbol.name symbol.kind with
  | some _ => frame
  | none => frame.add symbol

theorem fits_of_find?_eq_none (absent : frame.find? symbol.name symbol.kind = none) :
    frame.Fits symbol := by
  intro earlier member rivals
  have notFound := List.find?_eq_none.mp absent earlier member
  simp [rivals.1, rivals.2] at notFound

theorem Tidy.addUnique (tidy : frame.Tidy)
    (plain : symbol.kind ≠ .binding → symbol.storage = .none) :
    (frame.addUnique symbol).Tidy := by
  unfold Frame.addUnique
  split
  · exact tidy
  · next absent => exact tidy.add (fits_of_find?_eq_none absent) plain

theorem find?_addUnique :
    (frame.addUnique symbol).find? name kind =
      (frame.find? name kind).or (Symbol.find? [symbol] name kind) := by
  unfold Frame.addUnique
  split
  · next earlier found =>
      rw [find?_cons]
      split
      · next same =>
          obtain ⟨rfl, rfl⟩ := same
          rw [found, Option.some_or]
      · exact Option.or_none.symm
  · next absent => exact find?_add absent

/-! ## Adding symbols in order -/

theorem Tidy.foldl_addUnique (tidy : frame.Tidy)
    (plain : ∀ symbol ∈ symbols, symbol.kind ≠ .binding → symbol.storage = .none) :
    (symbols.foldl Frame.addUnique frame).Tidy :=
  List.foldlRecOn symbols Frame.addUnique tidy fun _ tidy symbol member =>
    tidy.addUnique (plain symbol member)

/-- Of rivals, the first one stays. -/
theorem find?_foldl_addUnique (frame : Frame) (symbols : List Symbol) :
    (symbols.foldl Frame.addUnique frame).find? name kind =
      (frame.find? name kind).or (Symbol.find? symbols name kind) := by
  induction symbols generalizing frame with
  | nil => exact Option.or_none.symm
  | cons symbol rest inductionHypothesis =>
      rw [List.foldl_cons, inductionHypothesis, find?_addUnique, Option.or_assoc]
      exact congrArg _ (Symbol.find?_append [symbol] rest name kind).symm

variable (plain : ∀ symbol ∈ symbols, symbol.kind ≠ .binding ∧ symbol.storage = .none)
include plain

theorem Tidy.foldl_add (tidy : frame.Tidy) : (symbols.foldl Frame.add frame).Tidy := by
  refine List.foldlRecOn symbols Frame.add tidy fun _ tidy symbol member => ?_
  obtain ⟨notVariable, noStorage⟩ := plain symbol member
  exact tidy.add (tidy.fits notVariable noStorage) fun _ => noStorage

/-- Of rivals, the last one stays. -/
theorem Tidy.find?_foldl_add (tidy : frame.Tidy) :
    (symbols.foldl Frame.add frame).find? name kind =
      (Symbol.find? symbols.reverse name kind).or (frame.find? name kind) := by
  induction symbols generalizing frame with
  | nil => rfl
  | cons symbol rest inductionHypothesis =>
      obtain ⟨⟨notVariable, noStorage⟩, restPlain⟩ := List.forall_mem_cons.mp plain
      have fits := tidy.fits notVariable noStorage
      rw [List.foldl_cons, inductionHypothesis restPlain (tidy.add fits fun _ => noStorage),
        find?_add_of_fits fits, List.reverse_cons, Symbol.find?_append, Option.or_assoc]

end Frame

end ShaderLang
