import ShaderLang.Check.Shader

/-!
# Checks that report nothing

A sequence of checks reports nothing exactly when its steps report nothing.  Each check has an
equation that says what it found and how it changed the symbol table if it reported nothing, and the
theory of analysis takes checks apart with these equations.
-/

namespace ShaderLang

variable {α β : Type}

namespace Check

/-- A check gives a value and changes the symbol table, without a report. -/
def Passes (check : Check α) (before : SymbolTable) (value : α) (after : SymbolTable) : Prop :=
  check before = ⟨value, after, []⟩

variable {before after : SymbolTable}

theorem passes_of_reports {check : Check α} (clean : (check before).reports = []) :
    check.Passes before (check before).value (check before).table := by
  unfold Passes
  rw [← clean]

theorem Passes.unique {check : Check α} {value value' : α} {after' : SymbolTable}
    (passes : check.Passes before value after)
    (passes' : check.Passes before value' after') :
    value = value' ∧ after = after' := by
  obtain ⟨sameValue, sameTable, -⟩ := Checked.mk.inj (passes.symm.trans passes')
  exact ⟨sameValue, sameTable⟩

/-- A sequence passes exactly when both of its parts do. -/
theorem passes_bind {check : Check α} {next : α → Check β} {result : β} :
    (check >>= next).Passes before result after ↔
      ∃ value middle, check.Passes before value middle ∧
        (next value).Passes middle result after := by
  unfold Passes
  rw [bind_apply]
  constructor
  · intro whole
    obtain ⟨value, table, reports⟩ := Checked.mk.inj whole
    obtain ⟨firstClean, secondClean⟩ := List.append_eq_nil_iff.mp reports
    refine ⟨(check before).value, (check before).table, passes_of_reports firstClean, ?_⟩
    rw [← value, ← table, ← secondClean]
  · rintro ⟨value, middle, firstPasses, secondPasses⟩
    rw [firstPasses, secondPasses]
    rfl

@[simp]
theorem passes_pure {value result : α} :
    (pure value : Check α).Passes before result after ↔ value = result ∧ before = after := by
  unfold Passes
  rw [pure_apply]
  simp

theorem passes_report {diagnostics : List Diagnostic} {result : Unit} :
    (report diagnostics).Passes before result after ↔ diagnostics = [] ∧ before = after := by
  unfold Passes report
  simp [and_comm]

theorem passes_read {view : SymbolTable → α} {result : α} :
    (read view).Passes before result after ↔ view before = result ∧ before = after := by
  unfold Passes read
  simp

theorem passes_update {change : SymbolTable → SymbolTable} {result : Unit} :
    (update change).Passes before result after ↔ change before = after := by
  unfold Passes update
  simp

theorem passes_annotate {node : NodeId} {type : ShaderType} {result : Unit} :
    (annotate node type).Passes before result after ↔ before.annotate node type = after :=
  passes_update

theorem passes_attempt {change : SymbolTable → Except Diagnostic SymbolTable} {result : Unit} :
    (attempt change).Passes before result after ↔ change before = .ok after := by
  unfold Passes attempt
  cases change before with
  | ok changed => simp
  | error diagnostic => simp

theorem passes_inFrame {check : Check α} {result : α} :
    (inFrame check).Passes before result after ↔
      ∃ inner, check.Passes before.push result inner ∧ inner.dropFrame = after := by
  unfold Passes inFrame
  cases outcome : check before.push with
  | mk value inner reports =>
      constructor
      · intro whole
        obtain ⟨rfl, rfl, rfl⟩ := Checked.mk.inj whole
        exact ⟨inner, rfl, rfl⟩
      · rintro ⟨other, same, rfl⟩
        cases same
        rfl

theorem passes_resolve {written : TypeName} {type : ShaderType} :
    (resolve written).Passes before type after ↔
      written.resolve before = .ok type ∧ before = after := by
  unfold Passes resolve
  cases written.resolve before with
  | ok found => simp
  | error diagnostic => simp

theorem passes_declare {symbol : Symbol} {result : Unit} :
    (declare symbol).Passes before result after ↔
      ∃ frame rest, before.frames = frame :: rest ∧
        after = { before with frames := frame.add symbol :: rest } := by
  unfold declare
  rw [passes_attempt]
  unfold SymbolTable.declare
  cases before.frames with
  | nil => simp
  | cons frame rest =>
      constructor
      · intro declared
        cases declared
        exact ⟨frame, rest, rfl, rfl⟩
      · rintro ⟨first, others, same, rfl⟩
        cases same
        rfl

/-- A name that is declared once is not in the innermost frame before. -/
theorem passes_declareUnique {symbol : Symbol} {location : Location} {result : Unit} :
    (declareUnique symbol location).Passes before result after ↔
      ∃ frame rest, before.frames = frame :: rest ∧ frame.find? symbol.name symbol.kind = none ∧
        after = { before with frames := frame.add symbol :: rest } := by
  unfold declareUnique
  rw [passes_bind]
  constructor
  · rintro ⟨earlier, middle, reads, declares⟩
    obtain ⟨rfl, rfl⟩ := passes_read.mp reads
    split at declares
    · obtain ⟨impossible, -⟩ := passes_report.mp declares
      cases impossible
    · next absent =>
        obtain ⟨frame, rest, frames, changed⟩ := passes_declare.mp declares
        refine ⟨frame, rest, frames, ?_, changed⟩
        simpa [SymbolTable.currentFrame?, frames] using absent
  · rintro ⟨frame, rest, frames, absent, changed⟩
    refine ⟨none, before, passes_read.mpr ⟨?_, rfl⟩,
      passes_declare.mpr ⟨frame, rest, frames, changed⟩⟩
    simpa [SymbolTable.currentFrame?, frames] using absent

/-! ## Passes over lists -/

/-- What holds at first, and is kept by each check for the items done and the values found so far,
holds at the end.  Each check may be taken to be followed by a pass over the other items. -/
theorem collect_invariant {check : α → Check β} {items : List α} {values : List β}
    (invariant : List α → List β → SymbolTable → Prop)
    (passes : (collect check items).Passes before values after)
    (initially : invariant [] [] before)
    (kept : ∀ done item rest, items = done ++ item :: rest →
      ∀ found table value table' others, invariant done found table →
        (check item).Passes table value table' →
        (collect check rest).Passes table' others after →
          invariant (done ++ [item]) (found ++ [value]) table') :
    invariant items values after := by
  suffices general : ∀ rest done found found' table, items = done ++ rest →
      invariant done found table → (collect check rest).Passes table found' after →
      invariant items (found ++ found') after from
    general items [] [] values before rfl initially passes
  intro rest
  induction rest with
  | nil =>
      intro done found found' table split holds finished
      obtain ⟨rfl, rfl⟩ := passes_pure.mp finished
      rw [split, List.append_nil, List.append_nil]
      exact holds
  | cons item rest inductionHypothesis =>
      intro done found found' table split holds remaining
      obtain ⟨value, middle, itemPasses, restPasses⟩ := passes_bind.mp remaining
      obtain ⟨others, last, othersPass, finished⟩ := passes_bind.mp restPasses
      obtain ⟨rfl, rfl⟩ := passes_pure.mp finished
      have itemKept :=
        kept done item rest split found table value middle others holds itemPasses othersPass
      rw [List.append_cons]
      exact inductionHypothesis (done ++ [item]) (found ++ [value]) others middle
        (by simp [split]) itemKept othersPass

theorem forEach_invariant {check : α → Check Unit} {items : List α} {result : Unit}
    (invariant : List α → SymbolTable → Prop)
    (passes : (forEach check items).Passes before result after)
    (initially : invariant [] before)
    (kept : ∀ done item rest, items = done ++ item :: rest →
      ∀ table table', invariant done table → (check item).Passes table () table' →
        (forEach check rest).Passes table' () after → invariant (done ++ [item]) table') :
    invariant items after := by
  suffices general : ∀ rest done table, items = done ++ rest → invariant done table →
      (forEach check rest).Passes table result after → invariant items after from
    general items [] before rfl initially passes
  intro rest
  induction rest with
  | nil =>
      intro done table split holds finished
      obtain ⟨-, rfl⟩ := passes_pure.mp finished
      rw [split, List.append_nil]
      exact holds
  | cons item rest inductionHypothesis =>
      intro done table split holds remaining
      obtain ⟨value, middle, itemPasses, restPasses⟩ := passes_bind.mp remaining
      have itemKept := kept done item rest split table middle holds itemPasses restPasses
      exact inductionHypothesis (done ++ [item]) middle (by simp [split]) itemKept restPasses

/-- Each check of a pass passes at some point. -/
theorem passes_of_mem_collect {check : α → Check β} {items : List α} {values : List β}
    (passes : (collect check items).Passes before values after) :
    ∀ item ∈ items, ∃ table value table', (check item).Passes table value table' := by
  refine collect_invariant (fun done _ _ => ∀ item ∈ done, ∃ table value table',
    (check item).Passes table value table') passes (by simp) ?_
  intro done item rest _ found table value table' others earlier itemPasses _ other member
  rcases List.mem_append.mp member with older | newest
  · exact earlier other older
  · rw [List.mem_singleton.mp newest]
    exact ⟨table, value, table', itemPasses⟩

theorem passes_of_mem_forEach {check : α → Check Unit} {items : List α} {result : Unit}
    (passes : (forEach check items).Passes before result after) :
    ∀ item ∈ items, ∃ table table', (check item).Passes table () table' := by
  refine forEach_invariant (fun done _ => ∀ item ∈ done, ∃ table table',
    (check item).Passes table () table') passes (by simp) ?_
  intro done item rest _ table table' earlier itemPasses _ other member
  rcases List.mem_append.mp member with older | newest
  · exact earlier other older
  · rw [List.mem_singleton.mp newest]
    exact ⟨table, table', itemPasses⟩

end Check

end ShaderLang
