import ShaderLang.SymbolTable

/-!
# Checks

A check is an analysis step: it reads and changes the symbol table and reports diagnostics.  Checks
run one after the other, and the reports of a sequence are the reports of its steps in order, so no
step can see or take back what was reported before it.
-/

namespace ShaderLang

/-! ## Running checks in sequence -/

/-- What a check leaves: its value, the symbol table and the reports it added. -/
structure Checked (α : Type) where
  value : α
  table : SymbolTable
  reports : List Diagnostic

/-- An analysis step. -/
def Check (α : Type) : Type :=
  SymbolTable → Checked α

namespace Check

variable {α β : Type}

instance : Monad Check where
  pure value := fun table => ⟨value, table, []⟩
  bind check next := fun table =>
    let first := check table
    let second := next first.value first.table
    ⟨second.value, second.table, first.reports ++ second.reports⟩

@[simp]
theorem pure_apply (value : α) (table : SymbolTable) :
    (pure value : Check α) table = ⟨value, table, []⟩ :=
  rfl

@[simp]
theorem bind_apply (check : Check α) (next : α → Check β) (table : SymbolTable) :
    (check >>= next) table =
      ⟨(next (check table).value (check table).table).value,
        (next (check table).value (check table).table).table,
        (check table).reports ++ (next (check table).value (check table).table).reports⟩ :=
  rfl

private theorem id_map (check : Check α) : id <$> check = check := by
  funext table
  change Checked.mk (check table).value (check table).table ((check table).reports ++ []) =
    check table
  rw [List.append_nil]

private theorem bind_assoc {γ : Type} (check : Check α) (next : α → Check β)
    (last : β → Check γ) :
    check >>= next >>= last = check >>= fun value => next value >>= last := by
  funext table
  simp

instance : LawfulMonad Check :=
  LawfulMonad.mk' Check id_map (fun _ _ => rfl) bind_assoc

/-! ## Single steps -/

/-- Reports diagnostics. -/
def report (diagnostics : List Diagnostic) : Check Unit := fun table =>
  ⟨(), table, diagnostics⟩

/-- Reads from the symbol table. -/
def read (view : SymbolTable → α) : Check α := fun table =>
  ⟨view table, table, []⟩

/-- Changes the symbol table. -/
def update (change : SymbolTable → SymbolTable) : Check Unit := fun table =>
  ⟨(), change table, []⟩

/-- Changes the symbol table, or reports why it cannot be changed. -/
def attempt (change : SymbolTable → Except Diagnostic SymbolTable) : Check Unit := fun table =>
  match change table with
  | .ok changed => ⟨(), changed, []⟩
  | .error diagnostic => ⟨(), table, [diagnostic]⟩

/-- Runs a check in a frame of its own, which is closed afterwards. -/
def inFrame (check : Check α) : Check α := fun table =>
  let inner := check table.push
  { inner with table := inner.table.dropFrame }

/-- Runs a check on each item, in order, and collects the values. -/
def collect (check : α → Check β) : List α → Check (List β)
  | [] => pure []
  | item :: rest => do
      let value ← check item
      let values ← collect check rest
      return value :: values

/-- Runs a check on each item, in order. -/
def forEach (check : α → Check Unit) : List α → Check Unit
  | [] => pure ()
  | item :: rest => do
      check item
      forEach check rest

/-! ## Names and types -/

/-- Records the type of a node. -/
def annotate (node : NodeId) (type : ShaderType) : Check Unit :=
  update fun table => table.annotate node type

/-- Declares a symbol in the innermost frame. -/
def declare (symbol : Symbol) : Check Unit :=
  attempt fun table => table.declare symbol

/-- Declares a symbol in the innermost frame, unless that frame has one with its name and kind,
which is reported. -/
def declareUnique (symbol : Symbol) (location : Location) : Check Unit := do
  let earlier ← read fun table =>
    table.currentFrame?.bind fun frame => frame.find? symbol.name symbol.kind
  match earlier with
  | some _ => report [.redeclaration symbol.kind symbol.name location]
  | none => declare symbol

end Check

/-- The array size that an expression denotes: a positive integer literal of at most 32 bits. -/
def Expression.arraySize? : Expression → Option Nat
  | .literal _ _ (.int size) => if 0 < size ∧ size ≤ 4294967295 then some size.toNat else none
  | _ => none

/-- The type that a written type denotes. -/
def TypeName.resolve (written : TypeName) (table : SymbolTable) : Except Diagnostic ShaderType :=
  match table.resolveType? written.name with
  | none => .error (.unresolvedType written.name written.location)
  | some base =>
      match written.size with
      | none => .ok base
      | some size =>
          match size.arraySize? with
          | some count => .ok (.array base count)
          | none => .error (.invalidArraySize written.name size.location)

namespace Check

/-- The type that a written type denotes.  A failure is reported, and a placeholder with the
written name stands for the type from then on. -/
def resolve (written : TypeName) : Check ShaderType := fun table =>
  match written.resolve table with
  | .ok type => ⟨type, table, []⟩
  | .error diagnostic => ⟨.undefined written.name, table, [diagnostic]⟩

end Check

/-- The report that a value of type `found` stands where `expected` is required.  Nothing is
reported about placeholders, whose cause was reported before. -/
def mismatchReports (expected found : ShaderType) (location : Location) : List Diagnostic :=
  if expected.isUndefined || found.isUndefined then
    []
  else if expected = found then
    []
  else
    [.typeMismatch expected found location]

end ShaderLang
