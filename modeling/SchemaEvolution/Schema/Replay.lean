import SchemaEvolution.Failure
import SchemaEvolution.Operation.Basic
import SchemaEvolution.Schema.Basic

/-! Replaying operations over a schema. The first operation that does not fit stops
   the replay; the schema keeps what was done before it, and of a bulk block the
   members before the one that failed. -/
namespace SchemaEvolution

/-- A state and the conflict, if any, that a replay stopped at. -/
structure Replayed (σ : Type) where
  state : σ
  conflict : Option Conflict := none
  deriving DecidableEq

def Replayed.andThen (r : Replayed σ) (next : σ → Replayed σ) : Replayed σ :=
  match r.conflict with
  | none => next r.state
  | some _ => r

theorem Replayed.andThen_assoc (r : Replayed σ) (f g : σ → Replayed σ) :
    (r.andThen f).andThen g = r.andThen fun s => (f s).andThen g := by
  obtain ⟨s, c⟩ := r
  cases c <;> rfl

def replayAll (apply : σ → α → Replayed σ) (s : σ) : List α → Replayed σ
  | [] => ⟨s, none⟩
  | a :: rest => (apply s a).andThen fun next => replayAll apply next rest

theorem replayAll_append (apply : σ → α → Replayed σ) (s : σ) (a b : List α) :
    replayAll apply s (a ++ b) =
      (replayAll apply s a).andThen fun next => replayAll apply next b := by
  induction a generalizing s with
  | nil => rfl
  | cons x a ih => simp only [List.cons_append, replayAll, ih, Replayed.andThen_assoc]

namespace Keyed

def take (m : Keyed α) (kind : ElementKind) (table name : String) :
    Except Conflict (α × Keyed α) :=
  match m.get? name with
  | some v => .ok (v, m.erase name)
  | none => .error (.elementMissing kind table name)

end Keyed

def TableState.addConstraint (t : TableState) (c : Constraint) : TableState :=
  { t with constraints := t.constraints.insert c.name c.text }

/-- Only a column may not be added twice; other elements are written over. -/
def TableState.alter (table : String) (t : TableState) : Alteration → Except Conflict TableState
  | .addColumn c =>
    if t.columns.contains c.name then .error (.columnExists table c.name)
    else .ok { t with columns := t.columns.insert c.name c }
  | .renameColumn source target => do
    let (c, rest) ← t.columns.take .column table source
    return { t with columns := rest.insert target { c with name := target } }
  | .changeColumn c =>
    if t.columns.contains c.name then .ok { t with columns := t.columns.insert c.name c }
    else .error (.elementMissing .column table c.name)
  | .removeColumn name => do
    let (_, rest) ← t.columns.take .column table name
    return { t with columns := rest }
  | .addIndex i => .ok { t with indexes := t.indexes.insert i.name i }
  | .renameIndex source target => do
    let (i, rest) ← t.indexes.take .index table source
    return { t with indexes := rest.insert target { i with name := target } }
  | .removeIndex name => do
    let (_, rest) ← t.indexes.take .index table name
    return { t with indexes := rest }
  | .addConstraint c => .ok (t.addConstraint c)
  | .removeConstraint _ name => do
    let (_, rest) ← t.constraints.take .constraint table name
    return { t with constraints := rest }

/-- A state that a step changes or, in conflict, leaves as it is. -/
def Replayed.ofExcept (s : σ) : Except Conflict σ → Replayed σ
  | .ok next => ⟨next, none⟩
  | .error c => ⟨s, some c⟩

def TableState.applyAlteration (table : String) (t : TableState) (a : Alteration) :
    Replayed TableState := .ofExcept t (t.alter table a)

def TableState.ofCreateTable (create : CreateTable) : TableState :=
  create.constraints.foldl addConstraint
    { columns := .ofList (create.columns.map fun c => (c.name, c))
      indexes := .ofList (create.indexes.map fun i => (i.name, i))
      comment := create.options.comment }

namespace Schema

def onTable (s : Schema) (name : String) (f : TableState → Replayed TableState) :
    Replayed Schema :=
  match s.table? name with
  | none => ⟨s, some (.tableMissing name)⟩
  | some t =>
    let after := f t
    ⟨s.withTable name after.state, after.conflict⟩

def apply (s : Schema) : Operation → Replayed Schema
  | .createTable create =>
    if s.hasTable create.name then ⟨s, some (.tableExists create.name)⟩
    else ⟨s.withTable create.name (.ofCreateTable create), none⟩
  | .renameTable source target =>
    if s.hasTable target then ⟨s, some (.tableExists target)⟩
    else
      match s.table? source with
      | none => ⟨s, some (.tableMissing source)⟩
      | some t => ⟨⟨(s.tables.erase source).insert target t⟩, none⟩
  | .dropTable name =>
    if s.hasTable name then ⟨⟨s.tables.erase name⟩, none⟩
    else ⟨s, some (.tableMissing name)⟩
  | .changeTable table as =>
    s.onTable table fun t => replayAll (TableState.applyAlteration table) t as
  | .alter table a => s.onTable table fun t => t.applyAlteration table a
  | .addForeignKey table k =>
    if s.hasTable k.toTable then
      s.onTable table fun t => ⟨{ t with foreignKeys := t.foreignKeys.insert k.name k }, none⟩
    else ⟨s, some (.tableMissing k.toTable)⟩
  | .removeForeignKey table name =>
    s.onTable table fun t => .ofExcept t (do
      let (_, rest) ← t.foreignKeys.take .foreignKey table name
      return { t with foreignKeys := rest })
  | .changeTableOptions table options =>
    s.onTable table fun t => ⟨{ t with options := t.options ++ [options] }, none⟩
  | .changeTableComment table comment =>
    s.onTable table fun t => ⟨{ t with comment := comment }, none⟩

def replay (s : Schema) (ops : List Operation) : Replayed Schema := replayAll apply s ops

end Schema

end SchemaEvolution
