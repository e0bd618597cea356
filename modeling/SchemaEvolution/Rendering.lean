import SchemaEvolution.Delta.Basic
import SchemaEvolution.Limits
import SchemaEvolution.Script

/-! Rendering a delta into a script: tables are created, renamed, changed and dropped
   in this order. Foreign keys are removed before all that and added after it. -/
namespace SchemaEvolution

structure RenderOptions where
  bulk : Bool := false
  inlineIndexes : Bool := false
  adapter : Adapter
  limits : Limits
  deriving DecidableEq, Repr

def RenderOptions.ofAdapter (a : Adapter) : RenderOptions :=
  { adapter := a, limits := .ofAdapter a }

abbrev Rendered := Except Failure

structure Phases where
  pre : List Operation := []
  main : List Operation := []
  post : List Operation := []
  deriving DecidableEq, Repr

def Phases.append (a b : Phases) : Phases :=
  ⟨a.pre ++ b.pre, a.main ++ b.main, a.post ++ b.post⟩

instance : Append Phases := ⟨Phases.append⟩

def Phases.join (parts : List Phases) : Phases := parts.foldr (· ++ ·) {}

def ColumnEntry.resolve (limits : Limits) (table name : String) (e : ColumnEntry) :
    Rendered Column :=
  match e.type with
  | none => .error (.missingField table .column name)
  | some type =>
    .ok ⟨name, type, { e.traits with limit := limits.fill type e.traits.limit }⟩

/-- Without a name or columns an index goes by its key. -/
def IndexEntry.resolveName (table key : String) (e : IndexEntry) : String :=
  match e.name with
  | some name => name
  | none => if e.columns.isEmpty then key else Index.conventionalName table e.columns

def IndexEntry.resolve (table key : String) (e : IndexEntry) : Rendered Index :=
  if e.columns.isEmpty then .error (.missingField table .index key)
  else .ok ⟨e.resolveName table key, e.columns, e.unique, e.predicate, e.method⟩

/-- A plain singular of English words, enough for conventional table names. -/
def singular (word : String) : String :=
  match word.toList.reverse with
  | 's' :: 'e' :: 'i' :: stem => String.ofList (stem.reverse ++ ['y'])
  | 's' :: 's' :: _ => word
  | 's' :: 'e' :: 's' :: stem => String.ofList (stem.reverse ++ ['s'])
  | 's' :: stem => String.ofList stem.reverse
  | _ => word

def ForeignKeyEntry.resolveName (key : String) (e : ForeignKeyEntry) : String := e.name.getD key

def ForeignKeyEntry.resolve (table key : String) (e : ForeignKeyEntry) : Rendered ForeignKey :=
  match e.toTable with
  | none => .error (.missingField table .foreignKey key)
  | some toTable =>
    .ok ⟨e.resolveName key, e.column.getD (singular toTable ++ "_id"), toTable,
      e.primaryKey.getD "id", e.onDelete, e.onUpdate⟩

def ConstraintOptions.resolveName (key : String) (o : ConstraintOptions) : String := o.name.getD key

def ConstraintEntry.resolveCheck (table key : String) (e : ConstraintEntry) :
    Rendered CheckConstraint :=
  match e.expression with
  | none => .error (.missingField table .check key)
  | some x => .ok ⟨e.options.resolveName key, x, e.options.validate.getD true⟩

def ConstraintEntry.resolveExclusion (table key : String) (e : ConstraintEntry) :
    Rendered ExclusionConstraint :=
  match e.expression with
  | none => .error (.missingField table .exclusion key)
  | some x =>
    .ok ⟨e.options.resolveName key, x, e.options.method, e.options.predicate, e.options.deferrable⟩

def UniqueEntry.resolve (table key : String) (e : UniqueEntry) : Rendered UniqueConstraint :=
  if e.columns.isEmpty then .error (.missingField table .unique key)
  else .ok ⟨e.options.resolveName key, e.columns, e.options.deferrable⟩

/-- Resolves the live entries of a map, in order; the first failure counts. -/
def resolveLive [Entry α] (resolve : String → α → Rendered β) (m : Keyed α) : Rendered (List β) :=
  m.live.mapM fun e => resolve e.1 e.2

def block (bulk : Bool) (table : String) (as : List Alteration) : List Operation :=
  if as.isEmpty then []
  else if bulk then [.changeTable table as]
  else as.map (.alter table)

def TableSpec.render (options : RenderOptions) (table : String) (s : TableSpec) :
    Rendered Phases := do
  let tableOptions := if options.adapter.isMysql then s.options else s.options.portable
  let columns ← resolveLive (ColumnEntry.resolve options.limits table) s.columns
  let indexes ← resolveLive (IndexEntry.resolve table) s.indexes
  let checks ← resolveLive (ConstraintEntry.resolveCheck table) s.checks
  let exclusions ← resolveLive (ConstraintEntry.resolveExclusion table) s.exclusions
  let uniques ← resolveLive (UniqueEntry.resolve table) s.uniques
  let keys ← resolveLive (ForeignKeyEntry.resolve table) s.foreignKeys
  let bare : CreateTable := { name := table, options := tableOptions, columns := columns }
  let whole : CreateTable := { bare with
    indexes := indexes, checks := checks, exclusions := exclusions, uniques := uniques }
  let main :=
    if options.inlineIndexes then [.createTable whole]
    else
      .createTable bare :: block options.bulk table (indexes.map .addIndex)
        ++ whole.constraints.map fun c => .alter table (.addConstraint c)
  return { main := main, post := keys.map (.addForeignKey table) }

def columnAlterations (limits : Limits) (table : String) (s : ChangeSet ColumnEntry) :
    Rendered (List Alteration) := do
  let added ← resolveLive (ColumnEntry.resolve limits table) s.add
  let changed ← resolveLive (ColumnEntry.resolve limits table) s.change
  return added.map .addColumn
    ++ s.rename.entries.map (fun e => .renameColumn e.2 e.1)
    ++ changed.map .changeColumn
    ++ s.delete.live.map fun e => .removeColumn e.1

/-- What is deleted or redefined, and is therefore removed first. -/
def ChangeSet.removed [Entry α] (s : ChangeSet α) : List (String × α) :=
  s.delete.live ++ s.change.live

def ChangeSet.resolveAdded [Entry α] (resolve : String → α → Rendered β) (s : ChangeSet α) :
    Rendered (List β) := do
  return (← resolveLive resolve s.change) ++ (← resolveLive resolve s.add)

def rejectRenames (table : String) (kind : EntryKind) (s : ChangeSet α) : Rendered Unit :=
  match s.rename.entries with
  | (target, source) :: _ => .error (.renameUnsupported table kind source target)
  | [] => .ok ()

/-- Index removals come before all column changes, renames and additions after. -/
def tableAlterations (limits : Limits) (table : String) (c : TableChange) :
    Rendered (List Alteration) := do
  let columns ← columnAlterations limits table c.columns
  let primaryKeyColumns ← columnAlterations limits table c.primaryKeyColumns
  let indexes ← c.indexes.resolveAdded (IndexEntry.resolve table)
  return c.indexes.removed.map (fun e => .removeIndex (e.2.resolveName table e.1))
    ++ columns ++ primaryKeyColumns
    ++ c.indexes.rename.entries.map (fun e => .renameIndex e.2 e.1)
    ++ indexes.map .addIndex

def foreignKeyChanges (table : String) (s : ChangeSet ForeignKeyEntry) : Rendered Phases := do
  rejectRenames table .foreignKey s
  let added ← s.resolveAdded (ForeignKeyEntry.resolve table)
  return {
    pre := s.removed.map fun e => .removeForeignKey table (e.2.resolveName e.1)
    post := added.map (.addForeignKey table) }

/-- Constraints of all kinds are removed before any is added. -/
def constraintAlterations (table : String) (c : TableChange) : Rendered (List Alteration) := do
  rejectRenames table .check c.checks
  let checks ← c.checks.resolveAdded (ConstraintEntry.resolveCheck table)
  rejectRenames table .exclusion c.exclusions
  let exclusions ← c.exclusions.resolveAdded (ConstraintEntry.resolveExclusion table)
  rejectRenames table .unique c.uniques
  let uniques ← c.uniques.resolveAdded (UniqueEntry.resolve table)
  return c.checks.removed.map (fun e => .removeConstraint .check (e.2.options.resolveName e.1))
    ++ c.exclusions.removed.map (fun e =>
      .removeConstraint .exclusion (e.2.options.resolveName e.1))
    ++ c.uniques.removed.map (fun e => .removeConstraint .unique (e.2.options.resolveName e.1))
    ++ checks.map (fun k => .addConstraint (.check k))
    ++ exclusions.map (fun k => .addConstraint (.exclusion k))
    ++ uniques.map fun k => .addConstraint (.unique k)

def TableChange.rawOptionTexts (c : TableChange) : List String :=
  c.rawOptions.toList
    ++ (c.charset.map ("DEFAULT CHARSET=" ++ ·)).toList
    ++ (c.collation.map ("COLLATE=" ++ ·)).toList

def optionChanges (adapter : Adapter) (table : String) (c : TableChange) : List Operation :=
  let raw := if adapter.isMysql then c.rawOptionTexts else []
  raw.map (.changeTableOptions table)
    ++ (c.comment.map fun text =>
      .changeTableComment table (if text.isEmpty then none else some text)).toList

def TableChange.render (options : RenderOptions) (table : String) (c : TableChange) :
    Rendered Phases := do
  let alterations ← tableAlterations options.limits table c
  let keys ← foreignKeyChanges table c.foreignKeys
  let constraints ← constraintAlterations table c
  let main := block options.bulk table alterations ++ constraints.map (.alter table)
    ++ optionChanges options.adapter table c
  return keys ++ { main := main }

def Delta.phases (options : RenderOptions) (d : Delta) : Rendered Phases := do
  let created ← d.add.entries.mapM fun e => e.2.render options e.1
  let changed ← d.change.entries.mapM fun e => e.2.render options e.1
  let renamed : Phases := { main := d.rename.entries.map fun e => .renameTable e.2 e.1 }
  let dropped : Phases := { main := d.delete.keys.map .dropTable }
  return .join created ++ renamed ++ .join changed ++ dropped

def Phases.script (p : Phases) : Script := .assemble p.pre p.main p.post

def Delta.render (options : RenderOptions) (d : Delta) : Rendered Script := do
  return (← d.phases options).script

end SchemaEvolution
