import SchemaEvolution.Proofs.Rendering.Plan
import SchemaEvolution.Proofs.Script.BareWords

/-! The lines of a script as they are printed. The bare words of a script are those of its delta,
   so that is where every line break comes from that the script does not count as the end of a
   line. Without any, a line of the script is a line of its text. -/
namespace SchemaEvolution

open Text

/- The words of a delta that are shown without quotes, in the order of the script. -/

def ColumnEntry.bareWords (e : ColumnEntry) : List String := e.type.toList.map ColumnType.name

def IndexEntry.bareWords (e : IndexEntry) : List String := e.method.toList

/-- Checks have none: only an exclusion constraint shows these. -/
def ConstraintEntry.bareWords (e : ConstraintEntry) : List String :=
  e.options.method.toList ++ e.options.deferrable.toList

def UniqueEntry.bareWords (e : UniqueEntry) : List String := e.options.deferrable.toList

def Keyed.bareWords [Entry α] (words : α → List String) (m : Keyed α) : List String :=
  m.live.flatMap fun e => words e.2

def ChangeSet.bareWords [Entry α] (words : α → List String) (s : ChangeSet α) : List String :=
  s.change.bareWords words ++ s.add.bareWords words

def ChangeSet.columnWords (s : ChangeSet ColumnEntry) : List String :=
  s.add.bareWords ColumnEntry.bareWords ++ s.change.bareWords ColumnEntry.bareWords

def TableSpec.bareWords (s : TableSpec) : List String :=
  s.columns.bareWords ColumnEntry.bareWords ++ s.indexes.bareWords IndexEntry.bareWords
    ++ s.exclusions.bareWords ConstraintEntry.bareWords
    ++ s.uniques.bareWords UniqueEntry.bareWords

def TableChange.bareWords (c : TableChange) : List String :=
  c.columns.columnWords ++ c.primaryKeyColumns.columnWords
    ++ c.indexes.bareWords IndexEntry.bareWords
    ++ c.exclusions.bareWords ConstraintEntry.bareWords
    ++ c.uniques.bareWords UniqueEntry.bareWords

def Delta.bareWords (d : Delta) : List String :=
  d.add.values.flatMap TableSpec.bareWords ++ d.change.values.flatMap TableChange.bareWords

/- Entries. -/

section Entries

variable {l : Limits} {table key : String}

theorem ColumnEntry.bareWords_resolve {e : ColumnEntry} {c : Column}
    (ok : e.resolve l table key = .ok c) : [c.type.name] = e.bareWords := by
  unfold resolve at ok
  split at ok
  next => contradiction
  next type typed =>
    rw [← Except.ok.inj ok, bareWords, typed]
    rfl

theorem IndexEntry.bareWords_resolve {e : IndexEntry} {i : Index}
    (ok : e.resolve table key = .ok i) : i.method.toList = e.bareWords := by
  unfold resolve at ok
  split at ok
  · contradiction
  · rw [← Except.ok.inj ok, bareWords]

theorem ConstraintEntry.bareWords_resolve {e : ConstraintEntry} {c : ExclusionConstraint}
    (ok : e.resolveExclusion table key = .ok c) :
    (Constraint.exclusion c).bareWords = e.bareWords := by
  unfold resolveExclusion at ok
  split at ok
  · contradiction
  · rw [← Except.ok.inj ok, bareWords, Constraint.bareWords]

theorem UniqueEntry.bareWords_resolve {e : UniqueEntry} {c : UniqueConstraint}
    (ok : e.resolve table key = .ok c) : (Constraint.unique c).bareWords = e.bareWords := by
  unfold resolve at ok
  split at ok
  · contradiction
  · rw [← Except.ok.inj ok, bareWords, Constraint.bareWords]

end Entries

section Maps

variable [Entry α] {resolve : String → α → Rendered β} {words : α → List String}
  {make : β → Alteration} {bs : List β}

theorem Keyed.bareWords_resolve {m : Keyed α} (ok : resolveLive resolve m = .ok bs)
    (kept : ∀ key e b, resolve key e = .ok b → (make b).bareWords = words e) :
    (bs.map make).flatMap Alteration.bareWords = m.bareWords words := by
  rw [List.flatMap_map]
  exact Rendered.mapM_ok (fun e b first => kept e.1 e.2 b first) ok

theorem ChangeSet.bareWords_resolve {s : ChangeSet α} (ok : s.resolveAdded resolve = .ok bs)
    (kept : ∀ key e b, resolve key e = .ok b → (make b).bareWords = words e) :
    (bs.map make).flatMap Alteration.bareWords = s.bareWords words := by
  obtain ⟨changed, first, ok⟩ := Rendered.bind_ok ok
  obtain ⟨new, second, ok⟩ := Rendered.bind_ok ok
  rw [← Except.ok.inj ok, List.map_append, List.flatMap_append,
    Keyed.bareWords_resolve first kept, Keyed.bareWords_resolve second kept, bareWords]

end Maps

/- Operations. -/

theorem bareWords_alters (table : String) (as : List Alteration) :
    (as.map (.alter table)).flatMap Operation.bareWords = as.flatMap Alteration.bareWords :=
  flatMap_alters (fun a => List.append_nil a.bareWords) as

theorem bareWords_block (bulk : Bool) (table : String) (as : List Alteration) :
    (block bulk table as).flatMap Operation.bareWords = as.flatMap Alteration.bareWords :=
  flatMap_block (fun a => List.append_nil a.bareWords) (fun _ => rfl) bulk as

theorem CreateTable.bareWords_operations (bulk inline : Bool) (t : CreateTable) :
    (t.operations bulk inline).flatMap Operation.bareWords =
      t.members.flatMap Alteration.bareWords := by
  cases inline with
  | true => exact List.append_nil _
  | false =>
    -- In parts, the columns come first all the same, then the indexes, then the constraints.
    have constraints : (t.constraints.map fun c => Operation.alter t.name (.addConstraint c)) =
        (t.constraints.map .addConstraint).map (.alter t.name) := by
      rw [List.map_map]
      rfl
    have columns : Operation.bareWords (.createTable t.bare) =
        (t.columns.map .addColumn).flatMap Alteration.bareWords := by
      simp [Operation.bareWords, Operation.alterations, members, bare, CreateTable.constraints]
    rw [operations, if_neg Bool.false_ne_true, constraints, List.flatMap_append, List.flatMap_cons,
      bareWords_block, bareWords_alters, columns, members, List.flatMap_append, List.flatMap_append]

/- Phases. -/

structure Phases.Words (p : Phases) (words : List String) : Prop where
  pre : p.pre.flatMap Operation.bareWords = []
  main : p.main.flatMap Operation.bareWords = words
  post : p.post.flatMap Operation.bareWords = []

namespace Phases.Words

theorem append {p q : Phases} {words more : List String} (left : p.Words words)
    (right : q.Words more) : (p ++ q).Words (words ++ more) where
  pre := by rw [pre_append, List.flatMap_append, left.pre, right.pre, List.nil_append]
  main := by rw [main_append, List.flatMap_append, left.main, right.main]
  post := by rw [post_append, List.flatMap_append, left.post, right.post, List.nil_append]

theorem silent {f : α → Operation} (silent : ∀ a, (f a).bareWords = []) (xs : List α) :
    Phases.Words { main := xs.map f } [] :=
  ⟨rfl, flatMap_silent silent xs, rfl⟩

theorem join {f : α → Rendered Phases} {words : α → List String} {es : List α} {ps : List Phases}
    (each : ∀ e p, f e = .ok p → p.Words (words e)) (ok : es.mapM f = .ok ps) :
    (Phases.join ps).Words (es.flatMap words) := by
  induction es generalizing ps with
  | nil =>
    obtain rfl : [] = ps := Except.ok.inj ok
    exact ⟨rfl, rfl, rfl⟩
  | cons e es ih =>
    rw [List.mapM_cons] at ok
    obtain ⟨p, first, ok⟩ := Rendered.bind_ok ok
    obtain ⟨rest, later, ok⟩ := Rendered.bind_ok ok
    obtain rfl : p :: rest = ps := Except.ok.inj ok
    exact (each e p first).append (ih later)

theorem operations {p : Phases} {words : List String} (shown : p.Words words) :
    p.script.operations.flatMap Operation.bareWords = words := by
  rw [script, Script.assemble_operations, List.flatMap_append, List.flatMap_append, shown.pre,
    shown.main, shown.post, List.append_nil, List.nil_append]

end Phases.Words

/- Tables. -/

theorem TableSpec.words_render {o : RenderOptions} {table : String} {s : TableSpec} {p : Phases}
    (ok : s.render o table = .ok p) : p.Words s.bareWords := by
  obtain ⟨columns, r₁, ok⟩ := Rendered.bind_ok ok
  obtain ⟨indexes, r₂, ok⟩ := Rendered.bind_ok ok
  obtain ⟨checks, -, ok⟩ := Rendered.bind_ok ok
  obtain ⟨exclusions, r₃, ok⟩ := Rendered.bind_ok ok
  obtain ⟨uniques, r₄, ok⟩ := Rendered.bind_ok ok
  obtain ⟨keys, -, ok⟩ := Rendered.bind_ok ok
  rw [← Except.ok.inj ok]
  -- The words of a foreign key are those of the language, so the last phase shows none.
  refine ⟨rfl, ?_, flatMap_silent (fun _ => rfl) keys⟩
  let t : CreateTable := ⟨table, if o.adapter.isMysql then s.options else s.options.portable,
    columns, indexes, checks, exclusions, uniques⟩
  refine (t.bareWords_operations o.bulk o.inlineIndexes).trans ?_
  have typed : (columns.map .addColumn).flatMap Alteration.bareWords = _ :=
    Keyed.bareWords_resolve r₁ fun _ _ _ => ColumnEntry.bareWords_resolve
  have indexed : (indexes.map .addIndex).flatMap Alteration.bareWords = _ :=
    Keyed.bareWords_resolve r₂ fun _ _ _ => IndexEntry.bareWords_resolve
  have checked : (checks.map fun c => .addConstraint (.check c)).flatMap
      Alteration.bareWords = [] := flatMap_silent (fun _ => rfl) checks
  have exclusive : (exclusions.map fun c => .addConstraint (.exclusion c)).flatMap
      Alteration.bareWords = _ :=
    Keyed.bareWords_resolve r₃ fun _ _ _ => ConstraintEntry.bareWords_resolve
  have unique : (uniques.map fun c => .addConstraint (.unique c)).flatMap
      Alteration.bareWords = _ :=
    Keyed.bareWords_resolve r₄ fun _ _ _ => UniqueEntry.bareWords_resolve
  simp only [CreateTable.members, CreateTable.constraints, List.map_append, List.map_map,
    List.flatMap_append, Function.comp_def, t, typed, indexed, checked, exclusive, unique,
    List.nil_append, bareWords, List.append_assoc]

section Changes

variable {l : Limits} {table : String} {as : List Alteration}

theorem bareWords_columnAlterations {s : ChangeSet ColumnEntry}
    (ok : columnAlterations l table s = .ok as) :
    as.flatMap Alteration.bareWords = s.columnWords := by
  obtain ⟨added, r₁, ok⟩ := Rendered.bind_ok ok
  obtain ⟨changed, r₂, ok⟩ := Rendered.bind_ok ok
  have new : (added.map .addColumn).flatMap Alteration.bareWords = _ :=
    Keyed.bareWords_resolve r₁ fun _ _ _ => ColumnEntry.bareWords_resolve
  have redefined : (changed.map .changeColumn).flatMap Alteration.bareWords = _ :=
    Keyed.bareWords_resolve r₂ fun _ _ _ => ColumnEntry.bareWords_resolve
  rw [← Except.ok.inj ok]
  simp only [List.flatMap_append, new, redefined]
  rw [flatMap_silent (fun _ => rfl), flatMap_silent (fun _ => rfl), List.append_nil,
    List.append_nil, ChangeSet.columnWords]

theorem bareWords_tableAlterations {c : TableChange} (ok : tableAlterations l table c = .ok as) :
    as.flatMap Alteration.bareWords = c.columns.columnWords ++ c.primaryKeyColumns.columnWords
      ++ c.indexes.bareWords IndexEntry.bareWords := by
  obtain ⟨columns, r₁, ok⟩ := Rendered.bind_ok ok
  obtain ⟨primary, r₂, ok⟩ := Rendered.bind_ok ok
  obtain ⟨indexes, r₃, ok⟩ := Rendered.bind_ok ok
  have indexed : (indexes.map .addIndex).flatMap Alteration.bareWords = _ :=
    ChangeSet.bareWords_resolve r₃ fun _ _ _ => IndexEntry.bareWords_resolve
  rw [← Except.ok.inj ok]
  simp only [List.flatMap_append, bareWords_columnAlterations r₁, bareWords_columnAlterations r₂,
    indexed]
  rw [flatMap_silent (fun _ => rfl), flatMap_silent (fun _ => rfl), List.append_nil,
    List.nil_append]

theorem bareWords_constraintAlterations {c : TableChange}
    (ok : constraintAlterations table c = .ok as) :
    as.flatMap Alteration.bareWords = c.exclusions.bareWords ConstraintEntry.bareWords
      ++ c.uniques.bareWords UniqueEntry.bareWords := by
  obtain ⟨_, -, ok⟩ := Rendered.bind_ok ok
  obtain ⟨checks, -, ok⟩ := Rendered.bind_ok ok
  obtain ⟨_, -, ok⟩ := Rendered.bind_ok ok
  obtain ⟨exclusions, r₁, ok⟩ := Rendered.bind_ok ok
  obtain ⟨_, -, ok⟩ := Rendered.bind_ok ok
  obtain ⟨uniques, r₂, ok⟩ := Rendered.bind_ok ok
  have exclusive : (exclusions.map fun c => .addConstraint (.exclusion c)).flatMap
      Alteration.bareWords = _ :=
    ChangeSet.bareWords_resolve r₁ fun _ _ _ => ConstraintEntry.bareWords_resolve
  have unique : (uniques.map fun c => .addConstraint (.unique c)).flatMap
      Alteration.bareWords = _ :=
    ChangeSet.bareWords_resolve r₂ fun _ _ _ => UniqueEntry.bareWords_resolve
  rw [← Except.ok.inj ok]
  simp only [List.flatMap_append, exclusive, unique]
  rw [flatMap_silent (fun _ => rfl), flatMap_silent (fun _ => rfl), flatMap_silent (fun _ => rfl),
    flatMap_silent (fun _ => rfl)]
  rfl

theorem words_foreignKeyChanges {s : ChangeSet ForeignKeyEntry} {p : Phases}
    (ok : foreignKeyChanges table s = .ok p) : p.Words [] := by
  obtain ⟨_, -, ok⟩ := Rendered.bind_ok ok
  obtain ⟨added, -, ok⟩ := Rendered.bind_ok ok
  rw [← Except.ok.inj ok]
  exact ⟨flatMap_silent (fun _ => rfl) s.removed, rfl, flatMap_silent (fun _ => rfl) added⟩

theorem bareWords_optionChanges (a : Adapter) (table : String) (c : TableChange) :
    (optionChanges a table c).flatMap Operation.bareWords = [] := by
  have comment : (c.comment.map fun text => Operation.changeTableComment table
      (if text.isEmpty then none else some text)).toList.flatMap Operation.bareWords = [] := by
    cases c.comment <;> rfl
  simp only [optionChanges, List.flatMap_append, comment, List.append_nil]
  exact flatMap_silent (fun _ => rfl) _

end Changes

theorem TableChange.words_render {o : RenderOptions} {table : String} {c : TableChange}
    {p : Phases} (ok : c.render o table = .ok p) : p.Words c.bareWords := by
  obtain ⟨alterations, r₁, ok⟩ := Rendered.bind_ok ok
  obtain ⟨keys, r₂, ok⟩ := Rendered.bind_ok ok
  obtain ⟨constraints, r₃, ok⟩ := Rendered.bind_ok ok
  rw [← Except.ok.inj ok]
  refine (words_foreignKeyChanges r₂).append ⟨rfl, (?_ : _ = c.bareWords), rfl⟩
  simp only [List.flatMap_append, bareWords_block, bareWords_alters, bareWords_optionChanges,
    bareWords_tableAlterations r₁, bareWords_constraintAlterations r₃, List.append_nil, bareWords,
    List.append_assoc]

/- Scripts. -/

namespace Script

theorem totalBreaks_gap (previous : Option (Phase × String)) (phase : Phase) (table : String) :
    totalBreaks (gap previous phase table) = 0 := by
  cases previous with
  | none => rfl
  | some p =>
    by_cases same : p = (phase, table)
    · simp only [gap, if_pos same, totalBreaks_nil]
    · simp only [gap, if_neg same]
      rfl

/-- Empty lines have no line break of their own, so only the operations bring any. -/
theorem totalBreaks_lay (previous : Option (Phase × String)) (used : Nat)
    (ops : List (Phase × Operation)) :
    totalBreaks (lay previous used ops).lines =
      totalBreaks ((lay previous used ops).operations.flatMap Operation.bareWords) := by
  rw [lay_operations, List.flatMap_map]
  induction ops generalizing previous used with
  | nil => rfl
  | cons p rest ih =>
    obtain ⟨phase, op⟩ := p
    rw [lay, List.flatMap_cons, totalBreaks_append, totalBreaks_append, totalBreaks_append, ih,
      totalBreaks_gap, op.totalBreaks_scriptLines, Nat.zero_add]

theorem lines_lay_ne_nil (previous : Option (Phase × String)) (used : Nat)
    {ops : List (Phase × Operation)} (some : (lay previous used ops).isEmpty = false) :
    (lay previous used ops).lines ≠ [] := by
  cases ops with
  | nil => contradiction
  | cons p rest =>
    rw [lay]
    exact List.append_ne_nil_of_left_ne_nil
      (List.append_ne_nil_of_right_ne_nil _ p.2.scriptLines_ne_nil) _

end Script

namespace Delta

variable {o : RenderOptions} {d : Delta} {script : Script}

theorem bareWords_render (rendered : d.render o = .ok script) :
    script.operations.flatMap Operation.bareWords = d.bareWords := by
  obtain ⟨p, ok, rendered⟩ := Rendered.bind_ok rendered
  obtain ⟨created, r₁, ok⟩ := Rendered.bind_ok ok
  obtain ⟨changed, r₂, ok⟩ := Rendered.bind_ok ok
  have new := Phases.Words.join (fun _ _ => TableSpec.words_render) r₁
  have kept := Phases.Words.join (fun _ _ => TableChange.words_render) r₂
  have renamed := Phases.Words.silent (f := fun e => .renameTable e.2 e.1) (fun _ => rfl)
    d.rename.entries
  have dropped := Phases.Words.silent (f := .dropTable) (fun _ => rfl) d.delete.keys
  have all := ((new.append renamed).append kept).append dropped
  rw [← Except.ok.inj rendered, ← Except.ok.inj ok, all.operations]
  simp [bareWords, Keyed.values, List.flatMap_map]

theorem totalBreaks_lines (rendered : d.render o = .ok script) :
    totalBreaks script.lines = totalBreaks d.bareWords := by
  rw [← bareWords_render rendered]
  obtain ⟨p, -, rendered⟩ := Rendered.bind_ok rendered
  obtain rfl : p.script = script := Except.ok.inj rendered
  exact Script.totalBreaks_lay ..

/-- The text of a script has one line more than the script counts for every line break in a bare
    word of the delta: in the name of a column type, the method of an index or an exclusion
    constraint, or what is said about deferring. So a line of the script is the line of the text
    with its number exactly if none of these words has a line break, and the lines of single
    operations have none in the same case. -/
theorem physicalLines_text_iff (rendered : d.render o = .ok script)
    (some : script.isEmpty = false) :
    (physicalLines script.text).length = script.lineCount + totalBreaks d.bareWords ∧
      (physicalLines script.text = script.lines ↔ ∀ word ∈ d.bareWords, '\n' ∉ word.toList) ∧
      ((∀ op ∈ script.operations, ∀ line ∈ op.scriptLines, '\n' ∉ line.toList) ↔
        ∀ word ∈ d.bareWords, '\n' ∉ word.toList) := by
  have filled : script.lines ≠ [] := by
    obtain ⟨p, -, rendered⟩ := Rendered.bind_ok rendered
    obtain rfl : p.script = script := Except.ok.inj rendered
    exact Script.lines_lay_ne_nil _ _ some
  -- All three parts count the same line breaks.
  have breaks := totalBreaks_lines rendered
  refine ⟨?_, ?_, ?_⟩
  · rw [Script.text, length_physicalLines_joined filled, breaks, Script.lineCount]
  · rw [Script.text, physicalLines_joined_iff filled, ← totalBreaks_eq_zero_iff, breaks,
      totalBreaks_eq_zero_iff]
  · rw [← totalBreaks_eq_zero_iff, ← bareWords_render rendered,
      ← totalBreaks_flatMap_congr Operation.totalBreaks_scriptLines, totalBreaks_eq_zero_iff]
    simp only [List.mem_flatMap, forall_exists_index, and_imp]
    exact ⟨fun whole line op member => whole op member line,
      fun whole op member line => whole line op member⟩

/-- A column of a custom type that is written on two lines, and a table to drop. -/
def priceList : Delta where
  add := .ofList [("prices",
    { columns := .ofList [("amount", .ofType (.custom "numeric(10,\n2)"))] })]
  delete := .ofList [("costs", {})]

theorem last_line_of_priceList : ∃ script,
    priceList.render (.ofAdapter .postgres) = .ok script ∧ script.isEmpty = false ∧
      (physicalLines script.text).length = script.lineCount + 1 ∧
      physicalLines script.text ≠ script.lines ∧
      script.steps.map Step.line = [1, 5] ∧
      (physicalLines script.text)[5]? = some "drop_table(\"costs\")" := by
  have ok : (priceList.render (.ofAdapter .postgres)).isOk = true := by decide +kernel
  have shown : (priceList.render (.ofAdapter .postgres)).map (fun script => (script.isEmpty,
      script.steps.map Step.line, (physicalLines script.text)[5]?)) =
      .ok (false, [1, 5], some "drop_table(\"costs\")") := by decide +kernel
  obtain ⟨script, rendered⟩ := Rendered.exists_of_isOk ok
  rw [rendered] at shown
  obtain ⟨some, lines, last⟩ := Prod.mk.inj (Except.ok.inj shown) |>.imp_right Prod.mk.inj
  obtain ⟨length, same, -⟩ := physicalLines_text_iff rendered some
  have broken : ¬ ∀ word ∈ priceList.bareWords, '\n' ∉ word.toList := by decide
  exact ⟨script, rendered, some, length, mt same.mp broken, lines, last⟩

end Delta

end SchemaEvolution
