import SchemaEvolution.Proofs.Script.Arguments

/-! Script text tells the operation. The name of a call tells what kind of operation it is, its
   arguments tell the rest of it, and the lines of a block tell its members one by one. So two
   operations that are shown alike are the same, as far as words hold together and no float is
   among the defaults. -/
namespace SchemaEvolution

open Text

/- The names of the calls. -/

theorem call_append_inj {name name' : String} {r s : List Char} (plain : '(' ∉ name.toList)
    (plain' : '(' ∉ name'.toList) (same : name.toList ++ '(' :: r = name'.toList ++ '(' :: s) :
    name = name' ∧ r = s := by
  obtain ⟨names, rest⟩ := append_inj_of_stops (· = '(') (fun _ member stop => plain (stop ▸ member))
    (fun _ member stop => plain' (stop ▸ member)) (by simp) (by simp) same
  exact ⟨String.toList_inj.mp names, List.tail_eq_of_cons_eq rest⟩

theorem quoted_append_inj {name name' : String} {r s : List Char}
    (same : (quoted name).toList ++ r = (quoted name').toList ++ s) : name = name' ∧ r = s :=
  quoted_uniquelyRead trivial trivial trivial trivial same

theorem quoted_between {before after after' name name' : String}
    (same : before ++ (quoted name ++ after) = before ++ (quoted name' ++ after')) :
    name = name' ∧ after = after' :=
  quoted_uniquelyRead.between trivial trivial same

theorem renaming_append_inj {source target source' target' : String} {r s : List Char}
    (same : (quoted source ++ ", " ++ quoted target).toList ++ r =
      (quoted source' ++ ", " ++ quoted target').toList ++ s) :
    source = source' ∧ target = target' ∧ r = s := by
  simp only [String.toList_append, List.append_assoc] at same
  obtain ⟨sources, rest⟩ := quoted_append_inj same
  exact ⟨sources, quoted_append_inj (List.append_cancel_left rest)⟩

theorem named_append_inj {name name' : String} {r s : List Char}
    (same : ("name: " ++ quoted name).toList ++ r = ("name: " ++ quoted name').toList ++ s) :
    name = name' ∧ r = s := by
  simp only [String.toList_append, List.append_assoc] at same
  exact quoted_append_inj (List.append_cancel_left same)

def ConstraintKind.outline : ConstraintKind → Constraint
  | check => .check ⟨"", "", true⟩
  | exclusion => .exclusion ⟨"", "", none, none, none⟩
  | unique => .unique ⟨"", [], none⟩

theorem ConstraintKind.kind_outline (kind : ConstraintKind) : kind.outline.kind = kind := by
  cases kind <;> rfl

namespace Alteration

/-- An alteration with everything left blank that the name of its call does not tell. -/
def outline : Alteration → Alteration
  | addColumn _ => addColumn ⟨"", .integer, {}⟩
  | renameColumn _ _ => renameColumn "" ""
  | changeColumn _ => changeColumn ⟨"", .integer, {}⟩
  | removeColumn _ => removeColumn ""
  | addIndex _ => addIndex ⟨"", [], false, none, none⟩
  | renameIndex _ _ => renameIndex "" ""
  | removeIndex _ => removeIndex ""
  | addConstraint c => addConstraint c.kind.outline
  | removeConstraint kind _ => removeConstraint kind ""

/-- One outline of every kind. No two of them have a call of one name. -/
def outlines : List Alteration :=
  [addColumn ⟨"", .integer, {}⟩, renameColumn "" "", changeColumn ⟨"", .integer, {}⟩,
   removeColumn "", addIndex ⟨"", [], false, none, none⟩, renameIndex "" "", removeIndex ""]
    ++ [ConstraintKind.check, .exclusion, .unique].map (fun kind => addConstraint kind.outline)
    ++ [ConstraintKind.check, .exclusion, .unique].map (removeConstraint · "")

theorem outline_mem_outlines (a : Alteration) : a.outline ∈ outlines := by
  cases a with
  | addConstraint c => cases c <;> simp [outline, outlines, Constraint.kind]
  | removeConstraint kind name => cases kind <;> simp [outline, outlines]
  | _ => simp [outline, outlines]

theorem memberCall_outline (a : Alteration) : a.outline.memberCall = a.memberCall := by
  cases a with
  | addConstraint c => cases c <;> rfl
  | _ => rfl

theorem loneCall_outline (a : Alteration) : a.outline.loneCall = a.loneCall := by
  cases a with
  | addConstraint c => cases c <;> rfl
  | _ => rfl

theorem outline_eq_of_memberCall {a b : Alteration} (same : a.memberCall = b.memberCall) :
    a.outline = b.outline := by
  have apart : (outlines.map memberCall).Nodup := by decide +kernel
  rw [← memberCall_outline a, ← memberCall_outline b] at same
  exact List.inj_on_of_nodup_map apart (outline_mem_outlines a) (outline_mem_outlines b) same

theorem plain_memberCall (a : Alteration) : '(' ∉ a.memberCall.toList := by
  have plain : ∀ o ∈ outlines, '(' ∉ o.memberCall.toList := by decide +kernel
  exact memberCall_outline a ▸ plain _ (outline_mem_outlines a)

/-- Words hold together, custom types are not called like built-in ones, and no default is a
    float. -/
def Legible : Alteration → Prop
  | addColumn c => c.Legible
  | changeColumn c => c.Legible
  | addIndex i => i.Legible
  | addConstraint c => c.Legible
  | _ => True

theorem uniquelyRead (o : Alteration) :
    UniquelyRead (fun a => a.outline = o ∧ a.Legible) (fun _ => True) scriptArguments := by
  rintro a b ⟨rfl, legible⟩ ⟨outlines, legible'⟩ r s _ _ same
  cases a with
  | addColumn c =>
    cases b with
    | addColumn d =>
      obtain ⟨rfl, rest⟩ := Column.uniquelyRead legible legible' trivial trivial same
      exact ⟨rfl, rest⟩
    | _ => cases outlines
  | renameColumn source target =>
    cases b with
    | renameColumn source' target' =>
      obtain ⟨rfl, rfl, rest⟩ := renaming_append_inj same
      exact ⟨rfl, rest⟩
    | _ => cases outlines
  | changeColumn c =>
    cases b with
    | changeColumn d =>
      obtain ⟨rfl, rest⟩ := Column.uniquelyRead legible legible' trivial trivial same
      exact ⟨rfl, rest⟩
    | _ => cases outlines
  | removeColumn name =>
    cases b with
    | removeColumn name' =>
      obtain ⟨rfl, rest⟩ := quoted_append_inj same
      exact ⟨rfl, rest⟩
    | _ => cases outlines
  | addIndex i =>
    cases b with
    | addIndex j =>
      obtain ⟨rfl, rest⟩ := Index.uniquelyRead legible legible' trivial trivial same
      exact ⟨rfl, rest⟩
    | _ => cases outlines
  | renameIndex source target =>
    cases b with
    | renameIndex source' target' =>
      obtain ⟨rfl, rfl, rest⟩ := renaming_append_inj same
      exact ⟨rfl, rest⟩
    | _ => cases outlines
  | removeIndex name =>
    cases b with
    | removeIndex name' =>
      obtain ⟨rfl, rest⟩ := named_append_inj same
      exact ⟨rfl, rest⟩
    | _ => cases outlines
  | addConstraint c =>
    cases b with
    | addConstraint d =>
      have kinds : d.kind = c.kind := by
        rw [← ConstraintKind.kind_outline d.kind, Alteration.addConstraint.inj outlines,
          ConstraintKind.kind_outline]
      obtain ⟨rfl, rest⟩ := Constraint.uniquelyRead c.kind ⟨rfl, legible⟩ ⟨kinds, legible'⟩ trivial
        trivial same
      exact ⟨rfl, rest⟩
    | _ => cases outlines
  | removeConstraint kind name =>
    cases b with
    | removeConstraint kind' name' =>
      obtain ⟨rfl, _⟩ := Alteration.removeConstraint.inj outlines
      obtain ⟨rfl, rest⟩ := named_append_inj same
      exact ⟨rfl, rest⟩
    | _ => cases outlines

theorem eq_of_memberLine {a b : Alteration} (legible : a.Legible) (legible' : b.Legible)
    (same : a.memberLine = b.memberLine) : a = b := by
  have chars := congrArg String.toList same
  simp only [memberLine, String.toList_append, List.append_assoc] at chars
  obtain ⟨calls, rest⟩ := call_append_inj (plain_memberCall a) (plain_memberCall b)
    (List.append_cancel_left chars)
  exact (uniquelyRead b.outline ⟨outline_eq_of_memberCall calls, legible⟩ ⟨rfl, legible'⟩ trivial
    trivial rest).1

/-- A block tells its members one by one. -/
theorem eq_of_memberLines {as bs : List Alteration} (legible : ∀ a ∈ as, a.Legible)
    (legible' : ∀ b ∈ bs, b.Legible) (same : as.map memberLine = bs.map memberLine) : as = bs := by
  induction as generalizing bs with
  | nil => exact (List.map_eq_nil_iff.mp same.symm).symm
  | cons a as ih =>
    cases bs with
    | nil => nomatch same
    | cons b bs =>
      obtain ⟨first, others⟩ := List.cons.inj same
      obtain ⟨legibleA, legibleAs⟩ := List.forall_mem_cons.mp legible
      obtain ⟨legibleB, legibleBs⟩ := List.forall_mem_cons.mp legible'
      rw [eq_of_memberLine legibleA legibleB first, ih legibleAs legibleBs others]

end Alteration

/- Members of a created table. -/

namespace Alteration

def column? : Alteration → Option Column
  | addColumn c => some c
  | _ => none

def index? : Alteration → Option Index
  | addIndex i => some i
  | _ => none

def check? : Alteration → Option CheckConstraint
  | addConstraint (.check c) => some c
  | _ => none

def exclusion? : Alteration → Option ExclusionConstraint
  | addConstraint (.exclusion c) => some c
  | _ => none

def unique? : Alteration → Option UniqueConstraint
  | addConstraint (.unique c) => some c
  | _ => none

end Alteration

def CreateTable.ofMembers (name : String) (options : TableOptions) (members : List Alteration) :
    CreateTable where
  name := name
  options := options
  columns := members.filterMap Alteration.column?
  indexes := members.filterMap Alteration.index?
  checks := members.filterMap Alteration.check?
  exclusions := members.filterMap Alteration.exclusion?
  uniques := members.filterMap Alteration.unique?

theorem CreateTable.ofMembers_members (t : CreateTable) :
    ofMembers t.name t.options t.members = t := by
  simp [ofMembers, members, constraints, List.filterMap_append, List.filterMap_map,
    Function.comp_def, Alteration.column?, Alteration.index?, Alteration.check?,
    Alteration.exclusion?, Alteration.unique?]

namespace Operation

def call : Operation → String
  | createTable _ => "create_table"
  | renameTable _ _ => "rename_table"
  | dropTable _ => "drop_table"
  | changeTable _ _ => "change_table"
  | alter _ a => a.loneCall
  | addForeignKey _ _ => "add_foreign_key"
  | removeForeignKey _ _ => "remove_foreign_key"
  | changeTableOptions _ _ => "change_table_options"
  | changeTableComment _ _ => "change_table_comment"

def outline : Operation → Operation
  | createTable _ => createTable { name := "" }
  | renameTable _ _ => renameTable "" ""
  | dropTable _ => dropTable ""
  | changeTable _ _ => changeTable "" []
  | alter _ a => alter "" a.outline
  | addForeignKey _ _ => addForeignKey "" ⟨"", "", "", "", none, none⟩
  | removeForeignKey _ _ => removeForeignKey "" ""
  | changeTableOptions _ _ => changeTableOptions "" ""
  | changeTableComment _ _ => changeTableComment "" none

def outlines : List Operation :=
  [createTable { name := "" }, renameTable "" "", dropTable "", changeTable "" [],
   addForeignKey "" ⟨"", "", "", "", none, none⟩, removeForeignKey "" "",
   changeTableOptions "" "", changeTableComment "" none]
    ++ Alteration.outlines.map (alter "")

theorem outline_mem_outlines (op : Operation) : op.outline ∈ outlines := by
  cases op with
  | alter t a => simpa [outline, outlines] using a.outline_mem_outlines
  | _ => simp [outline, outlines]

theorem call_outline (op : Operation) : op.outline.call = op.call := by
  cases op with
  | alter t a => exact a.loneCall_outline
  | _ => rfl

theorem outline_eq_of_call {op other : Operation} (same : op.call = other.call) :
    op.outline = other.outline := by
  have apart : (outlines.map call).Nodup := by decide +kernel
  rw [← call_outline op, ← call_outline other] at same
  exact List.inj_on_of_nodup_map apart op.outline_mem_outlines other.outline_mem_outlines same

theorem plain_call (op : Operation) : '(' ∉ op.call.toList := by
  have plain : ∀ o ∈ outlines, '(' ∉ o.call.toList := by decide +kernel
  exact call_outline op ▸ plain _ op.outline_mem_outlines

theorem exists_first_line (op : Operation) : ∃ line rest arguments,
    op.scriptLines = line :: rest ∧ line.toList = op.call.toList ++ '(' :: arguments := by
  cases op with
  | alter t a => exact ⟨_, _, _, rfl, by simp [call, Alteration.loneLine]; rfl⟩
  | _ => exact ⟨_, _, _, rfl, by simp [call]; rfl⟩

theorem outline_eq_of_scriptLines {op other : Operation}
    (same : op.scriptLines = other.scriptLines) : op.outline = other.outline := by
  obtain ⟨line, _, _, lines, begins⟩ := exists_first_line op
  obtain ⟨line', _, _, lines', begins'⟩ := exists_first_line other
  rw [lines, lines'] at same
  obtain ⟨rfl, _⟩ := List.cons.inj same
  exact outline_eq_of_call (call_append_inj (plain_call op) (plain_call other)
    (begins.symm.trans begins')).1

def alterations : Operation → List Alteration
  | createTable t => t.members
  | changeTable _ as => as
  | alter _ a => [a]
  | _ => []

def Legible (op : Operation) : Prop := ∀ a ∈ op.alterations, a.Legible

theorem createTable_inj {t u : CreateTable} (legible : (createTable t).Legible)
    (legible' : (createTable u).Legible)
    (same : (createTable t).scriptLines = (createTable u).scriptLines) : t = u := by
  simp only [scriptLines, String.append_assoc, List.cons_append, List.cons.injEq,
    List.append_cancel_right_eq] at same
  obtain ⟨first, block⟩ := same
  obtain ⟨name, rest⟩ := quoted_between first
  obtain ⟨options, _⟩ := TableOptions.uniquelyRead.between trivial trivial rest
  have members : t.members = u.members := Alteration.eq_of_memberLines legible legible' block
  rw [← t.ofMembers_members, name, options, members, u.ofMembers_members]

theorem changeTable_inj {t u : String} {as bs : List Alteration}
    (legible : (changeTable t as).Legible) (legible' : (changeTable u bs).Legible)
    (same : (changeTable t as).scriptLines = (changeTable u bs).scriptLines) : t = u ∧ as = bs := by
  simp only [scriptLines, String.append_assoc, List.cons_append, List.cons.injEq,
    List.append_cancel_right_eq] at same
  obtain ⟨first, block⟩ := same
  exact ⟨(quoted_between first).1, Alteration.eq_of_memberLines legible legible' block⟩

theorem alter_inj {t u : String} {a b : Alteration} (legible : a.Legible) (legible' : b.Legible)
    (outlines : a.outline = b.outline)
    (same : (alter t a).scriptLines = (alter u b).scriptLines) : t = u ∧ a = b := by
  have calls : a.loneCall = b.loneCall := by
    rw [← a.loneCall_outline, outlines, b.loneCall_outline]
  have chars := congrArg String.toList (List.cons.inj same).1
  simp only [Alteration.loneLine, calls, String.toList_append, List.append_assoc] at chars
  obtain ⟨tables, rest⟩ :=
    quoted_append_inj (List.append_cancel_left (List.append_cancel_left chars))
  have alike := Alteration.uniquelyRead b.outline ⟨outlines, legible⟩ ⟨rfl, legible'⟩ trivial
    trivial (List.append_cancel_left rest)
  exact ⟨tables, alike.1⟩

theorem changeTableComment_inj {t u : String} {x y : Option String}
    (same : (changeTableComment t x).scriptLines = (changeTableComment u y).scriptLines) :
    t = u ∧ x = y := by
  simp only [scriptLines, String.append_assoc, List.cons.injEq, and_true] at same
  obtain ⟨tables, rest⟩ := quoted_between same
  have comments := congrArg String.toList rest
  cases x with
  | none =>
    cases y with
    | none => exact ⟨tables, rfl⟩
    | some c => simp [quoted, quotedChars] at comments
  | some b =>
    cases y with
    | none => simp [quoted, quotedChars] at comments
    | some c => exact ⟨tables, congrArg some (quoted_between rest).1⟩

theorem eq_of_outline {op other : Operation} (legible : op.Legible) (legible' : other.Legible)
    (outlines : op.outline = other.outline) (same : op.scriptLines = other.scriptLines) :
    op = other := by
  cases op with
  | createTable t =>
    cases other with
    | createTable u => rw [createTable_inj legible legible' same]
    | _ => cases outlines
  | renameTable source target =>
    cases other with
    | renameTable source' target' =>
      simp only [scriptLines, String.append_assoc, List.cons.injEq, and_true] at same
      obtain ⟨rfl, rest⟩ := quoted_between same
      obtain ⟨rfl, _⟩ := quoted_between rest
      rfl
    | _ => cases outlines
  | dropTable name =>
    cases other with
    | dropTable name' =>
      simp only [scriptLines, String.append_assoc, List.cons.injEq, and_true] at same
      obtain ⟨rfl, _⟩ := quoted_between same
      rfl
    | _ => cases outlines
  | changeTable t as =>
    cases other with
    | changeTable u bs =>
      obtain ⟨rfl, rfl⟩ := changeTable_inj legible legible' same
      rfl
    | _ => cases outlines
  | alter t a =>
    cases other with
    | alter u b =>
      obtain ⟨rfl, rfl⟩ := alter_inj (legible a (List.mem_singleton_self a))
        (legible' b (List.mem_singleton_self b)) (Operation.alter.inj outlines).2 same
      rfl
    | _ => cases outlines
  | addForeignKey t j =>
    cases other with
    | addForeignKey u k =>
      simp only [scriptLines, String.append_assoc, List.cons.injEq, and_true] at same
      obtain ⟨rfl, rest⟩ := quoted_between same
      obtain ⟨rfl, _⟩ := ForeignKey.uniquelyRead.between trivial trivial rest
      rfl
    | _ => cases outlines
  | removeForeignKey t name =>
    cases other with
    | removeForeignKey u name' =>
      simp only [scriptLines, String.append_assoc, List.cons.injEq, and_true] at same
      obtain ⟨rfl, rest⟩ := quoted_between same
      obtain ⟨rfl, _⟩ := quoted_between rest
      rfl
    | _ => cases outlines
  | changeTableOptions t options =>
    cases other with
    | changeTableOptions u options' =>
      simp only [scriptLines, String.append_assoc, List.cons.injEq, and_true] at same
      obtain ⟨rfl, rest⟩ := quoted_between same
      obtain ⟨rfl, _⟩ := quoted_between rest
      rfl
    | _ => cases outlines
  | changeTableComment t x =>
    cases other with
    | changeTableComment u y =>
      obtain ⟨rfl, rfl⟩ := changeTableComment_inj same
      rfl
    | _ => cases outlines

/-- Operations that are shown alike are the same. -/
theorem eq_of_scriptLines {op other : Operation} (legible : op.Legible) (legible' : other.Legible)
    (same : op.scriptLines = other.scriptLines) : op = other :=
  eq_of_outline legible legible' (outline_eq_of_scriptLines same) same

end Operation

/-- A table that keeps two stays in one room apart. -/
def stays : CreateTable where
  name := "stays"
  options := { primaryKey := ["id"], comment := some "one \x22stay\x22\na row" }
  columns := [⟨"id", .bigint, { nullable := some false, primaryKey := true }⟩,
    ⟨"during", .custom "tsrange", { default := some (.expression "now()") }⟩]
  indexes := [⟨"by_time", ["during"], false, none, some "gist"⟩]
  exclusions := [⟨"no_overlap", "during WITH &&", some "gist", none, some "deferred"⟩]
  uniques := [⟨"one_each", ["id", "during"], some "immediate"⟩]

def staysStepwise : CreateTable :=
  { stays with
    columns := [Column.asPrimaryKey ⟨"id", .bigint, {}⟩,
      Column.withDefault ⟨"during", .custom "tsrange", {}⟩ (.expression "now()")] }

theorem stays_told_by_lines :
    (Operation.createTable stays).Legible ∧ (Operation.createTable staysStepwise).Legible ∧
    (Operation.createTable stays).scriptLines = (Operation.createTable staysStepwise).scriptLines ∧
    Operation.createTable stays = Operation.createTable staysStepwise := by
  have range : (ColumnType.custom "tsrange").Legible :=
    ⟨unbroken_of_isWord (by decide +kernel), by decide⟩
  have gist : Unbroken "gist" := unbroken_of_isWord (by decide +kernel)
  have immediate : Unbroken "immediate" := unbroken_of_isWord (by decide +kernel)
  have deferred : Unbroken "deferred" := unbroken_of_isWord (by decide +kernel)
  have legible : (Operation.createTable stays).Legible := by
    intro a member
    simp [Operation.alterations, CreateTable.members, CreateTable.constraints, stays] at member
    rcases member with rfl | rfl | rfl | rfl | rfl
    · exact ⟨trivial, nofun⟩
    · exact ⟨range, nofun⟩
    · simpa [Alteration.Legible, Index.Legible] using gist
    · simpa [Alteration.Legible, Constraint.Legible] using ⟨gist, deferred⟩
    · simpa [Alteration.Legible, Constraint.Legible] using immediate
  have legible' : (Operation.createTable staysStepwise).Legible := legible
  exact ⟨legible, legible', rfl, Operation.eq_of_scriptLines legible legible' rfl⟩

/-- A word that does not hold together could pass for the option after it, and a custom type for
    a built-in one. -/
example :
    (Constraint.exclusion ⟨"x", "e", some "gist, where: \x22p\x22", none, none⟩).scriptArguments =
      (Constraint.exclusion ⟨"x", "e", some "gist", some "p", none⟩).scriptArguments ∧
    (Column.mk "a" (.custom "text") {}).scriptArguments =
      (Column.mk "a" .text {}).scriptArguments := by
  decide +kernel

end SchemaEvolution
