import SchemaEvolution.Delta.Reader
import SchemaEvolution.Proofs.Json.Mirror

/-! Entries of a delta are read back from their documents. For a column this takes a type
   that goes by its own name; a custom type that is called like a built-in one would come
   back as that. -/
namespace SchemaEvolution

open Json

/-- The type is the one that its name stands for. -/
def ColumnEntry.Canonical (e : ColumnEntry) : Prop := ∀ t ∈ e.type, ColumnType.ofName t.name = t

namespace Json

/- Values of columns. -/

theorem readLiteral_ofInt (depth : Nat) (i : Int64) :
    readLiteral depth (ofInt i.toInt) = some (.integer i) := by
  have whole := Int64.ofInt_toInt i
  have bound := i.toInt_lt
  cases spelled : i.toInt with
  | ofNat n =>
    rw [spelled] at whole bound
    have small : n ≤ greatestInt := Int.ofNat_le.mp (Int.le_of_lt_add_one bound)
    simp only [ofInt, readLiteral, literalOfNumber, if_pos small]
    exact congrArg (some ∘ Literal.integer) whole
  | negSucc n =>
    rw [spelled] at whole
    exact congrArg (some ∘ Literal.integer) whole

theorem readLiteral_ofLiteral (depth : Nat) (l : Literal) :
    readLiteral depth (ofLiteral l) = some l := by
  cases l with
  | integer i => exact readLiteral_ofInt depth i
  | _ => rfl

theorem ofLiteral_ne_object (l : Literal) (ms : List (Option String × Json)) :
    ofLiteral l ≠ .object ms := by
  cases l with
  | integer i =>
    simp only [ofLiteral]
    cases i.toInt <;> exact fun same => nomatch same
  | _ => exact fun same => nomatch same

theorem readDefault_of_ne_object {j : Json} (plain : ∀ ms, j ≠ .object ms) (depth : Nat) :
    readDefault depth j = (readLiteral depth j).map .literal := by
  unfold readDefault
  split
  · exact absurd rfl (plain _)
  · rfl

theorem mirrors_default : Mirrors readDefault ofDefault 1 Any := by
  refine .ofBack fun d depth shallow => ?_
  cases d with
  | literal l =>
    rw [ofDefault, readDefault_of_ne_object (ofLiteral_ne_object l), readLiteral_ofLiteral]
    rfl
  | expression sql =>
    have inside : depth < depthLimit := by omega
    simp [ofDefault, record, ofString, readDefault, usable, usableMembers, inside, knownMembers,
      Keyed.lookup, readString]

@[simp] theorem readSlot_default {depth : Nat} (shallow : depth < depthLimit)
    (v : Option DefaultValue) :
    readSlot (fun depth j => (readDefault depth j).map some) none depth (v.map ofDefault) =
      some v := by
  cases v with
  | none => rfl
  | some d => simp [mirrors_default.back d trivial depth shallow]

@[simp] theorem readSlot_word (depth : Nat) (v : Option UInt32) :
    readSlot (readOption readWord) none depth (v.map ofWord) = some v := by
  refine readSlot_option (fun n _ => ?_) fun _ same => nomatch same
  have small : n.toNat < 4294967296 := n.toNat_lt
  simp [readWord, ofWord, ofNat, small]

theorem readSlot_type {depth : Nat} {v : Option ColumnType}
    (canonical : ∀ t ∈ v, ColumnType.ofName t.name = t) :
    readSlot (readOption readColumnType) none depth (v.map ofType) = some v :=
  readSlot_option
    (fun t member => congrArg some (canonical t member))
    fun _ same => nomatch same

theorem canonical_of_readColumnType {depth : Nat} {j : Json} {t : ColumnType}
    (read : readColumnType depth j = some t) : ColumnType.ofName t.name = t := by
  obtain ⟨name, -, rfl⟩ := Option.map_eq_some_iff.mp read
  exact congrArg ColumnType.ofName (ColumnType.name_ofName name)

def columnOptionSlots (e : ColumnEntry) : Slots where
  entries := [("null", e.traits.nullable.map .bool), ("default", e.traits.default.map ofDefault),
    ("limit", e.traits.limit.map ofWord), ("precision", e.traits.precision.map ofWord),
    ("scale", e.traits.scale.map ofWord), ("unsigned", setFlag e.traits.unsigned),
    ("auto_increment", setFlag e.traits.autoIncrement),
    ("primary_key", setFlag e.traits.primaryKey),
    ("comment", e.traits.comment.map ofString), ("collation", e.traits.collation.map ofString),
    ("ignore", setFlag e.ignored), ("renamed_from", e.renamedFrom.map ofString)]
  distinct := by simp

def columnSlots (e : ColumnEntry) : Slots where
  entries := [("type", e.type.map ofType), ("options", some (columnOptionSlots e).document)]
  distinct := by simp

theorem ofColumnEntry_eq (e : ColumnEntry) : ofColumnEntry e = (columnSlots e).document := by
  simp [ofColumnEntry, columnSlots, columnOptionSlots, Slots.document, flagged_eq_present,
    presentString, presentWord, present]

theorem readColumnOptions_document (e : ColumnEntry) (depth : Nat)
    (shallow : depth + 2 ≤ depthLimit) :
    readColumnOptions depth (columnOptionSlots e).document = some { e with type := none } := by
  have inside : depth + 1 < depthLimit := by omega
  rw [readColumnOptions, readFields_document (s := columnOptionSlots e)]
  -- In the order of the fields: a rewrite of all at once would go over those after it each time.
  · refine Eq.trans (bind_slot rfl (readSlot_bool ..)) ?_
    refine Eq.trans (bind_slot rfl (readSlot_default inside _)) ?_
    refine Eq.trans (bind_slot rfl (readSlot_word ..)) ?_
    refine Eq.trans (bind_slot rfl (readSlot_word ..)) ?_
    refine Eq.trans (bind_slot rfl (readSlot_word ..)) ?_
    refine Eq.trans (bind_slot rfl (readSlot_flag ..)) ?_
    refine Eq.trans (bind_slot rfl (readSlot_flag ..)) ?_
    refine Eq.trans (bind_slot rfl (readSlot_flag ..)) ?_
    refine Eq.trans (bind_slot rfl (readSlot_string ..)) ?_
    refine Eq.trans (bind_slot rfl (readSlot_string ..)) ?_
    refine Eq.trans (bind_slot rfl (readSlot_flag ..)) ?_
    exact Eq.trans (bind_slot rfl (readSlot_string ..)) rfl
  · rfl
  · omega

theorem mirrors_columnEntry : Mirrors readColumnEntry ofColumnEntry 3 ColumnEntry.Canonical where
  sound depth j e read := by
    simp only [readColumnEntry, Option.bind_eq_bind, Option.bind_eq_some_iff, Option.pure_def,
      Option.some.injEq] at read
    obtain ⟨fs, -, type, typed, options, -, rfl⟩ := read
    exact Fields.of_optional (fun _ _ _ => canonical_of_readColumnType) typed
  back e canonical depth shallow := by
    have options := readColumnOptions_document e (depth + 1) (by omega)
    rw [ofColumnEntry_eq, readColumnEntry, readFields_document (s := columnSlots e)]
    · simp [columnSlots, Keyed.get?, Keyed.lookup, options, readSlot_type canonical]
    · rfl
    · omega

/- Indexes. -/

theorem readList_ofStrings (depth : Nat) (shallow : depth < depthLimit) (xs : List String) :
    readList readString depth (ofStrings xs) = some xs :=
  mirrors_string.list.back xs (fun _ _ => trivial) depth shallow

theorem readNames_ofStrings (depth : Nat) (shallow : depth < depthLimit) (xs : List String) :
    readNames depth (ofStrings xs) = some xs := readList_ofStrings depth shallow xs

def indexOptionSlots (e : IndexEntry) : Slots where
  entries := [("name", e.name.map ofString), ("unique", setFlag e.unique),
    ("where", e.predicate.map ofString), ("using", e.method.map ofString),
    ("ignore", setFlag e.ignored)]
  distinct := by simp

def indexSlots (e : IndexEntry) : Slots where
  entries := [("column_name", some (ofStrings e.columns)),
    ("options", some (indexOptionSlots e).document)]
  distinct := by simp

theorem ofIndexEntry_eq (e : IndexEntry) : ofIndexEntry e = (indexSlots e).document := by
  simp [ofIndexEntry, indexSlots, indexOptionSlots, Slots.document, flagged_eq_present,
    presentString, present]

theorem readIndexOptions_document (e : IndexEntry) (depth : Nat) (shallow : depth < depthLimit) :
    readIndexOptions depth (indexOptionSlots e).document = some { e with columns := [] } := by
  rw [readIndexOptions, readFields_document (s := indexOptionSlots e)]
  · simp [indexOptionSlots, Keyed.get?, Keyed.lookup]
  · rfl
  · exact shallow

theorem mirrors_indexEntry : Mirrors readIndexEntry ofIndexEntry 2 Any := by
  refine .ofBack fun e depth shallow => ?_
  have columns := readNames_ofStrings (depth + 1) (by omega) e.columns
  have options := readIndexOptions_document e (depth + 1) (by omega)
  rw [ofIndexEntry_eq, readIndexEntry, readFields_document (s := indexSlots e)]
  · simp [indexSlots, Keyed.get?, Keyed.lookup, columns, options]
  · rfl
  · omega

/- Foreign keys. -/

@[simp] theorem readSlot_action (depth : Nat) (v : Option ForeignKeyAction) :
    readSlot (readOption readAction) none depth (v.map ofAction) = some v :=
  readSlot_option (fun a _ => ForeignKeyAction.ofName?_name a) fun _ same => nomatch same

def foreignKeyOptionSlots (e : ForeignKeyEntry) : Slots where
  entries := [("name", e.name.map ofString), ("column", e.column.map ofString),
    ("primary_key", e.primaryKey.map ofString), ("on_delete", e.onDelete.map ofAction),
    ("on_update", e.onUpdate.map ofAction), ("ignore", setFlag e.ignored)]
  distinct := by simp

def foreignKeySlots (e : ForeignKeyEntry) : Slots where
  entries := [("to_table", e.toTable.map ofString),
    ("options", some (foreignKeyOptionSlots e).document)]
  distinct := by simp

theorem ofForeignKeyEntry_eq (e : ForeignKeyEntry) :
    ofForeignKeyEntry e = (foreignKeySlots e).document := by
  simp [ofForeignKeyEntry, foreignKeySlots, foreignKeyOptionSlots, Slots.document,
    flagged_eq_present, presentString, present]

theorem readForeignKeyOptions_document (e : ForeignKeyEntry) (depth : Nat)
    (shallow : depth < depthLimit) :
    readForeignKeyOptions depth (foreignKeyOptionSlots e).document =
      some { e with toTable := none } := by
  rw [readForeignKeyOptions, readFields_document (s := foreignKeyOptionSlots e)]
  · simp [foreignKeyOptionSlots, Keyed.get?, Keyed.lookup]
  · rfl
  · exact shallow

theorem mirrors_foreignKeyEntry : Mirrors readForeignKeyEntry ofForeignKeyEntry 2 Any := by
  refine .ofBack fun e depth shallow => ?_
  have options := readForeignKeyOptions_document e (depth + 1) (by omega)
  rw [ofForeignKeyEntry_eq, readForeignKeyEntry, readFields_document (s := foreignKeySlots e)]
  · simp [foreignKeySlots, Keyed.get?, Keyed.lookup, options]
  · rfl
  · omega

/- Constraints. -/

def constraintOptionSlots (o : ConstraintOptions) : Slots where
  entries := [("name", o.name.map ofString), ("validate", o.validate.map .bool),
    ("using", o.method.map ofString), ("where", o.predicate.map ofString),
    ("deferrable", o.deferrable.map ofString), ("ignore", setFlag o.ignored)]
  distinct := by simp

theorem ofConstraintOptions_eq (o : ConstraintOptions) :
    ofConstraintOptions o = (constraintOptionSlots o).document := by
  simp [ofConstraintOptions, constraintOptionSlots, Slots.document, flagged_eq_present,
    presentString]

theorem mirrors_constraintOptions :
    Mirrors readConstraintOptions ofConstraintOptions 1 Any := by
  refine .ofBack fun o depth shallow => ?_
  rw [ofConstraintOptions_eq, readConstraintOptions,
    readFields_document (s := constraintOptionSlots o)]
  · simp [constraintOptionSlots, Keyed.get?, Keyed.lookup]
  · rfl
  · exact shallow

def constraintSlots (e : ConstraintEntry) : Slots where
  entries := [("expression", e.expression.map ofString),
    ("options", some (ofConstraintOptions e.options))]
  distinct := by simp

theorem ofConstraintEntry_eq (e : ConstraintEntry) :
    ofConstraintEntry e = (constraintSlots e).document := rfl

theorem mirrors_constraintEntry : Mirrors readConstraintEntry ofConstraintEntry 2 Any := by
  refine .ofBack fun e depth shallow => ?_
  have options := mirrors_constraintOptions.back e.options trivial (depth + 1) (by omega)
  rw [ofConstraintEntry_eq, readConstraintEntry, readFields_document (s := constraintSlots e)]
  · simp [constraintSlots, Keyed.get?, Keyed.lookup, options]
  · rfl
  · omega

def uniqueSlots (e : UniqueEntry) : Slots where
  entries := [("column_name", some (ofStrings e.columns)),
    ("options", some (ofConstraintOptions e.options))]
  distinct := by simp

theorem ofUniqueEntry_eq (e : UniqueEntry) : ofUniqueEntry e = (uniqueSlots e).document := rfl

theorem mirrors_uniqueEntry : Mirrors readUniqueEntry ofUniqueEntry 2 Any := by
  refine .ofBack fun e depth shallow => ?_
  have columns := readNames_ofStrings (depth + 1) (by omega) e.columns
  have options := mirrors_constraintOptions.back e.options trivial (depth + 1) (by omega)
  rw [ofUniqueEntry_eq, readUniqueEntry, readFields_document (s := uniqueSlots e)]
  · simp [uniqueSlots, Keyed.get?, Keyed.lookup, columns, options]
  · rfl
  · omega

/- Options of tables. -/

def keySlot (columns : List String) : Option Json :=
  if columns.isEmpty then none else some (ofStrings columns)

theorem readSlot_key (depth : Nat) (shallow : depth < depthLimit) (columns : List String) :
    readSlot (readList readString) [] depth (keySlot columns) = some columns := by
  cases columns with
  | nil => rfl
  | cons c columns => exact readList_ofStrings depth shallow (c :: columns)

def tableOptionSlots (o : TableOptions) : Slots where
  entries := [("primary_key", keySlot o.primaryKey), ("options", o.raw.map ofString),
    ("charset", o.charset.map ofString), ("collation", o.collation.map ofString),
    ("comment", o.comment.map ofString)]
  distinct := by simp

theorem ofTableOptions_eq (o : TableOptions) :
    ofTableOptions o = (tableOptionSlots o).document := by
  simp [ofTableOptions, tableOptionSlots, keySlot, Slots.document, presentString]

theorem mirrors_tableOptions : Mirrors readTableOptions ofTableOptions 2 Any := by
  refine .ofBack fun o depth shallow => ?_
  have columns := readSlot_key (depth + 1) (by omega) o.primaryKey
  rw [ofTableOptions_eq, readTableOptions, readFields_document (s := tableOptionSlots o)]
  · simp [tableOptionSlots, Keyed.get?, Keyed.lookup, columns]
  · rfl
  · omega

end Json

end SchemaEvolution
