import SchemaEvolution.Proofs.Delta.Documents
import SchemaEvolution.Proofs.Json.Parse

/-! A delta that was read from a document is written to a document again from which the
   same delta is read: with all maps in their order, a null default kept apart from none,
   and every guard. As text this holds of deltas without floats: a float read from its
   digits may be off by a unit. -/
namespace SchemaEvolution

open Json

def DefaultValue.exact : DefaultValue → Bool
  | .literal (.float _) => false
  | _ => true

def ColumnEntry.FloatFree (e : ColumnEntry) : Prop := ∀ d ∈ e.traits.default, d.exact = true

instance (e : ColumnEntry) : Decidable e.FloatFree :=
  inferInstanceAs (Decidable (∀ d ∈ e.traits.default, d.exact = true))

def Delta.FloatFree (d : Delta) : Prop := ∀ e ∈ d.columnEntries, e.FloatFree

instance (d : Delta) : Decidable d.FloatFree :=
  inferInstanceAs (Decidable (∀ e ∈ d.columnEntries, e.FloatFree))

namespace Json

variable {α : Type} {w : α → Json}

/- What is written has a text. -/

def PlainSlot (x : Option Json) : Prop := ∀ j ∈ x, Plain j

theorem plainSlot_map {v : Option α} (all : ∀ a ∈ v, Plain (w a)) : PlainSlot (v.map w) := by
  intro j written
  obtain ⟨a, held, rfl⟩ := Option.map_eq_some_iff.mp written
  exact all a held

@[simp] theorem plainSlot_some (j : Json) : PlainSlot (some j) ↔ Plain j :=
  ⟨fun all => all j rfl, fun plain _ same => Option.some.inj same ▸ plain⟩

theorem Slots.plain_document {s : Slots} (all : ∀ x ∈ s.values, PlainSlot x) :
    Plain s.document := by
  refine .record fun f member => ?_
  obtain ⟨slot, held, written⟩ := List.mem_flatMap.mp member
  cases value : slot.2 with
  | none => simp [present, value] at written
  | some j =>
    obtain rfl : f = (slot.1, j) := by simpa [present, value] using written
    exact all slot.2 (List.mem_map_of_mem held) j value

@[simp] theorem plain_ofString (s : String) : Plain (ofString s) := .text s

@[simp] theorem plainSlot_string (v : Option String) : PlainSlot (v.map ofString) :=
  plainSlot_map fun s _ => .text s

@[simp] theorem plainSlot_bool (v : Option Bool) : PlainSlot (v.map .bool) :=
  plainSlot_map fun b _ => .bool b

@[simp] theorem plainSlot_flag (b : Bool) : PlainSlot (setFlag b) := by
  cases b with
  | false => exact fun j written => nomatch written
  | true => exact (plainSlot_some _).mpr (.bool true)

@[simp] theorem plainSlot_word (v : Option UInt32) : PlainSlot (v.map ofWord) :=
  plainSlot_map fun n _ => .natural (Nat.lt_trans n.toNat_lt (by decide))

@[simp] theorem plainSlot_type (v : Option ColumnType) : PlainSlot (v.map ofType) :=
  plainSlot_map fun t _ => .text t.name

@[simp] theorem plainSlot_action (v : Option ForeignKeyAction) : PlainSlot (v.map ofAction) :=
  plainSlot_map fun a _ => .text a.name

@[simp] theorem plain_ofStrings (xs : List String) : Plain (ofStrings xs) := by
  refine .array fun j member => ?_
  obtain ⟨s, -, rfl⟩ := List.mem_map.mp member
  exact .text s

theorem plain_ofKeyed {m : Keyed α} (all : ∀ a ∈ m.values, Plain (w a)) : Plain (ofKeyed w m) := by
  refine .record fun f member => ?_
  obtain ⟨e, held, rfl⟩ := List.mem_map.mp member
  exact all e.2 (List.mem_map_of_mem held)

theorem plain_ofInt (i : Int64) : Plain (ofInt i.toInt) := by
  have above := i.le_toInt
  have below := i.toInt_lt
  cases whole : i.toInt with
  | ofNat n =>
    rw [whole] at below
    exact .natural (Nat.lt_trans (Int.ofNat_lt.mp below) (by decide))
  | negSucc n =>
    rw [whole] at above
    refine .negative (Nat.succ_pos n) ?_
    have bound : leastIntDepth = 2 ^ 63 := by decide
    omega

theorem plain_ofDefault {d : DefaultValue} (exact : d.exact = true) : Plain (ofDefault d) := by
  cases d with
  | literal l =>
    cases l with
    | null => exact .null
    | bool b => exact .bool b
    | integer i => exact plain_ofInt i
    | float x => contradiction
    | string s => exact .text s
  | expression sql => exact .record (by simp)

/- Entries. -/

theorem plain_columnEntry {e : ColumnEntry} (free : e.FloatFree) : Plain (ofColumnEntry e) := by
  have default : PlainSlot (e.traits.default.map ofDefault) :=
    plainSlot_map fun d held => plain_ofDefault (free d held)
  have options : Plain (columnOptionSlots e).document :=
    Slots.plain_document (by simp [columnOptionSlots, Keyed.values, default])
  rw [ofColumnEntry_eq]
  exact Slots.plain_document (by simp [columnSlots, Keyed.values, options])

theorem plain_indexEntry (e : IndexEntry) : Plain (ofIndexEntry e) := by
  have options : Plain (indexOptionSlots e).document :=
    Slots.plain_document (by simp [indexOptionSlots, Keyed.values])
  rw [ofIndexEntry_eq]
  exact Slots.plain_document (by simp [indexSlots, Keyed.values, options])

theorem plain_foreignKeyEntry (e : ForeignKeyEntry) : Plain (ofForeignKeyEntry e) := by
  have options : Plain (foreignKeyOptionSlots e).document :=
    Slots.plain_document (by simp [foreignKeyOptionSlots, Keyed.values])
  rw [ofForeignKeyEntry_eq]
  exact Slots.plain_document (by simp [foreignKeySlots, Keyed.values, options])

theorem plain_constraintOptions (o : ConstraintOptions) : Plain (ofConstraintOptions o) := by
  rw [ofConstraintOptions_eq]
  exact Slots.plain_document (by simp [constraintOptionSlots, Keyed.values])

theorem plain_constraintEntry (e : ConstraintEntry) : Plain (ofConstraintEntry e) := by
  rw [ofConstraintEntry_eq]
  exact Slots.plain_document (by simp [constraintSlots, Keyed.values, plain_constraintOptions])

theorem plain_uniqueEntry (e : UniqueEntry) : Plain (ofUniqueEntry e) := by
  rw [ofUniqueEntry_eq]
  exact Slots.plain_document (by simp [uniqueSlots, Keyed.values, plain_constraintOptions])

theorem plain_tableOptions (o : TableOptions) : Plain (ofTableOptions o) := by
  have key : PlainSlot (keySlot o.primaryKey) := by
    unfold keySlot
    split
    · exact fun j written => nomatch written
    · exact (plainSlot_some _).mpr (plain_ofStrings _)
  rw [ofTableOptions_eq]
  exact Slots.plain_document (by simp [tableOptionSlots, Keyed.values, key])

/- Tables, changes and statements. -/

theorem plain_tableSpec {s : TableSpec} (free : ∀ e ∈ s.columnEntries, e.FloatFree) :
    Plain (ofTableSpec s) := by
  have columns : Plain (ofKeyed ofColumnEntry s.columns) :=
    plain_ofKeyed fun e held => plain_columnEntry (free e held)
  have indexes : Plain (ofKeyed ofIndexEntry s.indexes) :=
    plain_ofKeyed fun e _ => plain_indexEntry e
  have foreignKeys : Plain (ofKeyed ofForeignKeyEntry s.foreignKeys) :=
    plain_ofKeyed fun e _ => plain_foreignKeyEntry e
  have constraints (m : Keyed ConstraintEntry) : Plain (ofKeyed ofConstraintEntry m) :=
    plain_ofKeyed fun e _ => plain_constraintEntry e
  have uniques : Plain (ofKeyed ofUniqueEntry s.uniques) :=
    plain_ofKeyed fun e _ => plain_uniqueEntry e
  rw [ofTableSpec_eq]
  exact Slots.plain_document (by
    simp [tableSlots, Keyed.values, columns, indexes, foreignKeys, constraints, uniques,
      plain_tableOptions])

theorem plain_ofChangeSet {s : ChangeSet α} (all : ∀ a ∈ s.filed, Plain (w a)) :
    Plain (ofChangeSet w s) := by
  simp only [ChangeSet.filed, List.forall_mem_append] at all
  have rename : Plain (ofKeyed ofString s.rename) := plain_ofKeyed fun name _ => .text name
  rw [ofChangeSet_eq]
  exact Slots.plain_document (by
    simp [changeSetSlots, Keyed.values, plain_ofKeyed all.1.1, plain_ofKeyed all.1.2,
      plain_ofKeyed all.2, rename])

theorem plain_tableChange {c : TableChange} (free : ∀ e ∈ c.columnEntries, e.FloatFree) :
    Plain (ofTableChange c) := by
  simp only [TableChange.columnEntries, List.forall_mem_append] at free
  have columns : Plain (ofChangeSet ofColumnEntry c.columns) :=
    plain_ofChangeSet fun e held => plain_columnEntry (free.1 e held)
  have keyColumns : Plain (ofChangeSet ofColumnEntry c.primaryKeyColumns) :=
    plain_ofChangeSet fun e held => plain_columnEntry (free.2 e held)
  have indexes : Plain (ofChangeSet ofIndexEntry c.indexes) :=
    plain_ofChangeSet fun e _ => plain_indexEntry e
  have foreignKeys : Plain (ofChangeSet ofForeignKeyEntry c.foreignKeys) :=
    plain_ofChangeSet fun e _ => plain_foreignKeyEntry e
  have constraints (s : ChangeSet ConstraintEntry) : Plain (ofChangeSet ofConstraintEntry s) :=
    plain_ofChangeSet fun e _ => plain_constraintEntry e
  have uniques : Plain (ofChangeSet ofUniqueEntry c.uniques) :=
    plain_ofChangeSet fun e _ => plain_uniqueEntry e
  rw [ofTableChange_eq]
  exact Slots.plain_document (by
    simp [tableChangeSlots, Keyed.values, columns, keyColumns, indexes, foreignKeys, constraints,
      uniques])

theorem plain_statement (s : RawStatement) : Plain (statementSlots s).document := by
  have guard : PlainSlot (s.guard.bind ofGuard?) := by
    intro j written
    obtain ⟨g, -, spelled⟩ := Option.bind_eq_some_iff.mp written
    cases g with
    | query sql => exact Option.some.inj spelled ▸ .record (by simp)
    | predicate p => nomatch spelled
  exact Slots.plain_document (by simp [statementSlots, Keyed.values, guard])

theorem plain_delta {d : Delta} (free : d.FloatFree) : Plain (deltaSlots d).document := by
  simp only [Delta.FloatFree, Delta.columnEntries, List.forall_mem_append,
    List.forall_mem_flatMap] at free
  obtain ⟨⟨added, changed⟩, deleted⟩ := free
  have add : Plain (ofKeyed ofTableSpec d.add) :=
    plain_ofKeyed fun s held => plain_tableSpec (added s held)
  have rename : Plain (ofKeyed ofString d.rename) := plain_ofKeyed fun name _ => .text name
  have change : Plain (ofKeyed ofTableChange d.change) :=
    plain_ofKeyed fun c held => plain_tableChange (changed c held)
  have delete : Plain (ofKeyed ofTableSpec d.delete) :=
    plain_ofKeyed fun s held => plain_tableSpec (deleted s held)
  have statements : Plain (ofList (fun s => (statementSlots s).document) d.statements) := by
    refine .array fun j member => ?_
    obtain ⟨s, -, rfl⟩ := List.mem_map.mp member
    exact plain_statement s
  exact Slots.plain_document (by
    simp [deltaSlots, Keyed.values, add, rename, change, delete, statements])

end Json

namespace Delta

/-- A document in the form in which the delta read from it is written. -/
def reprint? (document : String) : Option String :=
  (parse? document).bind fun d => d.toJson?.map write

/-- A delta can be read just if its columns have types that go by their own names and its
    guards are queries. What was read is written as a value from which the same delta is
    read. If it holds no float, so it is from the text of that value, and the text is what
    would be written for it again: reading and writing a second time changes nothing. -/
theorem reads_back (d : Delta) :
    (d.Documented ↔ ∃ j, ofJson? j = some d) ∧
      ∀ document, parse? document = some d →
        ∃ j, d.toJson? = some j ∧ ofJson? j = some d ∧
          (d.FloatFree → parse? j.write = some d ∧
            reprint? document = some j.write ∧ reprint? j.write = some j.write) := by
  refine ⟨documented_iff, fun document read => ?_⟩
  obtain ⟨j, -, value⟩ := Option.bind_eq_some_iff.mp read
  have documented : d.Documented := documented_iff.mpr ⟨j, value⟩
  have written := toJson?_eq documented.2
  have again := mirrors_delta.back d documented 0 (by decide)
  refine ⟨(deltaSlots d).document, written, again, fun free => ?_⟩
  have reads : parse? (deltaSlots d).document.write = some d := by
    rw [parse?, (plain_delta free).parse_write]
    exact again
  exact ⟨reads, by simp [reprint?, read, written], by simp [reprint?, reads, written]⟩

end Delta

/-- A table as one may put it down by hand: a column given as an array, with a null default,
    and an index over one column. -/
def bookingsDocument : Json :=
  record [("add", record [("bookings", record [
    ("definition", record [("guest", .array [ofString "string", record [("default", .null)]])]),
    ("indices", record [("by_guest", record [("column_name", ofString "guest")])])])])]

def bookings : Delta where
  add := .ofList [("bookings", {
    columns := .ofList [("guest", (ColumnEntry.ofType .string).withDefault (.literal .null))]
    indexes := .ofList [("by_guest", { columns := ["guest"] })] })]

theorem bookings_reads_back : ∃ text, Delta.reprint? bookingsDocument.write = some text ∧
    Delta.parse? text = some bookings ∧ Delta.reprint? text = some text := by
  have parts : (Delta.parse? bookingsDocument.write).map
      (fun d => ((d.add, d.rename, d.change, d.delete), d.statements.length)) =
        some ((bookings.add, {}, {}, {}), 0) := by decide +kernel
  have read : Delta.parse? bookingsDocument.write = some bookings := by
    obtain ⟨⟨add, rename, change, delete, statements⟩, parsed, same⟩ :=
      Option.map_eq_some_iff.mp parts
    simp only [Prod.mk.injEq, List.length_eq_zero_iff] at same
    obtain ⟨⟨rfl, rfl, rfl, rfl⟩, rfl⟩ := same
    exact parsed
  obtain ⟨j, -, -, as_text⟩ := (Delta.reads_back bookings).2 _ read
  obtain ⟨again, first, second⟩ := as_text (by decide +kernel)
  exact ⟨j.write, first, again, second⟩

end SchemaEvolution
