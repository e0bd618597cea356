import SchemaEvolution.Proofs.Script.Options

/-! What script text shows of columns, indexes, foreign keys and constraints, taken apart again:
   their arguments tell every field, set or not, up to where the arguments end. -/
namespace SchemaEvolution

open Decimal Text

/- What can be told apart. -/

/-- A type of its own name holds together and is not called like a built-in one. -/
def ColumnType.Legible : ColumnType → Prop
  | custom name => Unbroken name ∧ name ∉ builtins.map ColumnType.name
  | _ => True

structure Column.Legible (c : Column) : Prop where
  type : c.type.Legible
  noFloat : ∀ x, c.traits.default ≠ some (.literal (.float x))

def Index.Legible (i : Index) : Prop := ∀ word ∈ i.method, Unbroken word

def Constraint.Legible : Constraint → Prop
  | check _ => True
  | exclusion c => (∀ word ∈ c.method, Unbroken word) ∧ ∀ word ∈ c.deferrable, Unbroken word
  | unique c => ∀ word ∈ c.deferrable, Unbroken word

/- Slots. -/

namespace OptionSlots

@[simp] theorem text_nil : text [] = [] := rfl

@[simp] theorem text_cons (label : String) (x : Option OptionValue) (slots : OptionSlots) :
    text ((label, x) :: slots) = labelled label (x.map OptionValue.write) ++ text slots := by
  cases x <;> rfl

@[simp] theorem legible_nil : Legible [] := nofun

@[simp] theorem legible_cons (label : String) (x : Option OptionValue) (slots : OptionSlots) :
    Legible ((label, x) :: slots) ↔ LegibleIfSet x ∧ slots.Legible :=
  List.forall_mem_cons

@[simp] theorem legibleIfSet_some (v : OptionValue) : LegibleIfSet (some v) ↔ v.Legible := by
  simp [LegibleIfSet]

@[simp] theorem legibleIfSet_none : LegibleIfSet none := nofun

@[simp] theorem legibleIfSet_map {α : Type} (f : α → OptionValue) (x : Option α) :
    LegibleIfSet (x.map f) ↔ ∀ a ∈ x, (f a).Legible := by
  cases x <;> simp

def unlessUsual {α : Type} [DecidableEq α] (usual : α) (f : α → OptionValue) (a : α) :
    Option OptionValue :=
  if a = usual then none else some (f a)

section UnlessUsual

variable {α : Type} [DecidableEq α] {usual a b : α} {f : α → OptionValue}

@[simp] theorem legibleIfSet_unlessUsual :
    LegibleIfSet (unlessUsual usual f a) ↔ (a ≠ usual → (f a).Legible) := by
  unfold unlessUsual
  split <;> simp_all

theorem map_unlessUsual : (unlessUsual usual f a).map OptionValue.write =
    if a = usual then none else some (f a).write := by
  unfold unlessUsual
  split <;> rfl

theorem unlessUsual_inj (injective : Function.Injective f) :
    unlessUsual usual f a = unlessUsual usual f b ↔ a = b := by
  unfold unlessUsual
  split <;> split <;> simp_all [injective.eq_iff, eq_comm]

end UnlessUsual

def raised (b : Bool) : Option OptionValue := unlessUsual false .flag b

theorem labelledTrue_eq (label : String) (b : Bool) :
    labelledTrue label b = labelled label ((raised b).map OptionValue.write) := by
  cases b with
  | false => rfl
  | true =>
    have joined : label ++ ": true" = label ++ ": " ++ "true" := by
      rw [String.append_assoc]
      rfl
    exact congrArg (fun shown => [shown]) joined

@[simp] theorem legibleIfSet_raised (b : Bool) : LegibleIfSet (raised b) := by
  simp [raised]

theorem raised_inj {a b : Bool} : raised a = raised b ↔ a = b :=
  unlessUsual_inj fun _ _ => OptionValue.flag.inj

theorem text_inj {x y : Option String} :
    x.map OptionValue.text = y.map OptionValue.text ↔ x = y :=
  (Option.map_injective fun _ _ => OptionValue.text.inj).eq_iff

theorem word_inj {x y : Option String} :
    x.map OptionValue.word = y.map OptionValue.word ↔ x = y :=
  (Option.map_injective fun _ _ => OptionValue.word.inj).eq_iff

theorem flag_inj {x y : Option Bool} : x.map OptionValue.flag = y.map OptionValue.flag ↔ x = y :=
  (Option.map_injective fun _ _ => OptionValue.flag.inj).eq_iff

end OptionSlots

open OptionSlots

/- Columns. -/

namespace DefaultValue

def option : DefaultValue → OptionValue
  | literal .null => .nothing
  | literal (.bool b) => .flag b
  | literal (.integer i) => .number i.toInt
  | literal (.float x) => .real x
  | literal (.string s) => .text s
  | expression sql => .computed sql

theorem write_option (d : DefaultValue) : d.option.write = d.scriptText := by
  cases d with
  | literal l => cases l <;> rfl
  | expression sql => rfl

theorem option_injective : Function.Injective option := by
  intro d e same
  cases d with
  | expression sql =>
    cases e with
    | expression sql' => rw [OptionValue.computed.inj same]
    | literal l => cases l <;> nomatch same
  | literal l =>
    cases e with
    | expression sql => cases l <;> nomatch same
    | literal l' => cases l <;> cases l' <;> simp_all [option, Int64.toInt_inj]

theorem option_inj {x y : Option DefaultValue} : x.map option = y.map option ↔ x = y :=
  (Option.map_injective option_injective).eq_iff

theorem legible_option {d : DefaultValue} (noFloat : ∀ x, d ≠ .literal (.float x)) :
    d.option.Legible := by
  cases d with
  | expression sql => trivial
  | literal l =>
    cases l with
    | float x => exact absurd rfl (noFloat x)
    | _ => trivial

end DefaultValue

namespace ColumnTraits

def size (n : UInt32) : OptionValue := .number n.toNat

theorem write_size (n : UInt32) : (size n).write = wordText n := rfl

theorem size_inj {x y : Option UInt32} : x.map size = y.map size ↔ x = y := by
  have injective : Function.Injective size := fun m n same =>
    UInt32.toNat_inj.mp (Int.ofNat.inj (OptionValue.number.inj same))
  exact (Option.map_injective injective).eq_iff

def slots (t : ColumnTraits) : OptionSlots :=
  [("null", t.nullable.map .flag), ("default", t.default.map DefaultValue.option),
   ("limit", t.limit.map size), ("precision", t.precision.map size),
   ("scale", t.scale.map size), ("unsigned", raised t.unsigned),
   ("auto_increment", raised t.autoIncrement), ("primary_key", raised t.primaryKey),
   ("comment", t.comment.map .text), ("collation", t.collation.map .text)]

theorem text_slots (t : ColumnTraits) : t.slots.text = t.scriptOptions := by
  simp [slots, scriptOptions, labelledTrue_eq, Function.comp_def, DefaultValue.write_option,
    write_size]

theorem slots_injective : Function.Injective slots := by
  intro t u same
  simp only [slots, List.cons.injEq, Prod.mk.injEq, true_and, and_true, flag_inj, text_inj,
    raised_inj, DefaultValue.option_inj, size_inj] at same
  cases t
  cases u
  simp_all

theorem legible_slots {t : ColumnTraits} (noFloat : ∀ x, t.default ≠ some (.literal (.float x))) :
    t.slots.Legible := by
  have default (d : DefaultValue) (given : t.default = some d) : d.option.Legible :=
    DefaultValue.legible_option fun x float => noFloat x (float ▸ given)
  simpa [slots, size] using default

end ColumnTraits

theorem ColumnType.uniquelyRead :
    UniquelyRead ColumnType.Legible Broken fun t => symbol t.name := by
  have unbroken (t : ColumnType) (legible : t.Legible) : Unbroken t.name := by
    cases t with
    | custom name => exact legible.1
    | _ => decide
  have back (t : ColumnType) (legible : t.Legible) : ofName t.name = t := by
    cases t with
    | custom name =>
      have unlisted : builtins.find? (fun t => t.name == name) = none := by
        simpa [List.find?_eq_none] using legible.2
      rw [ofName, ColumnType.name, unlisted, Option.getD_none]
    | _ => rfl
  refine symbol_uniquelyRead.of_view ColumnType.name unbroken (fun _ => rfl) ?_
  intro t u validT validU same
  rw [← back t validT, same, back u validU]

theorem Column.uniquelyRead :
    UniquelyRead Column.Legible (fun _ => True) Column.scriptArguments := by
  have traits := OptionSlots.uniquelyRead (ColumnTraits.slots {}).labels (by decide) (by decide)
  have parts := quoted_uniquelyRead.pair
    (ColumnType.uniquelyRead.pair traits ", " fun _ => ⟨',', rfl, .inl rfl⟩) ", " fun _ => trivial
  refine parts.of_view (fun c => (c.name, c.type, c.traits.slots)) ?_ ?_ ?_
  · exact fun c legible =>
      ⟨trivial, legible.type, rfl, ColumnTraits.legible_slots legible.noFloat⟩
  · intro c
    simp only [scriptArguments, ColumnTraits.text_slots, String.append_assoc]
  · intro c d _ _ same
    simp only [Prod.mk.injEq, ColumnTraits.slots_injective.eq_iff] at same
    cases c
    cases d
    simp_all

/- Indexes. -/

def Index.slots (i : Index) : OptionSlots :=
  [("name", some (.text i.name)), ("unique", raised i.unique), ("where", i.predicate.map .text),
   ("using", i.method.map .word)]

theorem Index.arguments_slots (i : Index) :
    i.scriptArguments = quotedList i.columns ++ ", " ++ braces i.slots.text := by
  simp [scriptArguments, slots, labelledTrue_eq, Function.comp_def]

theorem Index.uniquelyRead :
    UniquelyRead Index.Legible (fun _ => True) Index.scriptArguments := by
  have options := OptionSlots.uniquelyRead ["name", "unique", "where", "using"] (by decide)
    (by decide)
  refine (quotedList_uniquelyRead.pair options ", " fun _ => trivial).of_view
    (fun i => (i.columns, i.slots)) ?_ ?_ ?_
  · intro i legible
    have word : ∀ w ∈ i.method, Unbroken w := legible
    refine ⟨trivial, rfl, ?_⟩
    simpa [slots] using word
  · exact arguments_slots
  · intro i j _ _ same
    simp only [slots, Prod.mk.injEq, List.cons.injEq, true_and, and_true, Option.some.injEq,
      OptionValue.text.injEq, raised_inj, text_inj, word_inj] at same
    cases i
    cases j
    simp_all

/- Foreign keys. -/

def ForeignKey.slots (k : ForeignKey) : OptionSlots :=
  [("column", some (.text k.column)), ("name", some (.text k.name)),
   ("primary_key", unlessUsual "id" .text k.primaryKey),
   ("on_delete", k.onDelete.map fun a => .word a.name),
   ("on_update", k.onUpdate.map fun a => .word a.name)]

theorem ForeignKey.arguments_slots (k : ForeignKey) :
    k.scriptArguments = quoted k.toTable ++ ", " ++ braces k.slots.text := by
  simp [scriptArguments, slots, map_unlessUsual, Function.comp_def]

theorem ForeignKeyAction.word_inj {x y : Option ForeignKeyAction} :
    x.map (fun a => OptionValue.word a.name) = y.map (fun a => OptionValue.word a.name) ↔
      x = y := by
  have injective : Function.Injective fun a : ForeignKeyAction => OptionValue.word a.name := by
    intro a b same
    have names := congrArg ofName? (OptionValue.word.inj same)
    rw [ofName?_name, ofName?_name] at names
    exact Option.some.inj names
  exact (Option.map_injective injective).eq_iff

theorem ForeignKey.uniquelyRead :
    UniquelyRead (fun _ => True) (fun _ => True) ForeignKey.scriptArguments := by
  have options := OptionSlots.uniquelyRead
    ["column", "name", "primary_key", "on_delete", "on_update"] (by decide) (by decide)
  refine (quoted_uniquelyRead.pair options ", " fun _ => trivial).of_view
    (fun k => (k.toTable, k.slots)) ?_ ?_ ?_
  · intro k _
    have actions (a : ForeignKeyAction) : Unbroken a.name := by cases a <;> decide
    refine ⟨trivial, rfl, ?_⟩
    simp [slots, actions]
  · exact arguments_slots
  · intro j k _ _ same
    simp only [slots, Prod.mk.injEq, List.cons.injEq, true_and, and_true, Option.some.injEq,
      OptionValue.text.injEq, unlessUsual_inj fun _ _ => OptionValue.text.inj,
      ForeignKeyAction.word_inj] at same
    cases j
    cases k
    simp_all

/- Constraints. -/

namespace CheckConstraint

def slots (c : CheckConstraint) : OptionSlots :=
  [("name", some (.text c.name)), ("validate", unlessUsual true .flag c.validated)]

theorem arguments_slots (c : CheckConstraint) :
    (Constraint.check c).scriptArguments =
      quoted c.expression ++ ", " ++ braces c.slots.text := by
  obtain ⟨name, expression, validated⟩ := c
  cases validated <;> simp [Constraint.scriptArguments, slots, map_unlessUsual]

theorem uniquelyRead :
    UniquelyRead (fun _ => True) (fun _ => True) fun c => (Constraint.check c).scriptArguments := by
  have options := OptionSlots.uniquelyRead ["name", "validate"] (by decide) (by decide)
  refine (quoted_uniquelyRead.pair options ", " fun _ => trivial).of_view
    (fun c => (c.expression, c.slots)) ?_ ?_ ?_
  · exact fun c _ => ⟨trivial, rfl, by simp [slots]⟩
  · exact arguments_slots
  · intro c d _ _ same
    simp only [slots, Prod.mk.injEq, List.cons.injEq, true_and, and_true, Option.some.injEq,
      OptionValue.text.injEq, unlessUsual_inj fun _ _ => OptionValue.flag.inj] at same
    cases c
    cases d
    simp_all

end CheckConstraint

namespace ExclusionConstraint

def slots (c : ExclusionConstraint) : OptionSlots :=
  [("name", some (.text c.name)), ("using", c.method.map .word), ("where", c.predicate.map .text),
   ("deferrable", c.deferrable.map .word)]

theorem arguments_slots (c : ExclusionConstraint) :
    (Constraint.exclusion c).scriptArguments =
      quoted c.expression ++ ", " ++ braces c.slots.text := by
  simp [Constraint.scriptArguments, slots, Function.comp_def]

theorem uniquelyRead :
    UniquelyRead (fun c => (Constraint.exclusion c).Legible) (fun _ => True)
      fun c => (Constraint.exclusion c).scriptArguments := by
  have options := OptionSlots.uniquelyRead ["name", "using", "where", "deferrable"] (by decide)
    (by decide)
  refine (quoted_uniquelyRead.pair options ", " fun _ => trivial).of_view
    (fun c => (c.expression, c.slots)) ?_ ?_ ?_
  · intro c legible
    have words : (∀ w ∈ c.method, Unbroken w) ∧ ∀ w ∈ c.deferrable, Unbroken w := legible
    refine ⟨trivial, rfl, ?_⟩
    simpa [slots] using words
  · exact arguments_slots
  · intro c d _ _ same
    simp only [slots, Prod.mk.injEq, List.cons.injEq, true_and, and_true, Option.some.injEq,
      OptionValue.text.injEq, text_inj, OptionSlots.word_inj] at same
    cases c
    cases d
    simp_all

end ExclusionConstraint

namespace UniqueConstraint

def slots (c : UniqueConstraint) : OptionSlots :=
  [("name", some (.text c.name)), ("deferrable", c.deferrable.map .word)]

theorem arguments_slots (c : UniqueConstraint) :
    (Constraint.unique c).scriptArguments = quotedList c.columns ++ ", " ++ braces c.slots.text := by
  simp [Constraint.scriptArguments, slots, Function.comp_def]

theorem uniquelyRead :
    UniquelyRead (fun c => (Constraint.unique c).Legible) (fun _ => True)
      fun c => (Constraint.unique c).scriptArguments := by
  have options := OptionSlots.uniquelyRead ["name", "deferrable"] (by decide) (by decide)
  refine (quotedList_uniquelyRead.pair options ", " fun _ => trivial).of_view
    (fun c => (c.columns, c.slots)) ?_ ?_ ?_
  · intro c legible
    have words : ∀ w ∈ c.deferrable, Unbroken w := legible
    refine ⟨trivial, rfl, ?_⟩
    simpa [slots] using words
  · exact arguments_slots
  · intro c d _ _ same
    simp only [slots, Prod.mk.injEq, List.cons.injEq, true_and, and_true, Option.some.injEq,
      OptionValue.text.injEq, OptionSlots.word_inj] at same
    cases c
    cases d
    simp_all

end UniqueConstraint

theorem Constraint.uniquelyRead (kind : ConstraintKind) :
    UniquelyRead (fun c => c.kind = kind ∧ c.Legible) (fun _ => True)
      Constraint.scriptArguments := by
  rintro c d ⟨rfl, legible⟩ ⟨kinds, legible'⟩ r s _ _ same
  cases c with
  | check c =>
    cases d with
    | check d =>
      obtain ⟨rfl, rest⟩ := CheckConstraint.uniquelyRead trivial trivial trivial trivial same
      exact ⟨rfl, rest⟩
    | _ => cases kinds
  | exclusion c =>
    cases d with
    | exclusion d =>
      obtain ⟨rfl, rest⟩ := ExclusionConstraint.uniquelyRead legible legible' trivial trivial same
      exact ⟨rfl, rest⟩
    | _ => cases kinds
  | unique c =>
    cases d with
    | unique d =>
      obtain ⟨rfl, rest⟩ := UniqueConstraint.uniquelyRead legible legible' trivial trivial same
      exact ⟨rfl, rest⟩
    | _ => cases kinds

/- Table options. -/

def TableOptions.slots (o : TableOptions) : OptionSlots :=
  [("primary_key", unlessUsual [] .names o.primaryKey), ("options", o.raw.map .text),
   ("charset", o.charset.map .text), ("collation", o.collation.map .text),
   ("comment", o.comment.map .text)]

theorem TableOptions.text_slots (o : TableOptions) : o.slots.text = o.scriptOptions := by
  simp [scriptOptions, slots, map_unlessUsual, Function.comp_def]

theorem TableOptions.uniquelyRead :
    UniquelyRead (fun _ => True) (fun _ => True)
      fun o : TableOptions => braces o.scriptOptions := by
  have options := OptionSlots.uniquelyRead
    ["primary_key", "options", "charset", "collation", "comment"] (by decide) (by decide)
  refine options.of_view slots ?_ ?_ ?_
  · exact fun o _ => ⟨rfl, by simp [slots]⟩
  · exact fun o => congrArg braces o.text_slots.symm
  · intro o p _ _ same
    simp only [slots, List.cons.injEq, Prod.mk.injEq, true_and, and_true, text_inj,
      unlessUsual_inj fun _ _ => OptionValue.names.inj] at same
    cases o
    cases p
    simp_all

end SchemaEvolution
