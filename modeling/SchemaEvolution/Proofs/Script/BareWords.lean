import SchemaEvolution.Proofs.Script.Calls
import SchemaEvolution.Proofs.Text.LineBreaks

/-! Bare words of script text. Names, expressions, comments and the like are quoted, but column
   types, index methods and the words for deferrable constraints are shown as they are. So the
   line breaks in the lines of an operation are those of its bare words. -/
namespace SchemaEvolution

open Decimal Text

def Constraint.bareWords : Constraint → List String
  | check _ => []
  | exclusion c => c.method.toList ++ c.deferrable.toList
  | unique c => c.deferrable.toList

/-- The words that are shown without quotes. -/
def Alteration.bareWords : Alteration → List String
  | addColumn c => [c.type.name]
  | changeColumn c => [c.type.name]
  | addIndex i => i.method.toList
  | addConstraint c => c.bareWords
  | _ => []

def Operation.bareWords (op : Operation) : List String :=
  op.alterations.flatMap Alteration.bareWords

/- Pieces of a line. -/

@[simp] theorem lineBreaks_symbol (word : String) : lineBreaks (symbol word) = lineBreaks word := by
  rw [symbol, lineBreaks_append]
  exact Nat.zero_add _

@[simp] theorem lineBreaks_braces (options : List String) :
    lineBreaks (braces options) = totalBreaks options := by
  rw [braces, lineBreaks_append, lineBreaks_append, lineBreaks_intercalate rfl]
  exact Nat.zero_add _

@[simp] theorem lineBreaks_quotedList (items : List String) : lineBreaks (quotedList items) = 0 := by
  have plain : ∀ text ∈ items.map quoted, '\n' ∉ text.toList :=
    List.forall_mem_map.mpr fun s _ => lineBreaks_eq_zero_iff.mp (lineBreaks_quoted s)
  rw [quotedList, lineBreaks_append, lineBreaks_append, lineBreaks_intercalate rfl,
    totalBreaks_eq_zero_iff.mpr plain]
  rfl

/- Options. -/

def OptionValue.bareWord? : OptionValue → Option String
  | word w => some w
  | _ => none

theorem OptionValue.bareWord?_flag (b : Bool) : (flag b).bareWord? = none := rfl

theorem OptionValue.bareWord?_text (s : String) : (text s).bareWord? = none := rfl

theorem OptionValue.lineBreaks_write (v : OptionValue) :
    lineBreaks v.write = totalBreaks v.bareWord?.toList := by
  cases v with
  | nothing => rfl
  | flag b => cases b <;> rfl
  | number n => exact lineBreaks_intText n
  | real x => exact Text.lineBreaks_write scriptNumberLayout x
  | text s => exact lineBreaks_quoted s
  | computed sql =>
    rw [write, lineBreaks_append, lineBreaks_append, lineBreaks_quoted]
    rfl
  | word w => simp [write, bareWord?]
  | names items => exact lineBreaks_quotedList items

namespace OptionSlots

def bareWords (slots : OptionSlots) : List String :=
  slots.filterMap fun s => s.2.bind OptionValue.bareWord?

@[simp] theorem bareWords_nil : bareWords [] = [] := rfl

@[simp] theorem bareWords_cons (label : String) (x : Option OptionValue) (slots : OptionSlots) :
    bareWords ((label, x) :: slots) = (x.bind OptionValue.bareWord?).toList ++ slots.bareWords := by
  unfold bareWords
  rw [List.filterMap_cons]
  cases x.bind OptionValue.bareWord? <;> rfl

theorem totalBreaks_text (slots : OptionSlots)
    (plain : ∀ label ∈ slots.labels, lineBreaks label = 0) :
    totalBreaks slots.text = totalBreaks slots.bareWords := by
  induction slots with
  | nil => rfl
  | cons s slots ih =>
    obtain ⟨label, x⟩ := s
    obtain ⟨first, rest⟩ : lineBreaks label = 0 ∧ ∀ label ∈ labels slots, lineBreaks label = 0 :=
      List.forall_mem_cons.mp plain
    have shown : totalBreaks (labelled label (x.map OptionValue.write)) =
        totalBreaks (x.bind OptionValue.bareWord?).toList := by
      have mark : lineBreaks ": " = 0 := rfl
      cases x with
      | none => rfl
      | some v => simp [labelled, first, mark, v.lineBreaks_write]
    rw [text_cons, bareWords_cons, totalBreaks_append, totalBreaks_append, shown, ih rest]

theorem lineBreaks_arguments (lead : String) (slots : OptionSlots)
    (plain : ∀ label ∈ slots.labels, lineBreaks label = 0) :
    lineBreaks (lead ++ ", " ++ braces slots.text) =
      lineBreaks lead + totalBreaks slots.bareWords := by
  rw [lineBreaks_append, lineBreaks_append, lineBreaks_braces, totalBreaks_text slots plain]
  rfl

variable {α : Type} {f : α → OptionValue}

theorem bind_map_silent (silent : ∀ a, (f a).bareWord? = none) (x : Option α) :
    (x.map f).bind OptionValue.bareWord? = none := by
  cases x with
  | none => rfl
  | some a => exact silent a

theorem bind_unlessUsual_silent [DecidableEq α] (silent : ∀ a, (f a).bareWord? = none)
    (usual a : α) : (unlessUsual usual f a).bind OptionValue.bareWord? = none := by
  unfold unlessUsual
  split
  · rfl
  · exact silent a

theorem bind_flag (x : Option Bool) : (x.map .flag).bind OptionValue.bareWord? = none :=
  bind_map_silent OptionValue.bareWord?_flag x

theorem bind_text (x : Option String) : (x.map .text).bind OptionValue.bareWord? = none :=
  bind_map_silent OptionValue.bareWord?_text x

theorem bind_word (x : Option String) : (x.map .word).bind OptionValue.bareWord? = x := by
  cases x <;> rfl

theorem bind_raised (b : Bool) : (raised b).bind OptionValue.bareWord? = none :=
  bind_unlessUsual_silent OptionValue.bareWord?_flag false b

end OptionSlots

open OptionSlots

theorem bind_given (text : String) :
    (some (OptionValue.text text)).bind OptionValue.bareWord? = none := rfl

theorem ColumnTraits.bareWords_slots (t : ColumnTraits) : t.slots.bareWords = [] := by
  have default (d : DefaultValue) : d.option.bareWord? = none := by
    cases d with
    | expression sql => rfl
    | literal l => cases l <;> rfl
  have size (n : UInt32) : (size n).bareWord? = none := rfl
  simp only [slots, bareWords_cons, bareWords_nil, bind_flag, bind_text, bind_raised,
    bind_map_silent default, bind_map_silent size, Option.toList_none, List.nil_append]

theorem Column.lineBreaks_arguments (c : Column) :
    lineBreaks c.scriptArguments = lineBreaks c.type.name := by
  have plain : ∀ label ∈ (ColumnTraits.slots {}).labels, lineBreaks label = 0 := by decide
  have options := OptionSlots.lineBreaks_arguments (quoted c.name ++ ", " ++ symbol c.type.name)
    c.traits.slots plain
  rw [ColumnTraits.bareWords_slots, ColumnTraits.text_slots] at options
  rw [scriptArguments, options]
  simp
  rfl

theorem Index.lineBreaks_arguments (i : Index) :
    lineBreaks i.scriptArguments = totalBreaks i.method.toList := by
  have plain : ∀ label ∈ ["name", "unique", "where", "using"], lineBreaks label = 0 := by decide
  have words : i.slots.bareWords = i.method.toList := by
    simp only [slots, bareWords_cons, bareWords_nil, bind_given, bind_raised, bind_text, bind_word,
      Option.toList_none, List.nil_append, List.append_nil]
  rw [arguments_slots, OptionSlots.lineBreaks_arguments _ i.slots plain, words,
    lineBreaks_quotedList, Nat.zero_add]

theorem ForeignKey.lineBreaks_arguments (k : ForeignKey) : lineBreaks k.scriptArguments = 0 := by
  have plain : ∀ label ∈ ["column", "name", "primary_key", "on_delete", "on_update"],
      lineBreaks label = 0 := by decide
  have actions (x : Option ForeignKeyAction) :
      totalBreaks ((x.map fun a => .word a.name).bind OptionValue.bareWord?).toList = 0 := by
    cases x with
    | none => rfl
    | some a => cases a <;> decide
  have words : totalBreaks k.slots.bareWords = 0 := by
    simp only [slots, bareWords_cons, bareWords_nil, bind_given,
      bind_unlessUsual_silent OptionValue.bareWord?_text, Option.toList_none, List.nil_append,
      totalBreaks_append, actions, totalBreaks_nil]
  rw [arguments_slots, OptionSlots.lineBreaks_arguments _ k.slots plain, words, lineBreaks_quoted]

theorem Constraint.lineBreaks_arguments (c : Constraint) :
    lineBreaks c.scriptArguments = totalBreaks c.bareWords := by
  cases c with
  | check c =>
    have plain : ∀ label ∈ ["name", "validate"], lineBreaks label = 0 := by decide
    have words : c.slots.bareWords = [] := by
      simp only [CheckConstraint.slots, bareWords_cons, bareWords_nil, bind_given,
        bind_unlessUsual_silent OptionValue.bareWord?_flag, Option.toList_none, List.nil_append]
    rw [c.arguments_slots, OptionSlots.lineBreaks_arguments _ c.slots plain, words,
      lineBreaks_quoted]
    rfl
  | exclusion c =>
    have plain : ∀ label ∈ ["name", "using", "where", "deferrable"], lineBreaks label = 0 := by
      decide
    have words : c.slots.bareWords = c.method.toList ++ c.deferrable.toList := by
      simp only [ExclusionConstraint.slots, bareWords_cons, bareWords_nil, bind_given, bind_text,
        bind_word, Option.toList_none, List.nil_append, List.append_nil]
    rw [c.arguments_slots, OptionSlots.lineBreaks_arguments _ c.slots plain, words,
      lineBreaks_quoted, Nat.zero_add, bareWords]
  | unique c =>
    have plain : ∀ label ∈ ["name", "deferrable"], lineBreaks label = 0 := by decide
    have words : c.slots.bareWords = c.deferrable.toList := by
      simp only [UniqueConstraint.slots, bareWords_cons, bareWords_nil, bind_given, bind_word,
        Option.toList_none, List.nil_append, List.append_nil]
    rw [c.arguments_slots, OptionSlots.lineBreaks_arguments _ c.slots plain, words,
      lineBreaks_quotedList, Nat.zero_add, bareWords]

theorem TableOptions.totalBreaks_options (o : TableOptions) : totalBreaks o.scriptOptions = 0 := by
  have plain : ∀ label ∈ ["primary_key", "options", "charset", "collation", "comment"],
      lineBreaks label = 0 := by decide
  have names (items : List String) : (OptionValue.names items).bareWord? = none := rfl
  rw [← text_slots, totalBreaks_text o.slots plain]
  simp only [slots, bareWords_cons, bareWords_nil, bind_text, bind_unlessUsual_silent names,
    Option.toList_none, List.nil_append, totalBreaks_nil]

namespace Alteration

theorem lineBreaks_arguments (a : Alteration) :
    lineBreaks a.scriptArguments = totalBreaks a.bareWords := by
  have twoNames (source target : String) :
      lineBreaks (quoted source ++ ", " ++ quoted target) = 0 := by
    simp only [lineBreaks_append, lineBreaks_quoted]
    rfl
  have oneName (name : String) : lineBreaks ("name: " ++ quoted name) = 0 := by
    rw [lineBreaks_append, lineBreaks_quoted]
    rfl
  cases a with
  | addColumn c => exact c.lineBreaks_arguments
  | renameColumn source target => exact twoNames source target
  | changeColumn c => exact c.lineBreaks_arguments
  | removeColumn name => exact lineBreaks_quoted name
  | addIndex i => exact i.lineBreaks_arguments
  | renameIndex source target => exact twoNames source target
  | removeIndex name => exact oneName name
  | addConstraint c => exact c.lineBreaks_arguments
  | removeConstraint kind name => exact oneName name

theorem lineBreaks_memberLine (a : Alteration) :
    lineBreaks a.memberLine = totalBreaks a.bareWords := by
  have plain : ∀ o ∈ outlines, lineBreaks o.memberCall = 0 := by decide +kernel
  have call : lineBreaks a.memberCall = 0 := a.memberCall_outline ▸ plain _ a.outline_mem_outlines
  simp only [memberLine, lineBreaks_append, call, lineBreaks_arguments]
  exact Nat.zero_add _

theorem lineBreaks_loneLine (table : String) (a : Alteration) :
    lineBreaks (a.loneLine table) = totalBreaks a.bareWords := by
  have plain : ∀ o ∈ outlines, lineBreaks o.loneCall = 0 := by decide +kernel
  have call : lineBreaks a.loneCall = 0 := a.loneCall_outline ▸ plain _ a.outline_mem_outlines
  simp only [loneLine, lineBreaks_append, call, lineBreaks_quoted, lineBreaks_arguments]
  exact Nat.zero_add _

end Alteration

namespace Operation

theorem totalBreaks_block {start : String} (whole : lineBreaks start = 0) (as : List Alteration) :
    totalBreaks (start :: as.map Alteration.memberLine ++ ["end"]) =
      totalBreaks (as.flatMap Alteration.bareWords) := by
  rw [totalBreaks_append, totalBreaks_cons, whole,
    totalBreaks_map Alteration.lineBreaks_memberLine, Nat.zero_add]
  rfl

/-- The line breaks in the lines of an operation are those of its bare words. -/
theorem totalBreaks_scriptLines (op : Operation) :
    totalBreaks op.scriptLines = totalBreaks op.bareWords := by
  cases op with
  | createTable t =>
    have options : totalBreaks t.options.scriptOptions = 0 := t.options.totalBreaks_options
    refine totalBreaks_block ?_ t.members
    simp only [lineBreaks_append, lineBreaks_quoted, lineBreaks_braces, options]
    rfl
  | changeTable t as =>
    refine totalBreaks_block ?_ as
    simp only [lineBreaks_append, lineBreaks_quoted]
    rfl
  | alter t a => simp [scriptLines, bareWords, alterations, a.lineBreaks_loneLine]
  | addForeignKey t k =>
    simp only [scriptLines, totalBreaks_cons, lineBreaks_append, lineBreaks_quoted,
      k.lineBreaks_arguments]
    rfl
  | changeTableComment t comment =>
    have shown : lineBreaks ((comment.map quoted).getD "nil") = 0 := by
      cases comment with
      | none => rfl
      | some text => exact lineBreaks_quoted text
    simp only [scriptLines, totalBreaks_cons, lineBreaks_append, lineBreaks_quoted, shown]
    rfl
  | _ =>
    simp only [scriptLines, totalBreaks_cons, lineBreaks_append, lineBreaks_quoted]
    rfl

end Operation

end SchemaEvolution
