import SchemaEvolution.Decimal.Integer
import SchemaEvolution.Decimal.Layout
import SchemaEvolution.Operation.Basic
import SchemaEvolution.Text.Quoted

/-! Operations as lines of script text. Each call shows its arguments and, between
   braces, the options that are set. -/
namespace SchemaEvolution

open Decimal Text

def braces (options : List String) : String := "\x7b" ++ ", ".intercalate options ++ "\x7d"

def quotedList (items : List String) : String :=
  "[" ++ ", ".intercalate (items.map quoted) ++ "]"

def labelled (label : String) (value : Option String) : List String :=
  match value with
  | some v => [label ++ ": " ++ v]
  | none => []

def labelledTrue (label : String) (flag : Bool) : List String :=
  if flag then [label ++ ": true"] else []

def truth (b : Bool) : String := if b then "true" else "false"

def symbol (word : String) : String := ":" ++ word

/-- Floats are positional from 10 ^ -4 to below 10 ^ 16, always with a fraction digit
   or an exponent; a positive exponent has no sign. -/
def scriptNumberLayout : Layout := ⟨.up, fun e => -4 ≤ e && e ≤ 15, true, false⟩

def Literal.scriptText : Literal → String
  | null => "nil"
  | bool b => truth b
  | integer i => intText i.toInt
  | float x => scriptNumberLayout.write x
  | string s => quoted s

def DefaultValue.scriptText : DefaultValue → String
  | literal l => l.scriptText
  | expression sql => "-> \x7b " ++ quoted sql ++ " \x7d"

def ColumnTraits.scriptOptions (t : ColumnTraits) : List String :=
  labelled "null" (t.nullable.map truth)
    ++ labelled "default" (t.default.map DefaultValue.scriptText)
    ++ labelled "limit" (t.limit.map wordText)
    ++ labelled "precision" (t.precision.map wordText)
    ++ labelled "scale" (t.scale.map wordText)
    ++ labelledTrue "unsigned" t.unsigned
    ++ labelledTrue "auto_increment" t.autoIncrement
    ++ labelledTrue "primary_key" t.primaryKey
    ++ labelled "comment" (t.comment.map quoted)
    ++ labelled "collation" (t.collation.map quoted)

def Column.scriptArguments (c : Column) : String :=
  quoted c.name ++ ", " ++ symbol c.type.name ++ ", " ++ braces c.traits.scriptOptions

def Index.scriptArguments (i : Index) : String :=
  quotedList i.columns ++ ", " ++ braces
    (labelled "name" (some (quoted i.name))
      ++ labelledTrue "unique" i.unique
      ++ labelled "where" (i.predicate.map quoted)
      ++ labelled "using" (i.method.map symbol))

/-- The referenced column is only shown when it is not `id`. -/
def ForeignKey.scriptArguments (k : ForeignKey) : String :=
  quoted k.toTable ++ ", " ++ braces
    (labelled "column" (some (quoted k.column))
      ++ labelled "name" (some (quoted k.name))
      ++ labelled "primary_key" (if k.primaryKey = "id" then none else some (quoted k.primaryKey))
      ++ labelled "on_delete" (k.onDelete.map fun a => symbol a.name)
      ++ labelled "on_update" (k.onUpdate.map fun a => symbol a.name))

def Constraint.scriptArguments : Constraint → String
  | check c =>
    quoted c.expression ++ ", " ++ braces
      (labelled "name" (some (quoted c.name))
        ++ labelled "validate" (if c.validated then none else some (truth false)))
  | exclusion c =>
    quoted c.expression ++ ", " ++ braces
      (labelled "name" (some (quoted c.name))
        ++ labelled "using" (c.method.map symbol)
        ++ labelled "where" (c.predicate.map quoted)
        ++ labelled "deferrable" (c.deferrable.map symbol))
  | unique c =>
    quotedList c.columns ++ ", " ++ braces
      (labelled "name" (some (quoted c.name))
        ++ labelled "deferrable" (c.deferrable.map symbol))

def ConstraintKind.word : ConstraintKind → String
  | check => "check_constraint"
  | exclusion => "exclusion_constraint"
  | unique => "unique_constraint"

namespace Alteration

def memberCall : Alteration → String
  | addColumn _ => "column"
  | renameColumn _ _ => "rename"
  | changeColumn _ => "change"
  | removeColumn _ => "remove"
  | addIndex _ => "index"
  | renameIndex _ _ => "rename_index"
  | removeIndex _ => "remove_index"
  | addConstraint c => c.kind.word
  | removeConstraint kind _ => "remove_" ++ kind.word

def loneCall : Alteration → String
  | addColumn _ => "add_column"
  | renameColumn _ _ => "rename_column"
  | changeColumn _ => "change_column"
  | removeColumn _ => "remove_column"
  | addIndex _ => "add_index"
  | renameIndex _ _ => "rename_index"
  | removeIndex _ => "remove_index"
  | addConstraint c => "add_" ++ c.kind.word
  | removeConstraint kind _ => "remove_" ++ kind.word

def scriptArguments : Alteration → String
  | addColumn c => c.scriptArguments
  | renameColumn source target => quoted source ++ ", " ++ quoted target
  | changeColumn c => c.scriptArguments
  | removeColumn name => quoted name
  | addIndex i => i.scriptArguments
  | renameIndex source target => quoted source ++ ", " ++ quoted target
  | removeIndex name => "name: " ++ quoted name
  | addConstraint c => c.scriptArguments
  | removeConstraint _ name => "name: " ++ quoted name

def memberLine (a : Alteration) : String :=
  "  t." ++ a.memberCall ++ "(" ++ a.scriptArguments ++ ")"

def loneLine (table : String) (a : Alteration) : String :=
  a.loneCall ++ "(" ++ quoted table ++ ", " ++ a.scriptArguments ++ ")"

end Alteration

def TableOptions.scriptOptions (o : TableOptions) : List String :=
  labelled "primary_key" (if o.primaryKey.isEmpty then none else some (quotedList o.primaryKey))
    ++ labelled "options" (o.raw.map quoted)
    ++ labelled "charset" (o.charset.map quoted)
    ++ labelled "collation" (o.collation.map quoted)
    ++ labelled "comment" (o.comment.map quoted)

def CreateTable.members (t : CreateTable) : List Alteration :=
  t.columns.map .addColumn ++ t.indexes.map .addIndex ++ t.constraints.map .addConstraint

def Operation.scriptLines : Operation → List String
  | createTable t =>
    ("create_table(" ++ quoted t.name ++ ", " ++ braces t.options.scriptOptions ++ ") do |t|")
      :: t.members.map Alteration.memberLine ++ ["end"]
  | renameTable source target => ["rename_table(" ++ quoted source ++ ", " ++ quoted target ++ ")"]
  | dropTable name => ["drop_table(" ++ quoted name ++ ")"]
  | changeTable t as =>
    ("change_table(" ++ quoted t ++ ", bulk: true) do |t|") :: as.map Alteration.memberLine ++ ["end"]
  | alter t a => [a.loneLine t]
  | addForeignKey t k => ["add_foreign_key(" ++ quoted t ++ ", " ++ k.scriptArguments ++ ")"]
  | removeForeignKey t name => ["remove_foreign_key(" ++ quoted t ++ ", name: " ++ quoted name ++ ")"]
  | changeTableOptions t options => ["change_table_options(" ++ quoted t ++ ", " ++ quoted options ++ ")"]
  | changeTableComment t comment =>
    ["change_table_comment(" ++ quoted t ++ ", " ++ (comment.map quoted).getD "nil" ++ ")"]

theorem Operation.scriptLines_ne_nil (op : Operation) : op.scriptLines ≠ [] := by
  cases op <;> simp [scriptLines]

end SchemaEvolution
