/-! What can go wrong, by cause, and the one wording of each cause. -/
namespace SchemaEvolution

inductive EntryKind where
  | column
  | index
  | check
  | exclusion
  | unique
  | foreignKey
  deriving DecidableEq, Repr

namespace EntryKind

def label : EntryKind → String
  | column => "column"
  | index => "index"
  | check => "check constraint"
  | exclusion => "exclusion constraint"
  | unique => "unique constraint"
  | foreignKey => "foreign key"

def requiredField : EntryKind → String
  | column => "type"
  | index => "column_name"
  | check => "expression"
  | exclusion => "expression"
  | unique => "column_name"
  | foreignKey => "to_table"

end EntryKind

inductive ElementKind where
  | column
  | index
  | constraint
  | foreignKey
  deriving DecidableEq, Repr

def ElementKind.label : ElementKind → String
  | column => "Column"
  | index => "Index"
  | constraint => "Constraint"
  | foreignKey => "Foreign key"

/-- An operation that does not fit the schema it is applied to. -/
inductive Conflict where
  | tableExists (table : String)
  | tableMissing (table : String)
  | columnExists (table column : String)
  | elementMissing (kind : ElementKind) (table name : String)
  deriving DecidableEq, Repr

def Conflict.message : Conflict → String
  | tableExists t => "Table '" ++ t ++ "' already exists"
  | tableMissing t => "Table '" ++ t ++ "' does not exist"
  | columnExists t c => "Column '" ++ c ++ "' already exists in table '" ++ t ++ "'"
  | elementMissing kind t n =>
    kind.label ++ " '" ++ n ++ "' does not exist in table '" ++ t ++ "'"

inductive Failure where
  | missingField (table : String) (kind : EntryKind) (key : String)
  | renameUnsupported (table : String) (kind : EntryKind) (source target : String)
  | connection (text : String)
  | externalScript (script status sql : String)
  | conflict (c : Conflict)
  | io (text : String)
  | unreadable
  | unknownAdapter (name : String)
  /-- A failure while a script runs, with the script around the line it comes from;
      line 0 stands for none. -/
  | execution (source : Failure) (excerpt : String) (line : Nat)
  deriving DecidableEq, Repr

namespace Failure

def message : Failure → String
  | missingField t kind key =>
    "Table '" ++ t ++ "': " ++ kind.label ++ " '" ++ key ++ "' is missing required field \x60"
      ++ kind.requiredField ++ "\x60"
  | renameUnsupported t kind source target =>
    "Table '" ++ t ++ "': renaming " ++ kind.label ++ " '" ++ source ++ "' to '" ++ target
      ++ "' is not supported"
  | connection text => "Connection error: " ++ text
  | externalScript script status sql =>
    "External script '" ++ script ++ "' failed (" ++ status ++ ") for: " ++ sql
  | conflict c => "Invalid schema state: " ++ c.message
  | io text => "IO error: " ++ text
  | unreadable => "Serialization error"
  | unknownAdapter name => "unknown adapter '" ++ name ++ "'"
  | execution source excerpt _ => source.message ++ "\n" ++ excerpt

def line? : Failure → Option Nat
  | execution _ _ line => if line = 0 then none else some line
  | _ => none

end Failure

end SchemaEvolution
