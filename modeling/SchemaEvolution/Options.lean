import SchemaEvolution.Json.Field
import SchemaEvolution.Json.Reader

/-! Options of a migration. -/
namespace SchemaEvolution

open Json

structure MigrationOptions where
  dryRun : Bool := false
  bulk : Bool := false
  inlineIndexes : Bool := false
  alterExtra : Option String := none
  externalScript : Option String := none
  debug : Bool := false
  logFile : Option String := none
  preQuery : Option String := none
  postQuery : Option String := none
  deriving DecidableEq, Repr

namespace MigrationOptions

def read : Reader MigrationOptions := fun depth j => do
  let fs ← readFields ["noop", "bulk_change", "create_table_with_index", "alter_extra",
    "external_script", "debug", "log_file", "pre_query", "post_query"] depth j
  return {
    dryRun := ← fs.getD "noop" readBool false
    bulk := ← fs.getD "bulk_change" readBool false
    inlineIndexes := ← fs.getD "create_table_with_index" readBool false
    alterExtra := ← fs.optional "alter_extra" readString
    externalScript := ← fs.optional "external_script" readString
    debug := ← fs.getD "debug" readBool false
    logFile := ← fs.optional "log_file" readString
    preQuery := ← fs.optional "pre_query" readString
    postQuery := ← fs.optional "post_query" readString }

def ofJson? (j : Json) : Option MigrationOptions := read 0 j

def parse? (document : String) : Option MigrationOptions := (Json.parse document).bind ofJson?

def toJson (o : MigrationOptions) : Json :=
  record [("noop", .bool o.dryRun), ("bulk_change", .bool o.bulk),
    ("create_table_with_index", .bool o.inlineIndexes),
    ("alter_extra", ofOption ofString o.alterExtra),
    ("external_script", ofOption ofString o.externalScript),
    ("debug", .bool o.debug),
    ("log_file", ofOption ofString o.logFile),
    ("pre_query", ofOption ofString o.preQuery),
    ("post_query", ofOption ofString o.postQuery)]

end MigrationOptions

end SchemaEvolution
