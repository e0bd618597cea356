import SchemaEvolution.Failure

/-! The databases a delta can be rendered for. -/
namespace SchemaEvolution

inductive Adapter where
  | mysql
  | postgres
  | sqlite
  deriving DecidableEq, Repr

namespace Adapter

def name : Adapter → String
  | mysql => "mysql"
  | postgres => "postgresql"
  | sqlite => "sqlite"

/-- Letters count without their case, ASCII letters only. -/
def ofName (name : String) : Except Failure Adapter :=
  let lower := name.toLower
  if lower ∈ ["mysql", "mysql2", "mariadb"] then .ok mysql
  else if lower ∈ ["postgres", "postgresql"] then .ok postgres
  else if lower ∈ ["sqlite", "sqlite3"] then .ok sqlite
  else .error (.unknownAdapter lower)

def isMysql (a : Adapter) : Bool := a = mysql

end Adapter

end SchemaEvolution
