import SchemaEvolution.Adapter
import SchemaEvolution.Column

/-! Size limits that an adapter picks for columns without one. A script spells them
   out, so that it does not depend on the server. -/
namespace SchemaEvolution

structure Limits where
  entries : List (ColumnType × UInt32)
  deriving DecidableEq, Repr

namespace Limits

def none : Limits := ⟨[]⟩

def ofAdapter : Adapter → Limits
  | .mysql => ⟨[(.boolean, 1), (.integer, 4), (.bigint, 8), (.float, 24), (.string, 255),
      (.text, 65535), (.binary, 65535)]⟩
  | .postgres => none
  | .sqlite => none

/-- The first entry of a type counts. -/
def get? (l : Limits) (type : ColumnType) : Option UInt32 :=
  (l.entries.find? fun e => e.1 = type).map Prod.snd

def override (l : Limits) (type : ColumnType) (limit : UInt32) : Limits :=
  ⟨(type, limit) :: l.entries⟩

/-- An explicit limit stays; a missing one takes the type's default. -/
def fill (l : Limits) (type : ColumnType) (limit : Option UInt32) : Option UInt32 :=
  match limit with
  | some n => some n
  | .none => l.get? type

theorem get?_override (l : Limits) (type t : ColumnType) (limit : UInt32) :
    (l.override type limit).get? t = if type = t then some limit else l.get? t := by
  by_cases h : type = t <;> simp [override, get?, h]

end Limits

end SchemaEvolution
