import SchemaEvolution.Json.Token
import SchemaEvolution.Json.Value

/-! Reading a document from its lexemes. The containers that are still open stand on
   a stack, innermost first, their contents in reverse. -/
namespace SchemaEvolution.Json

inductive Frame where
  | array (items : List Json)
  | object (members : List (Option String × Json))
  | member (members : List (Option String × Json)) (key : Option String)

inductive Expect where
  | value
  | itemOrEnd
  | afterItem
  | keyOrEnd
  | key
  | colon
  | afterMember
  | finished (v : Json)

structure Progress where
  stack : List Frame
  expect : Expect

def Progress.start : Progress := ⟨[], .value⟩

def place (v : Json) : List Frame → Option Progress
  | [] => some ⟨[], .finished v⟩
  | .array items :: outer => some ⟨.array (v :: items) :: outer, .afterItem⟩
  | .member ms key :: outer => some ⟨.object ((key, v) :: ms) :: outer, .afterMember⟩
  | .object _ :: _ => none

def beginValue (outer : List Frame) : Token → Option Progress
  | .beginArray => some ⟨.array [] :: outer, .itemOrEnd⟩
  | .beginObject => some ⟨.object [] :: outer, .keyOrEnd⟩
  | .null => place .null outer
  | .bool b => place (.bool b) outer
  | .number n => place (.number n) outer
  | .text s => place (.text s) outer
  | _ => none

def Progress.step : Progress → Token → Option Progress
  | ⟨outer, .value⟩, t => beginValue outer t
  | ⟨.array items :: outer, .itemOrEnd⟩, .endArray => place (.array items.reverse) outer
  | ⟨outer, .itemOrEnd⟩, t => beginValue outer t
  | ⟨outer, .afterItem⟩, .comma => some ⟨outer, .value⟩
  | ⟨.array items :: outer, .afterItem⟩, .endArray => place (.array items.reverse) outer
  | ⟨.object ms :: outer, .keyOrEnd⟩, .endObject => place (.object ms.reverse) outer
  | ⟨.object ms :: outer, .keyOrEnd⟩, .text k => some ⟨.member ms k :: outer, .colon⟩
  | ⟨.object ms :: outer, .key⟩, .text k => some ⟨.member ms k :: outer, .colon⟩
  | ⟨outer, .colon⟩, .colon => some ⟨outer, .value⟩
  | ⟨outer, .afterMember⟩, .comma => some ⟨outer, .key⟩
  | ⟨.object ms :: outer, .afterMember⟩, .endObject => place (.object ms.reverse) outer
  | _, _ => none

def Progress.result : Progress → Option Json
  | ⟨[], .finished v⟩ => some v
  | _ => none

def ofTokens (ts : List Token) : Option Json :=
  (ts.foldlM Progress.step Progress.start).bind Progress.result

def parse (s : String) : Option Json := (tokens s.toList).bind ofTokens

end SchemaEvolution.Json
