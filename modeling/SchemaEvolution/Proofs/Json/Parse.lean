import SchemaEvolution.Json.Reader
import SchemaEvolution.Proofs.Json.Lexemes

/-! A value is read back from the text that is written for it, if it has no floats and
   all its texts are usable. The reader goes over a written value as if it were a single
   lexeme: wherever a value may come next, it ends with the value in place. -/
namespace SchemaEvolution.Json

/-- Integers of 64 bits are the only numbers, and every text is there. -/
inductive Plain : Json → Prop where
  | null : Plain .null
  | bool (b : Bool) : Plain (.bool b)
  | natural {n : Nat} (fits : n < wordLimit) : Plain (.number (.natural n))
  | negative {n : Nat} (positive : 0 < n) (fits : n ≤ leastIntDepth) : Plain (.number (.negative n))
  | text (s : String) : Plain (.text (some s))
  | array {items : List Json} (all : ∀ v ∈ items, Plain v) : Plain (.array items)
  | record {fields : List (String × Json)} (all : ∀ f ∈ fields, Plain f.2) : Plain (record fields)

def Progress.run (p : Progress) (cs : List Char) : Option Progress :=
  (tokens cs).bind fun ts => ts.foldlM Progress.step p

theorem parse_eq_run (s : String) : parse s = (Progress.start.run s.toList).bind Progress.result :=
  (Option.bind_assoc ..).symm

theorem run_nil (p : Progress) : p.run [] = some p := by
  simp [Progress.run, tokens]

theorem scan_space {c : Char} (space : isSpace c = true) (cs : List Char) :
    Token.scan (c :: cs) = none := by
  simp only [isSpace, Bool.or_eq_true, decide_eq_true_eq] at space
  rcases space with ((rfl | rfl) | rfl) | rfl <;> rfl

theorem tokens_scan {cs rest : List Char} {t : Token} (scanned : Token.scan cs = some (t, rest)) :
    tokens cs = (tokens rest).map (t :: ·) := by
  cases cs with
  | nil => simp [Token.scan, scanNumber, scanUnsigned, scanWhole, scanDigits] at scanned
  | cons c cs =>
    have solid : isSpace c = false := by
      cases space : isSpace c with
      | false => rfl
      | true => rw [scan_space space] at scanned; contradiction
    rw [tokens]
    simp only [solid, Bool.false_eq_true, if_false]
    split <;> simp_all

theorem run_scan {p : Progress} {cs rest : List Char} {t : Token}
    (scanned : Token.scan cs = some (t, rest)) : p.run cs = (p.step t).bind (·.run rest) := by
  rw [Progress.run, tokens_scan scanned]
  cases after : tokens rest with
  | none => cases p.step t <;> simp [Progress.run, after]
  | some ts => simp [Progress.run, after, List.foldlM_cons]

/-- A value may come next, and its context is known. -/
def Progress.Awaits (p : Progress) (outer : List Frame) : Prop :=
  ∀ t, t ≠ .endArray → p.step t = beginValue outer t

theorem awaits_value (outer : List Frame) : Progress.Awaits ⟨outer, .value⟩ outer :=
  fun _ _ => rfl

theorem awaits_item (items : List Json) (outer : List Frame) :
    Progress.Awaits ⟨.array items :: outer, .itemOrEnd⟩ (.array items :: outer) := by
  intro t inside
  cases t with
  | endArray => exact absurd rfl inside
  | _ => rfl

/-- The written value takes its place wherever a value may come next. -/
def Reads (v : Json) : Prop :=
  ∀ {p : Progress} {outer : List Frame} {rest : List Char}, p.Awaits outer → Ends rest →
    p.run (v.write.toList ++ rest) = (place v outer).bind (·.run rest)

/- Values of one lexeme. -/

theorem reads_of_scan {v : Json} {t : Token} (inside : t ≠ .endArray)
    (begins : ∀ outer, beginValue outer t = place v outer)
    (scanned : ∀ {rest}, Ends rest → Token.scan (v.write.toList ++ rest) = some (t, rest)) :
    Reads v := by
  intro p outer rest awaits ends
  rw [run_scan (scanned ends), awaits t inside, begins]

theorem reads_null : Reads .null :=
  reads_of_scan (t := .null) (by simp) (fun _ => rfl) fun _ => rfl

theorem reads_bool (b : Bool) : Reads (.bool b) :=
  reads_of_scan (t := .bool b) (by simp) (fun _ => rfl) fun _ => by cases b <;> rfl

theorem reads_natural {n : Nat} (fits : n < wordLimit) : Reads (.number (.natural n)) :=
  reads_of_scan (t := .number (.natural n)) (by simp) (fun _ => rfl) (scan_natural fits)

theorem reads_negative {n : Nat} (positive : 0 < n) (fits : n ≤ leastIntDepth) :
    Reads (.number (.negative n)) :=
  reads_of_scan (t := .number (.negative n)) (by simp) (fun _ => rfl) (scan_negative positive fits)

theorem reads_text (s : String) : Reads (.text (some s)) :=
  reads_of_scan (t := .text (some s)) (by simp) (fun _ => rfl) fun _ => scan_writeText s _

/- Arrays. -/

theorem writeItems_eq (items : List Json) : writeItems items = items.map write := by
  induction items with
  | nil => rfl
  | cons v items ih => rw [writeItems, ih, List.map_cons]

theorem intercalate_cons (c : Char) (xs : List Char) (xss : List (List Char)) :
    [c].intercalate (xs :: xss) = xs ++ xss.flatMap (c :: ·) := by
  induction xss generalizing xs with
  | nil => simp
  | cons ys xss ih => simp [List.intercalate_cons_cons, ih]

theorem ends_cons {c : Char} {cs : List Char} (stops : c = ',' ∨ c = ']' ∨ c = '\x7d') :
    Ends (c :: cs) := by
  intro k first
  obtain rfl : c = k := Option.some.inj first
  rcases stops with rfl | rfl | rfl <;> decide

theorem ends_tail (parts : List (List Char)) (rest : List Char) {c : Char}
    (stops : c = ']' ∨ c = '\x7d') : Ends (parts.flatMap (',' :: ·) ++ c :: rest) := by
  cases parts with
  | nil => exact ends_cons (.inr stops)
  | cons p parts => exact ends_cons (.inl rfl)

theorem run_items {items : List Json} (reads : ∀ v ∈ items, Reads v) (done : List Json)
    (outer : List Frame) (rest : List Char) :
    Progress.run ⟨.array done :: outer, .afterItem⟩
        ((items.map (·.write.toList)).flatMap (',' :: ·) ++ ']' :: rest) =
      (place (.array (done.reverse ++ items)) outer).bind (·.run rest) := by
  induction items generalizing done with
  | nil =>
    rw [List.map_nil, List.flatMap_nil, List.nil_append, List.append_nil,
      run_scan (t := .endArray) rfl]
    rfl
  | cons v items ih =>
    -- A comma or the bracket follows, so that an integer ends where it should.
    have value := reads v List.mem_cons_self (awaits_value (.array done :: outer))
      (ends_tail (items.map (·.write.toList)) rest (.inl rfl))
    have later := ih (fun u member => reads u (List.mem_cons_of_mem v member)) (v :: done)
    rw [List.map_cons, List.flatMap_cons, List.append_assoc, List.cons_append,
      run_scan (t := .comma) rfl]
    simp only [Progress.step, Option.bind_some, value, place, later]
    simp

theorem reads_array {items : List Json} (reads : ∀ v ∈ items, Reads v) : Reads (.array items) := by
  intro p outer rest awaits ends
  have spelled : (write (.array items)).toList ++ rest =
      '[' :: ([','].intercalate (items.map (·.write.toList)) ++ ']' :: rest) := by
    simp [write, joined, writeItems_eq, String.toList_intercalate, Function.comp_def]
  rw [spelled, run_scan (t := .beginArray) rfl, awaits _ (by simp)]
  simp only [beginValue, Option.bind_some]
  cases items with
  | nil =>
    rw [List.map_nil, List.intercalate_nil, List.nil_append, run_scan (t := .endArray) rfl]
    rfl
  | cons v items =>
    have value := reads v List.mem_cons_self (awaits_item [] outer)
      (ends_tail (items.map (·.write.toList)) rest (.inl rfl))
    have later := run_items (fun u member => reads u (List.mem_cons_of_mem v member)) [v] outer rest
    rw [List.map_cons, intercalate_cons, List.append_assoc, value]
    simp only [place, Option.bind_some, later]
    simp

/- Objects. -/

def memberChars (f : String × Json) : List Char :=
  (writeText f.1).toList ++ ':' :: f.2.write.toList

theorem writeMembers_eq (fields : List (String × Json)) :
    writeMembers (fields.map fun f => (some f.1, f.2)) =
      fields.map fun f => writeText f.1 ++ ":" ++ f.2.write := by
  induction fields with
  | nil => rfl
  | cons f fields ih => rw [List.map_cons, writeMembers, ih, List.map_cons, writeMaybe]

theorem run_member {f : String × Json} (reads : Reads f.2) {p : Progress}
    {done : List (Option String × Json)} {outer : List Frame} {rest : List Char}
    (key : p.step (.text (some f.1)) = some ⟨.member done (some f.1) :: outer, .colon⟩)
    (ends : Ends rest) :
    p.run (memberChars f ++ rest) =
      Progress.run ⟨.object ((some f.1, f.2) :: done) :: outer, .afterMember⟩ rest := by
  have value := reads (awaits_value (.member done (some f.1) :: outer)) ends
  rw [memberChars, List.append_assoc, List.cons_append, run_scan (scan_writeText f.1 _), key,
    Option.bind_some, run_scan (t := .colon) rfl]
  simp only [Progress.step, Option.bind_some, value, place]

theorem run_members {fields : List (String × Json)} (reads : ∀ f ∈ fields, Reads f.2)
    (done : List (Option String × Json)) (outer : List Frame) (rest : List Char) :
    Progress.run ⟨.object done :: outer, .afterMember⟩
        ((fields.map memberChars).flatMap (',' :: ·) ++ '\x7d' :: rest) =
      (place (.object (done.reverse ++ fields.map fun f => (some f.1, f.2))) outer).bind
        (·.run rest) := by
  induction fields generalizing done with
  | nil =>
    rw [List.map_nil, List.flatMap_nil, List.nil_append, List.map_nil, List.append_nil,
      run_scan (t := .endObject) rfl]
    rfl
  | cons f fields ih =>
    have later := ih (fun g member => reads g (List.mem_cons_of_mem f member))
      ((some f.1, f.2) :: done)
    rw [List.map_cons, List.flatMap_cons, List.append_assoc, List.cons_append,
      run_scan (t := .comma) rfl]
    simp only [Progress.step, Option.bind_some]
    rw [run_member (reads f List.mem_cons_self) rfl (ends_tail _ rest (.inr rfl)), later]
    simp

theorem reads_record {fields : List (String × Json)} (reads : ∀ f ∈ fields, Reads f.2) :
    Reads (record fields) := by
  intro p outer rest awaits ends
  have spelled : (write (record fields)).toList ++ rest =
      '\x7b' :: ([','].intercalate (fields.map memberChars) ++ '\x7d' :: rest) := by
    simp [record, write, joined, writeMembers_eq, String.toList_intercalate, Function.comp_def]
    rfl
  rw [spelled, run_scan (t := .beginObject) rfl, awaits _ (by simp)]
  simp only [beginValue, Option.bind_some]
  cases fields with
  | nil =>
    rw [List.map_nil, List.intercalate_nil, List.nil_append, run_scan (t := .endObject) rfl]
    rfl
  | cons f fields =>
    have later := run_members (fun g member => reads g (List.mem_cons_of_mem f member))
      [(some f.1, f.2)] outer rest
    rw [List.map_cons, intercalate_cons, List.append_assoc,
      run_member (reads f List.mem_cons_self) rfl (ends_tail _ rest (.inr rfl)), later]
    rfl

/- All values. -/

theorem Plain.reads {v : Json} (plain : Plain v) : Reads v := by
  induction plain with
  | null => exact reads_null
  | bool b => exact reads_bool b
  | natural fits => exact reads_natural fits
  | negative positive fits => exact reads_negative positive fits
  | text s => exact reads_text s
  | array _ ih => exact reads_array ih
  | record _ ih => exact reads_record ih

/-- The text of a plain value spells that value. -/
theorem Plain.parse_write {v : Json} (plain : Plain v) : parse v.write = some v := by
  have read : Progress.start.run (v.write.toList ++ []) = (place v []).bind (·.run []) :=
    plain.reads (awaits_value []) fun _ none_left => nomatch none_left
  rw [List.append_nil] at read
  rw [parse_eq_run, read, place, Option.bind_some, run_nil]
  rfl

end SchemaEvolution.Json
