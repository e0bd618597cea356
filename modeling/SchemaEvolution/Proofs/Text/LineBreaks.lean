import SchemaEvolution.Decimal.Layout
import SchemaEvolution.Proofs.Text.UniqueReading

/-! The lines a text is printed on. Every line break in it begins a new one, so texts that are
   joined by line breaks come apart again exactly if none of them has a line break of its own.
   Numbers and quoted strings never have one. -/
namespace SchemaEvolution.Text

def physicalLines (text : String) : List String := (text.toList.splitOn '\n').map String.ofList

def lineBreaks (text : String) : Nat := text.toList.count '\n'

def totalBreaks : List String → Nat
  | [] => 0
  | text :: texts => lineBreaks text + totalBreaks texts

theorem lineBreaks_eq_zero_iff {text : String} : lineBreaks text = 0 ↔ '\n' ∉ text.toList :=
  List.count_eq_zero

variable {α : Type}

@[simp] theorem lineBreaks_append (a b : String) :
    lineBreaks (a ++ b) = lineBreaks a + lineBreaks b := by
  rw [lineBreaks, String.toList_append, List.count_append]
  rfl

@[simp] theorem totalBreaks_nil : totalBreaks [] = 0 := rfl

@[simp] theorem totalBreaks_cons (text : String) (texts : List String) :
    totalBreaks (text :: texts) = lineBreaks text + totalBreaks texts := rfl

@[simp] theorem totalBreaks_append (xs ys : List String) :
    totalBreaks (xs ++ ys) = totalBreaks xs + totalBreaks ys := by
  induction xs with
  | nil => simp
  | cons x xs ih => rw [List.cons_append, totalBreaks_cons, totalBreaks_cons, ih, Nat.add_assoc]

theorem totalBreaks_flatMap_congr {f g : α → List String}
    (each : ∀ a, totalBreaks (f a) = totalBreaks (g a)) (xs : List α) :
    totalBreaks (xs.flatMap f) = totalBreaks (xs.flatMap g) := by
  induction xs with
  | nil => rfl
  | cons x xs ih =>
    rw [List.flatMap_cons, List.flatMap_cons, totalBreaks_append, totalBreaks_append, each x, ih]

theorem totalBreaks_map {f : α → String} {words : α → List String}
    (each : ∀ a, lineBreaks (f a) = totalBreaks (words a)) (xs : List α) :
    totalBreaks (xs.map f) = totalBreaks (xs.flatMap words) := by
  rw [List.map_eq_flatMap]
  exact totalBreaks_flatMap_congr each xs

theorem totalBreaks_eq_zero_iff {texts : List String} :
    totalBreaks texts = 0 ↔ ∀ text ∈ texts, '\n' ∉ text.toList := by
  induction texts with
  | nil => simp
  | cons text texts ih =>
    rw [totalBreaks_cons, Nat.add_eq_zero_iff, lineBreaks_eq_zero_iff, ih, List.forall_mem_cons]

theorem lineBreaks_intercalate {mark : String} (plain : lineBreaks mark = 0) (texts : List String) :
    lineBreaks (mark.intercalate texts) = totalBreaks texts := by
  induction texts with
  | nil => rfl
  | cons text texts ih =>
    cases texts with
    | nil => simp
    | cons next texts =>
      rw [String.intercalate_cons_cons, lineBreaks_append, lineBreaks_append, plain, ih,
        totalBreaks_cons text]
      omega

theorem lineBreaks_joined (first : String) (texts : List String) :
    lineBreaks ("\n".intercalate (first :: texts)) = texts.length + totalBreaks (first :: texts) := by
  induction texts generalizing first with
  | nil => simp
  | cons next texts ih =>
    have one : lineBreaks "\n" = 1 := by decide
    rw [String.intercalate_cons_cons, lineBreaks_append, lineBreaks_append, one, ih,
      totalBreaks_cons first, List.length_cons]
    omega

/- Physical lines. -/

theorem length_splitOn (c : Char) (cs : List Char) :
    (cs.splitOn c).length = cs.count c + 1 := by
  induction cs with
  | nil => rfl
  | cons d cs ih =>
    rw [List.splitOn_cons_eq_if_modifyHead, List.count_cons]
    split
    · rw [List.length_cons, ih]
    · rw [List.length_modifyHead, ih, Nat.add_zero]

theorem length_physicalLines (text : String) :
    (physicalLines text).length = lineBreaks text + 1 := by
  rw [physicalLines, List.length_map, length_splitOn, lineBreaks]

theorem physicalLines_joined {texts : List String} (some : texts ≠ [])
    (whole : ∀ text ∈ texts, '\n' ∉ text.toList) :
    physicalLines ("\n".intercalate texts) = texts := by
  have apart : ∀ cs ∈ texts.map String.toList, '\n' ∉ cs := List.forall_mem_map.mpr whole
  have chars : "\n".toList = ['\n'] := rfl
  rw [physicalLines, String.toList_intercalate, chars,
    List.splitOn_intercalate '\n' apart (mt List.map_eq_nil_iff.mp some), List.map_map]
  simp

theorem length_physicalLines_joined {texts : List String} (some : texts ≠ []) :
    (physicalLines ("\n".intercalate texts)).length = texts.length + totalBreaks texts := by
  cases texts with
  | nil => exact absurd rfl some
  | cons first texts =>
    rw [length_physicalLines, lineBreaks_joined, List.length_cons]
    omega

/-- A list of texts is what is printed if it is printed on as many lines. -/
theorem physicalLines_joined_iff {texts : List String} (some : texts ≠ []) :
    physicalLines ("\n".intercalate texts) = texts ↔ ∀ text ∈ texts, '\n' ∉ text.toList := by
  refine ⟨fun same => ?_, physicalLines_joined some⟩
  have length := length_physicalLines_joined some
  rw [same] at length
  exact totalBreaks_eq_zero_iff.mp (by omega)

/- Numbers and quoted strings. -/

theorem ne_lineBreak_of_isDigit {c : Char} (digit : c.isDigit = true) : c ≠ '\n' := by
  rintro rfl
  exact absurd digit (by decide)

@[simp] theorem lineBreaks_repr (n : Nat) : lineBreaks n.repr = 0 :=
  lineBreaks_eq_zero_iff.mpr fun member =>
    ne_lineBreak_of_isDigit (isDigit_of_mem_repr member) rfl

@[simp] theorem lineBreaks_intText (n : Int) : lineBreaks (Decimal.intText n) = 0 := by
  cases n with
  | ofNat n => exact lineBreaks_repr n
  | negSucc n =>
    rw [Decimal.intText, lineBreaks_append, lineBreaks_repr]
    rfl

theorem lineBreak_not_mem_escapeHidden (c : Char) : '\n' ∉ escapeHidden c := by
  have digits : ∀ m < 16, m.digitChar ≠ '\n' := by decide
  intro member
  simp only [escapeHidden, List.mem_append] at member
  rcases member with (start | digit) | close
  · exact absurd start (by decide)
  · obtain ⟨m, small, same⟩ := mem_toDigits (by decide) digit
    exact digits m small same.symm
  · exact absurd close (by decide)

theorem lineBreak_not_mem_escape (c : Char) : '\n' ∉ escape c := by
  have letters : ∀ p ∈ shortEscapes, p.2 ≠ '\n' := by decide
  by_cases feed : c = '\n'
  · subst feed
    decide
  · rcases escape_cases c with ⟨written, _⟩ | ⟨letter, written, listed⟩ | written
    · simp [written, Ne.symm feed]
    · simp [written, Ne.symm (letters _ listed)]
    · rw [written]
      exact lineBreak_not_mem_escapeHidden c

@[simp] theorem lineBreaks_quoted (s : String) : lineBreaks (quoted s) = 0 := by
  rw [lineBreaks_eq_zero_iff, quoted, String.toList_ofList, quotedChars]
  simp [lineBreak_not_mem_escape]

section Layout

variable {ds : List Char} (whole : '\n' ∉ ds) (l : Decimal.Layout)
include whole

theorem lineBreak_not_mem_writePositional (power lead : Int) :
    '\n' ∉ l.writePositional ds power lead := by
  unfold Decimal.Layout.writePositional Decimal.zeros
  split_ifs <;> simp [whole, mt List.mem_of_mem_take whole, mt List.mem_of_mem_drop whole]

theorem lineBreak_not_mem_writeScientific (lead : Int) : '\n' ∉ l.writeScientific ds lead := by
  have exponent : '\n' ∉ lead.natAbs.repr.toList :=
    lineBreaks_eq_zero_iff.mp (lineBreaks_repr lead.natAbs)
  unfold Decimal.Layout.writeScientific
  split <;> split_ifs <;> simp_all

end Layout

@[simp] theorem lineBreaks_write (l : Decimal.Layout) (x : Decimal.Double) :
    lineBreaks (l.write x) = 0 := by
  let d := Decimal.shortest l.tie x.magnitude
  have digits : '\n' ∉ d.number.repr.toList := lineBreaks_eq_zero_iff.mp (lineBreaks_repr d.number)
  have body (lead : Int) : '\n' ∉ if l.positional lead then
      l.writePositional d.number.repr.toList d.power lead
      else l.writeScientific d.number.repr.toList lead := by
    split
    · exact lineBreak_not_mem_writePositional digits l d.power lead
    · exact lineBreak_not_mem_writeScientific digits l lead
  rw [lineBreaks_eq_zero_iff, Decimal.Layout.write, String.toList_ofList]
  split
  · exact List.not_mem_cons_of_ne_of_not_mem (by decide) (body _)
  · exact body _

end SchemaEvolution.Text
