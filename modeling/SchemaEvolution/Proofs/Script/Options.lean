import SchemaEvolution.Operation.ScriptText
import SchemaEvolution.Proofs.Text.UniqueReading

/-! The options of script text, taken apart again. The look of its first characters tells what
   kind of value an option has. Options that are not set are left out, so what stands between the
   braces tells every one of them. -/
namespace SchemaEvolution

open Decimal Text

inductive OptionValue where
  | nothing
  | flag (b : Bool)
  | number (n : Int)
  | real (x : Double)
  | text (s : String)
  | computed (sql : String)
  | word (w : String)
  | names (items : List String)

/-- How a value looks where it begins. -/
inductive Look where
  | nothing
  | flag
  | number
  | text
  | computed
  | word
  | names

namespace OptionValue

def write : OptionValue → String
  | nothing => "nil"
  | flag b => truth b
  | number n => intText n
  | real x => scriptNumberLayout.write x
  | text s => quoted s
  | computed sql => "-> \x7b " ++ quoted sql ++ " \x7d"
  | word w => symbol w
  | names items => quotedList items

@[simp] theorem write_flag (b : Bool) : (flag b).write = truth b := rfl
@[simp] theorem write_text (s : String) : (text s).write = quoted s := rfl
@[simp] theorem write_word (w : String) : (word w).write = symbol w := rfl
@[simp] theorem write_names (items : List String) : (names items).write = quotedList items := rfl

/-- Floats are left aside, and a bare word has to hold together. -/
def Legible : OptionValue → Prop
  | real _ => False
  | word w => Unbroken w
  | _ => True

@[simp] theorem legible_flag (b : Bool) : (flag b).Legible := trivial
@[simp] theorem legible_number (n : Int) : (number n).Legible := trivial
@[simp] theorem legible_text (s : String) : (text s).Legible := trivial
@[simp] theorem legible_word (w : String) : (word w).Legible ↔ Unbroken w := Iff.rfl
@[simp] theorem legible_names (items : List String) : (names items).Legible := trivial

def look : OptionValue → Look
  | nothing => .nothing
  | flag _ => .flag
  | number _ => .number
  | real _ => .number
  | text _ => .text
  | computed _ => .computed
  | word _ => .word
  | names _ => .names

end OptionValue

def Look.ofChars : List Char → Look
  | 'n' :: _ => .nothing
  | 't' :: _ => .flag
  | 'f' :: _ => .flag
  | '\x22' :: _ => .text
  | '-' :: '>' :: _ => .computed
  | ':' :: _ => .word
  | '[' :: _ => .names
  | _ => .number

theorem quotedList_uniquelyRead : UniquelyRead (fun _ => True) (fun _ => True) quotedList := by
  have opens (name : String) (_ : True) (r : List Char) :
      ((quoted name).toList ++ r).head? ≠ some ']' := by
    simp [quoted, quotedChars]
  have items : UniquelyRead (fun items => ∀ name ∈ items, True) (fun r => r.head? = some ']')
      (fun items : List String => ", ".intercalate (items.map quoted)) :=
    quoted_uniquelyRead.joined (fun _ => trivial) (fun _ => trivial) (by decide) opens
  intro a b _ _ r s _ _ same
  simp only [quotedList, String.toList_append, List.append_assoc] at same
  obtain ⟨rfl, rest⟩ := items (fun _ _ => trivial) (fun _ _ => trivial) (r := "]".toList ++ r)
    (s := "]".toList ++ s) rfl rfl (List.append_cancel_left same)
  exact ⟨rfl, List.append_cancel_left rest⟩

namespace OptionValue

theorem look_write {v : OptionValue} (legible : v.Legible) (rest : List Char) :
    Look.ofChars (v.write.toList ++ rest) = v.look := by
  cases v with
  | nothing => rfl
  | flag b => cases b <;> rfl
  | number n =>
    obtain ⟨d, ds, digit, spelled | spelled⟩ := intText_begins n
    · rw [write, spelled, List.cons_append, Look.ofChars.eq_def]
      split <;> simp_all [Char.isDigit, look]
    · rw [write, spelled, List.cons_append, List.cons_append, Look.ofChars.eq_def]
      split <;> simp_all [Char.isDigit, look]
  | real x => exact legible.elim
  | text s => simp [write, quoted, quotedChars, Look.ofChars, look]
  | computed sql => simp [write, Look.ofChars, look]
  | word w => simp [write, symbol, Look.ofChars, look]
  | names items => simp [write, quotedList, Look.ofChars, look]

end OptionValue

theorem truth_uniquelyRead : UniquelyRead (fun _ => True) Broken truth := by
  refine .of_unbroken (fun b _ => ?_) fun b c _ _ same => ?_
  · cases b <;> decide
  · cases b <;> cases c <;> first | rfl | exact absurd same (by decide)

theorem intText_uniquelyRead : UniquelyRead (fun _ => True) Broken intText :=
  .of_unbroken (fun n _ => unbroken_intText n) fun _ _ _ _ same => intText_injective same

theorem symbol_uniquelyRead : UniquelyRead Unbroken Broken symbol := by
  intro v w validV validW r s endR endS same
  simp only [symbol, String.toList_append, List.append_assoc] at same
  obtain ⟨word, rest⟩ := append_inj_of_stops Breaks validV validW endR endS
    (List.append_cancel_left same)
  exact ⟨String.toList_inj.mp word, rest⟩

namespace OptionValue

/-- A value is read up to the comma or the brace after it. -/
theorem uniquelyRead : UniquelyRead Legible Broken write := by
  intro v w validV validW r s endR endS same
  have looks : v.look = w.look := by rw [← look_write validV r, same, look_write validW s]
  -- How a value begins tells its kind, so both are of the same one.
  cases v with
  | nothing =>
    cases w with
    | nothing => exact ⟨rfl, List.append_cancel_left same⟩
    | _ => cases looks
  | flag b =>
    cases w with
    | flag c =>
      obtain ⟨rfl, rest⟩ := truth_uniquelyRead trivial trivial endR endS same
      exact ⟨rfl, rest⟩
    | _ => cases looks
  | number m =>
    cases w with
    | number n =>
      obtain ⟨rfl, rest⟩ := intText_uniquelyRead trivial trivial endR endS same
      exact ⟨rfl, rest⟩
    | real x => exact validW.elim
    | _ => cases looks
  | real x => exact validV.elim
  | text t =>
    cases w with
    | text u =>
      obtain ⟨rfl, rest⟩ := quoted_uniquelyRead trivial trivial trivial trivial same
      exact ⟨rfl, rest⟩
    | _ => cases looks
  | computed t =>
    cases w with
    | computed u =>
      simp only [write, String.toList_append, List.append_assoc] at same
      obtain ⟨rfl, rest⟩ := quoted_uniquelyRead trivial trivial trivial trivial
        (List.append_cancel_left same)
      exact ⟨rfl, List.append_cancel_left rest⟩
    | _ => cases looks
  | word t =>
    cases w with
    | word u =>
      obtain ⟨rfl, rest⟩ := symbol_uniquelyRead validV validW endR endS same
      exact ⟨rfl, rest⟩
    | _ => cases looks
  | names items =>
    cases w with
    | names others =>
      obtain ⟨rfl, rest⟩ := quotedList_uniquelyRead trivial trivial trivial trivial same
      exact ⟨rfl, rest⟩
    | _ => cases looks

end OptionValue

/- Options between braces. -/

abbrev ShownOption := String × OptionValue

def ShownOption.write (o : ShownOption) : String := o.1 ++ ": " ++ o.2.write

/-- A label has no mark in it that would end it or the options around it. -/
def PlainLabel (label : String) : Prop := ∀ c ∈ label.toList, c ≠ ':' ∧ c ≠ '\x7d'

instance (label : String) : Decidable (PlainLabel label) :=
  List.decidableBAll (fun c => c ≠ ':' ∧ c ≠ '\x7d') label.toList

structure ShownOption.Legible (o : ShownOption) : Prop where
  label : PlainLabel o.1
  value : o.2.Legible

theorem ShownOption.uniquelyRead :
    UniquelyRead ShownOption.Legible Broken ShownOption.write := by
  rintro ⟨label, v⟩ ⟨label', w⟩ ⟨plain, validV⟩ ⟨plain', validW⟩ r s endR endS same
  simp only [write, String.toList_append, List.append_assoc] at same
  obtain ⟨labels, rest⟩ := append_inj_of_stops (· = ':') (fun c member => (plain c member).1)
    (fun c member => (plain' c member).1) (by simp) (by simp) same
  obtain rfl := String.toList_inj.mp labels
  obtain ⟨rfl, after⟩ := OptionValue.uniquelyRead validV validW endR endS
    (List.append_cancel_left rest)
  exact ⟨rfl, after⟩

theorem braces_uniquelyRead :
    UniquelyRead (fun options : List ShownOption => ∀ o ∈ options, o.Legible) (fun _ => True)
      (fun options => braces (options.map ShownOption.write)) := by
  have opens (o : ShownOption) (legible : o.Legible) (r : List Char) :
      (o.write.toList ++ r).head? ≠ some '\x7d' := by
    obtain ⟨label, v⟩ := o
    cases spelled : label.toList with
    | nil => simp [ShownOption.write, spelled]
    | cons c cs =>
      have solid := (legible.label c (by simp [spelled])).2
      simpa [ShownOption.write, spelled] using solid
  have comma (r : List Char) : Broken (',' :: r) := ⟨',', rfl, .inl rfl⟩
  have closing (r : List Char) : Broken ('\x7d' :: r) := ⟨'\x7d', rfl, .inr rfl⟩
  have items := ShownOption.uniquelyRead.joined comma closing (by decide) opens
  intro a b validA validB r s _ _ same
  simp only [braces, String.toList_append, List.append_assoc] at same
  obtain ⟨rfl, rest⟩ := items validA validB (r := "\x7d".toList ++ r) (s := "\x7d".toList ++ s)
    rfl rfl (List.append_cancel_left same)
  exact ⟨rfl, List.append_cancel_left rest⟩

/- Options that may be left out. -/

abbrev OptionSlots := List (String × Option OptionValue)

namespace OptionSlots

def shown (slots : OptionSlots) : List ShownOption :=
  slots.filterMap fun s => s.2.map fun v => (s.1, v)

def text (slots : OptionSlots) : List String := slots.shown.map ShownOption.write

def labels (slots : OptionSlots) : List String := slots.map Prod.fst

def LegibleIfSet (x : Option OptionValue) : Prop := ∀ v ∈ x, v.Legible

def Legible (slots : OptionSlots) : Prop := ∀ s ∈ slots, LegibleIfSet s.2

theorem labels_shown_sublist (slots : OptionSlots) :
    (slots.shown.map Prod.fst).Sublist slots.labels := by
  induction slots with
  | nil => exact List.nil_sublist _
  | cons s slots ih =>
    obtain ⟨label, value⟩ := s
    cases value with
    | none => exact ih.cons label
    | some v => exact ih.cons_cons label

theorem label_mem_of_shown {slots : OptionSlots} {label : String} {v : OptionValue}
    {rest : List ShownOption} (begins : slots.shown = (label, v) :: rest) : label ∈ slots.labels :=
  (labels_shown_sublist slots).subset (by simp [begins])

/-- Where each label stands once, what is shown tells what is set and what is not. -/
theorem eq_of_shown {slots others : OptionSlots} (labels : slots.labels = others.labels)
    (distinct : slots.labels.Nodup) (same : slots.shown = others.shown) : slots = others := by
  induction slots generalizing others with
  | nil => exact (List.map_eq_nil_iff.mp labels.symm).symm
  | cons s slots ih =>
    cases others with
    | nil => nomatch labels
    | cons t others =>
      obtain ⟨label, x⟩ := s
      obtain ⟨label', y⟩ := t
      obtain ⟨rfl, rest⟩ : label = label' ∧ OptionSlots.labels slots = OptionSlots.labels others :=
        List.cons.inj labels
      obtain ⟨fresh, once⟩ : label ∉ OptionSlots.labels slots ∧ (OptionSlots.labels slots).Nodup :=
        List.nodup_cons.mp distinct
      -- An option set on one side only would stand among the later labels of the other.
      cases x with
      | none =>
        cases y with
        | none => rw [ih rest once same]
        | some w =>
          have listed : label ∈ OptionSlots.labels slots := label_mem_of_shown same
          exact absurd listed fresh
      | some v =>
        cases y with
        | none =>
          have listed : label ∈ OptionSlots.labels others := label_mem_of_shown same.symm
          exact absurd (rest ▸ listed) fresh
        | some w =>
          obtain ⟨first, later⟩ := List.cons.inj same
          rw [ih rest once later, (Prod.mk.inj first).2]

theorem uniquelyRead (labels : List String) (distinct : labels.Nodup)
    (plain : ∀ label ∈ labels, PlainLabel label) :
    UniquelyRead (fun slots : OptionSlots => slots.labels = labels ∧ slots.Legible)
      (fun _ => True) (fun slots => braces slots.text) := by
  have legible {slots : OptionSlots} (valid : slots.labels = labels ∧ slots.Legible) :
      ∀ o ∈ slots.shown, o.Legible := by
    intro o member
    obtain ⟨s, listed, set⟩ := List.mem_filterMap.mp member
    obtain ⟨v, value, rfl⟩ := Option.map_eq_some_iff.mp set
    have label : s.1 ∈ labels := valid.1 ▸ List.mem_map_of_mem listed
    exact ⟨plain s.1 label, valid.2 s listed v value⟩
  intro slots others valid valid' r s _ _ same
  obtain ⟨shown, rest⟩ := braces_uniquelyRead (legible valid) (legible valid') trivial trivial same
  exact ⟨eq_of_shown (valid.1.trans valid'.1.symm) (valid.1 ▸ distinct) shown, rest⟩

end OptionSlots

end SchemaEvolution
