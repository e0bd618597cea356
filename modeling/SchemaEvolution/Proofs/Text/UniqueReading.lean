import Mathlib.Data.List.Nodup
import SchemaEvolution.Decimal.Integer
import SchemaEvolution.Text.Quoted
import SchemaEvolution.Text.Word

/-! Texts that can be taken apart again. A way of writing is uniquely read when what was written
   and where it stops follow from the text, whatever comes after. Numbers and bare words are read
   up to a mark, a quoted string up to its own closing quote, and a list up to its own closing
   mark. -/
namespace SchemaEvolution.Text

variable {α β : Type}

/-- Two texts that begin with something written this way and go on with an end are the same only
    if the same was written and they go on alike. -/
def UniquelyRead (valid : α → Prop) (ends : List Char → Prop) (write : α → String) : Prop :=
  ∀ ⦃a b : α⦄, valid a → valid b → ∀ ⦃r s : List Char⦄, ends r → ends s →
    (write a).toList ++ r = (write b).toList ++ s → a = b ∧ r = s

def Breaks (c : Char) : Prop := c = ',' ∨ c = '\x7d'

def Broken (rest : List Char) : Prop := ∃ c ∈ rest.head?, Breaks c

/-- A word in one piece: nothing in it could end the option it stands in. -/
def Unbroken (word : String) : Prop := ∀ c ∈ word.toList, ¬ Breaks c

instance (c : Char) : Decidable (Breaks c) := inferInstanceAs (Decidable (_ ∨ _))

-- Decided character by character of the word, never over all characters.
instance (word : String) : Decidable (Unbroken word) :=
  List.decidableBAll (fun c => ¬ Breaks c) word.toList

theorem unbroken_of_isWord {word : String} (worded : word.toList.all isWord = true) :
    Unbroken word := by
  rintro c member (rfl | rfl)
  · exact absurd (List.all_eq_true.mp worded _ member) (by decide +kernel)
  · exact absurd (List.all_eq_true.mp worded _ member) (by decide +kernel)

theorem eq_nil_of_stops {stops : Char → Prop} {more r s : List Char}
    (runs : ∀ c ∈ more, ¬ stops c) (ends : ∃ c ∈ r.head?, stops c) (rest : r = more ++ s) :
    more = [] := by
  obtain ⟨c, first, stop⟩ := ends
  cases more with
  | nil => rfl
  | cons m more =>
    obtain rfl : m = c := by simpa [rest] using first
    exact absurd stop (runs m List.mem_cons_self)

/-- A text that never stops cannot go on where another one has stopped. -/
theorem append_inj_of_stops (stops : Char → Prop) {a b r s : List Char}
    (runsA : ∀ c ∈ a, ¬ stops c) (runsB : ∀ c ∈ b, ¬ stops c) (endR : ∃ c ∈ r.head?, stops c)
    (endS : ∃ c ∈ s.head?, stops c) (same : a ++ r = b ++ s) : a = b ∧ r = s := by
  rcases List.append_eq_append_iff.mp same with ⟨more, longer, rest⟩ | ⟨more, longer, rest⟩
  · have runs : ∀ c ∈ more, ¬ stops c := fun c member =>
      runsB c (longer ▸ List.mem_append_right a member)
    obtain rfl := eq_nil_of_stops runs endR rest
    exact ⟨by simpa using longer.symm, by simpa using rest⟩
  · have runs : ∀ c ∈ more, ¬ stops c := fun c member =>
      runsA c (longer ▸ List.mem_append_right b member)
    obtain rfl := eq_nil_of_stops runs endS rest
    exact ⟨by simpa using longer, by simpa using rest.symm⟩

theorem UniquelyRead.of_unbroken {valid : α → Prop} {write : α → String}
    (unbroken : ∀ a, valid a → Unbroken (write a))
    (apart : ∀ a b, valid a → valid b → write a = write b → a = b) :
    UniquelyRead valid Broken write := by
  intro a b validA validB r s endR endS same
  obtain ⟨written, rest⟩ := append_inj_of_stops Breaks (unbroken a validA) (unbroken b validB) endR
    endS same
  exact ⟨apart a b validA validB (String.toList_inj.mp written), rest⟩

theorem UniquelyRead.pair {valid : α → Prop} {valid' : β → Prop} {ends ends' : List Char → Prop}
    {write : α → String} {write' : β → String} (first : UniquelyRead valid ends write)
    (second : UniquelyRead valid' ends' write') (mark : String)
    (marked : ∀ r, ends (mark.toList ++ r)) :
    UniquelyRead (fun p : α × β => valid p.1 ∧ valid' p.2) ends'
      (fun p => write p.1 ++ mark ++ write' p.2) := by
  rintro ⟨a, x⟩ ⟨b, y⟩ ⟨validA, validX⟩ ⟨validB, validY⟩ r s endR endS same
  simp only [String.toList_append, List.append_assoc] at same
  obtain ⟨rfl, rest⟩ := first validA validB (marked _) (marked _) same
  obtain ⟨rfl, after⟩ := second validX validY endR endS (List.append_cancel_left rest)
  exact ⟨rfl, after⟩

/-- Reading the parts is enough where the parts are all there is. -/
theorem UniquelyRead.of_view {valid : α → Prop} {valid' : β → Prop} {ends : List Char → Prop}
    {write : α → String} {write' : β → String} (parts : UniquelyRead valid ends write)
    (view : β → α) (valid_view : ∀ x, valid' x → valid (view x))
    (spelled : ∀ x, write' x = write (view x))
    (all : ∀ x y, valid' x → valid' y → view x = view y → x = y) :
    UniquelyRead valid' ends write' := by
  intro x y validX validY r s endR endS same
  rw [spelled, spelled] at same
  obtain ⟨viewed, rest⟩ := parts (valid_view x validX) (valid_view y validY) endR endS same
  exact ⟨all x y validX validY viewed, rest⟩

theorem UniquelyRead.between {valid : α → Prop} {write : α → String}
    (each : UniquelyRead valid (fun _ => True) write) {before after after' : String} {a b : α}
    (validA : valid a) (validB : valid b)
    (same : before ++ (write a ++ after) = before ++ (write b ++ after')) :
    a = b ∧ after = after' := by
  have chars := congrArg String.toList same
  simp only [String.toList_append] at chars
  obtain ⟨written, rest⟩ := each validA validB trivial trivial (List.append_cancel_left chars)
  exact ⟨written, String.toList_inj.mp rest⟩

/- Numbers. -/

theorem digitChar_inj : ∀ m < 16, ∀ n < 16, m.digitChar = n.digitChar → m = n := by decide

theorem toDigits_inj {base m n : Nat} (one : 1 < base) (known : base ≤ 16)
    (same : Nat.toDigits base m = Nat.toDigits base n) : m = n := by
  induction m using Nat.strongRecOn generalizing n with
  | ind m ih =>
    rw [Nat.toDigits_eq_if (n := m) one, Nat.toDigits_eq_if (n := n) one] at same
    split at same <;> split at same
    next small small' =>
      exact digitChar_inj m (by omega) n (by omega) (List.singleton_inj.mp same)
    next => simp [List.singleton_eq_append_iff, Nat.toDigits_ne_nil] at same
    next => simp [List.append_eq_singleton_iff, Nat.toDigits_ne_nil] at same
    next large _ =>
      obtain ⟨front, last⟩ := List.append_inj' same rfl
      have boundM : m % base < base := Nat.mod_lt m (by omega)
      have boundN : n % base < base := Nat.mod_lt n (by omega)
      have quotient := ih (m / base) (Nat.div_lt_self (by omega) one) front
      have remainder := digitChar_inj (m % base) (by omega) (n % base) (by omega)
        (List.singleton_inj.mp last)
      rw [← Nat.div_add_mod m base, ← Nat.div_add_mod n base, quotient, remainder]

theorem mem_toDigits {base n : Nat} {c : Char} (one : 1 < base) (member : c ∈ Nat.toDigits base n) :
    ∃ m < base, c = m.digitChar := by
  induction n using Nat.strongRecOn with
  | ind n ih =>
    rw [Nat.toDigits_eq_if one] at member
    split at member
    next small => exact ⟨n, small, List.mem_singleton.mp member⟩
    next large =>
      rcases List.mem_append.mp member with front | last
      · exact ih (n / base) (Nat.div_lt_self (by omega) one) front
      · exact ⟨n % base, Nat.mod_lt n (by omega), List.mem_singleton.mp last⟩

theorem isDigit_of_mem_repr {n : Nat} {c : Char} (member : c ∈ n.repr.toList) :
    c.isDigit = true := by
  rw [Nat.repr_eq_ofList_toDigits, String.toList_ofList] at member
  exact Nat.isDigit_of_mem_toDigits (by decide) (by decide) member

theorem repr_inj {m n : Nat} (same : m.repr = n.repr) : m = n := by
  rw [Nat.repr_eq_ofList_toDigits, Nat.repr_eq_ofList_toDigits] at same
  exact toDigits_inj (by decide) (by decide) (String.ofList_injective same)

theorem not_breaks_of_isDigit {c : Char} (digit : c.isDigit = true) : ¬ Breaks c := by
  rintro (rfl | rfl)
  · exact absurd digit (by decide)
  · exact absurd digit (by decide)

theorem intText_begins (n : Int) : ∃ (d : Char) (ds : List Char), d.isDigit = true ∧
    ((Decimal.intText n).toList = d :: ds ∨ (Decimal.intText n).toList = '-' :: d :: ds) := by
  have begins (m : Nat) : ∃ d ds, d.isDigit = true ∧ m.repr.toList = d :: ds := by
    cases spelled : m.repr.toList with
    | nil => simp [Nat.repr_eq_ofList_toDigits, Nat.toDigits_ne_nil] at spelled
    | cons d ds => exact ⟨d, ds, isDigit_of_mem_repr (n := m) (by simp [spelled]), rfl⟩
  cases n with
  | ofNat m =>
    obtain ⟨d, ds, digit, spelled⟩ := begins m
    exact ⟨d, ds, digit, .inl spelled⟩
  | negSucc m =>
    obtain ⟨d, ds, digit, spelled⟩ := begins (m + 1)
    exact ⟨d, ds, digit, .inr (by simp [Decimal.intText, spelled])⟩

theorem unbroken_intText (n : Int) : Unbroken (Decimal.intText n) := by
  intro c member
  cases n with
  | ofNat m => exact not_breaks_of_isDigit (isDigit_of_mem_repr member)
  | negSucc m =>
    have spelled : (Decimal.intText (.negSucc m)).toList = '-' :: (m + 1).repr.toList := by
      simp only [Decimal.intText, String.toList_append]
      rfl
    rcases List.mem_cons.mp (spelled ▸ member) with rfl | digit
    · decide
    · exact not_breaks_of_isDigit (isDigit_of_mem_repr digit)

theorem intText_injective : Function.Injective Decimal.intText := by
  have signed (m n : Nat) : m.repr ≠ "-" ++ (n + 1).repr := by
    intro same
    have digit : '-'.isDigit = true := isDigit_of_mem_repr (n := m) (by simp [same])
    exact absurd digit (by decide)
  intro m n same
  cases m with
  | ofNat m =>
    cases n with
    | ofNat n => exact congrArg Int.ofNat (repr_inj same)
    | negSucc n => exact absurd same (signed m n)
  | negSucc m =>
    cases n with
    | ofNat n => exact absurd same.symm (signed n m)
    | negSucc n =>
      have digits : (m + 1).repr = (n + 1).repr :=
        String.toList_inj.mp (by simpa [Decimal.intText] using congrArg String.toList same)
      exact congrArg Int.negSucc (Nat.succ.inj (repr_inj digits))

/- Quoted strings. -/

def shortEscapes : List (Char × Char) :=
  [('\x00', '0'), ('\t', 't'), ('\n', 'n'), ('\r', 'r'), ('\x22', '\x22'), ('\\', '\\')]

theorem escape_cases (c : Char) :
    (escape c = [c] ∧ c ≠ '\\' ∧ c ≠ '\x22') ∨
    (∃ k, escape c = ['\\', k] ∧ (c, k) ∈ shortEscapes) ∨ escape c = escapeHidden c := by
  unfold escape
  split_ifs <;> simp_all [shortEscapes]

theorem escape_inj {c d : Char} {r s : List Char} (same : escape c ++ r = escape d ++ s) :
    c = d ∧ r = s := by
  have letters : (shortEscapes.map Prod.snd).Nodup := by decide
  have noLetter : ∀ p ∈ shortEscapes, p.2 ≠ 'u' := by decide
  rcases escape_cases c with ⟨asC, solid, _⟩ | ⟨k, asC, listed⟩ | asC <;>
    rcases escape_cases d with ⟨asD, solid', _⟩ | ⟨l, asD, listed'⟩ | asD <;>
    rw [asC, asD] at same
  · simpa using same
  · simp [solid] at same
  · simp [escapeHidden, solid] at same
  · simp [Ne.symm solid'] at same
  · obtain ⟨rfl, rfl⟩ : k = l ∧ r = s := by simpa using same
    have pair := List.inj_on_of_nodup_map letters listed listed' rfl
    exact ⟨congrArg Prod.fst pair, rfl⟩
  · simp [escapeHidden, noLetter _ listed] at same
  · simp [escapeHidden, Ne.symm solid'] at same
  · simp [escapeHidden, Ne.symm (noLetter _ listed')] at same
  · have noBrace (n : Nat) : ∀ k ∈ Nat.toDigits 16 n, k ≠ '\x7d' := by
      have apart : ∀ m < 16, m.digitChar ≠ '\x7d' := by decide
      intro k member
      obtain ⟨m, small, rfl⟩ := mem_toDigits (by decide) member
      exact apart m small
    have digits :
        Nat.toDigits 16 c.toNat ++ '\x7d' :: r = Nat.toDigits 16 d.toNat ++ '\x7d' :: s := by
      simpa [escapeHidden] using same
    obtain ⟨number, rest⟩ := append_inj_of_stops (· = '\x7d') (noBrace _) (noBrace _)
      (by simp) (by simp) digits
    exact ⟨Char.toNat_inj.mp (toDigits_inj (by decide) (by decide) number), (List.cons.inj rest).2⟩

theorem head?_escape (c : Char) (rest : List Char) : (escape c ++ rest).head? ≠ some '\x22' := by
  rcases escape_cases c with ⟨written, _, solid⟩ | ⟨k, written, _⟩ | written
  · simpa [written] using solid
  · simp [written]
  · simp [written, escapeHidden]

theorem flatMap_escape_inj {a b r s : List Char}
    (same : a.flatMap escape ++ '\x22' :: r = b.flatMap escape ++ '\x22' :: s) : a = b ∧ r = s := by
  -- No escape begins with the closing mark, so neither text can end before the other.
  induction a generalizing b with
  | nil =>
    cases b with
    | nil => simpa using same
    | cons d b =>
      rw [List.flatMap_cons, List.append_assoc] at same
      exact absurd (congrArg List.head? same.symm) (head?_escape d _)
  | cons c a ih =>
    cases b with
    | nil =>
      rw [List.flatMap_cons, List.append_assoc] at same
      exact absurd (congrArg List.head? same) (head?_escape c _)
    | cons d b =>
      simp only [List.flatMap_cons, List.append_assoc] at same
      obtain ⟨rfl, others⟩ := escape_inj same
      obtain ⟨rfl, rest⟩ := ih others
      exact ⟨rfl, rest⟩

/-- A quoted string is its own bracket: it needs nothing particular after it. -/
theorem quoted_uniquelyRead : UniquelyRead (fun _ => True) (fun _ => True) quoted := by
  intro a b _ _ r s _ _ same
  obtain ⟨written, rest⟩ := flatMap_escape_inj (a := a.toList) (b := b.toList) (r := r) (s := s)
    (by simpa [quoted, quotedChars] using same)
  exact ⟨String.toList_inj.mp written, rest⟩

/- Lists. -/

/-- What stands between an item and the end of its list. -/
def remaining (write : α → String) (rest : List Char) : List α → List Char
  | [] => rest
  | b :: items => ',' :: ' ' :: (", ".intercalate ((b :: items).map write)).toList ++ rest

theorem joined_cons (write : α → String) (rest : List Char) (a : α) (items : List α) :
    (", ".intercalate ((a :: items).map write)).toList ++ rest =
      (write a).toList ++ remaining write rest items := by
  cases items with
  | nil => simp [remaining]
  | cons b items => simp [String.toList_intercalate, remaining]

theorem ends_remaining {ends : List Char → Prop} {close : Char} (comma : ∀ r, ends (',' :: r))
    (closing : ∀ r, ends (close :: r)) (write : α → String) (rest : List Char) (items : List α) :
    ends (remaining write (close :: rest) items) := by
  cases items with
  | nil => exact closing rest
  | cons b items => exact comma _

theorem head?_joined {write : α → String} {close : Char} {a : α}
    (solid : ∀ r, ((write a).toList ++ r).head? ≠ some close) (items : List α)
    (rest : List Char) :
    ((", ".intercalate ((a :: items).map write)).toList ++ rest).head? ≠ some close := by
  rw [joined_cons]
  exact solid _

/-- A list with commas between its items is read up to a closing mark that begins no item. -/
theorem UniquelyRead.joined {valid : α → Prop} {ends : List Char → Prop} {write : α → String}
    {close : Char} (each : UniquelyRead valid ends write) (comma : ∀ r, ends (',' :: r))
    (closing : ∀ r, ends (close :: r)) (noComma : close ≠ ',')
    (opens : ∀ a, valid a → ∀ r, ((write a).toList ++ r).head? ≠ some close) :
    UniquelyRead (fun items => ∀ a ∈ items, valid a) (fun r => r.head? = some close)
      (fun items : List α => ", ".intercalate (items.map write)) := by
  intro items others valids valids' r s endR endS same
  obtain ⟨r, rfl⟩ := List.head?_eq_some_iff.mp endR
  obtain ⟨s, rfl⟩ := List.head?_eq_some_iff.mp endS
  induction items generalizing others with
  | nil =>
    cases others with
    | nil => exact ⟨rfl, by simpa using same⟩
    | cons b others =>
      have solid := head?_joined (opens b (valids' b List.mem_cons_self)) others (close :: s)
      exact absurd (congrArg List.head? same).symm solid
  | cons a items ih =>
    have validA := valids a List.mem_cons_self
    cases others with
    | nil =>
      have solid := head?_joined (opens a validA) items (close :: r)
      exact absurd (congrArg List.head? same) solid
    | cons b others =>
      dsimp only at same
      rw [joined_cons, joined_cons] at same
      obtain ⟨rfl, rest⟩ := each validA (valids' b List.mem_cons_self)
        (ends_remaining comma closing write r items) (ends_remaining comma closing write s others)
        same
      -- What is left begins with a comma or is the closing mark, on both sides the same.
      cases items with
      | nil =>
        cases others with
        | nil => exact ⟨rfl, rest⟩
        | cons d others => exact absurd (List.cons.inj rest).1 noComma
      | cons c items =>
        cases others with
        | nil => exact absurd (List.cons.inj rest).1.symm noComma
        | cons d others =>
          have later : c :: items = d :: others ∧ close :: r = close :: s :=
            ih (fun x member => valids x (List.mem_cons_of_mem _ member))
              (fun x member => valids' x (List.mem_cons_of_mem _ member))
              (by simpa [remaining] using rest)
          exact ⟨congrArg (a :: ·) later.1, later.2⟩

end SchemaEvolution.Text
