import SchemaEvolution.Json.Printer
import SchemaEvolution.Json.Token

/-! Texts and integers as they are written are lexemes that read as what they say: a text
   whatever follows it, an integer unless what follows would go on with it. -/
namespace SchemaEvolution.Json

/- Texts. -/

theorem hexDigits_control : ∀ n < 32,
    (if n < 16 then ['0'] else []) ++ hexDigits n = [(n / 16).digitChar, (n % 16).digitChar] ∧
      hexWord '0' '0' (n / 16).digitChar (n % 16).digitChar = some n := by
  decide

theorem joinPieces_char (c : Char) (ps : List Piece) :
    joinPieces (.char c :: ps) = (joinPieces ps).map (c :: ·) := by
  rw [joinPieces]

theorem joinPieces_control {c : Char} (control : c.toNat < 32) (ps : List Piece) :
    joinPieces (.unit c.toNat :: ps) = (joinPieces ps).map (c :: ·) := by
  have high : isHighUnit c.toNat = false := by
    simp only [isHighUnit, Bool.and_eq_false_iff, decide_eq_false_iff_not]
    omega
  have low : isLowUnit c.toNat = false := by
    simp only [isLowUnit, Bool.and_eq_false_iff, decide_eq_false_iff_not]
    omega
  rw [joinPieces.eq_def]
  simp [high, low]

theorem scanText_plain {c : Char} (printed : ¬c.toNat < 32) (quote : c ≠ '\x22')
    (backslash : c ≠ '\\') (cs : List Char) :
    scanText (c :: cs) = consPiece (.char c) (scanText cs) := by
  rw [scanText]
  · simp [printed, backslash]
  · exact quote
  · exact fun _ _ _ _ _ same => absurd same backslash
  · exact fun _ _ same => absurd same backslash

theorem exists_piece (c : Char) : ∃ p,
    (∀ cs, scanText (escape c ++ cs) = consPiece p (scanText cs)) ∧
      ∀ ps, joinPieces (p :: ps) = (joinPieces ps).map (c :: ·) := by
  by_cases short : c ∈ ['\x22', '\\', '\x08', '\x0c', '\n', '\r', '\t']
  · refine ⟨.char c, fun cs => ?_, joinPieces_char c⟩
    simp only [List.mem_cons, List.not_mem_nil, or_false] at short
    rcases short with rfl | rfl | rfl | rfl | rfl | rfl | rfl <;>
      simp [escape, scanText, shortEscape]
  · simp only [List.mem_cons, List.not_mem_nil, or_false, not_or] at short
    obtain ⟨quote, backslash, backspace, feed, line, ret, tab⟩ := short
    by_cases control : c.toNat < 32
    · obtain ⟨digits, word⟩ := hexDigits_control c.toNat control
      have spelled : escape c = ['\\', 'u', '0', '0', (c.toNat / 16).digitChar,
          (c.toNat % 16).digitChar] := by
        simp [escape, quote, backslash, backspace, feed, line, ret, tab, control, digits]
      refine ⟨.unit c.toNat, fun cs => ?_, joinPieces_control control⟩
      simp [spelled, scanText, word]
    · refine ⟨.char c, fun cs => ?_, joinPieces_char c⟩
      simp [escape, quote, backslash, backspace, feed, line, ret, tab, control,
        scanText_plain control quote backslash]

theorem scanText_escaped (cs : List Char) : ∃ ps, joinPieces ps = some cs ∧
    ∀ rest, scanText (cs.flatMap escape ++ '\x22' :: rest) = some (ps, rest) := by
  induction cs with
  | nil => exact ⟨[], rfl, fun _ => rfl⟩
  | cons c cs ih =>
    obtain ⟨ps, joined, scanned⟩ := ih
    obtain ⟨p, here, joins⟩ := exists_piece c
    refine ⟨p :: ps, by rw [joins, joined, Option.map_some], fun rest => ?_⟩
    rw [List.flatMap_cons, List.append_assoc, here, scanned]
    rfl

theorem scan_writeText (s : String) (rest : List Char) :
    Token.scan ((writeText s).toList ++ rest) = some (.text (some s), rest) := by
  obtain ⟨ps, joined, scanned⟩ := scanText_escaped s.toList
  simp [writeText, Token.scan, scanned, joined]

/- Integers. -/

/-- Nothing that an integer in front could go on with. -/
def Ends (rest : List Char) : Prop :=
  ∀ c ∈ rest.head?, c.isDigit = false ∧ c ≠ '.' ∧ c ≠ 'e' ∧ c ≠ 'E'

theorem takeWhile_digits {ds rest : List Char} (digits : ∀ c ∈ ds, c.isDigit = true)
    (ends : Ends rest) : scanDigits (ds ++ rest) = (ds.map digitValue, rest) := by
  have stop : rest.takeWhile Char.isDigit = [] ∧ rest.dropWhile Char.isDigit = rest := by
    cases rest with
    | nil => exact ⟨rfl, rfl⟩
    | cons c rest =>
      have no_digit := (ends c rfl).1
      simp [no_digit]
  rw [scanDigits, List.takeWhile_append_of_pos digits, List.dropWhile_append_of_pos digits,
    stop.1, stop.2, List.append_nil]

theorem exists_first_digit {n : Nat} (positive : 0 < n) :
    ∃ c cs, Nat.toDigits 10 n = c :: cs ∧ c ≠ '0' := by
  induction n using Nat.strongRecOn with
  | ind n ih =>
    rw [Nat.toDigits_eq_if (by decide)]
    split
    · exact ⟨n.digitChar, [], rfl, fun zero => by
        have := Nat.digitChar_eq_zero.mp zero
        omega⟩
    · obtain ⟨c, cs, spelled, nonzero⟩ := ih (n / 10) (by omega) (by omega)
      exact ⟨c, cs ++ [(n % 10).digitChar], by rw [spelled, List.cons_append], nonzero⟩

theorem scanWhole_digits (n : Nat) {rest : List Char} (ends : Ends rest) :
    scanWhole (Nat.toDigits 10 n ++ rest) = some ((Nat.toDigits 10 n).map digitValue, rest) := by
  have digits : ∀ c ∈ Nat.toDigits 10 n, c.isDigit = true := fun c member =>
    Nat.isDigit_of_mem_toDigits (by decide) (by decide) member
  have scanned := takeWhile_digits digits ends
  rcases Nat.eq_zero_or_pos n with rfl | positive
  · rfl
  · obtain ⟨c, cs, spelled, nonzero⟩ := exists_first_digit positive
    rw [spelled, List.cons_append] at scanned ⊢
    unfold scanWhole
    split
    · simp_all
    · simp [scanned]

theorem scanFraction_ends {rest : List Char} (ends : Ends rest) :
    scanFraction rest = some (none, rest) := by
  unfold scanFraction
  split
  · exact absurd rfl (ends '.' rfl).2.1
  · rfl

theorem scanExponent_ends {rest : List Char} (ends : Ends rest) :
    scanExponent rest = some (none, rest) := by
  cases rest with
  | nil => rfl
  | cons c rest =>
    obtain ⟨-, -, small, large⟩ := ends c rfl
    simp [scanExponent, small, large]

theorem le_foldl_digits (ds : List Nat) (n : Nat) :
    n ≤ ds.foldl (fun n d => n * 10 + d) n := by
  induction ds generalizing n with
  | nil => exact Nat.le_refl n
  | cons d ds ih =>
    have := ih (n * 10 + d)
    simp only [List.foldl_cons]
    omega

theorem appendDigits_eq {ds : List Nat} {n : Nat}
    (fits : ds.foldl (fun n d => n * 10 + d) n < wordLimit) :
    appendDigits n ds = (ds.foldl (fun n d => n * 10 + d) n, ds.length) := by
  induction ds generalizing n with
  | nil => rfl
  | cons d ds ih =>
    rw [List.foldl_cons] at fits ⊢
    have small := Nat.lt_of_le_of_lt (le_foldl_digits ds _) fits
    simp [appendDigits, small, ih fits]

theorem foldl_digitValue (n : Nat) :
    ((Nat.toDigits 10 n).map digitValue).foldl (fun n d => n * 10 + d) 0 = n := by
  have read := Nat.ofDigitChars_ten_toDigits (n := n)
  rw [Nat.ofDigitChars_eq_foldl] at read
  simpa [List.foldl_map, digitValue, Nat.mul_comm] using read

theorem scanUnsigned_digits (minus : Bool) {n : Nat} (fits : n < wordLimit) {rest : List Char}
    (ends : Ends rest) :
    scanUnsigned minus (Nat.toDigits 10 n ++ rest) = some (integerOf minus n, rest) := by
  have whole := foldl_digitValue n
  have taken := appendDigits_eq (by rwa [whole])
  simp [scanUnsigned, scanWhole_digits n ends, scanFraction_ends ends, scanExponent_ends ends,
    Number.ofSpelling, taken, whole]

theorem scan_number {c : Char} (starts : c.isDigit = true ∨ c = '-') (cs : List Char) :
    Token.scan (c :: cs) = (scanNumber (c :: cs)).map fun r => (.number r.1, r.2) := by
  unfold Token.scan
  split <;> simp_all

theorem scan_natural {n : Nat} (fits : n < wordLimit) {rest : List Char} (ends : Ends rest) :
    Token.scan ((Number.natural n).write.toList ++ rest) = some (.number (.natural n), rest) := by
  have read := scanUnsigned_digits false fits ends
  rw [Number.write, Nat.repr_eq_ofList_toDigits, String.toList_ofList]
  cases spelled : Nat.toDigits 10 n with
  | nil => exact absurd spelled Nat.toDigits_ne_nil
  | cons c cs =>
    have digit : c.isDigit = true :=
      Nat.isDigit_of_mem_toDigits (b := 10) (n := n) (by decide) (by decide) (by simp [spelled])
    have unsigned : scanNumber (c :: (cs ++ rest)) = scanUnsigned false (c :: (cs ++ rest)) := by
      unfold scanNumber
      split
      · simp_all
      · rfl
    rw [spelled, List.cons_append] at read
    rw [List.cons_append, scan_number (.inl digit), unsigned, read]
    rfl

theorem scan_negative {n : Nat} (positive : 0 < n) (fits : n ≤ leastIntDepth) {rest : List Char}
    (ends : Ends rest) :
    Token.scan ((Number.negative n).write.toList ++ rest) = some (.number (.negative n), rest) := by
  have bound : leastIntDepth < wordLimit := by decide
  have read := scanUnsigned_digits true (Nat.lt_of_le_of_lt fits bound) ends
  have spelled : (Number.negative n).write.toList ++ rest = '-' :: (Nat.toDigits 10 n ++ rest) := by
    simp [Number.write, Nat.repr_eq_ofList_toDigits]
  have held : ¬(n = 0 ∨ leastIntDepth < n) := by omega
  rw [spelled, scan_number (.inr rfl), scanNumber, read]
  simp [integerOf, held]

end SchemaEvolution.Json
