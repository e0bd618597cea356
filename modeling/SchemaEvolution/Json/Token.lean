import SchemaEvolution.Json.Number

/-! Lexemes of a document: punctuation, the three words, numbers and texts, with
   space, tab, line feed and carriage return between them. -/
namespace SchemaEvolution.Json

inductive Token where
  | beginArray
  | endArray
  | beginObject
  | endObject
  | comma
  | colon
  | null
  | bool (b : Bool)
  | number (n : Number)
  | text (s : Option String)
  deriving DecidableEq, Repr

def isSpace (c : Char) : Bool := c = ' ' || c = '\t' || c = '\n' || c = '\r'

def digitValue (c : Char) : Nat := c.toNat - '0'.toNat

def hexValue (c : Char) : Option Nat :=
  if c.isDigit then some (digitValue c)
  else if 'a' ≤ c && c ≤ 'f' then some (c.toNat - 'a'.toNat + 10)
  else if 'A' ≤ c && c ≤ 'F' then some (c.toNat - 'A'.toNat + 10)
  else none

def hexWord (a b c d : Char) : Option Nat := do
  return (((← hexValue a) * 16 + (← hexValue b)) * 16 + (← hexValue c)) * 16 + (← hexValue d)

/-- What a text holds: a character, or the 16-bit unit of an escape. -/
inductive Piece where
  | char (c : Char)
  | unit (n : Nat)
  deriving DecidableEq, Repr

def shortEscape (c : Char) : Option Char :=
  if c = '\x22' || c = '\\' || c = '/' then some c
  else if c = 'b' then some '\x08'
  else if c = 'f' then some '\x0c'
  else if c = 'n' then some '\n'
  else if c = 'r' then some '\r'
  else if c = 't' then some '\t'
  else none

def consPiece (p : Piece) (found : Option (List Piece × List Char)) :
    Option (List Piece × List Char) := found.map fun r => (p :: r.1, r.2)

def scanText : List Char → Option (List Piece × List Char)
  | [] => none
  | '\x22' :: rest => some ([], rest)
  | '\\' :: 'u' :: a :: b :: c :: d :: rest =>
    (hexWord a b c d).bind fun n => consPiece (.unit n) (scanText rest)
  | '\\' :: c :: rest => (shortEscape c).bind fun e => consPiece (.char e) (scanText rest)
  | c :: rest => if c.toNat < 0x20 || c = '\\' then none else consPiece (.char c) (scanText rest)

def isHighUnit (n : Nat) : Bool := 0xd800 ≤ n && n < 0xdc00
def isLowUnit (n : Nat) : Bool := 0xdc00 ≤ n && n < 0xe000

/-- A high unit needs a low one right after it, and a low one needs that place. -/
def joinPieces : List Piece → Option (List Char)
  | [] => some []
  | .char c :: rest => (joinPieces rest).map (c :: ·)
  | .unit n :: rest =>
    if isHighUnit n then
      match rest with
      | .unit m :: rest =>
        if isLowUnit m then
          (joinPieces rest).map (Char.ofNat (0x10000 + (n - 0xd800) * 0x400 + (m - 0xdc00)) :: ·)
        else none
      | _ => none
    else if isLowUnit n then none
    else (joinPieces rest).map (Char.ofNat n :: ·)

def scanDigits (cs : List Char) : List Nat × List Char :=
  ((cs.takeWhile Char.isDigit).map digitValue, cs.dropWhile Char.isDigit)

def scanWhole : List Char → Option (List Nat × List Char)
  | '0' :: rest => some ([0], rest)
  | cs =>
    let (ds, rest) := scanDigits cs
    if ds.isEmpty then none else some (ds, rest)

def scanFraction : List Char → Option (Option (List Nat) × List Char)
  | '.' :: cs =>
    let (ds, rest) := scanDigits cs
    if ds.isEmpty then none else some (some ds, rest)
  | cs => some (none, cs)

def scanSign : List Char → Bool × List Char
  | '-' :: cs => (true, cs)
  | '+' :: cs => (false, cs)
  | cs => (false, cs)

def scanExponent : List Char → Option (Option (Bool × List Nat) × List Char)
  | c :: cs =>
    if c = 'e' || c = 'E' then
      let (down, cs) := scanSign cs
      let (ds, rest) := scanDigits cs
      if ds.isEmpty then none else some (some (down, ds), rest)
    else some (none, c :: cs)
  | [] => some (none, [])

def scanUnsigned (minus : Bool) (cs : List Char) : Option (Number × List Char) := do
  let (whole, cs) ← scanWhole cs
  let (fraction, cs) ← scanFraction cs
  let (exponent, cs) ← scanExponent cs
  return (.ofSpelling ⟨minus, whole, fraction, exponent⟩, cs)

def scanNumber : List Char → Option (Number × List Char)
  | '-' :: cs => scanUnsigned true cs
  | cs => scanUnsigned false cs

def Token.scan : List Char → Option (Token × List Char)
  | '[' :: cs => some (.beginArray, cs)
  | ']' :: cs => some (.endArray, cs)
  | '\x7b' :: cs => some (.beginObject, cs)
  | '\x7d' :: cs => some (.endObject, cs)
  | ',' :: cs => some (.comma, cs)
  | ':' :: cs => some (.colon, cs)
  | '\x22' :: cs => (scanText cs).map fun r => (.text ((joinPieces r.1).map String.ofList), r.2)
  | 'n' :: 'u' :: 'l' :: 'l' :: cs => some (.null, cs)
  | 't' :: 'r' :: 'u' :: 'e' :: cs => some (.bool true, cs)
  | 'f' :: 'a' :: 'l' :: 's' :: 'e' :: cs => some (.bool false, cs)
  | cs => (scanNumber cs).map fun r => (.number r.1, r.2)

theorem scanText_length {cs : List Char} {found : List Piece × List Char}
    (scanned : scanText cs = some found) : found.2.length < cs.length := by
  fun_induction scanText cs generalizing found with
  | case1 => simp at scanned
  | case2 =>
    obtain rfl := Option.some.inj scanned
    simp
  | case3 a b c d r ih =>
    simp only [Option.bind_eq_some_iff, consPiece, Option.map_eq_some_iff] at scanned
    obtain ⟨n, _, inner, here, rfl⟩ := scanned
    have := ih here
    simp only [List.length_cons]
    omega
  | case4 c r _ ih =>
    simp only [Option.bind_eq_some_iff, consPiece, Option.map_eq_some_iff] at scanned
    obtain ⟨n, _, inner, here, rfl⟩ := scanned
    have := ih here
    simp only [List.length_cons]
    omega
  | case5 => simp at scanned
  | case6 c r _ _ _ _ ih =>
    simp only [consPiece, Option.map_eq_some_iff] at scanned
    obtain ⟨inner, here, rfl⟩ := scanned
    have := ih here
    simp only [List.length_cons]
    omega

theorem dropWhile_length (p : Char → Bool) (cs : List Char) :
    (cs.dropWhile p).length ≤ cs.length := (List.dropWhile_sublist p).length_le

theorem scanDigits_length {cs : List Char} (some_digit : (scanDigits cs).1.isEmpty = false) :
    (scanDigits cs).2.length < cs.length := by
  cases cs with
  | nil => simp [scanDigits] at some_digit
  | cons c cs =>
    have := dropWhile_length Char.isDigit cs
    by_cases digit : c.isDigit = true
    · simp only [scanDigits, List.dropWhile, digit, List.length_cons]
      omega
    · simp [scanDigits, digit] at some_digit

theorem scanWhole_length {cs : List Char} {found : List Nat × List Char}
    (scanned : scanWhole cs = some found) : found.2.length < cs.length := by
  unfold scanWhole at scanned
  split at scanned
  · obtain rfl := Option.some.inj scanned
    simp
  · by_cases none_read : (scanDigits cs).1.isEmpty = true
    · simp [none_read] at scanned
    · simp only [none_read, Bool.false_eq_true, if_false, Option.some.injEq] at scanned
      subst scanned
      exact scanDigits_length (by simpa using none_read)

theorem scanFraction_length {cs : List Char} {found : Option (List Nat) × List Char}
    (scanned : scanFraction cs = some found) : found.2.length ≤ cs.length := by
  unfold scanFraction at scanned
  split at scanned
  · rename_i cs
    by_cases none_read : (scanDigits cs).1.isEmpty = true
    · simp [none_read] at scanned
    · simp only [none_read, Bool.false_eq_true, if_false, Option.some.injEq] at scanned
      subst scanned
      have := dropWhile_length Char.isDigit cs
      simp only [scanDigits, List.length_cons]
      omega
  · obtain rfl := Option.some.inj scanned
    simp

theorem scanSign_length (cs : List Char) : (scanSign cs).2.length ≤ cs.length := by
  unfold scanSign
  split <;> simp

theorem scanExponent_length {cs : List Char} {found : Option (Bool × List Nat) × List Char}
    (scanned : scanExponent cs = some found) : found.2.length ≤ cs.length := by
  unfold scanExponent at scanned
  split at scanned
  · rename_i c cs
    split at scanned
    · by_cases none_read : (scanDigits (scanSign cs).2).1.isEmpty = true
      · simp [none_read] at scanned
      · simp only [none_read, Bool.false_eq_true, if_false, Option.some.injEq] at scanned
        subst scanned
        have := scanSign_length cs
        have := dropWhile_length Char.isDigit (scanSign cs).2
        simp only [scanDigits, List.length_cons]
        omega
    · obtain rfl := Option.some.inj scanned
      simp
  · obtain rfl := Option.some.inj scanned
    simp

theorem scanUnsigned_length {minus : Bool} {cs : List Char} {found : Number × List Char}
    (scanned : scanUnsigned minus cs = some found) : found.2.length < cs.length := by
  simp only [scanUnsigned, bind, Option.bind_eq_some_iff, pure, Option.some.injEq] at scanned
  obtain ⟨w, hw, f, hf, e, he, rfl⟩ := scanned
  have := scanWhole_length hw
  have := scanFraction_length hf
  have := scanExponent_length he
  simp only
  omega

theorem scanNumber_length {cs : List Char} {found : Number × List Char}
    (scanned : scanNumber cs = some found) : found.2.length < cs.length := by
  unfold scanNumber at scanned
  split at scanned
  · have := scanUnsigned_length scanned
    simp only [List.length_cons]
    omega
  · exact scanUnsigned_length scanned

theorem Token.scan_length {cs : List Char} {found : Token × List Char}
    (scanned : Token.scan cs = some found) : found.2.length < cs.length := by
  unfold Token.scan at scanned
  split at scanned
  case h_7 =>
    obtain ⟨r, hr, rfl⟩ := Option.map_eq_some_iff.1 scanned
    have := scanText_length hr
    simp only [List.length_cons]
    omega
  case h_11 =>
    obtain ⟨r, hr, rfl⟩ := Option.map_eq_some_iff.1 scanned
    exact scanNumber_length hr
  all_goals
    obtain rfl := Option.some.inj scanned
    simp only [List.length_cons]
    omega

def tokens (cs : List Char) : Option (List Token) :=
  match cs with
  | [] => some []
  | c :: rest =>
    if isSpace c then tokens rest
    else
      match _scanned : Token.scan (c :: rest) with
      | none => none
      | some (t, after) => (tokens after).map (t :: ·)
termination_by cs.length
decreasing_by
  · simp
  · exact Token.scan_length _scanned

end SchemaEvolution.Json
