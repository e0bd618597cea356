import SchemaEvolution.Sql.Quote

/-! What a database reads where something was quoted. Whatever a name or a string contains, it
   is read back as it was, and what follows it is left for the next token. -/
namespace SchemaEvolution.Sql

/-- What a backslash makes of the character after it. A wildcard keeps its backslash. -/
def unescaped (c : Char) : List Char :=
  if c = '0' then ['\x00']
  else if c = 'b' then ['\x08']
  else if c = 'n' then ['\n']
  else if c = 'r' then ['\r']
  else if c = 't' then ['\t']
  else if c = 'Z' then ['\x1a']
  else if c = '%' ∨ c = '_' then ['\\', c]
  else [c]

/-- Reads up to the mark that closes a quoted text: a mark that stands alone. Two marks in a
   row stand for one. -/
def readBody (mark : Char) (escapes : Bool) : List Char → Option (List Char × List Char)
  | [] => none
  | c :: rest =>
    if c = mark then
      match rest with
      | d :: more =>
        if d = mark then (readBody mark escapes more).map (Prod.map (mark :: ·) id)
        else some ([], d :: more)
      | [] => some ([], [])
    else if escapes && c = '\\' then
      match rest with
      | d :: more => (readBody mark escapes more).map (Prod.map (unescaped d ++ ·) id)
      | [] => none
    else (readBody mark escapes rest).map (Prod.map (c :: ·) id)

def readQuoted (mark : Char) (escapes : Bool) : List Char → Option (String × List Char)
  | [] => none
  | c :: rest =>
    if c = mark then (readBody mark escapes rest).map (Prod.map String.ofList id) else none

def readIdentifier (a : Adapter) : List Char → Option (String × List Char) :=
  readQuoted (identifierMark a) false

/-- Only MySQL knows escapes. -/
def readLiteral (a : Adapter) : List Char → Option (String × List Char) :=
  readQuoted literalMark a.isMysql

theorem exists_of_map {f : α → β} {read : Option (α × List Char)} {v : β} {rest : List Char}
    (mapped : read.map (Prod.map f id) = some (v, rest)) : ∃ w, read = some (w, rest) := by
  obtain ⟨⟨w, left⟩, found, same⟩ := Option.map_eq_some_iff.mp mapped
  obtain ⟨_, rfl⟩ := Prod.mk.inj same
  exact ⟨w, found⟩

theorem readBody_shorter {mark : Char} {escapes : Bool} {cs value rest : List Char}
    (read : readBody mark escapes cs = some (value, rest)) : rest.length < cs.length := by
  fun_induction readBody mark escapes cs generalizing value with
  | case1 => contradiction
  | case2 more ih =>
    obtain ⟨_, inner⟩ := exists_of_map read
    have shorter := ih inner
    simp only [List.length_cons]
    omega
  | case3 d more other =>
    obtain ⟨_, rfl⟩ := Prod.mk.inj (Option.some.inj read)
    exact Nat.lt_succ_self _
  | case4 =>
    obtain ⟨_, rfl⟩ := Prod.mk.inj (Option.some.inj read)
    exact Nat.lt_succ_self _
  | case5 c other escape d more ih =>
    obtain ⟨_, inner⟩ := exists_of_map read
    have shorter := ih inner
    simp only [List.length_cons]
    omega
  | case6 => contradiction
  | case7 c more other plain ih =>
    obtain ⟨_, inner⟩ := exists_of_map read
    exact Nat.lt_succ_of_lt (ih inner)

theorem readIdentifier_shorter {a : Adapter} {cs rest : List Char} {name : String}
    (read : readIdentifier a cs = some (name, rest)) : rest.length < cs.length := by
  unfold readIdentifier readQuoted at read
  split at read
  · contradiction
  · split at read
    · obtain ⟨_, inner⟩ := exists_of_map read
      exact Nat.lt_succ_of_lt (readBody_shorter inner)
    · contradiction

def readNames (a : Adapter) (cs : List Char) : Option (List String × List Char) :=
  match _read : readIdentifier a cs with
  | none => none
  | some (name, rest) =>
    if rest.head? = some ',' then
      (readNames a (rest.tail.dropWhile (· = ' '))).map (Prod.map (name :: ·) id)
    else some ([name], rest)
termination_by cs.length
decreasing_by
  have shorter := readIdentifier_shorter _read
  have dropped := (List.dropWhile_sublist (· = ' ') (l := rest.tail)).length_le
  rw [List.length_tail] at dropped
  omega

def readColumns (a : Adapter) (cs : List Char) : Option (List String × List Char) :=
  if cs.head? = some (identifierMark a) then readNames a cs else some ([], cs)

/- Reading back. -/

section Enclosed

variable {mark : Char} {escapes : Bool} {twice : Char → Bool} {rest : List Char}

theorem doubled_cons (twice : Char → Bool) (c : Char) (cs : List Char) :
    doubled twice (c :: cs) = (if twice c then [c, c] else [c]) ++ doubled twice cs :=
  List.flatMap_cons

/-- Doubling characters of two kinds, one after the other, can be done at once. -/
theorem doubled_doubled {first second : Char → Bool}
    (apart : ∀ c, first c = true → second c = false) (cs : List Char) :
    doubled second (doubled first cs) = doubled (fun c => second c || first c) cs := by
  induction cs with
  | nil => rfl
  | cons c cs ih =>
    rw [doubled_cons, doubled_append, doubled_cons, ih]
    cases kind : first c with
    | true => simp [doubled, apart c kind]
    | false => simp [doubled]

theorem readBody_doubled (twice_iff : ∀ c, twice c = (c = mark || (escapes && c = '\\')))
    (ends : rest.head? ≠ some mark) (cs : List Char) :
    readBody mark escapes (doubled twice cs ++ mark :: rest) = some (cs, rest) := by
  -- A pair gives one character back, and every other character stands for itself.
  induction cs with
  | nil =>
    cases rest with
    | nil => simp [doubled, readBody]
    | cons d rest =>
      have apart : d ≠ mark := fun same => ends (congrArg some same)
      simp [doubled, readBody, apart]
  | cons c cs ih =>
    rw [doubled_cons, twice_iff]
    by_cases quote : c = mark
    · simp [quote, readBody, ih]
    · by_cases escape : escapes && c = '\\'
      · obtain ⟨rfl, rfl⟩ : escapes = true ∧ c = '\\' := by simpa using escape
        have kept : unescaped '\\' = ['\\'] := rfl
        simp [readBody, quote, ih, kept]
      · rw [readBody.eq_def]
        simp [quote, escape, ih]

theorem readQuoted_enclosed (twice_iff : ∀ c, twice c = (c = mark || (escapes && c = '\\')))
    (ends : rest.head? ≠ some mark) (s : String) :
    readQuoted mark escapes ((enclosed mark (doubled twice s.toList)).toList ++ rest) =
      some (s, rest) := by
  simp [enclosed, readQuoted, readBody_doubled twice_iff ends]

end Enclosed

theorem readIdentifier_quoted (a : Adapter) (name : String) {rest : List Char}
    (ends : rest.head? ≠ some (identifierMark a)) :
    readIdentifier a ((quoteIdentifier a name).toList ++ rest) = some (name, rest) :=
  readQuoted_enclosed (fun _ => (Bool.or_false _).symm) ends name

theorem quoteString_eq (a : Adapter) (s : String) :
    quoteString a s =
      enclosed literalMark
        (doubled (fun c => c = literalMark || (a.isMysql && c = '\\')) s.toList) := by
  have apart (c : Char) (backslash : decide (c = '\\') = true) :
      decide (c = literalMark) = false := by
    rw [of_decide_eq_true backslash]
    rfl
  unfold quoteString escapeBackslashes
  cases a.isMysql with
  | true => simp [doubled_doubled apart]
  | false => simp

theorem readLiteral_quoted (a : Adapter) (s : String) {rest : List Char}
    (ends : rest.head? ≠ some literalMark) :
    readLiteral a ((quoteString a s).toList ++ rest) = some (s, rest) := by
  rw [quoteString_eq]
  exact readQuoted_enclosed (fun _ => rfl) ends s

theorem head?_quoted (a : Adapter) (name : String) (rest : List Char) :
    ((quoteIdentifier a name).toList ++ rest).head? = some (identifierMark a) := by
  simp [quoteIdentifier, enclosed]

theorem toList_columnList_cons (a : Adapter) (name next : String) (names : List String) :
    (columnList a (name :: next :: names)).toList =
      (quoteIdentifier a name).toList ++ ',' :: ' ' :: (columnList a (next :: names)).toList := by
  simp [columnList, String.toList_intercalate]

/-- Neither the mark of a name nor a comma. -/
def EndsNames (a : Adapter) (rest : List Char) : Prop :=
  rest.head? ≠ some (identifierMark a) ∧ rest.head? ≠ some ','

theorem head?_columnList (a : Adapter) (name : String) (names : List String) (rest : List Char) :
    ((columnList a (name :: names)).toList ++ rest).head? = some (identifierMark a) := by
  cases names with
  | nil => exact head?_quoted a name rest
  | cons next names =>
    rw [toList_columnList_cons, List.append_assoc]
    exact head?_quoted a name _

theorem readNames_of_read {a : Adapter} {cs rest : List Char} {name : String}
    (read : readIdentifier a cs = some (name, rest)) :
    readNames a cs =
      if rest.head? = some ',' then
        (readNames a (rest.tail.dropWhile (· = ' '))).map (Prod.map (name :: ·) id)
      else some ([name], rest) := by
  rw [readNames]
  split
  next none => exact nomatch read.symm.trans none
  next found =>
    obtain ⟨rfl, rfl⟩ := Prod.mk.inj (Option.some.inj (read.symm.trans found))
    rfl

theorem identifierMark_apart (a : Adapter) : identifierMark a ≠ ',' ∧ identifierMark a ≠ ' ' := by
  cases a <;> decide

theorem readNames_columnList (a : Adapter) {rest : List Char} (ends : EndsNames a rest)
    (name : String) (names : List String) :
    readNames a ((columnList a (name :: names)).toList ++ rest) = some (name :: names, rest) := by
  obtain ⟨noComma, noBlank⟩ := identifierMark_apart a
  induction names generalizing name with
  | nil =>
    have last : readIdentifier a ((columnList a [name]).toList ++ rest) = some (name, rest) :=
      readIdentifier_quoted a name ends.1
    rw [readNames_of_read last, if_neg ends.2]
  | cons next names ih =>
    let others := (columnList a (next :: names)).toList ++ rest
    -- A comma follows the name, so its closing mark is not read as the first of a pair.
    have comma : (',' :: ' ' :: others).head? ≠ some (identifierMark a) := fun same =>
      noComma (Option.some.inj same).symm
    have read : readIdentifier a ((columnList a (name :: next :: names)).toList ++ rest) =
        some (name, ',' :: ' ' :: others) := by
      rw [toList_columnList_cons, List.append_assoc]
      exact readIdentifier_quoted a name comma
    have solid : (' ' :: others).dropWhile (· = ' ') = others := by
      obtain ⟨more, begins⟩ := List.head?_eq_some_iff.mp (head?_columnList a next names rest)
      simp [others, begins, noBlank]
    rw [readNames_of_read read, if_pos (by rfl), List.tail_cons, solid, ih]
    rfl

theorem readColumns_columnList (a : Adapter) {rest : List Char} (ends : EndsNames a rest)
    (names : List String) :
    readColumns a ((columnList a names).toList ++ rest) = some (names, rest) := by
  unfold readColumns
  cases names with
  | nil => exact if_neg ends.1
  | cons name names =>
    rw [if_pos (head?_columnList a name names rest), readNames_columnList a ends]

theorem injective_of_read {write : α → String} {read : List Char → Option (α × List Char)}
    (back : ∀ x, read ((write x).toList ++ []) = some (x, [])) : Function.Injective write := by
  intro x y same
  have both := (back x).symm.trans (same ▸ back y)
  exact congrArg Prod.fst (Option.some.inj both)

/-- Names, strings and lists of names are read back whatever they contain, up to where they
    end and no further. None is ever written like another. -/
theorem quoted_reads_back (a : Adapter) :
    ((∀ name rest, rest.head? ≠ some (identifierMark a) →
        readIdentifier a ((quoteIdentifier a name).toList ++ rest) = some (name, rest)) ∧
      ∀ s rest, rest.head? ≠ some literalMark →
        readLiteral a ((literal a (.string s)).toList ++ rest) = some (s, rest)) ∧
    (∀ names rest, EndsNames a rest →
      readColumns a ((columnList a names).toList ++ rest) = some (names, rest)) ∧
    Function.Injective (quoteIdentifier a) ∧
    Function.Injective (fun s => literal a (.string s)) ∧
    Function.Injective (columnList a) := by
  have identifiers (name : String) (rest : List Char)
      (ends : rest.head? ≠ some (identifierMark a)) := readIdentifier_quoted a name ends
  have literals (s : String) (rest : List Char) (ends : rest.head? ≠ some literalMark) :=
    readLiteral_quoted a s ends
  have lists (names : List String) (rest : List Char) (ends : EndsNames a rest) :=
    readColumns_columnList a ends names
  have ended (mark : Char) : ([] : List Char).head? ≠ some mark := nofun
  refine ⟨⟨identifiers, literals⟩, lists, ?_, ?_, ?_⟩
  · exact injective_of_read fun name => identifiers name [] (ended _)
  · exact injective_of_read fun s => literals s [] (ended _)
  · exact injective_of_read fun names => lists names [] ⟨ended _, ended _⟩

/-- If a backslash before the closing mark were not doubled, the mark would close nothing. -/
example : readLiteral .mysql ['\x27', '\\', '\x27', ')'] = none ∧
    readLiteral .sqlite ['\x27', '\\', '\x27', ')'] = some ("\\", [')']) := by
  decide +kernel

end SchemaEvolution.Sql
