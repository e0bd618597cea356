import SchemaEvolution.Json.Field
import SchemaEvolution.Proofs.Keyed

/-! Records written with some of their fields left out, and how a reader finds in them
   what was put there and the default for what was not. -/
namespace SchemaEvolution.Json

variable {α β : Type}

def filled (slots : List (String × Option Json)) : List (String × Json) :=
  slots.flatMap fun s => present s.1 s.2

@[simp] theorem filled_nil : filled [] = [] := rfl

@[simp] theorem filled_cons (key : String) (x : Option Json)
    (slots : List (String × Option Json)) :
    filled ((key, x) :: slots) = present key x ++ filled slots := rfl

def setFlag (b : Bool) : Option Json := if b then some (.bool true) else none

theorem flagged_eq_present (key : String) (b : Bool) :
    flagged key b = present key (setFlag b) := by
  cases b <;> rfl

theorem keys_present (key : String) (x : Option Json) :
    ((present key x).map Prod.fst).Sublist [key] := by
  cases x with
  | none => exact List.nil_sublist _
  | some v => exact List.Sublist.refl _

theorem keys_filled (slots : List (String × Option Json)) :
    ((filled slots).map Prod.fst).Sublist (slots.map Prod.fst) := by
  induction slots with
  | nil => exact List.Sublist.refl _
  | cons s slots ih =>
    rw [filled_cons, List.map_append]
    exact (keys_present s.1 s.2).append ih

theorem lookup_present (key k : String) (x : Option Json) :
    Keyed.lookup key (present k x) = if k = key then x else none := by
  cases x <;> simp [present, Keyed.lookup]

theorem lookup_filled {slots : List (String × Option Json)}
    (distinct : (slots.map Prod.fst).Nodup) (key : String) :
    Keyed.lookup key (filled slots) = (Keyed.lookup key slots).join := by
  induction slots with
  | nil => rfl
  | cons s slots ih =>
    simp only [List.map_cons, List.nodup_cons] at distinct
    rw [filled_cons, Keyed.lookup_append, lookup_present, ih distinct.2]
    by_cases here : s.1 = key
    · subst here
      have others := Keyed.lookup_eq_none_iff.mpr distinct.1
      simp [Keyed.lookup, others]
    · simp [Keyed.lookup, here]

theorem mapM_eq_map {f : α → Option β} {g : α → β} {xs : List α}
    (gives : ∀ a ∈ xs, f a = some (g a)) : xs.mapM f = some (xs.map g) := by
  induction xs with
  | nil => rfl
  | cons a xs ih =>
    have rest := ih fun b member => gives b (List.mem_cons_of_mem _ member)
    simp [List.mapM_cons, gives a List.mem_cons_self, rest]

theorem mapM_map {r : β → Option α} {w : α → β} {xs : List α} (back : ∀ a ∈ xs, r (w a) = some a) :
    (xs.map w).mapM r = some xs := by
  rw [List.mapM_map, mapM_eq_map (f := r ∘ w) (g := id) back, List.map_id]

theorem of_mem_mapM {r : β → Option α} {P : α → Prop} {ys : List β} {xs : List α}
    (sound : ∀ y a, r y = some a → P a) (read : ys.mapM r = some xs) : ∀ a ∈ xs, P a := by
  induction ys generalizing xs with
  | nil =>
    obtain rfl : [] = xs := by simpa using read
    simp
  | cons y ys ih =>
    simp only [List.mapM_cons, Option.bind_eq_bind, Option.bind_eq_some_iff, Option.pure_def,
      Option.some.injEq] at read
    obtain ⟨a, here, rest, later, rfl⟩ := read
    exact List.forall_mem_cons.mpr ⟨sound y a here, ih later⟩

abbrev Slots := Keyed (Option Json)

/-- The record with the empty slots left out. -/
def Slots.document (s : Slots) : Json := record (filled s.entries)

def Slots.fields (s : Slots) (depth : Nat) : Fields := ⟨depth, filled s.entries⟩

theorem knownMembers_filled (s : Slots) :
    knownMembers s.keys ((filled s.entries).map fun m => (some m.1, m.2)) =
      some (filled s.entries) := by
  have keyed : ((filled s.entries).map fun m => ((some m.1 : Option String), m.2)).mapM
      (fun m => m.1.map fun k => (k, m.2)) = some (filled s.entries) :=
    mapM_map fun _ _ => rfl
  have known : (filled s.entries).filter (fun m => s.keys.contains m.1) = filled s.entries := by
    refine List.filter_eq_self.mpr fun m member => ?_
    have key : m.1 ∈ s.keys := (keys_filled s.entries).subset (List.mem_map_of_mem member)
    simpa using key
  have nodup := s.distinct.sublist (keys_filled s.entries)
  simp only [knownMembers, keyed, Option.bind_eq_bind, Option.bind_some, known, if_pos nodup]

theorem enter_of_lt {depth : Nat} (shallow : depth < depthLimit) :
    enter depth = some (depth + 1) := if_pos shallow

theorem readFields_document {s : Slots} {names : List String} {depth : Nat}
    (same : s.keys = names) (shallow : depth < depthLimit) :
    readFields names depth s.document = some (s.fields (depth + 1)) := by
  subst same
  simp [readFields, Slots.document, Slots.fields, record, enter_of_lt shallow,
    knownMembers_filled]

/-- What is read from a slot: its value, or the default of an empty one. -/
def readSlot (r : Reader α) (default : α) (depth : Nat) : Option Json → Option α
  | some j => r depth j
  | none => some default

@[simp] theorem Slots.getD_fields (s : Slots) (depth : Nat) (key : String) (r : Reader α)
    (default : α) :
    (s.fields depth).getD key r default = readSlot r default depth (s.get? key).join := by
  rw [Fields.getD, Fields.get?, Slots.fields, lookup_filled s.distinct, ← Keyed.get?]
  cases (s.get? key).join <;> rfl

@[simp] theorem Slots.optional_fields (s : Slots) (depth : Nat) (key : String) (r : Reader α) :
    (s.fields depth).optional key r =
      readSlot (readOption r) none depth (s.get? key).join := s.getD_fields ..

@[simp] theorem Slots.require_fields (s : Slots) (depth : Nat) (key : String) (r : Reader α) :
    (s.fields depth).require key r = (s.get? key).join.bind (r depth) := by
  rw [Fields.require, Fields.get?, Slots.fields, lookup_filled s.distinct, ← Keyed.get?]

theorem Fields.of_getD {P : α → Prop} {fs : Fields} {key : String} {r : Reader α}
    {default a : α} (sound : ∀ depth j b, r depth j = some b → P b) (initially : P default)
    (read : fs.getD key r default = some a) : P a := by
  rw [Fields.getD] at read
  split at read
  · exact sound _ _ _ read
  · exact Option.some.inj read ▸ initially

theorem of_readOption {P : α → Prop} {r : Reader α} {depth : Nat} {j : Json} {v : Option α}
    (sound : ∀ depth j b, r depth j = some b → P b) (read : readOption r depth j = some v) :
    ∀ a ∈ v, P a := by
  unfold readOption at read
  split at read
  · simp [← Option.some.inj read]
  · obtain ⟨b, here, rfl⟩ := Option.map_eq_some_iff.mp read
    simpa using sound _ _ b here

theorem Fields.of_optional {P : α → Prop} {fs : Fields} {key : String} {r : Reader α}
    {v : Option α} (sound : ∀ depth j b, r depth j = some b → P b)
    (read : fs.optional key r = some v) : ∀ a ∈ v, P a :=
  Fields.of_getD (fun _ _ _ => of_readOption sound) (by simp) read

@[simp] theorem readString_ofString (depth : Nat) (s : String) :
    readString depth (ofString s) = some s := rfl

theorem readSlot_option {r : Reader α} {w : α → Json} {depth : Nat} {v : Option α}
    (back : ∀ a ∈ v, r depth (w a) = some a) (valued : ∀ a, w a ≠ .null) :
    readSlot (readOption r) none depth (v.map w) = some v := by
  cases v with
  | none => rfl
  | some a =>
    have read := back a rfl
    have value := valued a
    simp only [Option.map_some, readSlot]
    unfold readOption
    split
    · contradiction
    · rw [read, Option.map_some]

@[simp] theorem readSlot_string (depth : Nat) (v : Option String) :
    readSlot (readOption readString) none depth (v.map ofString) = some v :=
  readSlot_option (fun _ _ => rfl) fun _ same => nomatch same

@[simp] theorem readSlot_bool (depth : Nat) (v : Option Bool) :
    readSlot (readOption readBool) none depth (v.map .bool) = some v :=
  readSlot_option (fun _ _ => rfl) fun _ same => nomatch same

@[simp] theorem readSlot_flag (depth : Nat) (b : Bool) :
    readSlot readBool false depth (setFlag b) = some b := by
  cases b <;> rfl

@[simp] theorem readSlot_some (r : Reader α) (default : α) (depth : Nat) (j : Json) :
    readSlot r default depth (some j) = r depth j := rfl

theorem bind_slot {s : Slots} {depth : Nat} {key : String} {r : Reader α} {default a : α}
    {x : Option Json} {next : α → Option β} (held : s.get? key = some x)
    (read : readSlot r default depth x = some a) :
    ((s.fields depth).getD key r default).bind next = next a := by
  rw [s.getD_fields, held, Option.join_some, read, Option.bind_some]

end SchemaEvolution.Json
