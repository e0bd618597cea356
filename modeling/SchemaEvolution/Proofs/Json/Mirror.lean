import SchemaEvolution.Delta.Writer
import SchemaEvolution.Proofs.Json.Slots

/-! What is written from a value is read back as that value: the law for single values,
   and how lists and maps of them inherit it. -/
namespace SchemaEvolution.Json

variable {α : Type} {r : Reader α} {w : α → Json} {levels : Nat} {Good : α → Prop}

/-- Only good values are read, and a good one is read back from what is written for it,
    wherever that many containers more are allowed. -/
structure Mirrors (r : Reader α) (w : α → Json) (levels : Nat) (Good : α → Prop) : Prop where
  sound : ∀ depth j a, r depth j = some a → Good a
  back : ∀ a, Good a → ∀ depth, depth + levels ≤ depthLimit → r depth (w a) = some a

abbrev Any (_ : α) : Prop := True

theorem Mirrors.ofBack (back : ∀ a depth, depth + levels ≤ depthLimit → r depth (w a) = some a) :
    Mirrors r w levels Any := ⟨fun _ _ _ _ => trivial, fun a _ => back a⟩

theorem mirrors_string : Mirrors readString ofString 0 Any := .ofBack fun _ _ _ => rfl

theorem Mirrors.list (mirror : Mirrors r w levels Good) :
    Mirrors (readList r) (ofList w) (levels + 1) (∀ a ∈ ·, Good a) where
  sound depth j as read := by
    unfold readList at read
    split at read
    · obtain ⟨inner, -, items⟩ := Option.bind_eq_some_iff.mp read
      exact of_mem_mapM (mirror.sound inner) items
    · simp at read
  back as good depth shallow := by
    have inner : enter depth = some (depth + 1) := enter_of_lt (by omega)
    simp only [ofList, readList, inner, Option.bind_some]
    exact mapM_map fun a member => mirror.back a (good a member) (depth + 1) (by omega)

theorem readMember_some (r : Reader α) (depth : Nat) (key : String) (j : Json) :
    readMember r depth (some key, j) = (r depth j).map fun a => (key, a) := by
  cases read : r depth j <;> simp [readMember, read]

theorem of_readMember {depth : Nat} {m : Option String × Json} {e : String × α}
    (read : readMember r depth m = some e) : r depth m.2 = some e.2 := by
  simp only [readMember, Option.bind_eq_bind, Option.bind_eq_some_iff, Option.pure_def,
    Option.some.injEq] at read
  obtain ⟨key, -, a, value, rfl⟩ := read
  exact value

theorem Mirrors.keyed (mirror : Mirrors r w levels Good) :
    Mirrors (readKeyed r) (ofKeyed w) (levels + 1) (∀ a ∈ ·.values, Good a) where
  sound depth j m read := by
    unfold readKeyed at read
    split at read
    · rename_i ms
      simp only [Option.bind_eq_bind, Option.bind_eq_some_iff, Option.pure_def,
        Option.some.injEq] at read
      obtain ⟨inner, -, es, members, rfl⟩ := read
      have good : ∀ e ∈ es, Good e.2 :=
        of_mem_mapM (P := fun e => Good e.2)
          (fun m e here => mirror.sound inner m.2 e.2 (of_readMember here)) members
      intro a member
      obtain ⟨e, held, rfl⟩ := List.mem_map.mp member
      exact (Keyed.mem_insertAll held).elim (good e) fun none_before => nomatch none_before
    · simp at read
  back m good depth shallow := by
    have inner : enter depth = some (depth + 1) := enter_of_lt (by omega)
    -- Every member is read back on its own, one level further down.
    have members : ((m.entries.map fun e => ((some e.1 : Option String), w e.2)).mapM
        (readMember r (depth + 1))) = some m.entries := by
      refine mapM_map fun e member => ?_
      have value := mirror.back e.2 (good e.2 (List.mem_map_of_mem member)) (depth + 1) (by omega)
      simp [readMember_some, value]
    simp only [ofKeyed, record, readKeyed, inner, List.map_map, Function.comp_def, members,
      Option.bind_eq_bind, Option.bind_some, Option.pure_def, Keyed.ofList_entries]

end SchemaEvolution.Json
