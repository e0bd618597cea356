import Mathlib.Data.List.Forall2
import SchemaEvolution.Proofs.Rendering.Plan

/-! From entries to elements. A list of entries that is resolved gives one element for each
   entry, in order, and each bears the name that its entry asks for. -/
namespace SchemaEvolution

/-- How the entries of one kind are resolved and named. -/
structure Resolution (α β : Type) where
  resolve : String → α → Rendered β
  /-- The name that an entry asks for. -/
  asked : String → α → String
  nameOf : β → String
  named : ∀ {key e b}, resolve key e = .ok b → nameOf b = asked key e

theorem ColumnEntry.resolve_name {l : Limits} {table name : String} {e : ColumnEntry} {c : Column}
    (ok : e.resolve l table name = .ok c) : c.name = name := by
  unfold resolve at ok
  split at ok
  · contradiction
  · rw [← Except.ok.inj ok]

theorem IndexEntry.resolve_name {table key : String} {e : IndexEntry} {i : Index}
    (ok : e.resolve table key = .ok i) : i.name = e.resolveName table key := by
  unfold resolve at ok
  split at ok
  · contradiction
  · rw [← Except.ok.inj ok]

theorem ForeignKeyEntry.resolve_name {table key : String} {e : ForeignKeyEntry} {k : ForeignKey}
    (ok : e.resolve table key = .ok k) : k.name = e.resolveName key := by
  unfold resolve at ok
  split at ok
  · contradiction
  · rw [← Except.ok.inj ok]

theorem ConstraintEntry.resolveCheck_name {table key : String} {e : ConstraintEntry}
    {c : CheckConstraint} (ok : e.resolveCheck table key = .ok c) :
    c.name = e.options.resolveName key := by
  unfold resolveCheck at ok
  split at ok
  · contradiction
  · rw [← Except.ok.inj ok]

theorem ConstraintEntry.resolveExclusion_name {table key : String} {e : ConstraintEntry}
    {c : ExclusionConstraint} (ok : e.resolveExclusion table key = .ok c) :
    c.name = e.options.resolveName key := by
  unfold resolveExclusion at ok
  split at ok
  · contradiction
  · rw [← Except.ok.inj ok]

theorem UniqueEntry.resolve_name {table key : String} {e : UniqueEntry} {c : UniqueConstraint}
    (ok : e.resolve table key = .ok c) : c.name = e.options.resolveName key := by
  unfold resolve at ok
  split at ok
  · contradiction
  · rw [← Except.ok.inj ok]

namespace Resolution

def column (l : Limits) (table : String) : Resolution ColumnEntry Column where
  resolve := ColumnEntry.resolve l table
  asked key _ := key
  nameOf := Column.name
  named := ColumnEntry.resolve_name

def index (table : String) : Resolution IndexEntry Index where
  resolve := IndexEntry.resolve table
  asked key e := e.resolveName table key
  nameOf := Index.name
  named := IndexEntry.resolve_name

def foreignKey (table : String) : Resolution ForeignKeyEntry ForeignKey where
  resolve := ForeignKeyEntry.resolve table
  asked key e := e.resolveName key
  nameOf := ForeignKey.name
  named := ForeignKeyEntry.resolve_name

def check (table : String) : Resolution ConstraintEntry CheckConstraint where
  resolve := ConstraintEntry.resolveCheck table
  asked key e := e.options.resolveName key
  nameOf := CheckConstraint.name
  named := ConstraintEntry.resolveCheck_name

def exclusion (table : String) : Resolution ConstraintEntry ExclusionConstraint where
  resolve := ConstraintEntry.resolveExclusion table
  asked key e := e.options.resolveName key
  nameOf := ExclusionConstraint.name
  named := ConstraintEntry.resolveExclusion_name

def unique (table : String) : Resolution UniqueEntry UniqueConstraint where
  resolve := UniqueEntry.resolve table
  asked key e := e.options.resolveName key
  nameOf := UniqueConstraint.name
  named := UniqueEntry.resolve_name

/-- One element for each entry, in order, with the name that is asked for. -/
def Gives (r : Resolution α β) (es : List (String × α)) (bs : List β) : Prop :=
  List.Forall₂ (fun e b => r.resolve e.1 e.2 = .ok b ∧ r.nameOf b = r.asked e.1 e.2) es bs

def removedNames [Entry α] (r : Resolution α β) (s : ChangeSet α) : List String :=
  (s.delete.live ++ s.change.live).map fun e => r.asked e.1 e.2

end Resolution

theorem Rendered.forall₂_of_mapM {f : α → Rendered β} {es : List α} {bs : List β}
    (ok : es.mapM f = .ok bs) : List.Forall₂ (fun e b => f e = .ok b) es bs := by
  induction es generalizing bs with
  | nil =>
    obtain rfl : [] = bs := Except.ok.inj ok
    exact .nil
  | cons e es ih =>
    rw [List.mapM_cons] at ok
    obtain ⟨b, first, ok⟩ := bind_ok ok
    obtain ⟨rest, later, ok⟩ := bind_ok ok
    obtain rfl : b :: rest = bs := Except.ok.inj ok
    exact .cons first (ih later)

namespace Resolution

variable [Entry α] (r : Resolution α β)

theorem gives_of_ok {m : Keyed α} {bs : List β} (ok : resolveLive r.resolve m = .ok bs) :
    r.Gives m.live bs := by
  refine (Rendered.forall₂_of_mapM ok).imp ?_
  intro e b resolved
  exact ⟨resolved, r.named resolved⟩

theorem names_of_ok {m : Keyed α} {bs : List β} (ok : resolveLive r.resolve m = .ok bs) :
    (m.resolved r.resolve).map r.nameOf = m.live.map fun e => r.asked e.1 e.2 := by
  have all := Rendered.mapM_ok (h := fun b => [r.nameOf b]) (g := fun e => [r.asked e.1 e.2])
    (fun e b first => by rw [r.named first]) ok
  rw [← resolveLive_ok ok, List.map_eq_flatMap, List.map_eq_flatMap]
  exact all

theorem gives_added {s : ChangeSet α} {bs : List β} (ok : s.resolveAdded r.resolve = .ok bs) :
    r.Gives (s.change.live ++ s.add.live) bs := by
  obtain ⟨changed, first, ok⟩ := Rendered.bind_ok ok
  obtain ⟨new, second, ok⟩ := Rendered.bind_ok ok
  obtain rfl : changed ++ new = bs := Except.ok.inj ok
  exact List.rel_append (r.gives_of_ok first) (r.gives_of_ok second)

end Resolution

end SchemaEvolution
