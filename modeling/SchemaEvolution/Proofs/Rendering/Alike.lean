import Mathlib.Data.List.Forall2
import SchemaEvolution.Rendering

/-! Comparing two renderings: both fail the same way, or both succeed with results
   that are related. -/
namespace SchemaEvolution

inductive Alike (r : α → β → Prop) : Rendered α → Rendered β → Prop
  | ok {a : α} {b : β} (related : r a b) : Alike r (.ok a) (.ok b)
  | error (f : Failure) : Alike r (.error f) (.error f)

namespace Alike

theorem bind {r : α → β → Prop} {q : γ → δ → Prop} {x : Rendered α} {y : Rendered β}
    {f : α → Rendered γ} {g : β → Rendered δ} (start : Alike r x y)
    (next : ∀ a b, r a b → Alike q (f a) (g b)) : Alike q (x >>= f) (y >>= g) := by
  cases start with
  | ok related => exact next _ _ related
  | error f => exact .error f

theorem bind_same {q : γ → δ → Prop} {x : Rendered α} {f : α → Rendered γ} {g : α → Rendered δ}
    (next : ∀ a, Alike q (f a) (g a)) : Alike q (x >>= f) (x >>= g) := by
  cases x with
  | ok a => exact next a
  | error f => exact .error f

theorem mapM {r : β → γ → Prop} {f : α → Rendered β} {g : α → Rendered γ} (es : List α)
    (each : ∀ e ∈ es, Alike r (f e) (g e)) :
    Alike (List.Forall₂ r) (es.mapM f) (es.mapM g) := by
  induction es with
  | nil => exact .ok .nil
  | cons e es ih =>
    rw [List.mapM_cons, List.mapM_cons]
    refine bind (each e (by simp)) fun a b first => ?_
    refine bind (ih fun x member => each x (by simp [member])) fun as bs rest => ?_
    exact .ok (.cons first rest)

theorem map_eq {r : α → β → Prop} {x : Rendered α} {y : Rendered β} {f : α → γ} {g : β → γ}
    (alike : Alike r x y) (same : ∀ a b, r a b → f a = g b) : x.map f = y.map g := by
  cases alike with
  | ok related => exact congrArg Except.ok (same _ _ related)
  | error f => rfl

theorem map_eq_of_ok {r : α → β → Prop} {x : Rendered α} {y : Rendered β} {f : α → γ} {g : β → γ}
    (alike : Alike r x y) (same : ∀ a b, x = .ok a → y = .ok b → f a = g b) :
    x.map f = y.map g := by
  cases alike with
  | ok related => exact congrArg Except.ok (same _ _ rfl rfl)
  | error f => rfl

end Alike

end SchemaEvolution
