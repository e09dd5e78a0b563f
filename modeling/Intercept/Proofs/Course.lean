import Mathlib.Logic.Relation

/-!
# Courses of deterministic systems

A system whose next state, if there is one, is a function of its state runs on one course, and
where the course ends nothing follows.

## Main statements

* `Leads.to_end`: whatever lies on a course leads to the end of the course.
-/

namespace Intercept

variable {σ : Type} {next : σ → Option σ} {a b c : σ}

/-- Whether steps lead from one state to another. -/
def Leads (next : σ → Option σ) : σ → σ → Prop :=
  Relation.ReflTransGen fun s s' => next s = some s'

namespace Leads

theorem refl : Leads next a a := Relation.ReflTransGen.refl

theorem step (first : next a = some b) (later : Leads next b c) : Leads next a c :=
  Relation.ReflTransGen.head first later

theorem trans (first : Leads next a b) (later : Leads next b c) : Leads next a c :=
  Relation.ReflTransGen.trans first later

theorem eq_of_last (last : next a = none) (leads : Leads next a b) : b = a := by
  have stuck : ∀ s, ¬ next a = some s := by
    intro s first
    rw [last] at first
    cases first
  exact (Relation.reflTransGen_iff_eq stuck).mp leads

theorem to_end (leads : Leads next a b) (ends : Leads next a c) (last : next c = none) :
    Leads next b c := by
  have unique : Relator.RightUnique fun s s' : σ => next s = some s' := by
    intro s s' s'' one other
    exact Option.some.inj (one.symm.trans other)
  rcases Relation.ReflTransGen.total_of_right_unique unique leads ends with later | earlier
  · exact later
  · obtain rfl := eq_of_last last earlier
    exact refl

end Leads

end Intercept
