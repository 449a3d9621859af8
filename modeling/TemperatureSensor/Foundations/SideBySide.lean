import Mathlib.Data.List.Forall2
import TemperatureSensor.Foundations.CheckedLoop
import TemperatureSensor.Foundations.EventSystem

/-
  Two computations side by side: faulting computations and
  loops that keep a relation, and systems of which one does
  what the other does with other actions.

  Main declarations:
    * `rel_bind` and `rel_ite`
    * `forEach_rel`
    * `exists_run_of_simulation`
-/

------------------------------------------------------------
-- Computations
------------------------------------------------------------

namespace SideBySide

variable {σ τ ι α β γ δ : Type}

theorem rel_bind
    {R : α → β → Prop}
    {S : γ → δ → Prop}
    {x : Option α} {y : Option β}
    {f : α → Option γ} {g : β → Option δ}
    (hFirst : Option.Rel R x y)
    (hRest : ∀ a b, R a b → Option.Rel S (f a) (g b)) :
    Option.Rel S (x.bind f) (y.bind g) := by
  cases hFirst with
  | none => exact Option.Rel.none
  | some hRelated => exact hRest _ _ hRelated

theorem rel_mono
    {R S : α → β → Prop}
    (hWeaker : ∀ a b, R a b → S a b)
    {x : Option α} {y : Option β}
    (hRel : Option.Rel R x y) :
    Option.Rel S x y := by
  cases hRel with
  | none => exact Option.Rel.none
  | some hRelated => exact Option.Rel.some (hWeaker _ _ hRelated)

/- The first parts may be one computation. -/
theorem rel_bind_same
    {S : γ → δ → Prop}
    (x : Option α)
    {f : α → Option γ} {g : α → Option δ}
    (hRest : ∀ a, Option.Rel S (f a) (g a)) :
    Option.Rel S (x.bind f) (x.bind g) := by
  cases x with
  | none => exact Option.Rel.none
  | some a => exact hRest a

theorem rel_ite
    {R : α → β → Prop}
    {c : Prop} [Decidable c]
    {x x' : Option α} {y y' : Option β}
    (hThen : c → Option.Rel R x y)
    (hElse : ¬ c → Option.Rel R x' y') :
    Option.Rel R (if c then x else x')
      (if c then y else y') := by
  split
  · next hHolds => exact hThen hHolds
  · next hFails => exact hElse hFails

/- A loop keeps what its body keeps. -/
theorem forEach_rel
    {body : σ → ι → Option σ}
    {body' : τ → ι → Option τ}
    {R : σ → τ → Prop}
    (hBody :
      ∀ s t i, R s t → Option.Rel R (body s i) (body' t i))
    {l : List ι}
    {s : σ} {t : τ}
    (hStart : R s t) :
    Option.Rel R (CheckedLoop.forEach body l s)
      (CheckedLoop.forEach body' l t) := by
  induction l generalizing s t with
  | nil => exact Option.Rel.some hStart
  | cons i l ih =>
      exact
        rel_bind (hBody s t i hStart)
          (fun s' t' hNext => ih hNext)

/- What succeeds on one side succeeds on the other. -/
theorem exists_of_rel
    {R : α → β → Prop}
    {x : Option α} {y : Option β}
    {a : α}
    (hRel : Option.Rel R x y)
    (hLeft : x = some a) :
    ∃ b, y = some b ∧ R a b := by
  subst hLeft
  cases hRel with
  | some hRelated => exact ⟨_, rfl, hRelated⟩

------------------------------------------------------------
-- Systems
------------------------------------------------------------

variable {ε ε' : Type}
variable {step : σ → α → Option (σ × Option ε)}
variable {step' : τ → β → Option (τ × Option ε)}

/-
  If every step of one system is matched by a run of the
  other that is observed alike, so is every run.
-/
theorem exists_run_of_simulation
    (R : σ → τ → Prop)
    (replaces : α → List β → Prop)
    (observe : ε → Option ε')
    (hStep :
      ∀ s t a s' event, R s t →
        step s a = some (s', event) →
          ∃ actions t' events,
            replaces a actions ∧
              EventSystem.run step' t actions =
                  some (t', events) ∧
                event.toList.filterMap observe =
                    events.filterMap observe ∧
                  R s' t')
    {s s' : σ} {t : τ}
    {actions : List α}
    {events : List ε}
    (hStart : R s t)
    (hRun :
      EventSystem.run step s actions = some (s', events)) :
    ∃ parts t' events',
      List.Forall₂ replaces actions parts ∧
        EventSystem.run step' t parts.flatten =
            some (t', events') ∧
          events.filterMap observe =
              events'.filterMap observe ∧
            R s' t' := by
  induction actions generalizing s t events with
  | nil =>
      cases hRun
      exact ⟨[], t, [], List.Forall₂.nil, rfl, rfl, hStart⟩
  | cons a actions ih =>
      rcases EventSystem.run_cons_eq_some.mp hRun with
        ⟨u, event, later, hFirst, hRest, rfl⟩
      rcases hStep s t a u event hStart hFirst with
        ⟨part, v, before, hReplaces, hPart, hObserved, hNext⟩
      rcases ih hNext hRest with
        ⟨parts, t', after, hParts, hRun', hObserved', hEnd⟩
      refine
        ⟨part :: parts, t', before ++ after,
          List.Forall₂.cons hReplaces hParts, ?_, ?_, hEnd⟩
      · rw [List.flatten_cons]
        exact
          EventSystem.run_append.mpr
            ⟨v, before, after, hPart, hRun', rfl⟩
      · rw [List.filterMap_append, List.filterMap_append,
          hObserved, hObserved']

end SideBySide
