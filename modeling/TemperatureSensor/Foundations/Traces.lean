import TemperatureSensor.Foundations.EventSystem

/-
  Systems that are given by the events they may show: a trace
  leads from a state over a list of events to a state. A
  system with a step function follows such a system if each
  of its steps does.

  Main declarations:
    * `Trace`
    * `trace_append` and `trace_cons_split`
    * `Trace.invariant`
    * `exists_trace_of_run`
-/

namespace EventSystem

variable {σ τ α ε : Type}

/- A list of events that leads from one state to another. -/
inductive Trace
    (rel : σ → ε → σ → Prop) :
    σ → List ε → σ → Prop where
| nil (s : σ) : Trace rel s [] s
| cons
    {s t u : σ}
    {event : ε}
    {events : List ε}
    (hFirst : rel s event t)
    (hRest : Trace rel t events u) :
    Trace rel s (event :: events) u

variable {rel : σ → ε → σ → Prop}

theorem trace_append
    {s u : σ}
    {before after : List ε} :
    Trace rel s (before ++ after) u ↔
      ∃ t, Trace rel s before t ∧ Trace rel t after u := by
  induction before generalizing s with
  | nil =>
      constructor
      · intro hTrace
        exact ⟨s, Trace.nil s, hTrace⟩
      · rintro ⟨t, hNone, hTrace⟩
        cases hNone
        exact hTrace
  | cons event before ih =>
      constructor
      · intro hTrace
        cases hTrace with
        | cons hFirst hRest =>
            rcases ih.mp hRest with ⟨t, hBefore, hAfter⟩
            exact ⟨t, Trace.cons hFirst hBefore, hAfter⟩
      · rintro ⟨t, hBefore, hAfter⟩
        cases hBefore with
        | cons hFirst hRest =>
            exact Trace.cons hFirst (ih.mpr ⟨t, hRest, hAfter⟩)

/- The states around an event of a trace. -/
theorem trace_cons_split
    {s u : σ}
    {before after : List ε}
    {event : ε}
    (hTrace : Trace rel s (before ++ event :: after) u) :
    ∃ t t',
      Trace rel s before t ∧
        rel t event t' ∧ Trace rel t' after u := by
  rcases trace_append.mp hTrace with ⟨t, hBefore, hRest⟩
  cases hRest with
  | cons hEvent hAfter =>
      exact ⟨t, _, hBefore, hEvent, hAfter⟩

/- What the events of a trace keep, the trace keeps. -/
theorem Trace.invariant
    {keeps : ε → Prop}
    {P : σ → Prop}
    (hStep :
      ∀ s event t, P s → keeps event → rel s event t → P t)
    {s u : σ}
    {events : List ε}
    (hTrace : Trace rel s events u)
    (hStart : P s)
    (hKeeps : ∀ event ∈ events, keeps event) :
    P u := by
  induction hTrace with
  | nil s => exact hStart
  | cons hFirst hRest ih =>
      rcases List.forall_mem_cons.mp hKeeps with
        ⟨hHead, hTail⟩
      exact ih (hStep _ _ _ hStart hHead hFirst) hTail

/-
  If every step of a system is matched by a trace of its
  event, the events of every run are a trace.
-/
theorem exists_trace_of_run
    {step : σ → α → Option (σ × Option ε)}
    {rel : τ → ε → τ → Prop}
    {R : σ → τ → Prop}
    (hStep :
      ∀ s t a s' event, R s t →
        step s a = some (s', event) →
          ∃ t', Trace rel t event.toList t' ∧ R s' t')
    {s s' : σ}
    {t : τ}
    {actions : List α}
    {events : List ε}
    (hStart : R s t)
    (hRun : run step s actions = some (s', events)) :
    ∃ t', Trace rel t events t' ∧ R s' t' := by
  induction actions generalizing s t events with
  | nil =>
      cases hRun
      exact ⟨t, Trace.nil t, hStart⟩
  | cons a actions ih =>
      rcases run_cons_eq_some.mp hRun with
        ⟨u, event, later, hFirst, hRest, rfl⟩
      rcases hStep s t a u event hStart hFirst with
        ⟨v, hEvent, hNext⟩
      rcases ih hNext hRest with ⟨t', hLater, hEnd⟩
      exact ⟨t', trace_append.mpr ⟨v, hEvent, hLater⟩, hEnd⟩

end EventSystem
