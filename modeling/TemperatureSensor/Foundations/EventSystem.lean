import Mathlib.Data.List.Basic

/-
  Systems with a partial step function: a step consumes an
  action and may emit one event. A run is a list of actions
  that are all enabled, together with the emitted events.

  Main declarations:
    * `run`
    * `run_append`
    * `record`
    * `Along` and `run_invariant_along`
    * `run_invariant`
    * `exists_step_of_event` and `event_of_exists_step`
    * `Since`
-/

------------------------------------------------------------
-- Runs
------------------------------------------------------------

namespace EventSystem

variable {σ α ε : Type}
variable {step : σ → α → Option (σ × Option ε)}

/- The final state and the events of a run. -/
def run
    (step : σ → α → Option (σ × Option ε)) :
    σ → List α → Option (σ × List ε)
| s, [] => some (s, [])
| s, a :: actions =>
    (step s a).bind fun next =>
      (run step next.1 actions).map fun last =>
        (last.1, next.2.toList ++ last.2)

theorem run_cons_eq_some
    {s u : σ}
    {a : α}
    {actions : List α}
    {events : List ε} :
    run step s (a :: actions) = some (u, events) ↔
      ∃ t event events',
        step s a = some (t, event) ∧
          run step t actions = some (u, events') ∧
            events = event.toList ++ events' := by
  constructor
  · intro hRun
    rcases Option.bind_eq_some_iff.mp hRun with
      ⟨⟨t, event⟩, hStep, hRest⟩
    rcases Option.map_eq_some_iff.mp hRest with
      ⟨⟨u', events'⟩, hTail, hPair⟩
    cases hPair
    exact ⟨t, event, events', hStep, hTail, rfl⟩
  · rintro ⟨t, event, events', hStep, hTail, rfl⟩
    simp [run, hStep, hTail]

/- A run of a concatenation is a run of both parts. -/
theorem run_append
    {s u : σ}
    {earlier later : List α}
    {events : List ε} :
    run step s (earlier ++ later) = some (u, events) ↔
      ∃ t before after,
        run step s earlier = some (t, before) ∧
          run step t later = some (u, after) ∧
            events = before ++ after := by
  induction earlier generalizing s events with
  | nil =>
      constructor
      · intro hRun
        exact ⟨s, [], events, rfl, hRun, rfl⟩
      · rintro ⟨t, before, after, hEarlier, hLater, rfl⟩
        cases hEarlier
        exact hLater
  | cons a earlier ih =>
      constructor
      · intro hRun
        rcases run_cons_eq_some.mp hRun with
          ⟨v, event, rest, hStep, hTail, rfl⟩
        rcases ih.mp hTail with
          ⟨t, before, after, hEarlier, hLater, rfl⟩
        refine
          ⟨t, event.toList ++ before, after, ?_, hLater,
            by simp⟩
        exact
          run_cons_eq_some.mpr
            ⟨v, event, before, hStep, hEarlier, rfl⟩
      · rintro ⟨t, before, after, hEarlier, hLater, rfl⟩
        rcases run_cons_eq_some.mp hEarlier with
          ⟨v, event, rest, hStep, hTail, rfl⟩
        have hRest :=
          ih.mpr ⟨t, rest, after, hTail, hLater, rfl⟩
        exact
          run_cons_eq_some.mpr
            ⟨v, event, rest ++ after, hStep, hRest, by simp⟩

/- A step inside a run leaves its event there. -/
theorem event_of_exists_step
    {s t t' u : σ}
    {a : α}
    {earlier later : List α}
    {before events : List ε}
    {event : ε}
    (hRun :
      run step s (earlier ++ a :: later) = some (u, events))
    (hEarlier : run step s earlier = some (t, before))
    (hStep : step t a = some (t', some event)) :
    ∃ after, events = before ++ event :: after := by
  rcases run_append.mp hRun with
    ⟨v, front, back, hFront, hBack, rfl⟩
  rw [hEarlier, Option.some.injEq, Prod.mk.injEq] at hFront
  rcases hFront with ⟨rfl, rfl⟩
  rcases run_cons_eq_some.mp hBack with
    ⟨v, emitted, rest, hNext, -, rfl⟩
  rw [hStep, Option.some.injEq, Prod.mk.injEq] at hNext
  rcases hNext with ⟨-, rfl⟩
  exact ⟨rest, rfl⟩

/- A history extended by what a step emits. -/
def record (history : List ε) : Option ε → List ε
| none => history
| some event => history ++ [event]

theorem mem_record
    {history : List ε}
    {event : Option ε}
    {e : ε} :
    e ∈ record history event ↔
      e ∈ history ∨ event = some e := by
  cases event with
  | none => simp [record]
  | some emitted => simp [record, eq_comm]

theorem record_append
    (history rest : List ε)
    (event : Option ε) :
    record history event ++ rest =
      history ++ (event.toList ++ rest) := by
  cases event with
  | none => rfl
  | some emitted =>
      rw [record, List.append_assoc, Option.toList_some]

/-
  Every step that a run takes satisfies a condition on the
  history before it, the state and the action.
-/
def Along
    (step : σ → α → Option (σ × Option ε))
    (P : List ε → σ → α → Prop)
    (history : List ε)
    (s : σ)
    (actions : List α) : Prop :=
  ∀ earlier a later t before,
    actions = earlier ++ a :: later →
      run step s earlier = some (t, before) →
        P (history ++ before) t a

/- An action that is only taken last. -/
theorem eq_of_concat_eq_append_cons
    {l earlier later : List α}
    {a : α}
    (hOther : a ∉ l)
    (hSplit : l ++ [a] = earlier ++ a :: later) :
    earlier = l := by
  rcases List.append_eq_append_iff.mp hSplit with
    ⟨m, hEarlier, hRest⟩ | ⟨m, hLater, hRest⟩
  · cases m with
    | nil => rw [hEarlier, List.append_nil]
    | cons x m =>
        rw [List.cons_append, List.cons.injEq] at hRest
        have hLength := congrArg List.length hRest.2
        rw [List.length_append, List.length_cons,
          List.length_nil] at hLength
        omega
  · cases m with
    | nil => rw [hLater, List.append_nil]
    | cons x m =>
        rw [List.cons_append, List.cons.injEq] at hRest
        rw [hLater, hRest.1] at hOther
        simp at hOther

theorem Along.append_left
    {P : List ε → σ → α → Prop}
    {history : List ε}
    {s : σ}
    {front back : List α}
    (hAlong : Along step P history s (front ++ back)) :
    Along step P history s front := by
  intro earlier a later t before hSplit hRun
  apply hAlong earlier a (later ++ back) t before _ hRun
  rw [hSplit, List.append_assoc, List.cons_append]

theorem Along.tail
    {P : List ε → σ → α → Prop}
    {history : List ε}
    {s t : σ}
    {a : α}
    {actions : List α}
    {event : Option ε}
    (hAlong : Along step P history s (a :: actions))
    (hStep : step s a = some (t, event)) :
    Along step P (record history event) t actions := by
  intro earlier b later u before hSplit hRun
  rw [record_append]
  apply hAlong (a :: earlier) b later u (event.toList ++ before)
  · rw [hSplit, List.cons_append]
  · exact
      run_cons_eq_some.mpr
        ⟨t, event, before, hStep, hRun, rfl⟩

/-
  A relation between history and state that every step keeps
  under the condition is kept by every run along it.
-/
theorem run_invariant_along
    {P : List ε → σ → α → Prop}
    {I : List ε → σ → Prop}
    (hStep :
      ∀ history s a t event, I history s → P history s a →
        step s a = some (t, event) →
          I (record history event) t)
    {history events : List ε}
    {s u : σ}
    {actions : List α}
    (hStart : I history s)
    (hAlong : Along step P history s actions)
    (hRun : run step s actions = some (u, events)) :
    I (history ++ events) u := by
  induction actions generalizing history s events with
  | nil =>
      cases hRun
      rw [List.append_nil]
      exact hStart
  | cons a actions ih =>
      rcases run_cons_eq_some.mp hRun with
        ⟨t, event, rest, hFirst, hTail, rfl⟩
      have hCondition : P history s a := by
        have hHere := hAlong [] a actions s [] rfl rfl
        rwa [List.append_nil] at hHere
      have hNext :=
        hStep history s a t event hStart hCondition hFirst
      have hEnd := ih hNext (hAlong.tail hFirst) hTail
      rwa [record_append] at hEnd

/- A relation that every step keeps is kept by every run. -/
theorem run_invariant
    {I : List ε → σ → Prop}
    (hStep :
      ∀ history s a t event, I history s →
        step s a = some (t, event) →
          I (record history event) t)
    {history events : List ε}
    {s u : σ}
    {actions : List α}
    (hStart : I history s)
    (hRun : run step s actions = some (u, events)) :
    I (history ++ events) u :=
  run_invariant_along (P := fun _ _ _ => True)
    (fun history s a t event hInv _ hNext =>
      hStep history s a t event hInv hNext)
    hStart (fun _ _ _ _ _ _ _ => trivial) hRun

/- Every event of a run was emitted by one of its steps. -/
theorem exists_step_of_event
    {s u : σ}
    {actions : List α}
    {before after : List ε}
    {event : ε}
    (hRun :
      run step s actions =
        some (u, before ++ event :: after)) :
    ∃ earlier a later t t',
      actions = earlier ++ a :: later ∧
        run step s earlier = some (t, before) ∧
          step t a = some (t', some event) := by
  induction actions generalizing s before with
  | nil =>
      have hEmpty := congrArg Prod.snd (Option.some.inj hRun)
      simp at hEmpty
  | cons a actions ih =>
      rcases run_cons_eq_some.mp hRun with
        ⟨t, first, rest, hStep, hTail, hEvents⟩
      cases first with
      | none =>
          rw [Option.toList_none, List.nil_append] at hEvents
          subst hEvents
          rcases ih hTail with
            ⟨earlier, b, later, v, v', hSplit, hEarlier, hEmit⟩
          refine
            ⟨a :: earlier, b, later, v, v', by simp [hSplit],
              ?_, hEmit⟩
          exact
            run_cons_eq_some.mpr
              ⟨t, none, before, hStep, hEarlier, by simp⟩
      | some emitted =>
          cases before with
          | nil =>
              have hSame : event = emitted := by
                simpa using congrArg List.head? hEvents
              subst hSame
              exact ⟨[], a, actions, s, t, rfl, rfl, hStep⟩
          | cons head before =>
              rw [Option.toList_some, List.cons_append,
                List.singleton_append, List.cons.injEq]
                at hEvents
              rcases hEvents with ⟨rfl, rfl⟩
              rcases ih hTail with
                ⟨earlier, b, later, v, v', hSplit, hEarlier,
                  hEmit⟩
              refine
                ⟨a :: earlier, b, later, v, v',
                  by simp [hSplit], ?_, hEmit⟩
              exact
                run_cons_eq_some.mpr
                  ⟨t, some head, before, hStep, hEarlier,
                    by simp⟩

------------------------------------------------------------
-- Splitting Histories
------------------------------------------------------------

/- An element of an extended list is the last one, or not. -/
theorem concat_eq_append_cons
    {history before after : List ε}
    {last event : ε}
    (hSplit : history ++ [last] = before ++ event :: after) :
    after = [] ∧ before = history ∧ event = last ∨
      ∃ after', after = after' ++ [last] ∧
        history = before ++ event :: after' := by
  rcases List.eq_nil_or_concat after with
    hEmpty | ⟨front, final, hConcat⟩
  · subst hEmpty
    rcases List.append_inj' hSplit rfl with ⟨hFront, hLast⟩
    cases hLast
    exact Or.inl ⟨rfl, hFront.symm, rfl⟩
  · rw [hConcat, List.concat_eq_append, ← List.cons_append,
      ← List.append_assoc] at hSplit
    rcases List.append_inj' hSplit rfl with ⟨hFront, hLast⟩
    cases hLast
    refine Or.inr ⟨front, ?_, hFront⟩
    rw [hConcat, List.concat_eq_append]

/- Two elements of a list are in order, or the same one. -/
theorem append_cons_eq_append_cons
    {before before' after after' : List ε}
    {event event' : ε}
    (hSplit :
      before ++ event :: after =
        before' ++ event' :: after') :
    (∃ between,
        before' = before ++ event :: between ∧
          after = between ++ event' :: after') ∨
      (before = before' ∧ event = event' ∧ after = after') ∨
        ∃ between,
          before = before' ++ event' :: between ∧
            after' = between ++ event :: after := by
  rcases List.append_eq_append_iff.mp hSplit with
    ⟨middle, hFront, hBack⟩ | ⟨middle, hFront, hBack⟩
  · cases middle with
    | nil =>
        cases hBack
        rw [List.append_nil] at hFront
        exact Or.inr (Or.inl ⟨hFront.symm, rfl, rfl⟩)
    | cons head between =>
        rw [List.cons_append] at hBack
        cases hBack
        exact Or.inl ⟨between, hFront, rfl⟩
  · cases middle with
    | nil =>
        cases hBack
        rw [List.append_nil] at hFront
        exact Or.inr (Or.inl ⟨hFront, rfl, rfl⟩)
    | cons head between =>
        rw [List.cons_append] at hBack
        cases hBack
        exact Or.inr (Or.inr ⟨between, hFront, rfl⟩)

------------------------------------------------------------
-- Since
------------------------------------------------------------

/- An event with `P` has come, and none with `Q` since. -/
def Since
    (P Q : ε → Prop)
    (history : List ε) : Prop :=
  ∃ before event after,
    history = before ++ event :: after ∧
      P event ∧ ∀ later ∈ after, ¬ Q later

theorem not_since_nil
    {P Q : ε → Prop} :
    ¬ Since P Q [] := by
  rintro ⟨before, event, after, hSplit, -⟩
  simp at hSplit

theorem since_concat
    {P Q : ε → Prop}
    {history : List ε}
    {last : ε} :
    Since P Q (history ++ [last]) ↔
      P last ∨ Since P Q history ∧ ¬ Q last := by
  constructor
  · rintro ⟨before, event, after, hSplit, hEvent, hSilent⟩
    rcases concat_eq_append_cons hSplit with
      ⟨-, -, rfl⟩ | ⟨after', rfl, hHistory⟩
    · exact Or.inl hEvent
    · refine Or.inr ⟨?_, hSilent last (by simp)⟩
      refine ⟨before, event, after', hHistory, hEvent, ?_⟩
      intro later hLater
      exact hSilent later (List.mem_append_left _ hLater)
  · rintro (hLast | ⟨hSince, hSilent⟩)
    · exact ⟨history, last, [], rfl, hLast, by simp⟩
    · rcases hSince with
        ⟨before, event, after, rfl, hEvent, hEarlier⟩
      refine
        ⟨before, event, after ++ [last], by simp, hEvent, ?_⟩
      intro later hLater
      rcases List.mem_append.mp hLater with hBefore | hFinal
      · exact hEarlier later hBefore
      · rw [List.mem_singleton.mp hFinal]
        exact hSilent

/- Other events do not matter. -/
theorem since_concat_of_silent
    {P Q : ε → Prop}
    {history : List ε}
    {last : ε}
    (hStart : ¬ P last)
    (hEnd : ¬ Q last) :
    Since P Q (history ++ [last]) ↔ Since P Q history := by
  rw [since_concat, or_iff_right hStart,
    and_iff_left hEnd]

/- Two events that end each other's time are the same one. -/
theorem Since.exists_common
    {P P' Q : ε → Prop}
    {history : List ε}
    (hFirst : Since P Q history)
    (hSecond : Since P' Q history)
    (hEnds : ∀ event, P event → Q event)
    (hEnds' : ∀ event, P' event → Q event) :
    ∃ event, P event ∧ P' event := by
  rcases hFirst with
    ⟨before, event, after, rfl, hEvent, hSilent⟩
  rcases hSecond with
    ⟨before', event', after', hSplit, hEvent', hSilent'⟩
  rcases append_cons_eq_append_cons hSplit with
    ⟨between, -, hAfter⟩ | ⟨-, rfl, -⟩ |
      ⟨between, -, hAfter⟩
  · refine absurd (hEnds' event' hEvent') ?_
    apply hSilent
    rw [hAfter]
    simp
  · exact ⟨event, hEvent, hEvent'⟩
  · refine absurd (hEnds event hEvent) ?_
    apply hSilent'
    rw [hAfter]
    simp

end EventSystem
