import TemperatureSensor.Firmware.Persistence

/-
  What a commanded restart leaves of the writes before it.
  `command_control` does not look at `eep_state`, so a save
  that is in progress is cut off.

  Main declarations:
    * `Event.writes` and `Event.Acknowledges`
    * `Survives`
    * `RestartSafe`
    * `writesSurvive_iff_restartsSafely`
-/

------------------------------------------------------------
-- Written Values
------------------------------------------------------------

namespace TemperatureSensor

namespace Firmware

/- The value that an event gives to a register. -/
def Event.writes
    (event : Event)
    (r : Fin numBuf) : Option UInt16 :=
  match event with
  | .parsed request _ answer mb' =>
      match acceptedWrite request answer with
      | some (start, count) =>
          if InRange start count r then some (mb' r) else none
      | none => none
  | .defaulted q =>
      if q = r then some (defaultState q).defaultValue
      else none
  | _ => none

/- The normal response to a write of the register starts. -/
def Event.Acknowledges
    (event : Event)
    (r : Fin numBuf) : Prop :=
  match event with
  | .parsed _ _ answer _ =>
      answer.mbState = .stateSend ∧ event.writes r ≠ none
  | _ => False

theorem Event.Acknowledges.writes
    {event : Event}
    {r : Fin numBuf}
    (hAcknowledged : event.Acknowledges r) :
    event.writes r ≠ none := by
  cases event with
  | parsed => exact hAcknowledged.2
  | accepted => exact hAcknowledged.elim
  | filled => exact hAcknowledged.elim
  | saved => exact hAcknowledged.elim
  | defaulted => exact hAcknowledged.elim
  | restarted => exact hAcknowledged.elim

/- No event of a history writes the register. -/
def Unwritten (history : List Event) (r : Fin numBuf) : Prop :=
  ∀ event ∈ history, event.writes r = none

/-
  Every saved register holds its last acknowledged value or a
  later one. A request is not partly applied: the registers
  not written since hold their values from before, or hold
  the values of the request.
-/
structure Survives
    (history : List Event)
    (mb : Registers) : Prop where
  acknowledged :
    ∀ r, eeSaveCheck r = .regOk →
      ∀ before event after,
        history = before ++ event :: after →
          event.Acknowledges r →
            ∃ later ∈ event :: after,
              later.writes r = some (mb r)
  whole :
    ∀ before request old answer new after,
      history =
          before ++ .parsed request old answer new :: after →
        (∀ r, eeSaveCheck r = .regOk →
            (Event.parsed request old answer new).writes r ≠
                none →
              Unwritten after r → mb r = old r) ∨
          ∀ r, eeSaveCheck r = .regOk →
            (Event.parsed request old answer new).writes r ≠
                none →
              Unwritten after r → mb r = new r

/- Only the saved registers matter. -/
theorem Survives.congr
    {history : List Event}
    {mb mb' : Registers}
    (hSurvives : Survives history mb)
    (hSame :
      ∀ r, eeSaveCheck r = .regOk → mb' r = mb r) :
    Survives history mb' := by
  constructor
  · intro r hSaved before event after hSplit hAcknowledged
    rw [hSame r hSaved]
    exact
      hSurvives.acknowledged r hSaved before event after hSplit
        hAcknowledged
  · intro before request old answer new after hSplit
    rcases hSurvives.whole before request old answer new after
        hSplit with
      hOld | hNew
    · refine Or.inl ?_
      intro r hSaved hWritten hUnwritten
      rw [hSame r hSaved]
      exact hOld r hSaved hWritten hUnwritten
    · refine Or.inr ?_
      intro r hSaved hWritten hUnwritten
      rw [hSame r hSaved]
      exact hNew r hSaved hWritten hUnwritten

/- The registers after an event are those that it writes. -/
structure Effect
    (mb : Registers)
    (event : Event)
    (mb' : Registers) : Prop where
  value :
    ∀ r, eeSaveCheck r = .regOk →
      event.writes r = some (mb' r) ∨
        event.writes r = none ∧ mb' r = mb r
  request :
    ∀ request old answer new,
      event = .parsed request old answer new →
        old = mb ∧ new = mb'

theorem unwritten_concat
    {history : List Event}
    {event : Event}
    {r : Fin numBuf}
    (hUnwritten : Unwritten (history ++ [event]) r) :
    Unwritten history r ∧ event.writes r = none := by
  constructor
  · intro earlier hEarlier
    exact
      hUnwritten earlier (List.mem_append_left _ hEarlier)
  · exact hUnwritten event (by simp)

/- A running system keeps all writes. -/
theorem Survives.concat
    {history : List Event}
    {event : Event}
    {mb mb' : Registers}
    (hSurvives : Survives history mb)
    (hEffect : Effect mb event mb') :
    Survives (history ++ [event]) mb' := by
  constructor
  · intro r hSaved before earlier after hSplit hAcknowledged
    have hValue := hEffect.value r hSaved
    rcases EventSystem.concat_eq_append_cons hSplit with
      ⟨rfl, -, rfl⟩ | ⟨after', rfl, hHistory⟩
    · rcases hValue with hWritten | ⟨hNone, -⟩
      · exact ⟨earlier, List.mem_cons_self, hWritten⟩
      · exact absurd hNone hAcknowledged.writes
    · rcases hValue with hWritten | ⟨-, hKept⟩
      · exact ⟨event, by simp, hWritten⟩
      · rcases hSurvives.acknowledged r hSaved before earlier
            after' hHistory hAcknowledged with
          ⟨later, hLater, hValue⟩
        refine ⟨later, ?_, ?_⟩
        · rw [← List.cons_append]
          exact List.mem_append_left _ hLater
        · rw [hKept]
          exact hValue
  · intro before request old answer new after hSplit
    have hKept :
        ∀ r, eeSaveCheck r = .regOk →
          event.writes r = none → mb' r = mb r := by
      intro r hSaved hNone
      rcases hEffect.value r hSaved with
        hWritten | ⟨-, hSame⟩
      · rw [hNone] at hWritten
        cases hWritten
      · exact hSame
    rcases EventSystem.concat_eq_append_cons hSplit with
      ⟨rfl, -, hEvent⟩ | ⟨after', rfl, hHistory⟩
    · rcases hEffect.request request old answer new
          hEvent.symm with
        ⟨-, rfl⟩
      exact Or.inr fun _ _ _ _ => rfl
    · rcases hSurvives.whole before request old answer new
          after' hHistory with
        hOld | hNew
      · refine Or.inl ?_
        intro r hSaved hWritten hUnwritten
        rcases unwritten_concat hUnwritten with
          ⟨hEarlier, hNone⟩
        rw [hKept r hSaved hNone]
        exact hOld r hSaved hWritten hEarlier
      · refine Or.inr ?_
        intro r hSaved hWritten hUnwritten
        rcases unwritten_concat hUnwritten with
          ⟨hEarlier, hNone⟩
        rw [hKept r hSaved hNone]
        exact hNew r hSaved hWritten hEarlier

/- A history is extended by an event that writes nothing. -/
theorem effect_of_silent
    (mb : Registers)
    {event : Event}
    (hSilent : ∀ r, event.writes r = none)
    (hRequest :
      ∀ request old answer new,
        event ≠ .parsed request old answer new) :
    Effect mb event mb :=
  ⟨fun r _ => Or.inr ⟨hSilent r, rfl⟩,
    fun request old answer new hEvent =>
      absurd hEvent (hRequest request old answer new)⟩

/-
  Taking a whole unacknowledged request back keeps all other
  writes.
-/
theorem Survives.revert
    {before after : List Event}
    {request answer : MbStruct}
    {old new mb mb' : Registers}
    (hSurvives :
      Survives
        (before ++ .parsed request old answer new :: after) mb)
    (hBefore : Survives before old)
    (hUnacknowledged : answer.mbState ≠ .stateSend)
    (hLast :
      ∀ request old answer new,
        .parsed request old answer new ∉ after)
    (hValue :
      ∀ r, eeSaveCheck r = .regOk →
        (Event.parsed request old answer new).writes r ≠
              none ∧
            mb' r = old r ∨
          (Event.parsed request old answer new).writes r =
              none ∧
            mb' r = mb r) :
    Survives
      (before ++ .parsed request old answer new :: after)
      mb' := by
  have hLater :
      ∀ event ∈ after, ∀ r, ¬ event.Acknowledges r := by
    intro event hEvent r hAcknowledged
    cases event with
    | parsed => exact hLast _ _ _ _ hEvent
    | accepted => exact hAcknowledged
    | filled => exact hAcknowledged
    | saved => exact hAcknowledged
    | defaulted => exact hAcknowledged
    | restarted => exact hAcknowledged
  constructor
  · intro r hSaved front event back hSplit hAcknowledged
    rcases hValue r hSaved with
      ⟨hWritten, hOld⟩ | ⟨-, hKept⟩
    · rcases EventSystem.append_cons_eq_append_cons hSplit with
        ⟨between, -, hAfter⟩ | ⟨-, rfl, -⟩ |
          ⟨between, hFront, hBack⟩
      · refine absurd hAcknowledged (hLater event ?_ r)
        rw [hAfter]
        simp
      · exact absurd hAcknowledged.1 hUnacknowledged
      · rcases hBefore.acknowledged r hSaved front event
            between hFront hAcknowledged with
          ⟨later, hMember, hSame⟩
        refine ⟨later, ?_, ?_⟩
        · rw [hBack, ← List.cons_append]
          exact List.mem_append_left _ hMember
        · rw [hOld]
          exact hSame
    · rw [hKept]
      exact
        hSurvives.acknowledged r hSaved front event back hSplit
          hAcknowledged
  · intro front request' old' answer' new' back hSplit
    rcases EventSystem.append_cons_eq_append_cons hSplit with
      ⟨between, -, hAfter⟩ | ⟨-, hSame, -⟩ |
        ⟨between, -, hBack⟩
    · refine absurd ?_ (hLast request' old' answer' new')
      rw [hAfter]
      simp
    · cases hSame
      refine Or.inl ?_
      intro r hSaved hWritten hUnwritten
      rcases hValue r hSaved with ⟨-, hOld⟩ | ⟨hNone, -⟩
      · exact hOld
      · exact absurd hNone hWritten
    · have hKept :
          ∀ r, eeSaveCheck r = .regOk → Unwritten back r →
            mb' r = mb r := by
        intro r hSaved hUnwritten
        rcases hValue r hSaved with
          ⟨hWritten, -⟩ | ⟨-, hKept⟩
        · refine absurd (hUnwritten _ ?_) hWritten
          rw [hBack]
          simp
        · exact hKept
      rcases hSurvives.whole front request' old' answer' new'
          back hSplit with
        hOld | hNew
      · refine Or.inl ?_
        intro r hSaved hWritten hUnwritten
        rw [hKept r hSaved hUnwritten]
        exact hOld r hSaved hWritten hUnwritten
      · refine Or.inr ?_
        intro r hSaved hWritten hUnwritten
        rw [hKept r hSaved hUnwritten]
        exact hNew r hSaved hWritten hUnwritten

------------------------------------------------------------
-- Recorded Writes
------------------------------------------------------------

/-
  The registers keep all writes of the history, and so did
  the registers before each request.
-/
structure Recorded
    (history : List Event)
    (mb : Registers) : Prop where
  survives : Survives history mb
  requests :
    ∀ before request old answer new after,
      history =
          before ++ .parsed request old answer new :: after →
        Survives before old

theorem Recorded.congr
    {history : List Event}
    {mb mb' : Registers}
    (hRecorded : Recorded history mb)
    (hSame :
      ∀ r, eeSaveCheck r = .regOk → mb' r = mb r) :
    Recorded history mb' :=
  ⟨hRecorded.survives.congr hSame, hRecorded.requests⟩

theorem Recorded.concat
    {history : List Event}
    {event : Event}
    {mb mb' : Registers}
    (hRecorded : Recorded history mb)
    (hEffect : Effect mb event mb') :
    Recorded (history ++ [event]) mb' := by
  refine ⟨hRecorded.survives.concat hEffect, ?_⟩
  intro before request old answer new after hSplit
  rcases EventSystem.concat_eq_append_cons hSplit with
    ⟨-, rfl, hEvent⟩ | ⟨after', -, hHistory⟩
  · rcases hEffect.request request old answer new
        hEvent.symm with
      ⟨rfl, -⟩
    exact hRecorded.survives
  · exact
      hRecorded.requests before request old answer new after'
        hHistory

theorem recorded_nil
    (mb : Registers) :
    Recorded [] mb := by
  constructor
  · constructor
    · intro r _ before event after hSplit
      simp at hSplit
    · intro before request old answer new after hSplit
      simp at hSplit
  · intro before request old answer new after hSplit
    simp at hSplit

/- A request writes the registers of its range. -/
theorem writes_parsed
    {request answer : MbStruct}
    {start count : Nat}
    (old new : Registers)
    (hWrite :
      acceptedWrite request answer = some (start, count))
    (r : Fin numBuf) :
    (Event.parsed request old answer new).writes r =
      if InRange start count r then some (new r) else none := by
  simp only [Event.writes, hWrite]

/- A request writes a register, or it keeps its value. -/
theorem writes_or_kept
    {request answer : MbStruct}
    {mb mb' : Registers}
    (hFree : request.eepState = .eepFree)
    (hServed : FrameServed request mb answer mb')
    (r : Fin numBuf) :
    (Event.parsed request mb answer mb').writes r =
        some (mb' r) ∨
      (Event.parsed request mb answer mb').writes r = none ∧
        mb' r = mb r := by
  rcases acceptedWrite_cases hFree hServed.outcome with
    ⟨hNone, rfl, -⟩ | ⟨start, count, hSome, hApplied⟩
  · refine Or.inr ⟨?_, rfl⟩
    simp only [Event.writes, hNone]
  · rw [writes_parsed mb mb' hSome r]
    by_cases hInside : InRange start count r
    · exact Or.inl (if_pos hInside)
    · exact Or.inr ⟨if_neg hInside, hApplied.other hInside⟩

theorem effect_parsed
    {request answer : MbStruct}
    {mb mb' : Registers}
    (hFree : request.eepState = .eepFree)
    (hServed : FrameServed request mb answer mb') :
    Effect mb (.parsed request mb answer mb') mb' := by
  constructor
  · intro r _
    exact writes_or_kept hFree hServed r
  · intro request' old answer' new hEvent
    cases hEvent
    exact ⟨rfl, rfl⟩

theorem effect_defaulted
    (mb : Registers)
    (q : Fin numBuf) :
    Effect mb (.defaulted q)
      (Function.update mb q (defaultState q).defaultValue) := by
  constructor
  · intro r _
    by_cases hSame : q = r
    · subst hSame
      refine Or.inl ?_
      simp [Event.writes]
    · refine Or.inr ⟨if_neg hSame, ?_⟩
      exact Function.update_of_ne (Ne.symm hSame) _ _
  · intro request old answer new hEvent
    cases hEvent

------------------------------------------------------------
-- Restarts
------------------------------------------------------------

/-
  A restart does no harm: every register still to be saved
  already has its value in the store, or the request was a
  broadcast and the store has all its values from before.
-/
def RestartSafe (history : List Event) (s : System) : Prop :=
  (∀ r, eeSaveCheck r = .regOk →
      s.modbus.Pending s.usb r →
        s.memory.fs r = some (s.memory.mbBufMain r)) ∨
    s.usb.pMbBuff.get 0 = mbAddressBroadcast ∧
      s.modbus.IsSaving ∧
        ∀ r, eeSaveCheck r = .regOk → InSave s.usb r →
          s.memory.fs r = some (registersBefore history r)

/- After a restart a saved register has its stored value. -/
theorem sysReboot_mbBufMain
    {old : Registers}
    {s : System}
    {r : Fin numBuf}
    {value : UInt16}
    (hSaved : eeSaveCheck r = .regOk)
    (hReg : RegStored old s r)
    (hStored : s.memory.fs r = some value) :
    (sysReboot s).memory.mbBufMain r = value := by
  rcases hReg.stored with ⟨value', hSame, hLimit⟩
  rw [hStored] at hSame
  cases hSame
  have hBoot :=
    mhBufInit_repaired ⟨mbBufLinked, s.memory.fs⟩
  unfold sysReboot
  rw [start_memory, hBoot.value r hSaved, hStored]
  exact if_pos hLimit

/- The last frame that was parsed, and its answer. -/
def LastParsed
    (history : List Event)
    (request answer : MbStruct) : Prop :=
  ∃ before mb mb' after,
    history =
        before ++ .parsed request mb answer mb' :: after ∧
      registersBefore history = mb ∧
        ∀ request old answer new,
          .parsed request old answer new ∉ after

theorem LastParsed.concat
    {history : List Event}
    {request answer : MbStruct}
    (event : Event)
    (hParsed : LastParsed history request answer)
    (hOther :
      ∀ request old answer new,
        event ≠ .parsed request old answer new) :
    LastParsed (history ++ [event]) request answer := by
  rcases hParsed with
    ⟨before, mb, mb', after, rfl, hOld, hLast⟩
  refine ⟨before, mb, mb', after ++ [event], ?_, ?_, ?_⟩
  · rw [List.append_assoc, List.cons_append]
  · rw [registersBefore_concat, hOld]
    cases event with
    | parsed => exact absurd rfl (hOther _ _ _ _)
    | accepted => rfl
    | filled => rfl
    | saved => rfl
    | defaulted => rfl
    | restarted => rfl
  · intro request' old answer' new hMember
    rcases List.mem_append.mp hMember with hEarlier | hFinal
    · exact hLast _ _ _ _ hEarlier
    · exact hOther _ _ _ _ (List.mem_singleton.mp hFinal).symm

/- The answer in progress belongs to the last frame. -/
theorem Exchanges.lastParsed
    {history : List Event}
    {phase : Phase}
    (hHistory : Exchanges history phase) :
    ∀ request answer reply save,
      phase = .answered request answer reply save →
        (save = true → answer.eepState = .eepSave) ∧
          LastParsed history request answer := by
  induction hHistory with
  | start =>
      intro request answer reply save hPhase
      cases hPhase
  | accept _ _ _ _ =>
      intro request answer reply save hPhase
      cases hPhase
  | restart _ _ _ =>
      intro request answer reply save hPhase
      cases hPhase
  | @parse history _ _ _ mb mb' _ _ _ _ _ _ =>
      intro request answer reply save hPhase
      cases hPhase
      refine
        ⟨of_decide_eq_true, history, mb, mb', [], rfl, ?_,
          by simp⟩
      exact registersBefore_concat _ _
  | fill _ ih =>
      intro request answer reply save hPhase
      cases hPhase
      rcases ih _ _ _ _ rfl with ⟨hSave, hParsed⟩
      exact ⟨hSave, hParsed.concat _ (by simp)⟩
  | finish _ ih =>
      intro request answer reply save hPhase
      cases hPhase
      rcases ih _ _ _ _ rfl with ⟨-, hParsed⟩
      exact ⟨by simp, hParsed.concat _ (by simp)⟩
  | assign r _ ih =>
      intro request answer reply save hPhase
      rcases ih _ _ _ _ hPhase with ⟨hSave, hParsed⟩
      exact ⟨hSave, hParsed.concat _ (by simp)⟩

/-
  The save in progress is the one of the last request: it
  covers the range of this request, and the request was
  acknowledged unless it was a broadcast.
-/
structure PendingSave
    (history : List Event)
    (s : System)
    (before : List Event)
    (request answer : MbStruct)
    (new : Registers)
    (after : List Event) : Prop where
  history :
    history =
      before ++
        .parsed request (registersBefore history) answer
            new ::
          after
  last :
    ∀ request old answer new,
      .parsed request old answer new ∉ after
  writes :
    ∀ old r,
      (Event.parsed request old answer new).writes r =
        if InSave s.usb r then some (new r) else none
  acknowledged :
    answer.mbState = .stateSend ↔
      s.usb.pMbBuff.get 0 ≠ mbAddressBroadcast

theorem pendingSave_of_isSaving
    {history : List Event}
    {s : System}
    (hInv : Inv history s)
    (hSaving : s.modbus.IsSaving) :
    ∃ before request answer new after,
      PendingSave history s before request answer new
        after := by
  rcases hInv.exchanges with ⟨phase, hHistory, hPhase⟩
  rcases hPhase.saving (hInv.saving.mp hSaving) with
    ⟨request, answer, reply, rfl⟩
  rcases hHistory.lastParsed _ _ _ _ rfl with
    ⟨hSave, before, mb, mb', after, hSplit, hOld, hLast⟩
  have hEvent : .parsed request mb answer mb' ∈ history := by
    rw [hSplit]
    exact List.mem_append_right before List.mem_cons_self
  rcases hHistory.parsed_served hEvent with ⟨hFree, hServed⟩
  rcases acceptedWrite_cases hFree hServed.outcome with
    ⟨-, -, hFinished⟩ | ⟨start, count, hWrite, hApplied⟩
  · rw [hSave rfl] at hFinished
    cases hFinished
  · rcases hPhase with ⟨-, hUsb, -⟩
    rcases hApplied.descriptor (hSave rfl) with ⟨hStart, hEnd⟩
    have hRange :
        ∀ r, InRange start count r ↔ InSave s.usb r := by
      intro r
      have hSame : InSave s.usb r ↔ InSave answer r := by
        rw [hUsb]
        rfl
      rw [hSame]
      unfold InSave InRange
      rw [hStart, hEnd]
    refine
      ⟨before, request, answer, mb', after, ?_, hLast, ?_, ?_⟩
    · rw [hOld]
      exact hSplit
    · intro old r
      rw [writes_parsed old mb' hWrite r]
      simp only [hRange r]
    · rw [hUsb]
      exact hApplied.acknowledged

/- What the store has for a register when `com_task` polls. -/
theorem agrees_of_sleeping
    {history : List Event}
    {s : System}
    {r : Fin numBuf}
    (hStore : StoreInv history s)
    (hCom : s.com = .sleeping)
    (hSaved : eeSaveCheck r = .regOk) :
    s.memory.fs r = some (s.memory.mbBufMain r) ∨
      s.modbus.Pending s.usb r ∧
        s.memory.fs r = some (registersBefore history r) := by
  rcases (hStore r hSaved).agrees with
    hEqual | hPending | hUpdating
  · exact Or.inl hEqual
  · exact Or.inr hPending
  · rw [hCom] at hUpdating
    cases hUpdating

/- A restart in a safe state keeps the writes. -/
theorem survives_sysReboot
    {history : List Event}
    {s : System}
    (hInv : Inv history s)
    (hStore : StoreInv history s)
    (hRecorded : Recorded history s.memory.mbBufMain)
    (hCom : s.com = .sleeping)
    (hSafe : RestartSafe history s) :
    Survives history (sysReboot s).memory.mbBufMain := by
  have hAgrees :=
    fun r => agrees_of_sleeping (r := r) hStore hCom
  rcases hSafe with hStored | ⟨hBroadcast, hSaving, hKept⟩
  · apply hRecorded.survives.congr
    intro r hSaved
    apply sysReboot_mbBufMain hSaved (hStore r hSaved)
    rcases hAgrees r hSaved with hEqual | ⟨hPending, -⟩
    · exact hEqual
    · exact hStored r hSaved hPending
  · rcases pendingSave_of_isSaving hInv hSaving with
      ⟨before, request, answer, new, after, hSave⟩
    have hSilent : answer.mbState ≠ .stateSend :=
      fun hSend => hSave.acknowledged.mp hSend hBroadcast
    have hBefore :=
      hRecorded.requests _ _ _ _ _ _ hSave.history
    have hSurvives := hRecorded.survives
    rw [hSave.history] at hSurvives ⊢
    apply hSurvives.revert hBefore hSilent hSave.last
    intro r hSaved
    have hReg := hStore r hSaved
    rw [hSave.writes]
    by_cases hInside : InSave s.usb r
    · refine Or.inl ⟨by rw [if_pos hInside]; simp, ?_⟩
      exact
        sysReboot_mbBufMain hSaved hReg (hKept r hSaved hInside)
    · refine Or.inr ⟨if_neg hInside, ?_⟩
      rcases hAgrees r hSaved with hEqual | ⟨hPending, -⟩
      · exact sysReboot_mbBufMain hSaved hReg hEqual
      · exact absurd hPending.1 hInside

------------------------------------------------------------
-- Undisturbed Saves
------------------------------------------------------------

/- Nothing has written a saved register since a request. -/
def Undisturbed
    (history : List Event)
    (mb : Registers) : Prop :=
  ∀ before request old answer new after,
    history =
        before ++ .parsed request old answer new :: after →
      (∀ request old answer new,
          .parsed request old answer new ∉ after) →
        (∀ r, Unwritten after r) ∧
          ∀ r, eeSaveCheck r = .regOk → mb r = new r

theorem Undisturbed.congr
    {history : List Event}
    {mb mb' : Registers}
    (hUndisturbed : Undisturbed history mb)
    (hSame :
      ∀ r, eeSaveCheck r = .regOk → mb' r = mb r) :
    Undisturbed history mb' := by
  intro before request old answer new after hSplit hLast
  rcases hUndisturbed before request old answer new after
      hSplit hLast with
    ⟨hUnwritten, hNew⟩
  refine ⟨hUnwritten, ?_⟩
  intro r hSaved
  rw [hSame r hSaved]
  exact hNew r hSaved

theorem Undisturbed.concat
    {history : List Event}
    {event : Event}
    {mb : Registers}
    (hUndisturbed : Undisturbed history mb)
    (hSilent : ∀ r, event.writes r = none)
    (hOther :
      ∀ request old answer new,
        event ≠ .parsed request old answer new) :
    Undisturbed (history ++ [event]) mb := by
  intro before request old answer new after hSplit hLast
  rcases EventSystem.concat_eq_append_cons hSplit with
    ⟨-, -, hEvent⟩ | ⟨after', rfl, hHistory⟩
  · exact absurd hEvent.symm (hOther request old answer new)
  · rcases hUndisturbed before request old answer new after'
        hHistory
        (fun _ _ _ _ hMember =>
          hLast _ _ _ _ (List.mem_append_left _ hMember)) with
      ⟨hUnwritten, hNew⟩
    refine ⟨?_, hNew⟩
    intro r later hLater
    rcases List.mem_append.mp hLater with hEarlier | hFinal
    · exact hUnwritten r later hEarlier
    · rw [List.mem_singleton.mp hFinal]
      exact hSilent r

theorem undisturbed_parsed
    (history : List Event)
    (request answer : MbStruct)
    (mb mb' : Registers) :
    Undisturbed (history ++ [.parsed request mb answer mb'])
      mb' := by
  intro before request' old answer' new after hSplit hLast
  rcases EventSystem.concat_eq_append_cons hSplit with
    ⟨rfl, -, hEvent⟩ | ⟨after', rfl, -⟩
  · cases hEvent
    refine ⟨?_, fun _ _ => rfl⟩
    intro r later hLater
    cases hLater
  · exact absurd (by simp) (hLast request mb answer mb')

/-
  While a save is pending no frame is accepted, so a command
  that is still set was set before the save: the factory
  reset, which clears it, has not run since.
-/
def CommandInv (history : List Event) (s : System) : Prop :=
  s.modbus.IsSaving → s.com = .sleeping →
    s.memory.mbBufMain regSendCommand ≠ 0 →
      Undisturbed history s.memory.mbBufMain

theorem commandInv_step
    {history : List Event}
    {s t : System}
    {event : Option Event}
    (hInv : Inv history s)
    (hCommand : CommandInv history s)
    (hTransition : Transition s t event) :
    CommandInv (EventSystem.record history event) t := by
  intro hSaving hCom hSet
  cases hTransition with
  | nothing => exact hCommand hSaving hCom hSet
  | accept frame hFree hIdle =>
      have hSave := hInv.saving.mp hSaving
      rw [hFree] at hSave
      cases hSave
  | fill hSend =>
      exact
        (hCommand hSaving hCom hSet).concat (fun _ => rfl)
          (by simp)
  | begin hPc => exact hSaving.elim
  | parse rest answer mb' pc hPc hQueue hParse hSave hFree =>
      exact undisturbed_parsed history _ _ _ _
  | commit q hPc =>
      have hEarlier : s.modbus.IsSaving := by
        rw [hPc]
        trivial
      exact hCommand hEarlier hCom hSet
  | resume q next hPc hNext =>
      have hEarlier : s.modbus.IsSaving := by
        rw [hPc]
        trivial
      exact hCommand hEarlier hCom hSet
  | finish hPc => exact hSaving.elim
  | restart hPc hCommand => exact hSaving.elim
  | factoryAssign i q hFrom hNext => cases hCom
  | factoryCommit q hPc => cases hCom
  | command hPc =>
      refine absurd ?_ hSet
      exact
        Function.update_self regSendCommand 0
          s.memory.mbBufMain
  | publish q value hReadOnly =>
      have hOther : regSendCommand ≠ q := by
        rintro rfl
        revert hReadOnly
        decide
      have hKept :
          (s.memory.assign q value).mbBufMain
              regSendCommand =
            s.memory.mbBufMain regSendCommand :=
        Function.update_of_ne hOther _ _
      have hEarlier :
          s.memory.mbBufMain regSendCommand ≠ 0 := by
        rw [← hKept]
        exact hSet
      apply (hCommand hSaving hCom hEarlier).congr
      intro r hSaved
      exact
        Function.update_of_ne
          (ne_of_writeCheck hReadOnly hSaved) _ _

/- A restart in an unsafe state loses or tears a write. -/
theorem restartSafe_of_survives
    {history : List Event}
    {s : System}
    (hInv : Inv history s)
    (hStore : StoreInv history s)
    (hCommand : CommandInv history s)
    (hCom : s.com = .sleeping)
    (hSet : s.memory.mbBufMain regSendCommand ≠ 0)
    (hSurvives :
      Survives history (sysReboot s).memory.mbBufMain) :
    RestartSafe history s := by
  have hAgrees :=
    fun r => agrees_of_sleeping (r := r) hStore hCom
  refine or_iff_not_imp_left.mpr ?_
  intro hUnstored
  push Not at hUnstored
  rcases hUnstored with ⟨r, hSaved, hPending, hDiffers⟩
  have hSaving := hPending.isSaving
  rcases pendingSave_of_isSaving hInv hSaving with
    ⟨before, request, answer, new, after, hSave⟩
  rcases hCommand hSaving hCom hSet _ _ _ _ _ _ hSave.history
      hSave.last with
    ⟨hUnwritten, hNew⟩
  have hWritten :
      ∀ old q, InSave s.usb q →
        (Event.parsed request old answer new).writes q =
          some (new q) := by
    intro old q hInside
    rw [hSave.writes, if_pos hInside]
  have hLost :
      (sysReboot s).memory.mbBufMain r ≠ new r := by
    rcases hAgrees r hSaved with hEqual | ⟨-, hOld⟩
    · exact absurd hEqual hDiffers
    · rw [sysReboot_mbBufMain hSaved (hStore r hSaved) hOld]
      intro hSame
      apply hDiffers
      rw [hOld, hSame, hNew r hSaved]
  have hBroadcast :
      s.usb.pMbBuff.get 0 = mbAddressBroadcast := by
    by_contra hAddress
    have hSend := hSave.acknowledged.mpr hAddress
    rcases hSurvives.acknowledged r hSaved _ _ _ hSave.history
        ⟨hSend, by rw [hWritten _ r hPending.1]; simp⟩ with
      ⟨later, hLater, hValue⟩
    rcases List.mem_cons.mp hLater with rfl | hAfter
    · rw [hWritten _ r hPending.1] at hValue
      exact hLost (Option.some.inj hValue).symm
    · rw [hUnwritten r later hAfter] at hValue
      cases hValue
  refine ⟨hBroadcast, hSaving, ?_⟩
  intro q hKind hInside
  rcases hSurvives.whole _ _ _ _ _ _ hSave.history with
    hAllOld | hAllNew
  · have hOld :=
      hAllOld q hKind (by rw [hWritten _ q hInside]; simp)
        (hUnwritten q)
    rcases (hStore q hKind).stored with ⟨value, hStored, -⟩
    rw [← hOld,
      sysReboot_mbBufMain hKind (hStore q hKind) hStored]
    exact hStored
  · refine absurd ?_ hLost
    exact
      hAllNew r hSaved
        (by rw [hWritten _ r hPending.1]; simp) (hUnwritten r)

------------------------------------------------------------
-- Runs
------------------------------------------------------------

/- A step that restarts is taken in a safe state. -/
def RestartsSafely
    (history : List Event)
    (s : System)
    (a : Action) : Prop :=
  ∀ t mb, step s a = some (t, some (.restarted mb)) →
    RestartSafe history s

theorem recorded_step
    {history : List Event}
    {s t : System}
    {event : Option Event}
    (hInv : Inv history s)
    (hStore : StoreInv history s)
    (hRecorded : Recorded history s.memory.mbBufMain)
    (hSafe :
      ∀ mb, event = some (.restarted mb) →
        RestartSafe history s)
    (hTransition : Transition s t event) :
    Recorded (EventSystem.record history event)
      t.memory.mbBufMain := by
  cases hTransition with
  | nothing =>
      exact hRecorded
  | accept frame hFree hIdle =>
      exact
        hRecorded.concat
          (effect_of_silent _ (fun _ => rfl) (by simp))
  | fill hSend =>
      exact
        hRecorded.concat
          (effect_of_silent _ (fun _ => rfl) (by simp))
  | begin hPc =>
      exact hRecorded
  | parse rest answer mb' pc hPc hQueue hParse hSave hFree =>
      rcases hInv.exchanges with ⟨phase, -, hPhase⟩
      rcases hPhase.parsing hQueue with ⟨-, frame, rfl⟩
      exact
        hRecorded.concat
          (effect_parsed hPhase.2.2.1
            (frameServed_of_mbParsing hInv.initialised hParse))
  | commit q hPc =>
      exact hRecorded
  | resume q next hPc hNext =>
      exact hRecorded
  | finish hPc =>
      exact
        hRecorded.concat
          (effect_of_silent _ (fun _ => rfl) (by simp))
  | restart hPc hCommand =>
      have hSurvives :=
        survives_sysReboot hInv hStore hRecorded hPc
          (hSafe _ rfl)
      have hRebooted :
          Recorded history
            (sysReboot s).memory.mbBufMain :=
        ⟨hSurvives, hRecorded.requests⟩
      exact
        hRebooted.concat
          (effect_of_silent _ (fun _ => rfl) (by simp))
  | factoryAssign i q hFrom hNext =>
      exact hRecorded.concat (effect_defaulted _ q)
  | factoryCommit q hPc =>
      exact hRecorded
  | command hPc =>
      apply hRecorded.congr
      intro r hSaved
      exact
        Function.update_of_ne (ne_regSendCommand hSaved) _ _
  | publish q value hReadOnly =>
      apply hRecorded.congr
      intro r hSaved
      exact
        Function.update_of_ne
          (ne_of_writeCheck hReadOnly hSaved) _ _

theorem recorded_run
    {m : Memory}
    {mbb : MbStruct}
    {actions : List Action}
    {s : System}
    {events : List Event}
    (hSafe :
      EventSystem.Along step RestartsSafely []
        (start m mbb) actions)
    (hRun :
      EventSystem.run step (start m mbb) actions =
        some (s, events)) :
    Recorded events s.memory.mbBufMain := by
  have hAll :
      Inv ([] ++ events) s ∧ StoreInv ([] ++ events) s ∧
        Recorded ([] ++ events) s.memory.mbBufMain :=
    EventSystem.run_invariant_along
      (I := fun history s =>
        Inv history s ∧ StoreInv history s ∧
          Recorded history s.memory.mbBufMain)
      (by
        rintro history s a t event
          ⟨hInv, hStore, hRecorded⟩ hSafe hStep
        have hTransition := transition_of_step hStep
        refine
          ⟨inv_step hInv hTransition,
            storeInv_step hInv hStore hTransition, ?_⟩
        apply recorded_step hInv hStore hRecorded _ hTransition
        rintro mb rfl
        exact hSafe t mb hStep)
      ⟨inv_start m mbb, storeInv_start [] m mbb,
        recorded_nil _⟩
      hSafe hRun
  exact hAll.2.2

theorem commandInv_run
    {m : Memory}
    {mbb : MbStruct}
    {actions : List Action}
    {s : System}
    {events : List Event}
    (hRun :
      EventSystem.run step (start m mbb) actions =
        some (s, events)) :
    CommandInv events s := by
  have hBoth :
      Inv ([] ++ events) s ∧ CommandInv ([] ++ events) s :=
    EventSystem.run_invariant
      (I := fun history s =>
        Inv history s ∧ CommandInv history s)
      (fun _ _ _ _ _ hInv hStep =>
        ⟨inv_step hInv.1 (transition_of_step hStep),
          commandInv_step hInv.1 hInv.2
            (transition_of_step hStep)⟩)
      ⟨inv_start m mbb, fun hSaving => hSaving.elim⟩ hRun
  exact hBoth.2

/- A restart is commanded and taken by the polling task. -/
theorem restarted_inv
    {s t : System}
    {mb : Registers}
    (hTransition : Transition s t (some (.restarted mb))) :
    s.com = .sleeping ∧
      s.memory.mbBufMain regSendCommand ≠ 0 ∧
        mb = (sysReboot s).memory.mbBufMain := by
  generalize hEvent : some (Event.restarted mb) = event
    at hTransition
  cases hTransition with
  | restart hPc hCommand =>
      rw [Option.some.injEq, Event.restarted.injEq] at hEvent
      exact ⟨hPc, hCommand, hEvent⟩
  | _ => cases hEvent

theorem uartHandler_ne_restarted
    (s : System)
    (received : Option Received)
    (txReady : Bool)
    (mb : Registers) :
    (uartHandler s received txReady).2 ≠
      some (.restarted mb) := by
  have hTransmit :
      ∀ u : System,
        (if txReady then uartTransmit u else (u, none)).2 ≠
          some (.restarted mb) := by
    intro u
    unfold uartTransmit
    split_ifs <;> simp
  cases received with
  | none => exact hTransmit s
  | some buf =>
      unfold uartHandler
      rcases uartReceive_cases s buf with
        hNothing | ⟨frame, -, -, hAccept⟩
      · simp only [hNothing]
        exact hTransmit s
      · simp only [hAccept]
        simp

/- Only `com_task` restarts. -/
theorem com_of_restarted
    {s t : System}
    {a : Action}
    {mb : Registers}
    (hStep : step s a = some (t, some (.restarted mb))) :
    a = .com := by
  cases a with
  | com => rfl
  | uart received txReady =>
      rw [step, Option.some.injEq] at hStep
      exact
        absurd (congrArg Prod.snd hStep)
          (uartHandler_ne_restarted s received txReady mb)
  | modbus =>
      rcases modbusStep_cases hStep with
        ⟨-, -, hNone | hSaved⟩ | ⟨_, _, _, -, -, -, -, hParsed⟩
      · cases hNone
      · cases hSaved
      · cases hParsed
  | publish r value =>
      rw [step] at hStep
      split at hStep
      · cases hStep
      · cases hStep

/- Every restart of a run leaves the writes before it. -/
def WritesSurvive (events : List Event) : Prop :=
  ∀ before mb after,
    events = before ++ .restarted mb :: after →
      Survives before mb

theorem writesSurvive_of_restartsSafely
    {m : Memory}
    {mbb : MbStruct}
    {actions : List Action}
    {s : System}
    {events : List Event}
    (hSafe :
      EventSystem.Along step RestartsSafely []
        (start m mbb) actions)
    (hRun :
      EventSystem.run step (start m mbb) actions =
        some (s, events)) :
    WritesSurvive events := by
  rintro before mb after rfl
  rcases EventSystem.exists_step_of_event hRun with
    ⟨earlier, a, later, t, t', rfl, hEarlier, hStep⟩
  have hHere : RestartSafe before t :=
    hSafe earlier a later t before rfl hEarlier t' mb hStep
  have hInv := inv_run hEarlier
  have hStore := storeInv_run hEarlier
  have hRecorded := recorded_run hSafe.append_left hEarlier
  rcases restarted_inv (transition_of_step hStep) with
    ⟨hPc, -, hRebooted⟩
  rw [hRebooted]
  exact survives_sysReboot hInv hStore hRecorded hPc hHere

/-
  In every run, the restarts leave all acknowledged writes,
  and no request partly applied, exactly when each of them is
  executed in a safe state.
-/
theorem writesSurvive_iff_restartsSafely
    (m : Memory)
    (mbb : MbStruct)
    {actions : List Action}
    {s : System}
    {events : List Event}
    (hRun :
      EventSystem.run step (start m mbb) actions =
        some (s, events)) :
    WritesSurvive events ↔
      EventSystem.Along step RestartsSafely []
        (start m mbb) actions := by
  constructor
  · rintro hSurvive earlier a later t before rfl hEarlier t'
      mb hStep
    rcases EventSystem.event_of_exists_step hRun hEarlier
        hStep with
      ⟨after, hEvents⟩
    have hHere := hSurvive before mb after hEvents
    rcases restarted_inv (transition_of_step hStep) with
      ⟨hPc, hCommand, hRebooted⟩
    rw [hRebooted] at hHere
    exact
      restartSafe_of_survives (inv_run hEarlier)
        (storeInv_run hEarlier) (commandInv_run hEarlier) hPc
        hCommand hHere
  · exact fun hSafe =>
      writesSurvive_of_restartsSafely hSafe hRun

/- Write `CODE_RESTART` to the command register. -/
def restartRequest : Received :=
  ⟨[1, 6, 0, 29, 0, 14, 0x98, 0x08], by decide⟩

/- Write 5 and 6 to the saved registers 70 and 71. -/
def addressRequest : Received :=
  ⟨[1, 16, 0, 70, 0, 2, 4, 0, 5, 0, 6, 0xE7, 0xB6],
    by decide⟩

/-
  The write is answered and saved as a whole, and a restart
  is commanded.
-/
def savedWrite : List Action :=
  [.modbus, .uart (some addressRequest) false, .modbus,
    .uart none true, .modbus, .modbus, .modbus, .modbus,
    .modbus, .uart (some restartRequest) false, .modbus,
    .uart none true]

def savedRestart : List Action :=
  savedWrite ++ [.com]

theorem savedRestart_along :
    EventSystem.Along step RestartsSafely []
      (start ⟨mbBufLinked, fun _ => none⟩ mbStructZero)
      savedRestart := by
  have hWaits :
      (EventSystem.run step
          (start ⟨mbBufLinked, fun _ => none⟩ mbStructZero)
          savedWrite).map (fun last => last.1.modbus) =
        some .waiting := by
    decide +kernel
  intro earlier a later t before hSplit hRun u mb hStep
  obtain rfl := com_of_restarted hStep
  obtain rfl : earlier = savedWrite :=
    EventSystem.eq_of_concat_eq_append_cons
      (by simp [savedWrite]) hSplit
  rw [hRun, Option.map_some, Option.some.injEq] at hWaits
  refine Or.inl ?_
  intro r _ hPending
  rw [hWaits] at hPending
  cases hPending.2

theorem savedRestart_survives :
    ∃ s events,
      EventSystem.run step
            (start ⟨mbBufLinked, fun _ => none⟩ mbStructZero)
            savedRestart =
          some (s, events) ∧
        (s.memory.mbBufMain regZigbeeAddr0NPanel = 5 ∧
          s.memory.mbBufMain regZigbeeAddr1NSensPoint = 6) ∧
        WritesSurvive events := by
  have hRestarted :
      (EventSystem.run step
          (start ⟨mbBufLinked, fun _ => none⟩ mbStructZero)
          savedRestart).map
          (fun last =>
            (last.1.memory.mbBufMain regZigbeeAddr0NPanel,
              last.1.memory.mbBufMain
                regZigbeeAddr1NSensPoint)) =
        some (5, 6) := by
    decide +kernel
  rcases Option.map_eq_some_iff.mp hRestarted with
    ⟨⟨s, events⟩, hRun, hValues⟩
  exact
    ⟨s, events, hRun, Prod.mk.inj hValues,
      (writesSurvive_iff_restartsSafely _ _ hRun).mpr
        savedRestart_along⟩

/-
  The restart is commanded, a write is acknowledged, and the
  restart comes between its two commits.
-/
def cutSave : List Action :=
  [.modbus, .uart (some restartRequest) false, .modbus,
    .uart none true, .uart (some addressRequest) false,
    .modbus, .uart none true, .modbus, .modbus, .com]

/-
  What an event shows of a register: the written value, its
  acknowledgement, and the value after a restart.
-/
def Event.observe
    (event : Event)
    (r : Fin numBuf) : Option UInt16 × Bool × Option UInt16 :=
  match event with
  | .parsed _ _ answer _ =>
      (event.writes r, answer.mbState = .stateSend, none)
  | .restarted mb => (none, false, some (mb r))
  | _ => (event.writes r, false, none)

theorem writes_of_observe
    (event : Event)
    (r : Fin numBuf) :
    (event.observe r).1 = event.writes r := by
  cases event <;> rfl

theorem acknowledges_of_observe
    {event : Event}
    {r : Fin numBuf}
    {value : UInt16}
    (hObserved : event.observe r = (some value, true, none)) :
    event.Acknowledges r := by
  have hWrites := writes_of_observe event r
  rw [hObserved] at hWrites
  cases event with
  | parsed request mb answer mb' =>
      unfold Event.observe at hObserved
      rw [Prod.mk.injEq, Prod.mk.injEq, decide_eq_true_eq]
        at hObserved
      refine ⟨hObserved.2.1, ?_⟩
      rw [hObserved.1]
      simp
  | accepted => cases hObserved
  | filled => cases hObserved
  | saved => cases hObserved
  | defaulted => simp [Event.observe] at hObserved
  | restarted => cases hObserved

theorem restarted_of_observe
    {event : Event}
    {r : Fin numBuf}
    {value : UInt16}
    (hObserved : event.observe r = (none, false, some value)) :
    ∃ mb, event = .restarted mb ∧ mb r = value := by
  cases event with
  | restarted mb =>
      simp only [Event.observe, Prod.mk.injEq, true_and,
        Option.some.injEq] at hObserved
      exact ⟨mb, rfl, hObserved⟩
  | parsed => simp [Event.observe] at hObserved
  | accepted => cases hObserved
  | filled => cases hObserved
  | saved => cases hObserved
  | defaulted => simp [Event.observe] at hObserved

/-
  Register 71 was acknowledged with 6 and is 1 after the
  restart, although no later event writes it.
-/
theorem cutSave_not_writesSurvive :
    ¬ ∀ m mbb actions s events,
      EventSystem.run step (start m mbb) actions =
          some (s, events) →
        WritesSurvive events := by
  intro hClaim
  have hObserved :
      (EventSystem.run step
        (start ⟨mbBufLinked, fun _ => none⟩ mbStructZero)
        cutSave).map
          (fun last => last.2.map (fun e => e.observe 71)) =
        some
          (([(none, false, none), (none, true, none),
              (none, false, none), (none, false, none)] ++
            [(some 6, true, none), (none, false, none)]) ++
            [(none, false, some 1)]) := by
    decide +kernel
  rcases Option.map_eq_some_iff.mp hObserved with
    ⟨⟨s, events⟩, hRun, hEvents⟩
  have hSurvive := hClaim _ _ _ s events hRun
  rcases List.map_eq_append_iff.mp hEvents with
    ⟨before, last, rfl, hBefore, hLast⟩
  rcases List.map_eq_append_iff.mp hBefore with
    ⟨front, back, rfl, -, hBack⟩
  rcases List.map_eq_cons_iff.mp hBack with
    ⟨write, after, rfl, hWrite, hAfter⟩
  rcases List.map_eq_cons_iff.mp hAfter with
    ⟨fill, rest, rfl, hFill, hRest⟩
  rcases List.map_eq_cons_iff.mp hLast with
    ⟨restart, rest', rfl, hRestart, -⟩
  rw [List.map_eq_nil_iff.mp hRest] at hSurvive
  rcases restarted_of_observe hRestart with ⟨mb, rfl, hValue⟩
  rcases (hSurvive _ mb rest' rfl).acknowledged 71 (by decide)
      front write [fill] rfl (acknowledges_of_observe hWrite)
    with
    ⟨later, hLater, hWritten⟩
  rw [hValue, ← writes_of_observe] at hWritten
  rcases List.mem_cons.mp hLater with rfl | hFilled
  · rw [hWrite] at hWritten
    exact absurd hWritten (by decide)
  · rw [List.mem_singleton.mp hFilled, hFill] at hWritten
    exact absurd hWritten (by decide)

end Firmware

end TemperatureSensor
