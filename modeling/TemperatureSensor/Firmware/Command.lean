import Mathlib.Data.List.Chain
import TemperatureSensor.Firmware.Restart

/-
  What becomes of the commands that are written to
  `Reg_Send_Command`. `com_task` is suspended within
  `mh_Factory`, and `command_control` overwrites the register
  with 0 afterwards, whatever it holds by then.

  Main declarations:
    * `CommandEvent` and `commandStep`
    * `CommandTransition`
    * `CommandsHandled`
    * `commandsHandled_iff_commandKept`
-/

------------------------------------------------------------
-- The Command Register
------------------------------------------------------------

namespace TemperatureSensor

namespace Firmware

/- The value of `Reg_Send_Command`. -/
def System.command (s : System) : UInt16 :=
  s.memory.mbBufMain regSendCommand

/-
  What happens to the register: a request writes it, the
  switch of `command_control` dispatches its value, the last
  line of `command_control` overwrites this value with 0, or
  a restart sets it to 0.
-/
inductive CommandEvent where
| written (value : UInt16) (acknowledged : Bool)
| dispatched (value : UInt16)
| cleared (value : UInt16)
| restarted
deriving DecidableEq, Repr

/- The register after an event. -/
def CommandEvent.value : CommandEvent → UInt16
| .written value _ => value
| .dispatched value => value
| .cleared _ => 0
| .restarted => 0

def CommandEvent.IsWrite : CommandEvent → Prop
| .written _ _ => True
| _ => False

/- A request that writes the register. -/
def writtenCommand : Option Event → List CommandEvent
| some (.parsed request mb answer mb') =>
    match
        (Event.parsed request mb answer mb').writes
          regSendCommand with
    | some value =>
        [.written value (answer.mbState = .stateSend)]
    | none => []
| _ => []

/- How `command_control` ends, unless it is suspended. -/
def finishedCommand
    (s t : System)
    (event : Option Event) : List CommandEvent :=
  match event, t.com with
  | some (.restarted _), _ => [.restarted]
  | _, .sleeping => [.cleared s.command]
  | _, _ => []

/- A step of `com_task`: its poll, or the rest of a call. -/
def polledCommand
    (s t : System)
    (event : Option Event) : List CommandEvent :=
  match s.com with
  | .sleeping =>
      if s.command = 0 then []
      else .dispatched s.command :: finishedCommand s t event
  | _ => finishedCommand s t event

/- What a step does with the register. -/
def commandEvents
    (s : System)
    (a : Action)
    (t : System)
    (event : Option Event) : List CommandEvent :=
  match a with
  | .modbus => writtenCommand event
  | .com => polledCommand s t event
  | _ => []

/- A step of the system, observed at the register. -/
def commandStep
    (s : System)
    (a : Action) :
    Option (System × Option (List CommandEvent)) :=
  (step s a).map fun next =>
    (next.1, some (commandEvents s a next.1 next.2))

theorem commandStep_eq_some
    {s t : System}
    {a : Action}
    {log : Option (List CommandEvent)}
    (hStep : commandStep s a = some (t, log)) :
    ∃ event,
      step s a = some (t, event) ∧
        log = some (commandEvents s a t event) := by
  rcases Option.map_eq_some_iff.mp hStep with
    ⟨⟨t', event⟩, hNext, hPair⟩
  cases hPair
  exact ⟨event, hNext, rfl⟩

------------------------------------------------------------
-- Transitions of the Register
------------------------------------------------------------

/- `mh_Factory` has committed the last register. -/
def FactoryReturns (s : System) : Prop :=
  ∃ r, s.com = .updated r ∧
    ∀ q, eeSaveCheck q = .regOk → q.val ≤ r.val

/- What one step does with the register, case by case. -/
inductive CommandTransition
    (s : System)
    (a : Action)
    (t : System) : List CommandEvent → Prop where
| other
    (hCommand : t.command = s.command)
    (hCom : t.com = .sleeping ↔ s.com = .sleeping) :
    CommandTransition s a t []
| write
    (value : UInt16)
    (acknowledged : Bool)
    (hCommand : t.command = value)
    (hCom : t.com = s.com) :
    CommandTransition s a t [.written value acknowledged]
| restart
    (hCom : s.com = .sleeping)
    (hNext : t.com = .sleeping)
    (hCommand : t.command = 0) :
    CommandTransition s a t
      [.dispatched s.command, .restarted]
| pass
    (hCom : s.com = .sleeping)
    (hNext : t.com = .sleeping)
    (hCommand : t.command = 0) :
    CommandTransition s a t
      [.dispatched s.command, .cleared s.command]
| enter
    (hCom : s.com = .sleeping)
    (hReset : s.command = codeResetToDefault)
    (hNext : t.com ≠ .sleeping)
    (hCommand : t.command = s.command) :
    CommandTransition s a t [.dispatched s.command]
| leave
    (hAction : a = .com)
    (hReturns : FactoryReturns s)
    (hNext : t.com = .sleeping)
    (hCommand : t.command = 0) :
    CommandTransition s a t [.cleared s.command]

theorem command_assign
    {m : Memory}
    {r : Fin numBuf}
    (value : UInt16)
    (hOther : r ≠ regSendCommand) :
    (m.assign r value).mbBufMain regSendCommand =
      m.mbBufMain regSendCommand :=
  Function.update_of_ne (Ne.symm hOther) _ _

theorem command_commandDone
    (s : System) :
    (commandDone s).command = 0 :=
  Function.update_self regSendCommand 0 s.memory.mbBufMain

/- A start keeps the registers that are not saved. -/
theorem start_other
    (m : Memory)
    (mbb : MbStruct)
    {r : Fin numBuf}
    (hOther : eeSaveCheck r ≠ .regOk) :
    (start m mbb).memory.mbBufMain r = m.mbBufMain r := by
  rw [start_memory]
  exact (mhBufInit_repaired m).other r hOther

theorem command_sysReboot
    (s : System) :
    (sysReboot s).command = 0 := by
  unfold System.command sysReboot
  rw [start_other _ _ (by decide)]
  rfl

/- The callback does not reach registers or `com_task`. -/
theorem uartHandler_keeps
    (s : System)
    (received : Option Received)
    (txReady : Bool) :
    (uartHandler s received txReady).1.memory = s.memory ∧
      (uartHandler s received txReady).1.com = s.com := by
  have hTransmit :
      ∀ t : System,
        (if txReady then uartTransmit t else (t, none)).1.memory =
            t.memory ∧
          (if txReady then uartTransmit t else (t, none)).1.com =
            t.com := by
    intro t
    unfold uartTransmit
    split
    · split
      · exact ⟨rfl, rfl⟩
      · exact ⟨rfl, rfl⟩
    · exact ⟨rfl, rfl⟩
  unfold uartHandler
  cases received with
  | none => exact hTransmit s
  | some buf =>
      rcases uartReceive_cases s buf with
        hNothing | ⟨frame, -, -, hAccept⟩
      · simp only [hNothing]
        exact hTransmit s
      · simp only [hAccept]
        exact hTransmit _

/- A served request writes the register, or keeps it. -/
theorem commandTransition_modbusStep
    {history : List Event}
    {s t : System}
    {event : Option Event}
    (hInv : Inv history s)
    (hStep : modbusStep s = some (t, event)) :
    CommandTransition s .modbus t (writtenCommand event) := by
  rcases modbusStep_cases hStep with
    ⟨hKept, hCom, hEvent⟩ |
      ⟨rest, answer, mb', hQueue, hParse, hNew, hCom, rfl⟩
  · have hSilent : writtenCommand event = [] := by
      rcases hEvent with rfl | rfl
      · rfl
      · rfl
    rw [hSilent]
    exact
      CommandTransition.other (congrFun hKept regSendCommand)
        (by rw [hCom])
  · rcases hInv.exchanges with ⟨phase, -, hPhase⟩
    rcases hPhase.parsing hQueue with ⟨-, frame, rfl⟩
    have hServed :=
      frameServed_of_mbParsing hInv.initialised hParse
    have hValue : t.command = mb' regSendCommand :=
      congrFun hNew regSendCommand
    unfold writtenCommand
    rcases writes_or_kept hPhase.2.2.1 hServed
        regSendCommand with
      hWrites | ⟨hWrites, hKept⟩
    · simp only [hWrites]
      exact CommandTransition.write _ _ hValue hCom
    · simp only [hWrites]
      exact
        CommandTransition.other (hValue.trans hKept)
          (by rw [hCom])

theorem commandTransition_comStep
    {s t : System}
    {event : Option Event}
    (hStep : comStep s = some (t, event)) :
    CommandTransition s .com t (polledCommand s t event) := by
  unfold polledCommand
  cases comTransition_of_step hStep with
  | poll hPc hNone =>
      have hZero : s.command = 0 := hNone
      simp only [hPc, if_pos hZero]
      exact CommandTransition.other rfl Iff.rfl
  | restart hPc hCommand =>
      have hSet : s.command ≠ 0 := hCommand
      simp only [hPc, if_neg hSet]
      exact
        CommandTransition.restart hPc rfl
          (command_sysReboot s)
  | pass hPc hCommand =>
      have hSet : s.command ≠ 0 := hCommand
      simp only [hPc, if_neg hSet]
      exact
        CommandTransition.pass hPc rfl (command_commandDone s)
  | enter r hPc hCommand hNext =>
      have hReset : s.command = codeResetToDefault := hCommand
      have hSet : s.command ≠ 0 := by
        rw [hReset]
        decide
      simp only [hPc, if_neg hSet]
      exact
        CommandTransition.enter hPc hReset (by simp)
          (command_assign _ (ne_regSendCommand hNext.1.2.2))
  | commit r hPc =>
      simp only [hPc]
      exact
        CommandTransition.other rfl
          (iff_of_false (by simp) (by simp [hPc]))
  | resume q r hPc hNext =>
      simp only [hPc]
      exact
        CommandTransition.other
          (command_assign _ (ne_regSendCommand hNext.1.2.2))
          (iff_of_false (by simp) (by simp [hPc]))
  | leave q hPc hNext =>
      simp only [hPc]
      apply
        CommandTransition.leave rfl _ rfl
          (command_commandDone s)
      refine ⟨q, hPc, ?_⟩
      intro r hSaved
      by_contra hAbove
      have hBeyond := hNext r hSaved (by omega)
      omega

/- Every step is one of these transitions. -/
theorem commandTransition_of_step
    {history : List Event}
    {s t : System}
    {a : Action}
    {event : Option Event}
    (hInv : Inv history s)
    (hStep : step s a = some (t, event)) :
    CommandTransition s a t (commandEvents s a t event) := by
  cases a with
  | uart received txReady =>
      rw [step, Option.some.injEq] at hStep
      rcases uartHandler_keeps s received txReady with
        ⟨hMemory, hCom⟩
      rw [hStep] at hMemory hCom
      apply CommandTransition.other
      · unfold System.command
        rw [hMemory]
      · rw [hCom]
  | modbus => exact commandTransition_modbusStep hInv hStep
  | com => exact commandTransition_comStep hStep
  | publish r value =>
      rw [step] at hStep
      split at hStep
      · next hReadOnly =>
          cases hStep
          refine CommandTransition.other ?_ Iff.rfl
          apply command_assign
          rintro rfl
          revert hReadOnly
          decide
      · cases hStep

------------------------------------------------------------
-- Logs
------------------------------------------------------------

/-
  What may come directly after an event: a dispatched or
  overwritten value is the one that the event has left, and
  a restart was dispatched.
-/
def Follows (earlier : CommandEvent) : CommandEvent → Prop
| .written _ _ => True
| .dispatched value => earlier.value = value
| .cleared value => earlier.value = value
| .restarted => ∃ value, earlier = .dispatched value

/- The value was dispatched, and only written since then. -/
def DispatchedLast
    (log : List CommandEvent)
    (value : UInt16) : Prop :=
  EventSystem.Since (fun event => event = .dispatched value)
    (fun event => ¬ event.IsWrite) log

/-
  The log describes the register, and a call of `mh_Factory`
  that has not returned was dispatched.
-/
structure LogInv
    (log : List CommandEvent)
    (s : System) : Prop where
  buffer : ∃ history, Inv history s
  chain : log.IsChain Follows
  value :
    ∀ event, log.getLast? = some event →
      event.value = s.command
  factory :
    s.com ≠ .sleeping →
      DispatchedLast log codeResetToDefault

theorem logInv_start
    (m : Memory)
    (mbb : MbStruct) :
    LogInv [] (start m mbb) := by
  constructor
  · exact ⟨[], inv_start m mbb⟩
  · exact List.IsChain.nil
  · intro event hLast
    cases hLast
  · exact fun hCom => absurd rfl hCom

theorem dispatchedLast_concat
    (log : List CommandEvent)
    (value : UInt16) :
    DispatchedLast (log ++ [.dispatched value]) value :=
  EventSystem.since_concat.mpr (Or.inl rfl)

theorem DispatchedLast.write
    {log : List CommandEvent}
    {value : UInt16}
    (hDispatched : DispatchedLast log value)
    {event : CommandEvent}
    (hWrite : event.IsWrite) :
    DispatchedLast (log ++ [event]) value :=
  EventSystem.since_concat.mpr
    (Or.inr ⟨hDispatched, not_not_intro hWrite⟩)

/- Only one value is the last that was dispatched. -/
theorem DispatchedLast.unique
    {log : List CommandEvent}
    {value value' : UInt16}
    (hFirst : DispatchedLast log value)
    (hSecond : DispatchedLast log value') :
    value = value' := by
  rcases
      EventSystem.Since.exists_common hFirst hSecond
        (by
          rintro event rfl
          exact id)
        (by
          rintro event rfl
          exact id) with
    ⟨event, rfl, hSame⟩
  cases hSame
  rfl

/- A log is extended by an event that may follow. -/
theorem isChain_concat
    {log : List CommandEvent}
    {event : CommandEvent}
    (hChain : log.IsChain Follows)
    (hFollows :
      ∀ last, log.getLast? = some last →
        Follows last event) :
    (log ++ [event]).IsChain Follows := by
  apply hChain.append (List.isChain_singleton event)
  intro last hLast next hNext
  cases hNext
  exact hFollows last hLast

/- One event that tells the value of the register. -/
theorem logInv_concat
    {log : List CommandEvent}
    {event : CommandEvent}
    {s : System}
    (hBuffer : ∃ history, Inv history s)
    (hChain : (log ++ [event]).IsChain Follows)
    (hValue : event.value = s.command)
    (hFactory :
      s.com ≠ .sleeping →
        DispatchedLast (log ++ [event]) codeResetToDefault) :
    LogInv (log ++ [event]) s := by
  refine ⟨hBuffer, hChain, ?_, hFactory⟩
  intro last hLast
  rw [List.getLast?_concat] at hLast
  cases hLast
  exact hValue

theorem logInv_step
    {log events : List CommandEvent}
    {s t : System}
    {a : Action}
    (hLog : LogInv log s)
    (hBuffer : ∃ history, Inv history t)
    (hTransition : CommandTransition s a t events) :
    LogInv (log ++ events) t := by
  rcases hLog with ⟨-, hChain, hValue, hFactory⟩
  have hDispatch :
      (log ++ [CommandEvent.dispatched s.command]).IsChain
        Follows :=
    isChain_concat hChain hValue
  have hDispatched :
      ∀ last,
        (log ++ [CommandEvent.dispatched s.command]).getLast? =
            some last →
          last = .dispatched s.command := by
    intro last hLast
    rw [List.getLast?_concat] at hLast
    exact (Option.some.inj hLast).symm
  cases hTransition with
  | other hCommand hCom =>
      rw [List.append_nil]
      refine ⟨hBuffer, hChain, ?_, ?_⟩
      · rw [hCommand]
        exact hValue
      · exact fun hBusy => hFactory (mt hCom.mpr hBusy)
  | write value acknowledged hCommand hCom =>
      refine
        logInv_concat hBuffer (isChain_concat hChain ?_)
          hCommand.symm ?_
      · exact fun _ _ => trivial
      · intro hBusy
        rw [hCom] at hBusy
        exact (hFactory hBusy).write trivial
  | restart hCom hNext hCommand =>
      rw [List.append_cons]
      refine
        logInv_concat hBuffer (isChain_concat hDispatch ?_)
          hCommand.symm (fun hBusy => absurd hNext hBusy)
      intro last hLast
      exact ⟨s.command, hDispatched last hLast⟩
  | pass hCom hNext hCommand =>
      rw [List.append_cons]
      refine
        logInv_concat hBuffer (isChain_concat hDispatch ?_)
          hCommand.symm (fun hBusy => absurd hNext hBusy)
      intro last hLast
      rw [hDispatched last hLast]
      rfl
  | enter hCom hReset hNext hCommand =>
      apply logInv_concat hBuffer hDispatch hCommand.symm
      intro _
      rw [← hReset]
      exact dispatchedLast_concat log s.command
  | leave hAction hReturns hNext hCommand =>
      exact
        logInv_concat hBuffer (isChain_concat hChain hValue)
          hCommand.symm (fun hBusy => absurd hNext hBusy)

------------------------------------------------------------
-- Handled Commands
------------------------------------------------------------

/-
  What `command_control` overwrites with 0 is the value that
  its switch has dispatched, and an acknowledged command that
  no later request overwrites is dispatched before it is
  cleared.
-/
structure CommandsHandled (log : List CommandEvent) : Prop where
  cleared :
    ∀ before value after,
      log = before ++ .cleared value :: after →
        DispatchedLast before value
  acknowledged :
    ∀ before value between last after,
      log =
          before ++ .written value true ::
            (between ++ .cleared last :: after) →
        (∀ event ∈ between, ¬ event.IsWrite) →
          .dispatched value ∈ between

theorem commandsHandled_nil : CommandsHandled [] := by
  constructor
  · intro before value after hSplit
    simp at hSplit
  · intro before value between last after hSplit
    simp at hSplit

/-
  What comes directly after a command is its dispatch, a
  write, or its loss.
-/
theorem dispatched_of_follows
    {value : UInt16}
    {acknowledged : Bool}
    {event : CommandEvent}
    (hFollows : Follows (.written value acknowledged) event)
    (hSilent : ¬ event.IsWrite) :
    event = .dispatched value ∨
      ∃ last, event = .cleared last := by
  cases event with
  | written => exact (hSilent trivial).elim
  | dispatched other =>
      have hSame : value = other := hFollows
      rw [hSame]
      exact Or.inl rfl
  | cleared other => exact Or.inr ⟨other, rfl⟩
  | restarted =>
      rcases hFollows with ⟨other, hOther⟩
      cases hOther

/- An event that loses nothing keeps a log in order. -/
theorem CommandsHandled.concat
    {log : List CommandEvent}
    {event : CommandEvent}
    (hHandled : CommandsHandled log)
    (hChain : (log ++ [event]).IsChain Follows)
    (hCleared :
      ∀ value, event = .cleared value →
        DispatchedLast log value ∧
          ∀ other,
            log.getLast? ≠ some (.written other true)) :
    CommandsHandled (log ++ [event]) := by
  constructor
  · intro before value after hSplit
    rcases EventSystem.concat_eq_append_cons hSplit with
      ⟨-, rfl, hEvent⟩ | ⟨after', -, hLog⟩
    · exact (hCleared value hEvent.symm).1
    · exact hHandled.cleared before value after' hLog
  · intro before value between last after hSplit hSilent
    rw [← List.cons_append, ← List.append_assoc] at hSplit
    rcases EventSystem.concat_eq_append_cons hSplit with
      ⟨-, hLog, hEvent⟩ | ⟨after', -, hLog⟩
    · rcases hCleared last hEvent.symm with ⟨-, hUnwritten⟩
      cases between with
      | nil =>
          refine absurd ?_ (hUnwritten value)
          rw [← hLog, List.getLast?_concat]
      | cons next rest =>
          rw [hSplit, List.append_assoc, List.cons_append,
            List.cons_append,
            List.isChain_append_cons_cons] at hChain
          rcases dispatched_of_follows hChain.2.1
              (hSilent next (by simp)) with
            rfl | ⟨lost, rfl⟩
          · simp
          · have hLost :=
              hHandled.acknowledged before value [] lost rest
                hLog.symm (by simp)
            cases hLost
    · rw [List.append_assoc] at hLog
      exact
        hHandled.acknowledged before value between last after'
          hLog hSilent

------------------------------------------------------------
-- Undisturbed Resets
------------------------------------------------------------

/-
  When `mh_Factory` returns, no request has written the
  register since it was called. A broadcast that has written
  the code of the reset again does no harm.
-/
def CommandKept
    (history : List (List CommandEvent))
    (s : System)
    (a : Action) : Prop :=
  a = .com → FactoryReturns s →
    ∀ value acknowledged,
      history.flatten.getLast? =
          some (.written value acknowledged) →
        value = codeResetToDefault ∧ acknowledged = false

/- What `mh_Factory` was called for is overwritten. -/
theorem dispatchedLast_of_commandKept
    {log : List CommandEvent}
    {s : System}
    (hLog : LogInv log s)
    (hBusy : s.com ≠ .sleeping)
    (hKept :
      ∀ value acknowledged,
        log.getLast? = some (.written value acknowledged) →
          value = codeResetToDefault ∧ acknowledged = false) :
    DispatchedLast log s.command := by
  have hDispatched := hLog.factory hBusy
  have hSame : s.command = codeResetToDefault := by
    rcases List.eq_nil_or_concat log with
      rfl | ⟨rest, last, hConcat⟩
    · exact absurd hDispatched EventSystem.not_since_nil
    · rw [List.concat_eq_append] at hConcat
      subst hConcat
      rw [← hLog.value last List.getLast?_concat]
      rcases EventSystem.since_concat.mp hDispatched with
        rfl | ⟨-, hWrite⟩
      · rfl
      · cases last with
        | written value acknowledged =>
            exact
              (hKept value acknowledged
                List.getLast?_concat).1
        | dispatched => exact absurd id hWrite
        | cleared => exact absurd id hWrite
        | restarted => exact absurd id hWrite
  rw [hSame]
  exact hDispatched

theorem commandsHandled_step
    {log events : List CommandEvent}
    {s t : System}
    {a : Action}
    (hLog : LogInv log s)
    (hNext : LogInv (log ++ events) t)
    (hHandled : CommandsHandled log)
    (hKept :
      a = .com → FactoryReturns s →
        ∀ value acknowledged,
          log.getLast? = some (.written value acknowledged) →
            value = codeResetToDefault ∧
              acknowledged = false)
    (hTransition : CommandTransition s a t events) :
    CommandsHandled (log ++ events) := by
  have hChain := hNext.chain
  cases hTransition with
  | other hCommand hCom =>
      rw [List.append_nil]
      exact hHandled
  | write value acknowledged hCommand hCom =>
      exact hHandled.concat hChain (by simp)
  | restart hCom hRebooted hCommand =>
      rw [List.append_cons] at hChain ⊢
      exact
        (hHandled.concat hChain.left_of_append
          (by simp)).concat hChain (by simp)
  | pass hCom hDone hCommand =>
      rw [List.append_cons] at hChain ⊢
      apply
        (hHandled.concat hChain.left_of_append
          (by simp)).concat hChain
      intro value hSame
      cases hSame
      refine ⟨dispatchedLast_concat log s.command, ?_⟩
      intro other hLast
      rw [List.getLast?_concat] at hLast
      cases hLast
  | enter hCom hReset hBusy hCommand =>
      exact hHandled.concat hChain (by simp)
  | leave hAction hReturns hDone hCommand =>
      have hBusy : s.com ≠ .sleeping := by
        rcases hReturns with ⟨r, hCom, -⟩
        rw [hCom]
        simp
      have hLast := hKept hAction hReturns
      apply hHandled.concat hChain
      intro value hSame
      cases hSame
      refine
        ⟨dispatchedLast_of_commandKept hLog hBusy hLast, ?_⟩
      intro other hWritten
      cases (hLast other true hWritten).2

------------------------------------------------------------
-- Runs
------------------------------------------------------------

theorem logInv_commandStep
    {history : List (List CommandEvent)}
    {s t : System}
    {a : Action}
    {log : Option (List CommandEvent)}
    (hLog : LogInv history.flatten s)
    (hStep : commandStep s a = some (t, log)) :
    LogInv (EventSystem.record history log).flatten t := by
  rcases commandStep_eq_some hStep with
    ⟨event, hNext, rfl⟩
  rcases hLog.buffer with ⟨earlier, hInv⟩
  unfold EventSystem.record
  rw [List.flatten_append, List.flatten_singleton]
  exact
    logInv_step hLog
      ⟨_, inv_step hInv (transition_of_step hNext)⟩
      (commandTransition_of_step hInv hNext)

theorem logInv_run
    {m : Memory}
    {mbb : MbStruct}
    {actions : List Action}
    {s : System}
    {log : List (List CommandEvent)}
    (hRun :
      EventSystem.run commandStep (start m mbb) actions =
        some (s, log)) :
    LogInv log.flatten s := by
  have hAll : LogInv ([] ++ log).flatten s :=
    EventSystem.run_invariant
      (I := fun history s => LogInv history.flatten s)
      (fun _ _ _ _ _ hLog hStep =>
        logInv_commandStep hLog hStep)
      (logInv_start m mbb) hRun
  exact hAll

theorem commandsHandled_run
    {m : Memory}
    {mbb : MbStruct}
    {actions : List Action}
    {s : System}
    {log : List (List CommandEvent)}
    (hKept :
      EventSystem.Along commandStep CommandKept []
        (start m mbb) actions)
    (hRun :
      EventSystem.run commandStep (start m mbb) actions =
        some (s, log)) :
    CommandsHandled log.flatten := by
  have hAll :
      LogInv ([] ++ log).flatten s ∧
        CommandsHandled ([] ++ log).flatten :=
    EventSystem.run_invariant_along
      (I := fun history s =>
        LogInv history.flatten s ∧
          CommandsHandled history.flatten)
      (by
        rintro history s a t log ⟨hLog, hHandled⟩ hKept hStep
        have hNext := logInv_commandStep hLog hStep
        refine ⟨hNext, ?_⟩
        rcases commandStep_eq_some hStep with
          ⟨event, hFirst, rfl⟩
        rcases hLog.buffer with ⟨earlier, hInv⟩
        unfold EventSystem.record at hNext ⊢
        rw [List.flatten_append, List.flatten_singleton]
          at hNext ⊢
        exact
          commandsHandled_step hLog hNext hHandled hKept
            (commandTransition_of_step hInv hFirst))
      ⟨logInv_start m mbb, commandsHandled_nil⟩
      hKept hRun
  exact hAll.2

/- The return of `mh_Factory` clears the register. -/
theorem commandStep_of_factoryReturns
    {s : System}
    (hReturns : FactoryReturns s) :
    commandStep s .com =
      some (commandDone s, some [.cleared s.command]) := by
  rcases hReturns with ⟨r, hCom, hLast⟩
  have hEnd : r.val + 1 + (numBuf - (r.val + 1)) = numBuf :=
    Nat.add_sub_of_le r.isLt
  rcases saveScan_isSome hEnd.le with ⟨next, hScan⟩
  have hNext := nextSaved_of_saveScan hScan
  cases next with
  | some q =>
      have hAbove := hLast q hNext.1.2.2
      have hBeyond := hNext.1.1
      omega
  | none =>
      have hStep : step s .com = some (commandDone s, none) := by
        rw [step, comStep, hCom]
        simp only [factoryFrom, hScan, Option.map_some]
      unfold commandStep
      rw [hStep, Option.map_some]
      unfold commandEvents polledCommand
      simp only [hCom]
      rfl

/- A write during the reset is lost, or is not dispatched. -/
theorem commandKept_of_commandsHandled
    {log after : List CommandEvent}
    {s : System}
    (hLog : LogInv log s)
    (hBusy : s.com ≠ .sleeping)
    (hHandled :
      CommandsHandled (log ++ .cleared s.command :: after))
    {value : UInt16}
    {acknowledged : Bool}
    (hLast :
      log.getLast? = some (.written value acknowledged)) :
    value = codeResetToDefault ∧ acknowledged = false := by
  have hValue : value = s.command := hLog.value _ hLast
  have hCleared := hHandled.cleared log s.command after rfl
  refine ⟨?_, ?_⟩
  · rw [hValue]
    exact hCleared.unique (hLog.factory hBusy)
  · cases acknowledged with
    | false => rfl
    | true =>
        rcases List.getLast?_eq_some_iff.mp hLast with
          ⟨front, rfl⟩
        have hDispatched :=
          hHandled.acknowledged front value [] s.command after
            (by simp) (by simp)
        cases hDispatched

/-
  In every run, `command_control` clears only what it has
  dispatched, and no acknowledged command is lost, exactly
  when no request writes the register during a call of
  `mh_Factory`.
-/
theorem commandsHandled_iff_commandKept
    (m : Memory)
    (mbb : MbStruct)
    {actions : List Action}
    {s : System}
    {log : List (List CommandEvent)}
    (hRun :
      EventSystem.run commandStep (start m mbb) actions =
        some (s, log)) :
    CommandsHandled log.flatten ↔
      EventSystem.Along commandStep CommandKept []
        (start m mbb) actions := by
  constructor
  · rintro hHandled earlier a later t before rfl hEarlier rfl
      hReturns value acknowledged hLast
    have hStep := commandStep_of_factoryReturns hReturns
    rcases EventSystem.event_of_exists_step hRun hEarlier
        hStep with
      ⟨after, hLog⟩
    have hFlat :
        log.flatten =
          before.flatten ++
            .cleared t.command :: after.flatten := by
      rw [hLog]
      simp
    have hBusy : t.com ≠ .sleeping := by
      rcases hReturns with ⟨r, hCom, -⟩
      rw [hCom]
      simp
    rw [hFlat] at hHandled
    exact
      commandKept_of_commandsHandled (logInv_run hEarlier)
        hBusy hHandled hLast
  · exact fun hKept => commandsHandled_run hKept hRun

/-
  The factory reset runs to its end and clears the register;
  only then a restart is commanded.
-/
def quietReset : List Action :=
  [.modbus, .uart (some resetRequest) false, .modbus,
    .uart none true] ++
    List.replicate 59 .com ++
      [.uart (some restartRequest) false, .modbus,
        .uart none true, .com]

def quietLog : List CommandEvent := [
  .written codeResetToDefault true,
  .dispatched codeResetToDefault,
  .cleared codeResetToDefault,
  .written codeRestart true,
  .dispatched codeRestart,
  .restarted]

/- The log ends with a dispatch where the reset returns. -/
theorem quietReset_commandKept
    {s : System}
    {log : List (List CommandEvent)}
    (hRun :
      EventSystem.run commandStep
          (start ⟨mbBufLinked, fun _ => none⟩ mbStructZero)
          quietReset =
        some (s, log))
    (hLog : log.flatten = quietLog) :
    EventSystem.Along commandStep CommandKept []
      (start ⟨mbBufLinked, fun _ => none⟩ mbStructZero)
      quietReset := by
  rintro earlier a later t before hSplit hEarlier rfl hReturns
    value acknowledged hLast
  rw [hSplit] at hRun
  rcases EventSystem.event_of_exists_step hRun hEarlier
      (commandStep_of_factoryReturns hReturns) with
    ⟨after, hEvents⟩
  have hFlat :
      before.flatten ++ .cleared t.command :: after.flatten =
        quietLog := by
    rw [← hLog, hEvents]
    simp
  rw [List.nil_append] at hLast
  rcases List.getLast?_eq_some_iff.mp hLast with
    ⟨front, hFront⟩
  rw [hFront, List.append_assoc] at hFlat
  -- No write of the log is followed by a clear.
  have hFew : front.length ≤ 4 := by
    have hTotal := congrArg List.length hFlat
    simp [quietLog] at hTotal
    omega
  unfold quietLog at hFlat
  rcases front with
    _ | ⟨x, _ | ⟨y, _ | ⟨z, _ | ⟨u, front⟩⟩⟩⟩
  · simp at hFlat
  · simp at hFlat
  · simp at hFlat
  · simp at hFlat
  · simp only [List.length_cons] at hFew
    have hEmpty : front = [] :=
      List.length_eq_zero_iff.mp (by omega)
    rw [hEmpty] at hFlat
    simp at hFlat

theorem quietReset_commandsHandled :
    ∃ s log,
      EventSystem.run commandStep
            (start ⟨mbBufLinked, fun _ => none⟩ mbStructZero)
            quietReset =
          some (s, log) ∧
        log.flatten = quietLog ∧
          CommandsHandled log.flatten := by
  have hObserved :
      (EventSystem.run commandStep
          (start ⟨mbBufLinked, fun _ => none⟩ mbStructZero)
          quietReset).map (fun last => last.2.flatten) =
        some quietLog := by
    decide +kernel
  rcases Option.map_eq_some_iff.mp hObserved with
    ⟨⟨s, log⟩, hRun, hLog⟩
  exact
    ⟨s, log, hRun, hLog,
      (commandsHandled_iff_commandKept _ _ hRun).mpr
        (quietReset_commandKept hRun hLog)⟩

/- A restart is commanded while the reset is running. -/
def lostRestart : List Action :=
  [.modbus, .uart (some resetRequest) false, .modbus,
    .uart none true, .com, .uart (some restartRequest) false,
    .modbus] ++ List.replicate 58 .com

/- The acknowledged restart is cleared and never taken. -/
theorem lostRestart_not_commandsHandled :
    ¬ ∀ m mbb actions s log,
      EventSystem.run commandStep (start m mbb) actions =
          some (s, log) →
        CommandsHandled log.flatten := by
  intro hClaim
  have hObserved :
      (EventSystem.run commandStep
        (start ⟨mbBufLinked, fun _ => none⟩ mbStructZero)
        lostRestart).map (fun last => last.2.flatten) =
        some
          [.written codeResetToDefault true,
            .dispatched codeResetToDefault,
            .written codeRestart true,
            .cleared codeRestart] := by
    decide +kernel
  rcases Option.map_eq_some_iff.mp hObserved with
    ⟨⟨s, log⟩, hRun, hLog⟩
  have hHandled := hClaim _ _ _ s log hRun
  rw [hLog] at hHandled
  have hDispatched :=
    hHandled.acknowledged
      [.written codeResetToDefault true,
        .dispatched codeResetToDefault]
      codeRestart [] codeRestart [] rfl (by simp)
  cases hDispatched

end Firmware

end TemperatureSensor
