import TemperatureSensor.Firmware.Buffer
import TemperatureSensor.Modbus.Leftovers
import TemperatureSensor.Modbus.LineErrors

/-
  A line that damages frames: every run over it ends as a run
  without the damaged frames does, which leaves out nothing
  but frames.

  Main declarations:
    * `Cleans`
    * `Observation` and `observe`
    * `Matches`
    * `noise_loses_only_frames`
-/

------------------------------------------------------------
-- Clean Runs
------------------------------------------------------------

namespace TemperatureSensor

namespace Firmware

open SideBySide

/-
  What becomes of an action without the damaged frames: a
  chunk may stay away, unless it is damaged it may also be
  received, and the task need not parse.
-/
inductive Cleans : Action → List Action → Prop where
| keep
    (a : Action)
    (hUndamaged :
      ∀ buf txReady, a = .uart (some buf) txReady →
        ¬ LineDamage buf.bytes) :
    Cleans a [a]
| silence
    (buf : Received)
    (txReady : Bool) :
    Cleans (.uart (some buf) txReady) [.uart none txReady]
| skip : Cleans .modbus []

/- What can be told of an event without the frame buffer. -/
inductive Observation where
| accepted (bytes : List UInt8)
| parsed
    (message : List UInt8)
    (mb mb' : Registers)
    (response : Option (List UInt8))
| filled (bytes : List UInt8)
| saved
| defaulted (r : Fin numBuf)
| restarted (mb : Registers)

/- The response that waits to be sent, if there is one. -/
def waitingResponse (answer : MbStruct) :
    Option (List UInt8) :=
  if answer.mbState = .stateSend then some answer.response
  else none

open Classical in
/- The events, but for those of damaged frames. -/
noncomputable def observe : Event → Option Observation
| .accepted frame =>
    if LineDamage frame.bytes then none
    else some (.accepted frame.bytes)
| .parsed request mb answer mb' =>
    if LineDamage request.message then none
    else
      some
        (.parsed request.message mb mb'
          (waitingResponse answer))
| .filled bytes => some (.filled bytes)
| .saved => some .saved
| .defaulted r => some (.defaulted r)
| .restarted mb => some (.restarted mb)

------------------------------------------------------------
-- Matching States
------------------------------------------------------------

/- The exchange is the same, as far as it goes on. -/
structure SameExchange (usb usb' : MbStruct) : Prop where
  fields : SameFields usb usb'
  state : usb'.mbState = usb.mbState
  frame :
    usb.mbState = .statePars →
      usb'.mbIndex = usb.mbIndex ∧
        SameBytes usb.mbIndex.toNat usb.pMbBuff usb'.pMbBuff
  response :
    usb.mbState = .stateSend → usb'.response = usb.response

/-
  The state with noise beside the one without it: the exchange
  is the same, or a damaged frame waits to be parsed while
  nothing waits without it.
-/
inductive SameLine (s t : System) : Prop where
| same
    (hQueue : t.mhQueue = s.mhQueue)
    (hExchange : SameExchange s.usb t.usb)
| damaged
    (hFields : SameFields s.usb t.usb)
    (hQueue : s.mhQueue = [.mbUsb])
    (hState : s.usb.mbState = .statePars)
    (hDamage : LineDamage s.usb.message)
    (hEmpty : t.mhQueue = [])
    (hIdle : t.usb.mbState = .stateIdle)

structure Matches (s t : System) : Prop where
  memory : t.memory = s.memory
  modbus : t.modbus = s.modbus
  com : t.com = s.com
  line : SameLine s t

theorem SameFields.refl
    (usb : MbStruct) :
    SameFields usb usb :=
  ⟨⟨rfl, rfl, rfl, rfl⟩, rfl, rfl, rfl⟩

theorem SameExchange.refl
    (usb : MbStruct) :
    SameExchange usb usb :=
  ⟨SameFields.refl usb, rfl, fun _ => ⟨rfl, fun _ _ => rfl⟩,
    fun _ => rfl⟩

theorem Matches.refl
    (s : System) :
    Matches s s :=
  ⟨rfl, rfl, rfl, .same rfl (SameExchange.refl s.usb)⟩

/- What one step of the line is matched by. -/
def Matched
    (a : Action)
    (s' : System)
    (event : Option Event)
    (t : System) : Prop :=
  ∃ actions t' events,
    Cleans a actions ∧
      EventSystem.run step t actions = some (t', events) ∧
        event.toList.filterMap observe =
            events.filterMap observe ∧
          Matches s' t'

/- A step that is matched by one step. -/
theorem matched_of_step
    {a b : Action}
    {s' t u : System}
    {event event' : Option Event}
    (hCleans : Cleans a [b])
    (hStep : step t b = some (u, event'))
    (hObserved :
      event.toList.filterMap observe =
        event'.toList.filterMap observe)
    (hMatches : Matches s' u) :
    Matched a s' event t := by
  refine
    ⟨[b], u, event'.toList, hCleans, ?_, hObserved, hMatches⟩
  exact
    EventSystem.run_cons_eq_some.mpr
      ⟨u, event', [], hStep, rfl, (List.append_nil _).symm⟩

------------------------------------------------------------
-- UART Callback
------------------------------------------------------------

/- Sending is the same on both sides. -/
theorem transmit_matches
    {s t : System}
    (hMatches : Matches s t)
    (txReady : Bool) :
    (uartHandler s none txReady).2.toList.filterMap observe =
        (uartHandler t none txReady).2.toList.filterMap
          observe ∧
      Matches (uartHandler s none txReady).1
        (uartHandler t none txReady).1 := by
  cases txReady with
  | false => exact ⟨rfl, hMatches⟩
  | true =>
      rcases hMatches with ⟨hMemory, hModbus, hCom, hLine⟩
      change
        (uartTransmit s).2.toList.filterMap observe =
            (uartTransmit t).2.toList.filterMap observe ∧
          Matches (uartTransmit s).1 (uartTransmit t).1
      unfold uartTransmit
      cases hLine with
      | same hQueue hExchange =>
          rw [hExchange.state]
          split
          · next hSend =>
              rw [hExchange.response hSend]
              refine
                ⟨rfl, hMemory, hModbus, hCom,
                  SameLine.same ?_ ?_⟩
              · exact hQueue
              · exact
                  ⟨hExchange.fields.with_frame _ _ _ _ _ _ _ _,
                    rfl, (fun hPars => by cases hPars),
                    (fun hAgain => by cases hAgain)⟩
          · exact
              ⟨rfl, hMemory, hModbus, hCom,
                SameLine.same hQueue hExchange⟩
      | damaged hFields hQueue hState hDamage hEmpty hIdle =>
          rw [hState, hIdle]
          exact
            ⟨rfl, hMemory, hModbus, hCom,
              SameLine.damaged hFields hQueue hState hDamage
                hEmpty hIdle⟩

/- A chunk that is not accepted leaves nothing behind. -/
theorem uartHandler_of_not_accepted
    {s : System}
    {buf : Received}
    (hNot :
      allIdleCheck s.usb ≠ .regOk ∨
        ¬ mbFrameMin ≤ buf.bytes.length)
    (txReady : Bool) :
    uartHandler s (some buf) txReady =
      uartHandler s none txReady := by
  have hReceive : uartReceive s buf = (s, none) := by
    unfold uartReceive
    rcases hNot with hBusy | hShort
    · rw [if_neg hBusy]
    · rw [dif_neg hShort, ite_self]
  unfold uartHandler
  dsimp only
  rw [hReceive]

theorem Received.length_le
    (buf : Received) :
    buf.bytes.length ≤ 255 := by
  have hUpper := buf.upper
  omega

/- A chunk that is long enough for a frame. -/
def Received.frame
    (buf : Received)
    (hLength : mbFrameMin ≤ buf.bytes.length) : Frame :=
  ⟨buf.bytes, hLength, buf.length_le⟩

/- An accepted chunk becomes the frame. -/
theorem uartHandler_of_accepted
    {s : System}
    {buf : Received}
    (hCheck : allIdleCheck s.usb = .regOk)
    (hLength : mbFrameMin ≤ buf.bytes.length)
    (txReady : Bool) :
    uartHandler s (some buf) txReady =
      ({ s with
         usb := s.usb.handOver (buf.frame hLength)
         mhQueue := s.mhQueue ++ [.mbUsb] },
        some (.accepted (buf.frame hLength))) := by
  unfold uartHandler uartReceive
  simp only [if_pos hCheck, dif_pos hLength]
  cases txReady <;> rfl

theorem uartHandler_of_idle
    {s : System}
    (hIdle : s.usb.mbState = .stateIdle)
    (txReady : Bool) :
    uartHandler s none txReady = (s, none) := by
  have hNothing : uartTransmit s = (s, none) :=
    if_neg (by rw [hIdle]; decide)
  unfold uartHandler
  dsimp only
  rw [hNothing, ite_self]
  rfl

/- A frame that both sides accept. -/
theorem SameExchange.handOver
    {usb usb' : MbStruct}
    (hExchange : SameExchange usb usb')
    (frame : Frame) :
    SameExchange (usb.handOver frame)
      (usb'.handOver frame) := by
  have hAlike := handOver_alike hExchange.fields frame
  exact
    ⟨hAlike.toSameFields, rfl,
      fun _ => ⟨hAlike.index, hAlike.bytes⟩,
      fun hSend => by cases hSend⟩

/-
  A chunk that is accepted: it is accepted on both sides, or
  it is damaged and kept away from one of them.
-/
theorem accept_matched
    {s t : System}
    {buf : Received}
    (hMatches : Matches s t)
    (hEmpty : s.mhQueue = [])
    (hCheck : allIdleCheck s.usb = .regOk)
    (hLength : mbFrameMin ≤ buf.bytes.length)
    (txReady : Bool) :
    Matched (.uart (some buf) txReady)
      (uartHandler s (some buf) txReady).1
      (uartHandler s (some buf) txReady).2 t := by
  rcases (allIdleCheck_eq_regOk_iff s.usb).mp hCheck with
    ⟨hFree, hIdle⟩
  rcases hMatches with ⟨hMemory, hModbus, hCom, hLine⟩
  cases hLine with
  | damaged hFields hQueue hState hDamage hNone hRest =>
      rw [hState] at hIdle
      cases hIdle
  | same hQueue hExchange =>
      have hCheck' : allIdleCheck t.usb = .regOk := by
        rw [allIdleCheck_eq_regOk_iff, hExchange.state,
          hExchange.fields.eepState]
        exact ⟨hFree, hIdle⟩
      have hAccept :=
        uartHandler_of_accepted hCheck hLength txReady
      have hAccept' :=
        uartHandler_of_accepted hCheck' hLength txReady
      rw [hAccept]
      by_cases hDamage : LineDamage buf.bytes
      · have hIdle' : t.usb.mbState = .stateIdle := by
          rw [hExchange.state, hIdle]
        apply
          matched_of_step (u := t) (Cleans.silence buf txReady)
        · rw [step, uartHandler_of_idle hIdle']
        · simp [observe, Received.frame, hDamage]
        · refine
            ⟨hMemory, hModbus, hCom, SameLine.damaged ?_ ?_ rfl ?_
              (hQueue.trans hEmpty) hIdle'⟩
          · exact hExchange.fields.with_frame _ _ _ _ _ _ _ _
          · exact congrArg (· ++ [.mbUsb]) hEmpty
          · change
              LineDamage
                (s.usb.handOver (buf.frame hLength)).message
            rw [message_handOver]
            exact hDamage
      · refine
          matched_of_step (Cleans.keep _ ?_)
            (congrArg some hAccept') rfl
            ⟨hMemory, hModbus, hCom, SameLine.same ?_ ?_⟩
        · intro buf' tx hSame
          cases hSame
          exact hDamage
        · exact congrArg (· ++ [.mbUsb]) hQueue
        · exact hExchange.handOver (buf.frame hLength)

theorem uart_matched
    {history : List Event}
    {s s' t : System}
    {received : Option Received}
    {txReady : Bool}
    {event : Option Event}
    (hInv : Inv history s)
    (hMatches : Matches s t)
    (hStep :
      step s (.uart received txReady) = some (s', event)) :
    Matched (.uart received txReady) s' event t := by
  rw [step, Option.some.injEq] at hStep
  -- Unless a chunk is accepted, it may as well stay away.
  have hSilent :
      ∀ a, Cleans a [.uart none txReady] →
        uartHandler s received txReady =
            uartHandler s none txReady →
          Matched a s' event t := by
    intro a hCleans hHandler
    rw [hHandler] at hStep
    have hTransmit := transmit_matches hMatches txReady
    rw [hStep] at hTransmit
    exact
      matched_of_step hCleans rfl hTransmit.1 hTransmit.2
  cases received with
  | none =>
      exact
        hSilent _
          (Cleans.keep _ fun buf tx hSame => by cases hSame)
          rfl
  | some buf =>
      by_cases hCheck : allIdleCheck s.usb = .regOk
      · by_cases hLength : mbFrameMin ≤ buf.bytes.length
        · rcases (allIdleCheck_eq_regOk_iff s.usb).mp hCheck
            with ⟨hFree, hIdle⟩
          rcases hInv.exchanges with ⟨phase, -, hPhase⟩
          have hAccept :=
            accept_matched hMatches
              (hPhase.free hFree hIdle).2 hCheck hLength
              txReady
          rwa [hStep] at hAccept
        · exact
            hSilent _ (Cleans.silence buf txReady)
              (uartHandler_of_not_accepted (Or.inr hLength)
                txReady)
      · exact
          hSilent _ (Cleans.silence buf txReady)
            (uartHandler_of_not_accepted (Or.inl hCheck)
              txReady)

------------------------------------------------------------
-- Modbus Task
------------------------------------------------------------

/-
  A frame that was damaged on the line is discarded in every
  state: it writes no register, it is not answered, and
  nothing is saved for it.
-/
theorem damagedFrame_discarded
    (usb : MbStruct)
    (mb : Registers)
    {frame : Frame}
    (hDamage : LineDamage frame.bytes) :
    mbParsing (usb.handOver frame) mb =
      some
        ({ usb.handOver frame with mbState := .stateIdle },
          mb) := by
  apply mbParsing_discards
  intro hAccepts
  have hValid := hAccepts.checksum
  rw [message_handOver] at hValid
  exact crc16_ne_zero_of_lineDamage frame.upper hDamage hValid

theorem damagedFrame_discarded_count :
    mbParsing
        ((mhUsbInit mbStructZero).handOver
          ⟨[1, 3, 0, 0, 0, 7, 0x84, 0x0A], by decide,
            by decide⟩)
        mbBufLinked =
      some
        ({ (mhUsbInit mbStructZero).handOver
            ⟨[1, 3, 0, 0, 0, 7, 0x84, 0x0A], by decide,
              by decide⟩ with
           mbState := .stateIdle },
          mbBufLinked) :=
  damagedFrame_discarded (mhUsbInit mbStructZero) mbBufLinked
    ⟨[1, 3, 0, 0, 0, 1, 0x84, 0x0A], rfl, by decide,
      Damaged.two (by decide)⟩

theorem length_message_le
    (usb : MbStruct) :
    usb.message.length ≤ 255 := by
  have hWidth := usb.mbIndex.toNat_lt
  rw [length_message]
  omega

/- Parsing a frame that both sides have. -/
theorem taskParsing_matched
    {s s' t : System}
    {rest : List QueueNode}
    {event : Option Event}
    (hInit : s.usb.Initialised)
    (hMemory : t.memory = s.memory)
    (hCom : t.com = s.com)
    (hExchange : SameExchange s.usb t.usb)
    (hState : s.usb.mbState = .statePars)
    (hStep : taskParsing s rest = some (s', event)) :
    ∃ t' event',
      taskParsing t rest = some (t', event') ∧
        event.toList.filterMap observe =
            event'.toList.filterMap observe ∧
          Matches s' t' := by
  have hFrame := hExchange.frame hState
  have hAlike : Alike s.usb t.usb :=
    ⟨hExchange.fields, hFrame.1, hFrame.2⟩
  have hMessage : t.usb.message = s.usb.message := by
    unfold MbStruct.message
    rw [hFrame.1]
    exact MbBuff.take_ofFn_congr hFrame.2
  rcases Option.bind_eq_some_iff.mp hStep with
    ⟨⟨answer, mb'⟩, hParse, hRest⟩
  rcases Option.map_eq_some_iff.mp hRest with
    ⟨pc, hSave, hPair⟩
  cases hPair
  rcases exists_of_rel
      (mbParsing_alike hAlike s.memory.mbBufMain) hParse
    with ⟨⟨answer', mb''⟩, hParse', hRegisters, hAnswer⟩
  dsimp only at hRegisters hAnswer
  subst hRegisters
  have hSave' : callSave t.usb answer' = some pc := by
    rw [← hSave]
    unfold callSave mhWriteEeprom saveEnd
    rw [invalidFrame_alike hAlike, hAnswer.eepState,
      hAnswer.eepStartSave, hAnswer.eepIndx]
  have hWaiting :
      waitingResponse answer' = waitingResponse answer := by
    unfold waitingResponse
    rw [hAnswer.state]
    split
    · next hSend => rw [hAnswer.response hSend]
    · rfl
  have hAnswered :=
    mbState_of_frameServed (frameServed_of_mbParsing hInit hParse)
  refine
    ⟨{ t with
       memory := { s.memory with mbBufMain := mb'' }
       usb := answer'
       mhQueue := rest
       modbus := pc },
      some (.parsed t.usb s.memory.mbBufMain answer' mb''), ?_,
      ?_, rfl, rfl, hCom, SameLine.same rfl ?_⟩
  · unfold taskParsing
    rw [hMemory, hParse', Option.bind_some]
    dsimp only
    rw [hSave', Option.map_some]
  · have hObserved :
        observe (.parsed s.usb s.memory.mbBufMain answer mb'') =
          observe
            (.parsed t.usb s.memory.mbBufMain answer' mb'') := by
      unfold observe
      dsimp only
      rw [hMessage, hWaiting]
    simp only [Option.toList_some, List.filterMap_cons,
      hObserved]
  · refine
      ⟨hAnswer.toSameFields, hAnswer.state, ?_,
        hAnswer.response⟩
    intro hPars
    change answer.mbState = .statePars at hPars
    rw [hPars] at hAnswered
    rcases hAnswered with hIdle | hSend
    · cases hIdle
    · cases hSend

theorem modbus_keep :
    Cleans .modbus [.modbus] :=
  Cleans.keep _ fun buf txReady hSame => by cases hSame

/- The exchange when the save is finished. -/
theorem SameLine.finish
    {s t : System}
    (hLine : SameLine s t)
    (pc pc' : ModbusPc) :
    SameLine
      { s with
        usb := { s.usb with eepState := .eepFree }
        modbus := pc }
      { t with
        usb := { t.usb with eepState := .eepFree }
        modbus := pc' } := by
  cases hLine with
  | same hQueue hExchange =>
      exact
        SameLine.same hQueue
          ⟨hExchange.fields.free, hExchange.state,
            hExchange.frame, hExchange.response⟩
  | damaged hFields hQueue hState hDamage hEmpty hIdle =>
      exact
        SameLine.damaged hFields.free hQueue hState hDamage
          hEmpty hIdle

theorem SameLine.fields
    {s t : System}
    (hLine : SameLine s t) :
    SameFields s.usb t.usb := by
  cases hLine with
  | same hQueue hExchange => exact hExchange.fields
  | damaged hFields hQueue hState hDamage hEmpty hIdle =>
      exact hFields

/- Only the queue and the structure of the exchange count. -/
theorem SameLine.congr
    {s s' t t' : System}
    (hLine : SameLine s t)
    (hUsb : s'.usb = s.usb)
    (hQueue : s'.mhQueue = s.mhQueue)
    (hUsb' : t'.usb = t.usb)
    (hQueue' : t'.mhQueue = t.mhQueue) :
    SameLine s' t' := by
  cases hLine with
  | same hSame hExchange =>
      refine SameLine.same ?_ ?_
      · rw [hQueue, hQueue', hSame]
      · rw [hUsb, hUsb']
        exact hExchange
  | damaged hFields hWaits hState hDamage hEmpty hIdle =>
      rw [← hUsb] at hFields hState hDamage
      rw [← hUsb'] at hFields hIdle
      exact
        SameLine.damaged hFields (hQueue.trans hWaits) hState
          hDamage (hQueue'.trans hEmpty) hIdle

/- A damaged frame is discarded, and was never there. -/
theorem taskParsing_damaged
    {s s' t : System}
    {event : Option Event}
    (hMemory : t.memory = s.memory)
    (hModbus : t.modbus = s.modbus)
    (hCom : t.com = s.com)
    (hPc : s.modbus = .waiting)
    (hFields : SameFields s.usb t.usb)
    (hDamage : LineDamage s.usb.message)
    (hEmpty : t.mhQueue = [])
    (hIdle : t.usb.mbState = .stateIdle)
    (hStep : taskParsing s [] = some (s', event)) :
    Matched .modbus s' event t := by
  have hRefused : ¬ Accepts s.usb := by
    intro hAccepts
    exact
      crc16_ne_zero_of_lineDamage (length_message_le s.usb)
        hDamage hAccepts.checksum
  unfold taskParsing at hStep
  rw [mbParsing_discards hRefused, Option.bind_some] at hStep
  dsimp only at hStep
  rw [callSave_of_refused hRefused] at hStep
  cases hStep
  refine ⟨[], t, [], Cleans.skip, rfl, ?_, ?_⟩
  · simp [observe, hDamage]
  · refine
      ⟨hMemory, hModbus.trans hPc, hCom,
        SameLine.same hEmpty ?_⟩
    refine
      ⟨⟨⟨hFields.setup.readLast, hFields.setup.writeLast,
            hFields.setup.address, hFields.setup.frameBad⟩,
          hFields.eepState, hFields.eepStartSave,
          hFields.eepIndx⟩,
        hIdle, (fun hPars => by cases hPars),
        (fun hSend => by cases hSend)⟩

theorem modbus_matched
    {history : List Event}
    {s s' t : System}
    {event : Option Event}
    (hInv : Inv history s)
    (hMatches : Matches s t)
    (hStep : step s .modbus = some (s', event)) :
    Matched .modbus s' event t := by
  rcases hMatches with ⟨hMemory, hModbus, hCom, hLine⟩
  have hFields := hLine.fields
  change modbusStep s = some (s', event) at hStep
  cases hPc : s.modbus with
  | starting =>
      rw [modbusStep, hPc] at hStep
      cases hStep
      apply
        matched_of_step (u := { t with modbus := .waiting })
          modbus_keep
      · rw [step, modbusStep, hModbus, hPc]
      · rfl
      · exact
          ⟨hMemory, rfl, hCom, hLine.congr rfl rfl rfl rfl⟩
  | waiting =>
      rcases hInv.exchanges with ⟨phase, -, hPhase⟩
      rw [modbusStep, hPc] at hStep
      dsimp only at hStep
      split at hStep
      · cases hStep
      · next rest hQueue =>
          rcases hPhase.parsing hQueue with ⟨rfl, frame, rfl⟩
          rcases hPhase with ⟨-, hState, -, -⟩
          cases hLine with
          | same hSame hExchange =>
              rcases taskParsing_matched hInv.initialised
                  hMemory hCom hExchange hState hStep
                with ⟨t', event', hStep', hObserved, hNext⟩
              refine
                matched_of_step modbus_keep ?_ hObserved hNext
              rw [step, modbusStep, hModbus, hPc, hSame, hQueue]
              exact hStep'
          | damaged hFields _ _ hDamage hEmpty hIdle =>
              exact
                taskParsing_damaged hMemory hModbus hCom hPc
                  hFields hDamage hEmpty hIdle hStep
  | updating r =>
      rw [modbusStep, hPc] at hStep
      cases hStep
      apply
        matched_of_step
          (u :=
            { t with
              memory := t.memory.commit r
              modbus := .updated r })
          modbus_keep
      · rw [step, modbusStep, hModbus, hPc]
      · rfl
      · exact
          ⟨congrArg (Memory.commit · r) hMemory, rfl, hCom,
            hLine.congr rfl rfl rfl rfl⟩
  | updated r =>
      rw [modbusStep, hPc] at hStep
      rcases Option.map_eq_some_iff.mp hStep with
        ⟨pc, hWrite, hPair⟩
      cases hPair
      have hWrite' :
          mhWriteEeprom t.usb (r.val + 1) = some pc := by
        rw [← hWrite]
        unfold mhWriteEeprom saveEnd
        rw [hFields.eepStartSave, hFields.eepIndx]
      apply
        matched_of_step (u := { t with modbus := pc })
          modbus_keep
      · rw [step, modbusStep, hModbus, hPc]
        dsimp only
        rw [hWrite', Option.map_some]
      · rfl
      · exact
          ⟨hMemory, rfl, hCom, hLine.congr rfl rfl rfl rfl⟩
  | sleeping =>
      rw [modbusStep, hPc] at hStep
      cases hStep
      apply
        matched_of_step
          (u :=
            { t with
              usb := { t.usb with eepState := .eepFree }
              modbus := .waiting })
          modbus_keep
      · rw [step, modbusStep, hModbus, hPc]
      · rfl
      · exact ⟨hMemory, rfl, hCom, hLine.finish _ _⟩

------------------------------------------------------------
-- Other Tasks
------------------------------------------------------------

theorem sysReboot_congr
    {s t : System}
    (hMemory : t.memory = s.memory) :
    sysReboot t = sysReboot s := by
  unfold sysReboot
  rw [hMemory]

theorem commandDone_matches
    {s t : System}
    (hMatches : Matches s t) :
    Matches (commandDone s) (commandDone t) := by
  rcases hMatches with ⟨hMemory, hModbus, hCom, hLine⟩
  refine ⟨?_, hModbus, rfl, hLine.congr rfl rfl rfl rfl⟩
  exact congrArg (Memory.assign · regSendCommand 0) hMemory

/- The factory reset is the same on both sides. -/
theorem factoryFrom_matches
    {s s' t : System}
    {i : Nat}
    {event : Option Event}
    (hMatches : Matches s t)
    (hStep : factoryFrom s i = some (s', event)) :
    ∃ t', factoryFrom t i = some (t', event) ∧
      Matches s' t' := by
  rcases Option.map_eq_some_iff.mp hStep with
    ⟨next, hScan, hPair⟩
  unfold factoryFrom
  rw [hScan]
  cases next with
  | none =>
      cases hPair
      exact ⟨commandDone t, rfl, commandDone_matches hMatches⟩
  | some r =>
      cases hPair
      rcases hMatches with ⟨hMemory, hModbus, hCom, hLine⟩
      refine
        ⟨_, rfl, ?_, hModbus, rfl, hLine.congr rfl rfl rfl rfl⟩
      exact
        congrArg
          (Memory.assign · r (defaultState r).defaultValue)
          hMemory

theorem comStep_matches
    {s s' t : System}
    {event : Option Event}
    (hMatches : Matches s t)
    (hStep : comStep s = some (s', event)) :
    ∃ t', comStep t = some (t', event) ∧ Matches s' t' := by
  have hMemory := hMatches.memory
  cases hPc : s.com with
  | sleeping =>
      rw [comStep, hPc] at hStep
      rw [comStep, hMatches.com, hPc]
      dsimp only at hStep ⊢
      unfold commandControl at hStep ⊢
      rw [hMemory, sysReboot_congr hMemory]
      split at hStep
      · next hNone =>
          rw [if_pos hNone]
          cases hStep
          exact ⟨t, rfl, hMatches⟩
      · next hCommand =>
          rw [if_neg hCommand]
          split at hStep
          · next hRestart =>
              rw [if_pos hRestart]
              refine ⟨_, hStep, ?_⟩
              rw [Option.some.injEq, Prod.mk.injEq] at hStep
              rw [← hStep.1]
              exact Matches.refl _
          · next hOther =>
              rw [if_neg hOther]
              split at hStep
              · next hReset =>
                  rw [if_pos hReset]
                  exact factoryFrom_matches hMatches hStep
              · next hElse =>
                  rw [if_neg hElse]
                  cases hStep
                  exact
                    ⟨commandDone t, rfl,
                      commandDone_matches hMatches⟩
  | updating r =>
      rw [comStep, hPc] at hStep
      rw [comStep, hMatches.com, hPc]
      cases hStep
      refine
        ⟨_, rfl, ?_, hMatches.modbus, rfl,
          hMatches.line.congr rfl rfl rfl rfl⟩
      exact congrArg (Memory.commit · r) hMemory
  | updated r =>
      rw [comStep, hPc] at hStep
      rw [comStep, hMatches.com, hPc]
      exact factoryFrom_matches hMatches hStep

------------------------------------------------------------
-- Runs
------------------------------------------------------------

theorem step_matched
    {history : List Event}
    {s s' t : System}
    {a : Action}
    {event : Option Event}
    (hInv : Inv history s)
    (hMatches : Matches s t)
    (hStep : step s a = some (s', event)) :
    Matched a s' event t := by
  cases a with
  | uart received txReady =>
      exact uart_matched hInv hMatches hStep
  | modbus => exact modbus_matched hInv hMatches hStep
  | com =>
      rcases comStep_matches hMatches hStep with
        ⟨t', hStep', hNext⟩
      exact
        matched_of_step
          (Cleans.keep _ fun buf tx hSame => by cases hSame)
          hStep' rfl hNext
  | publish r value =>
      rw [step] at hStep
      split at hStep
      · next hReadOnly =>
          cases hStep
          rcases hMatches with ⟨hMemory, hModbus, hCom, hLine⟩
          refine
            matched_of_step
              (Cleans.keep _ fun buf tx hSame => by cases hSame)
              (if_pos hReadOnly) rfl
              ⟨?_, hModbus, hCom, hLine.congr rfl rfl rfl rfl⟩
          exact congrArg (Memory.assign · r value) hMemory
      · cases hStep

/-
  In every run in which the line damages frames, the registers
  and the store end as in a run that leaves the damaged frames
  out, and perhaps other frames that came while a damaged one
  was waiting. All else that can be observed is the same: the
  frames that are accepted, how they are parsed and answered,
  the saves, the defaults and the restarts.
-/
theorem noise_loses_only_frames
    {m : Memory}
    {mbb : MbStruct}
    {actions : List Action}
    {s : System}
    {events : List Event}
    (hRun :
      EventSystem.run step (start m mbb) actions =
        some (s, events)) :
    ∃ parts t events',
      List.Forall₂ Cleans actions parts ∧
        EventSystem.run step (start m mbb) parts.flatten =
            some (t, events') ∧
          events.filterMap observe =
              events'.filterMap observe ∧
            t.memory = s.memory ∧ t.modbus = s.modbus ∧
              t.com = s.com := by
  have hSteps :
      ∀ s t a s' event,
        (∃ history, Inv history s) ∧ Matches s t →
          step s a = some (s', event) →
            ∃ actions t' events,
              Cleans a actions ∧
                EventSystem.run step t actions =
                    some (t', events) ∧
                  event.toList.filterMap observe =
                      events.filterMap observe ∧
                    (∃ history, Inv history s') ∧
                      Matches s' t' := by
    rintro s t a s' event ⟨⟨history, hInv⟩, hMatches⟩ hStep
    rcases step_matched hInv hMatches hStep with
      ⟨actions, t', events, hCleans, hRun, hObserved, hNext⟩
    exact
      ⟨actions, t', events, hCleans, hRun, hObserved,
        ⟨_, inv_step hInv (transition_of_step hStep)⟩, hNext⟩
  rcases exists_run_of_simulation
      (fun s t => (∃ history, Inv history s) ∧ Matches s t)
      Cleans observe hSteps
      ⟨⟨[], inv_start m mbb⟩, Matches.refl _⟩ hRun
    with
    ⟨parts, t, events', hParts, hClean, hObserved, -, hEnd⟩
  exact
    ⟨parts, t, events', hParts, hClean, hObserved,
      hEnd.memory, hEnd.modbus, hEnd.com⟩

/- Register 0 is asked for, with two bits of the count wrong. -/
def damagedRequest : Received :=
  ⟨[1, 3, 0, 0, 0, 7, 0x84, 0x0A], by decide⟩

example : LineDamage damagedRequest.bytes :=
  ⟨readRequest.bytes, rfl, by decide, Damaged.two (by decide)⟩

/- The damaged request, and the right one after it. -/
def noisyActions : List Action :=
  [.modbus, .uart (some damagedRequest) true, .modbus,
    .uart (some readRequest) true, .modbus, .uart none true]

theorem noisyActions_loses_only_frames :
    ∃ s events,
      EventSystem.run step
            (start ⟨mbBufLinked, fun _ => none⟩ mbStructZero)
            noisyActions =
          some (s, events) ∧
        ∃ parts t events',
          List.Forall₂ Cleans noisyActions parts ∧
            EventSystem.run step
                  (start ⟨mbBufLinked, fun _ => none⟩
                    mbStructZero)
                  parts.flatten =
                some (t, events') ∧
              events.filterMap observe =
                  events'.filterMap observe ∧
                t.memory = s.memory ∧ t.modbus = s.modbus ∧
                  t.com = s.com := by
  have hEnabled :
      (EventSystem.run step
        (start ⟨mbBufLinked, fun _ => none⟩ mbStructZero)
        noisyActions).isSome = true := by
    decide +kernel
  rcases Option.isSome_iff_exists.mp hEnabled with
    ⟨⟨s, events⟩, hRun⟩
  exact ⟨s, events, hRun, noise_loses_only_frames hRun⟩

end Firmware

end TemperatureSensor
