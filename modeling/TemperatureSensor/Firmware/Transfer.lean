import TemperatureSensor.Firmware.Buffer

/-
  What the USB driver transfers in pieces: the chunks in which
  it delivers a request, and the part of a response that it
  has room for.

  Main declarations:
    * `ValidRequest`, `chunks` and `queuedFrames`
    * `queuedFrames_eq_iff`
    * `Callback` and `callbacks`
    * `sent_eq_response_iff`
-/

------------------------------------------------------------
-- Chunks of a Request
------------------------------------------------------------

namespace TemperatureSensor

namespace Firmware

/-
  A request that the parser accepts, up to the longest write
  of 120 registers.
-/
structure ValidRequest (bytes : List UInt8) : Prop where
  lower : mbFrameMin ≤ bytes.length
  upper : bytes.length ≤ 9 + 2 * 120
  checksum : crc16 bytes = 0

/- What an action delivers to the receive branch. -/
def Action.chunk : Action → Option (List UInt8)
| .uart (some buf) _ => some buf.bytes
| _ => none

/- What successive `uart_fifo_read` calls deliver. -/
def chunks (actions : List Action) : List (List UInt8) :=
  actions.filterMap Action.chunk

/- What an event appends to `mh_queue`. -/
def Event.queuedFrame : Event → Option (List UInt8)
| .accepted frame => some frame.bytes
| _ => none

/- The frames that are queued in a run. -/
def queuedFrames (events : List Event) : List (List UInt8) :=
  events.filterMap Event.queuedFrame

theorem queuedFrame_transmit
    (s : System)
    (txReady : Bool)
    {event : Event}
    (hEvent :
      (if txReady then uartTransmit s else (s, none)).2 =
        some event) :
    event.queuedFrame = none := by
  unfold uartTransmit at hEvent
  split at hEvent
  · split at hEvent
    · cases hEvent
      rfl
    · cases hEvent
  · cases hEvent

/- Only a delivered chunk is queued as a frame. -/
theorem queuedFrame_uartHandler
    {s : System}
    {received : Option Received}
    {txReady : Bool}
    {event : Event}
    (hEvent :
      (uartHandler s received txReady).2 = some event) :
    event.queuedFrame = none ∨
      event.queuedFrame = received.map Received.bytes := by
  unfold uartHandler at hEvent
  cases received with
  | none => exact Or.inl (queuedFrame_transmit s txReady hEvent)
  | some buf =>
      simp only [Option.or_eq_some_iff] at hEvent
      rcases hEvent with hAccepted | ⟨-, hFilled⟩
      · unfold uartReceive at hAccepted
        split at hAccepted
        · split at hAccepted
          · cases hAccepted
            exact Or.inr rfl
          · cases hAccepted
        · cases hAccepted
      · exact Or.inl (queuedFrame_transmit _ txReady hFilled)

theorem queuedFrame_modbusStep
    {s t : System}
    {event : Event}
    (hStep : modbusStep s = some (t, some event)) :
    event.queuedFrame = none := by
  rcases modbusStep_cases hStep with
    ⟨-, -, hNone | hSaved⟩ |
      ⟨rest, answer, mb', -, -, -, -, hParsed⟩
  · cases hNone
  · cases hSaved
    rfl
  · cases hParsed
    rfl

theorem queuedFrame_comStep
    {s t : System}
    {event : Event}
    (hStep : comStep s = some (t, some event)) :
    event.queuedFrame = none := by
  cases comTransition_of_step hStep with
  | restart => rfl
  | enter => rfl
  | resume => rfl

theorem queuedFrame_of_step
    {s t : System}
    {a : Action}
    {event : Event}
    (hStep : step s a = some (t, some event)) :
    event.queuedFrame = none ∨
      event.queuedFrame = a.chunk := by
  cases a with
  | uart received txReady =>
      rw [step, Option.some.injEq] at hStep
      have hChunk :
          (Action.uart received txReady).chunk =
            received.map Received.bytes := by
        cases received <;> rfl
      rw [hChunk]
      exact
        queuedFrame_uartHandler (congrArg Prod.snd hStep)
  | modbus => exact Or.inl (queuedFrame_modbusStep hStep)
  | com => exact Or.inl (queuedFrame_comStep hStep)
  | publish r value =>
      rw [step] at hStep
      split at hStep
      · cases hStep
      · cases hStep

/- The queued frames of a run are some of its chunks. -/
theorem queuedFrames_sublist
    {s t : System}
    {actions : List Action}
    {events : List Event}
    (hRun :
      EventSystem.run step s actions = some (t, events)) :
    (queuedFrames events).Sublist (chunks actions) := by
  induction actions generalizing s events with
  | nil =>
      cases hRun
      exact List.Sublist.refl _
  | cons a actions ih =>
      rcases EventSystem.run_cons_eq_some.mp hRun with
        ⟨u, event, rest, hStep, hTail, rfl⟩
      have hRest := ih hTail
      have hChunks :
          (chunks actions).Sublist (chunks (a :: actions)) := by
        unfold chunks
        rw [List.filterMap_cons]
        split
        · exact List.Sublist.refl _
        · exact List.sublist_cons_self _ _
      cases event with
      | none => exact hRest.trans hChunks
      | some emitted =>
          rw [Option.toList_some, List.singleton_append]
          rcases queuedFrame_of_step hStep with
            hNone | hChunk
          · unfold queuedFrames at hRest ⊢
            rw [List.filterMap_cons_none hNone]
            exact hRest.trans hChunks
          · unfold queuedFrames chunks at hRest ⊢
            rw [List.filterMap_cons, List.filterMap_cons,
              hChunk]
            cases a.chunk with
            | none => exact hRest
            | some bytes => exact hRest.cons_cons bytes

------------------------------------------------------------
-- Whole Requests
------------------------------------------------------------

/- Nothing is received, answered or saved. -/
structure Quiet (s : System) : Prop where
  queue : s.mhQueue = []
  idle : s.usb.mbState = .stateIdle
  free : s.usb.eepState = .eepFree
  modbus : ¬ s.modbus.IsSaving

theorem quiet_of_idle
    {history : List Event}
    {s : System}
    (hInv : Inv history s)
    (hIdle : s.usb.mbState = .stateIdle)
    (hFree : s.usb.eepState = .eepFree) :
    Quiet s := by
  rcases hInv with ⟨-, ⟨phase, -, hPhase⟩, hSaving⟩
  refine
    ⟨(hPhase.free hFree hIdle).2, hIdle, hFree, ?_⟩
  intro hLoop
  have hSave := hSaving.mp hLoop
  rw [hFree] at hSave
  cases hSave

/- Without a chunk, an idle system stays idle. -/
theorem quiet_step
    {s t : System}
    {a : Action}
    {event : Option Event}
    (hQuiet : Quiet s)
    (hNoChunk : a.chunk = none)
    (hStep : step s a = some (t, event)) :
    Quiet t := by
  rcases hQuiet with ⟨hQueue, hIdle, hFree, hLoop⟩
  cases transition_of_step hStep with
  | nothing => exact ⟨hQueue, hIdle, hFree, hLoop⟩
  | accept frame _ _ =>
      rcases queuedFrame_of_step hStep with hNone | hChunk
      · cases hNone
      · rw [hNoChunk] at hChunk
        cases hChunk
  | fill hSend =>
      rw [hIdle] at hSend
      cases hSend
  | begin _ => exact ⟨hQueue, hIdle, hFree, id⟩
  | parse rest answer mb' pc _ hQueued _ _ _ =>
      rw [hQueue] at hQueued
      cases hQueued
  | commit r hPc =>
      rw [hPc] at hLoop
      exact absurd trivial hLoop
  | resume r next hPc _ =>
      rw [hPc] at hLoop
      exact absurd trivial hLoop
  | finish hPc =>
      rw [hPc] at hLoop
      exact absurd trivial hLoop
  | restart _ _ => exact ⟨rfl, rfl, rfl, id⟩
  | factoryAssign _ _ _ _ =>
      exact ⟨hQueue, hIdle, hFree, hLoop⟩
  | factoryCommit _ _ => exact ⟨hQueue, hIdle, hFree, hLoop⟩
  | command _ => exact ⟨hQueue, hIdle, hFree, hLoop⟩
  | publish _ _ _ => exact ⟨hQueue, hIdle, hFree, hLoop⟩

/- An idle system queues a chunk of four bytes or more. -/
theorem queuedFrame_of_quiet
    {s t : System}
    {a : Action}
    {bytes : List UInt8}
    {event : Option Event}
    (hQuiet : Quiet s)
    (hChunk : a.chunk = some bytes)
    (hLength : mbFrameMin ≤ bytes.length)
    (hStep : step s a = some (t, event)) :
    ∃ emitted,
      event = some emitted ∧
        emitted.queuedFrame = some bytes := by
  have hIdle :=
    (allIdleCheck_eq_regOk_iff s.usb).mpr
      ⟨hQuiet.free, hQuiet.idle⟩
  cases a with
  | uart received txReady =>
      cases received with
      | none => cases hChunk
      | some buf =>
          cases hChunk
          rw [step, Option.some.injEq] at hStep
          have hEvent := congrArg Prod.snd hStep
          simp only [uartHandler, uartReceive, if_pos hIdle,
            dif_pos hLength, Option.some_or] at hEvent
          exact ⟨_, hEvent.symm, rfl⟩
  | modbus => cases hChunk
  | com => cases hChunk
  | publish => cases hChunk

/- A request is among its non-empty chunks only as a whole. -/
theorem eq_singleton_of_mem_flatten
    {pieces : List (List UInt8)}
    {bytes : List UInt8}
    (hNonempty : ∀ piece ∈ pieces, piece ≠ [])
    (hWhole : pieces.flatten = bytes)
    (hMember : bytes ∈ pieces) :
    pieces = [bytes] := by
  rcases List.append_of_mem hMember with
    ⟨front, back, rfl⟩
  have hLength := congrArg List.length hWhole
  simp only [List.flatten_append, List.flatten_cons,
    List.length_append] at hLength
  have hEmpty :
      ∀ rest : List (List UInt8),
        (∀ piece ∈ rest, piece ≠ []) →
          rest.flatten.length = 0 → rest = [] := by
    intro rest hPieces hZero
    cases rest with
    | nil => rfl
    | cons piece rest =>
        have hPiece := hPieces piece (by simp)
        rw [List.flatten_cons, List.length_append] at hZero
        exact
          absurd (List.length_eq_zero_iff.mp (by omega)) hPiece
  rw [
    hEmpty front
      (fun piece hPiece =>
        hNonempty piece (List.mem_append_left _ hPiece))
      (by omega),
    hEmpty back
      (fun piece hPiece =>
        hNonempty piece (by simp [hPiece]))
      (by omega)]
  rfl

/- A request that arrives in one chunk is queued. -/
theorem queuedFrames_of_single
    {s t : System}
    {actions : List Action}
    {events : List Event}
    {bytes : List UInt8}
    (hQuiet : Quiet s)
    (hLength : mbFrameMin ≤ bytes.length)
    (hSingle : chunks actions = [bytes])
    (hRun :
      EventSystem.run step s actions = some (t, events)) :
    queuedFrames events = [bytes] := by
  induction actions generalizing s events with
  | nil => cases hSingle
  | cons a actions ih =>
      rcases EventSystem.run_cons_eq_some.mp hRun with
        ⟨u, event, rest, hStep, hTail, rfl⟩
      unfold chunks at hSingle
      rw [List.filterMap_cons] at hSingle
      split at hSingle
      · next hNone =>
          have hRest :=
            ih (quiet_step hQuiet hNone hStep) hSingle hTail
          cases event with
          | none => exact hRest
          | some emitted =>
              have hSilent : emitted.queuedFrame = none := by
                rcases queuedFrame_of_step hStep with
                  hQueued | hQueued
                · exact hQueued
                · rw [hQueued, hNone]
              rw [Option.toList_some, List.singleton_append,
                queuedFrames, List.filterMap_cons_none hSilent]
              exact hRest
      · next chunk hChunk =>
          rw [List.cons.injEq] at hSingle
          rcases hSingle with ⟨rfl, hOthers⟩
          rcases queuedFrame_of_quiet hQuiet hChunk hLength
              hStep with
            ⟨emitted, rfl, hQueued⟩
          have hRest := queuedFrames_sublist hTail
          rw [chunks, hOthers] at hRest
          rw [Option.toList_some, List.singleton_append,
            queuedFrames, List.filterMap_cons_some hQueued]
          exact congrArg (chunk :: ·)
            (List.eq_nil_of_sublist_nil hRest)

/-
  A request that starts while the device is idle is queued as
  a whole, once, exactly if it is delivered in one chunk,
  whatever the tasks do meanwhile.
-/
theorem queuedFrames_eq_iff
    {m : Memory}
    {mbb : MbStruct}
    {before actions : List Action}
    {s t : System}
    {history events : List Event}
    (hReached :
      EventSystem.run step (start m mbb) before =
        some (s, history))
    (hIdle : s.usb.mbState = .stateIdle)
    (hFree : s.usb.eepState = .eepFree)
    (hRun :
      EventSystem.run step s actions = some (t, events))
    {bytes : List UInt8}
    (hRequest : ValidRequest bytes)
    (hWhole : (chunks actions).flatten = bytes)
    (hNonempty : ∀ chunk ∈ chunks actions, chunk ≠ []) :
    queuedFrames events = [bytes] ↔
      (chunks actions).length = 1 := by
  constructor
  · intro hQueued
    have hSublist := queuedFrames_sublist hRun
    rw [hQueued] at hSublist
    have hMember : bytes ∈ chunks actions :=
      hSublist.subset (by simp)
    rw [eq_singleton_of_mem_flatten hNonempty hWhole hMember]
    rfl
  · intro hOne
    rcases List.length_eq_one_iff.mp hOne with
      ⟨chunk, hSingle⟩
    rw [hSingle, List.flatten_singleton] at hWhole
    rw [hWhole] at hSingle
    exact
      queuedFrames_of_single
        (quiet_of_idle (inv_run hReached) hIdle hFree)
        hRequest.lower hSingle hRun

theorem readRequest_validRequest :
    ValidRequest readRequest.bytes :=
  ⟨by decide, by decide, by decide +kernel⟩

/- The request in one chunk. -/
def wholeRequest : List Action :=
  [.uart (some readRequest) false]

theorem wholeRequest_queuedFrames_eq_iff :
    ∃ t events,
      EventSystem.run step
            (start ⟨mbBufLinked, fun _ => none⟩ mbStructZero)
            wholeRequest =
          some (t, events) ∧
        (queuedFrames events = [readRequest.bytes] ↔
          (chunks wholeRequest).length = 1) := by
  have hReached :
      EventSystem.run step
          (start ⟨mbBufLinked, fun _ => none⟩ mbStructZero)
          [] =
        some
          (start ⟨mbBufLinked, fun _ => none⟩ mbStructZero,
            []) :=
    rfl
  have hEnabled :
      (EventSystem.run step
        (start ⟨mbBufLinked, fun _ => none⟩ mbStructZero)
        wholeRequest).isSome = true := by
    decide +kernel
  rcases Option.isSome_iff_exists.mp hEnabled with
    ⟨⟨t, events⟩, hRun⟩
  exact
    ⟨t, events, hRun,
      queuedFrames_eq_iff hReached rfl rfl hRun
        readRequest_validRequest rfl (by decide)⟩

/- The request in two chunks of four bytes. -/
def splitRequest : List Action :=
  [.uart (some ⟨[1, 3, 0, 0], by decide⟩) false,
    .uart (some ⟨[0, 1, 0x84, 0x0A], by decide⟩) false]

/- The first chunk is taken for the whole request. -/
theorem splitRequest_not_queued :
    ¬ ∀ m mbb actions t events bytes,
      EventSystem.run step (start m mbb) actions =
          some (t, events) →
        ValidRequest bytes →
          (chunks actions).flatten = bytes →
            (∀ chunk ∈ chunks actions, chunk ≠ []) →
              queuedFrames events = [bytes] := by
  intro hClaim
  have hQueued :
      (EventSystem.run step
        (start ⟨mbBufLinked, fun _ => none⟩ mbStructZero)
        splitRequest).map (fun last => queuedFrames last.2) =
        some [[1, 3, 0, 0]] := by
    decide +kernel
  rcases Option.map_eq_some_iff.mp hQueued with
    ⟨⟨t, events⟩, hRun, hFrames⟩
  have hWhole :=
    hClaim _ _ _ t events _ hRun readRequest_validRequest rfl
      (by decide)
  rw [hWhole] at hFrames
  exact absurd hFrames (by decide)

------------------------------------------------------------
-- Room for a Response
------------------------------------------------------------

/-
  One iteration of the callback, with the number of bytes
  that the driver has room for.
-/
structure Callback where
  received : Option Received
  txReady : Bool
  room : Nat

/- The prefix that `uart_fifo_fill` accepts. -/
def uartFifoFill
    (room : Nat)
    (bytes : List UInt8) : List UInt8 :=
  bytes.take room

/-
  The callback hands the response over and goes back to
  `STATE_IDLE`; it does not use `wrote_len`.
-/
def callback
    (s : System)
    (c : Callback) : System × List UInt8 :=
  let (s, event) := uartHandler s c.received c.txReady
  match event with
  | some (.filled bytes) => (s, uartFifoFill c.room bytes)
  | _ => (s, [])

/- Successive callbacks and all bytes that were accepted. -/
def callbacks : System → List Callback → System × List UInt8
| s, [] => (s, [])
| s, c :: rest =>
    let last := callbacks (callback s c).1 rest
    (last.1, (callback s c).2 ++ last.2)

/- In `STATE_SEND` the receive branch does nothing. -/
theorem uartHandler_of_send
    {s : System}
    (hSend : s.usb.mbState = .stateSend)
    (received : Option Received)
    (txReady : Bool) :
    uartHandler s received txReady =
      if txReady then uartTransmit s else (s, none) := by
  unfold uartHandler
  cases received with
  | none => simp
  | some buf =>
      rcases uartReceive_cases s buf with
        hNothing | ⟨frame, -, hIdle, -⟩
      · simp [hNothing]
      · rw [hSend] at hIdle
        cases hIdle

/- A callback that is not ready keeps the response. -/
theorem callback_of_not_ready
    {s : System}
    {c : Callback}
    (hSend : s.usb.mbState = .stateSend)
    (hReady : c.txReady = false) :
    callback s c = (s, []) := by
  unfold callback
  rw [uartHandler_of_send hSend, hReady]
  rfl

/- The first ready callback hands the response over. -/
theorem callback_of_ready
    {s : System}
    {c : Callback}
    (hSend : s.usb.mbState = .stateSend)
    (hReady : c.txReady = true) :
    callback s c =
      ({ s with usb := { s.usb with mbState := .stateIdle } },
        s.usb.response.take c.room) := by
  unfold callback
  rw [uartHandler_of_send hSend, hReady, if_pos rfl,
    uartTransmit, if_pos hSend]
  rfl

/- Without a response a callback hands nothing over. -/
theorem callback_of_not_send
    {s : System}
    (hNoSend : s.usb.mbState ≠ .stateSend)
    (c : Callback) :
    (callback s c).1.usb.mbState ≠ .stateSend ∧
      (callback s c).2 = [] := by
  have hTransmit :
      ∀ t : System,
        t.usb.mbState ≠ .stateSend →
          (if c.txReady then uartTransmit t else (t, none)) =
            (t, none) := by
    intro t hOther
    unfold uartTransmit
    rw [if_neg hOther, ite_self]
  unfold callback uartHandler
  cases c.received with
  | none =>
      simp only [hTransmit s hNoSend]
      exact ⟨hNoSend, rfl⟩
  | some buf =>
      rcases uartReceive_cases s buf with
        hNothing | ⟨frame, -, -, hAccept⟩
      · simp only [hNothing, hTransmit s hNoSend]
        exact ⟨hNoSend, rfl⟩
      · have hParsing :
            ({ s with
               usb := s.usb.handOver frame
               mhQueue := s.mhQueue ++ [.mbUsb] } :
              System).usb.mbState ≠ .stateSend := by
          simp [MbStruct.handOver]
        simp only [hAccept, hTransmit _ hParsing]
        exact ⟨hParsing, rfl⟩

theorem callbacks_of_not_send
    {s : System}
    (hNoSend : s.usb.mbState ≠ .stateSend)
    (cs : List Callback) :
    (callbacks s cs).2 = [] := by
  induction cs generalizing s with
  | nil => rfl
  | cons c rest ih =>
      rcases callback_of_not_send hNoSend c with
        ⟨hNext, hNothing⟩
      simp only [callbacks, hNothing, ih hNext,
        List.append_nil]

/-
  Once the state has left `STATE_SEND`, the accepted bytes are
  the response exactly if the driver had room for all of it
  at the first ready callback.
-/
theorem sent_eq_response_iff
    {s : System}
    (hSend : s.usb.mbState = .stateSend)
    {cs : List Callback}
    (hDone :
      (callbacks s cs).1.usb.mbState ≠ .stateSend) :
    (callbacks s cs).2 = s.usb.response ↔
      ∃ c,
        cs.find? Callback.txReady = some c ∧
          s.usb.responseSize.toNat ≤ c.room := by
  induction cs with
  | nil => exact absurd hSend hDone
  | cons c rest ih =>
      cases hReady : c.txReady with
      | false =>
          simp only [callbacks,
            callback_of_not_ready hSend hReady] at hDone ⊢
          rw [List.nil_append,
            List.find?_cons_of_neg (by simp [hReady])]
          exact ih hDone
      | true =>
          have hIdle :
              ({ s with
                 usb :=
                   { s.usb with
                     mbState := .stateIdle } } :
                System).usb.mbState ≠ .stateSend := by
            simp
          simp only [callbacks, callback_of_ready hSend hReady,
            callbacks_of_not_send hIdle, List.append_nil]
          rw [List.find?_cons_of_pos (by simp [hReady]),
            List.take_eq_self_iff, MbStruct.length_response]
          simp

/- A response of seven bytes is waiting. -/
def replyWaiting : List Action :=
  [.modbus, .uart (some readRequest) false, .modbus]

/- The response is sent when there is room for 64 bytes. -/
theorem replyWaiting_sent :
    ∃ s events,
      EventSystem.run step
            (start ⟨mbBufLinked, fun _ => none⟩ mbStructZero)
            replyWaiting =
          some (s, events) ∧
        (callbacks s [⟨none, true, 64⟩]).2 =
          s.usb.response := by
  have hObserved :
      (EventSystem.run step
        (start ⟨mbBufLinked, fun _ => none⟩ mbStructZero)
        replyWaiting).map
          (fun last =>
            (last.1.usb.mbState,
              (callbacks last.1
                [⟨none, true, 64⟩]).1.usb.mbState,
              last.1.usb.responseSize.toNat)) =
        some (.stateSend, .stateIdle, 7) := by
    decide +kernel
  rcases Option.map_eq_some_iff.mp hObserved with
    ⟨⟨s, events⟩, hRun, hTuple⟩
  simp only [Prod.mk.injEq] at hTuple
  rcases hTuple with ⟨hSend, hIdle, hSize⟩
  refine ⟨s, events, hRun, ?_⟩
  apply (sent_eq_response_iff hSend (by simp [hIdle])).mpr
  refine ⟨⟨none, true, 64⟩, rfl, ?_⟩
  rw [hSize]
  decide

/- The driver has room for three bytes, and later for more. -/
def narrowCallbacks : List Callback :=
  [⟨none, true, 3⟩, ⟨none, true, 64⟩]

/- The rest of the response is never handed over. -/
theorem narrowCallbacks_lose_response :
    ¬ ∀ m mbb actions s events cs,
      EventSystem.run step (start m mbb) actions =
          some (s, events) →
        s.usb.mbState = .stateSend →
          (callbacks s cs).1.usb.mbState ≠ .stateSend →
            (callbacks s cs).2 = s.usb.response := by
  intro hClaim
  have hObserved :
      (EventSystem.run step
        (start ⟨mbBufLinked, fun _ => none⟩ mbStructZero)
        replyWaiting).map
          (fun last =>
            (last.1.usb.mbState,
              (callbacks last.1
                narrowCallbacks).1.usb.mbState,
              (callbacks last.1 narrowCallbacks).2.length,
              last.1.usb.response.length)) =
        some (.stateSend, .stateIdle, 3, 7) := by
    decide +kernel
  rcases Option.map_eq_some_iff.mp hObserved with
    ⟨⟨s, events⟩, hRun, hTuple⟩
  simp only [Prod.mk.injEq] at hTuple
  rcases hTuple with ⟨hSend, hIdle, hSent, hResponse⟩
  have hWhole :=
    hClaim _ _ _ s events narrowCallbacks hRun hSend
      (by simp [hIdle])
  rw [hWhole, hResponse] at hSent
  cases hSent

end Firmware

end TemperatureSensor
