import TemperatureSensor.Firmware.Buffer
import TemperatureSensor.Foundations.Traces
import TemperatureSensor.Modbus.ServerRefinement

/-
  The firmware on the line is the register server: each frame
  that it accepts is served once, with the registers as the
  events before have left them, and answered before the next
  frame is accepted.

  Main declarations:
    * `Service` and `ServerState`
    * `Serving`
    * `run_serves`
    * `host_reads_back`
-/

------------------------------------------------------------
-- Server
------------------------------------------------------------

namespace TemperatureSensor

namespace Firmware

open EventSystem

/- How far the server is with the last frame. -/
inductive Service where
| idle
| received (bytes : List UInt8)
| owing (body : List UInt8)

/- The service after a frame: an answer is owed, or not. -/
def Service.ofOwed : Option (List UInt8) → Service
| none => .idle
| some body => .owing body

/- The server: its service and its registers. -/
structure ServerState where
  service : Service
  registers : Registers

/-
  The registers that a host may write are known; only the
  command register may have been cleared since.
-/
def SameWritable (known mb : Registers) : Prop :=
  ∀ r, writeCheck r = .regOk →
    mb r = known r ∨ r = regSendCommand ∧ mb r = 0

/- The events that the server shows, one by one. -/
inductive Serving : ServerState → Event → ServerState → Prop
| accept
    (mb : Registers)
    (frame : Frame) :
    Serving ⟨.idle, mb⟩ (.accepted frame)
      ⟨.received frame.bytes, mb⟩
| serve
    (known mb : Registers)
    (request answer : MbStruct)
    (hKnown : SameWritable known mb) :
    Serving ⟨.received request.message, known⟩
      (.parsed request mb answer
        (serveFrame mb request.message).2)
      ⟨.ofOwed (serveFrame mb request.message).1,
        (serveFrame mb request.message).2⟩
| answer
    (mb : Registers)
    {body bytes : List UInt8}
    (hSealed : Sealed body bytes) :
    Serving ⟨.owing body, mb⟩ (.filled bytes) ⟨.idle, mb⟩
| save
    (t : ServerState) :
    Serving t .saved t
| assign
    (t : ServerState)
    (r : Fin numBuf) :
    Serving t (.defaulted r)
      ⟨t.service,
        Function.update t.registers r
          (defaultState r).defaultValue⟩
| restart
    (t : ServerState)
    (mb : Registers) :
    Serving t (.restarted mb) ⟨.idle, mb⟩

theorem SameWritable.refl
    (mb : Registers) :
    SameWritable mb mb :=
  fun _ _ => Or.inl rfl

theorem SameWritable.eq_of_ne
    {known mb : Registers}
    (hSame : SameWritable known mb)
    {r : Fin numBuf}
    (hWritable : writeCheck r = .regOk)
    (hOther : r ≠ regSendCommand) :
    mb r = known r := by
  rcases hSame r hWritable with hKnown | ⟨hCommand, -⟩
  · exact hKnown
  · exact absurd hCommand hOther

/- A register is assigned on both sides. -/
theorem SameWritable.update
    {known mb : Registers}
    (hSame : SameWritable known mb)
    (r : Fin numBuf)
    (value : UInt16) :
    SameWritable (Function.update known r value)
      (Function.update mb r value) := by
  intro q hWritable
  by_cases hHere : q = r
  · subst hHere
    left
    rw [Function.update_self, Function.update_self]
  · rw [Function.update_of_ne hHere, Function.update_of_ne hHere]
    exact hSame q hWritable

/- Clearing the command register. -/
theorem SameWritable.clear
    {known mb : Registers}
    (hSame : SameWritable known mb) :
    SameWritable known
      (Function.update mb regSendCommand 0) := by
  intro q hWritable
  by_cases hHere : q = regSendCommand
  · subst hHere
    right
    exact ⟨rfl, Function.update_self ..⟩
  · rw [Function.update_of_ne hHere]
    exact hSame q hWritable

/- Registers that a host only reads do not matter. -/
theorem SameWritable.publish
    {known mb : Registers}
    (hSame : SameWritable known mb)
    {r : Fin numBuf}
    (hReadOnly : writeCheck r ≠ .regOk)
    (value : UInt16) :
    SameWritable known (Function.update mb r value) := by
  intro q hWritable
  have hDistinct : q ≠ r := by
    rintro rfl
    exact hReadOnly hWritable
  rw [Function.update_of_ne hDistinct]
  exact hSame q hWritable

------------------------------------------------------------
-- Steps
------------------------------------------------------------

/- The exchange of the firmware is the one of the server. -/
def InService (usb : MbStruct) : Service → Prop
| .idle => usb.mbState = .stateIdle
| .received bytes =>
    usb.mbState = .statePars ∧ usb.message = bytes
| .owing body =>
    usb.mbState = .stateSend ∧ Sealed body usb.response

theorem InService.congr
    {usb usb' : MbStruct}
    {service : Service}
    (hService : InService usb service)
    (hState : usb'.mbState = usb.mbState)
    (hFrame :
      usb'.message = usb.message ∧
        usb'.response = usb.response) :
    InService usb' service := by
  cases service with
  | idle =>
      rw [InService, hState]
      exact hService
  | received bytes =>
      rw [InService, hState, hFrame.1]
      exact hService
  | owing body =>
      rw [InService, hState, hFrame.2]
      exact hService

structure ServedBy (s : System) (t : ServerState) : Prop where
  listens : Listens s.usb
  service : InService s.usb t.service
  registers : SameWritable t.registers s.memory.mbBufMain

theorem servedBy_idle
    {s : System}
    (hListens : Listens s.usb)
    (hIdle : s.usb.mbState = .stateIdle) :
    ServedBy s ⟨.idle, s.memory.mbBufMain⟩ :=
  ⟨hListens, hIdle, SameWritable.refl s.memory.mbBufMain⟩

theorem servedBy_start
    (m : Memory)
    (mbb : MbStruct) :
    ServedBy (start m mbb)
      ⟨.idle, (start m mbb).memory.mbBufMain⟩ :=
  servedBy_idle ⟨rfl, rfl⟩ rfl

/- Parsing keeps the parameters of `InvalidFrame`. -/
theorem listens_of_mbParsing
    {mbb mbb' : MbStruct}
    {mb mb' : Registers}
    (hInit : mbb.Initialised)
    (hListens : Listens mbb)
    (hParse : mbParsing mbb mb = some (mbb', mb')) :
    Listens mbb' := by
  cases (frameServed_of_mbParsing hInit hParse).outcome with
  | discarded _ hSame =>
      rw [hSame]
      exact ⟨hListens.frameBad, hListens.everybody⟩
  | answered body _ _ _ hSetup _ hClosed _ =>
      constructor
      · rw [hClosed.setup.frameBad, hSetup.frameBad,
          hListens.frameBad]
      · rw [hClosed.setup.address, hSetup.address,
          hListens.everybody]

/- A frame that is parsed is served. -/
theorem serving_parse
    {history : List Event}
    {s : System}
    {t : ServerState}
    {rest : List QueueNode}
    {answer : MbStruct}
    {mb' : Registers}
    (hInv : Inv history s)
    (hServed : ServedBy s t)
    (hQueue : s.mhQueue = .mbUsb :: rest)
    (hParse :
      mbParsing s.usb s.memory.mbBufMain =
        some (answer, mb')) :
    ∃ t',
      Serving t
          (.parsed s.usb s.memory.mbBufMain answer mb') t' ∧
        InService answer t'.service ∧ t'.registers = mb' := by
  rcases hInv with ⟨hInit, ⟨phase, -, hPhase⟩, -⟩
  rcases hPhase.parsing hQueue with ⟨-, frame, rfl⟩
  rcases hPhase with ⟨-, hState, hFree, hMessage⟩
  have hLength : mbFrameMin ≤ s.usb.message.length := by
    rw [hMessage]
    exact frame.lower
  rcases mbParsing_serveFrame hInit hServed.listens hFree
      hLength s.memory.mbBufMain with
    ⟨answer', hParse', hOwes⟩
  rw [hParse, Option.some.injEq, Prod.mk.injEq] at hParse'
  rcases hParse' with ⟨rfl, rfl⟩
  rcases t with ⟨service, known⟩
  have hService := hServed.service
  cases service with
  | idle =>
      rw [InService, hState] at hService
      cases hService
  | owing body =>
      rw [InService, hState] at hService
      cases hService.1
  | received bytes =>
      rcases hService with ⟨-, rfl⟩
      refine
        ⟨_, Serving.serve known _ s.usb answer
          hServed.registers, ?_, rfl⟩
      cases hOwed :
          (serveFrame s.memory.mbBufMain s.usb.message).1 with
      | none =>
          rw [hOwed] at hOwes
          exact hOwes
      | some body =>
          rw [hOwed] at hOwes
          exact hOwes

/- Every step of the firmware is a step of the server. -/
theorem serving_step
    {history : List Event}
    {s s' : System}
    {t : ServerState}
    {event : Option Event}
    (hInv : Inv history s)
    (hServed : ServedBy s t)
    (hTransition : Transition s s' event) :
    ∃ t',
      Trace Serving t event.toList t' ∧ ServedBy s' t' := by
  rcases hServed with ⟨hListens, hService, hSame⟩
  have hQuiet :
      ∀ u, u.usb = s.usb →
        SameWritable t.registers u.memory.mbBufMain →
          ∃ t', Trace Serving t [] t' ∧ ServedBy u t' := by
    intro u hUsb hRegisters
    refine ⟨t, Trace.nil t, ?_, ?_, hRegisters⟩
    · rw [hUsb]
      exact hListens
    · rw [hUsb]
      exact hService
  cases hTransition with
  | nothing => exact hQuiet s rfl hSame
  | accept frame hFree hIdle =>
      rcases t with ⟨service, known⟩
      cases service with
      | idle =>
          exact
            ⟨_,
              Trace.cons (Serving.accept known frame)
                (Trace.nil _),
              ⟨hListens.frameBad, hListens.everybody⟩,
              ⟨rfl, message_handOver s.usb frame⟩, hSame⟩
      | received bytes =>
          rw [InService, hIdle] at hService
          cases hService.1
      | owing body =>
          rw [InService, hIdle] at hService
          cases hService.1
  | fill hSend =>
      rcases t with ⟨service, known⟩
      cases service with
      | idle =>
          rw [InService, hSend] at hService
          cases hService
      | received bytes =>
          rw [InService, hSend] at hService
          cases hService.1
      | owing body =>
          exact
            ⟨_,
              Trace.cons (Serving.answer known hService.2)
                (Trace.nil _),
              ⟨hListens.frameBad, hListens.everybody⟩, rfl,
              hSame⟩
  | begin hPc => exact hQuiet _ rfl hSame
  | parse rest answer mb' pc hPc hQueue hParse hSave hFree =>
      rcases serving_parse hInv ⟨hListens, hService, hSame⟩
          hQueue hParse with
        ⟨t', hStep, hService', rfl⟩
      exact
        ⟨t', Trace.cons hStep (Trace.nil t'),
          listens_of_mbParsing hInv.initialised hListens hParse,
          hService', SameWritable.refl _⟩
  | commit r hPc => exact hQuiet _ rfl hSame
  | resume r next hPc hNext => exact hQuiet _ rfl hSame
  | finish hPc =>
      exact
        ⟨t, Trace.cons (Serving.save t) (Trace.nil t),
          ⟨hListens.frameBad, hListens.everybody⟩,
          hService.congr rfl ⟨rfl, rfl⟩, hSame⟩
  | restart hPc hCommand =>
      exact
        ⟨_, Trace.cons (Serving.restart t _) (Trace.nil _),
          servedBy_start ⟨mbBufLinked, s.memory.fs⟩
            mbStructZero⟩
  | factoryAssign i r hFrom hNext =>
      exact
        ⟨_, Trace.cons (Serving.assign t r) (Trace.nil _),
          hListens, hService, hSame.update r _⟩
  | factoryCommit r hPc => exact hQuiet _ rfl hSame
  | command hPc =>
      exact hQuiet (commandDone s) rfl hSame.clear
  | publish r value hReadOnly =>
      have hRefused : writeCheck r ≠ .regOk := by
        rw [hReadOnly]
        decide
      exact
        hQuiet { s with memory := s.memory.assign r value } rfl
          (hSame.publish hRefused value)

------------------------------------------------------------
-- Runs
------------------------------------------------------------

/-
  The events of every run are what the register server shows,
  and it ends with the registers that the firmware has.
-/
theorem run_serves
    {m : Memory}
    {mbb : MbStruct}
    {actions : List Action}
    {s : System}
    {events : List Event}
    (hRun :
      EventSystem.run step (start m mbb) actions =
        some (s, events)) :
    ∃ service known,
      Trace Serving
          ⟨.idle, (start m mbb).memory.mbBufMain⟩ events
          ⟨service, known⟩ ∧
        InService s.usb service ∧
          SameWritable known s.memory.mbBufMain := by
  have hSteps :
      ∀ s t a s' event,
        (∃ history, Inv history s) ∧ ServedBy s t →
          step s a = some (s', event) →
            ∃ t',
              Trace Serving t event.toList t' ∧
                (∃ history, Inv history s') ∧
                  ServedBy s' t' := by
    rintro s t a s' event ⟨⟨history, hInv⟩, hServed⟩ hStep
    have hTransition := transition_of_step hStep
    rcases serving_step hInv hServed hTransition with
      ⟨t', hTrace, hNext⟩
    exact ⟨t', hTrace, ⟨_, inv_step hInv hTransition⟩, hNext⟩
  rcases exists_trace_of_run hSteps
      ⟨⟨[], inv_start m mbb⟩, servedBy_start m mbb⟩ hRun with
    ⟨⟨service, known⟩, hTrace, -, hEnd⟩
  exact
    ⟨service, known, hTrace, hEnd.service, hEnd.registers⟩

theorem readActions_serves :
    ∃ s events,
      EventSystem.run step
            (start ⟨mbBufLinked, fun _ => none⟩ mbStructZero)
            readActions =
          some (s, events) ∧
        ∃ service known,
          Trace Serving
              ⟨.idle,
                (start ⟨mbBufLinked, fun _ => none⟩
                  mbStructZero).memory.mbBufMain⟩ events
              ⟨service, known⟩ ∧
            InService s.usb service ∧
              SameWritable known s.memory.mbBufMain := by
  have hEnabled :
      (EventSystem.run step
        (start ⟨mbBufLinked, fun _ => none⟩ mbStructZero)
        readActions).isSome = true := by
    decide +kernel
  rcases Option.isSome_iff_exists.mp hEnabled with
    ⟨⟨s, events⟩, hRun⟩
  exact ⟨s, events, hRun, run_serves hRun⟩

------------------------------------------------------------
-- Reading Back
------------------------------------------------------------

theorem serveFrame_of_sealed
    (mb : Registers)
    {address function : UInt8}
    {data bytes : List UInt8}
    (hSealed : Sealed (address :: function :: data) bytes) :
    serveFrame mb bytes =
      if address = mbAddressBroadcast then
        (none, (serve mb function data).2)
      else
        (some
            (address ::
              (serve mb function data).1.bytes function),
          (serve mb function data).2) := by
  rcases hSealed with ⟨low, high, rfl, hValid⟩
  exact serveFrame_of_valid mb hValid

/- Registers that admit their values can be written. -/
theorem writeCheck_of_firstRefusal
    {start : Nat}
    {values : List UInt16}
    (hAdmitted : firstRefusal start values = .mbeNone)
    {r : Fin numBuf}
    (hInside : InRange start values.length r) :
    writeCheck r = .regOk := by
  induction values generalizing start with
  | nil =>
      rcases hInside with ⟨hFrom, hBefore⟩
      rw [List.length_nil] at hBefore
      omega
  | cons value values ih =>
      unfold firstRefusal at hAdmitted
      split at hAdmitted
      · next hBound =>
          split at hAdmitted
          · next hFirst =>
              rcases inRange_succ_iff.mp hInside with
                hHead | hTail
              · have hSame : r = ⟨start, hBound⟩ := Fin.ext hHead
                subst hSame
                unfold refusal at hFirst
                split at hFirst
                · cases hFirst
                · next hWritable =>
                    cases hCheck : writeCheck ⟨start, hBound⟩ with
                    | regOk => rfl
                    | regErr => exact absurd hCheck hWritable
              · exact ih hAdmitted hTail
          · next hFirst => exact absurd hAdmitted hFirst
      · cases hAdmitted

/- Registers that agree on a range have the same values. -/
theorem registersFrom_congr
    {mb mb' : Registers}
    {start count : Nat}
    (hFits : Fits start count)
    (hSame : ∀ r, InRange start count r → mb' r = mb r) :
    registersFrom mb' start count =
      registersFrom mb start count := by
  apply List.ext_getElem?
  intro k
  by_cases hInside : k < count
  · have hBound : start + k < numBuf := by
      have hEnd := hFits.2
      omega
    rw [getElem?_registersFrom _ hInside hBound,
      getElem?_registersFrom _ hInside hBound]
    congr 1
    exact
      hSame _ ⟨Nat.le_add_right _ _, by dsimp only; omega⟩
  · have hLength := length_registersFrom mb hFits
    have hLength' := length_registersFrom mb' hFits
    rw [List.getElem?_eq_none (by omega),
      List.getElem?_eq_none (by omega)]

/- The events that leave the registers of a range alone. -/
def KeepsRange (start count : Nat) : Event → Prop
| .parsed _ mb _ mb' =>
    ∀ r, InRange start count r → mb' r = mb r
| .defaulted r => ¬ InRange start count r
| .restarted _ => False
| _ => True

/- The events of a save or of a factory reset. -/
def IsQuiet : Event → Prop
| .saved => True
| .defaulted _ => True
| _ => False

/- A range that the firmware does not write by itself. -/
def Writable (start count : Nat) : Prop :=
  ∀ r, InRange start count r →
    writeCheck r = .regOk ∧ r ≠ regSendCommand

theorem serving_keepsRange
    {start count : Nat}
    {mb : Registers}
    (hWritable : Writable start count)
    (t : ServerState)
    (event : Event)
    (t' : ServerState)
    (hValues :
      ∀ r, InRange start count r → t.registers r = mb r)
    (hKeeps : KeepsRange start count event)
    (hServing : Serving t event t') :
    ∀ r, InRange start count r → t'.registers r = mb r := by
  intro r hInside
  have hBefore := hValues r hInside
  rcases hWritable r hInside with ⟨hWrite, hOther⟩
  cases hServing with
  | accept known frame => exact hBefore
  | serve known mb' request answer hKnown =>
      change (serveFrame mb' request.message).2 r = _
      rw [hKeeps r hInside, hKnown.eq_of_ne hWrite hOther]
      exact hBefore
  | answer known hSealed => exact hBefore
  | save t => exact hBefore
  | assign t q =>
      have hDistinct : r ≠ q := by
        intro hSame
        rw [hSame] at hInside
        exact hKeeps hInside
      change Function.update t.registers q _ r = _
      rw [Function.update_of_ne hDistinct]
      exact hBefore
  | restart t mb' => exact hKeeps.elim

theorem serving_quiet
    {service : Service}
    (t : ServerState)
    (event : Event)
    (t' : ServerState)
    (hService : t.service = service)
    (hQuiet : IsQuiet event)
    (hServing : Serving t event t') :
    t'.service = service := by
  cases hServing with
  | accept known frame => exact hQuiet.elim
  | serve known mb' request answer hKnown => exact hQuiet.elim
  | answer known hSealed => exact hQuiet.elim
  | save t => exact hService
  | assign t q => exact hService
  | restart t mb' => exact hQuiet.elim

/-
  A host that has written registers, several of them or a
  single one, and later reads them gets what it has written:
  the bytes that are sent in answer to the request are the
  values, whatever the other tasks did and whatever else was
  asked, unless one of the registers was written again, a
  default was restored to it, or the sensor restarted. The
  command register is left out, which the firmware clears.
-/
theorem host_reads_back
    {m : Memory}
    {mbb : MbStruct}
    {actions : List Action}
    {s : System}
    {before between quiet after : List Event}
    {write read written answer : MbStruct}
    {mb mb' now now' : Registers}
    {first : UInt16}
    {values : List UInt16}
    {host reader function : UInt8}
    {data bytes : List UInt8}
    (hRun :
      EventSystem.run step (start m mbb) actions =
        some
          (s,
            before ++ .parsed write mb written mb' ::
              (between ++ .parsed read now answer now' ::
                (quiet ++ .filled bytes :: after))))
    (hRequest : WriteRequest first values function data)
    (hWrite : Sealed (host :: function :: data) write.message)
    (hRead :
      Sealed
        (reader :: 3 ::
          readData first (UInt16.ofNat values.length))
        read.message)
    (hReader : reader ≠ mbAddressBroadcast)
    (hFits : Fits first.toNat values.length)
    (hAdmitted :
      firstRefusal first.toNat values = .mbeNone)
    (hCommand :
      ¬ InRange first.toNat values.length regSendCommand)
    (hBetween :
      ∀ event ∈ between,
        KeepsRange first.toNat values.length event)
    (hQuiet : ∀ event ∈ quiet, IsQuiet event) :
    Sealed (reader :: (Answer.values values).bytes 3)
      bytes := by
  have hWritable : Writable first.toNat values.length := by
    intro r hInside
    refine
      ⟨writeCheck_of_firstRefusal hAdmitted hInside, ?_⟩
    intro hSame
    rw [hSame] at hInside
    exact hCommand hInside
  have hCount :
      (UInt16.ofNat values.length).toNat = values.length := by
    have hEnd := hFits.2
    change first.toNat + values.length ≤ 120 at hEnd
    rw [UInt16.toNat_ofNat']
    omega
  rcases run_serves hRun with ⟨service, known, hTrace, -, -⟩
  -- The trace, cut at the write, the read and the answer.
  rcases trace_cons_split hTrace with
    ⟨t, t1, -, hServeWrite, hRest⟩
  rcases trace_cons_split hRest with
    ⟨t2, t3, hKept, hServeRead, hLast⟩
  rcases trace_cons_split hLast with
    ⟨t4, t5, hStill, hAnswer, -⟩
  have hWritten : mb' = writeValues mb first.toNat values := by
    cases hServeWrite with
    | serve known mb request answer hKnown =>
        rw [serveFrame_of_sealed mb hWrite,
          ← hRequest.registers mb hFits hAdmitted]
        split <;> rfl
  have hAfter : t1.registers = mb' := by
    cases hServeWrite with
    | serve known mb request answer hKnown => rfl
  have hBefore :
      ∀ r, InRange first.toNat values.length r →
        t2.registers r = mb' r :=
    hKept.invariant (serving_keepsRange hWritable)
      (fun r hInside => by rw [hAfter]) hBetween
  have hOwed :
      t3.service =
        .owing (reader :: (Answer.values values).bytes 3) := by
    cases hServeRead with
    | serve known now request answer hKnown =>
        have hKept :
            registersFrom now first.toNat values.length =
              registersFrom mb' first.toNat values.length := by
          apply registersFrom_congr hFits
          intro r hInside
          rcases hWritable r hInside with ⟨hWrite, hOther⟩
          rw [hKnown.eq_of_ne hWrite hOther]
          exact hBefore r hInside
        have hValues :
            registersFrom now first.toNat values.length =
              values := by
          rw [hKept, hWritten,
            registersFrom_writeValues mb hFits]
        have hServed := serveFrame_of_sealed now hRead
        rw [serve_readData now (by rw [hCount]; exact hFits),
          if_neg hReader, hCount, hValues] at hServed
        rw [hServed]
        rfl
  have hWaits :=
    hStill.invariant serving_quiet hOwed hQuiet
  cases hAnswer with
  | answer known hSealed =>
      cases hWaits
      exact hSealed

/- The kind of an event, and the bytes that it is about. -/
def Event.summary : Event → Nat × List UInt8
| .accepted frame => (0, frame.bytes)
| .parsed request _ _ _ => (1, request.message)
| .filled bytes => (2, bytes)
| .saved => (3, [])
| .defaulted _ => (4, [])
| .restarted _ => (5, [])

theorem eq_parsed_of_summary
    {event : Event}
    {bytes : List UInt8}
    (hSummary : event.summary = (1, bytes)) :
    ∃ request mb answer mb',
      event = .parsed request mb answer mb' ∧
        request.message = bytes := by
  cases event with
  | parsed request mb answer mb' =>
      cases hSummary
      exact ⟨request, mb, answer, mb', rfl, rfl⟩
  | accepted frame => cases hSummary
  | filled bytes => cases hSummary
  | saved => cases hSummary
  | defaulted r => cases hSummary
  | restarted mb => cases hSummary

theorem eq_filled_of_summary
    {event : Event}
    {bytes : List UInt8}
    (hSummary : event.summary = (2, bytes)) :
    event = .filled bytes := by
  cases event with
  | filled bytes =>
      cases hSummary
      rfl
  | accepted frame => cases hSummary
  | parsed request mb answer mb' => cases hSummary
  | saved => cases hSummary
  | defaulted r => cases hSummary
  | restarted mb => cases hSummary

/- Events of the line leave the registers alone. -/
theorem keepsRange_of_summary
    {event : Event}
    {start count : Nat}
    (hSummary :
      event.summary.1 = 0 ∨ event.summary.1 = 2 ∨
        event.summary.1 = 3) :
    KeepsRange start count event := by
  cases event with
  | accepted frame => trivial
  | filled bytes => trivial
  | saved => trivial
  | parsed request mb answer mb' =>
      simp [Event.summary] at hSummary
  | defaulted r => simp [Event.summary] at hSummary
  | restarted mb => simp [Event.summary] at hSummary

def scaleRequest : Received :=
  ⟨scaleFrame.bytes, by decide⟩

def scaleQuery : Received :=
  ⟨scaleFrameQuery.bytes, by decide⟩

/- They are written, saved, and asked for. -/
def scaleActions : List Action :=
  [.modbus, .uart (some scaleRequest) true] ++
    List.replicate 6 .modbus ++
      [.uart none true, .uart (some scaleQuery) true,
        .modbus, .uart none true]

theorem scaleActions_reads_back :
    ∃ s before between write written read answer mb mb' now
        now' bytes,
      EventSystem.run step
            (start ⟨mbBufLinked, fun _ => none⟩ mbStructZero)
            scaleActions =
          some
            (s,
              before ++ .parsed write mb written mb' ::
                (between ++ .parsed read now answer now' ::
                  ([] ++ .filled bytes :: []))) ∧
        Sealed (1 :: (Answer.values [0xFFEC, 2]).bytes 3)
          bytes := by
  have hSummaries :
      (EventSystem.run step
          (start ⟨mbBufLinked, fun _ => none⟩ mbStructZero)
          scaleActions).map
          (fun last => last.2.map Event.summary) =
        some
          [(0, scaleRequest.bytes), (1, scaleRequest.bytes),
            (3, []),
            (2, [1, 16, 0, 96, 0, 2, 0x41, 0xD6]),
            (0, scaleQuery.bytes), (1, scaleQuery.bytes),
            (2, [1, 3, 4, 0xFF, 0xEC, 0, 2, 0x8A, 0x13])] := by
    decide +kernel
  rcases Option.map_eq_some_iff.mp hSummaries with
    ⟨⟨s, events⟩, hRun, hEvents⟩
  simp only [List.map_eq_cons_iff, List.map_eq_nil_iff]
    at hEvents
  rcases hEvents with
    ⟨e0, l0, rfl, h0, e1, l1, rfl, h1, e2, l2, rfl, h2, e3, l3,
      rfl, h3, e4, l4, rfl, h4, e5, l5, rfl, h5, e6, l6, rfl,
      h6, rfl⟩
  rcases eq_parsed_of_summary h1 with
    ⟨write, mb, written, mb', rfl, hWrite⟩
  rcases eq_parsed_of_summary h5 with
    ⟨read, now, answer, now', rfl, hRead⟩
  have hFilled := eq_filled_of_summary h6
  subst hFilled
  have hParts :
      EventSystem.run step
          (start ⟨mbBufLinked, fun _ => none⟩ mbStructZero)
          scaleActions =
        some
          (s,
            [e0] ++ .parsed write mb written mb' ::
              ([e2, e3, e4] ++ .parsed read now answer now' ::
                ([] ++
                  .filled
                      [1, 3, 4, 0xFF, 0xEC, 0, 2, 0x8A, 0x13] ::
                    []))) :=
    hRun
  have hScale :
      Sealed (1 :: 16 :: writeData 96 [0xFFEC, 2])
        write.message := by
    rw [hWrite]
    exact ⟨0x85, 0xA7, rfl, by decide +kernel⟩
  have hQuery :
      Sealed (1 :: 3 :: readData 96 (UInt16.ofNat 2))
        read.message := by
    rw [hRead]
    exact ⟨0xC4, 0x15, rfl, by decide +kernel⟩
  have hBetween :
      ∀ event ∈ [e2, e3, e4], KeepsRange 96 2 event := by
    intro event hEvent
    apply keepsRange_of_summary
    simp only [List.mem_cons, List.not_mem_nil, or_false]
      at hEvent
    rcases hEvent with rfl | rfl | rfl
    · exact Or.inr (Or.inr (congrArg Prod.fst h2))
    · exact Or.inr (Or.inl (congrArg Prod.fst h3))
    · exact Or.inl (congrArg Prod.fst h4)
  exact
    ⟨s, [e0], [e2, e3, e4], write, written, read, answer, mb,
      mb', now, now', _, hParts,
      host_reads_back hParts
        (WriteRequest.multiple (List.cons_ne_nil _ _)) hScale
        hQuery (by decide) (by decide) (by decide) (by decide)
        hBetween (by simp)⟩

end Firmware

end TemperatureSensor
