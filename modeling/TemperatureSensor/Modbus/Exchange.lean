import TemperatureSensor.Modbus.ServerRefinement

/-
  Whole exchanges: every frame is discarded, refused or
  served completely, and no run of frames breaks the
  permissions or the limits of the register table.

  Main declarations:
    * `Preserved`
    * `FrameServed`
    * `exchange`
    * `mbParsing_allOrNothing`
-/

------------------------------------------------------------
-- One Frame
------------------------------------------------------------

namespace TemperatureSensor

/-
  Read-only registers are unchanged, and registers within
  their limits stay within them.
-/
structure Preserved (mb mb' : Registers) : Prop where
  readOnly :
    ∀ r, writeCheck r ≠ .regOk → mb' r = mb r
  limits :
    ∀ r, WithinLimit r (mb r) → WithinLimit r (mb' r)

theorem Preserved.refl
    (mb : Registers) :
    Preserved mb mb :=
  ⟨fun _ _ => rfl, fun _ hWithin => hWithin⟩

theorem Preserved.trans
    {mb mb' mb'' : Registers}
    (hFirst : Preserved mb mb')
    (hSecond : Preserved mb' mb'') :
    Preserved mb mb'' := by
  constructor
  · intro r hReadOnly
    rw [hSecond.readOnly r hReadOnly,
      hFirst.readOnly r hReadOnly]
  · intro r hWithin
    exact hSecond.limits r (hFirst.limits r hWithin)

/- An accepted write keeps permissions and limits. -/
theorem preserved_writeRange
    {start count : Nat}
    {value : Nat → UInt16}
    (mb : Registers)
    (hAccepted : RangeAccepted start count value) :
    Preserved mb (writeRange mb start count value) := by
  constructor
  · intro r hReadOnly
    apply if_neg
    intro hInside
    exact hReadOnly (hAccepted r hInside).1
  · intro r hWithin
    unfold writeRange
    split
    · next hInside =>
        exact
          (limitCheck_eq_regOk_iff r _).mp
            (hAccepted r hInside).2
    · exact hWithin

theorem Reply.preserved
    {mbb body : MbStruct}
    {mb mb' : Registers}
    (hReply : Reply mbb mb body mb') :
    Preserved mb mb' := by
  cases hReply with
  | exception => exact Preserved.refl mb
  | read => exact Preserved.refl mb
  | write _ _ _ _ _ _ _ hAccepted _ _ _ _ =>
      exact preserved_writeRange mb hAccepted

/-
  What one frame leads to. A frame that is accepted is served
  as the register server serves it, any other one changes
  nothing; and a response leaves room for its checksum.
-/
structure FrameServed
    (request : MbStruct)
    (mb : Registers)
    (mbb' : MbStruct)
    (mb' : Registers) : Prop where
  outcome : ParsingOutcome request mb mbb' mb'
  served :
    Accepts request →
      mb' = (serveFrame mb request.message).2 ∧
        Owes mbb' (serveFrame mb request.message).1
  discarded :
    ¬ Accepts request →
      mbb' = { request with mbState := .stateIdle } ∧ mb' = mb
  preserved : Preserved mb mb'
  initialised : mbb'.Initialised
  response :
    mbb'.mbState = .stateSend →
      ∃ body, Closed body mbb' ∧ body.mbIndex.toNat ≤ 243

theorem mbParsing_frameServed
    {mbb : MbStruct}
    (hInit : mbb.Initialised)
    (mb : Registers) :
    ∃ mbb' mb',
      mbParsing mbb mb = some (mbb', mb') ∧
        FrameServed mbb mb mbb' mb' := by
  rcases mbParsing_spec mbb mb hInit with
    ⟨mbb', mb', hParsing, hOutcome⟩
  refine ⟨mbb', mb', hParsing, ?_⟩
  constructor
  case outcome => exact hOutcome
  case served =>
    intro hAccepts
    rcases mbParsing_owes hInit hAccepts mb with
      ⟨answer, hServed, hOwes⟩
    rw [hParsing, Option.some.injEq, Prod.mk.injEq] at hServed
    rcases hServed with ⟨rfl, rfl⟩
    exact ⟨rfl, hOwes⟩
  case discarded =>
    intro hRefused
    rw [mbParsing_discards hRefused, Option.some.injEq,
      Prod.mk.injEq] at hParsing
    rcases hParsing with ⟨rfl, rfl⟩
    exact ⟨rfl, rfl⟩
  case preserved =>
    cases hOutcome with
    | discarded _ _ => exact Preserved.refl mb
    | answered _ _ _ _ _ hReply _ _ => exact hReply.preserved
  case initialised =>
    cases hOutcome with
    | discarded _ hSame =>
        rw [hSame]
        exact ⟨hInit.readLast, hInit.writeLast⟩
    | answered _ _ _ _ hSetup _ hClosed _ =>
        exact hClosed.setup.initialised
          (hSetup.initialised hInit)
  case response =>
    intro hSend
    cases hOutcome with
    | discarded _ hSame =>
        rw [hSame] at hSend
        cases hSend
    | answered body _ _ _ _ hReply hClosed _ =>
        exact ⟨body, hClosed, hReply.mbIndex_le⟩

/- Only an accepted frame asks for a save. -/
theorem FrameServed.accepts
    {request answer : MbStruct}
    {mb mb' : Registers}
    (hServed : FrameServed request mb answer mb')
    (hFree : request.eepState = .eepFree)
    (hSave : answer.eepState = .eepSave) :
    Accepts request := by
  by_contra hRefused
  rw [(hServed.discarded hRefused).1, hFree] at hSave
  cases hSave

theorem frameServed_of_mbParsing
    {request answer : MbStruct}
    {mb mb' : Registers}
    (hInit : request.Initialised)
    (hParse : mbParsing request mb = some (answer, mb')) :
    FrameServed request mb answer mb' := by
  rcases mbParsing_frameServed hInit mb with
    ⟨answer', mb'', hSame, hServed⟩
  rw [hParse, Option.some.injEq, Prod.mk.injEq] at hSame
  rcases hSame with ⟨rfl, rfl⟩
  exact hServed

------------------------------------------------------------
-- Runs of Frames
------------------------------------------------------------

theorem handOver_initialised
    {mbb : MbStruct}
    (hInit : mbb.Initialised)
    (frame : Frame) :
    (mbb.handOver frame).Initialised :=
  ⟨hInit.readLast, hInit.writeLast⟩

/-
  Hand over a frame and parse it. The flag tells whether a
  pending save has finished before.
-/
def exchange
    (s : MbStruct × Registers)
    (a : Bool × Frame) : Option (MbStruct × Registers) :=
  let mbb :=
    if a.1 then { s.1 with eepState := .eepFree } else s.1
  mbParsing (mbb.handOver a.2) s.2

theorem exchange_spec
    {mbb : MbStruct}
    (hInit : mbb.Initialised)
    (mb : Registers)
    (a : Bool × Frame) :
    ∃ mbb' mb',
      exchange (mbb, mb) a = some (mbb', mb') ∧
        mbb'.Initialised ∧ Preserved mb mb' := by
  have hReady :
      (if a.1 then { mbb with eepState := .eepFree }
        else mbb).Initialised := by
    split
    · exact ⟨hInit.readLast, hInit.writeLast⟩
    · exact hInit
  rcases mbParsing_frameServed
      (handOver_initialised hReady a.2) mb with
    ⟨mbb', mb', hParsing, hServed⟩
  exact
    ⟨mbb', mb', hParsing, hServed.initialised,
      hServed.preserved⟩

/-
  After any run of frames, the permissions and limits are
  kept, and any further frame is served: it is discarded, or
  refused, or read, or written as a whole.
-/
theorem mbParsing_allOrNothing
    {mbb : MbStruct}
    (hInit : mbb.Initialised)
    (mb : Registers)
    (frames : List (Bool × Frame)) :
    ∃ mbb' mb',
      CheckedLoop.forEach exchange frames (mbb, mb) =
          some (mbb', mb') ∧
        Preserved mb mb' ∧
          ∀ frame, ∃ mbb'' mb'',
            mbParsing (mbb'.handOver frame) mb' =
                some (mbb'', mb'') ∧
              FrameServed (mbb'.handOver frame) mb' mbb''
                mb'' := by
  induction frames generalizing mbb mb with
  | nil =>
      refine ⟨mbb, mb, rfl, Preserved.refl mb, ?_⟩
      intro frame
      exact
        mbParsing_frameServed
          (handOver_initialised hInit frame) mb
  | cons a frames ih =>
      rcases exchange_spec hInit mb a with
        ⟨mbb1, mb1, hFirst, hInit1, hPreserved⟩
      rcases ih hInit1 mb1 with
        ⟨mbb', mb', hRest, hLater, hServed⟩
      refine
        ⟨mbb', mb', ?_, hPreserved.trans hLater, hServed⟩
      rw [CheckedLoop.forEach, hFirst, Option.bind_some,
        hRest]

/- The structure as it is linked, before `mh_usb_init`. -/
def mbStructZero : MbStruct where
  regReadLast := 0
  regWriteLast := 0
  eepStartSave := 0
  eepIndx := 0
  eepState := .eepFree
  slaveAddress := 0
  mbIndex := 0
  mbState := .stateIdle
  erFrameBad := .evNoevent
  pMbBuff := fun _ => 0
  responseSize := 0

/- The first temperature of the table and its step are set. -/
def scaleFrame : Frame :=
  ⟨[1, 16, 0, 96, 0, 2, 4, 0xFF, 0xEC, 0, 2, 0x85, 0xA7],
    by decide, by decide⟩

def scaleFrameQuery : Frame :=
  ⟨[1, 3, 0, 96, 0, 2, 0xC4, 0x15], by decide, by decide⟩

/- They are written, saved, and asked for. -/
theorem mhUsbInit_allOrNothing :
    ∃ mbb' mb',
      CheckedLoop.forEach exchange
            [(false, scaleFrame), (true, scaleFrameQuery)]
            (mhUsbInit mbStructZero,
              fun r => (defaultState r).defaultValue) =
          some (mbb', mb') ∧
        (mb' regNtcStartTemperature = 0xFFEC ∧
          mb' regNtcStepTemperature = 2) ∧
        Preserved (fun r => (defaultState r).defaultValue)
            mb' ∧
          ∀ frame, ∃ mbb'' mb'',
            mbParsing (mbb'.handOver frame) mb' =
                some (mbb'', mb'') ∧
              FrameServed (mbb'.handOver frame) mb' mbb''
                mb'' := by
  rcases mbParsing_allOrNothing
      (mhUsbInit_initialised mbStructZero)
      (fun r => (defaultState r).defaultValue)
      [(false, scaleFrame), (true, scaleFrameQuery)] with
    ⟨mbb', mb', hRun, hServed⟩
  have hWritten :
      (CheckedLoop.forEach exchange
          [(false, scaleFrame), (true, scaleFrameQuery)]
          (mhUsbInit mbStructZero,
            fun r => (defaultState r).defaultValue)).map
          (fun s =>
            (s.2 regNtcStartTemperature,
              s.2 regNtcStepTemperature)) =
        some (0xFFEC, 2) := by
    decide +kernel
  rw [hRun, Option.map_some, Option.some.injEq,
    Prod.mk.injEq] at hWritten
  exact ⟨mbb', mb', hRun, hWritten, hServed⟩

end TemperatureSensor
