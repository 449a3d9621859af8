import TemperatureSensor.Foundations.EventSystem
import TemperatureSensor.Measure.Adc
import TemperatureSensor.Zigbee.Attribute

/-
  `main`, `io_adc_task` and `com_task` side by side, up to
  the first reboot, and what `com_task` publishes.

  Main declarations:
    * `Startup.step`
    * `Startup.Measured`
    * `Startup.inv_run`
    * `Startup.published_measured_iff`
-/

------------------------------------------------------------
-- States
------------------------------------------------------------

namespace TemperatureSensor

namespace Startup

/- Where `main` stands. -/
inductive MainPc where
| usbEnable
| adcInit
| attrInit
| running
| returned
deriving DecidableEq, Repr

/-
  Where `io_adc_task` stands: not created, before an
  `adc_read` (the first or a later one), in a channel loop,
  or returned.
-/
inductive AdcPc (C : Nat) where
| absent
| reading (first : Bool)
| storing
    (first : Bool)
    (sampleBuffer : SampleBuffer C)
    (i : Fin C)
| returned

/- Where `com_task` stands. -/
inductive ComPc where
| watchdog
| sleeping
| returned
deriving DecidableEq, Repr

/- The three tasks and the variables that they share. -/
structure System (C : Nat) where
  main : MainPc
  adc : AdcPc C
  com : ComPc
  vars : AdcState C
  measureValue : Int16

/- The state before `main` and `com_task` are started. -/
def boot
    {C : Nat}
    (adcFilterValue : Fin C → Int16)
    (mbBufMain : Registers) : System C where
  main := .usbEnable
  adc := .absent
  com := .watchdog
  vars :=
    { adcFilterValue := adcFilterValue
      adcValueT := fun _ => 0
      mbBufMain := mbBufMain }
  measureValue := 0

------------------------------------------------------------
-- Steps
------------------------------------------------------------

/-
  A step of one of the tasks. The arguments are the outcomes
  of the calls that may fail.
-/
inductive Action (C : Nat) where
| usbEnable (ok : Bool)
| adcInit (ready : Bool)
| attrInit
| adcRead (outcome : Option (SampleBuffer C))
| adcChannel
| comWatchdog (ok : Bool)
| comPublish

/- What is observed of a run. -/
inductive Event where
| readOk
| readFailed
| published (valueTemp : Int16)
deriving DecidableEq, Repr

variable {C : Nat} [NeZero C]

/- The next channel of a loop, or the next `adc_read`. -/
def nextChannel
    (first : Bool)
    (sampleBuffer : SampleBuffer C)
    (i : Fin C) : AdcPc C :=
  if hNext : i.val + 1 < C then
    .storing first sampleBuffer ⟨i.val + 1, hNext⟩
  else
    .reading false

/-
  One step. A task runs to its next blocking point or loop
  iteration; an action that its task cannot take is `none`.
-/
def step
    (channelSeq : ChannelSeq C)
    (ntc : NtcState)
    (s : System C) :
    Action C → Option (System C × Option Event)
| .usbEnable ok =>
    match s.main with
    | .usbEnable =>
        let pc := if ok then .adcInit else .returned
        some ({ s with main := pc }, none)
    | _ => none
| .adcInit ready =>
    match s.main with
    | .adcInit =>
        let pc := if ready then .reading true else s.adc
        some ({ s with main := .attrInit, adc := pc }, none)
    | _ => none
| .attrInit =>
    match s.main with
    | .attrInit =>
        some
          ({ s with
             main := .running
             measureValue := temperatureNoMeasure }, none)
    | _ => none
| .adcRead outcome =>
    match s.adc with
    | .reading first =>
        match outcome with
        | some sampleBuffer =>
            some
              ({ s with adc := .storing first sampleBuffer 0 },
                some .readOk)
        | none =>
            some ({ s with adc := .returned }, some .readFailed)
    | _ => none
| .adcChannel =>
    match s.adc with
    | .storing first sampleBuffer i =>
        let update := if first then filterStart else filterStep
        (channelBody update channelSeq ntc sampleBuffer
          s.vars i).map fun vars =>
            ({ s with
               vars := vars
               adc := nextChannel first sampleBuffer i }, none)
    | _ => none
| .comWatchdog ok =>
    match s.com with
    | .watchdog =>
        let pc := if ok then .sleeping else .returned
        some ({ s with com := pc }, none)
    | _ => none
| .comPublish =>
    match s.com with
    | .sleeping =>
        let value := valueTemp (s.vars.adcValueT 0)
        some
          ({ s with measureValue := value },
            some (.published value))
    | _ => none

------------------------------------------------------------
-- Measured Histories
------------------------------------------------------------

/- A read has succeeded, and none has failed since. -/
def Measured (history : List Event) : Prop :=
  ∃ earlier later,
    history = earlier ++ .readOk :: later ∧
      .readFailed ∉ later

theorem measured_concat_readOk
    (history : List Event) :
    Measured (history ++ [.readOk]) :=
  ⟨history, [], rfl, by simp⟩

theorem not_measured_concat_readFailed
    (history : List Event) :
    ¬ Measured (history ++ [.readFailed]) := by
  rintro ⟨earlier, later, hSplit, hLater⟩
  rcases EventSystem.concat_eq_append_cons hSplit with
    ⟨-, -, hEvent⟩ | ⟨later', rfl, -⟩
  · cases hEvent
  · simp at hLater

theorem measured_concat_published_iff
    (history : List Event)
    (value : Int16) :
    Measured (history ++ [.published value]) ↔
      Measured history := by
  constructor
  · rintro ⟨earlier, later, hSplit, hLater⟩
    rcases EventSystem.concat_eq_append_cons hSplit with
      ⟨-, -, hEvent⟩ | ⟨later', rfl, hFront⟩
    · cases hEvent
    · refine ⟨earlier, later', hFront, ?_⟩
      intro hMember
      exact hLater (List.mem_append_left _ hMember)
  · rintro ⟨earlier, later, rfl, hLater⟩
    refine ⟨earlier, later ++ [.published value], by simp, ?_⟩
    simpa using hLater

/- The task is past an `adc_read` and has not returned. -/
def AdcPc.IsSampling : AdcPc C → Prop
| .reading false => True
| .storing _ _ _ => True
| _ => False

omit [NeZero C] in
theorem isSampling_nextChannel
    (first : Bool)
    (sampleBuffer : SampleBuffer C)
    (i : Fin C) :
    (nextChannel first sampleBuffer i).IsSampling := by
  unfold nextChannel
  split <;> trivial

------------------------------------------------------------
-- Invariant
------------------------------------------------------------

/- A fault code, or a temperature on the admitted scale. -/
def OnScale (t : Int16) : Prop :=
  ¬ IsOrdinary t ∨ (-40 ≤ t.toInt ∧ t.toInt ≤ 845)

/-
  The task is sampling exactly when the history is measured,
  it is not created before `io_adc_init`, and every stored
  result is on the scale.
-/
structure Inv
    (history : List Event)
    (s : System C) : Prop where
  sampling : s.adc.IsSampling ↔ Measured history
  absent :
    s.main = .usbEnable ∨ s.main = .adcInit →
      s.adc = .absent
  scale : ∀ i, OnScale (s.vars.adcValueT i).toInt16

omit [NeZero C] in
theorem inv_boot
    (adcFilterValue : Fin C → Int16)
    (mbBufMain : Registers) :
    Inv [] (boot adcFilterValue mbBufMain) := by
  constructor
  · constructor
    · exact False.elim
    · rintro ⟨earlier, later, hSplit, -⟩
      simp at hSplit
  · exact fun _ => rfl
  · intro i
    have hZero : OnScale (0 : UInt16).toInt16 :=
      Or.inr (by decide)
    exact hZero

theorem onScale_of_lookup
    {cal : Calibration}
    {adcsum : Int}
    {t : Int16}
    (hLookup : Lookup cal adcsum t) :
    OnScale t := by
  have hRange := cal.range_bounds
  rcases hLookup.toInt_mem_or_fault with
    hOver | hUnder | hScale
  · exact Or.inl fun hOrdinary => hOrdinary.2 hOver
  · exact Or.inl fun hOrdinary => hOrdinary.1 hUnder
  · exact Or.inr ⟨by omega, by omega⟩

/- Every step keeps the invariant. -/
theorem inv_step
    {channelSeq : ChannelSeq C}
    (cal : Calibration)
    {history : List Event}
    {s t : System C}
    {a : Action C}
    {event : Option Event}
    (hInv : Inv history s)
    (hStep :
      step channelSeq cal.toNtcState s a = some (t, event)) :
    Inv (EventSystem.record history event) t := by
  cases a with
  | usbEnable ok =>
      rw [step] at hStep
      split at hStep
      · next hPc =>
          cases hStep
          have hAbsent := hInv.absent (Or.inl hPc)
          exact
            ⟨hInv.sampling,
              fun _ => hAbsent, hInv.scale⟩
      · cases hStep
  | adcInit ready =>
      rw [step] at hStep
      split at hStep
      · next hPc =>
          cases hStep
          have hAbsent := hInv.absent (Or.inr hPc)
          have hUnmeasured := hInv.sampling
          refine ⟨?_, by simp, hInv.scale⟩
          cases ready with
          | true =>
              rw [hAbsent] at hUnmeasured
              exact hUnmeasured
          | false => exact hUnmeasured
      · cases hStep
  | attrInit =>
      rw [step] at hStep
      split at hStep
      · cases hStep
        exact
          ⟨hInv.sampling, by simp, hInv.scale⟩
      · cases hStep
  | adcRead outcome =>
      rw [step] at hStep
      split at hStep
      · next first hPc =>
          have hCreated :
              ¬ (s.main = .usbEnable ∨ s.main = .adcInit) := by
            intro hEarly
            have hAbsent := hInv.absent hEarly
            rw [hPc] at hAbsent
            cases hAbsent
          cases outcome with
          | some sampleBuffer =>
              cases hStep
              exact
                ⟨iff_of_true trivial
                  (measured_concat_readOk history),
                  fun hEarly => absurd hEarly hCreated,
                  hInv.scale⟩
          | none =>
              cases hStep
              exact
                ⟨iff_of_false id
                  (not_measured_concat_readFailed history),
                  fun hEarly => absurd hEarly hCreated,
                  hInv.scale⟩
      · cases hStep
  | adcChannel =>
      rw [step] at hStep
      split at hStep
      · next first sampleBuffer i hPc =>
          rcases Option.map_eq_some_iff.mp hStep with
            ⟨vars, hBody, hPair⟩
          cases hPair
          rcases channelBody_eq_some hBody with
            ⟨adcVal, x, -, hTemperature, -, hValue⟩
          have hLookup :=
            lookup_of_calcTemperature cal hTemperature
          have hSampling := hInv.sampling
          rw [hPc] at hSampling
          refine ⟨?_, ?_, ?_⟩
          · have hNext :=
              isSampling_nextChannel first sampleBuffer i
            exact
              iff_of_true hNext
                (hSampling.mp trivial)
          · intro hEarly
            have hAbsent := hInv.absent hEarly
            rw [hPc] at hAbsent
            cases hAbsent
          · intro j
            by_cases hHere : j = i
            · subst hHere
              simpa [hValue] using onScale_of_lookup hLookup
            · simpa [hValue, hHere] using hInv.scale j
      · cases hStep
  | comWatchdog ok =>
      rw [step] at hStep
      split at hStep
      · cases hStep
        exact
          ⟨hInv.sampling, hInv.absent,
            hInv.scale⟩
      · cases hStep
  | comPublish =>
      rw [step] at hStep
      split at hStep
      · cases hStep
        refine ⟨?_, hInv.absent, hInv.scale⟩
        rw [EventSystem.record, measured_concat_published_iff]
        exact hInv.sampling
      · cases hStep

/- Every run ends in a state related to its history. -/
theorem inv_run
    {channelSeq : ChannelSeq C}
    (cal : Calibration)
    {adcFilterValue : Fin C → Int16}
    {mbBufMain : Registers}
    {actions : List (Action C)}
    {s : System C}
    {events : List Event}
    (hRun :
      EventSystem.run (step channelSeq cal.toNtcState)
          (boot adcFilterValue mbBufMain) actions =
        some (s, events)) :
    Inv events s :=
  EventSystem.run_invariant
    (fun _ _ _ _ _ hInv hStep => inv_step cal hInv hStep)
    (inv_boot adcFilterValue mbBufMain) hRun

------------------------------------------------------------
-- Published Values
------------------------------------------------------------

/- `TEMPERATURE_NO_MEASURE` or a sensor-fault code. -/
def IsErrorCode (value : Int16) : Prop :=
  value = temperatureNoMeasure ∨ ¬ IsOrdinary value

/-
  A published value is an error code exactly when the result
  behind it is: no wrapped hundredfold is one.
-/
theorem isErrorCode_valueTemp_iff
    {t : Int16}
    (hScale : OnScale t) :
    IsErrorCode (valueTemp t.toUInt16) ↔ ¬ IsOrdinary t := by
  rcases hScale with hFault | ⟨hLower, hUpper⟩
  · rw [valueTemp_of_not_isOrdinary hFault]
    exact iff_of_true (Or.inr hFault) hFault
  · have hOrdinary := isOrdinary_of_toInt_le hUpper
    refine iff_of_false ?_ (not_not.mpr hOrdinary)
    have hWrapped :
        (valueTemp t.toUInt16).toInt =
          (100 * t.toInt).bmod 65536 := by
      rw [valueTemp_of_toInt_lt (by omega), Int16.toInt_ofInt]
    rw [Int.bmod_def] at hWrapped
    have hOther :
        ∀ code : Int16,
          code.toInt = 0x7001 ∨ code.toInt = 0x7002 ∨
            code.toInt = 0x7004 →
          valueTemp t.toUInt16 ≠ code := by
      intro code hCode hSame
      rw [hSame] at hWrapped
      split at hWrapped <;> omega
    rintro (hNoMeasure | hFault)
    · exact hOther _ (by decide) hNoMeasure
    · apply hFault
      constructor
      · exact hOther _ (by decide)
      · exact hOther _ (by decide)

/- What `com_task` publishes in a state. -/
theorem step_comPublish
    {channelSeq : ChannelSeq C}
    {ntc : NtcState}
    {s t : System C}
    {event : Option Event}
    (hStep :
      step channelSeq ntc s .comPublish = some (t, event)) :
    event =
      some (.published (valueTemp (s.vars.adcValueT 0))) := by
  rw [step] at hStep
  split at hStep
  · cases hStep
    rfl
  · cases hStep

/- Only `com_task` publishes. -/
theorem eq_comPublish_of_published
    {channelSeq : ChannelSeq C}
    {ntc : NtcState}
    {s t : System C}
    {a : Action C}
    {value : Int16}
    (hStep :
      step channelSeq ntc s a =
        some (t, some (.published value))) :
    a = .comPublish := by
  cases a with
  | comPublish => rfl
  | adcChannel =>
      rw [step] at hStep
      split at hStep
      · rcases Option.map_eq_some_iff.mp hStep with
          ⟨vars, -, hPair⟩
        cases hPair
      · cases hStep
  | adcRead outcome =>
      rw [step] at hStep
      split at hStep
      · cases outcome with
        | some sampleBuffer => cases hStep
        | none => cases hStep
      · cases hStep
  | _ =>
      rw [step] at hStep
      split at hStep
      · cases hStep
      · cases hStep

/-
  Every value published in a run is an error code or follows
  a measured history.
-/
def PublishesMeasured (events : List Event) : Prop :=
  ∀ before value after,
    events = before ++ .published value :: after →
      IsErrorCode value ∨ Measured before

/-
  At each publication the sampling task is past its first
  read and has not returned, or channel 0 holds a fault code.
-/
def PublishesSampled
    (channelSeq : ChannelSeq C)
    (ntc : NtcState)
    (start : System C)
    (actions : List (Action C)) : Prop :=
  ∀ earlier later u history,
    actions = earlier ++ .comPublish :: later →
      EventSystem.run (step channelSeq ntc) start earlier =
        some (u, history) →
        u.adc.IsSampling ∨
          ¬ IsOrdinary (u.vars.adcValueT 0).toInt16

/-
  Exactly the runs that publish while the task is sampling,
  or while a fault code is stored, publish measured values
  only.
-/
theorem published_measured_iff
    (channelSeq : ChannelSeq C)
    (cal : Calibration)
    {adcFilterValue : Fin C → Int16}
    {mbBufMain : Registers}
    {actions : List (Action C)}
    {s : System C}
    {events : List Event}
    (hRun :
      EventSystem.run (step channelSeq cal.toNtcState)
          (boot adcFilterValue mbBufMain) actions =
        some (s, events)) :
    PublishesMeasured events ↔
      PublishesSampled channelSeq cal.toNtcState
        (boot adcFilterValue mbBufMain) actions := by
  have hPublished :
      ∀ {earlier u history},
        EventSystem.run (step channelSeq cal.toNtcState)
            (boot adcFilterValue mbBufMain) earlier =
          some (u, history) →
          (IsErrorCode (valueTemp (u.vars.adcValueT 0)) ∨
              Measured history ↔
            u.adc.IsSampling ∨
              ¬ IsOrdinary
                (u.vars.adcValueT 0).toInt16) := by
    intro earlier u history hEarlier
    have hInv := inv_run cal hEarlier
    have hCode := isErrorCode_valueTemp_iff (hInv.scale 0)
    rw [UInt16.toUInt16_toInt16] at hCode
    rw [hCode, hInv.sampling, or_comm]
  constructor
  · intro hMeasured earlier later u history hActions hEarlier
    subst hActions
    rcases EventSystem.run_append.mp hRun with
      ⟨u', history', rest, hEarlier', hLater, hEvents⟩
    have hSame := hEarlier.symm.trans hEarlier'
    cases hSame
    rcases EventSystem.run_cons_eq_some.mp hLater with
      ⟨v, event, rest', hStep, -, hRest⟩
    have hEvent := step_comPublish hStep
    apply (hPublished hEarlier).mp
    apply hMeasured history _ rest'
    rw [hEvents, hRest, hEvent]
    rfl
  · intro hCondition before value after hEvents
    subst hEvents
    rcases EventSystem.exists_step_of_event hRun with
      ⟨earlier, a, later, u, v, hActions, hEarlier, hStep⟩
    have hAction := eq_comPublish_of_published hStep
    subst hAction
    have hValue := step_comPublish hStep
    cases hValue
    apply (hPublished hEarlier).mpr
    exact hCondition earlier later u before hActions hEarlier

/- The task of one channel, converting with two entries. -/
abbrev oneChannelStep :
    System 1 → Action 1 → Option (System 1 × Option Event) :=
  step (fun _ => 0) twoStepCalibration.toNtcState

/- A read, its conversion, and one publication. -/
def measuredRun : List (Action 1) := [
  .usbEnable true, .adcInit true,
  .adcRead (some fun _ => 2000), .adcChannel,
  .comWatchdog true, .comPublish]

theorem measuredRun_published_measured_iff :
    ∃ s events,
      EventSystem.run oneChannelStep
          (boot (fun _ => 0) (fun _ => 0)) measuredRun =
        some (s, events) ∧
        (PublishesMeasured events ↔
          PublishesSampled (fun _ => 0)
            twoStepCalibration.toNtcState
            (boot (fun _ => 0) (fun _ => 0))
            measuredRun) := by
  have hEnabled :
      (EventSystem.run oneChannelStep
        (boot (fun _ => 0) (fun _ => 0))
        measuredRun).isSome := by
    decide +kernel
  rcases Option.isSome_iff_exists.mp hEnabled with
    ⟨⟨s, events⟩, hRun⟩
  exact
    ⟨s, events, hRun,
      published_measured_iff (fun _ => 0)
        twoStepCalibration.toCalibration hRun⟩

/-
  A publication before the first read, and one after a read
  that failed while the last result was -9 degrees.
-/
def unmeasuredRuns : List (Action 1) × List (Action 1) :=
  ([.comWatchdog true, .comPublish],
    [.usbEnable true, .adcInit true,
      .adcRead (some fun _ => 1000), .adcChannel,
      .adcRead none, .comWatchdog true, .comPublish])

/- They publish 0 and -9 degrees. -/
theorem unmeasuredRuns_not_publishesMeasured :
    (∃ s events,
      EventSystem.run oneChannelStep
            (boot (fun _ => 0) (fun _ => 0))
            unmeasuredRuns.1 =
          some (s, events) ∧
        events = [.published 0] ∧
          ¬ PublishesMeasured events) ∧
      ∃ s events,
        EventSystem.run oneChannelStep
              (boot (fun _ => 0) (fun _ => 0))
              unmeasuredRuns.2 =
            some (s, events) ∧
          events =
              [.readOk, .readFailed, .published (-900)] ∧
            ¬ PublishesMeasured events := by
  constructor
  · have hEvents :
        (EventSystem.run oneChannelStep
            (boot (fun _ => 0) (fun _ => 0))
            unmeasuredRuns.1).map Prod.snd =
          some [.published 0] := by
      decide +kernel
    rcases Option.map_eq_some_iff.mp hEvents with
      ⟨⟨s, events⟩, hRun, rfl⟩
    refine ⟨s, _, hRun, rfl, ?_⟩
    intro hMeasured
    rcases hMeasured [] 0 [] rfl with hCode | hHistory
    · revert hCode
      unfold IsErrorCode
      decide
    · rcases hHistory with ⟨earlier, later, hSplit, -⟩
      simp at hSplit
  · have hEvents :
        (EventSystem.run oneChannelStep
            (boot (fun _ => 0) (fun _ => 0))
            unmeasuredRuns.2).map Prod.snd =
          some
            [.readOk, .readFailed, .published (-900)] := by
      decide +kernel
    rcases Option.map_eq_some_iff.mp hEvents with
      ⟨⟨s, events⟩, hRun, rfl⟩
    refine ⟨s, _, hRun, rfl, ?_⟩
    intro hMeasured
    rcases hMeasured [.readOk, .readFailed] (-900) [] rfl with
      hCode | hHistory
    · revert hCode
      unfold IsErrorCode
      decide
    · exact not_measured_concat_readFailed [.readOk] hHistory

end Startup

end TemperatureSensor
