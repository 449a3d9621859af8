import TemperatureSensor.Firmware.Command

/-
  The reconnect watchdog: the Zigbee signals that arm the
  alarm of `Recon_timer_cb`, and the latched flag that lets it
  erase the network data, next to the tasks of the firmware.

  Main declarations:
    * `Device`, `Action` and `step`
    * `Transition`
    * `Watched`
    * `run_watched`
    * `neverErases_iff`
-/

------------------------------------------------------------
-- Devices
------------------------------------------------------------

namespace TemperatureSensor

namespace Reconnect

/- The signals that `zigbee_status_update` looks at. -/
def zbZdoSignalLeave : UInt32 := 3

def zbBdbSignalDeviceReboot : UInt32 := 6

def zbBdbSignalSteering : UInt32 := 10

def retOk : Int32 := 0

def usbDcConfigured : UInt16 := 3

def zbBeaconIntervalUsec : Nat := 15360

/- `ZB_MILLISECONDS_TO_BEACON_INTERVAL`. -/
def millisecondsToBeaconInterval (ms : Nat) : Nat :=
  (1000 * ms + (zbBeaconIntervalUsec - 1)) /
    zbBeaconIntervalUsec

/-
  The firmware with the variables of the watchdog, whether
  the stack has joined a network, when the pending alarms of
  `Recon_timer_cb` are due, and the time in microseconds.
-/
structure Device where
  firmware : Firmware.System
  zigbeeConfStateSave : UInt16
  usbState : UInt16
  joined : Bool
  alarms : List Nat
  now : Nat

/- The static variables and the stack after a reset. -/
def booted (firmware : Firmware.System) (now : Nat) : Device where
  firmware := firmware
  zigbeeConfStateSave := 0
  usbState := 0
  joined := false
  alarms := []
  now := now

/- The device is switched on. -/
def boot (fs : UserMem) : Device :=
  booted
    (Firmware.start ⟨Firmware.mbBufLinked, fs⟩ mbStructZero) 0

/- What is observed of a run. -/
inductive Event where
| signalled (sig : UInt32) (status : Int32) (time : Nat)
| resetLocal
| commandedReset
| restarted
| erased
deriving DecidableEq, Repr

------------------------------------------------------------
-- Alarms
------------------------------------------------------------

/- `ZB_SCHEDULE_APP_ALARM_CANCEL` of all alarms. -/
def scheduleAppAlarmCancel (d : Device) : Device :=
  { d with alarms := [] }

/- `ZB_SCHEDULE_APP_ALARM` after some beacon intervals. -/
def scheduleAppAlarm (d : Device) (interval : Nat) : Device :=
  { d with
    alarms :=
      (d.now + zbBeaconIntervalUsec * interval) :: d.alarms }

/- `zi_reboot`. -/
def ziReboot (d : Device) : Device :=
  scheduleAppAlarm (scheduleAppAlarmCancel d)
    (millisecondsToBeaconInterval delayTotalZiReconnectMs)

/- `func_erase`: the device restarts without network data. -/
def funcErase (d : Device) : Device :=
  booted (Firmware.sysReboot d.firmware) d.now

/- `func_connect` only asks the stack to join. -/
def funcConnect (d : Device) : Device := d

/- `Recon_timer_cb`. -/
def reconTimerCb (d : Device) : Device × Option Event :=
  if d.joined then
    (d, none)
  else if
      d.zigbeeConfStateSave ≠ 0 ∧
        d.usbState ≠ usbDcConfigured then
    (funcErase d, some .erased)
  else
    (funcConnect d, none)

------------------------------------------------------------
-- Signals and Resets
------------------------------------------------------------

/- `MBbuf_main[Reg_Zigbee_Connect_Status] = value`. -/
def connectStatus (d : Device) (value : UInt16) : Device :=
  { d with
    firmware :=
      { d.firmware with
        memory :=
          d.firmware.memory.assign regZigbeeConnectStatus
            value } }

/- The branch of `ZB_BDB_SIGNAL_STEERING`. -/
def steeringUpdate (d : Device) (status : Int32) : Device :=
  ziReboot
    (if status = retOk then connectStatus d 1
    else connectStatus d 0)

/-
  `zigbee_status_update`. The branch of
  `ZB_BDB_SIGNAL_DEVICE_REBOOT` falls through.
-/
def zigbeeStatusUpdate
    (d : Device)
    (sig : UInt32)
    (status : Int32) : Device :=
  if sig = zbBdbSignalDeviceReboot then
    steeringUpdate { d with zigbeeConfStateSave := 1 } status
  else if sig = zbBdbSignalSteering then
    steeringUpdate d status
  else if sig = zbZdoSignalLeave then
    connectStatus
      (ziReboot { d with zigbeeConfStateSave := 1 }) 0
  else
    d

/- `func_reset_local`. -/
def funcResetLocal (d : Device) : Device :=
  { d with zigbeeConfStateSave := 0 }

/- The step writes the register of the connection status. -/
def publishesStatus : Firmware.Action → Bool
| .publish r _ => r = regZigbeeConnectStatus
| _ => false

/-
  A step of the firmware. A command with
  `CODE_RESET_ZIGBEE_DATA` only resets the stack.
-/
def firmwareStep
    (d : Device)
    (a : Firmware.Action) : Option (Device × Option Event) :=
  (Firmware.step d.firmware a).map fun next =>
    match next.2 with
    | some (.restarted _) =>
        (booted next.1 d.now, some .restarted)
    | event =>
        ({ d with firmware := next.1 },
          if .dispatched codeResetZigbeeData ∈
              Firmware.commandEvents d.firmware a next.1
                event then
            some .commandedReset
          else
            none)

------------------------------------------------------------
-- Steps
------------------------------------------------------------

/-
  A step of the firmware or a callback of the watchdog. The
  stack joins and leaves, and time passes, at any moment. An
  alarm comes once, not before it is due.
-/
inductive Action where
| firmware (a : Firmware.Action)
| signal (sig : UInt32) (status : Int32)
| usbStatus (status : UInt16)
| resetLocal
| alarm (due : Nat)
| stack (joined : Bool)
| elapse (usec : Nat)

/- One step; `none` if it is not possible. -/
def step (d : Device) : Action → Option (Device × Option Event)
| .firmware a =>
    if publishesStatus a then none else firmwareStep d a
| .signal sig status =>
    some
      (zigbeeStatusUpdate d sig status,
        some (.signalled sig status d.now))
| .usbStatus status => some ({ d with usbState := status }, none)
| .resetLocal => some (funcResetLocal d, some .resetLocal)
| .alarm due =>
    if due ∈ d.alarms ∧ due ≤ d.now then
      some
        (reconTimerCb { d with alarms := d.alarms.erase due })
    else
      none
| .stack joined => some ({ d with joined := joined }, none)
| .elapse usec => some ({ d with now := d.now + usec }, none)

------------------------------------------------------------
-- Transitions
------------------------------------------------------------

/- What one step does, case by case. -/
inductive Transition (d : Device) :
    Device → Option Event → Prop where
| firmware
    (a : Firmware.Action)
    (s : Firmware.System)
    (emitted : Option Firmware.Event)
    (event : Option Event)
    (hStep :
      Firmware.step d.firmware a = some (s, emitted))
    (hStatus : publishesStatus a = false)
    (hRunning : ∀ mb, emitted ≠ some (.restarted mb))
    (hEvent : event = none ∨ event = some .commandedReset) :
    Transition d { d with firmware := s } event
| restart :
    Transition d
      (booted (Firmware.sysReboot d.firmware) d.now)
      (some .restarted)
| signal
    (sig : UInt32)
    (status : Int32) :
    Transition d (zigbeeStatusUpdate d sig status)
      (some (.signalled sig status d.now))
| usbStatus
    (status : UInt16) :
    Transition d { d with usbState := status } none
| resetLocal :
    Transition d (funcResetLocal d) (some .resetLocal)
| erase
    (due : Nat)
    (hPending : due ∈ d.alarms)
    (hDue : due ≤ d.now)
    (hJoined : d.joined = false)
    (hLatched : d.zigbeeConfStateSave ≠ 0)
    (hUsb : d.usbState ≠ usbDcConfigured) :
    Transition d
      (booted (Firmware.sysReboot d.firmware) d.now)
      (some .erased)
| expire
    (due : Nat) :
    Transition d { d with alarms := d.alarms.erase due } none
| stack
    (joined : Bool) :
    Transition d { d with joined := joined } none
| elapse
    (usec : Nat) :
    Transition d { d with now := d.now + usec } none

/- A step that is observed as a restart is one. -/
theorem eq_sysReboot_of_restarted
    {s t : Firmware.System}
    {mb : Registers}
    (hTransition :
      Firmware.Transition s t (some (.restarted mb))) :
    t = Firmware.sysReboot s := by
  generalize hEvent : some (Firmware.Event.restarted mb) =
    event at hTransition
  cases hTransition with
  | restart => rfl
  | _ => cases hEvent

theorem transition_firmwareStep
    {d t : Device}
    {a : Firmware.Action}
    {event : Option Event}
    (hStatus : publishesStatus a = false)
    (hStep : firmwareStep d a = some (t, event)) :
    Transition d t event := by
  rcases Option.map_eq_some_iff.mp hStep with
    ⟨⟨s, emitted⟩, hNext, hPair⟩
  simp only at hPair
  split at hPair
  · cases hPair
    rw [
      eq_sysReboot_of_restarted
        (Firmware.transition_of_step hNext)]
    exact Transition.restart
  · next hRunning =>
      rw [Prod.mk.injEq] at hPair
      rcases hPair with ⟨rfl, hEvent⟩
      apply Transition.firmware a s emitted event hNext hStatus
      · rintro mb rfl
        exact hRunning mb rfl
      · split at hEvent
        · exact Or.inr hEvent.symm
        · exact Or.inl hEvent.symm

theorem transition_alarm
    {d : Device}
    {due : Nat}
    (hPending : due ∈ d.alarms)
    (hDue : due ≤ d.now) :
    Transition d
      (reconTimerCb { d with alarms := d.alarms.erase due }).1
      (reconTimerCb
        { d with alarms := d.alarms.erase due }).2 := by
  unfold reconTimerCb
  split
  · exact Transition.expire due
  · next hJoined =>
      split
      · next hErase =>
          exact
            Transition.erase due hPending hDue
              (Bool.eq_false_iff.mpr hJoined) hErase.1
              hErase.2
      · exact Transition.expire due

/- Every step is one of the transitions. -/
theorem transition_of_step
    {d t : Device}
    {a : Action}
    {event : Option Event}
    (hStep : step d a = some (t, event)) :
    Transition d t event := by
  cases a with
  | firmware a =>
      rw [step] at hStep
      split at hStep
      · cases hStep
      · next hStatus =>
          exact
            transition_firmwareStep
              (Bool.eq_false_iff.mpr hStatus) hStep
  | signal sig status =>
      cases hStep
      exact Transition.signal sig status
  | usbStatus status =>
      cases hStep
      exact Transition.usbStatus status
  | resetLocal =>
      cases hStep
      exact Transition.resetLocal
  | alarm due =>
      rw [step] at hStep
      split at hStep
      · next hFires =>
          have hAlarm := transition_alarm hFires.1 hFires.2
          rw [Option.some.inj hStep] at hAlarm
          exact hAlarm
      · cases hStep
  | stack joined =>
      cases hStep
      exact Transition.stack joined
  | elapse usec =>
      cases hStep
      exact Transition.elapse usec

------------------------------------------------------------
-- Read-Only Registers
------------------------------------------------------------

/- Served requests keep the read-only registers. -/
theorem readOnly_modbusStep
    {history : List Firmware.Event}
    {s t : Firmware.System}
    {event : Option Firmware.Event}
    {r : Fin numBuf}
    (hReadOnly : writeCheck r = .regErr)
    (hInv : Firmware.Inv history s)
    (hStep : Firmware.modbusStep s = some (t, event)) :
    t.memory.mbBufMain r = s.memory.mbBufMain r := by
  rcases Firmware.modbusStep_cases hStep with
    ⟨hKept, -, -⟩ |
      ⟨rest, answer, mb', -, hParse, hNew, -, -⟩
  · exact congrFun hKept r
  · have hServed :=
      frameServed_of_mbParsing hInv.initialised hParse
    rw [hNew]
    exact hServed.preserved.readOnly r (by simp [hReadOnly])

/- Commands and the factory reset keep them. -/
theorem readOnly_comStep
    {s t : Firmware.System}
    {event : Option Firmware.Event}
    {r : Fin numBuf}
    (hReadOnly : writeCheck r = .regErr)
    (hRunning : ∀ mb, event ≠ some (.restarted mb))
    (hStep : Firmware.comStep s = some (t, event)) :
    t.memory.mbBufMain r = s.memory.mbBufMain r := by
  have hDone :
      (Firmware.commandDone s).memory.mbBufMain r =
        s.memory.mbBufMain r := by
    apply Function.update_of_ne
    rintro rfl
    revert hReadOnly
    decide
  have hDefault :
      ∀ q value, eeSaveCheck q = .regOk →
        (s.memory.assign q value).mbBufMain r =
          s.memory.mbBufMain r := by
    intro q value hSaved
    apply Function.update_of_ne
    exact (Firmware.ne_of_writeCheck hReadOnly hSaved).symm
  cases Firmware.comTransition_of_step hStep with
  | poll => rfl
  | restart => exact absurd rfl (hRunning _)
  | pass => exact hDone
  | enter q _ _ hNext => exact hDefault q _ hNext.1.2.2
  | commit => rfl
  | resume _ q _ hNext => exact hDefault q _ hNext.1.2.2
  | leave => exact hDone

/- Only `zigbee_status_update` writes the status. -/
theorem status_of_firmware_step
    {history : List Firmware.Event}
    {s t : Firmware.System}
    {a : Firmware.Action}
    {event : Option Firmware.Event}
    (hInv : Firmware.Inv history s)
    (hStatus : publishesStatus a = false)
    (hRunning : ∀ mb, event ≠ some (.restarted mb))
    (hStep : Firmware.step s a = some (t, event)) :
    t.memory.mbBufMain regZigbeeConnectStatus =
      s.memory.mbBufMain regZigbeeConnectStatus := by
  have hReadOnly :
      writeCheck regZigbeeConnectStatus = .regErr := by
    decide
  cases a with
  | uart received txReady =>
      rw [Firmware.step, Option.some.injEq] at hStep
      have hKept :=
        (Firmware.uartHandler_keeps s received txReady).1
      rw [hStep] at hKept
      rw [hKept]
  | modbus => exact readOnly_modbusStep hReadOnly hInv hStep
  | com => exact readOnly_comStep hReadOnly hRunning hStep
  | publish r value =>
      have hOther : r ≠ regZigbeeConnectStatus :=
        of_decide_eq_false hStatus
      rw [Firmware.step] at hStep
      split at hStep
      · cases hStep
        exact Function.update_of_ne (Ne.symm hOther) _ _
      · cases hStep

------------------------------------------------------------
-- Signals
------------------------------------------------------------

/- The signals that `zigbee_status_update` looks at. -/
def IsWatched (sig : UInt32) : Prop :=
  sig = zbBdbSignalDeviceReboot ∨
    sig = zbBdbSignalSteering ∨ sig = zbZdoSignalLeave

/- The signals that set `zigbee_conf_state_save`. -/
def Latches (sig : UInt32) : Prop :=
  sig = zbBdbSignalDeviceReboot ∨ sig = zbZdoSignalLeave

/- The signals and status that mean a connection. -/
def Connects (sig : UInt32) (status : Int32) : Prop :=
  (sig = zbBdbSignalDeviceReboot ∨
      sig = zbBdbSignalSteering) ∧
    status = retOk

instance instDecidableLatches
    (sig : UInt32) :
    Decidable (Latches sig) := by
  unfold Latches
  infer_instance

instance instDecidableConnects
    (sig : UInt32)
    (status : Int32) :
    Decidable (Connects sig status) := by
  unfold Connects
  infer_instance

/- The conversion to beacon intervals rounds up. -/
theorem le_beaconIntervals
    (ms : Nat) :
    1000 * ms ≤
      zbBeaconIntervalUsec *
        millisecondsToBeaconInterval ms := by
  unfold millisecondsToBeaconInterval zbBeaconIntervalUsec
  omega

/- When an alarm that is armed now comes. -/
def alarmTime (d : Device) : Nat :=
  d.now +
    zbBeaconIntervalUsec *
      millisecondsToBeaconInterval delayTotalZiReconnectMs

/- A watched signal arms the alarm and sets the status. -/
theorem zigbeeStatusUpdate_watched
    (d : Device)
    {sig : UInt32}
    (status : Int32)
    (hWatched : IsWatched sig) :
    zigbeeStatusUpdate d sig status =
      { connectStatus d
          (if Connects sig status then 1 else 0) with
        zigbeeConfStateSave :=
          if Latches sig then 1 else d.zigbeeConfStateSave
        alarms := [alarmTime d] } := by
  rcases hWatched with rfl | rfl | rfl
  · by_cases hOk : status = retOk
    · subst hOk
      rfl
    · have hFails :
          ¬ Connects zbBdbSignalDeviceReboot status :=
        fun hConnects => hOk hConnects.2
      simp only [zigbeeStatusUpdate, steeringUpdate,
        if_pos, if_neg hOk, if_neg hFails]
      rfl
  · by_cases hOk : status = retOk
    · subst hOk
      rfl
    · have hFails : ¬ Connects zbBdbSignalSteering status :=
        fun hConnects => hOk hConnects.2
      have hOther :
          zbBdbSignalSteering ≠ zbBdbSignalDeviceReboot := by
        decide
      simp only [zigbeeStatusUpdate, steeringUpdate,
        if_neg hOther, if_pos, if_neg hOk, if_neg hFails]
      rfl
  · have hFails : ¬ Connects zbZdoSignalLeave status := by
      rintro ⟨hSignal | hSignal, -⟩
      · revert hSignal
        decide
      · revert hSignal
        decide
    rw [if_neg hFails]
    rfl

/- Other signals change nothing. -/
theorem zigbeeStatusUpdate_other
    (d : Device)
    {sig : UInt32}
    (status : Int32)
    (hOther : ¬ IsWatched sig) :
    zigbeeStatusUpdate d sig status = d := by
  unfold IsWatched at hOther
  push Not at hOther
  rcases hOther with ⟨hReboot, hSteering, hLeave⟩
  unfold zigbeeStatusUpdate
  rw [if_neg hReboot, if_neg hSteering, if_neg hLeave]

------------------------------------------------------------
-- Invariant
------------------------------------------------------------

def Event.IsWatched : Event → Prop
| .signalled sig _ _ => Reconnect.IsWatched sig
| _ => False

def Event.Latches : Event → Prop
| .signalled sig _ _ => Reconnect.Latches sig
| _ => False

def Event.Connects : Event → Prop
| .signalled sig status _ => Reconnect.Connects sig status
| _ => False

/- The static variables are initialised again. -/
def Event.Boots (event : Event) : Prop :=
  event = .restarted ∨ event = .erased

@[simp]
theorem not_boots_signalled
    (sig : UInt32)
    (status : Int32)
    (time : Nat) :
    ¬ (Event.signalled sig status time).Boots := by
  simp [Event.Boots]

@[simp]
theorem not_boots_resetLocal : ¬ Event.resetLocal.Boots := by
  simp [Event.Boots]

@[simp]
theorem not_boots_commandedReset :
    ¬ Event.commandedReset.Boots := by
  simp [Event.Boots]

/-
  A signal that latches has come since the boot, and
  `func_reset_local` has not been called since.
-/
def Latched (history : List Event) : Prop :=
  EventSystem.Since Event.Latches
    (fun event => event = .resetLocal ∨ event.Boots) history

/- The last watched signal since the boot was a connection. -/
def Connected (history : List Event) : Prop :=
  EventSystem.Since Event.Connects
    (fun event => event.IsWatched ∨ event.Boots) history

/- No watched signal came in the time before `time`. -/
def QuietBefore (history : List Event) (time : Nat) : Prop :=
  ∀ sig status sent,
    .signalled sig status sent ∈ history → IsWatched sig →
      sent + 1000 * delayTotalZiReconnectMs ≤ time

/- What history and device have to do with each other. -/
structure Inv (history : List Event) (d : Device) : Prop where
  firmware : ∃ past, Firmware.Inv past d.firmware
  past :
    ∀ sig status sent,
      .signalled sig status sent ∈ history → sent ≤ d.now
  single : d.alarms.length ≤ 1
  delayed : ∀ due ∈ d.alarms, QuietBefore history due
  latched : d.zigbeeConfStateSave ≠ 0 → Latched history
  status :
    d.firmware.memory.mbBufMain regZigbeeConnectStatus = 1 ↔
      Connected history

/- An event that nothing depends on. -/
structure Silent (d : Device) (event : Event) : Prop where
  signal :
    ∀ sig status sent,
      event = .signalled sig status sent →
        sent ≤ d.now ∧ ¬ IsWatched sig
  reset : event ≠ .resetLocal
  boots : ¬ event.Boots

theorem Silent.not_isWatched
    {d : Device}
    {event : Event}
    (hSilent : Silent d event) :
    ¬ event.IsWatched := by
  cases event with
  | signalled sig status sent =>
      exact (hSilent.signal sig status sent rfl).2
  | _ => exact id

theorem Event.Latches.isWatched
    {event : Event}
    (hLatches : event.Latches) :
    event.IsWatched := by
  cases event with
  | signalled =>
      exact hLatches.imp_right Or.inr
  | _ => exact hLatches

theorem Event.Connects.isWatched
    {event : Event}
    (hConnects : event.Connects) :
    event.IsWatched := by
  cases event with
  | signalled =>
      exact hConnects.1.imp_right Or.inl
  | _ => exact hConnects

theorem Inv.silent
    {history : List Event}
    {d : Device}
    {event : Event}
    (hInv : Inv history d)
    (hSilent : Silent d event) :
    Inv (history ++ [event]) d := by
  have hWatched := hSilent.not_isWatched
  constructor
  · exact hInv.firmware
  · intro sig status sent hMember
    rcases List.mem_append.mp hMember with hEarlier | hLast
    · exact hInv.past sig status sent hEarlier
    · have hEvent := (List.mem_singleton.mp hLast).symm
      exact (hSilent.signal sig status sent hEvent).1
  · exact hInv.single
  · intro due hPending sig status sent hMember hSignal
    rcases List.mem_append.mp hMember with hEarlier | hLast
    · exact
        hInv.delayed due hPending sig status sent hEarlier
          hSignal
    · have hEvent := (List.mem_singleton.mp hLast).symm
      exact
        absurd hSignal
          (hSilent.signal sig status sent hEvent).2
  · intro hSet
    apply
      (EventSystem.since_concat_of_silent
        (mt Event.Latches.isWatched hWatched) ?_).mpr
        (hInv.latched hSet)
    exact not_or.mpr ⟨hSilent.reset, hSilent.boots⟩
  · rw [hInv.status]
    refine
      (EventSystem.since_concat_of_silent
        (mt Event.Connects.isWatched hWatched) ?_).symm
    exact not_or.mpr ⟨hWatched, hSilent.boots⟩

------------------------------------------------------------
-- Steps of the Invariant
------------------------------------------------------------

theorem inv_booted
    {history : List Event}
    (m : UserMem)
    {now : Nat}
    (hPast :
      ∀ sig status sent,
        .signalled sig status sent ∈ history → sent ≤ now)
    (hUnconnected : ¬ Connected history) :
    Inv history
      (booted
        (Firmware.start ⟨Firmware.mbBufLinked, m⟩
          mbStructZero) now) := by
  have hStatus :=
    Firmware.start_other ⟨Firmware.mbBufLinked, m⟩
      mbStructZero (r := regZigbeeConnectStatus) (by decide)
  constructor
  · exact ⟨[], Firmware.inv_start _ _⟩
  · exact hPast
  · exact Nat.zero_le 1
  · intro due hPending
    cases hPending
  · exact fun hSet => absurd rfl hSet
  · refine iff_of_false ?_ hUnconnected
    unfold booted
    simp only [hStatus]
    decide

/- A boot disarms the alarm and clears the flag. -/
theorem inv_reboot
    {history : List Event}
    {d : Device}
    {event : Event}
    (hInv : Inv history d)
    (hBoots : event.Boots) :
    Inv (history ++ [event])
      (booted (Firmware.sysReboot d.firmware) d.now) := by
  have hSilent :
      ∀ sig status sent,
        event ≠ .signalled sig status sent := by
    rintro sig status sent rfl
    exact not_boots_signalled sig status sent hBoots
  apply inv_booted
  · intro sig status sent hMember
    rcases List.mem_append.mp hMember with hEarlier | hLast
    · exact hInv.past sig status sent hEarlier
    · exact
        absurd (List.mem_singleton.mp hLast).symm
          (hSilent sig status sent)
  · intro hConnected
    rcases EventSystem.since_concat.mp hConnected with
      hConnects | ⟨-, hEnd⟩
    · cases event with
      | signalled sig status sent =>
          exact hSilent sig status sent rfl
      | _ => exact hConnects
    · exact hEnd (Or.inr hBoots)

/- A watched signal arms one alarm, after the whole delay. -/
theorem inv_watched
    {history : List Event}
    {d : Device}
    (hInv : Inv history d)
    {sig : UInt32}
    (status : Int32)
    (hWatched : IsWatched sig) :
    Inv (history ++ [.signalled sig status d.now])
      (zigbeeStatusUpdate d sig status) := by
  have hDelay := le_beaconIntervals delayTotalZiReconnectMs
  rw [zigbeeStatusUpdate_watched d status hWatched]
  constructor
  · rcases hInv.firmware with ⟨past, hFirmware⟩
    exact
      ⟨_,
        Firmware.inv_step hFirmware
          (Firmware.Transition.publish regZigbeeConnectStatus _
            (by decide))⟩
  · intro sig' status' sent hMember
    rcases List.mem_append.mp hMember with hEarlier | hLast
    · exact hInv.past sig' status' sent hEarlier
    · cases List.mem_singleton.mp hLast
      exact Nat.le_refl d.now
  · exact Nat.le_refl 1
  · intro due hPending sig' status' sent hMember _
    have hDue : due = alarmTime d :=
      List.mem_singleton.mp hPending
    have hSent : sent ≤ d.now := by
      rcases List.mem_append.mp hMember with hEarlier | hLast
      · exact hInv.past sig' status' sent hEarlier
      · cases List.mem_singleton.mp hLast
        exact Nat.le_refl d.now
    rw [hDue]
    unfold alarmTime
    omega
  · intro hSet
    by_cases hLatches : Latches sig
    · exact EventSystem.since_concat.mpr (Or.inl hLatches)
    · simp only [if_neg hLatches] at hSet
      exact
        EventSystem.since_concat.mpr
          (Or.inr ⟨hInv.latched hSet, by simp⟩)
  · have hStatus :
        ((connectStatus d
            (if Connects sig status then 1 else 0)).firmware
          ).memory.mbBufMain regZigbeeConnectStatus =
          if Connects sig status then 1 else 0 :=
      Function.update_self regZigbeeConnectStatus _
        d.firmware.memory.mbBufMain
    unfold Connected
    simp only [hStatus]
    rw [EventSystem.since_concat]
    by_cases hConnects : Connects sig status
    · rw [if_pos hConnects]
      exact iff_of_true rfl (Or.inl hConnects)
    · rw [if_neg hConnects]
      refine iff_of_false (by decide) ?_
      rintro (hLast | ⟨-, hEnd⟩)
      · exact hConnects hLast
      · exact hEnd (Or.inl hWatched)

theorem inv_signal
    {history : List Event}
    {d : Device}
    (hInv : Inv history d)
    (sig : UInt32)
    (status : Int32) :
    Inv (history ++ [.signalled sig status d.now])
      (zigbeeStatusUpdate d sig status) := by
  by_cases hWatched : IsWatched sig
  · exact inv_watched hInv status hWatched
  · rw [zigbeeStatusUpdate_other d status hWatched]
    apply hInv.silent
    constructor
    · intro sig' status' sent hEvent
      cases hEvent
      exact ⟨Nat.le_refl d.now, hWatched⟩
    · simp
    · simp

/- `func_reset_local` clears the flag and leaves the rest. -/
theorem inv_resetLocal
    {history : List Event}
    {d : Device}
    (hInv : Inv history d) :
    Inv (history ++ [.resetLocal]) (funcResetLocal d) := by
  have hEarlier :
      ∀ sig status sent,
        .signalled sig status sent ∈
            history ++ [Event.resetLocal] →
          .signalled sig status sent ∈ history := by
    intro sig status sent hMember
    rcases List.mem_append.mp hMember with hBefore | hLast
    · exact hBefore
    · cases List.mem_singleton.mp hLast
  constructor
  · exact hInv.firmware
  · exact fun sig status sent hMember =>
      hInv.past sig status sent (hEarlier sig status sent hMember)
  · exact hInv.single
  · exact fun due hPending sig status sent hMember =>
      hInv.delayed due hPending sig status sent
        (hEarlier sig status sent hMember)
  · exact fun hSet => absurd rfl hSet
  · refine
      hInv.status.trans
        (EventSystem.since_concat_of_silent id ?_).symm
    simp [Event.IsWatched]

theorem inv_step
    {history : List Event}
    {d t : Device}
    {event : Option Event}
    (hInv : Inv history d)
    (hTransition : Transition d t event) :
    Inv (EventSystem.record history event) t := by
  cases hTransition with
  | firmware a s emitted event hStep hStatus hRunning hEvent =>
      rcases hInv.firmware with ⟨past, hFirmware⟩
      have hNext : Inv history { d with firmware := s } := by
        refine
          ⟨⟨_, Firmware.inv_step hFirmware
              (Firmware.transition_of_step hStep)⟩,
            hInv.past, hInv.single, hInv.delayed,
            hInv.latched, ?_⟩
        rw [← hInv.status,
          ← status_of_firmware_step hFirmware hStatus hRunning
            hStep]
      rcases hEvent with rfl | rfl
      · exact hNext
      · apply hNext.silent
        constructor
        · intro sig status sent hSignal
          cases hSignal
        · simp
        · simp
  | restart => exact inv_reboot hInv (Or.inl rfl)
  | signal sig status => exact inv_signal hInv sig status
  | usbStatus status =>
      exact
        ⟨hInv.firmware, hInv.past, hInv.single, hInv.delayed,
          hInv.latched, hInv.status⟩
  | resetLocal => exact inv_resetLocal hInv
  | erase due hPending hDue hJoined hLatched hUsb =>
      exact inv_reboot hInv (Or.inr rfl)
  | expire due =>
      refine
        ⟨hInv.firmware, hInv.past, ?_, ?_, hInv.latched,
          hInv.status⟩
      · exact
          List.length_erase_le.trans hInv.single
      · intro due' hPending
        exact hInv.delayed due' (List.mem_of_mem_erase hPending)
  | stack joined =>
      exact
        ⟨hInv.firmware, hInv.past, hInv.single, hInv.delayed,
          hInv.latched, hInv.status⟩
  | elapse usec =>
      refine
        ⟨hInv.firmware, ?_, hInv.single, hInv.delayed,
          hInv.latched, hInv.status⟩
      intro sig status sent hMember
      exact
        (hInv.past sig status sent hMember).trans
          (Nat.le_add_right _ _)

theorem inv_run
    {fs : UserMem}
    {actions : List Action}
    {d : Device}
    {history : List Event}
    (hRun :
      EventSystem.run step (boot fs) actions =
        some (d, history)) :
    Inv history d := by
  have hStart : Inv [] (boot fs) :=
    inv_booted fs (by simp) EventSystem.not_since_nil
  have hAll : Inv ([] ++ history) d :=
    EventSystem.run_invariant
      (fun _ _ _ _ _ hInv hStep =>
        inv_step hInv (transition_of_step hStep))
      hStart hRun
  exact hAll

------------------------------------------------------------
-- Erasing the Network Data
------------------------------------------------------------

/- When the alarm may erase the network data. -/
structure EraseAllowed
    (history : List Event)
    (d : Device) : Prop where
  notJoined : d.joined = false
  unplugged : d.usbState ≠ usbDcConfigured
  latched : Latched history
  quiet : QuietBefore history d.now

theorem eraseAllowed_of_transition
    {history : List Event}
    {d t : Device}
    (hInv : Inv history d)
    (hTransition : Transition d t (some .erased)) :
    EraseAllowed history d := by
  generalize hEvent : some Event.erased = event
    at hTransition
  cases hTransition with
  | erase due hPending hDue hJoined hLatched hUsb =>
      refine ⟨hJoined, hUsb, hInv.latched hLatched, ?_⟩
      intro sig status sent hMember hWatched
      exact
        (hInv.delayed due hPending sig status sent hMember
          hWatched).trans hDue
  | firmware _ _ _ _ _ _ _ hOther =>
      rcases hOther with rfl | rfl
      · cases hEvent
      · cases hEvent
  | _ => cases hEvent

/-
  One alarm at most is pending, the network data is erased
  only where this is allowed, and the status register tells
  whether the last signal was a connection.
-/
structure Watched
    (history : List Event)
    (d : Device) : Prop where
  single : d.alarms.length ≤ 1
  erase :
    ∀ a t, step d a = some (t, some .erased) →
      EraseAllowed history d
  status :
    d.firmware.memory.mbBufMain regZigbeeConnectStatus = 1 ↔
      Connected history

/-
  Every run of signals, callbacks, resets, alarms and steps of
  the tasks is watched in this way.
-/
theorem run_watched
    (fs : UserMem)
    {actions : List Action}
    {d : Device}
    {history : List Event}
    (hRun :
      EventSystem.run step (boot fs) actions =
        some (d, history)) :
    Watched history d := by
  have hInv := inv_run hRun
  refine ⟨hInv.single, ?_, hInv.status⟩
  intro a t hStep
  exact
    eraseAllowed_of_transition hInv (transition_of_step hStep)

/- The device leaves its network and does not come back. -/
def leaveRun : List Action :=
  [.signal zbZdoSignalLeave retOk, .elapse 220001280]

theorem leaveRun_watched :
    ∃ d history,
      EventSystem.run step (boot fun _ => none) leaveRun =
          some (d, history) ∧
        (∃ t,
          step d (.alarm 220001280) =
            some (t, some .erased)) ∧
          Watched history d := by
  have hObserved :
      ((EventSystem.run step (boot fun _ => none)
        leaveRun).bind fun last =>
          (step last.1 (.alarm 220001280)).map Prod.snd) =
        some (some .erased) := by
    decide +kernel
  rcases Option.bind_eq_some_iff.mp hObserved with
    ⟨⟨d, history⟩, hRun, hStep⟩
  rcases Option.map_eq_some_iff.mp hStep with
    ⟨⟨t, event⟩, hErase, hEvent⟩
  cases hEvent
  exact
    ⟨d, history, hRun, ⟨t, hErase⟩, run_watched _ hRun⟩

------------------------------------------------------------
-- Both Resets
------------------------------------------------------------

/-
  Whatever comes later, unless a signal latches, the network
  data is not erased.
-/
def NeverErases (d : Device) : Prop :=
  ∀ actions t history,
    EventSystem.run step d actions = some (t, history) →
      (∀ event ∈ history, ¬ event.Latches) →
        .erased ∉ history

/- Only a signal that latches sets the flag. -/
theorem unlatched_step
    {d t : Device}
    {event : Option Event}
    (hUnlatched : d.zigbeeConfStateSave = 0)
    (hSilent :
      ∀ emitted, event = some emitted → ¬ emitted.Latches)
    (hTransition : Transition d t event) :
    t.zigbeeConfStateSave = 0 ∧ event ≠ some .erased := by
  cases hTransition with
  | firmware _ _ _ _ _ _ _ hEvent =>
      refine ⟨hUnlatched, ?_⟩
      rcases hEvent with rfl | rfl
      · simp
      · simp
  | signal sig status =>
      refine ⟨?_, by simp⟩
      by_cases hWatched : IsWatched sig
      · have hLatches : ¬ Latches sig := hSilent _ rfl
        rw [zigbeeStatusUpdate_watched d status hWatched,
          if_neg hLatches]
        exact hUnlatched
      · rw [zigbeeStatusUpdate_other d status hWatched]
        exact hUnlatched
  | erase _ _ _ _ hLatched _ =>
      exact absurd hUnlatched hLatched
  | restart => exact ⟨rfl, by simp⟩
  | usbStatus => exact ⟨hUnlatched, by simp⟩
  | resetLocal => exact ⟨rfl, by simp⟩
  | expire => exact ⟨hUnlatched, by simp⟩
  | stack => exact ⟨hUnlatched, by simp⟩
  | elapse => exact ⟨hUnlatched, by simp⟩

theorem neverErases_of_unlatched
    {d : Device}
    (hUnlatched : d.zigbeeConfStateSave = 0) :
    NeverErases d := by
  intro actions t history hRun hSilent
  have hAll :
      (∀ event ∈ [] ++ history, ¬ event.Latches) →
        t.zigbeeConfStateSave = 0 ∧
          .erased ∉ [] ++ history :=
    EventSystem.run_invariant
      (I := fun history d =>
        (∀ event ∈ history, ¬ event.Latches) →
          d.zigbeeConfStateSave = 0 ∧ .erased ∉ history)
      (by
        intro history d a t event hInv hStep hSilent
        have hBefore :=
          hInv fun e hEarlier =>
            hSilent e
              (EventSystem.mem_record.mpr (Or.inl hEarlier))
        have hAfter :=
          unlatched_step hBefore.1
            (fun e hLast =>
              hSilent e
                (EventSystem.mem_record.mpr (Or.inr hLast)))
            (transition_of_step hStep)
        refine ⟨hAfter.1, ?_⟩
        intro hMember
        rcases EventSystem.mem_record.mp hMember with
          hEarlier | hLast
        · exact hBefore.2 hEarlier
        · exact hAfter.2 hLast)
      (fun _ => ⟨hUnlatched, by simp⟩) hRun
  exact (hAll hSilent).2

/- The device is unplugged, and a join fails. -/
def usbDcDisconnected : UInt16 := 4

def retError : Int32 := -1

/- Nothing joins for the time of the alarm. -/
def unjoinedRun : List Action :=
  [.stack false, .usbStatus usbDcDisconnected,
    .signal zbBdbSignalSteering retError,
    .elapse
      (zbBeaconIntervalUsec *
        millisecondsToBeaconInterval delayTotalZiReconnectMs)]

/- The alarm that was armed by the failed join is due. -/
theorem unjoinedRun_due
    (d : Device) :
    ∃ t,
      EventSystem.run step d unjoinedRun =
          some
            (t,
              [.signalled zbBdbSignalSteering retError
                d.now]) ∧
        t.joined = false ∧
          t.usbState = usbDcDisconnected ∧
            t.zigbeeConfStateSave = d.zigbeeConfStateSave ∧
              t.alarms = [t.now] := by
  have hKept : ¬ Latches zbBdbSignalSteering := by decide
  have hSignal :=
    zigbeeStatusUpdate_watched
      { d with
        joined := false
        usbState := usbDcDisconnected }
      retError (Or.inr (Or.inl rfl))
  rw [if_neg hKept] at hSignal
  generalize hNext :
    zigbeeStatusUpdate
        { d with
          joined := false
          usbState := usbDcDisconnected }
        zbBdbSignalSteering retError =
      next at hSignal
  refine
    ⟨{ next with
        now :=
          next.now +
            zbBeaconIntervalUsec *
              millisecondsToBeaconInterval
                delayTotalZiReconnectMs }, ?_, ?_⟩
  · rw [← hNext]
    rfl
  · rw [hSignal]
    exact ⟨rfl, rfl, rfl, rfl⟩

/- With the flag set, a due alarm erases. -/
theorem step_alarm_erases
    {d : Device}
    {due : Nat}
    (hPending : due ∈ d.alarms)
    (hDue : due ≤ d.now)
    (hJoined : d.joined = false)
    (hLatched : d.zigbeeConfStateSave ≠ 0)
    (hUsb : d.usbState ≠ usbDcConfigured) :
    step d (.alarm due) =
      some (funcErase d, some .erased) := by
  rw [step, if_pos ⟨hPending, hDue⟩]
  unfold reconTimerCb
  simp only [hJoined]
  rw [if_neg (by simp), if_pos ⟨hLatched, hUsb⟩]
  rfl

/- From every state with the flag set an erase can follow. -/
theorem not_neverErases_of_latched
    {d : Device}
    (hLatched : d.zigbeeConfStateSave ≠ 0) :
    ¬ NeverErases d := by
  intro hNever
  rcases unjoinedRun_due d with
    ⟨t, hRun, hJoined, hUsb, hConf, hAlarms⟩
  have hErase :
      step t (.alarm t.now) =
        some (funcErase t, some .erased) := by
    apply step_alarm_erases
    · simp [hAlarms]
    · exact Nat.le_refl t.now
    · exact hJoined
    · rw [hConf]
      exact hLatched
    · rw [hUsb]
      decide
  have hTail :
      EventSystem.run step t [.alarm t.now] =
        some (funcErase t, [.erased]) := by
    simp [EventSystem.run, hErase]
  have hWhole :=
    EventSystem.run_append.mpr
      ⟨t, _, _, hRun, hTail, rfl⟩
  apply hNever _ _ _ hWhole
  · intro event hMember
    simp only [List.mem_append, List.mem_singleton] at hMember
    rcases hMember with rfl | rfl
    · show ¬ Latches zbBdbSignalSteering
      decide
    · exact id
  · simp

/-
  After a local reset the network data is never erased, unless
  a signal latches again, exactly if `func_reset_local` was
  called or the flag was not set: `command_control` leaves the
  flag as it is.
-/
theorem neverErases_iff
    {d t : Device}
    {a : Action}
    {event : Event}
    (hReset : event = .resetLocal ∨ event = .commandedReset)
    (hStep : step d a = some (t, some event)) :
    NeverErases t ↔
      event = .resetLocal ∨ d.zigbeeConfStateSave = 0 := by
  have hFlag :
      event = .resetLocal ∧ t.zigbeeConfStateSave = 0 ∨
        event = .commandedReset ∧
          t.zigbeeConfStateSave = d.zigbeeConfStateSave := by
    generalize hEmitted : some event = emitted at hStep
    cases transition_of_step hStep with
    | firmware _ _ _ _ _ _ _ hEvent =>
        rcases hEvent with rfl | rfl
        · cases hEmitted
        · cases hEmitted
          exact Or.inr ⟨rfl, rfl⟩
    | resetLocal =>
        cases hEmitted
        exact Or.inl ⟨rfl, rfl⟩
    | restart =>
        cases hEmitted
        simp at hReset
    | erase =>
        cases hEmitted
        simp at hReset
    | signal =>
        cases hEmitted
        simp at hReset
    | _ => cases hEmitted
  rcases hFlag with ⟨rfl, hCleared⟩ | ⟨rfl, hKept⟩
  · exact
      iff_of_true (neverErases_of_unlatched hCleared)
        (Or.inl rfl)
  · constructor
    · intro hNever
      refine Or.inr ?_
      by_contra hLatched
      rw [← hKept] at hLatched
      exact not_neverErases_of_latched hLatched hNever
    · rintro (hOther | hUnlatched)
      · cases hOther
      · apply neverErases_of_unlatched
        rw [hKept]
        exact hUnlatched

/- The flag is set by a leave and cleared by the reset. -/
theorem leave_resetLocal_neverErases :
    ∃ d t,
      d.zigbeeConfStateSave ≠ 0 ∧
        step d .resetLocal = some (t, some .resetLocal) ∧
          NeverErases t := by
  refine
    ⟨zigbeeStatusUpdate (boot fun _ => none)
        zbZdoSignalLeave retOk,
      _, by decide, rfl, ?_⟩
  exact
    (neverErases_iff (a := .resetLocal) (Or.inl rfl)
      rfl).mpr (Or.inl rfl)

/- Write `CODE_RESET_ZIGBEE_DATA` to the command register. -/
def resetZigbeeRequest : Firmware.Received :=
  ⟨[1, 6, 0, 29, 0, 122, 0x98, 0x2F], by decide⟩

/- The reset is commanded after the stack has started. -/
def commandedRun : List Action :=
  [.signal zbBdbSignalDeviceReboot retOk, .firmware .modbus,
    .firmware (.uart (some resetZigbeeRequest) false),
    .firmware .modbus]

/- The flag outlives the commanded reset. -/
theorem commandedRun_not_neverErases :
    ¬ ∀ fs actions d history a t event,
      EventSystem.run step (boot fs) actions =
          some (d, history) →
        step d a = some (t, some event) →
          event = .resetLocal ∨ event = .commandedReset →
            NeverErases t := by
  intro hClaim
  have hObserved :
      ((EventSystem.run step (boot fun _ => none)
        commandedRun).bind fun last =>
          (step last.1 (.firmware .com)).bind fun next =>
            (EventSystem.run step next.1
              (unjoinedRun ++ [.alarm 220001280])).map
                fun final => (next.2, final.2)) =
        some
          (some .commandedReset,
            [.signalled zbBdbSignalSteering retError 0,
              .erased]) := by
    decide +kernel
  rcases Option.bind_eq_some_iff.mp hObserved with
    ⟨⟨d, history⟩, hRun, hRest⟩
  rcases Option.bind_eq_some_iff.mp hRest with
    ⟨⟨t, event⟩, hStep, hLater⟩
  rcases Option.map_eq_some_iff.mp hLater with
    ⟨⟨u, events⟩, hErase, hPair⟩
  rw [Prod.mk.injEq] at hPair
  rcases hPair with ⟨rfl, rfl⟩
  have hNever :=
    hClaim _ _ d history _ t _ hRun hStep (Or.inr rfl)
  apply hNever _ u _ hErase
  · intro emitted hMember
    simp only [List.mem_cons, List.not_mem_nil, or_false]
      at hMember
    rcases hMember with rfl | rfl
    · show ¬ Latches zbBdbSignalSteering
      decide
    · exact id
  · simp

end Reconnect

end TemperatureSensor
