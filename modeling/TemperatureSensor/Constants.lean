/-
  The numeric constants of `main.h`, `measure_NTC.h` and
  `io_adc.h` that the modelled functions use.
-/

------------------------------------------------------------
-- main.h
------------------------------------------------------------

namespace TemperatureSensor

def version : UInt16 := 101

def sizeNtcTable : Nat := 166

def ziSetModeBitSetFicrAddr : UInt16 := 1

def ziSetModeBitSetCode : UInt16 := 2

def ziSetModeBitDefault : UInt16 := ziSetModeBitSetCode

def ziSetWaitTimeSDefault : UInt16 := 10

def ziSetChannelDefault : UInt16 := 16

def timeBetweenNextConnectionMs : Int := 5000

def maxSensorInRouter : Int := 16

def delayAfterPowerTestMs : Int := 10000

def zbDevRejoinTimeoutMs : Nat := 200000

def delayTotalZiReconnectMs : Nat :=
  zbDevRejoinTimeoutMs + 20000

def codeResetZigbeeData : UInt16 := 122

def codeResetToDefault : UInt16 := 13

def codeRestart : UInt16 := 14

def codeHardResetStack : UInt16 := 155

------------------------------------------------------------
-- measure_NTC.h
------------------------------------------------------------

def temperatureUnder : Int16 := 0x7001

def temperatureOver : Int16 := 0x7002

def temperatureNoMeasure : Int16 := 0x7004

def temperatureErrorLabel : UInt16 := 0x7000

def temperatureErrorMask : UInt16 := 0xF000

------------------------------------------------------------
-- io_adc.h
------------------------------------------------------------

def numberAdcMeasurements : Nat := 9

def adcCounts : UInt16 := (1 : UInt16) <<< 12

end TemperatureSensor
