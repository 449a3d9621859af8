import TemperatureSensor.Measure.LookupSafety
import TemperatureSensor.Measure.RunOrder
import TemperatureSensor.Measure.Interpolation
import TemperatureSensor.Measure.MedianOfNine
import TemperatureSensor.Measure.Filter
import TemperatureSensor.Measure.FaultClassification
import TemperatureSensor.Measure.TableShape
import TemperatureSensor.Registers.Store
import TemperatureSensor.Zigbee.Attribute
import TemperatureSensor.Zigbee.Startup
import TemperatureSensor.Zigbee.InstallCode
import TemperatureSensor.Zigbee.JoinDelay
import TemperatureSensor.Zigbee.Reconnect
import TemperatureSensor.Modbus.Exchange
import TemperatureSensor.Firmware.Restart
import TemperatureSensor.Firmware.Transfer
import TemperatureSensor.Firmware.Command
import TemperatureSensor.Usb.ReadProc
import TemperatureSensor.Usb.SensorDisk
import TemperatureSensor.Zigbee.MessageErrors
import TemperatureSensor.Firmware.LineNoise
import TemperatureSensor.Firmware.Conversation
import TemperatureSensor.Firmware.Configuration
