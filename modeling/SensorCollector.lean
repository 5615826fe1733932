import SensorCollector.Lib.EventMachine
import SensorCollector.Lib.FlagBits
import SensorCollector.Lib.RingBuffer
import SensorCollector.CTypes
import SensorCollector.Buffer.Defs
import SensorCollector.Buffer.Spec
import SensorCollector.ApiMac
import SensorCollector.Buffer.Fifo
import SensorCollector.FifteenDotFour
import SensorCollector.Collector.Defs
import SensorCollector.Collector.Membership
import SensorCollector.Collector.Responses
import SensorCollector.Collector.Capacity
import SensorCollector.Device.Defs
import SensorCollector.Device.Events
import SensorCollector.Device.Join
import SensorCollector.Device.Retention
import SensorCollector.Device.Association
import SensorCollector.Node.Defs
import SensorCollector.Node.Receive
import SensorCollector.Node.Transmit
import SensorCollector.Network
import SensorCollector.Buffer.Writes
import SensorCollector.Buffer.Reads
import SensorCollector.Collector.Insertion
import SensorCollector.Collector.Opening
import SensorCollector.Device.Application
import SensorCollector.Device.Matching
import SensorCollector.Device.Polling
import SensorCollector.AppTask.Defs
import SensorCollector.Lib.PrescaledCounter
import SensorCollector.AppTask.SendPeriod
import SensorCollector.AppTask.Send
import SensorCollector.AppTask.Receive
import SensorCollector.Node.Linear
import SensorCollector.Lib.LinkedList
import SensorCollector.Osal.Defs
import SensorCollector.Lib.Simulation
import SensorCollector.Osal.Queue
import SensorCollector.Osal.QueueRuns
import SensorCollector.Osal.Tasks
import SensorCollector.Firmware.Messages
import SensorCollector.Lib.Mailbox
import SensorCollector.Firmware.Defs
import SensorCollector.Lib.Ownership
import SensorCollector.Firmware.Blocks
import SensorCollector.Firmware.Inbox
import SensorCollector.Firmware.Delivery
import SensorCollector.Firmware.Control
import SensorCollector.Firmware.Rounds
import SensorCollector.Lib.PrefixCode
import SensorCollector.PayloadIe.Defs
import SensorCollector.PayloadIe.Format
import SensorCollector.PayloadIe.Records
import SensorCollector.PayloadIe.Outcome
import SensorCollector.Lib.LinkedRecords
import SensorCollector.Timers.Defs
import SensorCollector.Timers.Lists
import SensorCollector.Timers.Steps
import SensorCollector.Timers.Table
import SensorCollector.Timers.Runs
import SensorCollector.MacTask.Defs
import SensorCollector.MacTask.Steps
import SensorCollector.MacTask.Runs
