import Lcm.Run.Basic
import Lcm.Run.Reading
import Lcm.Run.Interruptible
import Lcm.Run.Routine
import Lcm.Run.Guarded
import Lcm.Memory
import Lcm.Heap
import Lcm.RefCount
import Lcm.Crc
import Lcm.Flash.Memory
import Lcm.Flash.Driver
import Lcm.Fbk.Banks
import Lcm.CString
import Lcm.Zones.Properties
import Lcm.Rf.SentMessages
import Lcm.Rf.Receive
import Lcm.Rf.Framing
import Lcm.Rf.Ramp
import Lcm.Json.Transmit
import Lcm.Json.Slots
import Lcm.Json.Lifetime
import Lcm.Json.Addressing
import Lcm.Fbk.Write
import Lcm.Fbk.Atomicity
import Lcm.System.Location
import Lcm.System.Properties
import Lcm.System.Save
import Lcm.System.Boot
import Lcm.System.History
import Lcm.Flash.Records
import Lcm.Flash.Values
import Lcm.Store.Kinds
import Lcm.Store.RoundTrip
import Lcm.Zones.Store
import Lcm.Scenes.Store
import Lcm.Scenes.Bounds
import Lcm.Firmware.Records
import Lcm.SceneControllers.Store
import Lcm.Firmware.Payload
import Lcm.Firmware.Image
import Lcm.Firmware.Update
import Lcm.Rf.SequenceNumbers
import Lcm.Jsr.Reader
import Lcm.Jsr.Buffering
import Lcm.Jsr.Bounds
import Lcm.Jsr.Objects
import Lcm.Calendar
import Lcm.Run.Loop
import Lcm.Schedule.Time
import Lcm.Schedule.Trigger
import Lcm.Schedule.DaylightSaving
import Lcm.Schedule.AdjustTriggers
import Lcm.Schedule.LocalClock
import Lcm.ChallengeResponse
import Lcm.Hex
import Lcm.Jsa.Sockets
import Lcm.Jsa.Authentication
import Lcm.Jansson
import Lcm.Jansson.Values
import Lcm.Services.TestMode
import Lcm.Services.Process
import Lcm.Services.Authorization
import Lcm.House.State
import Lcm.House.Zones
import Lcm.House.SceneControllers
import Lcm.House.Execution
import Lcm.House.Machine
import Lcm.House.Frames
import Lcm.House.Edits
import Lcm.House.Buttons
import Lcm.House.HouseID
import Lcm.House.Levels
import Lcm.House.Running
import Lcm.House.Slots
import Lcm.Eliot.Updates
import Lcm.Eliot.Devices
import Lcm.Eliot.Listing
import Lcm.Eliot.Requests
import Lcm.Eliot.Wanted
import Lcm.Eliot.Convergence
import Lcm.Eliot.Connections
import Lcm.Eliot.Listening
import Lcm.Eliot.Rest
import Lcm.Eliot.Balance
import Lcm.Eliot.Released
import Lcm.Eliot.Silence
import Lcm.Eliot.Ownership
import Lcm.House.Addresses
import Lcm.House.SunTriggers
import Lcm.House.NewRecords
import Lcm.Run.Updates
import Lcm.House.ButtonOrder
import Lcm.House.SettingPass
import Lcm.House.KeyOrder
import Lcm.Bridge.Handlers
import Lcm.Bridge.Books
import Lcm.Bridge.Steps
import Lcm.Bridge.Bookkeeping
import Lcm.Bridge.Admission
import Lcm.Messages
import Lcm.Bridge.Forwarding
import Lcm.Bridge.Relay
import Lcm.Bridge.Isolation
import Lcm.Run.While
import Lcm.SanitizerLoop
import Lcm.Firmware.Validation
import Lcm.Ring
import Lcm.Rf.SentRing
import Lcm.Run.Stages
import Lcm.Rf.TransmitMessages
import Lcm.Jsa.KeyChange
import Lcm.Jsa.KeyStore
import Lcm.Json.ReceiveBuffer
import Lcm.Firmware.Versions
import Lcm.Firmware.Progress
import Lcm.Run.Trace
import Lcm.House.ScenePass
import Lcm.House.SceneTriggers
import Lcm.Mqtt.ReadCallback
import Lcm.Mqtt.Duplicates
import Lcm.Mqtt.CloudEvents
import Lcm.Strings
import Lcm.Eliot.ReceiveBytes
import Lcm.Formatted
import Lcm.Mqtt.Telemetry
import Lcm.House.RampAll
import Lcm.House.Requested
import Lcm.House.ZoneList
import Lcm.Rf.Echoes
import Lcm.System.Location
import Lcm.Mqtt.SasToken
import Lcm.Eliot.Tokens
import Lcm.Services.WatchAuth
import Lcm.Schedule.SunTimes
import Lcm.Server.ZoneFile
import Lcm.Shades.Receive
import Lcm.House.ShadeIds
import Lcm.Mqtt.Resources
import Lcm.Server.MacAddress
import Lcm.Server.Directory
import Lcm.Rf.Checksum
import Lcm.Json.Wire
import Lcm.Controller.Buttons
import Lcm.Controller.Watchdog
import Lcm.Controller.Blinking
import Lcm.Controller.Clock
