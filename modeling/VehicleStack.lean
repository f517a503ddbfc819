import VehicleStack.Realtime.ParkingTrace
import VehicleStack.Realtime.Restart
import VehicleStack.Realtime.Threads
import VehicleStack.DriveDirection
import VehicleStack.Tester.Write
import VehicleStack.Ecu.IsoTp
import VehicleStack.DigitalKey.Authorisation
import VehicleStack.Ecu.Dtc
import VehicleStack.Ecu.DtcHistory
import VehicleStack.Ecu.TpSend
import VehicleStack.Tester.Parse
import VehicleStack.Ecu.ToF
import VehicleStack.Ecu.ToFReception
import VehicleStack.Ecu.Uds
import VehicleStack.Tester.FramePaths
import VehicleStack.Tester.Read
import VehicleStack.Tester.DtcReadout
import VehicleStack.Tester.EcuInfo
import VehicleStack.Ecu.Actuators
import VehicleStack.Ecu.AlertPriority
import VehicleStack.Ecu.SomeIpSd
import VehicleStack.Ecu.OwnBytes
import VehicleStack.Ecu.SensorService
import VehicleStack.Client.RpiClient
import VehicleStack.Client.RoundTrip
import VehicleStack.Client.Wire
import VehicleStack.Lib.Unwinding
import VehicleStack.Readers.Callback
import VehicleStack.Readers.DiagnosticRead
import VehicleStack.Readers.Undisturbed
import VehicleStack.Ecu.UltrasonicPairing
import VehicleStack.Ota.OtaService
import VehicleStack.Ota.Atomicity
import VehicleStack.Ota.Bridge
import VehicleStack.Ota.Approval
import VehicleStack.Lib.Utf8
import VehicleStack.Realtime.IpcServer
import VehicleStack.DigitalKey.Text
import VehicleStack.DigitalKey.IpcClient
import VehicleStack.DigitalKey.PinSession
import VehicleStack.DigitalKey.Activity
import VehicleStack.DigitalKey.Challenge
import VehicleStack.DigitalKey.Frame
import VehicleStack.DigitalKey.ClosedPin
import VehicleStack.DigitalKey.Opening
import VehicleStack.DigitalKey.Backed
import VehicleStack.DigitalKey.Licence
import VehicleStack.DigitalKey.Gate
import VehicleStack.DigitalKey.VerifiedSessions
import VehicleStack.Lib.SelfDelimiting
import VehicleStack.DigitalKey.Encodings
import VehicleStack.DigitalKey.SignedPayload
import VehicleStack.Realtime.Reference
import VehicleStack.Joystick.Controller
import VehicleStack.Realtime.JoystickThread
import VehicleStack.Joystick.Release
import VehicleStack.Realtime.FirstStick
import VehicleStack.DigitalKey.Base64
import VehicleStack.DigitalKey.CachedSession
import VehicleStack.DigitalKey.KeyStorage
import VehicleStack.DigitalKey.PairingFlag
import VehicleStack.DigitalKey.Chunks
import VehicleStack.DigitalKey.Reassembly
import VehicleStack.DigitalKey.VehicleBle
import VehicleStack.DigitalKey.KeyStoreFile
import VehicleStack.DigitalKey.Rejection
import VehicleStack.Ota.PendingNotify
import VehicleStack.Ota.Retry
import VehicleStack.Realtime.IpcGrammar
import VehicleStack.Client.Truth
import VehicleStack.Ecu.MotorHistory
import VehicleStack.Realtime.DoorChirp
import VehicleStack.Lib.Resync
import VehicleStack.Ecu.ToFResync
import VehicleStack.DigitalKey.PayloadCipher
import VehicleStack.Ecu.EcuInfoWrites
import VehicleStack.Tester.DamagedTransfer
import VehicleStack.Lib.Fifo
import VehicleStack.Ecu.Queue
import VehicleStack.Lib.SlidingSum
import VehicleStack.Ecu.AverageFilter
import VehicleStack.Lib.SignificantBits
import VehicleStack.Ecu.Timer
import VehicleStack.Ecu.Bluetooth
import VehicleStack.Lib.Terminated
import VehicleStack.Ecu.BluetoothReception
import VehicleStack.Joystick.SerialLink
import VehicleStack.Lib.Periodic
import VehicleStack.Realtime.EmergencyBrake
import VehicleStack.Realtime.Ccu
import VehicleStack.Ecu.AlertBlink
import VehicleStack.Ota.Publisher
import VehicleStack.Ota.UpdateService
import VehicleStack.Ota.Delivery
import VehicleStack.Ota.Reconnect
import VehicleStack.Tester.Acknowledgement
import VehicleStack.DigitalKey.EnvFile
import VehicleStack.DigitalKey.CommandDelivery
import VehicleStack.Client.Discovery
import VehicleStack.Ecu.BufferBound
