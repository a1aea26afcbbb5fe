import Cypfr.Machine.Emit
import Cypfr.Machine.Journal
import Cypfr.Machine.Reachable
import Cypfr.Machine.Run
import Cypfr.Machine.Tally
import Cypfr.Model.Agps
import Cypfr.Model.Batching
import Cypfr.Model.BatchingModem
import Cypfr.Model.BiDict
import Cypfr.Model.BootControl
import Cypfr.Model.BootUpdate
import Cypfr.Model.CString
import Cypfr.Model.ClientSession
import Cypfr.Model.ControlClient
import Cypfr.Model.Geofence
import Cypfr.Model.GeofenceCommand
import Cypfr.Model.GeofenceModem
import Cypfr.Model.Gpt
import Cypfr.Model.GptDisk
import Cypfr.Model.LocHeap
import Cypfr.Model.LocIpc
import Cypfr.Model.LocTimer
import Cypfr.Model.LocUnorderedSetMap
import Cypfr.Model.LocationApiMsg
import Cypfr.Model.LocationApiPbMasks
import Cypfr.Model.LocationApiPbMsgConv
import Cypfr.Model.LocationApiPbTypes
import Cypfr.Model.OsObserver
import Cypfr.Model.SyncReq
import Cypfr.Model.Tracking
import Cypfr.Model.TrackingModem
import Cypfr.Model.TripOdometer
import Cypfr.Proofs.Agps
import Cypfr.Proofs.AgpsConnection
import Cypfr.Proofs.BatchFull
import Cypfr.Proofs.BatchFullAnswers
import Cypfr.Proofs.Batching
import Cypfr.Proofs.BatchingReplies
import Cypfr.Proofs.BatchingTables
import Cypfr.Proofs.BiDict
import Cypfr.Proofs.BluetoothAudioSession
import Cypfr.Proofs.BluetoothPcm
import Cypfr.Proofs.BluetoothStream
import Cypfr.Proofs.BootChain
import Cypfr.Proofs.BootControl
import Cypfr.Proofs.BootUpdate
import Cypfr.Proofs.CString
import Cypfr.Proofs.ClientSession
import Cypfr.Proofs.DaemonGeofences
import Cypfr.Proofs.Geofence
import Cypfr.Proofs.GeofenceCommand
import Cypfr.Proofs.GeofenceModem
import Cypfr.Proofs.GeofenceRequests
import Cypfr.Proofs.GeofenceTables
import Cypfr.Proofs.GptDisk
import Cypfr.Proofs.GptFormat
import Cypfr.Proofs.GptHeader
import Cypfr.Proofs.GptTables
import Cypfr.Proofs.LocHalDaemon
import Cypfr.Proofs.LocHeap
import Cypfr.Proofs.LocIpc
import Cypfr.Proofs.LocTimer
import Cypfr.Proofs.LocUnorderedSetMap
import Cypfr.Proofs.LocationApiMsg
import Cypfr.Proofs.LocationApiPbMasks
import Cypfr.Proofs.LocationApiPbMsgConv
import Cypfr.Proofs.LocationApiService
import Cypfr.Proofs.OsObserver
import Cypfr.Proofs.SlotEntries
import Cypfr.Proofs.SlotMarks
import Cypfr.Proofs.SlotSwitch
import Cypfr.Proofs.SyncReq
import Cypfr.Proofs.Tracking
import Cypfr.Proofs.TrackingLog
import Cypfr.Proofs.TrackingModem
import Cypfr.Proofs.TrackingMultiplex
import Cypfr.Proofs.TripOdometer
import Cypfr.Soundness.Agps
import Cypfr.Soundness.BatchFull
import Cypfr.Soundness.BatchingRejections
import Cypfr.Soundness.BatchingReplies
import Cypfr.Soundness.BatchingTables
import Cypfr.Soundness.BiDict
import Cypfr.Soundness.BluetoothFrames
import Cypfr.Soundness.BluetoothPcm
import Cypfr.Soundness.BluetoothPosition
import Cypfr.Soundness.BluetoothReadiness
import Cypfr.Soundness.BluetoothStream
import Cypfr.Soundness.BootUpdate
import Cypfr.Soundness.ClientCalls
import Cypfr.Soundness.ClientDaemon
import Cypfr.Soundness.ClientFramework
import Cypfr.Soundness.ClientObjects
import Cypfr.Soundness.ClientSession
import Cypfr.Soundness.ClientSubscriptions
import Cypfr.Soundness.ConfAssigned
import Cypfr.Soundness.ConfUpdate
import Cypfr.Soundness.ControlClient
import Cypfr.Soundness.DaemonAnswers
import Cypfr.Soundness.DaemonGeofences
import Cypfr.Soundness.DaemonIntervals
import Cypfr.Soundness.DaemonPower
import Cypfr.Soundness.DaemonTerrestrial
import Cypfr.Soundness.Geofence
import Cypfr.Soundness.GeofenceCommand
import Cypfr.Soundness.GeofenceRequests
import Cypfr.Soundness.GeofenceRestart
import Cypfr.Soundness.GsaGroups
import Cypfr.Soundness.GsvAccount
import Cypfr.Soundness.GsvIds
import Cypfr.Soundness.LocHeap
import Cypfr.Soundness.LocIpc
import Cypfr.Soundness.LocTimer
import Cypfr.Soundness.LogBuffer
import Cypfr.Soundness.MessageBounds
import Cypfr.Soundness.MsgQ
import Cypfr.Soundness.NetworkInfo
import Cypfr.Soundness.NiPayloads
import Cypfr.Soundness.NiResponses
import Cypfr.Soundness.OsObserver
import Cypfr.Soundness.ProcessBlocks
import Cypfr.Soundness.ReportLists
import Cypfr.Soundness.Reports
import Cypfr.Soundness.ShortSentences
import Cypfr.Soundness.SkipList
import Cypfr.Soundness.SlotCommit
import Cypfr.Soundness.SlotMarks
import Cypfr.Soundness.SlotNumber
import Cypfr.Soundness.SlotRejection
import Cypfr.Soundness.SlotSwitch
import Cypfr.Soundness.SockNode
import Cypfr.Soundness.SyncReq
import Cypfr.Soundness.SyncReqIndications
import Cypfr.Soundness.TrackingEngine
import Cypfr.Soundness.TrackingMultiplex
import Cypfr.Soundness.TrackingResponses
import Cypfr.Soundness.TrackingSessions
import Cypfr.Soundness.TripOdometer
import Cypfr.ToMathlib.BitMask
import Cypfr.ToMathlib.ByteList
import Cypfr.ToMathlib.Compaction
import Cypfr.ToMathlib.Crc32
import Cypfr.ToMathlib.Decimal
import Cypfr.ToMathlib.Odometer
import Cypfr.ToMathlib.OptionFold
import Cypfr.ToMathlib.Regions
import Cypfr.ToMathlib.UnorderedSet
import Cypfr.ToMathlib.VectorStore
import Cypfr.Model.LocApi
import Cypfr.Proofs.LocApi
import Cypfr.Soundness.AdapterMasks
import Cypfr.Soundness.ModemEvents
import Cypfr.Soundness.DeferredRequests
import Cypfr.Soundness.EngineReports
