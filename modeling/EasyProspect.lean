import EasyProspect.Library.Transition
import EasyProspect.Forwarding
import EasyProspect.HttpSession
import EasyProspect.ProxyReads
import EasyProspect.ProxiedMessage
import EasyProspect.Waiting
import EasyProspect.ProxiedBody
import EasyProspect.KeepAlive
import EasyProspect.Downstream
import EasyProspect.Isolation
import EasyProspect.ProxyRun
import EasyProspect.ByteOrder
import EasyProspect.BackendStream
import EasyProspect.Json
import EasyProspect.Rpc
import EasyProspect.WebWorker
import EasyProspect.MessageHandler
import EasyProspect.ConnectionPool
import EasyProspect.Positions
import EasyProspect.ControlMessage
import EasyProspect.ControlCodec
import EasyProspect.Library.Handoff
import EasyProspect.ControlServer
import EasyProspect.PipeView
import EasyProspect.PipeSteps
import EasyProspect.WriteQueues
import EasyProspect.PipeReads
import EasyProspect.PipeIndices
import EasyProspect.ClientSteps
import EasyProspect.ControlSends
import EasyProspect.ClientHandlers
import EasyProspect.SingleOperations
import EasyProspect.ClientReads
import EasyProspect.WorkerManager
import EasyProspect.WorkerLink
import EasyProspect.ConfigPrecedence
import EasyProspect.WorkerProcess
import EasyProspect.Occupants
import EasyProspect.Library.CString
import EasyProspect.Library.Delivery
import EasyProspect.ReadHistories
import EasyProspect.CrossTalk
import EasyProspect.Draining
import EasyProspect.AnsweredRequests
import EasyProspect.Library.SwapRemoval
import EasyProspect.SessionQueue
import EasyProspect.ShutdownTimer
import EasyProspect.Countdown
import EasyProspect.ChannelRegistry
import EasyProspect.Library.Broadcast
import EasyProspect.Library.Hearsay
import EasyProspect.Lounge
import EasyProspect.LoungeSteps
import EasyProspect.Membership
import EasyProspect.Departures
import EasyProspect.Library.SpokenOrder
import EasyProspect.SpokenNotices
import EasyProspect.Identified
import EasyProspect.SoloRequests
import EasyProspect.Library.Traversal
import EasyProspect.CatalogImport
import EasyProspect.CatalogSteps
import EasyProspect.ImportStack
import EasyProspect.ImportTypes
import EasyProspect.ImportRows
import EasyProspect.Library.PathSegments
import EasyProspect.ScriptContexts
import EasyProspect.StaticFiles
import EasyProspect.ListenerKind
import EasyProspect.ListenerPorts
import EasyProspect.OutputCapture
import EasyProspect.PortSearch
import EasyProspect.Library.MemberCopies
import EasyProspect.CatalogBuilders
import EasyProspect.CategoryRelationships
import EasyProspect.Library.SqlText
import EasyProspect.ImportLabels
import EasyProspect.SqlScripts
import EasyProspect.MessageBuffer
import EasyProspect.Library.Results
import EasyProspect.Blackjack
import EasyProspect.BlackjackTable
import EasyProspect.PendingNotices
import EasyProspect.OutgoingMessages
import EasyProspect.SqliteCursor
import EasyProspect.ResultSets
import EasyProspect.CursorReads
import EasyProspect.Library.Dealing
import EasyProspect.Shoe
import EasyProspect.StreamOwners
import EasyProspect.HandValues
import EasyProspect.Seats
import EasyProspect.DealtHands
import EasyProspect.HexDump
import EasyProspect.EndpointSpecs
import EasyProspect.CoreConfig
import EasyProspect.ConfigBuilders
import EasyProspect.ListenerOptions
import EasyProspect.ObjectIds
