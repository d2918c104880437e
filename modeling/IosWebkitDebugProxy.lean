import IosWebkitDebugProxy.Library.Table
import IosWebkitDebugProxy.Library.Transition
import IosWebkitDebugProxy.Library.History
import IosWebkitDebugProxy.Library.Channel
import IosWebkitDebugProxy.Library.Iteration
import IosWebkitDebugProxy.Library.Framing
import IosWebkitDebugProxy.Library.Bytes
import IosWebkitDebugProxy.Library.Sessions
import IosWebkitDebugProxy.Library.Regex
import IosWebkitDebugProxy.Library.Utf8
import IosWebkitDebugProxy.Library.Text
import IosWebkitDebugProxy.Library.Url
import IosWebkitDebugProxy.Library.Json
import IosWebkitDebugProxy.Library.Html
import IosWebkitDebugProxy.Library.HtmlPages
import IosWebkitDebugProxy.PlistCore
import IosWebkitDebugProxy.RpcCore
import IosWebkitDebugProxy.CodecRoundTrip
import IosWebkitDebugProxy.CodecFrames
import IosWebkitDebugProxy.CodecRecovery
import IosWebkitDebugProxy.ListenerAgreement
import IosWebkitDebugProxy.ListenerProgress
import IosWebkitDebugProxy.ListenerPanics
import IosWebkitDebugProxy.ListenerChunks
import IosWebkitDebugProxy.ProxyCore
import IosWebkitDebugProxy.ProxyRuns
import IosWebkitDebugProxy.ProxySessions
import IosWebkitDebugProxy.ProxyClients
import IosWebkitDebugProxy.ProxyPublished
import IosWebkitDebugProxy.ProxyIncarnations
import IosWebkitDebugProxy.ProxyNumbers
import IosWebkitDebugProxy.ProxyBrackets
import IosWebkitDebugProxy.ProxyHolders
import IosWebkitDebugProxy.ProxyCallbacks
import IosWebkitDebugProxy.ProxyReaders
import IosWebkitDebugProxy.ProxyPorts
import IosWebkitDebugProxy.ConfigCore
import IosWebkitDebugProxy.ConfigServed
import IosWebkitDebugProxy.ConfigRanges
import IosWebkitDebugProxy.ConfigScanner
import IosWebkitDebugProxy.ProxyAllocation
import IosWebkitDebugProxy.ProxyListing
import IosWebkitDebugProxy.ProxyApps
import IosWebkitDebugProxy.ProxyAttached
import IosWebkitDebugProxy.ProxyIdentifiers
import IosWebkitDebugProxy.TasksLock
import IosWebkitDebugProxy.TasksBackpressure
import IosWebkitDebugProxy.TasksRegistration
import IosWebkitDebugProxy.TasksRelay
import IosWebkitDebugProxy.TasksResidue
import IosWebkitDebugProxy.TasksMessages
import IosWebkitDebugProxy.TasksConnection
import IosWebkitDebugProxy.TasksSetups
import IosWebkitDebugProxy.HttpStatic
import IosWebkitDebugProxy.HttpLinks
import IosWebkitDebugProxy.HttpSockets
import IosWebkitDebugProxy.HttpMarkup
import IosWebkitDebugProxy.DeviceVersion
import IosWebkitDebugProxy.WriterHandle
import IosWebkitDebugProxy.WriterWaits
import IosWebkitDebugProxy.ReaderProgress
import IosWebkitDebugProxy.ListenerEnding
import IosWebkitDebugProxy.RunTasks
import IosWebkitDebugProxy.RunEnding
import IosWebkitDebugProxy.DeviceListed
import IosWebkitDebugProxy.LinkRest
import IosWebkitDebugProxy.HttpFollowed
import IosWebkitDebugProxy.ProxyTold
