import Whale.Foundation.EventMachine
import Whale.Url.Reparse
import Whale.TrackingBlockers
import Whale.QueryFilter
import Whale.QueryFilterPasses
import Whale.RequestInfo
import Whale.SiteHacks
import Whale.InProgressRequest
import Whale.Restart
import Whale.Session
import Whale.SessionInvariant
import Whale.HandOver
import Whale.ReferenceSession
import Whale.RedirectChains
import Whale.ReferrerCap
import Whale.HeaderUpdates
import Whale.Completion
import Whale.Foundation.OwnedSet
import Whale.ProxyFactory
import Whale.ProxyLifecycle
import Whale.ProxyRequests
import Whale.Stranding
import Whale.RequestIds
import Whale.Foundation.Overrides
import Whale.ContentSettings
import Whale.SiteSettings
import Whale.ShieldsToggle
import Whale.BlockedResources
import Whale.QuerySegments
import Whale.ForwardedParams
import Whale.InternalRedirectFrame
import Whale.Foundation.Scatter
import Whale.Foundation.Traced
import Whale.Farbling.AudioFarblingHelper
import Whale.Farbling.ExecutionContext
import Whale.Farbling.SessionCache
import Whale.Farbling.PerturbPixels
import Whale.Farbling.CacheCalls
import Whale.Farbling.Protection
import Whale.Farbling.ShiftRegister
import Whale.Farbling.AudioAnalyser
import Whale.ProxyConfigMonitor
import Whale.Farbling.FarbledIntegers
import Whale.Farbling.KeyReads
import Whale.Farbling.PointerCoordinates
import Whale.Foundation.Simulation
import Whale.RequestTraces
import Whale.BlockerOff
import Whale.Foundation.Monitor
import Whale.LoaderContract
import Whale.Browser
import Whale.Foundation.Mirror
import Whale.Foundation.Recorded
import Whale.BlockedLists
import Whale.PanelMirror
import Whale.ProtectionSwitch
import Whale.Farbling.AnswerRanges
import Whale.RendererRules
import Whale.Farbling.RegisterCycle
import Whale.Farbling.RandomStrings
import Whale.Farbling.PointerEvents
import Whale.Farbling.SharedDraw
