/-
One request between its client and the network.

A session is the proxy's object together with what an observer at its pipes
knows: what the network loader is executing, which redirect the client has not
yet answered, and the updates it has sent.  The session machine delivers the
messages of both sides in any order.
-/
import Whale.Foundation.EventMachine
import Whale.Restart

set_option autoImplicit false

namespace Whale

open Whale.Foundation
open Whale.Url (Text GURL)
open Whale.Net

/-! ### The network side -/

structure NetworkLoader where
  loader : Nat
  url : GURL
  referrer : GURL
  headers : HttpRequestHeaders
  corsExemptHeaders : HttpRequestHeaders
  /-- The last redirect it reported, until that is followed. -/
  reportedRedirect : Option RedirectInfo
  deriving DecidableEq, Repr

namespace NetworkLoader

def start (loader : Nat) (request : ResourceRequest) : NetworkLoader :=
  { loader := loader
    url := request.url
    referrer := request.referrer
    headers := request.headers
    corsExemptHeaders := request.corsExemptHeaders
    reportedRedirect := none }

def followedUrl (self : NetworkLoader) (params : FollowRedirectParams) : GURL :=
  params.newUrl.getD (self.reportedRedirect.elim self.url RedirectInfo.newUrl)

def followedReferrer (platform : Platform) (self : NetworkLoader) : GURL :=
  self.reportedRedirect.elim self.referrer
    fun redirectInfo => platform.parse redirectInfo.newReferrer

/-- A forwarded `FollowRedirect` says nothing about the referrer. -/
def follow (platform : Platform) (params : FollowRedirectParams) (self : NetworkLoader) :
    NetworkLoader :=
  { self with
    url := self.followedUrl params
    referrer := self.followedReferrer platform
    headers := params.toHeaderUpdate.applyTo self.headers
    corsExemptHeaders := params.toHeaderUpdate.applyToCorsExempt self.corsExemptHeaders
    reportedRedirect := none }

def report (redirectInfo : RedirectInfo) (self : NetworkLoader) : NetworkLoader :=
  { self with reportedRedirect := some redirectInfo }

def observe (platform : Platform) (network : Option NetworkLoader) :
    Effect → Option NetworkLoader
  | .createLoaderAndStart loader _ _ request => some (start loader request)
  | .loaderFollowRedirect _ params => network.map (follow platform params)
  | .targetLoaderReset => none
  | _ => network

end NetworkLoader

def Effect.handsOver : Effect → Bool
  | .createLoaderAndStart .. => true
  | .loaderFollowRedirect .. => true
  | _ => false

def Effect.reportsRedirect : Effect → Bool
  | .clientOnReceiveRedirect .. => true
  | _ => false

def Effect.isRemoval : Effect → Bool
  | .removeRequest => true
  | _ => false

/-! ### Messages -/

structure CreateLoaderArguments where
  requestId : Nat
  networkServiceRequestId : Int
  frameTreeNodeId : Int
  options : Nat
  request : ResourceRequest
  deriving DecidableEq, Repr

inductive RequestMessage where
  | followRedirect (params : FollowRedirectParams)
  | setPriority (priority intraPriorityValue : Int)
  | pauseReadingBodyFromNet
  | resumeReadingBodyFromNet
  | clientDisconnect
  | onReceiveEarlyHints
  | onReceiveResponse (head : URLResponseHead) (body : Option DataPipeConsumerHandle)
      (cachedMetadata : Option BigBuffer)
  | onReceiveRedirect (redirectInfo : RedirectInfo) (head : URLResponseHead)
  | onUploadProgress (currentPosition totalSize : Int)
  | onTransferSizeUpdated (transferSizeDiff : Int)
  | onComplete (status : URLLoaderCompletionStatus)
  deriving DecidableEq, Repr

namespace RequestMessage

def isFromNetwork : RequestMessage → Bool
  | .followRedirect _ | .setPriority .. | .pauseReadingBodyFromNet
  | .resumeReadingBodyFromNet | .clientDisconnect => false
  | _ => true

def carriesDeliverableUrls : RequestMessage → Bool
  | .followRedirect params => params.newUrl.all isDeliverableUrl
  | .onReceiveRedirect redirectInfo _ => isDeliverableUrl redirectInfo.newUrl
  | _ => true

end RequestMessage

/-! ### Sessions -/

inductive RedirectKind where
  | internal
  | server
  deriving DecidableEq, Repr

structure Session where
  request : InProgressRequest
  network : Option NetworkLoader
  /-- The redirect reported to the client that it has not followed yet. -/
  awaiting : Option RedirectKind
  original : ResourceRequest
  updates : List HeaderUpdate
  deriving DecidableEq, Repr

namespace Session

/-- `Restart`, seen from both pipes. -/
def restart (platform : Platform) (around : Surroundings) (session : Session) :
    Session × List Effect :=
  let restarted := session.request.restart platform around
  ({ session with
      request := restarted.1
      network := restarted.2.foldl (NetworkLoader.observe platform) session.network
      awaiting := if restarted.2.any Effect.reportsRedirect then some .internal else none },
    restarted.2)

def fresh (arguments : CreateLoaderArguments) : Session :=
  { request :=
      InProgressRequest.new arguments.requestId arguments.networkServiceRequestId
        arguments.frameTreeNodeId arguments.options arguments.request
    network := none
    awaiting := none
    original := arguments.request
    updates := [] }

def create (platform : Platform) (around : Surroundings)
    (arguments : CreateLoaderArguments) : Session × List Effect :=
  (fresh arguments).restart platform around

/-- `FollowRedirect` up to its `Restart`. -/
def prepare (params : FollowRedirectParams) (session : Session) : Session :=
  { session with
    request := session.request.receiveFollowRedirect params
    updates := session.updates ++ [params.toHeaderUpdate] }

def passive (session : Session) (handled : InProgressRequest × List Effect) :
    Session × List Effect :=
  ({ session with request := handled.1 }, handled.2)

def receive (platform : Platform) (around : Surroundings) (session : Session) :
    RequestMessage → Session × List Effect
  | .followRedirect params => (session.prepare params).restart platform around
  | .setPriority priority intraPriorityValue =>
      session.passive (session.request.setPriority priority intraPriorityValue)
  | .pauseReadingBodyFromNet => session.passive session.request.pauseReadingBodyFromNet
  | .resumeReadingBodyFromNet => session.passive session.request.resumeReadingBodyFromNet
  | .clientDisconnect => session.passive session.request.onClientDisconnect
  | .onReceiveEarlyHints => session.passive session.request.onReceiveEarlyHints
  | .onReceiveResponse head body cachedMetadata =>
      session.passive
        (session.request.onReceiveResponse platform around.browser head body cachedMetadata)
  | .onReceiveRedirect redirectInfo head =>
      { session with
        network := session.network.map (NetworkLoader.report redirectInfo)
        awaiting := some .server }
      |>.passive
        (session.request.onReceiveRedirect platform around.browser redirectInfo head)
  | .onUploadProgress currentPosition totalSize =>
      session.passive (session.request.onUploadProgress currentPosition totalSize)
  | .onTransferSizeUpdated transferSizeDiff =>
      session.passive (session.request.onTransferSizeUpdated transferSizeDiff)
  | .onComplete status => session.passive (session.request.onComplete status)

/-- Messages of the network arrive through a bound receiver, and pipes carry
only deliverable URLs. -/
def delivers (session : Session) (message : RequestMessage) : Bool :=
  message.carriesDeliverableUrls &&
    (!message.isFromNetwork || session.request.proxiedClientReceiver.isSome)

end Session

/-! ### The session machine -/

inductive RequestStage where
  | notCreated
  | inProgress (session : Session)
  | removed
  deriving DecidableEq, Repr

inductive RequestEvent where
  | create (arguments : CreateLoaderArguments)
  | message (message : RequestMessage)
  deriving DecidableEq, Repr

/-- The session goes on unless it asked to be removed. -/
def RequestStage.ofOutcome (outcome : Session × List Effect) : RequestStage :=
  if outcome.2.any Effect.isRemoval then .removed else .inProgress outcome.1

def sessionMachine (platform : Platform) :
    EventMachine RequestStage (Surroundings × RequestEvent) Effect :=
  { step := fun stage event =>
      match stage, event with
      | .notCreated, (around, .create arguments) =>
          if isDeliverableUrl arguments.request.url then
            let outcome := Session.create platform around arguments
            some (.ofOutcome outcome, outcome.2)
          else none
      | .inProgress session, (around, .message message) =>
          if session.delivers message then
            let outcome := session.receive platform around message
            some (.ofOutcome outcome, outcome.2)
          else none
      | _, _ => none }

end Whale
