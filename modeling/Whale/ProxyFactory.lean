/-
`WhaleProxyingURLLoaderFactory` and `ResourceContextData`.

A profile owns its proxies and a proxy owns its requests, both by address.  The
profile machine delivers the events of all of them in any order; what a pipe
would not deliver has no step.
-/
import Whale.Foundation.OwnedSet
import Whale.Session

set_option autoImplicit false

namespace Whale

open Whale.Foundation
open Whale.Url (Text GURL)
open Whale.Net

/-! ### The factory -/

inductive FactoryEffect where
  | requestCreated (object whaleRequestId : Nat)
  | request (object : Nat) (effect : Effect)
  | runDisconnectCallback
  /-- `disconnect_callback_` is run a second time. -/
  | runSpentCallback
  | requestNotFound
  deriving DecidableEq, Repr

structure WhaleProxyingURLLoaderFactory where
  frameTreeNodeId : Int
  proxyReceivers : OwnedSet Unit
  targetFactoryBound : Bool
  requests : OwnedSet Session
  requestId : Nat
  /-- `disconnect_callback_` has not run. -/
  disconnectCallback : Bool

structure CreateLoaderCall where
  requestId : Int
  options : Nat
  request : ResourceRequest
  deriving DecidableEq, Repr

namespace WhaleProxyingURLLoaderFactory

def new (frameTreeNodeId : Int) (requestId : Nat) : WhaleProxyingURLLoaderFactory :=
  { frameTreeNodeId := frameTreeNodeId
    proxyReceivers := OwnedSet.empty.emplace ()
    targetFactoryBound := true
    requests := OwnedSet.empty
    requestId := requestId
    disconnectCallback := true }

def maybeRemoveProxy (self : WhaleProxyingURLLoaderFactory) :
    WhaleProxyingURLLoaderFactory × List FactoryEffect :=
  if self.targetFactoryBound || !self.requests.isEmpty then (self, [])
  else if self.disconnectCallback then
    ({ self with disconnectCallback := false }, [.runDisconnectCallback])
  else (self, [.runSpentCallback])

def removeRequest (self : WhaleProxyingURLLoaderFactory) (request : Nat) :
    WhaleProxyingURLLoaderFactory × List FactoryEffect :=
  match self.requests.get request with
  | none => (self, [.requestNotFound])
  | some _ => { self with requests := self.requests.erase request } |>.maybeRemoveProxy

/-- Put a request back after one of its functions has run, and remove it if that
function asked for it. -/
def settle (self : WhaleProxyingURLLoaderFactory) (request : Nat)
    (outcome : Session × List Effect) :
    WhaleProxyingURLLoaderFactory × List FactoryEffect :=
  let stored := { self with requests := self.requests.update request outcome.1 }
  let removal :=
    if outcome.2.any Effect.isRemoval then stored.removeRequest request else (stored, [])
  (removal.1, outcome.2.map (.request request) ++ removal.2)

def surroundings (self : WhaleProxyingURLLoaderFactory) (browser : BrowserState) :
    Surroundings :=
  { browser := browser, targetFactoryBound := self.targetFactoryBound }

def createArguments (self : WhaleProxyingURLLoaderFactory) (call : CreateLoaderCall) :
    CreateLoaderArguments :=
  { requestId := self.requestId
    networkServiceRequestId := call.requestId
    frameTreeNodeId := self.frameTreeNodeId
    options := call.options
    request := call.request }

def createLoaderAndStart (platform : Platform) (browser : BrowserState)
    (self : WhaleProxyingURLLoaderFactory) (call : CreateLoaderCall) :
    WhaleProxyingURLLoaderFactory × List FactoryEffect :=
  let arguments := self.createArguments call
  let created :=
    { self with
      requestId := self.requestId + 1
      requests := self.requests.emplace (Session.fresh arguments) }
  let started := created.settle self.requests.nextAddress
    (Session.create platform (self.surroundings browser) arguments)
  (started.1, .requestCreated self.requests.nextAddress self.requestId :: started.2)

def clone (self : WhaleProxyingURLLoaderFactory) :
    WhaleProxyingURLLoaderFactory × List FactoryEffect :=
  ({ self with proxyReceivers := self.proxyReceivers.emplace () }, [])

def onTargetFactoryError (self : WhaleProxyingURLLoaderFactory) :
    WhaleProxyingURLLoaderFactory × List FactoryEffect :=
  { self with
    targetFactoryBound := false
    proxyReceivers := self.proxyReceivers.clear }
  |>.maybeRemoveProxy

/-- The receiver set has already dropped the receiver. -/
def onProxyBindingError (self : WhaleProxyingURLLoaderFactory) :
    WhaleProxyingURLLoaderFactory × List FactoryEffect :=
  { self with
    targetFactoryBound := self.targetFactoryBound && !self.proxyReceivers.isEmpty }
  |>.maybeRemoveProxy

end WhaleProxyingURLLoaderFactory

inductive FactoryEvent where
  | createLoaderAndStart (receiver : Nat) (call : CreateLoaderCall)
  | clone (receiver : Nat)
  | receiverDisconnected (receiver : Nat)
  | targetFactoryDisconnected
  | request (request : Nat) (message : RequestMessage)
  deriving DecidableEq, Repr

/-- Calls arrive through a live receiver, and a pipe end that has been reset
reports nothing. -/
def WhaleProxyingURLLoaderFactory.handle (platform : Platform) (browser : BrowserState)
    (self : WhaleProxyingURLLoaderFactory) :
    FactoryEvent → Option (WhaleProxyingURLLoaderFactory × List FactoryEffect)
  | .createLoaderAndStart receiver call =>
      if (self.proxyReceivers.get receiver).isSome && isDeliverableUrl call.request.url then
        some (self.createLoaderAndStart platform browser call)
      else none
  | .clone receiver =>
      if (self.proxyReceivers.get receiver).isSome then some self.clone else none
  | .receiverDisconnected receiver =>
      if (self.proxyReceivers.get receiver).isSome then
        some ({ self with proxyReceivers := self.proxyReceivers.erase receiver }
          |>.onProxyBindingError)
      else none
  | .targetFactoryDisconnected =>
      if self.targetFactoryBound then some self.onTargetFactoryError else none
  | .request request message =>
      match self.requests.get request with
      | none => none
      | some session =>
          if session.delivers message then
            some (self.settle request
              (session.receive platform (self.surroundings browser) message))
          else none

/-! ### The profile -/

inductive ProfileEffect where
  | proxyCreated (proxy requestId : Nat)
  | factory (proxy : Nat) (effect : FactoryEffect)
  | proxyNotFound
  deriving DecidableEq, Repr

/-- The state of `ResourceContextData`, with zero proxies at first. -/
structure ResourceContextData where
  requestId : Nat
  proxies : OwnedSet WhaleProxyingURLLoaderFactory

namespace ResourceContextData

def new : ResourceContextData :=
  { requestId := 0, proxies := OwnedSet.empty }

def nextRequestId (self : ResourceContextData) : ResourceContextData × Nat :=
  ({ self with requestId := self.requestId + 1 }, self.requestId + 1)

def startProxying (self : ResourceContextData) (frameTreeNodeId : Int) :
    ResourceContextData × List ProfileEffect :=
  let counted := self.nextRequestId
  ({ counted.1 with
      proxies := counted.1.proxies.emplace
        (WhaleProxyingURLLoaderFactory.new frameTreeNodeId counted.2) },
    [.proxyCreated self.proxies.nextAddress counted.2])

def removeProxy (self : ResourceContextData) (proxy : Nat) :
    ResourceContextData × List ProfileEffect :=
  match self.proxies.get proxy with
  | none => (self, [.proxyNotFound])
  | some _ => ({ self with proxies := self.proxies.erase proxy }, [])

end ResourceContextData

def FactoryEffect.runsDisconnectCallback : FactoryEffect → Bool
  | .runDisconnectCallback => true
  | _ => false

inductive ProfileEvent where
  | startProxying (frameTreeNodeId : Int)
  | proxy (proxy : Nat) (event : FactoryEvent)
  deriving DecidableEq, Repr

/-- `disconnect_callback_` is `RemoveProxy`. -/
def ResourceContextData.settle (self : ResourceContextData) (proxy : Nat)
    (outcome : WhaleProxyingURLLoaderFactory × List FactoryEffect) :
    ResourceContextData × List ProfileEffect :=
  let stored := { self with proxies := self.proxies.update proxy outcome.1 }
  let removal :=
    if outcome.2.any FactoryEffect.runsDisconnectCallback then stored.removeProxy proxy
    else (stored, [])
  (removal.1, outcome.2.map (.factory proxy) ++ removal.2)

def profileMachine (platform : Platform) :
    EventMachine ResourceContextData (BrowserState × ProfileEvent) ProfileEffect :=
  { step := fun profile event =>
      match event with
      | (_, .startProxying frameTreeNodeId) => some (profile.startProxying frameTreeNodeId)
      | (browser, .proxy proxy factoryEvent) =>
          match profile.proxies.get proxy with
          | none => none
          | some factory =>
              match factory.handle platform browser factoryEvent with
              | none => none
              | some outcome => some (profile.settle proxy outcome) }

end Whale
