/-
What the session cache reads of an execution context: the origins, the frames and
the clients that hold its content settings.  Any of the pointers may be null.
-/
import Whale.Url.Gurl

set_option autoImplicit false

namespace Whale.Farbling

open Whale.Url (Text)

/-- What ends a run of the code, in the debug checks of the browser or as undefined
behaviour. -/
inductive Fault where
  | nullDereference
  | divisionByZero
  | outOfBounds
  | signedOverflow
  | checkFailed
  deriving DecidableEq, Repr

inductive WhaleFarblingLevel where
  | balanced
  | off
  | maximum
  deriving DecidableEq, Repr

structure WebContentSettingsClient where
  whaleFarblingLevel : WhaleFarblingLevel
  deriving DecidableEq, Repr

/-- `none` is the null string. -/
structure SecurityOrigin where
  protocol : Text
  host : Option Text
  isOpaque : Bool
  deriving DecidableEq, Repr

/-- The top of a frame tree: a `LocalFrame`, or a frame of another process. -/
inductive TopFrame where
  | localFrame (securityOrigin : Option SecurityOrigin)
      (contentSettingsClient : Option WebContentSettingsClient)
  | remoteFrame (securityOrigin : Option SecurityOrigin)
  deriving DecidableEq, Repr

def TopFrame.securityOrigin : TopFrame → Option SecurityOrigin
  | localFrame securityOrigin _ => securityOrigin
  | remoteFrame securityOrigin => securityOrigin

structure LocalFrame where
  top : TopFrame
  contentSettingsClient : Option WebContentSettingsClient
  deriving DecidableEq, Repr

inductive ContextKind where
  | localDOMWindow (frame disconnectedFrame : Option LocalFrame)
  | workerGlobalScope (contentSettingsClient : Option WebContentSettingsClient)
  | other
  deriving DecidableEq, Repr

structure ExecutionContext where
  kind : ContextKind
  securityOrigin : Option SecurityOrigin
  deriving DecidableEq, Repr

def kAboutScheme : Text := "about".toList

/-- `isDisplayIsolated` is `SchemeRegistry::ShouldTreatURLSchemeAsDisplayIsolated`. -/
def getContentSettingsClientFor (isDisplayIsolated : Text → Bool)
    (context : ExecutionContext) : Except Fault (Option WebContentSettingsClient) :=
  match context.securityOrigin with
  | none => .error .nullDereference
  | some securityOrigin =>
      let protocol := securityOrigin.protocol
      -- No blocking in WebUI, extensions and the like.
      if protocol = kAboutScheme ∨ protocol = "chrome-extension".toList ∨
          isDisplayIsolated protocol = true then
        .ok none
      else
        match context.kind with
        | .localDOMWindow frame disconnectedFrame =>
            match frame.or disconnectedFrame with
            | none => .ok none
            | some localFrame =>
                match localFrame.top with
                | .localFrame _ contentSettingsClient => .ok contentSettingsClient
                | .remoteFrame _ => .ok localFrame.contentSettingsClient
        | .workerGlobalScope contentSettingsClient => .ok contentSettingsClient
        | .other => .ok none

/-- The origin that the keys are derived for. -/
def keyOrigin (context : ExecutionContext) : Option SecurityOrigin :=
  match context.kind with
  | .localDOMWindow frame disconnectedFrame =>
      (frame.or disconnectedFrame).bind fun localFrame => localFrame.top.securityOrigin
  | _ => context.securityOrigin

end Whale.Farbling
