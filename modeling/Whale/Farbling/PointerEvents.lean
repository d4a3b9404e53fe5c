/-
`mouse_event.h`, `touch.h` and `pointer_event.h`: where an input event is on the screen.

The headers put `FarbledPointerScreenCoordinate` in the place of the coordinates that
Blink gives.  It takes `int`s, so the `double`s of an event are narrowed first, also where
nothing is farbled.  A touch passes the window that its target is, and a target that is
no window leaves the true coordinate.
-/
import Whale.Farbling.SiteAnswers

set_option autoImplicit false

namespace Whale.Farbling

open Whale.Foundation
open WhaleSessionCache

/-! ### The events -/

/-- The coordinates are what `clientX` and the getters of Blink return. -/
structure MouseEvent where
  view : Option DOMWindow
  clientX : Rat
  clientY : Rat
  screenX_ChromiumImpl : Rat
  screenY_ChromiumImpl : Rat

structure Touch where
  targetToDOMWindow : Option DOMWindow
  clientX : Rat
  clientY : Rat
  screenX_ChromiumImpl : Rat
  screenY_ChromiumImpl : Rat

structure PointerEvent where
  view : Option DOMWindow
  client_x_ : Rat
  client_y_ : Rat
  screen_x_ : Rat
  screen_y_ : Rat

/-- `FarbledPointerScreenCoordinate` as an event calls it. -/
def screenCall (view : Option DOMWindow) (key : FarbleKey)
    (clientCoordinate trueScreenCoordinate : Rat) : Except Fault ScriptCall := do
  let clientCoordinate ← checkedInt (truncate clientCoordinate)
  let trueScreenCoordinate ← checkedInt (truncate trueScreenCoordinate)
  pure (.onContext
    (.farbledPointerScreenCoordinate view key clientCoordinate trueScreenCoordinate))

def MouseEvent.screenX (event : MouseEvent) : Except Fault ScriptCall :=
  screenCall event.view .kPointerScreenX event.clientX event.screenX_ChromiumImpl

def MouseEvent.screenY (event : MouseEvent) : Except Fault ScriptCall :=
  screenCall event.view .kPointerScreenY event.clientY event.screenY_ChromiumImpl

def Touch.screenX (touch : Touch) : Except Fault ScriptCall :=
  screenCall touch.targetToDOMWindow .kPointerScreenX touch.clientX touch.screenX_ChromiumImpl

def Touch.screenY (touch : Touch) : Except Fault ScriptCall :=
  screenCall touch.targetToDOMWindow .kPointerScreenY touch.clientY touch.screenY_ChromiumImpl

/-- Where `pointer_event.h` reads `screen_x_`. -/
def PointerEvent.screenX (event : PointerEvent) : Except Fault ScriptCall :=
  screenCall event.view .kPointerScreenX event.client_x_ event.screen_x_

def PointerEvent.screenY (event : PointerEvent) : Except Fault ScriptCall :=
  screenCall event.view .kPointerScreenY event.client_y_ event.screen_y_

/-! ### One reading for the three kinds -/

inductive Axis where
  | x
  | y
  deriving DecidableEq, Repr

def Axis.key : Axis → FarbleKey
  | x => .kPointerScreenX
  | y => .kPointerScreenY

inductive InputEvent where
  | mouse (event : MouseEvent)
  | touch (contact : Touch)
  | pointer (event : PointerEvent)

namespace InputEvent

def screen : InputEvent → Axis → Except Fault ScriptCall
  | mouse event, .x => event.screenX
  | mouse event, .y => event.screenY
  | touch contact, .x => contact.screenX
  | touch contact, .y => contact.screenY
  | pointer event, .x => event.screenX
  | pointer event, .y => event.screenY

def window : InputEvent → Option DOMWindow
  | mouse event => event.view
  | touch contact => contact.targetToDOMWindow
  | pointer event => event.view

def client : InputEvent → Axis → Rat
  | mouse event, .x => event.clientX
  | mouse event, .y => event.clientY
  | touch contact, .x => contact.clientX
  | touch contact, .y => contact.clientY
  | pointer event, .x => event.client_x_
  | pointer event, .y => event.client_y_

def trueScreen : InputEvent → Axis → Rat
  | mouse event, .x => event.screenX_ChromiumImpl
  | mouse event, .y => event.screenY_ChromiumImpl
  | touch contact, .x => contact.screenX_ChromiumImpl
  | touch contact, .y => contact.screenY_ChromiumImpl
  | pointer event, .x => event.screen_x_
  | pointer event, .y => event.screen_y_

theorem screen_eq (event : InputEvent) (axis : Axis) :
    event.screen axis =
      screenCall event.window axis.key (event.client axis) (event.trueScreen axis) := by
  cases event <;> cases axis <;> rfl

/-- A window that is protected is told of the client coordinate and `offset` only. -/
def told (event : InputEvent) (axis : Axis) (farblingLevel : WhaleFarblingLevel)
    (offset : Int) : Int :=
  match event.window with
  | some (.localDOMWindow (some zoomFactor)) =>
      if farblingLevel = .off then truncate (event.trueScreen axis)
      else truncate (zoomFactor * truncate (event.client axis)) + offset
  | _ => truncate (event.trueScreen axis)

end InputEvent

theorem screenCall_ok {view : Option DOMWindow} {key : FarbleKey} {client trueScreen : Rat}
    {call : ScriptCall} (reads : screenCall view key client trueScreen = .ok call) :
    call = .onContext (.farbledPointerScreenCoordinate view key (truncate client)
      (truncate trueScreen)) := by
  unfold screenCall at reads
  cases clientFits : checkedInt (truncate client) with
  | error reason =>
      rw [clientFits] at reads
      cases reads
  | ok clientCoordinate =>
      cases screenFits : checkedInt (truncate trueScreen) with
      | error reason =>
          rw [clientFits, screenFits] at reads
          cases reads
      | ok trueScreenCoordinate =>
          rw [clientFits, screenFits] at reads
          rw [← (checkedInt_eq_ok_iff.mp clientFits).1, ← (checkedInt_eq_ok_iff.mp screenFits).1]
          exact (Except.ok.inj reads).symm

/-! ### One offset a site -/

/-- What is added to the coordinates of an axis, on all pages of a site. -/
def siteOffset (platform : FarblingPlatform) (domain : List UInt8) (axis : Axis) : Int :=
  (platform.randenEngine (firstWord (siteKey platform domain) ^^^ axis.key.toUInt64) 0).toNat % 9

theorem siteOffset_between (platform : FarblingPlatform) (domain : List UInt8) (axis : Axis) :
    0 ≤ siteOffset platform domain axis ∧ siteOffset platform domain axis ≤ 8 := by
  unfold siteOffset
  omega

theorem answer_of_localWindow {renderer : Renderer} {domain : List UInt8}
    {farblingLevel : WhaleFarblingLevel} (protecting : farblingLevel ≠ .off)
    {pageZoomFactor : Option Rat} {axis : Axis} {clientCoordinate trueScreenCoordinate : Int}
    {answer : Answer}
    (given : siteAnswer renderer domain farblingLevel (.onContext
      (.farbledPointerScreenCoordinate (some (.localDOMWindow pageZoomFactor)) axis.key
        clientCoordinate trueScreenCoordinate)) = .ok answer) :
    ∃ zoomFactor, pageZoomFactor = some zoomFactor ∧
      answer = .integer (truncate (zoomFactor * clientCoordinate) +
        siteOffset renderer.toFarblingPlatform domain axis) := by
  unfold siteAnswer at given
  dsimp only at given
  rw [answerCall_pointer, if_neg (show (siteCache _ domain farblingLevel).farblingLevel ≠ .off from
    protecting)] at given
  cases pageZoomFactor with
  | none => cases given
  | some zoomFactor =>
      refine ⟨zoomFactor, rfl, ?_⟩
      dsimp only at given
      cases narrowed : checkedInt (truncate (zoomFactor * clientCoordinate)) with
      | error reason =>
          rw [narrowed] at given
          cases given
      | ok spoofValue =>
          rw [narrowed] at given
          let cache := siteCache renderer.toFarblingPlatform domain farblingLevel
          have drawn := farbledInteger_coordinate renderer.toFarblingPlatform cache axis.key
            spoofValue
          have offset : pointerOffset renderer.toFarblingPlatform cache axis.key =
              siteOffset renderer.toFarblingPlatform domain axis := pointerOffset_of_none rfl
          change ((cache.farbledInteger renderer.toFarblingPlatform axis.key spoofValue 0
            8).result.map _).map _ = _ at given
          cases read : (cache.farbledInteger renderer.toFarblingPlatform axis.key spoofValue 0
              8).result with
          | error reason =>
              rw [read] at given
              cases given
          | ok pair =>
              rw [read] at given drawn
              cases given
              obtain ⟨sum, _lower, _upper⟩ := checkedInt_eq_ok_iff.mp drawn.symm
              change Answer.integer pair.1 = _
              rw [sum, offset, (checkedInt_eq_ok_iff.mp narrowed).1, Int.add_comm]

theorem InputEvent.answer_of_site {renderer : Renderer} {domain : List UInt8}
    {farblingLevel : WhaleFarblingLevel} {event : InputEvent} {axis : Axis} {call : ScriptCall}
    (reads : event.screen axis = .ok call) {answer : Answer}
    (given : siteAnswer renderer domain farblingLevel call = .ok answer) :
    answer = .integer (event.told axis farblingLevel
      (siteOffset renderer.toFarblingPlatform domain axis)) := by
  rw [event.screen_eq] at reads
  rw [screenCall_ok reads] at given
  unfold told
  cases seen : event.window with
  | none =>
      rw [seen] at given
      cases given
      rfl
  | some window =>
      cases window with
      | remoteDOMWindow =>
          rw [seen] at given
          cases given
          rfl
      | localDOMWindow pageZoomFactor =>
          rw [seen] at given
          by_cases off : farblingLevel = .off
          · unfold siteAnswer at given
            dsimp only at given
            rw [answerCall_pointer, if_pos (show (siteCache _ domain farblingLevel).farblingLevel =
              .off from off)] at given
            cases given
            cases pageZoomFactor with
            | none => rfl
            | some zoomFactor =>
                dsimp only
                rw [if_pos off]
          · obtain ⟨zoomFactor, rfl, answered⟩ := answer_of_localWindow off given
            dsimp only
            rw [answered, if_neg off]

/-- On the pages of a site, in any number of windows and whatever else their scripts ask
for, all mouse, touch and pointer events report their client coordinate with one offset
for each axis, where they pass a local window that is protected, and elsewhere their true
coordinate. -/
theorem runScripts_oneOffset {Index : Type} [DecidableEq Index] (renderer : Renderer)
    (contexts : Index → LiveContext) (ranges : Index → FarbleKey → Int × Int)
    (calls : List (Index × ScriptCall)) (answers : List Answer)
    (ranged : ∀ call ∈ calls, Ranged (ranges call.1) call.2)
    (done : runScripts renderer contexts calls = .ok answers) (place : Nat) (index : Index)
    (event : InputEvent) (axis : Axis) (call : ScriptCall)
    (reads : event.screen axis = .ok call) (asked : calls[place]? = some (index, call))
    (domain : List UInt8) (farblingLevel : WhaleFarblingLevel)
    (site : OfSite renderer.toFarblingPlatform domain farblingLevel (contexts index).context) :
    0 ≤ siteOffset renderer.toFarblingPlatform domain axis ∧
      siteOffset renderer.toFarblingPlatform domain axis ≤ 8 ∧
      answers[place]? = some (.integer (event.told axis farblingLevel
        (siteOffset renderer.toFarblingPlatform domain axis))) := by
  obtain ⟨answer, given, answered⟩ := exists_siteAnswer_of_runScripts ranged done asked site
  obtain ⟨least, greatest⟩ := siteOffset_between renderer.toFarblingPlatform domain axis
  refine ⟨least, greatest, ?_⟩
  rw [given, InputEvent.answer_of_site reads answered]

namespace ReferenceFarbling

/-- A pointer in a window that is zoomed, and a touch on an element of it. -/
def zoomedPointer : PointerEvent :=
  { view := some (.localDOMWindow (some (3 / 2)))
    client_x_ := 21 / 2
    client_y_ := 4
    screen_x_ := 1234
    screen_y_ := 567 }

def elementTouch : Touch :=
  { targetToDOMWindow := none
    clientX := 21 / 2
    clientY := 4
    screenX_ChromiumImpl := 1234
    screenY_ChromiumImpl := 567 }

def pageContexts (_frame : Unit) : LiveContext :=
  { context := balancedContext
    keyMemory := freshMemory }

def eventScripts : List (Unit × ScriptCall) :=
  [((), .onContext (.farbledPointerScreenCoordinate none .kPointerScreenX 10 1234)),
    ((), .onContext (.farbledPointerScreenCoordinate (some (.localDOMWindow (some (3 / 2))))
      .kPointerScreenX 10 1234))]

end ReferenceFarbling

open ReferenceFarbling in
theorem runScripts_oneOffset_example :
    (0 ≤ siteOffset platform exampleDomain .x ∧ siteOffset platform exampleDomain .x ≤ 8 ∧
      [Answer.integer 1234, .integer 15][0]? =
        some (.integer ((InputEvent.touch elementTouch).told .x .balanced
          (siteOffset platform exampleDomain .x)))) ∧
    0 ≤ siteOffset platform exampleDomain .x ∧ siteOffset platform exampleDomain .x ≤ 8 ∧
      [Answer.integer 1234, .integer 15][1]? =
        some (.integer ((InputEvent.pointer zoomedPointer).told .x .balanced
          (siteOffset platform exampleDomain .x))) := by
  have ranged : ∀ call ∈ eventScripts, Ranged pointerRanges call.2 := by
    intro call member
    simp only [eventScripts, List.mem_cons, List.not_mem_nil, or_false] at member
    rcases member with rfl | rfl <;> intro key range found <;> cases found <;> rfl
  have done : runScripts renderer pageContexts eventScripts =
      .ok [.integer 1234, .integer 15] := by
    with_unfolding_all rfl
  have touchReads : (InputEvent.touch elementTouch).screen .x = .ok (.onContext
      (.farbledPointerScreenCoordinate none .kPointerScreenX 10 1234)) := by
    with_unfolding_all rfl
  have pointerReads : (InputEvent.pointer zoomedPointer).screen .x = .ok (.onContext
      (.farbledPointerScreenCoordinate (some (.localDOMWindow (some (3 / 2)))) .kPointerScreenX 10
        1234)) := by
    with_unfolding_all rfl
  constructor
  · exact runScripts_oneOffset renderer pageContexts (fun _ => pointerRanges) eventScripts _ ranged
      done 0 () (.touch elementTouch) .x _ touchReads rfl exampleDomain .balanced
      balancedContext_ofSite
  · exact runScripts_oneOffset renderer pageContexts (fun _ => pointerRanges) eventScripts _ ranged
      done 1 () (.pointer zoomedPointer) .x _ pointerReads rfl exampleDomain .balanced
      balancedContext_ofSite

end Whale.Farbling
