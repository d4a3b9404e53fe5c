/-
`proxy_config_monitor_whale.cc` on Windows.

A preference counts the launches in which the download of a PAC script timed out.
It outlives a launch, the flag `already_counted` does not.  The flag is set by the
first report of a launch, whatever comes of it, so that one report decides how the
launch counts.
-/
import Mathlib.Data.List.Basic

set_option autoImplicit false

namespace Whale

def kPACDownloadTimeoutId : Int32 := 0xff001bad

def kPACDownloadSuccessId : Int32 := 0xff001004

def kThresholdCount : Int := 5

structure Browser where
  activeWebContents : Option Nat
  deriving DecidableEq, Repr

inductive InfobarEffect where
  | createInfobar (webContents : Nat)
  deriving DecidableEq, Repr

/-- `timeoutCountPref` is the stored value of the preference, `lastActive` the browser
that `FindLastActive` returns. -/
structure BrowserProcess where
  timeoutCountPref : Option Int
  alreadyCounted : Bool
  lastActive : Option Browser
  deriving DecidableEq, Repr

namespace BrowserProcess

/-- `GetInteger`: the preference is registered with the default 0. -/
def timeoutCount (self : BrowserProcess) : Int :=
  self.timeoutCountPref.getD 0

def incrementTimeoutCountFromPref (self : BrowserProcess) : Int × BrowserProcess :=
  let newCount := self.timeoutCount + 1
  (newCount, { self with timeoutCountPref := some newCount })

def resetTimeoutCountFromPref (self : BrowserProcess) : BrowserProcess :=
  { self with timeoutCountPref := none }

def maybeShowInfobar (self : BrowserProcess) : BrowserProcess × List InfobarEffect :=
  match self.lastActive with
  | none => (self, [])
  | some browser =>
      match browser.activeWebContents with
      | none => (self, [])
      | some webContents =>
          let (count, counted) := self.incrementTimeoutCountFromPref
          if count ≥ kThresholdCount then
            (counted.resetTimeoutCountFromPref, [.createInfobar webContents])
          else (counted, [])

/-- `profile` is the profile of the monitor, if it has one. -/
def onPACScriptDownloadTimeout (isBeforeWin10 : Bool) (self : BrowserProcess)
    (lineNumber : Int32) (profile : Option Nat) : BrowserProcess × List InfobarEffect :=
  if isBeforeWin10 then (self, [])
  else if profile.isSome then (self, [])
  else if self.alreadyCounted then (self, [])
  else
    let counted := { self with alreadyCounted := true }
    if lineNumber = kPACDownloadSuccessId then (counted.resetTimeoutCountFromPref, [])
    else counted.maybeShowInfobar

/-- `ON_PAC_SCRIPT_ERROR_WHALE`; the other line numbers are not this component's. -/
def onPACScriptError (isBeforeWin10 : Bool) (self : BrowserProcess) (lineNumber : Int32)
    (profile : Option Nat) : BrowserProcess × List InfobarEffect :=
  if lineNumber = kPACDownloadTimeoutId ∨ lineNumber = kPACDownloadSuccessId then
    self.onPACScriptDownloadTimeout isBeforeWin10 lineNumber profile
  else (self, [])

end BrowserProcess

/-! ### Launches -/

inductive LaunchEvent where
  | lastActiveChanged (lastActive : Option Browser)
  | pacScriptError (lineNumber : Int32) (profile : Option Nat)
  deriving DecidableEq, Repr

namespace BrowserProcess

def receive (isBeforeWin10 : Bool) (self : BrowserProcess) :
    LaunchEvent → BrowserProcess × List InfobarEffect
  | .lastActiveChanged lastActive => ({ self with lastActive := lastActive }, [])
  | .pacScriptError lineNumber profile =>
      self.onPACScriptError isBeforeWin10 lineNumber profile

def receiveAll (isBeforeWin10 : Bool) :
    BrowserProcess → List LaunchEvent → BrowserProcess × List InfobarEffect
  | self, [] => (self, [])
  | self, event :: rest =>
      let (next, first) := self.receive isBeforeWin10 event
      let (final, later) := receiveAll isBeforeWin10 next rest
      (final, first ++ later)

/-- A launch starts without a browser, with the static flag cleared. -/
def start (timeoutCountPref : Option Int) : BrowserProcess :=
  { timeoutCountPref := timeoutCountPref, alreadyCounted := false, lastActive := none }

end BrowserProcess

/-- The preference at the end of a launch and the infobars that it showed. -/
def launch (isBeforeWin10 : Bool) (timeoutCountPref : Option Int) (events : List LaunchEvent) :
    Option Int × List InfobarEffect :=
  let (final, infobars) := (BrowserProcess.start timeoutCountPref).receiveAll isBeforeWin10 events
  (final.timeoutCountPref, infobars)

/-- The preference after launches that follow one another. -/
def launches (isBeforeWin10 : Bool) (timeoutCountPref : Option Int)
    (history : List (List LaunchEvent)) : Option Int :=
  history.foldl (fun pref events => (launch isBeforeWin10 pref events).1) timeoutCountPref

/-! ### The reports of a launch -/

/-- A report of a monitor without a profile, with the web contents that could show an
infobar then: those active in the browser that `FindLastActive` returns.  A window is open
when there are any. -/
structure Report where
  success : Bool
  webContents : Option Nat
  deriving DecidableEq, Repr

namespace LaunchEvent

def report (webContents : Option Nat) : LaunchEvent → Option Report
  | .lastActiveChanged _ => none
  | .pacScriptError lineNumber profile =>
      if profile.isSome then none
      else if lineNumber = kPACDownloadSuccessId then
        some { success := true, webContents := webContents }
      else if lineNumber = kPACDownloadTimeoutId then
        some { success := false, webContents := webContents }
      else none

def lastActiveAfter (lastActive : Option Browser) : LaunchEvent → Option Browser
  | .lastActiveChanged changed => changed
  | .pacScriptError _ _ => lastActive

end LaunchEvent

def reports (lastActive : Option Browser) : List LaunchEvent → List Report
  | [] => []
  | event :: rest =>
      (event.report (lastActive.bind Browser.activeWebContents)).toList ++
        reports (event.lastActiveAfter lastActive) rest

/-- What a report that counts leaves of the preference, and the infobar it shows. -/
def Report.outcome (timeoutCountPref : Option Int) (report : Report) :
    Option Int × List InfobarEffect :=
  if report.success then (none, [])
  else
    match report.webContents with
    | none => (timeoutCountPref, [])
    | some webContents =>
        if timeoutCountPref.getD 0 + 1 ≥ kThresholdCount then
          (none, [.createInfobar webContents])
        else (some (timeoutCountPref.getD 0 + 1), [])

namespace BrowserProcess

/-- Once the flag is set, no event changes the preference. -/
theorem receive_counted {self : BrowserProcess} (counted : self.alreadyCounted = true)
    (event : LaunchEvent) :
    self.receive false event =
      ({ self with lastActive := event.lastActiveAfter self.lastActive }, []) := by
  cases event with
  | lastActiveChanged lastActive => rfl
  | pacScriptError lineNumber profile =>
      obtain ⟨pref, alreadyCounted, lastActive⟩ := self
      cases counted
      simp [receive, onPACScriptError, onPACScriptDownloadTimeout, LaunchEvent.lastActiveAfter]

theorem receiveAll_counted (events : List LaunchEvent) {self : BrowserProcess}
    (counted : self.alreadyCounted = true) :
    (self.receiveAll false events).1.timeoutCountPref = self.timeoutCountPref ∧
      (self.receiveAll false events).2 = [] := by
  induction events generalizing self with
  | nil => exact ⟨rfl, rfl⟩
  | cons event rest ih =>
      unfold receiveAll
      rw [receive_counted counted event]
      have later := @ih { self with lastActive := event.lastActiveAfter self.lastActive } counted
      exact later

def webContents (self : BrowserProcess) : Option Nat :=
  self.lastActive.bind Browser.activeWebContents

theorem maybeShowInfobar_eq (self : BrowserProcess) :
    let outcome := Report.outcome self.timeoutCountPref
      { success := false, webContents := self.webContents }
    self.maybeShowInfobar = ({ self with timeoutCountPref := outcome.1 }, outcome.2) := by
  obtain ⟨pref, alreadyCounted, lastActive⟩ := self
  unfold maybeShowInfobar Report.outcome webContents
  cases lastActive with
  | none => rfl
  | some browser =>
      cases found : browser.activeWebContents with
      | none => simp [found]
      | some shown =>
          by_cases five : pref.getD 0 + 1 ≥ kThresholdCount
          · simp [found, incrementTimeoutCountFromPref, timeoutCount, five,
              resetTimeoutCountFromPref]
          · simp [found, incrementTimeoutCountFromPref, timeoutCount, five]

theorem receive_notCounted {self : BrowserProcess} (notCounted : self.alreadyCounted = false)
    (event : LaunchEvent) :
    self.receive false event =
      match event.report self.webContents with
      | none => ({ self with lastActive := event.lastActiveAfter self.lastActive }, [])
      | some report =>
          let outcome := report.outcome self.timeoutCountPref
          ({ self with timeoutCountPref := outcome.1, alreadyCounted := true }, outcome.2) := by
  cases event with
  | lastActiveChanged lastActive => rfl
  | pacScriptError lineNumber profile =>
      obtain ⟨pref, alreadyCounted, lastActive⟩ := self
      cases notCounted
      unfold receive onPACScriptError onPACScriptDownloadTimeout LaunchEvent.report
        LaunchEvent.lastActiveAfter
      simp only [Bool.false_eq_true, if_false]
      by_cases owned : profile.isSome = true
      · simp only [if_pos owned, ite_self]
      · simp only [if_neg owned]
        by_cases success : lineNumber = kPACDownloadSuccessId
        · rw [if_pos (Or.inr success), if_pos success, if_pos success]
          rfl
        · rw [if_neg success, if_neg success]
          by_cases timeout : lineNumber = kPACDownloadTimeoutId
          · rw [if_pos (Or.inl timeout), if_pos timeout]
            exact maybeShowInfobar_eq
              { timeoutCountPref := pref, alreadyCounted := true, lastActive := lastActive }
          · rw [if_neg (not_or.mpr ⟨timeout, success⟩), if_neg timeout]

/-- The first report decides. -/
theorem receiveAll_notCounted (events : List LaunchEvent) {self : BrowserProcess}
    (notCounted : self.alreadyCounted = false) :
    ((self.receiveAll false events).1.timeoutCountPref, (self.receiveAll false events).2) =
      match (reports self.lastActive events).head? with
      | none => (self.timeoutCountPref, [])
      | some report => report.outcome self.timeoutCountPref := by
  induction events generalizing self with
  | nil => rfl
  | cons event rest ih =>
      unfold receiveAll reports
      rw [receive_notCounted notCounted event]
      unfold webContents
      cases reported : event.report (self.lastActive.bind Browser.activeWebContents) with
      | none =>
          have later :=
            @ih { self with lastActive := event.lastActiveAfter self.lastActive } notCounted
          exact later
      | some report =>
          have silent := @receiveAll_counted rest
            { self with
              timeoutCountPref := (report.outcome self.timeoutCountPref).1
              alreadyCounted := true } rfl
          dsimp only
          rw [silent.1, silent.2, List.append_nil]
          rfl

end BrowserProcess

theorem launch_eq (timeoutCountPref : Option Int) (events : List LaunchEvent) :
    launch false timeoutCountPref events =
      match (reports none events).head? with
      | none => (timeoutCountPref, [])
      | some report => report.outcome timeoutCountPref :=
  BrowserProcess.receiveAll_notCounted events rfl

/-! ### Counting launches -/

/-- What a launch should do to the count: any success clears it, otherwise a timeout
with a window open adds one, and the fifth shows the infobar. -/
def CountsLaunch (before after : Int) (infobars : List InfobarEffect) (seen : List Report) :
    Prop :=
  if seen.any (fun report => report.success) then after = 0
  else if seen.any (fun report => report.webContents.isSome) then
    if before + 1 = kThresholdCount then after = 0 ∧ infobars.length = 1
    else after = before + 1
  else after = before

/-- The first report of the launch already leaves the count that all of them should. -/
def FirstReportCounts (before : Int) (seen : List Report) : Prop :=
  match seen with
  | [] => True
  | first :: _ =>
      if seen.any (fun report => report.success) then
        first.success = true ∨
          (if first.webContents.isSome then before + 1 = kThresholdCount else before = 0)
      else if seen.any (fun report => report.webContents.isSome) then
        first.webContents.isSome = true
      else True

/-- Between two launches the count is below the threshold. -/
def BelowThreshold (timeoutCountPref : Option Int) : Prop :=
  0 ≤ timeoutCountPref.getD 0 ∧ timeoutCountPref.getD 0 < kThresholdCount

theorem belowThreshold_none : BelowThreshold none :=
  ⟨Int.le_refl 0, by decide⟩

theorem Report.belowThreshold_outcome {timeoutCountPref : Option Int}
    (below : BelowThreshold timeoutCountPref) (report : Report) :
    BelowThreshold (report.outcome timeoutCountPref).1 := by
  unfold Report.outcome
  cases report.success with
  | true => exact belowThreshold_none
  | false =>
      cases report.webContents with
      | none => exact below
      | some webContents =>
          by_cases five : timeoutCountPref.getD 0 + 1 ≥ kThresholdCount
          · simp only [Bool.false_eq_true, if_false, if_pos five]
            exact belowThreshold_none
          · simp only [Bool.false_eq_true, if_false, if_neg five]
            have nonneg := below.1
            constructor
            · change 0 ≤ timeoutCountPref.getD 0 + 1
              omega
            · change timeoutCountPref.getD 0 + 1 < kThresholdCount
              omega

theorem belowThreshold_launch {timeoutCountPref : Option Int}
    (below : BelowThreshold timeoutCountPref) (events : List LaunchEvent) :
    BelowThreshold (launch false timeoutCountPref events).1 := by
  rw [launch_eq]
  cases (reports none events).head? with
  | none => exact below
  | some report => exact report.belowThreshold_outcome below

theorem belowThreshold_launches (history : List (List LaunchEvent)) {timeoutCountPref : Option Int}
    (below : BelowThreshold timeoutCountPref) :
    BelowThreshold (launches false timeoutCountPref history) := by
  induction history generalizing timeoutCountPref with
  | nil => exact below
  | cons events rest ih => exact ih (belowThreshold_launch below events)

theorem countsLaunch_iff {timeoutCountPref : Option Int} (below : BelowThreshold timeoutCountPref)
    (events : List LaunchEvent) :
    CountsLaunch (timeoutCountPref.getD 0) ((launch false timeoutCountPref events).1.getD 0)
        (launch false timeoutCountPref events).2 (reports none events) ↔
      FirstReportCounts (timeoutCountPref.getD 0) (reports none events) := by
  obtain ⟨nonneg, small⟩ := below
  rw [launch_eq]
  cases reports none events with
  | nil => simp [CountsLaunch, FirstReportCounts]
  | cons first rest =>
      obtain ⟨success, webContents⟩ := first
      dsimp only [List.head?_cons]
      unfold CountsLaunch FirstReportCounts Report.outcome
      cases success with
      | true => simp
      | false =>
          cases webContents with
          | none =>
              have unequal : timeoutCountPref.getD 0 ≠ timeoutCountPref.getD 0 + 1 := by omega
              simp [unequal]
          | some shown =>
              by_cases five : timeoutCountPref.getD 0 + 1 = kThresholdCount
              · simp [five]
              · have fewer : ¬timeoutCountPref.getD 0 + 1 ≥ kThresholdCount := by omega
                have positive : timeoutCountPref.getD 0 + 1 ≠ 0 := by omega
                simp [five, fewer, positive]

/-- Each launch of any history counts as its first report does.  A window is open at a
report if the last active browser has active web contents. -/
theorem launches_count_iff (history : List (List LaunchEvent)) (events : List LaunchEvent) :
    let before := launches false none history
    CountsLaunch (before.getD 0) ((launch false before events).1.getD 0)
        (launch false before events).2 (reports none events) ↔
      FirstReportCounts (before.getD 0) (reports none events) :=
  countsLaunch_iff (belowThreshold_launches history belowThreshold_none) events

namespace PacScriptExample

def windowAppears : LaunchEvent :=
  .lastActiveChanged (some { activeWebContents := some 0 })

def timeout : LaunchEvent :=
  .pacScriptError kPACDownloadTimeoutId none

def success : LaunchEvent :=
  .pacScriptError kPACDownloadSuccessId none

end PacScriptExample

open PacScriptExample in
/-- A success after a timeout does not clear the count, and a timeout before the window
appears takes the place of the one after it. -/
theorem launches_count_lost :
    (¬CountsLaunch 0 ((launch false none [windowAppears, timeout, success]).1.getD 0)
        (launch false none [windowAppears, timeout, success]).2
        (reports none [windowAppears, timeout, success])) ∧
      ¬CountsLaunch 0 ((launch false none [timeout, windowAppears, timeout]).1.getD 0)
        (launch false none [timeout, windowAppears, timeout]).2
        (reports none [timeout, windowAppears, timeout]) := by
  unfold CountsLaunch
  decide

end Whale
