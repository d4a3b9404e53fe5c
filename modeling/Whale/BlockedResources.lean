/-
The lists of blocked resources of `WhaleShieldsDataController`.

Parameters are stripped before the navigation that they belong to commits, so a
flag keeps their list over the next commit.  Over a whole run the list then holds
the names of the current page and of every preceding page in an unbroken streak
of pages with a call of `HandleURLParamsBlocked`.
-/
import Mathlib.Data.List.Basic
import Whale.Foundation.EventMachine
import Whale.Url.Gurl

set_option autoImplicit false

namespace Whale

open Whale.Foundation
open Whale.Url (Text)

/-- `std::set<std::string>`. -/
abbrev TextSet := Std.TreeSet Text compare

inductive BlockType where
  | ads
  | trackers
  | urlParams
  deriving DecidableEq, Repr

structure NavigationHandle where
  isInMainFrame : Bool
  hasCommitted : Bool
  isSameDocument : Bool
  deriving DecidableEq, Repr

inductive ShieldsEvent where
  | handleItemBlocked (blockType : BlockType) (subresource : Text)
  | handleURLParamsBlocked (params : List Text)
  | didFinishNavigation (navigationHandle : NavigationHandle)
  deriving DecidableEq, Repr

inductive ShieldsEffect where
  | onResourcesChanged
  deriving DecidableEq, Repr

structure WhaleShieldsDataController where
  resourceListBlockedAds : TextSet
  resourceListBlockedTrackers : TextSet
  resourceListBlockedUrlParams : TextSet
  keepBlockedUrlParamsRecord : Bool

namespace WhaleShieldsDataController

def new : WhaleShieldsDataController :=
  { resourceListBlockedAds := ∅
    resourceListBlockedTrackers := ∅
    resourceListBlockedUrlParams := ∅
    keepBlockedUrlParamsRecord := false }

def clearAllResourcesList (self : WhaleShieldsDataController) :
    WhaleShieldsDataController × List ShieldsEffect :=
  ({ resourceListBlockedAds := ∅
     resourceListBlockedTrackers := ∅
     resourceListBlockedUrlParams :=
       if !self.keepBlockedUrlParamsRecord then ∅ else self.resourceListBlockedUrlParams
     keepBlockedUrlParamsRecord := false }, [.onResourcesChanged])

def handleItemBlocked (self : WhaleShieldsDataController) (blockType : BlockType)
    (subresource : Text) : WhaleShieldsDataController × List ShieldsEffect :=
  let recorded :=
    match blockType with
    | .ads =>
        { self with resourceListBlockedAds := self.resourceListBlockedAds.insert subresource }
    | .trackers =>
        { self with
          resourceListBlockedTrackers := self.resourceListBlockedTrackers.insert subresource }
    | .urlParams => self
  (recorded, [.onResourcesChanged])

def handleURLParamsBlocked (self : WhaleShieldsDataController) (params : List Text) :
    WhaleShieldsDataController × List ShieldsEffect :=
  ({ self with
      resourceListBlockedUrlParams :=
        params.foldl (fun listed param => listed.insert param)
          self.resourceListBlockedUrlParams
      keepBlockedUrlParamsRecord := true }, [.onResourcesChanged])

def didFinishNavigation (self : WhaleShieldsDataController)
    (navigationHandle : NavigationHandle) :
    WhaleShieldsDataController × List ShieldsEffect :=
  if navigationHandle.isInMainFrame && navigationHandle.hasCommitted &&
      !navigationHandle.isSameDocument then
    self.clearAllResourcesList
  else (self, [])

def getTotalBlockedCount (self : WhaleShieldsDataController) : Nat :=
  self.resourceListBlockedAds.size + self.resourceListBlockedTrackers.size +
    self.resourceListBlockedUrlParams.size

def getBlockedTrackersCount (self : WhaleShieldsDataController) : Nat :=
  self.resourceListBlockedTrackers.size + self.resourceListBlockedUrlParams.size

def getBlockedAdsCount (self : WhaleShieldsDataController) : Nat :=
  self.resourceListBlockedAds.size

def getBlockedAdsList (self : WhaleShieldsDataController) : List Text :=
  self.resourceListBlockedAds.toList

def getBlockedTrackersList (self : WhaleShieldsDataController) : List Text :=
  self.resourceListBlockedTrackers.toList ++ self.resourceListBlockedUrlParams.toList

def receive (self : WhaleShieldsDataController) :
    ShieldsEvent → WhaleShieldsDataController × List ShieldsEffect
  | .handleItemBlocked blockType subresource =>
      self.handleItemBlocked blockType subresource
  | .handleURLParamsBlocked params => self.handleURLParamsBlocked params
  | .didFinishNavigation navigationHandle => self.didFinishNavigation navigationHandle

end WhaleShieldsDataController

def shieldsMachine : EventMachine WhaleShieldsDataController ShieldsEvent ShieldsEffect :=
  { step := fun self event => some (self.receive event) }

/-! ### The pages of a run -/

def ShieldsEvent.isPageCommit : ShieldsEvent → Bool
  | .didFinishNavigation navigationHandle =>
      navigationHandle.isInMainFrame && navigationHandle.hasCommitted &&
        !navigationHandle.isSameDocument
  | _ => false

/-- The events since the last page commit and those of the pages before it, the
newest page first. -/
structure PageHistory where
  current : List ShieldsEvent
  earlier : List (List ShieldsEvent)
  deriving DecidableEq, Repr

namespace PageHistory

def record (history : PageHistory) (event : ShieldsEvent) : PageHistory :=
  if event.isPageCommit then
    { current := [], earlier := history.current :: history.earlier }
  else { history with current := history.current ++ [event] }

def ofEvents (events : List ShieldsEvent) : PageHistory :=
  events.foldl record { current := [], earlier := [] }

theorem ofEvents_snoc (events : List ShieldsEvent) (event : ShieldsEvent) :
    ofEvents (events ++ [event]) = (ofEvents events).record event := by
  rw [ofEvents, List.foldl_append]
  rfl

/-- The names that a page passed to `HandleURLParamsBlocked`. -/
def namesIn (page : List ShieldsEvent) : List Text :=
  page.flatMap fun event =>
    match event with
    | .handleURLParamsBlocked params => params
    | _ => []

def blocksParams (page : List ShieldsEvent) : Bool :=
  page.any fun event =>
    match event with
    | .handleURLParamsBlocked _ => true
    | _ => false

/-- The pages right before the current one up to the first without a call. -/
def streak (history : PageHistory) : List (List ShieldsEvent) :=
  history.earlier.takeWhile blocksParams

theorem namesIn_snoc (page : List ShieldsEvent) (event : ShieldsEvent) :
    namesIn (page ++ [event]) = namesIn page ++ namesIn [event] := by
  unfold namesIn
  rw [List.flatMap_append]

theorem blocksParams_snoc (page : List ShieldsEvent) (event : ShieldsEvent) :
    blocksParams (page ++ [event]) = (blocksParams page || blocksParams [event]) := by
  unfold blocksParams
  rw [List.any_append]

theorem namesIn_eq_nil {page : List ShieldsEvent} (none : blocksParams page = false) :
    namesIn page = [] := by
  rw [namesIn, List.flatMap_eq_nil_iff]
  intro event member
  have absent := List.any_eq_false.mp none event member
  cases event with
  | handleURLParamsBlocked params => simp at absent
  | _ => rfl

end PageHistory

/-! ### What the list holds after any run -/

open PageHistory

theorem mem_foldl_insert (params : List Text) (listed : TextSet) (name : Text) :
    name ∈ params.foldl (fun listed param => listed.insert param) listed ↔
      name ∈ params ∨ name ∈ listed := by
  induction params generalizing listed with
  | nil => simp
  | cons param rest ih =>
      rw [List.foldl_cons, ih, Std.TreeSet.mem_insert, Std.LawfulEqCmp.compare_eq_iff_eq,
        List.mem_cons]
      constructor
      · rintro (inRest | rfl | before)
        · exact Or.inl (Or.inr inRest)
        · exact Or.inl (Or.inl rfl)
        · exact Or.inr before
      · rintro ((rfl | inRest) | before)
        · exact Or.inr (Or.inl rfl)
        · exact Or.inl inRest
        · exact Or.inr (Or.inr before)

namespace WhaleShieldsDataController

/-- The parameter list holds the names of the current page and of the streak before
it, and the flag tells whether the current page is going to extend that streak. -/
structure Lists (state : WhaleShieldsDataController) (history : PageHistory) : Prop where
  names : ∀ name, name ∈ state.resourceListBlockedUrlParams ↔
    name ∈ namesIn history.current ∨ ∃ page ∈ history.streak, name ∈ namesIn page
  keeps : state.keepBlockedUrlParamsRecord = blocksParams history.current

theorem lists_new : new.Lists (PageHistory.ofEvents []) := by
  refine ⟨?_, rfl⟩
  intro name
  simp [new, PageHistory.ofEvents, namesIn, PageHistory.streak]

/-- An event that neither strips parameters nor commits a page changes nothing here. -/
theorem Lists.of_unrelated {self after : WhaleShieldsDataController} {history : PageHistory}
    (listed : self.Lists history) {event : ShieldsEvent}
    (samePage : event.isPageCommit = false) (silent : blocksParams [event] = false)
    (sameList : after.resourceListBlockedUrlParams = self.resourceListBlockedUrlParams)
    (sameFlag : after.keepBlockedUrlParamsRecord = self.keepBlockedUrlParamsRecord) :
    after.Lists (history.record event) := by
  have recorded : history.record event =
      { history with current := history.current ++ [event] } := by
    rw [PageHistory.record, samePage]
    rfl
  rw [recorded]
  refine ⟨?_, ?_⟩
  · intro name
    rw [sameList, namesIn_snoc, namesIn_eq_nil silent, List.append_nil]
    exact listed.names name
  · rw [sameFlag, blocksParams_snoc, silent, Bool.or_false]
    exact listed.keeps

theorem Lists.handleURLParamsBlocked {self : WhaleShieldsDataController}
    {history : PageHistory} (listed : self.Lists history) (params : List Text) :
    (self.handleURLParamsBlocked params).1.Lists
      (history.record (.handleURLParamsBlocked params)) := by
  refine ⟨?_, ?_⟩
  · intro name
    have before := listed.names name
    have recorded : namesIn [ShieldsEvent.handleURLParamsBlocked params] = params := by
      simp [namesIn]
    change name ∈ params.foldl _ self.resourceListBlockedUrlParams ↔
      name ∈ namesIn (history.current ++ [_]) ∨ ∃ page ∈ history.streak, name ∈ namesIn page
    rw [mem_foldl_insert, before, namesIn_snoc, recorded, List.mem_append, or_left_comm,
      or_assoc]
  · change true = blocksParams (history.current ++ [_])
    rw [blocksParams_snoc]
    simp [blocksParams]

/-- A page commit clears the list, or else the page joins the streak. -/
theorem Lists.clearAllResourcesList {self : WhaleShieldsDataController}
    {history : PageHistory} (listed : self.Lists history) :
    self.clearAllResourcesList.1.Lists
      { current := [], earlier := history.current :: history.earlier } := by
  refine ⟨?_, rfl⟩
  intro name
  have flag := listed.keeps
  unfold WhaleShieldsDataController.clearAllResourcesList PageHistory.streak
  cases blocks : blocksParams history.current with
  | false =>
      rw [blocks] at flag
      simp [flag, namesIn, blocks]
  | true =>
      rw [blocks] at flag
      have before := listed.names name
      simp only [flag, Bool.not_true, Bool.false_eq_true, if_false, List.takeWhile_cons,
        blocks, if_true, List.exists_mem_cons_iff]
      rw [before]
      simp [namesIn, PageHistory.streak]

theorem Lists.receive {self : WhaleShieldsDataController} {history : PageHistory}
    (listed : self.Lists history) (event : ShieldsEvent) :
    (self.receive event).1.Lists (history.record event) := by
  cases event with
  | handleItemBlocked blockType subresource =>
      cases blockType <;> exact listed.of_unrelated rfl rfl rfl rfl
  | handleURLParamsBlocked params => exact listed.handleURLParamsBlocked params
  | didFinishNavigation navigationHandle =>
      cases commits :
          ShieldsEvent.isPageCommit (.didFinishNavigation navigationHandle) with
      | false =>
          have ignored : self.receive (.didFinishNavigation navigationHandle) = (self, []) := by
            exact if_neg (by rw [← ShieldsEvent.isPageCommit, commits]; exact Bool.false_ne_true)
          rw [ignored]
          exact listed.of_unrelated commits rfl rfl rfl
      | true =>
          have cleared : self.receive (.didFinishNavigation navigationHandle) =
              self.clearAllResourcesList := by
            exact if_pos commits
          have recorded : history.record (.didFinishNavigation navigationHandle) =
              { current := [], earlier := history.current :: history.earlier } := by
            rw [PageHistory.record, if_pos commits]
          rw [cleared, recorded]
          exact listed.clearAllResourcesList

end WhaleShieldsDataController

open EventMachine

theorem lists_of_run {events : List ShieldsEvent} {outputs : List ShieldsEffect}
    {final : WhaleShieldsDataController}
    (run : shieldsMachine.Run anyStep .new events outputs final) :
    final.Lists (ofEvents events) := by
  refine run.historyInvariant (fun events _outputs state => state.Lists (ofEvents events))
    WhaleShieldsDataController.lists_new ?_
  intro events _ before event after _ _ listed _ taken
  rw [ofEvents_snoc]
  have same : before.receive event = (after, _) := Option.some.inj taken
  have next := listed.receive event
  rw [same] at next
  exact next

/-- Right after a page commit the list holds only names of the page that ended
exactly when that page stripped nothing or stripped again every name of the streak
before it. -/
theorem urlParams_ofCurrentPage_iff (events : List ShieldsEvent) (commit : ShieldsEvent)
    (isCommit : commit.isPageCommit = true) (outputs : List ShieldsEffect)
    (final : WhaleShieldsDataController)
    (run : shieldsMachine.Run anyStep .new (events ++ [commit]) outputs final) :
    (∀ name ∈ final.resourceListBlockedUrlParams,
      name ∈ namesIn (ofEvents events).current) ↔
      blocksParams (ofEvents events).current = false ∨
        ∀ page ∈ (ofEvents events).streak, ∀ name ∈ namesIn page,
          name ∈ namesIn (ofEvents events).current := by
  have listed := (lists_of_run run).names
  rw [ofEvents_snoc, PageHistory.record, if_pos isCommit] at listed
  cases blocks : blocksParams (ofEvents events).current with
  | false =>
      have blank : ∀ name, name ∉ final.resourceListBlockedUrlParams := by
        intro name
        rw [listed]
        simp [namesIn, PageHistory.streak, blocks]
      simp [blank]
  | true =>
      have held : ∀ name, name ∈ final.resourceListBlockedUrlParams ↔
          name ∈ namesIn (ofEvents events).current ∨
            ∃ page ∈ (ofEvents events).streak, name ∈ namesIn page := by
        intro name
        rw [listed]
        simp [namesIn, PageHistory.streak, blocks]
      simp only [held, Bool.true_eq_false, false_or]
      constructor
      · intro only page inStreak name named
        exact only name (Or.inr ⟨page, inStreak, named⟩)
      · rintro again name (here | ⟨page, inStreak, named⟩)
        · exact here
        · exact again page inStreak name named

def afterEvents (events : List ShieldsEvent) (start : WhaleShieldsDataController) :
    WhaleShieldsDataController :=
  events.foldl (fun state event => (state.receive event).1) start

/-- Every list of events is the list of some run. -/
theorem run_afterEvents (events : List ShieldsEvent) (start : WhaleShieldsDataController) :
    ∃ outputs, shieldsMachine.Run anyStep start events outputs (afterEvents events start) := by
  induction events generalizing start with
  | nil => exact ⟨[], Run.nil⟩
  | cons event rest ih =>
      obtain ⟨outputs, later⟩ := ih (start.receive event).1
      have first : shieldsMachine.Run anyStep start [event] (start.receive event).2
          (start.receive event).1 := Run.snoc Run.nil trivial rfl
      exact ⟨_, first.append later⟩

namespace BlockedResourcesExample

def commit : ShieldsEvent :=
  .didFinishNavigation { isInMainFrame := true, hasCommitted := true, isSameDocument := false }

def firstName : Text := "fbclid".toList

def firstPage : List ShieldsEvent :=
  [.handleURLParamsBlocked [firstName]]

def secondPage : List ShieldsEvent :=
  [.handleURLParamsBlocked ["gclid".toList]]

/-- The page that strips nothing ends a streak.  The last page strips the name of the page
before it again. -/
def severalPages : List ShieldsEvent :=
  secondPage ++ [commit, commit] ++ firstPage ++ [commit] ++
    [.handleURLParamsBlocked ["msclkid".toList, firstName]]

end BlockedResourcesExample

open BlockedResourcesExample in
theorem urlParams_ofCurrentPage_example :
    (ofEvents severalPages).streak = [firstPage] ∧
      firstName ∈ (afterEvents (severalPages ++ [commit]) .new).resourceListBlockedUrlParams ∧
      ∀ name ∈ (afterEvents (severalPages ++ [commit]) .new).resourceListBlockedUrlParams,
        name ∈ namesIn (ofEvents severalPages).current := by
  obtain ⟨_, run⟩ := run_afterEvents (severalPages ++ [commit]) .new
  exact ⟨rfl, by decide, (urlParams_ofCurrentPage_iff severalPages commit (by decide) _ _ run).mpr
    (Or.inr (by decide))⟩

open BlockedResourcesExample in
/-- Of two navigations that each strip one name, the second keeps the name of the
first. -/
theorem urlParams_ofEarlierPage :
    (∃ outputs, shieldsMachine.Run anyStep .new
      (firstPage ++ [commit] ++ secondPage ++ [commit]) outputs
      (afterEvents (firstPage ++ [commit] ++ secondPage ++ [commit]) .new)) ∧
      commit.isPageCommit = true ∧
      firstName ∈ (afterEvents (firstPage ++ [commit] ++ secondPage ++ [commit])
        .new).resourceListBlockedUrlParams ∧
      firstName ∉ namesIn (ofEvents (firstPage ++ [commit] ++ secondPage)).current :=
  ⟨run_afterEvents _ _, by decide, by decide, by decide⟩

end Whale
