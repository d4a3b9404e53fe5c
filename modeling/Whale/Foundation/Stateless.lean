/-
Services that keep a state and answer as though they kept none.

Under an invariant every request is answered by a fixed function of the request
alone.  A run is then a traversal of that function, whatever came before, and so is a
run over a family of services, each with a state of its own, in any order of
requests.
-/
import Mathlib.Data.List.Forall2
import Mathlib.Logic.Function.Basic

set_option autoImplicit false

namespace Whale.Foundation

universe u v

/-- One request to a service, and the state afterwards. -/
structure Service (State Request Answer : Type u) (Fault : Type v) where
  answer : State → Request → Except Fault (Answer × State)

namespace Service

variable {State Request Answer : Type u} {Fault : Type v}

/-- The answers, unless a request fails. -/
def run (service : Service State Request Answer Fault) :
    State → List Request → Except Fault (List Answer × State)
  | state, [] => pure ([], state)
  | state, request :: rest => do
      let (answer, next) ← service.answer state request
      let (answers, final) ← run service next rest
      pure (answer :: answers, final)

/-- Under `Holds`, a request that is `Asked` is answered by `plain`. -/
structure Stateless (service : Service State Request Answer Fault) (Holds : State → Prop)
    (Asked : Request → Prop) (plain : Request → Except Fault Answer) : Prop where
  answers : ∀ {state request}, Holds state → Asked request →
    (service.answer state request).map Prod.fst = plain request
  keeps : ∀ {state request answer next}, Holds state → Asked request →
    service.answer state request = .ok (answer, next) → Holds next

theorem Stateless.run {service : Service State Request Answer Fault} {Holds : State → Prop}
    {Asked : Request → Prop} {plain : Request → Except Fault Answer}
    (stateless : Stateless service Holds Asked plain) {state : State} {requests : List Request}
    (holds : Holds state) (asked : ∀ request ∈ requests, Asked request) :
    (service.run state requests).map Prod.fst = requests.mapM plain := by
  induction requests generalizing state with
  | nil => rfl
  | cons request rest ih =>
      obtain ⟨first, others⟩ := List.forall_mem_cons.mp asked
      have answered := stateless.answers holds first
      rw [List.mapM_cons, ← answered]
      unfold Service.run
      cases produced : service.answer state request with
      | error reason => rfl
      | ok pair =>
          obtain ⟨answer, next⟩ := pair
          have later := ih (stateless.keeps holds first produced) others
          change Except.map Prod.fst (service.run next rest >>= _) =
            rest.mapM plain >>= fun answers => pure (answer :: answers)
          rw [← later]
          cases service.run next rest with
          | error reason => rfl
          | ok remaining => rfl

/-! ### Families -/

section Family

variable {Index : Type u} [DecidableEq Index]

/-- One service for each index, and a request names the service that it is for. -/
def family (services : Index → Service State Request Answer Fault) :
    Service (Index → State) (Index × Request) Answer Fault :=
  { answer := fun states request => do
      let (answer, next) ← (services request.1).answer (states request.1) request.2
      pure (answer, Function.update states request.1 next) }

theorem Stateless.family {services : Index → Service State Request Answer Fault}
    {Holds : Index → State → Prop} {Asked : Index → Request → Prop}
    {plain : Index → Request → Except Fault Answer}
    (stateless : ∀ index, Stateless (services index) (Holds index) (Asked index) (plain index)) :
    Stateless (Service.family services) (fun states => ∀ index, Holds index (states index))
      (fun request => Asked request.1 request.2) (fun request => plain request.1 request.2) := by
  constructor
  · rintro states ⟨index, request⟩ holds asked
    have answered := (stateless index).answers (holds index) asked
    simp only [Service.family]
    rw [← answered]
    cases (services index).answer (states index) request with
    | error reason => rfl
    | ok pair => rfl
  · rintro states ⟨index, request⟩ answer next holds asked produced other
    simp only [Service.family] at produced
    cases served : (services index).answer (states index) request with
    | error reason =>
        rw [served] at produced
        cases produced
    | ok pair =>
        rw [served] at produced
        cases produced
        by_cases same : other = index
        · subst same
          rw [Function.update_self]
          exact (stateless other).keeps (holds other) asked served
        · rw [Function.update_of_ne same]
          exact holds other

end Family

end Service

/-! ### Traversals that end -/

section Traversal

variable {Request Answer : Type u} {Fault : Type v} {plain : Request → Except Fault Answer}

theorem forall₂_of_mapM {requests : List Request} {answers : List Answer}
    (done : requests.mapM plain = .ok answers) :
    List.Forall₂ (fun request answer => plain request = .ok answer) requests answers := by
  induction requests generalizing answers with
  | nil =>
      cases done
      exact List.Forall₂.nil
  | cons request rest ih =>
      rw [List.mapM_cons] at done
      cases first : plain request with
      | error reason =>
          rw [first] at done
          cases done
      | ok answer =>
          rw [first] at done
          cases others : rest.mapM plain with
          | error reason =>
              rw [others] at done
              cases done
          | ok remaining =>
              rw [others] at done
              cases done
              exact List.Forall₂.cons first (ih others)

theorem mapM_of_forall₂ {requests : List Request} {answers : List Answer}
    (matched : List.Forall₂ (fun request answer => plain request = .ok answer)
      requests answers) : requests.mapM plain = .ok answers := by
  induction matched with
  | nil => rfl
  | cons first _others ih =>
      rw [List.mapM_cons, first, ih]
      rfl

theorem getElem?_of_mapM {requests : List Request} {answers : List Answer}
    (done : requests.mapM plain = .ok answers) {place : Nat} {request : Request}
    (asked : requests[place]? = some request) :
    ∃ answer, answers[place]? = some answer ∧ plain request = .ok answer := by
  have matched := forall₂_of_mapM done
  obtain ⟨inside, here⟩ := List.getElem?_eq_some_iff.mp asked
  have insideAnswers : place < answers.length := by
    rw [← matched.length_eq]
    exact inside
  refine ⟨answers[place], List.getElem?_eq_getElem insideAnswers, ?_⟩
  rw [← here]
  exact matched.get inside insideAnswers

/-- In another order, the same requests are given the same answers. -/
theorem exists_mapM_of_perm {requests others : List Request} (reordered : requests.Perm others)
    {answers : List Answer} (done : requests.mapM plain = .ok answers) :
    ∃ otherAnswers, others.mapM plain = .ok otherAnswers ∧
      (requests.zip answers).Perm (others.zip otherAnswers) := by
  induction reordered generalizing answers with
  | nil => exact ⟨answers, done, List.Perm.refl _⟩
  | @cons request rest otherRest _reordered ih =>
      cases forall₂_of_mapM done with
      | @cons _ answer _ remaining first others =>
          obtain ⟨otherAnswers, otherDone, matched⟩ := ih (mapM_of_forall₂ others)
          refine ⟨answer :: otherAnswers, ?_, matched.cons (request, answer)⟩
          rw [List.mapM_cons, first, otherDone]
          rfl
  | swap second first rest =>
      cases forall₂_of_mapM done with
      | @cons _ firstAnswer _ _ firstGiven others =>
          cases others with
          | @cons _ secondAnswer _ remaining secondGiven restGiven =>
              refine ⟨secondAnswer :: firstAnswer :: remaining, ?_, List.Perm.swap _ _ _⟩
              exact mapM_of_forall₂
                (List.Forall₂.cons secondGiven (List.Forall₂.cons firstGiven restGiven))
  | trans _earlier _later ihEarlier ihLater =>
      obtain ⟨middle, middleDone, firstHalf⟩ := ihEarlier done
      obtain ⟨final, finalDone, secondHalf⟩ := ihLater middleDone
      exact ⟨final, finalDone, firstHalf.trans secondHalf⟩

end Traversal

end Whale.Foundation
