/-
Services that answer alike.

Two services are asked matched requests, one by one.  As long as their states stay
related and each pair of requests is answered alike, or fails alike, so are the two runs.
Families of such services answer alike too.
-/
import Whale.Foundation.Stateless

set_option autoImplicit false

namespace Whale.Foundation

universe u v

namespace Service

variable {State State' Request Request' Answer : Type u} {Fault : Type v}

/-- Both fail for one reason, or both give one answer and stay related. -/
inductive AnsweredAlike (Related : State → State' → Prop) :
    Except Fault (Answer × State) → Except Fault (Answer × State') → Prop
  | failed (reason : Fault) : AnsweredAlike Related (.error reason) (.error reason)
  | answered (answer : Answer) {next : State} {next' : State'} (related : Related next next') :
      AnsweredAlike Related (.ok (answer, next)) (.ok (answer, next'))

structure InStep (service : Service State Request Answer Fault)
    (other : Service State' Request' Answer Fault) (Related : State → State' → Prop)
    (Matched : Request → Request' → Prop) : Prop where
  step : ∀ {state state' request request'}, Related state state' → Matched request request' →
    AnsweredAlike Related (service.answer state request) (other.answer state' request')

/-- The answers of a run after its first request. -/
theorem answers_cons (answer : Answer) (remaining : Except Fault (List Answer × State)) :
    (remaining >>= fun (answers, final) => pure (answer :: answers, final)).map Prod.fst =
      (remaining.map Prod.fst).map (List.cons answer) := by
  cases remaining with
  | error reason => rfl
  | ok pair => rfl

theorem InStep.run {service : Service State Request Answer Fault}
    {other : Service State' Request' Answer Fault} {Related : State → State' → Prop}
    {Matched : Request → Request' → Prop} (inStep : InStep service other Related Matched)
    {state : State} {state' : State'} (related : Related state state')
    {requests : List Request} {requests' : List Request'}
    (matched : List.Forall₂ Matched requests requests') :
    (service.run state requests).map Prod.fst = (other.run state' requests').map Prod.fst := by
  induction matched generalizing state state' with
  | nil => rfl
  | @cons request request' rest rest' first _others ih =>
      have alike := inStep.step related first
      unfold Service.run
      generalize service.answer state request = given at alike ⊢
      generalize other.answer state' request' = otherGiven at alike ⊢
      cases alike with
      | failed reason => rfl
      | answered answer still =>
          refine (answers_cons answer _).trans (Eq.trans ?_ (answers_cons answer _).symm)
          rw [ih still]

/-- Services of one index answer alike, so the families do. -/
theorem InStep.family {Index : Type u} [DecidableEq Index]
    {services : Index → Service State Request Answer Fault}
    {others : Index → Service State' Request' Answer Fault}
    {Related : Index → State → State' → Prop} {Matched : Request → Request' → Prop}
    (inStep : ∀ index, InStep (services index) (others index) (Related index) Matched) :
    InStep (Service.family services) (Service.family others)
      (fun states states' => ∀ index, Related index (states index) (states' index))
      (fun request request' => request.1 = request'.1 ∧ Matched request.2 request'.2) := by
  constructor
  rintro states states' ⟨index, request⟩ ⟨_, request'⟩ related ⟨rfl, matched⟩
  have alike := (inStep index).step (related index) matched
  simp only [Service.family]
  generalize (services index).answer (states index) request = given at alike ⊢
  generalize (others index).answer (states' index) request' = otherGiven at alike ⊢
  cases alike with
  | failed reason => exact .failed reason
  | answered answer still =>
      refine .answered answer fun other => ?_
      by_cases same : other = index
      · subst same
        rw [Function.update_self, Function.update_self]
        exact still
      · rw [Function.update_of_ne same, Function.update_of_ne same]
        exact related other

end Service

end Whale.Foundation
