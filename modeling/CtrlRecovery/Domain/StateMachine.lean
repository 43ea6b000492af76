import CtrlRecovery.Types

/-!
# The declared lifecycle of an opportunity

`allowedTransitions` is the declared transition graph. Its stated invariants are that `recovered`
and `blocked` have no way out and that an opportunity that was never evaluated cannot jump to
execution.
-/

namespace CtrlRecovery

namespace OpportunityStateMachine

open OpportunityStatus

/-- The targets that the graph allows from a status. -/
def allowedTransitions : OpportunityStatus → List OpportunityStatus
  | pending      => [scored, allocated, blocked, abstained]
  | scored       => [allocated, scored, blocked, abstained, deferred]
  | allocated    => [authorized, deferred, blocked, abstained, executing]
  | authorized   => [executing, blocked, abstained]
  | deferred     => [allocated, scored, blocked, abstained, authorized]
  | blocked      => []
  | abstained    => [scored, allocated]
  | executing    => [recovered, notRecovered]
  | recovered    => []
  | notRecovered => [scored, allocated]

/-- Whether the transition is valid; staying in a status is an idempotent no-op. -/
def canTransition (current target : OpportunityStatus) : Bool :=
  current == target || (allowedTransitions current).contains target

/-- The target of a valid transition, or the error that the state machine throws. -/
def validateTransition (opportunityId : String) (current target : OpportunityStatus) :
    Except String OpportunityStatus :=
  if canTransition current target then .ok target
  else .error ("Illegal opportunity state transition attempted for " ++ opportunityId ++ ": '" ++
    current.text ++ "' -> '" ++ target.text ++ "'. State machine invariant violated.")

def IsEdge (before after : OpportunityStatus) : Prop := after ∈ allowedTransitions before

instance (before after : OpportunityStatus) : Decidable (IsEdge before after) :=
  inferInstanceAs (Decidable (after ∈ allowedTransitions before))

lemma canTransition_iff (current target : OpportunityStatus) :
    canTransition current target ↔ current = target ∨ IsEdge current target := by
  simp [canTransition, IsEdge]

lemma not_isEdge_of_terminal {before : OpportunityStatus} (h : before = recovered ∨ before = blocked)
    (after : OpportunityStatus) : ¬ IsEdge before after := by
  rcases h with rfl | rfl <;> simp [IsEdge, allowedTransitions]

lemma isEdge_executing_iff (before : OpportunityStatus) :
    IsEdge before executing ↔ before = allocated ∨ before = authorized := by
  cases before <;> simp [IsEdge, allowedTransitions]

lemma isEdge_recovered_iff (before : OpportunityStatus) :
    IsEdge before recovered ↔ before = executing := by
  cases before <;> simp [IsEdge, allowedTransitions]

end OpportunityStateMachine

end CtrlRecovery
