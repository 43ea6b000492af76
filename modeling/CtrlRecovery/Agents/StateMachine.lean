import Mathlib.Data.List.Basic

/-!
# The states of an agent run

`AgentStateMachine.transition` moves to a state that the table `VALID_STATE_TRANSITIONS` allows from
the current one and persists it; a request that the table does not allow is refused and leaves the
machine where it is.
-/

namespace CtrlRecovery

inductive AgentState
  | idle | triggered | observe | investigate | diagnose | hypothesize | plan | validatePlan
  | propose | waitAuthority | execute | wait | wake | observeOutcome | planInvalidated | replan
  | learn | memoryUpdate | complete | aborted | humanReview
  deriving DecidableEq, Repr

open AgentState

def VALID_STATE_TRANSITIONS : AgentState → List AgentState
  | idle            => [triggered]
  | triggered       => [observe, aborted]
  | observe         => [investigate, diagnose, planInvalidated, aborted]
  | investigate     => [diagnose, observe, humanReview, aborted]
  | diagnose        => [hypothesize, humanReview, aborted]
  | hypothesize     => [plan, observe, humanReview, aborted]
  | plan            => [validatePlan, humanReview, aborted]
  | validatePlan    => [propose, planInvalidated, replan, aborted]
  | propose         => [waitAuthority, humanReview, aborted]
  | waitAuthority   => [execute, wait, aborted, humanReview]
  | execute         => [wait, observeOutcome, aborted]
  | wait            => [wake, aborted]
  | wake            => [observe, observeOutcome, planInvalidated, replan, aborted]
  | observeOutcome  => [learn, planInvalidated, complete, aborted]
  | planInvalidated => [replan, aborted, humanReview]
  | replan          => [plan, aborted, humanReview]
  | learn           => [memoryUpdate, complete, aborted]
  | memoryUpdate    => [complete, aborted]
  | complete        => []
  | aborted         => []
  | humanReview     => [observe, plan, execute, aborted, complete]

/-- The machine of a run with the states that it has persisted, latest first. -/
structure AgentStateMachine where
  currentState : AgentState
  persisted : List AgentState
  deriving DecidableEq, Repr

namespace AgentStateMachine

def new : AgentStateMachine := ⟨idle, []⟩

def canTransitionTo (machine : AgentStateMachine) (nextState : AgentState) : Bool :=
  (VALID_STATE_TRANSITIONS machine.currentState).contains nextState

def transition (machine : AgentStateMachine) (nextState : AgentState) : AgentStateMachine :=
  if machine.canTransitionTo nextState then ⟨nextState, nextState :: machine.persisted⟩ else machine

variable {machine : AgentStateMachine} {nextState : AgentState}

@[simp] lemma transition_of_allowed (h : machine.canTransitionTo nextState) :
    machine.transition nextState = ⟨nextState, nextState :: machine.persisted⟩ := if_pos h

@[simp] lemma transition_of_refused (h : machine.canTransitionTo nextState = false) :
    machine.transition nextState = machine := by
  simp [transition, h]

end AgentStateMachine

end CtrlRecovery
