import CtrlRecovery.Execution.Idempotency

/-!
# Links that calls store

A call stores a link of its own opportunity, with a status write for it, and writes nothing else to the
rows (`sameRows_advance`). Once the dead-letter queue has taken a call over it stores no link any more
(`linking_of_advance`).
-/

namespace CtrlRecovery

open Core OpportunityStatus OpportunityRepository Scorer

namespace Executor

variable {db : Db} {id : String}

/-- The status write that comes with a record that is stored. -/
def linkWrites : Option ExecutionRecord → List (String × OpportunityStatus)
  | some record => [(record.opportunityId, executing)]
  | none        => []

section

variable {run : ExecutionRun} {client : ProviderClient} {error : ProviderError} {now : Timestamp}
  {entryId : String} {c : ExecuteCall} {answer : ExecuteAnswer}

lemma sameRows_storeLink (db : Db) (record : ExecutionRecord) :
    SameRows (db.writeStatuses (linkWrites (some record))) (storeLink db record) := by
  have hput : SameRows db (db.upsertExecutionRecord record) := ⟨rfl, rfl, rfl, rfl⟩
  exact hput.updateStatus record.opportunityId executing

lemma sameRows_fail :
    SameRows (db.writeStatuses (linkWrites
      (if run.executionEnv = .test then some (simulatedRecord run.opp now) else none)))
      (fail run error now entryId db).2 := by
  rw [fail]
  cases run.executionEnv with
  | live => exact .refl db
  | test => exact (sameRows_storeLink db (simulatedRecord run.opp now)).trans ⟨rfl, rfl, rfl, rfl⟩

lemma sameRows_creationFailed :
    SameRows (db.writeStatuses (linkWrites (if run.executionEnv = .test ∧ ¬ error.isConflict then
      some (simulatedRecord run.opp now) else none)))
      (creationFailed run client error now entryId db).2 := by
  rw [creationFailed]
  by_cases h : error.isConflict
  · simp [h, linkWrites]
  · simpa [h] using sameRows_fail

lemma sameRows_launch (breakerOpen : Bool) :
    SameRows (db.writeStatuses (linkWrites (if run.executionEnv = .test ∧ breakerOpen ∧
      ¬ (breakerOpenError run).isConflict then some (simulatedRecord run.opp now) else none)))
      (launch run client breakerOpen now entryId db).2 := by
  rw [launch]
  by_cases hceiling : run.executionEnv = .live ∧
      run.opp.amountPaise > MAX_LIVE_SINGLE_OPPORTUNITY_PAISE
  · simp [hceiling, linkWrites]
  · rw [if_neg hceiling]
    by_cases hopen : breakerOpen
    · simpa [hopen] using sameRows_creationFailed
    · simp [hopen, linkWrites]

lemma sameRows_clientResolved (client : Except String ProviderClient) (breakerOpen : Bool) :
    SameRows (db.writeStatuses (linkWrites (if run.executionEnv = .test ∧ breakerOpen ∧
      ¬ (breakerOpenError run).isConflict then some (simulatedRecord run.opp now) else none)))
      (clientResolved run client breakerOpen now entryId db).2 := by
  cases client with
  | ok client => exact sameRows_launch breakerOpen
  | error message =>
    rw [clientResolved]
    by_cases hlive : run.executionEnv = .live
    · simp [hlive, linkWrites]
    · rw [if_neg hlive]
      exact sameRows_launch breakerOpen

lemma sameRows_attempted (attempt : ℕ) :
    SameRows (db.writeStatuses (linkWrites (if run.executionEnv = .test ∧
      (attempt ≥ maxRetries ∨ error.isFinal) ∧ ¬ error.isConflict then
        some (simulatedRecord run.opp now) else none)))
      (attempted run client attempt (.error error) now entryId db).2 := by
  rw [attempted]
  by_cases hlast : attempt ≥ maxRetries ∨ error.isFinal
  · simpa [hlast] using sameRows_creationFailed
  · simp [hlast, linkWrites]

/-- The rows after an answer, unless it is the veto of the dead-letter queue. -/
theorem sameRows_advance {p : ExecuteCall × Db} (h : advance answer now entryId db c = some p)
    (hcounted : ∀ failure, c ≠ .counted failure) :
    SameRows (db.writeStatuses (linkWrites (storedRecord c answer now))) p.2 := by
  cases advances_of_advance h with
  | resolvingClient run client breakerOpen =>
    have hstored : storedRecord (.resolvingClient run) (.client client breakerOpen) now =
        if run.executionEnv = .test ∧ breakerOpen ∧ ¬ (breakerOpenError run).isConflict then
          some (simulatedRecord run.opp now) else none := by
      rw [storedRecord, fallback]
      split_ifs <;> rfl
    rw [hstored]
    exact sameRows_clientResolved client breakerOpen
  | creating run client attempt response =>
    cases response with
    | ok link => exact (sameRows_storeLink db _).trans ⟨rfl, rfl, rfl, rfl⟩
    | error error =>
      have hstored : storedRecord (.creating run client attempt) (.attempt (.error error)) now =
          if run.executionEnv = .test ∧ (attempt ≥ maxRetries ∨ error.isFinal) ∧
            ¬ error.isConflict then some (simulatedRecord run.opp now) else none := by
        rw [storedRecord, fallback]
        split_ifs <;> rfl
      rw [hstored]
      exact sameRows_attempted attempt
  | lookingUp run client error link =>
    cases link with
    | some link => exact sameRows_storeLink db _
    | none =>
      have hstored : storedRecord (.lookingUp run client error) (.lookup none) now =
          if run.executionEnv = .test then some (simulatedRecord run.opp now) else none := by
        rw [storedRecord, fallback]
        split_ifs <;> rfl
      rw [hstored]
      exact sameRows_fail
  | counted failure => exact absurd rfl (hcounted failure)
  | failing => exact .refl db
  | inserting => exact ⟨rfl, rfl, rfl, rfl⟩

end

/-! ### The opportunity of a link -/

def linking : ExecuteCall → Option String
  | .resolvingClient run | .creating run _ _ | .lookingUp run _ _ => some run.opp.id
  | _ => none

lemma subject_of_linking {c : ExecuteCall} (h : linking c = some id) : subject c = some id := by
  cases c with
  | resolvingClient run | creating run client attempt | lookingUp run client error => exact h
  | _ => cases h

/-- A call goes on to store a link for the opportunity that it could store one for before. -/
lemma linking_of_advance {answer : ExecuteAnswer} {now : Timestamp} {entryId : String}
    {c : ExecuteCall} {p : ExecuteCall × Db} (h : advance answer now entryId db c = some p)
    (hnext : linking p.1 = some id) : linking c = some id := by
  have hsubject : subject c = some id := by
    obtain ⟨j, hj, hnone | hsame, -⟩ := advance_rows h
    · rw [subject_of_linking hnext] at hnone
      cases hnone
    · rw [hj, ← hsame, subject_of_linking hnext]
  cases c with
  | resolvingClient run | creating run client attempt | lookingUp run client error => exact hsubject
  | finished result => cases h
  -- what the dead-letter queue does next is not to store a link
  | failing opportunityId error | counted failure | inserting failure =>
    cases answer <;> cases h
    cases hnext

lemma linking_start {ks : KillSwitches} {est : Estimator} {now : Timestamp} {j : String}
    (h : linking (start ks est now db j).1 = some id) : (db.getOpportunityById id).isSome := by
  cases hrow : db.getOpportunityById j with
  | none =>
    rw [start_of_none hrow] at h
    cases h
  | some opp =>
    by_cases hid : id = j
    · rw [hid, hrow, Option.isSome_some]
    · have hsubject := (start_getOpportunityById_of_ne ks est now db hid).2
      exact absurd (subject_of_linking h) hsubject

/-- A call stores records of its own opportunity only. -/
lemma linking_of_storedRecord {c : ExecuteCall} {answer : ExecuteAnswer} {now : Timestamp}
    {record : ExecutionRecord} (h : storedRecord c answer now = some record) :
    linking c = some record.opportunityId := by
  rw [storedRecord] at h
  cases c with
  | resolvingClient run =>
    cases answer <;> simp only [fallback, suppliedLink] at h <;> try cases h
    split_ifs at h <;> cases h
    rfl
  | creating run client attempt =>
    cases answer with
    | attempt response =>
      cases response with
      | ok link => cases h; rfl
      | error error =>
        simp only [fallback, suppliedLink] at h
        split_ifs at h <;> cases h
        rfl
    | _ => cases h
  | lookingUp run client error =>
    cases answer with
    | lookup link =>
      cases link with
      | some link => cases h; rfl
      | none =>
        simp only [fallback, suppliedLink] at h
        split_ifs at h <;> cases h
        rfl
    | _ => cases h
  | _ => cases h

end Executor

end CtrlRecovery
