import CtrlRecovery.Market.Allocator
import CtrlRecovery.Db.Sample

/-!
# The lift over the synthetic holdout

`evaluateSyntheticHoldoutLift` compares how often the opportunities of two groups recover, before
and after a time. Which group an opportunity was in is decided when it is allocated, by its id; the
evaluation takes it from the status, which the recovery of the opportunity overwrites.

The groups are those of the assignment exactly for lists of opportunities whose statuses still show
it (`countsByAssignment_iff`). The statistics that are computed from the four counts are left out.
-/

namespace CtrlRecovery

open OpportunityStatus

namespace CausalAttributionEngine

/-- How many opportunities there are in a group, and how many of them have recovered. -/
structure GroupCount where
  recovered : ℕ
  total : ℕ
  deriving DecidableEq, Repr

structure DiffInDiffInput where
  treatedPre : GroupCount
  treatedPost : GroupCount
  controlPre : GroupCount
  controlPost : GroupCount
  deriving DecidableEq, Repr

def GroupCount.count (group : GroupCount) (isRecovered : Bool) : GroupCount where
  recovered := if isRecovered then group.recovered + 1 else group.recovered
  total := group.total + 1

namespace DiffInDiffInput

def empty : DiffInDiffInput := ⟨⟨0, 0⟩, ⟨0, 0⟩, ⟨0, 0⟩, ⟨0, 0⟩⟩

/-- One more opportunity in the control group, or in the treated one. -/
def count (input : DiffInDiffInput) (isControl isPost isRecovered : Bool) : DiffInDiffInput :=
  match isControl, isPost with
  | false, true  => { input with treatedPost := input.treatedPost.count isRecovered }
  | false, false => { input with treatedPre := input.treatedPre.count isRecovered }
  | true, true   => { input with controlPost := input.controlPost.count isRecovered }
  | true, false  => { input with controlPre := input.controlPre.count isRecovered }

def totals (input : DiffInDiffInput) : List ℕ :=
  [input.treatedPre.total, input.treatedPost.total, input.controlPre.total, input.controlPost.total]

end DiffInDiffInput

/-! ### The evaluation -/

def isTreated (status : OpportunityStatus) : Bool :=
  status == executing || status == recovered || status == allocated || status == authorized

def isControl (status : OpportunityStatus) : Bool := status == abstained || status == blocked

/-- A cutoff that is not a time compares as false. -/
def isPost (cutoff : Option Timestamp) (opp : RecoveryOpportunity) : Bool :=
  cutoff.any fun cutoff => cutoff ≤ opp.createdAt

def isRecovered (opp : RecoveryOpportunity) : Bool := opp.status == recovered

/-- The body of the loop over the opportunities. -/
def countOpportunity (cutoff : Option Timestamp) (input : DiffInDiffInput)
    (opp : RecoveryOpportunity) : DiffInDiffInput :=
  if isTreated opp.status then input.count false (isPost cutoff opp) (isRecovered opp)
  else if isControl opp.status then input.count true (isPost cutoff opp) (isRecovered opp)
  else input

/-- What `evaluateSyntheticHoldoutLift` computes the lift from. -/
def syntheticHoldoutGroups (opportunities : List RecoveryOpportunity)
    (cutoff : Option Timestamp) : DiffInDiffInput :=
  opportunities.foldl (countOpportunity cutoff) .empty

/-! ### The groups of the assignment -/

/-- One more opportunity in the group that its id assigns it to. -/
def countAssigned (cutoff : Option Timestamp) (input : DiffInDiffInput)
    (opp : RecoveryOpportunity) : DiffInDiffInput :=
  input.count (AntiBlastEngine.isSyntheticHoldout opp.id) (isPost cutoff opp) (isRecovered opp)

def assignedGroups (opportunities : List RecoveryOpportunity) (cutoff : Option Timestamp) :
    DiffInDiffInput :=
  opportunities.foldl (countAssigned cutoff) .empty

/-- Each opportunity is counted in the group of its assignment: any part of the list makes up the
groups that the assignments make up. -/
def CountsByAssignment (opportunities : List RecoveryOpportunity) (cutoff : Option Timestamp) :
    Prop :=
  ∀ part : List RecoveryOpportunity, part.Sublist opportunities →
    syntheticHoldoutGroups part cutoff = assignedGroups part cutoff

/-- The status shows the assignment: an opportunity in the holdout was not acted on and has not
recovered, and any other is on its way to a recovery or has recovered. -/
def ShowsAssignment (opp : RecoveryOpportunity) : Prop :=
  if AntiBlastEngine.isSyntheticHoldout opp.id then isControl opp.status else isTreated opp.status

/-- The same opportunities, except that some have ended up recovered in only one of the lists. -/
def DifferInRecovery : List RecoveryOpportunity → List RecoveryOpportunity → Prop :=
  List.Forall₂ fun opp opp' =>
    opp' = opp.withStatus opp'.status ∧
      (opp.status ≠ opp'.status → opp.status = recovered ∨ opp'.status = recovered)

section Groups

variable {opp : RecoveryOpportunity} {opportunities opportunities' : List RecoveryOpportunity}
  {cutoff : Option Timestamp} {input input' : DiffInDiffInput}

lemma isControl_of_isTreated {status : OpportunityStatus} (h : isTreated status) :
    isControl status = false := by
  cases status <;> first | rfl | cases h

lemma count_empty_injective : ∀ a b post rec,
    DiffInDiffInput.empty.count a post rec = DiffInDiffInput.empty.count b post rec → a = b := by
  decide

lemma count_empty_ne : ∀ a post rec,
    DiffInDiffInput.empty ≠ DiffInDiffInput.empty.count a post rec := by
  decide

lemma countOpportunity_eq (h : ShowsAssignment opp) :
    countOpportunity cutoff input opp = countAssigned cutoff input opp := by
  rw [ShowsAssignment] at h
  split_ifs at h with hholdout
  · have htreated : isTreated opp.status = false :=
      Bool.eq_false_iff.mpr fun ht => by simp [isControl_of_isTreated ht] at h
    simp [countOpportunity, countAssigned, hholdout, h, htreated]
  · simp [countOpportunity, countAssigned, hholdout, h]

lemma showsAssignment_of_count
    (h : countOpportunity cutoff .empty opp = countAssigned cutoff .empty opp) :
    ShowsAssignment opp := by
  simp only [countOpportunity, countAssigned] at h
  split_ifs at h with htreated hcontrol
  · simp [ShowsAssignment, ← count_empty_injective _ _ _ _ h, htreated]
  · simp [ShowsAssignment, ← count_empty_injective _ _ _ _ h, hcontrol]
  · exact absurd h (count_empty_ne _ _ _)

lemma foldl_countOpportunity (h : ∀ opp ∈ opportunities, ShowsAssignment opp) :
    opportunities.foldl (countOpportunity cutoff) input =
      opportunities.foldl (countAssigned cutoff) input := by
  induction opportunities generalizing input with
  | nil => rfl
  | cons opp rest ih =>
    rw [List.foldl_cons, List.foldl_cons, countOpportunity_eq (h opp List.mem_cons_self)]
    exact ih fun opp hopp => h opp (List.mem_cons_of_mem _ hopp)

lemma totals_count_congr (control post rec rec' : Bool) (h : input.totals = input'.totals) :
    (input.count control post rec).totals = (input'.count control post rec').totals := by
  simp only [DiffInDiffInput.totals, List.cons.injEq] at h ⊢
  obtain ⟨h₁, h₂, h₃, h₄, -⟩ := h
  cases control <;> cases post <;> simp [DiffInDiffInput.count, GroupCount.count, *]

lemma totals_foldl_countAssigned (hdiffer : DifferInRecovery opportunities opportunities')
    (h : input.totals = input'.totals) :
    (opportunities.foldl (countAssigned cutoff) input).totals =
      (opportunities'.foldl (countAssigned cutoff) input').totals := by
  induction hdiffer generalizing input input' with
  | nil => exact h
  | cons hopp _ ih =>
    refine ih ?_
    rw [countAssigned, countAssigned, hopp.1]
    exact totals_count_congr _ _ _ _ h

lemma syntheticHoldoutGroups_eq (h : ∀ opp ∈ opportunities, ShowsAssignment opp) :
    syntheticHoldoutGroups opportunities cutoff = assignedGroups opportunities cutoff :=
  foldl_countOpportunity h

end Groups

/-- The opportunities are counted by their assignment if and only if each of them has a status that
shows it. Lists of such opportunities that differ only in who has recovered have groups of the same
sizes. -/
theorem countsByAssignment_iff (opportunities : List RecoveryOpportunity)
    (cutoff : Option Timestamp) :
    (CountsByAssignment opportunities cutoff ↔ ∀ opp ∈ opportunities, ShowsAssignment opp) ∧
      ∀ opportunities', DifferInRecovery opportunities opportunities' →
        (∀ opp ∈ opportunities ++ opportunities', ShowsAssignment opp) →
          (syntheticHoldoutGroups opportunities cutoff).totals =
            (syntheticHoldoutGroups opportunities' cutoff).totals := by
  refine ⟨⟨fun h opp hopp => ?_, fun h part hsub => ?_⟩, fun opportunities' hdiffer h => ?_⟩
  · exact showsAssignment_of_count (h [opp] (List.singleton_sublist.mpr hopp))
  · exact syntheticHoldoutGroups_eq fun opp hopp => h opp (hsub.subset hopp)
  · rw [List.forall_mem_append] at h
    rw [syntheticHoldoutGroups_eq h.1, syntheticHoldoutGroups_eq h.2]
    exact totals_foldl_countAssigned hdiffer rfl

/-- A holdout opportunity, with a status. -/
def heldOut (status : OpportunityStatus) : RecoveryOpportunity := sampleOpportunity "pay_38" status

/-- Where it recovers by itself, the holdout opportunity moves to the treated group: as a recovered
one there, and none in the control group. -/
theorem recovered_holdout_counted_as_treated :
    AntiBlastEngine.isSyntheticHoldout (heldOut recovered).id ∧
      syntheticHoldoutGroups [heldOut recovered] (some 500) =
        { DiffInDiffInput.empty with treatedPost := ⟨1, 1⟩ } ∧
      syntheticHoldoutGroups [heldOut abstained] (some 500) =
        { DiffInDiffInput.empty with controlPost := ⟨0, 1⟩ } ∧
      ¬ CountsByAssignment [heldOut recovered] (some 500) := by
  refine ⟨by decide +kernel, by decide +kernel, by decide +kernel, fun h => ?_⟩
  have hgroups : syntheticHoldoutGroups [heldOut recovered] (some 500) ≠
      assignedGroups [heldOut recovered] (some 500) := by decide +kernel
  exact hgroups (h _ (List.Sublist.refl _))

end CausalAttributionEngine

end CtrlRecovery
