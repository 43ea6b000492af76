import CtrlRecovery.Economics.BanditPolicy
import CtrlRecovery.Economics.Calibration

/-!
# Evidence is neither lost nor counted twice

The calibrator and the bandit learn by adding outcomes to the parameters of Beta distributions. A
posterior does not depend on how its observations were split into batches, and an arm of the bandit
holds exactly the outcomes of its own calls, however the calls for different tenants and contexts
follow one another (`evidence_conserved`).
-/

namespace CtrlRecovery

open Core

namespace BayesianProbabilityCalibrator

/-- The parameters after a batch of observations, from those that the last batch left. -/
def updateBatch (prior : ℚ × ℚ) (batch : List Bool) : ℚ × ℚ :=
  let post := computeBetaPosterior prior.1 prior.2 (batch.count true) batch.length
  (post.alpha, post.beta)

variable {prior : ℚ × ℚ} {batch batch' : List Bool}

lemma updateBatch_perm (h : batch.Perm batch') : updateBatch prior batch = updateBatch prior batch' := by
  rw [updateBatch, updateBatch, h.count_eq, h.length_eq]

lemma updateBatch_append :
    updateBatch prior (batch ++ batch') = updateBatch (updateBatch prior batch) batch' := by
  simp only [updateBatch, computeBetaPosterior, List.count_append, List.length_append, Nat.cast_add,
    Prod.mk.injEq]
  constructor
  · ring
  · ring

lemma foldl_updateBatch (batches : List (List Bool)) :
    batches.foldl updateBatch prior = updateBatch prior batches.flatten := by
  induction batches generalizing prior with
  | nil => simp [updateBatch, computeBetaPosterior]
  | cons batch batches ih => rw [List.foldl_cons, ih, List.flatten_cons, updateBatch_append]

end BayesianProbabilityCalibrator

namespace ThompsonSamplingBandit

/-- A call of `updateReward`, with the id that it draws for a new arm. -/
structure RewardCall where
  id : String
  tenantId : String
  contextKey : String
  isRecovered : Bool
  isIntervention : Option Bool
  now : Timestamp
  deriving DecidableEq, Repr

namespace RewardCall

def key (call : RewardCall) : String × String := (call.tenantId, call.contextKey)

/-- What is not said to be a holdout is an intervention. -/
def intervened (call : RewardCall) : Bool := call.isIntervention.getD true

/-- The table after the call; `none` when it throws. -/
def perform (call : RewardCall) (arms : Table BanditArmRecord.key) :
    Option (Table BanditArmRecord.key) :=
  updateReward arms call.id call.tenantId call.contextKey call.isRecovered call.intervened call.now

/-- Whether a call reports this outcome of an intervention or of a holdout. -/
def reports (intervened recovered : Bool) (call : RewardCall) : Bool :=
  call.intervened == intervened && call.isRecovered == recovered

end RewardCall

/-- Perform calls one after the other; a call that throws changes nothing. The calls that were
answered come with the table. -/
def performAll : Table BanditArmRecord.key → List RewardCall →
    Table BanditArmRecord.key × List RewardCall
  | arms, []            => (arms, [])
  | arms, call :: calls =>
    match call.perform arms with
    | none       => performAll arms calls
    | some arms' =>
      let rest := performAll arms' calls
      (rest.1, call :: rest.2)

/-- The arm holds the outcomes of these calls on top of its priors. -/
structure Holds (arm : BanditArmRecord) (calls : List RewardCall) : Prop where
  pullCount : arm.pullCount = calls.length
  alphaInterv : arm.alphaInterv = 3 + calls.countP (RewardCall.reports true true)
  betaInterv : arm.betaInterv = 3 + calls.countP (RewardCall.reports true false)
  alphaNat : arm.alphaNat = 2 + calls.countP (RewardCall.reports false true)
  betaNat : arm.betaNat = 6 + calls.countP (RewardCall.reports false false)

def ofKey (key : String × String) (calls : List RewardCall) : List RewardCall :=
  calls.filter fun call => call.key = key

/-- Every arm holds the outcomes of its calls, and there is no arm without a call. -/
def Accounts (arms : Table BanditArmRecord.key) (calls : List RewardCall) : Prop :=
  ∀ key, match arms.find? key with
    | none     => ofKey key calls = []
    | some arm => Holds arm (ofKey key calls)

section Calls

variable {arms arms' : Table BanditArmRecord.key} {arm : BanditArmRecord} {call : RewardCall}
  {calls past : List RewardCall} {key : String × String}

lemma reward_key (arm : BanditArmRecord) (isRecovered isIntervention : Bool) (now : Timestamp) :
    (reward arm isRecovered isIntervention now).key = arm.key := by
  cases isIntervention <;> cases isRecovered <;> rfl

lemma reward_id (arm : BanditArmRecord) (isRecovered isIntervention : Bool) (now : Timestamp) :
    (reward arm isRecovered isIntervention now).id = arm.id := by
  cases isIntervention <;> cases isRecovered <;> rfl

lemma holds_newArm (id tenantId contextKey : String) (now : Timestamp) :
    Holds (newArm id tenantId contextKey now) [] := by
  constructor <;> simp [newArm]

lemma Holds.reward (h : Holds arm calls) (call : RewardCall) :
    Holds (reward arm call.isRecovered call.intervened call.now) (calls ++ [call]) := by
  obtain ⟨hpull, halpha, hbeta, halphaNat, hbetaNat⟩ := h
  cases hint : call.intervened <;> cases hrec : call.isRecovered
  all_goals
    constructor <;>
      simp [ThompsonSamplingBandit.reward, RewardCall.reports, hint, hrec, hpull, halpha, hbeta,
        halphaNat, hbetaNat, List.countP_append, add_assoc]

def armOf (arms : Table BanditArmRecord.key) (call : RewardCall) : BanditArmRecord :=
  (arms.find? call.key).getD (newArm call.id call.tenantId call.contextKey call.now)

lemma armOf_key : (armOf arms call).key = call.key := by
  rw [armOf]
  cases h : arms.find? call.key with
  | none => rfl
  | some arm => exact Table.key_of_find? h

lemma armOf_id : (armOf arms call).id = call.id ∨ armOf arms call ∈ arms.rows := by
  rw [armOf]
  cases h : arms.find? call.key with
  | none => exact .inl rfl
  | some arm => exact .inr (Table.mem_of_find? h)

lemma perform_eq_some_iff : call.perform arms = some arms' ↔
    ((arms.find? call.key).isSome ∨ ∀ other ∈ arms.rows, other.id ≠ call.id) ∧
      arms' = arms.put (reward (armOf arms call) call.isRecovered call.intervened call.now) := by
  have hperform : call.perform arms = upsertBanditArm arms
      (reward (armOf arms call) call.isRecovered call.intervened call.now) := rfl
  rw [hperform, upsertBanditArm, reward_key, reward_id, armOf_key]
  cases hfind : arms.find? call.key with
  | some arm => simp only [Option.isNone_some, Bool.false_eq_true, false_and, if_false,
      Option.some_inj, Option.isSome_some, true_or, true_and, eq_comm (a := arms')]
  | none =>
    have hid : (armOf arms call).id = call.id := by rw [armOf, hfind]; rfl
    simp only [hid, Option.isNone_none, true_and, Option.isSome_none, Bool.false_eq_true, false_or,
      List.any_eq_true, decide_eq_true_eq]
    split_ifs with htaken
    · obtain ⟨other, hother, htaken⟩ := htaken
      exact iff_of_false nofun fun h => h.1 other hother htaken
    · have hfresh : ∀ other ∈ arms.rows, other.id ≠ call.id :=
        fun other hother hid => htaken ⟨other, hother, hid⟩
      rw [Option.some_inj, and_iff_right hfresh, eq_comm]

lemma accounts_empty : Accounts .empty [] := fun _ => rfl

lemma ofKey_append_singleton : ofKey key (past ++ [call]) =
    if call.key = key then ofKey key past ++ [call] else ofKey key past := by
  rw [ofKey, List.filter_append, List.filter_singleton]
  split_ifs with h
  · simp [h, ofKey]
  · simp [h, ofKey]

/-- A call that is answered is accounted for in its own arm, and no other arm changes. -/
lemma Accounts.perform (h : Accounts arms past) (hcall : call.perform arms = some arms') :
    Accounts arms' (past ++ [call]) := by
  obtain ⟨-, rfl⟩ := perform_eq_some_iff.mp hcall
  have hold : Holds (armOf arms call) (ofKey call.key past) := by
    have hkey := h call.key
    rw [armOf]
    cases hfind : arms.find? call.key with
    | none =>
      rw [hfind] at hkey
      rw [show ofKey call.key past = [] from hkey]
      exact holds_newArm _ _ _ _
    | some arm =>
      rw [hfind] at hkey
      exact hkey
  intro key
  rw [Table.find?_put, reward_key, armOf_key, ofKey_append_singleton]
  by_cases hkey : key = call.key
  · rw [if_pos hkey, if_pos hkey.symm, hkey]
    exact hold.reward call
  · rw [if_neg hkey, if_neg (Ne.symm hkey)]
    exact h key

lemma Accounts.performAll (h : Accounts arms past) (calls : List RewardCall) :
    Accounts (performAll arms calls).1 (past ++ (performAll arms calls).2) := by
  induction calls generalizing arms past with
  | nil => simpa [ThompsonSamplingBandit.performAll] using h
  | cons call calls ih =>
    rw [ThompsonSamplingBandit.performAll]
    cases hcall : call.perform arms with
    | none => exact ih h
    | some arms' => simpa using ih (h.perform hcall)

/-- With different ids no call throws. -/
lemma performAll_snd_of_nodup (hnodup : (calls.map (·.id)).Nodup)
    (hfresh : ∀ arm ∈ arms.rows, ∀ call ∈ calls, arm.id ≠ call.id) :
    (performAll arms calls).2 = calls := by
  induction calls generalizing arms with
  | nil => rfl
  | cons call calls ih =>
    obtain ⟨hcall, hnodup⟩ := List.nodup_cons.mp hnodup
    have hsome := perform_eq_some_iff.mpr
      ⟨.inr fun other hother => hfresh other hother call List.mem_cons_self, rfl⟩
    rw [performAll, hsome]
    refine congrArg (call :: ·) (ih hnodup ?_)
    intro arm harm later hlater
    rcases Table.mem_put.mp harm with rfl | ⟨harm, -⟩
    · rw [reward_id]
      rcases armOf_id with hid | hmem
      · rw [hid]
        exact fun heq => hcall (List.mem_map.mpr ⟨later, hlater, heq.symm⟩)
      · exact hfresh _ hmem later (List.mem_cons_of_mem call hlater)
    · exact hfresh arm harm later (List.mem_cons_of_mem call hlater)

end Calls

end ThompsonSamplingBandit

open BayesianProbabilityCalibrator ThompsonSamplingBandit in
/-- Batches of observations add up in any order. The arms hold exactly the outcomes of the calls that
were answered, and these are all calls unless a call draws the id of another one. -/
theorem evidence_conserved :
    (∀ (prior : ℚ × ℚ) (observations : List Bool) (batches : List (List Bool)),
      batches.flatten.Perm observations →
        batches.foldl updateBatch prior = updateBatch prior observations) ∧
      ∀ calls : List RewardCall,
        Accounts (performAll .empty calls).1 (performAll .empty calls).2 ∧
          ((calls.map (·.id)).Nodup → (performAll .empty calls).2 = calls) := by
  refine ⟨fun prior observations batches hperm => ?_, fun calls => ⟨?_, fun hnodup => ?_⟩⟩
  · rw [foldl_updateBatch, updateBatch_perm hperm]
  · exact accounts_empty.performAll calls
  · exact performAll_snd_of_nodup hnodup fun arm harm => absurd harm List.not_mem_nil

end CtrlRecovery
