import CtrlRecovery.Core.Rounding
import CtrlRecovery.Types

/-!
# The budget pacer

`DualMirrorBudgetPacer` keeps a multiplier for each merchant. Every spend moves it by a decaying step,
up if more is spent than the budget expects by that hour and down if less, then multiplies it with the
factor of the active arm, rounds it to four decimals and clamps it.

The rule in the source's own words, `lambda_{t+1} = max(0.1, lambda_t + eta * (spent_t -
target_burn_rate_t))`, leaves the multiplier alone where the spend is on target. The code does not: an
arm shades the multiplier at every call, so the conservative one raises it and the aggressive one
lowers it also on target, and the counter of the day is never set back. Next to the shaded multiplier,
overspend gives at least it and underspend at most it, as long as the counter holds the spend of that
day only; with an arm that shades to no other side the rule is kept (`multiplier_paced`).
-/

namespace CtrlRecovery

inductive PacingArm | conservative | neutral | aggressive
  deriving DecidableEq, Repr

inductive PacingTimeWindow | nightQuiet | morningPeak | afternoonTrough | eveningSurge
  deriving DecidableEq, Repr

structure DualPacingState where
  merchantId : String
  lambda : ℚ
  dailyBudgetPaise : ℚ
  spentTodayPaise : ℚ
  targetSpendRatePaisePerHour : ℚ
  activeArm : PacingArm
  timeWindow : PacingTimeWindow
  updateCount : ℕ
  deriving DecidableEq, Repr

namespace DualMirrorBudgetPacer

/-! ### Time -/

def getUTCHours (now : Timestamp) : ℕ := now / 3600000 % 24

def getUTCMinutes (now : Timestamp) : ℕ := now / 60000 % 60

def dayOf (now : Timestamp) : ℕ := now / 86400000

def getTimeWindow (now : Timestamp) : PacingTimeWindow :=
  if getUTCHours now < 6 then .nightQuiet
  else if getUTCHours now < 12 then .morningPeak
  else if getUTCHours now < 18 then .afternoonTrough
  else .eveningSurge

def hoursElapsed (now : Timestamp) : ℚ := max 1 (getUTCHours now + getUTCMinutes now / 60)

/-! ### The multiplier -/

def baseEta : ℚ := 5 / 1000

def armMultipliers : PacingArm → ℚ
  | .conservative => 120 / 100
  | .neutral      => 1
  | .aggressive   => 85 / 100

/-- Round to four decimals and clamp to `[0.1, 1000]`. -/
def clampLambda (modulatedLambda : ℚ) : ℚ :=
  max (1 / 10) (min 1000 (Js.roundFixed modulatedLambda 4))

/-- `states`, by merchant. -/
abbrev States : Type := String → Option DualPacingState

/-- The state of a merchant. `selectPacingArm` is the arm that the statistics give for a window. -/
def getPacingState (states : States) (merchantId : String) (dailyBudgetPaise : ℚ) (now : Timestamp)
    (selectPacingArm : PacingTimeWindow → PacingArm) : DualPacingState :=
  let currentWindow := getTimeWindow now
  match states merchantId with
  | some existing =>
    if existing.timeWindow ≠ currentWindow then
      { existing with timeWindow := currentWindow, activeArm := selectPacingArm currentWindow }
    else existing
  | none          =>
    { merchantId
      lambda := 1
      dailyBudgetPaise
      spentTodayPaise := 0
      targetSpendRatePaisePerHour := dailyBudgetPaise / 24
      activeArm := selectPacingArm currentWindow
      timeWindow := currentWindow
      updateCount := 0 }

/-- The state after a spend; `sqrt` is `Math.sqrt`. -/
def updateDualMultiplier (sqrt : ℚ → ℚ) (state : DualPacingState) (additionalSpendPaise : ℚ)
    (now : Timestamp) : DualPacingState :=
  let spentTodayPaise := state.spentTodayPaise + additionalSpendPaise
  let updateCount := state.updateCount + 1
  let expectedSpendAtThisHour := state.targetSpendRatePaisePerHour * hoursElapsed now
  let subgradient := spentTodayPaise - expectedSpendAtThisHour
  let decayingEta := baseEta / sqrt updateCount
  let rawLambda := state.lambda + decayingEta * (subgradient / 50000)
  { state with
    spentTodayPaise
    updateCount
    lambda := clampLambda (rawLambda * armMultipliers state.activeArm) }

/-! ### Runs -/

inductive PacingCall
  | getPacingState (merchantId : String) (dailyBudgetPaise : ℚ) (now : Timestamp)
      (selectPacingArm : PacingTimeWindow → PacingArm)
  | updateDualMultiplier (merchantId : String) (additionalSpendPaise : ℚ) (now : Timestamp)
      (selectPacingArm : PacingTimeWindow → PacingArm)

def applyCall (sqrt : ℚ → ℚ) (states : States) : PacingCall → States
  | .getPacingState merchantId dailyBudgetPaise now selectPacingArm =>
    Function.update states merchantId
      (some (getPacingState states merchantId dailyBudgetPaise now selectPacingArm))
  | .updateDualMultiplier merchantId additionalSpendPaise now selectPacingArm =>
    Function.update states merchantId (some (updateDualMultiplier sqrt
      (getPacingState states merchantId 200000 now selectPacingArm) additionalSpendPaise now))

def afterCalls (sqrt : ℚ → ℚ) (calls : List PacingCall) : States :=
  calls.foldl (applyCall sqrt) fun _ => none

def PacingCall.spend? (merchantId : String) : PacingCall → Option (ℕ × ℚ)
  | .getPacingState _ _ _ _                        => none
  | .updateDualMultiplier merchantId' amount now _ =>
    if merchantId' = merchantId then some (dayOf now, amount) else none

/-- What a merchant has spent on days with a property. -/
def spentOn (calls : List PacingCall) (merchantId : String) (p : ℕ → Bool) : ℚ :=
  (((calls.filterMap (PacingCall.spend? merchantId)).filter fun spend => p spend.1).map Prod.snd).sum

/-! ### What pacing promises -/

/-- The multiplier that an arm makes of one where the spend is on target. -/
def shade (arm : PacingArm) (lambda : ℚ) : ℚ := clampLambda (lambda * armMultipliers arm)

/-- The new multiplier next to the old one: on target it is the shaded one. -/
structure Paced (before after : DualPacingState) (spent expected : ℚ) : Prop where
  onTarget : spent = expected → after.lambda = shade before.activeArm before.lambda
  overspend : expected < spent → shade before.activeArm before.lambda ≤ after.lambda
  underspend : spent < expected → after.lambda ≤ shade before.activeArm before.lambda
  /-- A neutral arm leaves the multiplier alone, the other two move it to one side. -/
  neutral : before.activeArm = .neutral → shade before.activeArm before.lambda = before.lambda
  conservative : before.activeArm = .conservative →
    before.lambda ≤ shade before.activeArm before.lambda
  aggressive : before.activeArm = .aggressive →
    shade before.activeArm before.lambda ≤ before.lambda

/-- The rule of the source: on target the multiplier stays, overspend never lowers it and underspend
never raises it. -/
structure FollowsSpend (before after : DualPacingState) (spent expected : ℚ) : Prop where
  onTarget : spent = expected → after.lambda = before.lambda
  overspend : expected < spent → before.lambda ≤ after.lambda
  underspend : spent < expected → after.lambda ≤ before.lambda

/-- An arm shades the multiplier to no other side than the spend moves it to. -/
def ShadesAlong (spent expected : ℚ) : PacingArm → Prop
  | .conservative => expected < spent
  | .neutral      => True
  | .aggressive   => spent < expected

/-- The multiplier of a state is clamped, with four decimals. -/
structure InRange (state : DualPacingState) : Prop where
  ge : 1 / 10 ≤ state.lambda
  le : state.lambda ≤ 1000
  isFixed : Js.IsFixed 4 state.lambda

section Steps

variable {sqrt : ℚ → ℚ} {states : States} {calls : List PacingCall} {merchantId : String}
  {state : DualPacingState} {x y : ℚ} {now : Timestamp} {arm : PacingArm}

lemma clampLambda_mono (h : x ≤ y) : clampLambda x ≤ clampLambda y :=
  max_le_max le_rfl (min_le_min le_rfl (Js.roundFixed_mono h))

lemma isFixed_tenth : Js.IsFixed 4 (1 / 10) := ⟨1000, by norm_num⟩

lemma isFixed_thousand : Js.IsFixed 4 1000 := by exact_mod_cast Js.isFixed_intCast (d := 4) 1000

lemma clampLambda_of_inRange (h : InRange state) : clampLambda state.lambda = state.lambda := by
  rw [clampLambda, Js.roundFixed_of_isFixed h.isFixed, min_eq_right h.le, max_eq_right h.ge]

lemma inRange_of_clampLambda (h : state.lambda = clampLambda x) : InRange state where
  ge := h ▸ le_max_left ..
  le := h ▸ max_le (by norm_num) (min_le_left ..)
  isFixed := h ▸ isFixed_tenth.max (isFixed_thousand.min (Js.isFixed_roundFixed x 4))

section State

variable {dailyBudgetPaise : ℚ} {select : PacingTimeWindow → PacingArm}

lemma lambda_getPacingState :
    (getPacingState states merchantId dailyBudgetPaise now select).lambda =
      (states merchantId).elim 1 (·.lambda) := by
  rw [getPacingState]
  cases states merchantId with
  | none => rfl
  | some existing =>
    dsimp only
    split_ifs <;> rfl

lemma spentTodayPaise_getPacingState :
    (getPacingState states merchantId dailyBudgetPaise now select).spentTodayPaise =
      (states merchantId).elim 0 (·.spentTodayPaise) := by
  rw [getPacingState]
  cases states merchantId with
  | none => rfl
  | some existing =>
    dsimp only
    split_ifs <;> rfl

lemma inRange_getPacingState (h : ∀ state ∈ states merchantId, InRange state) :
    InRange (getPacingState states merchantId dailyBudgetPaise now select) := by
  have hlambda := @lambda_getPacingState states merchantId now dailyBudgetPaise select
  cases hstate : states merchantId with
  | none =>
    rw [hstate] at hlambda
    refine inRange_of_clampLambda (x := 1) (hlambda.trans ?_)
    have hone : Js.roundFixed 1 4 = 1 := by
      exact_mod_cast Js.roundFixed_of_isFixed (Js.isFixed_intCast (d := 4) 1)
    rw [clampLambda, hone]
    norm_num
  | some existing =>
    rw [hstate] at hlambda
    obtain ⟨hge, hle, hfixed⟩ := h existing hstate
    exact ⟨hlambda ▸ hge, hlambda ▸ hle, hlambda ▸ hfixed⟩

end State

lemma inRange_updateDualMultiplier :
    InRange (updateDualMultiplier sqrt state x now) :=
  inRange_of_clampLambda rfl

/-! #### One step -/

lemma shade_neutral (h : InRange state) : shade .neutral state.lambda = state.lambda := by
  rw [shade, armMultipliers, mul_one, clampLambda_of_inRange h]

lemma le_shade_conservative (h : InRange state) :
    state.lambda ≤ shade .conservative state.lambda := by
  have hle : state.lambda ≤ state.lambda * armMultipliers .conservative := by
    rw [armMultipliers]
    linarith [h.ge]
  calc state.lambda = clampLambda state.lambda := (clampLambda_of_inRange h).symm
    _ ≤ shade .conservative state.lambda := clampLambda_mono hle

lemma shade_aggressive_le (h : InRange state) :
    shade .aggressive state.lambda ≤ state.lambda := by
  have hle : state.lambda * armMultipliers .aggressive ≤ state.lambda := by
    rw [armMultipliers]
    linarith [h.ge]
  calc shade .aggressive state.lambda ≤ clampLambda state.lambda := clampLambda_mono hle
    _ = state.lambda := clampLambda_of_inRange h

lemma armMultipliers_pos (arm : PacingArm) : 0 < armMultipliers arm := by
  cases arm <;> norm_num [armMultipliers]

lemma exists_step (hsqrt : ∀ x, 0 < x → 0 < sqrt x) (state : DualPacingState) (x : ℚ)
    (now : Timestamp) :
    ∃ eta, 0 < eta ∧ (updateDualMultiplier sqrt state x now).lambda =
      clampLambda ((state.lambda + eta * (state.spentTodayPaise + x
        - state.targetSpendRatePaisePerHour * hoursElapsed now)) * armMultipliers state.activeArm) := by
  have hpos : 0 < sqrt ↑(state.updateCount + 1) := hsqrt _ (by positivity)
  refine ⟨baseEta / sqrt ↑(state.updateCount + 1) / 50000, ?_, ?_⟩
  · have hbase : 0 < baseEta := by norm_num [baseEta]
    positivity
  · rw [updateDualMultiplier]
    ring_nf

lemma paced_updateDualMultiplier (hsqrt : ∀ x, 0 < x → 0 < sqrt x) (h : InRange state) :
    Paced state (updateDualMultiplier sqrt state x now) (state.spentTodayPaise + x)
      (state.targetSpendRatePaisePerHour * hoursElapsed now) := by
  obtain ⟨eta, heta, hlambda⟩ := exists_step hsqrt state x now
  have harm := armMultipliers_pos state.activeArm
  refine ⟨fun hspent => ?_, fun hspent => ?_, fun hspent => ?_, fun harm => ?_, fun harm => ?_,
    fun harm => ?_⟩
  · rw [hlambda, hspent, sub_self, mul_zero, add_zero, shade]
  · rw [hlambda, shade]
    have hstep := mul_pos heta (sub_pos.mpr hspent)
    exact clampLambda_mono (mul_le_mul_of_nonneg_right (by linarith) harm.le)
  · rw [hlambda, shade]
    have hstep := mul_pos heta (sub_pos.mpr hspent)
    exact clampLambda_mono (mul_le_mul_of_nonneg_right (by linarith) harm.le)
  · rw [harm, shade_neutral h]
  · rw [harm]
    exact le_shade_conservative h
  · rw [harm]
    exact shade_aggressive_le h

lemma Paced.followsSpend {before after : DualPacingState} {spent expected : ℚ}
    (h : Paced before after spent expected) (hshades : ShadesAlong spent expected before.activeArm) :
    FollowsSpend before after spent expected := by
  cases harm : before.activeArm with
  | conservative =>
    rw [harm] at hshades
    have hover : expected < spent := hshades
    exact ⟨fun heq => absurd heq hover.ne',
      fun _ => (h.conservative harm).trans (h.overspend hover),
      fun hunder => absurd hunder hover.not_gt⟩
  | neutral =>
    have hshade := h.neutral harm
    exact ⟨fun heq => (h.onTarget heq).trans hshade, fun hover => hshade ▸ h.overspend hover,
      fun hunder => (h.underspend hunder).trans_eq hshade⟩
  | aggressive =>
    rw [harm] at hshades
    have hunder : spent < expected := hshades
    exact ⟨fun heq => absurd heq hunder.ne, fun hover => absurd hover hunder.not_gt,
      fun _ => (h.underspend hunder).trans (h.aggressive harm)⟩

/-! #### Runs -/

/-- Every multiplier is in range, and every counter holds all that was spent so far. -/
structure Kept (calls : List PacingCall) (states : States) : Prop where
  inRange : ∀ merchantId, ∀ state ∈ states merchantId, InRange state
  spent : ∀ merchantId,
    (states merchantId).elim 0 (·.spentTodayPaise) = spentOn calls merchantId fun _ => true

lemma spentOn_append (calls : List PacingCall) (call : PacingCall) (merchantId : String)
    (p : ℕ → Bool) :
    spentOn (calls ++ [call]) merchantId p =
      spentOn calls merchantId p + spentOn [call] merchantId p := by
  simp [spentOn, List.filterMap_append, List.filter_append]

/-- The counter holds the spend of the day and of all other days. -/
lemma spentOn_day_add (calls : List PacingCall) (merchantId : String) (day : ℕ) :
    spentOn calls merchantId (· == day) + spentOn calls merchantId (· != day) =
      spentOn calls merchantId fun _ => true := by
  simp only [spentOn, List.filter_true]
  induction calls.filterMap (PacingCall.spend? merchantId) with
  | nil => simp
  | cons spend spends ih =>
    by_cases hday : spend.1 = day
    · simp only [hday, BEq.rfl, List.filter_cons_of_pos, List.map_cons, List.sum_cons, ← ih,
        bne_self_eq_false, Bool.false_eq_true, not_false_eq_true, List.filter_cons_of_neg]
      ring
    · have hne : (spend.1 == day) = false := by simpa using hday
      simp only [hne, bne, Bool.false_eq_true, not_false_eq_true, List.filter_cons_of_neg,
        Bool.not_false, List.filter_cons_of_pos, List.map_cons, List.sum_cons, ← ih]
      ring

/-- A call for one merchant leaves the states and the spend of the others as they are. -/
lemma Kept.update {call : PacingCall} (h : Kept calls states) (hrange : InRange state)
    (hspent : state.spentTodayPaise =
      (states merchantId).elim 0 (·.spentTodayPaise) + spentOn [call] merchantId fun _ => true)
    (hother : ∀ m, m ≠ merchantId → spentOn [call] m (fun _ => true) = 0) :
    Kept (calls ++ [call]) (Function.update states merchantId (some state)) := by
  constructor
  · intro m state' hstate'
    by_cases hm : m = merchantId
    · rw [hm, Function.update_self] at hstate'
      cases hstate'
      exact hrange
    · rw [Function.update_of_ne hm] at hstate'
      exact h.inRange m state' hstate'
  · intro m
    rw [spentOn_append, ← h.spent]
    by_cases hm : m = merchantId
    · rw [hm, Function.update_self]
      exact hspent
    · rw [Function.update_of_ne hm, hother m hm, add_zero]

lemma Kept.applyCall (h : Kept calls states) (call : PacingCall) :
    Kept (calls ++ [call]) (applyCall sqrt states call) := by
  cases call with
  | getPacingState merchantId dailyBudgetPaise now select =>
    refine h.update (inRange_getPacingState (h.inRange merchantId)) ?_ fun m _ => ?_
    · simp [spentTodayPaise_getPacingState, spentOn, List.filterMap, PacingCall.spend?]
    · simp [spentOn, List.filterMap, PacingCall.spend?]
  | updateDualMultiplier merchantId amount now select =>
    refine h.update inRange_updateDualMultiplier ?_ fun m hm => ?_
    · simp [DualMirrorBudgetPacer.updateDualMultiplier, spentTodayPaise_getPacingState, spentOn,
        PacingCall.spend?]
    · simp [spentOn, PacingCall.spend?, Ne.symm hm]

lemma kept_afterCalls (sqrt : ℚ → ℚ) (calls : List PacingCall) :
    Kept calls (afterCalls sqrt calls) := by
  induction calls using List.reverseRecOn with
  | nil => exact ⟨fun _ _ h => (by cases h), fun _ => rfl⟩
  | append_singleton calls call ih =>
    rw [afterCalls, List.foldl_append]
    exact ih.applyCall call

/-- The states of a call of `updateDualMultiplier` after other calls. -/
def beforeUpdate (sqrt : ℚ → ℚ) (calls : List PacingCall) (merchantId : String) (now : Timestamp)
    (selectPacingArm : PacingTimeWindow → PacingArm) : DualPacingState :=
  getPacingState (afterCalls sqrt calls) merchantId 200000 now selectPacingArm

/-- The multiplier is clamped in every run. Where no spend of other days is in the counter, the next
update follows the spend of the day next to the shaded multiplier, and where the arm shades along with
the spend also next to the old one. -/
theorem multiplier_paced (sqrt : ℚ → ℚ) (hsqrt : ∀ x, 0 < x → 0 < sqrt x)
    (calls : List PacingCall) (merchantId : String) :
    (∀ state ∈ afterCalls sqrt calls merchantId,
      1 / 10 ≤ state.lambda ∧ state.lambda ≤ 1000) ∧
    ∀ (amount : ℚ) (now : Timestamp) (select : PacingTimeWindow → PacingArm),
      let before := beforeUpdate sqrt calls merchantId now select
      let after := updateDualMultiplier sqrt before amount now
      let spent := spentOn calls merchantId (· == dayOf now) + amount
      let expected := before.targetSpendRatePaisePerHour * hoursElapsed now
      spentOn calls merchantId (· != dayOf now) = 0 →
        Paced before after spent expected ∧
          (ShadesAlong spent expected before.activeArm →
            FollowsSpend before after spent expected) := by
  obtain ⟨hrange, hspent⟩ := kept_afterCalls sqrt calls
  refine ⟨fun state hstate => ⟨(hrange _ _ hstate).ge, (hrange _ _ hstate).le⟩, ?_⟩
  intro amount now select before after spent expected hother
  have hcounter : before.spentTodayPaise = spentOn calls merchantId (· == dayOf now) := by
    rw [show before = beforeUpdate sqrt calls merchantId now select from rfl, beforeUpdate,
      spentTodayPaise_getPacingState, hspent, ← spentOn_day_add calls merchantId (dayOf now), hother,
      add_zero]
  have hpaced : Paced before after (before.spentTodayPaise + amount) expected :=
    paced_updateDualMultiplier hsqrt (inRange_getPacingState (hrange merchantId))
  rw [hcounter] at hpaced
  exact ⟨hpaced, hpaced.followsSpend⟩

end Steps

/-- Ten thousand paise an hour are expected, and so much is spent by one o'clock. -/
theorem multiplier_paced_at_one :
    let before := beforeUpdate (fun _ => 1) [.getPacingState "m" 240000 3600000 fun _ => .neutral] "m"
      3600000 fun _ => .neutral
    let after := updateDualMultiplier (fun _ => 1) before 10000 3600000
    let spent := spentOn [.getPacingState "m" 240000 3600000 fun _ => .neutral] "m"
      (· == dayOf 3600000) + 10000
    let expected := before.targetSpendRatePaisePerHour * hoursElapsed 3600000
    Paced before after spent expected ∧ FollowsSpend before after spent expected :=
  (multiplier_paced (fun _ => 1) (fun _ _ => one_pos)
    [.getPacingState "m" 240000 3600000 fun _ => .neutral] "m").2 10000 3600000
    (fun _ => .neutral) (by decide +kernel) |>.imp_right fun h => h trivial

/-- The conservative arm raises the multiplier from 1 to 1.2 although the spend is on target. -/
theorem on_target_shaded :
    let before := beforeUpdate (fun _ => 1)
      [.getPacingState "m" 240000 3600000 fun _ => .conservative] "m" 3600000 fun _ => .conservative
    before.spentTodayPaise + 10000 = before.targetSpendRatePaisePerHour * hoursElapsed 3600000 ∧
      before.lambda = 1 ∧ (updateDualMultiplier (fun _ => 1) before 10000 3600000).lambda = 12 / 10 := by
  decide +kernel

end DualMirrorBudgetPacer

end CtrlRecovery
