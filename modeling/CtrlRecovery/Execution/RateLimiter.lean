import CtrlRecovery.Core.Envelope
import CtrlRecovery.Core.Run
import Mathlib.Algebra.Order.Archimedean.Basic
import Mathlib.Data.Rat.Floor

/-!
# The token bucket

A `TokenBucketRateLimiter` starts full, refills at a rate and pays for what it grants. Its tokens and
what it grants in any interval keep within their bounds for every capacity and rate that are not
negative. `throttle` tries again and again until it is granted: it comes to an end exactly for the
requests that fit in the bucket (`guarantees_iff`). A larger one waits for ever.
-/

namespace CtrlRecovery

open Core

structure TokenBucketOptions where
  capacity : ℚ
  refillRatePerSecond : ℚ
  deriving DecidableEq, Repr

/-- The tokens of a bucket and when it was last refilled, in milliseconds. -/
structure TokenBucketRateLimiter where
  capacity : ℚ
  refillRatePerSecond : ℚ
  tokens : ℚ
  lastRefillTimestamp : ℚ
  deriving DecidableEq, Repr

namespace TokenBucketRateLimiter

def new (options : TokenBucketOptions) (now : ℚ) : TokenBucketRateLimiter where
  capacity := options.capacity
  refillRatePerSecond := options.refillRatePerSecond
  tokens := options.capacity
  lastRefillTimestamp := now

variable (limiter : TokenBucketRateLimiter) (now tokens : ℚ)

def tokensToAdd : ℚ :=
  (now - limiter.lastRefillTimestamp) / 1000 * limiter.refillRatePerSecond

def refill : TokenBucketRateLimiter :=
  if limiter.tokensToAdd now > 0 then
    { limiter with
      tokens := min limiter.capacity (limiter.tokens + limiter.tokensToAdd now)
      lastRefillTimestamp := now }
  else limiter

/-- Whether the tokens are granted, and the bucket after that. -/
def tryConsume : Bool × TokenBucketRateLimiter :=
  let refilled := limiter.refill now
  if refilled.tokens ≥ tokens then (true, { refilled with tokens := refilled.tokens - tokens })
  else (false, refilled)

def getAvailableTokens : ℤ × TokenBucketRateLimiter :=
  (⌊(limiter.refill now).tokens⌋, limiter.refill now)

/-- How long `throttle` waits before it tries again. -/
def waitMs : ℤ := ⌈1 / limiter.refillRatePerSecond * 1000⌉

/-- The tries of `throttle` at these times: the bucket it leaves, or `none` while it still waits. -/
def throttle : TokenBucketRateLimiter → List ℚ → Option TokenBucketRateLimiter
  | _, []               => none
  | limiter, now :: nows =>
    match limiter.tryConsume now tokens with
    | (true, limiter)  => some limiter
    | (false, limiter) => throttle limiter nows

/-! ### Calls -/

/-- A bucket, the time of the last call, and the amounts granted so far with their times. -/
structure State where
  limiter : TokenBucketRateLimiter
  now : ℚ
  granted : List (ℚ × ℚ)

def State.initial (options : TokenBucketOptions) (now : ℚ) : State := ⟨.new options now, now, []⟩

/-- A call of `tryConsume`. -/
structure Call where
  now : ℚ
  tokens : ℚ
  tokens_nonneg : 0 ≤ tokens

/-- The calls come in the order of their times. -/
def step (s : State) (call : Call) : Option State :=
  if s.now ≤ call.now then
    match s.limiter.tryConsume call.now call.tokens with
    | (true, limiter)  => some ⟨limiter, call.now, (call.now, call.tokens) :: s.granted⟩
    | (false, limiter) => some ⟨limiter, call.now, s.granted⟩
  else none

/-- The times at which `throttle` tries, where the clock keeps advancing. -/
structure AdvancingClock (start : ℚ) where
  time : ℕ → ℚ
  start_le : start ≤ time 0
  monotone : Monotone time
  unbounded : ∀ bound, ∃ k, bound ≤ time k

/-- `throttle` comes to an end at some try. -/
def Returns (clock : AdvancingClock now) : Prop :=
  ∃ tries, (throttle tokens limiter ((List.range tries).map clock.time)).isSome

/-- What the limiter promises in a state. -/
structure Guarantees (options : TokenBucketOptions) (tokens : ℚ) (s : State) : Prop where
  tokens_nonneg : ∀ now ≥ s.now, 0 ≤ (s.limiter.refill now).tokens
  tokens_le : ∀ now ≥ s.now, (s.limiter.refill now).tokens ≤ options.capacity
  available_nonneg : ∀ now ≥ s.now, 0 ≤ (s.limiter.getAvailableTokens now).1
  available_le : ∀ now ≥ s.now, ((s.limiter.getAvailableTokens now).1 : ℚ) ≤ options.capacity
  granted_le : ∀ start stop, start ≤ stop → Envelope.spent s.granted start stop ≤
    options.capacity + options.refillRatePerSecond * ((stop - start) / 1000)
  returns : 0 < options.refillRatePerSecond →
    ∀ clock : AdvancingClock s.now, s.limiter.Returns s.now tokens clock

variable {limiter : TokenBucketRateLimiter} {options : TokenBucketOptions} {now now' tokens start : ℚ}
  {s t : State} {call : Call}

/-! ### Refilling -/

@[simp] lemma capacity_refill : (limiter.refill now).capacity = limiter.capacity := by
  rw [refill]
  split_ifs <;> rfl

@[simp] lemma refillRatePerSecond_refill :
    (limiter.refill now).refillRatePerSecond = limiter.refillRatePerSecond := by
  rw [refill]
  split_ifs <;> rfl

lemma tokensToAdd_nonneg (hrate : 0 ≤ limiter.refillRatePerSecond)
    (hlast : limiter.lastRefillTimestamp ≤ now) : 0 ≤ limiter.tokensToAdd now :=
  mul_nonneg (div_nonneg (sub_nonneg.mpr hlast) (by norm_num)) hrate

lemma tokensToAdd_eq_add (limiter : TokenBucketRateLimiter) (now now' : ℚ) :
    limiter.tokensToAdd now' =
    limiter.tokensToAdd now + limiter.refillRatePerSecond / 1000 * (now' - now) := by
  rw [tokensToAdd, tokensToAdd]
  ring

lemma tokens_refill_le (h : limiter.tokens ≤ limiter.capacity) :
    (limiter.refill now).tokens ≤ limiter.capacity := by
  rw [refill]
  split_ifs
  · exact min_le_left ..
  · exact h

lemma tokens_refill_nonneg (hcapacity : 0 ≤ limiter.capacity) (h : 0 ≤ limiter.tokens) :
    0 ≤ (limiter.refill now).tokens := by
  rw [refill]
  split_ifs with hadd
  · exact le_min hcapacity (add_nonneg h hadd.le)
  · exact h

lemma tokens_refill_le_add (hadd : 0 ≤ limiter.tokensToAdd now) :
    (limiter.refill now).tokens ≤ limiter.tokens + limiter.tokensToAdd now := by
  rw [refill]
  split_ifs
  · exact min_le_right ..
  · exact le_add_of_nonneg_right hadd

lemma min_le_tokens_refill (hadd : 0 < limiter.tokensToAdd now) :
    min limiter.capacity (limiter.tokens + limiter.tokensToAdd now) ≤
      (limiter.refill now).tokens := by
  rw [refill, if_pos hadd]

lemma tokensToAdd_refill (hadd : 0 ≤ limiter.tokensToAdd now) :
    (limiter.refill now).tokensToAdd now = 0 := by
  rw [refill]
  split_ifs with hpos
  · simp [tokensToAdd]
  · exact le_antisymm (not_lt.mp hpos) hadd

lemma lastRefillTimestamp_refill_le (hlast : limiter.lastRefillTimestamp ≤ now) :
    (limiter.refill now).lastRefillTimestamp ≤ now := by
  rw [refill]
  split_ifs
  · exact le_rfl
  · exact hlast

/-- An earlier refill makes no difference to a later one. -/
lemma refill_refill (hrate : 0 ≤ limiter.refillRatePerSecond) (hnow : now ≤ now') :
    (limiter.refill now).refill now' = limiter.refill now' := by
  by_cases hadd : limiter.tokensToAdd now > 0
  · have hrefill : limiter.refill now =
        { limiter with
          tokens := min limiter.capacity (limiter.tokens + limiter.tokensToAdd now)
          lastRefillTimestamp := now } := if_pos hadd
    have hpos : 0 < limiter.refillRatePerSecond := by
      refine hrate.lt_of_ne fun hzero => ?_
      rw [tokensToAdd, ← hzero, mul_zero] at hadd
      exact lt_irrefl _ hadd
    rcases hnow.eq_or_lt with rfl | hlt
    · have hagain : (limiter.refill now).tokensToAdd now = 0 := tokensToAdd_refill hadd.le
      rw [refill, if_neg (by rw [hagain]; exact lt_irrefl 0)]
    · have hmore : 0 < limiter.refillRatePerSecond / 1000 * (now' - now) := by
        have := sub_pos.mpr hlt
        positivity
      have hadd' : (limiter.refill now).tokensToAdd now' =
          limiter.refillRatePerSecond / 1000 * (now' - now) := by
        rw [tokensToAdd_eq_add _ now, tokensToAdd_refill hadd.le, zero_add,
          refillRatePerSecond_refill]
      have hsum := limiter.tokensToAdd_eq_add now now'
      rw [refill, if_pos (by rw [hadd']; exact hmore), hadd', hrefill]
      rw [refill, if_pos (by rw [hsum]; exact add_pos hadd hmore), hsum, ← add_assoc]
      congr 1
      -- the cap of the first refill is lost in that of the second
      rw [min_add, ← min_assoc, min_eq_left (le_add_of_nonneg_right hmore.le)]
  · rw [show limiter.refill now = limiter from if_neg hadd]

/-! ### Waiting -/

/-- `throttle` comes to an end at the first try that finds enough tokens; the tries before it leave
the bucket refilled. -/
lemma isSome_throttle_iff (hrate : 0 ≤ limiter.refillRatePerSecond) {nows : List ℚ}
    (hnows : nows.Pairwise (· ≤ ·)) :
    (throttle tokens limiter nows).isSome ↔ ∃ now ∈ nows, tokens ≤ (limiter.refill now).tokens := by
  induction nows generalizing limiter with
  | nil => simp [throttle]
  | cons now nows ih =>
    obtain ⟨hnow, hrest⟩ := List.pairwise_cons.mp hnows
    by_cases henough : tokens ≤ (limiter.refill now).tokens
    · simp [throttle, tryConsume, henough]
    · have hlater : (∃ later ∈ nows, tokens ≤ ((limiter.refill now).refill later).tokens) ↔
          ∃ later ∈ nows, tokens ≤ (limiter.refill later).tokens :=
        exists_congr fun later => and_congr_right fun hmem => by
          rw [refill_refill hrate (hnow later hmem)]
      simp only [throttle, tryConsume, ge_iff_le, henough, if_false]
      rw [ih (by rwa [refillRatePerSecond_refill]) hrest, hlater]
      simp [henough]

lemma returns_iff (hrate : 0 ≤ limiter.refillRatePerSecond) (clock : AdvancingClock start) :
    limiter.Returns start tokens clock ↔
      ∃ k, tokens ≤ (limiter.refill (clock.time k)).tokens := by
  have htries : ∀ tries, ((List.range tries).map clock.time).Pairwise (· ≤ ·) := fun tries =>
    List.pairwise_map.mpr (List.pairwise_lt_range.imp fun h => clock.monotone h.le)
  constructor
  · rintro ⟨tries, htries'⟩
    obtain ⟨now, hnow, henough⟩ := (isSome_throttle_iff hrate (htries tries)).mp htries'
    obtain ⟨k, -, rfl⟩ := List.mem_map.mp hnow
    exact ⟨k, henough⟩
  · rintro ⟨k, henough⟩
    refine ⟨k + 1, (isSome_throttle_iff hrate (htries _)).mpr ⟨clock.time k, ?_, henough⟩⟩
    exact List.mem_map_of_mem (List.mem_range.mpr (Nat.lt_succ_self k))

/-- Where the bucket has room for the tokens and refills, they are there at some time. -/
lemma returns_of_le (hrate : 0 < limiter.refillRatePerSecond) (htokens : 0 ≤ limiter.tokens)
    (hroom : tokens ≤ limiter.capacity) (clock : AdvancingClock start) :
    limiter.Returns start tokens clock := by
  rw [returns_iff hrate.le]
  obtain ⟨k, hk⟩ := clock.unbounded
    (limiter.lastRefillTimestamp + (|tokens| + 1) * (1000 / limiter.refillRatePerSecond))
  have hadd : |tokens| + 1 ≤ limiter.tokensToAdd (clock.time k) := by
    rw [tokensToAdd, div_mul_eq_mul_div, le_div_iff₀ (by norm_num)]
    calc (|tokens| + 1) * 1000
        = (|tokens| + 1) * (1000 / limiter.refillRatePerSecond) *
            limiter.refillRatePerSecond := by field_simp
      _ ≤ (clock.time k - limiter.lastRefillTimestamp) * limiter.refillRatePerSecond :=
          mul_le_mul_of_nonneg_right (by linarith) hrate.le
  refine ⟨k, (le_min hroom ?_).trans (min_le_tokens_refill ?_)⟩
  · have := le_abs_self tokens
    linarith
  · have := abs_nonneg tokens
    linarith

lemma not_returns (limiter : TokenBucketRateLimiter) (hrate : 0 ≤ limiter.refillRatePerSecond)
    (hfull : limiter.tokens ≤ limiter.capacity) (htokens : limiter.capacity < tokens)
    (clock : AdvancingClock start) : ¬ limiter.Returns start tokens clock := by
  rw [returns_iff hrate]
  rintro ⟨k, hk⟩
  exact absurd (hk.trans (tokens_refill_le hfull)) (not_le.mpr htokens)

/-- The clock on which `throttle` waits as long as it asks for. -/
def waiting (limiter : TokenBucketRateLimiter) (hrate : 0 < limiter.refillRatePerSecond)
    (start : ℚ) : AdvancingClock start :=
  have hwait : (0 : ℚ) < limiter.waitMs := Int.cast_pos.mpr (Int.ceil_pos.mpr (by positivity))
  { time := fun k => start + k * limiter.waitMs
    start_le := by simp
    monotone := fun j k hjk => by
      have : (j : ℚ) ≤ k := Nat.cast_le.mpr hjk
      simp only [add_le_add_iff_left]
      exact mul_le_mul_of_nonneg_right this hwait.le
    unbounded := fun bound => by
      obtain ⟨k, hk⟩ := exists_nat_ge ((bound - start) / limiter.waitMs)
      refine ⟨k, ?_⟩
      rw [div_le_iff₀ hwait] at hk
      linarith }

/-! ### Runs -/

/-- The bucket of a state is the one of the options, refilled at the time of the last call, and its
tokens pay for what it has granted. -/
structure Sound (options : TokenBucketOptions) (s : State) : Prop where
  capacity_eq : s.limiter.capacity = options.capacity
  rate_eq : s.limiter.refillRatePerSecond = options.refillRatePerSecond
  last_le : s.limiter.lastRefillTimestamp ≤ s.now
  refilled : s.limiter.tokensToAdd s.now = 0
  metered : Envelope.Metered options.capacity (options.refillRatePerSecond / 1000) s.now
    s.limiter.tokens s.granted

lemma sound_initial (hcapacity : 0 ≤ options.capacity) (hrate : 0 ≤ options.refillRatePerSecond) :
    Sound options (.initial options start) where
  capacity_eq := rfl
  rate_eq := rfl
  last_le := le_rfl
  refilled := by simp [tokensToAdd, State.initial, new]
  metered := .initial hcapacity (div_nonneg hrate (by norm_num))

/-- A sound state is still sound after a refill at a later time. -/
lemma Sound.refill (hs : Sound options s) (hrate : 0 ≤ options.refillRatePerSecond)
    (hnow : s.now ≤ now) : Sound options ⟨s.limiter.refill now, now, s.granted⟩ where
  capacity_eq := by rw [capacity_refill, hs.capacity_eq]
  rate_eq := by rw [refillRatePerSecond_refill, hs.rate_eq]
  last_le := lastRefillTimestamp_refill_le (hs.last_le.trans hnow)
  refilled :=
    tokensToAdd_refill (tokensToAdd_nonneg (hs.rate_eq.symm ▸ hrate) (hs.last_le.trans hnow))
  metered := by
    have hadd : s.limiter.tokensToAdd now = options.refillRatePerSecond / 1000 * (now - s.now) := by
      rw [tokensToAdd_eq_add _ s.now, hs.refilled, zero_add, hs.rate_eq]
    have hrate' : 0 ≤ options.refillRatePerSecond / 1000 := div_nonneg hrate (by norm_num)
    refine hs.metered.advance hrate' hnow (tokens_refill_nonneg ?_ hs.metered.level_nonneg) ?_ ?_
    · rw [hs.capacity_eq]
      exact hs.metered.level_nonneg.trans hs.metered.level_le
    · rw [← hs.capacity_eq]
      exact tokens_refill_le (hs.capacity_eq ▸ hs.metered.level_le)
    · rw [← hadd]
      exact tokens_refill_le_add (hadd ▸ mul_nonneg hrate' (sub_nonneg.mpr hnow))

lemma sound_step (hrate : 0 ≤ options.refillRatePerSecond) (hs : Sound options s)
    (h : step s call = some t) : Sound options t := by
  simp only [step, tryConsume] at h
  split_ifs at h with hnow henough
  · cases h
    have hrefilled := hs.refill hrate hnow
    exact
      { hrefilled with
        metered := hrefilled.metered.spend (div_nonneg hrate (by norm_num)) call.tokens_nonneg
          henough }
  · cases h
    exact hs.refill hrate hnow

/-- The limiter keeps its promises in every state, for a request of `tokens`, exactly when neither its
capacity nor its rate is negative, and the request fits in the bucket if it is to be waited for. -/
theorem guarantees_iff (options : TokenBucketOptions) (tokens start : ℚ) :
    (∀ calls s, Run step (.initial options start) calls s → Guarantees options tokens s) ↔
      0 ≤ options.capacity ∧ 0 ≤ options.refillRatePerSecond ∧
        (0 < options.refillRatePerSecond → tokens ≤ options.capacity) := by
  constructor
  · intro hall
    have hinitial := hall [] _ (.nil _)
    have hcapacity : 0 ≤ options.capacity := by
      simpa [State.initial, TokenBucketRateLimiter.refill, tokensToAdd, new] using
        hinitial.tokens_nonneg start le_rfl
    refine ⟨hcapacity, ?_, fun hrate => ?_⟩
    · by_contra hneg
      rw [not_le] at hneg
      -- the envelope of a long interval would be negative
      have hlong : 0 ≤ (options.capacity + 1) * (1000 / -options.refillRatePerSecond) :=
        mul_nonneg (by linarith) (div_nonneg (by norm_num) (by linarith))
      have henvelope := hinitial.granted_le 0 _ hlong
      have hzero : options.refillRatePerSecond *
          (((options.capacity + 1) * (1000 / -options.refillRatePerSecond) - 0) / 1000) =
            -(options.capacity + 1) := by
        have := hneg.ne
        field_simp
        ring
      rw [hzero, State.initial, Envelope.spent_nil] at henvelope
      linarith
    · by_contra htokens
      exact not_returns (State.initial options start).limiter hrate.le le_rfl
        (not_le.mp htokens) _
        (hinitial.returns hrate (waiting (State.initial options start).limiter hrate start))
  · rintro ⟨hcapacity, hrate, hroom⟩ calls s hrun
    have hs : Sound options s :=
      hrun.invariant (fun _ _ _ hs hstep => sound_step hrate hs hstep)
        (sound_initial hcapacity hrate)
    exact
      { tokens_nonneg := fun now hnow => (hs.refill hrate hnow).metered.level_nonneg
        tokens_le := fun now hnow => (hs.refill hrate hnow).metered.level_le
        available_nonneg := fun now hnow =>
          Int.floor_nonneg.mpr (hs.refill hrate hnow).metered.level_nonneg
        available_le := fun now hnow =>
          (Int.floor_le _).trans (hs.refill hrate hnow).metered.level_le
        granted_le := fun start stop hle => by
          have := hs.metered.spent_le start stop hle
          rwa [div_mul_eq_mul_div, mul_div_assoc] at this
        returns := fun hpos clock => returns_of_le (hs.rate_eq.symm ▸ hpos)
          hs.metered.level_nonneg (hs.capacity_eq.symm ▸ hroom hpos) clock }

def defaultOptions : TokenBucketOptions := ⟨10, 5⟩

/-- A request for 11 tokens waits for ever for the default bucket of 10. -/
theorem throttle_waits_for_ever :
    ¬ Guarantees defaultOptions 11 (.initial defaultOptions 0) := by
  intro hguarantees
  have hrate : 0 < defaultOptions.refillRatePerSecond := by norm_num [defaultOptions]
  refine not_returns (State.initial defaultOptions 0).limiter hrate.le le_rfl ?_ _
    (hguarantees.returns hrate (waiting (State.initial defaultOptions 0).limiter hrate 0))
  norm_num [State.initial, new, defaultOptions]

end TokenBucketRateLimiter

end CtrlRecovery
