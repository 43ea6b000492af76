import CtrlRecovery.Agents.MemoryStore
import CtrlRecovery.Core.StandAlone

/-!
# The context of a prompt

`buildContext` puts together what the language model is shown of an opportunity, and `sanitize` takes
keys, tokens and the numbers of cards out of a text. What is sanitized has no key in it, whatever it
was, and does not change when it is sanitized again. A card number in groups is not taken out, and most
fields are not sanitized at all; `isSafe_iff` tells which contexts are safe to show.
-/

namespace CtrlRecovery

open Core StandAlone

namespace AgentContextBuilder

/-! ### Redaction -/

/-- `[a-zA-Z0-9_-]`. -/
def isNvapiCharacter (c : Char) : Bool := Js.isAsciiAlphanumeric c || c == '_' || c == '-'

/-- `[a-zA-Z0-9_.-]`. -/
def isTokenCharacter (c : Char) : Bool :=
  Js.isAsciiAlphanumeric c || c == '_' || c == '.' || c == '-'

/-- `\w`, on whose boundaries `\b` matches. -/
def isWordCharacter (c : Char) : Bool := Js.isAsciiAlphanumeric c || c == '_'

/-- The words `rzp_(test|live)_`. -/
def rzpWords : List (List Char) := ["rzp_test_".toList, "rzp_live_".toList]

/-- `/rzp_(test|live)_[a-zA-Z0-9]+/`. -/
def rzpKey : Pattern Char := keyPattern rzpWords Js.isAsciiAlphanumeric

/-- `/nvapi-[a-zA-Z0-9_-]+/`. -/
def nvapiKey : Pattern Char := keyPattern ["nvapi-".toList] isNvapiCharacter

/-- `/Bearer\s+[a-zA-Z0-9_.-]+/i`. -/
def bearerToken : Pattern Char := spacedPattern "BEARER".toList isTokenCharacter

def redactKeys (cs : List Char) : List Char :=
  bearerToken.replaceAll "Bearer ***_REDACTED".toList
    (nvapiKey.replaceAll "nvapi-***_REDACTED".toList
      (rzpKey.replaceAll "rzp_***_REDACTED".toList cs))

/-- Replace `/\b\d{16}\b/g`, and then `/\b\d{3}\b/g`. -/
def redactNumbers (cs : List Char) : List Char :=
  replaceNumbers Char.isDigit isWordCharacter 3 "***".toList none
    (replaceNumbers Char.isDigit isWordCharacter 16 "****-****-****-****".toList none cs)

def sanitize (text : String) : String :=
  if text = "" then "" else String.ofList (redactNumbers (redactKeys text.toList))

/-! ### The context -/

/-- The fields of an opportunity that are read, with any texts in them. -/
structure OpportunityFields where
  id : String
  source : String
  amountPaise : ℚ
  reasonCode : String
  declineType : String
  attemptCount : ℚ
  customerId : String
  customerTrustScore : Option ℚ
  createdAt : String
  status : String
  deriving DecidableEq, Repr

structure CustomerFields where
  id : String
  trustScore : Option ℚ
  deriving DecidableEq, Repr

structure ScoreFields where
  naturalRecoveryProb : ℚ
  interventionRecoveryProb : ℚ
  expectedIncrementalValuePaise : ℚ
  confidence : String
  deriving DecidableEq, Repr

structure MemoryFields where
  memoryType : String
  contextSummary : String
  actualOutcome : Option String
  createdAt : String
  deriving DecidableEq, Repr

structure ContextParams where
  goal : String
  opportunity : OpportunityFields
  customer : Option CustomerFields := none
  score : Option ScoreFields := none
  gatewayHealth : Option ℚ := none
  memories : List MemoryFields := []
  currentTime : Option String := none
  deriving DecidableEq, Repr

structure ContextOpportunity where
  id : String
  source : String
  amountInr : String
  amountPaise : ℚ
  reasonCode : String
  declineType : String
  attemptCount : ℚ
  customerId : String
  createdAt : String
  status : String
  deriving DecidableEq, Repr

structure ContextCustomer where
  id : String
  trustScore : ℚ
  deriving DecidableEq, Repr

structure EconomicBaseline where
  naturalRecoveryProb : ℚ
  interventionRecoveryProb : ℚ
  expectedIncrementalValueInr : String
  confidence : String
  deriving DecidableEq, Repr

structure GatewayStatus where
  overallHealth : ℚ
  mode : String
  deriving DecidableEq, Repr

structure ContextMemory where
  type : String
  summary : String
  actualOutcome : Option String
  deriving DecidableEq, Repr

structure SanitizedPromptContext where
  missionGoal : String
  opportunity : ContextOpportunity
  customer : ContextCustomer
  economicBaseline : Option EconomicBaseline
  gatewayStatus : GatewayStatus
  relevantMemories : List ContextMemory
  temporalCutoff : String
  deriving DecidableEq, Repr

/-- `customer?.id || customer_id`. -/
def customerIdOf (params : ContextParams) : String :=
  Js.orElse (params.customer.map (·.id)) params.opportunity.customerId

def viewMemory (memory : MemoryFields) : ContextMemory where
  type := memory.memoryType
  summary := sanitize memory.contextSummary
  actualOutcome := memory.actualOutcome

section Build

variable (getTime : String → Option ℤ) (now : String)

/-- `currentTime || new Date().toISOString()`. -/
def cutoffOf (params : ContextParams) : String := Js.orElse params.currentTime now

/-- The opportunity is created after the cutoff, so that no context is built. -/
def isFuture (params : ContextParams) : Bool :=
  (getTime params.opportunity.createdAt).any fun s =>
    (getTime (cutoffOf now params)).any fun t => s > t

def eligibleMemories (params : ContextParams) : List MemoryFields :=
  params.memories.filter fun memory =>
    AgentMemoryStore.notAfter getTime memory.createdAt (cutoffOf now params)

/-- The clock and the reading of a date are parameters. -/
def buildContext (params : ContextParams) : Except String SanitizedPromptContext :=
  let opportunity := params.opportunity
  let cutoff := cutoffOf now params
  if isFuture getTime now params then
    .error (s!"Temporal Firewall Violation: Opportunity created_at ({opportunity.createdAt})" ++
      s!" > Current Time ({cutoff})")
  else
    .ok {
      missionGoal := params.goal
      opportunity := {
        id := opportunity.id
        source := opportunity.source
        amountInr := "₹" ++ Js.rupees opportunity.amountPaise
        amountPaise := opportunity.amountPaise
        reasonCode := sanitize opportunity.reasonCode
        declineType := opportunity.declineType
        attemptCount := opportunity.attemptCount
        customerId := sanitize opportunity.customerId
        createdAt := opportunity.createdAt
        status := opportunity.status }
      customer := {
        id := sanitize (customerIdOf params)
        trustScore := ((params.customer.bind (·.trustScore)).or opportunity.customerTrustScore).getD
          (65 / 100) }
      economicBaseline := params.score.map fun score => {
        naturalRecoveryProb := score.naturalRecoveryProb
        interventionRecoveryProb := score.interventionRecoveryProb
        expectedIncrementalValueInr := "₹" ++ Js.rupees score.expectedIncrementalValuePaise
        confidence := score.confidence }
      gatewayStatus := {
        overallHealth := params.gatewayHealth.getD (98 / 100)
        mode := "Razorpay Test Mode" }
      relevantMemories := ((eligibleMemories getTime now params).take 5).map viewMemory
      temporalCutoff := cutoff }

end Build

/-! ### What is safe to show -/

/-- So many digits, in groups with one space or hyphen between them. -/
inductive CardDigits : ℕ → List Char → Prop
  | last {d : Char} : d.isDigit → CardDigits 1 [d]
  | digit {n : ℕ} {d : Char} {cs : List Char} :
      d.isDigit → CardDigits n cs → CardDigits (n + 1) (d :: cs)
  | gap {n : ℕ} {d gap : Char} {cs : List Char} :
      d.isDigit → gap = ' ' ∨ gap = '-' → CardDigits n cs → CardDigits (n + 1) (d :: gap :: cs)

/-- No digit is next to the body. -/
structure IsCard (left : Option Char) (body : List Char) (right : Option Char) : Prop where
  digits : CardDigits 16 body
  left : ∀ c ∈ left, c.isDigit = false
  right : ∀ c ∈ right, c.isDigit = false

def HasCard (cs : List Char) : Prop :=
  ∃ left body right, Occurs none cs left body right ∧ IsCard left body right

/-- A card number in which there is no number of 16 or 3 digits between boundaries of words. -/
def HasLastingCard (cs : List Char) : Prop :=
  ∃ left body right, Occurs none cs left body right ∧ IsCard left body right ∧
    ∀ n ∈ [16, 3], ¬ HasNumber Char.isDigit isWordCharacter n left body right

/-- One of the words with a character of the class behind it. -/
def HasKey (words : List (List Char)) (inClass : Char → Bool) (cs : List Char) : Prop :=
  ∃ w ∈ words, ∃ c, inClass c ∧ w ++ [c] <:+: cs

def HasBearerToken (cs : List Char) : Prop :=
  ∃ given spaces c, given.map Char.toUpper = "BEARER".toList ∧ spaces ≠ [] ∧
    (∀ d ∈ spaces, Js.isWhitespace d) ∧ isTokenCharacter c ∧ given ++ spaces ++ [c] <:+: cs

structure IsClean (text : String) : Prop where
  card : ¬ HasCard text.toList
  rzp : ¬ HasKey rzpWords Js.isAsciiAlphanumeric text.toList
  nvapi : ¬ HasKey ["nvapi-".toList] isNvapiCharacter text.toList
  bearer : ¬ HasBearerToken text.toList

def ContextMemory.texts (memory : ContextMemory) : List String :=
  memory.type :: memory.summary :: memory.actualOutcome.toList

/-- All that is said in a context. -/
def SanitizedPromptContext.texts (context : SanitizedPromptContext) : List String :=
  let opportunity := context.opportunity
  [context.missionGoal, opportunity.id, opportunity.source, opportunity.amountInr,
    opportunity.reasonCode, opportunity.declineType, opportunity.customerId, opportunity.createdAt,
    opportunity.status, context.customer.id, context.gatewayStatus.mode, context.temporalCutoff] ++
  context.economicBaseline.toList.flatMap (fun baseline =>
    [baseline.expectedIncrementalValueInr, baseline.confidence]) ++
  context.relevantMemories.flatMap (·.texts)

/-- No text of the context holds a card number, a key or a token, to sanitize twice is to sanitize
once, and no memory is shown that was created after the cutoff. -/
structure IsSafe (getTime : String → Option ℤ) (now : String) (params : ContextParams) : Prop where
  clean : ∀ context, buildContext getTime now params = .ok context →
    ∀ text ∈ context.texts, IsClean text
  idempotent : ∀ text, sanitize (sanitize text) = sanitize text
  past : ∀ context, buildContext getTime now params = .ok context →
    ∃ shown : List MemoryFields, shown.Sublist params.memories ∧
      (∀ memory ∈ shown,
        AgentMemoryStore.notAfter getTime memory.createdAt (cutoffOf now params)) ∧
      context.relevantMemories = shown.map viewMemory

section Input

variable (getTime : String → Option ℤ) (now : String) (params : ContextParams)

def MemoryFields.givenTexts (memory : MemoryFields) : List String :=
  memory.memoryType :: memory.actualOutcome.toList

/-- What a context says as it was given. -/
def givenTexts : List String :=
  let opportunity := params.opportunity
  [params.goal, opportunity.id, opportunity.source, "₹" ++ Js.rupees opportunity.amountPaise,
    opportunity.declineType, opportunity.createdAt, opportunity.status, cutoffOf now params] ++
  params.score.toList.flatMap (fun score =>
    ["₹" ++ Js.rupees score.expectedIncrementalValuePaise, score.confidence]) ++
  ((eligibleMemories getTime now params).take 5).flatMap (·.givenTexts)

/-- What a context says after it was sanitized. -/
def sanitizedTexts : List String :=
  [params.opportunity.reasonCode, params.opportunity.customerId, customerIdOf params] ++
  ((eligibleMemories getTime now params).take 5).map (·.contextSummary)

/-- No given text holds a card number, a key or a token, and what the keys leave of a text that is
sanitized has no card number in it that the numbers of 16 and of 3 digits leave. -/
structure IsSafeInput : Prop where
  given : ∀ text ∈ givenTexts getTime now params, IsClean text
  sanitized : ∀ text ∈ sanitizedTexts getTime now params, ¬ HasLastingCard (redactKeys text.toList)

end Input

/-! ### What the redactions leave -/

section Patterns

/-- The masks of all redactions. -/
def redacted : List (List Char) :=
  ["rzp_***_REDACTED".toList, "nvapi-***_REDACTED".toList, "Bearer ***_REDACTED".toList,
    "****-****-****-****".toList, "***".toList]

/-- A masked text shows an asterisk, or a `B` for a `b`. -/
def masks : List Char → List Char → Prop := Masks '*' fun x y => x = 'B' ∧ (y = 'b' ∨ y = 'B')

lemma isWhitespace_of_isTokenCharacter (c : Char) (h : isTokenCharacter c) :
    Js.isWhitespace c = false := by
  refine Js.isWhitespace_of_printable ?_
  simp only [isTokenCharacter, Js.isAsciiAlphanumeric, Bool.or_eq_true, Bool.and_eq_true,
    decide_eq_true_eq, beq_iff_eq, Char.le_def, UInt32.le_iff_toNat_le] at h
  rw [Char.toNat]
  obtain ((((⟨hl, hu⟩ | ⟨hl, hu⟩) | ⟨hl, hu⟩) | rfl) | rfl) | rfl := h
  · exact ⟨le_trans (by decide) hl, le_trans hu (by decide)⟩
  · exact ⟨le_trans (by decide) hl, le_trans hu (by decide)⟩
  · exact ⟨le_trans (by decide) hl, le_trans hu (by decide)⟩
  all_goals decide

lemma eq_of_toUpper_eq_B {c : Char} (h : c.toUpper = 'B') : c = 'b' ∨ c = 'B' := by
  delta Char.toUpper at h
  split_ifs at h with hc
  · have hval := congrArg Char.val h
    have hB : c.val + ('A'.val - 'a'.val) = 'B'.val := hval
    have hb : 'b'.val + ('A'.val - 'a'.val) = 'B'.val := by decide
    exact .inl (Char.ext ((UInt32.add_left_inj _).mp (hB.trans hb.symm)))
  · exact .inr h

lemma inert_redacted :
    ∀ p ∈ [rzpKey, nvapiKey, bearerToken], ∀ new ∈ redacted, p.Inert new := by
  simp only [redacted, List.forall_mem_cons]
  refine ⟨⟨?_, ?_, ?_, ?_, ?_, List.forall_mem_nil _⟩, ⟨?_, ?_, ?_, ?_, ?_, List.forall_mem_nil _⟩,
    ⟨?_, ?_, ?_, ?_, ?_, List.forall_mem_nil _⟩, List.forall_mem_nil _⟩
  all_goals
    repeat refine .cons (fun _ => rfl) ?_
    exact Pattern.inert_nil

lemma unlike_of_all {words : List (List Char)}
    (h : words.all (fun w => w.all fun d => d != '*' && d != 'B') = true) :
    ∀ w ∈ words, ∀ d ∈ w, d ≠ '*' ∧ ∀ y, ¬ (d = 'B' ∧ (y = 'b' ∨ y = 'B')) := by
  simp only [List.all_eq_true, Bool.and_eq_true, bne_iff_ne] at h
  exact fun w hw d hd => ⟨(h w hw d hd).1, fun y hy => (h w hw d hd).2 hy.1⟩

lemma guarded_rzpKey : rzpKey.Guarded masks := by
  refine guarded_keyPattern rfl ?_ ?_
  · exact unlike_of_all rfl
  · rintro x y ⟨rfl, rfl | rfl⟩ - <;> rfl

lemma guarded_nvapiKey : nvapiKey.Guarded masks := by
  refine guarded_keyPattern rfl ?_ ?_
  · exact unlike_of_all rfl
  · rintro x y ⟨rfl, rfl | rfl⟩ - <;> rfl

lemma guarded_bearerToken : bearerToken.Guarded masks := by
  refine guarded_spacedPattern isWhitespace_of_isTokenCharacter ⟨rfl, rfl, by decide⟩ ?_ ?_
  · rintro d hd y ⟨rfl, -⟩
    revert hd
    decide
  · rintro x y ⟨rfl, rfl | rfl⟩ - <;> rfl

lemma masking_rzpKey : rzpKey.Masking masks "rzp_***_REDACTED".toList := by
  have h : rzpKey.Masking masks ("rzp_".toList ++ '*' :: "**_REDACTED".toList) :=
    masking_keyPattern (by decide)
  exact h

lemma masking_nvapiKey : nvapiKey.Masking masks "nvapi-***_REDACTED".toList := by
  have h : nvapiKey.Masking masks ("nvapi-".toList ++ '*' :: "**_REDACTED".toList) :=
    masking_keyPattern (by decide)
  exact h

lemma masking_bearerToken : bearerToken.Masking masks "Bearer ***_REDACTED".toList := by
  have h : bearerToken.Masking masks ('B' :: "earer ***_REDACTED".toList) :=
    masking_spacedPattern isWhitespace_of_isTokenCharacter
      (fun x hx => ⟨rfl, eq_of_toUpper_eq_B (Option.some_inj.mp hx)⟩) (by decide)
  exact h

/-- No redaction makes a match of the pattern. -/
structure IsLasting (p : Pattern Char) : Prop where
  inert : ∀ new ∈ redacted, p.Inert new
  guarded : p.Guarded masks

lemma isLasting_of_mem : ∀ p ∈ [rzpKey, nvapiKey, bearerToken], IsLasting p := by
  have hinert := inert_redacted
  simp only [List.forall_mem_cons] at hinert ⊢
  obtain ⟨hrzp, hnvapi, hbearer, -⟩ := hinert
  exact ⟨⟨hrzp, guarded_rzpKey⟩, ⟨hnvapi, guarded_nvapiKey⟩, ⟨hbearer, guarded_bearerToken⟩,
    List.forall_mem_nil _⟩

variable {p q : Pattern Char} {new cs : List Char}

lemma IsLasting.not_test_replaceAll (hp : IsLasting p) (hq : q.Masking masks new)
    (hnew : new ∈ redacted) (h : p.test cs = false) : p.test (q.replaceAll new cs) = false :=
  Pattern.not_test_replaceAll_of_not_test (hp.inert new hnew) hp.guarded hq h

lemma IsLasting.not_test_redactNumbers (hp : IsLasting p) (h : p.test cs = false) :
    p.test (redactNumbers cs) = false := by
  have hmasks : ∀ ys zs, masks ("****-****-****-****".toList ++ ys) zs := fun _ _ => .inl rfl
  have hmasks' : ∀ ys zs, masks ("***".toList ++ ys) zs := fun _ _ => .inl rfl
  rw [redactNumbers]
  exact not_test_replaceNumbers (hp.inert _ (by simp [redacted])) hp.guarded hmasks'
    (not_test_replaceNumbers (hp.inert _ (by simp [redacted])) hp.guarded hmasks h)

/-- Each key is gone when its pattern is replaced, and does not come back. -/
lemma not_test_redactKeys (cs : List Char) :
    ∀ p ∈ [rzpKey, nvapiKey, bearerToken], p.test (redactKeys cs) = false := by
  obtain ⟨hrzp, hnvapi, hbearer, -⟩ : IsLasting rzpKey ∧ IsLasting nvapiKey ∧
      IsLasting bearerToken ∧ _ := by
    simpa only [List.forall_mem_cons] using isLasting_of_mem
  simp only [List.forall_mem_cons]
  refine ⟨?_, ?_, ?_, List.forall_mem_nil _⟩
  · refine hrzp.not_test_replaceAll masking_bearerToken (by simp [redacted]) ?_
    refine hrzp.not_test_replaceAll masking_nvapiKey (by simp [redacted]) ?_
    exact Pattern.not_test_replaceAll_self (hrzp.inert _ (by simp [redacted])) hrzp.guarded
      masking_rzpKey cs
  · refine hnvapi.not_test_replaceAll masking_bearerToken (by simp [redacted]) ?_
    exact Pattern.not_test_replaceAll_self (hnvapi.inert _ (by simp [redacted])) hnvapi.guarded
      masking_nvapiKey _
  · exact Pattern.not_test_replaceAll_self (hbearer.inert _ (by simp [redacted])) hbearer.guarded
      masking_bearerToken _

lemma redactKeys_eq_self (h : ∀ p ∈ [rzpKey, nvapiKey, bearerToken], p.test cs = false) :
    redactKeys cs = cs := by
  simp only [List.forall_mem_cons] at h
  obtain ⟨hrzp, hnvapi, hbearer, -⟩ := h
  rw [redactKeys, Pattern.replaceAll_of_not_test hrzp, Pattern.replaceAll_of_not_test hnvapi,
    Pattern.replaceAll_of_not_test hbearer]

end Patterns

section Numbers

variable {n : ℕ} {cs body : List Char} {left right : Option Char}

lemma isWordCharacter_of_isDigit (c : Char) (h : c.isDigit) : isWordCharacter c := by
  have hdigit : '0' ≤ c ∧ c ≤ '9' := by
    simpa [Char.isDigit, Char.le_def] using h
  simp [isWordCharacter, Js.isAsciiAlphanumeric, hdigit]

lemma not_isDigit_of_all (h : cs.all (fun c => !c.isDigit) = true) :
    ∀ c ∈ cs, c.isDigit = false := by
  simpa using h

lemma CardDigits.mem (h : CardDigits n body) : ∀ c ∈ body, c.isDigit ∨ c = ' ' ∨ c = '-' := by
  induction h with
  | last hd => simp [hd]
  | digit hd _ ih => exact List.forall_mem_cons.mpr ⟨.inl hd, ih⟩
  | gap hd hgap _ ih =>
    exact List.forall_mem_cons.mpr ⟨.inl hd, List.forall_mem_cons.mpr ⟨.inr hgap, ih⟩⟩

lemma CardDigits.head (h : CardDigits n body) : ∃ c ∈ body.head?, c.isDigit := by
  cases h with
  | last hd => exact ⟨_, rfl, hd⟩
  | digit hd _ => exact ⟨_, rfl, hd⟩
  | gap hd _ _ => exact ⟨_, rfl, hd⟩

lemma CardDigits.getLast (h : CardDigits n body) : ∀ c ∈ body.getLast?, c.isDigit := by
  induction h with
  | last hd => simpa using hd
  | @digit n d cs _ hcs ih =>
    obtain ⟨c, hc, -⟩ := hcs.head
    obtain ⟨cs, rfl⟩ := List.head?_eq_some_iff.mp hc
    simpa using ih
  | @gap n d gap cs _ _ hcs ih =>
    obtain ⟨c, hc, -⟩ := hcs.head
    obtain ⟨cs, rfl⟩ := List.head?_eq_some_iff.mp hc
    simpa using ih

lemma CardDigits.not_mem_mask (h : CardDigits n body) : '*' ∉ body := by
  intro hmem
  have hmask := h.mem '*' hmem
  revert hmask
  decide

/-- A card number is there after a replacement if it was there before and no number stood alone in it. -/
lemma IsCard.occurs_replaceNumbers_iff (h : IsCard left body right) {m : ℕ} (hm : 0 < m)
    {tail : List Char} (htail : ∀ c ∈ tail, c.isDigit = false) :
    Occurs none (replaceNumbers Char.isDigit isWordCharacter m ('*' :: tail) none cs) left body right ↔
      Occurs none cs left body right ∧ ¬ HasNumber Char.isDigit isWordCharacter m left body right :=
  StandAlone.occurs_replaceNumbers_iff hm isWordCharacter_of_isDigit h.digits.not_mem_mask htail rfl
    h.digits.head h.digits.getLast h.left h.right

lemma IsCard.occurs_redactNumbers_iff (h : IsCard left body right) :
    Occurs none (redactNumbers cs) left body right ↔ Occurs none cs left body right ∧
      ∀ n ∈ [16, 3], ¬ HasNumber Char.isDigit isWordCharacter n left body right := by
  have h3 : ∀ c ∈ "**".toList, c.isDigit = false := not_isDigit_of_all rfl
  have h16 : ∀ c ∈ "***-****-****-****".toList, c.isDigit = false := not_isDigit_of_all rfl
  simp only [List.forall_mem_cons, List.not_mem_nil, false_imp_iff, implies_true, and_true]
  rw [redactNumbers]
  refine (h.occurs_replaceNumbers_iff three_pos h3).trans ?_
  rw [← and_assoc]
  exact and_congr_left fun _ => h.occurs_replaceNumbers_iff (Nat.succ_pos 15) h16

lemma hasCard_redactNumbers_iff : HasCard (redactNumbers cs) ↔ HasLastingCard cs := by
  constructor
  · rintro ⟨left, body, right, hoccurs, hcard⟩
    obtain ⟨hoccurs, hnone⟩ := hcard.occurs_redactNumbers_iff.mp hoccurs
    exact ⟨left, body, right, hoccurs, hcard, hnone⟩
  · rintro ⟨left, body, right, hoccurs, hcard, hnone⟩
    exact ⟨left, body, right, hcard.occurs_redactNumbers_iff.mpr ⟨hoccurs, hnone⟩, hcard⟩

/-- No number of 16 or 3 digits is left between boundaries of words. -/
lemma not_hasNumber_redactNumbers (cs : List Char) : ∀ n ∈ [16, 3],
    ¬ HasNumber Char.isDigit isWordCharacter n none (redactNumbers cs) none := by
  have h3 : ∀ c ∈ '*' :: "**".toList, c.isDigit = false := not_isDigit_of_all rfl
  have h16 : ∀ c ∈ '*' :: "***-****-****-****".toList, c.isDigit = false := not_isDigit_of_all rfl
  intro n hn hnumber
  have hpos : 0 < n := by
    simp only [List.mem_cons, List.not_mem_nil, or_false] at hn
    omega
  obtain ⟨hbefore, hne⟩ :=
    hasNumber_replaceNumbers (by decide : 0 < 3) hpos isWordCharacter_of_isDigit h3 hnumber
  obtain ⟨-, hne'⟩ :=
    hasNumber_replaceNumbers (by decide : 0 < 16) hpos isWordCharacter_of_isDigit h16 hbefore
  simp only [List.mem_cons, List.not_mem_nil, or_false] at hn
  exact hn.elim hne' hne

lemma redactNumbers_eq_self (h : ∀ n ∈ [16, 3],
    ¬ HasNumber Char.isDigit isWordCharacter n none cs none) : redactNumbers cs = cs := by
  rw [redactNumbers, replaceNumbers_eq_self (h 16 (by simp)), replaceNumbers_eq_self (h 3 (by simp))]

end Numbers

/-! ### Sanitized texts -/

section Sanitize

variable {text : String}

lemma toList_sanitize (text : String) :
    (sanitize text).toList = redactNumbers (redactKeys text.toList) := by
  rw [sanitize]
  split_ifs with h
  · subst h
    simp [redactKeys, redactNumbers]
  · exact String.toList_ofList

lemma not_test_sanitize (text : String) :
    ∀ p ∈ [rzpKey, nvapiKey, bearerToken], p.test (sanitize text).toList = false := by
  intro p hp
  rw [toList_sanitize]
  exact (isLasting_of_mem p hp).not_test_redactNumbers (not_test_redactKeys _ p hp)

lemma sanitize_sanitize (text : String) : sanitize (sanitize text) = sanitize text := by
  have hnumbers := not_hasNumber_redactNumbers (redactKeys text.toList)
  apply String.toList_injective
  rw [toList_sanitize, redactKeys_eq_self (not_test_sanitize text), toList_sanitize,
    redactNumbers_eq_self hnumbers]

lemma isClean_iff : IsClean text ↔ ¬ HasCard text.toList ∧
    ∀ p ∈ [rzpKey, nvapiKey, bearerToken], p.test text.toList = false := by
  simp only [List.forall_mem_cons, List.not_mem_nil, false_imp_iff, implies_true, and_true,
    ← Bool.not_eq_true]
  rw [rzpKey, nvapiKey, bearerToken, test_keyPattern_iff, test_keyPattern_iff,
    test_spacedPattern_iff isWhitespace_of_isTokenCharacter]
  constructor
  · rintro ⟨hcard, hrzp, hnvapi, hbearer⟩
    exact ⟨hcard, hrzp, hnvapi, hbearer⟩
  · rintro ⟨hcard, hrzp, hnvapi, hbearer⟩
    exact ⟨hcard, hrzp, hnvapi, hbearer⟩

lemma isClean_sanitize_iff :
    IsClean (sanitize text) ↔ ¬ HasLastingCard (redactKeys text.toList) := by
  rw [isClean_iff, and_iff_left (not_test_sanitize text), toList_sanitize, hasCard_redactNumbers_iff]

end Sanitize

/-! ### Contexts -/

section Contexts

variable {getTime : String → Option ℤ} {now : String} {params : ContextParams}
  {context : SanitizedPromptContext} {cs : List Char}

lemma not_hasCard_of_not_isDigit (h : ∀ c ∈ cs, c.isDigit = false) : ¬ HasCard cs := by
  rintro ⟨left, body, right, ⟨front, back, rfl, -, -⟩, hcard⟩
  obtain ⟨c, hc, hdigit⟩ := hcard.digits.head
  rw [h c (by simp [List.mem_of_head? hc])] at hdigit
  cases hdigit

lemma isClean_mode : IsClean "Razorpay Test Mode" :=
  isClean_iff.mpr ⟨not_hasCard_of_not_isDigit (not_isDigit_of_all rfl), by decide⟩

lemma isFuture_eq_false_iff :
    isFuture getTime now params = false ↔ ∃ context, buildContext getTime now params = .ok context := by
  rw [buildContext]
  cases isFuture getTime now params <;> simp

lemma forall_texts_viewMemory_iff (memory : MemoryFields) (P : String → Prop) :
    (∀ text ∈ (viewMemory memory).texts, P text) ↔
      (∀ text ∈ memory.givenTexts, P text) ∧ P (sanitize memory.contextSummary) := by
  rw [ContextMemory.texts, MemoryFields.givenTexts, List.forall_mem_cons, List.forall_mem_cons,
    List.forall_mem_cons, and_assoc, and_comm (b := P (sanitize _))]
  rfl

lemma forall_viewMemory_iff (memories : List MemoryFields) (P : String → Prop) :
    (∀ text ∈ (memories.map viewMemory).flatMap (·.texts), P text) ↔
      (∀ text ∈ memories.flatMap (·.givenTexts), P text) ∧
        ∀ text ∈ memories.map (·.contextSummary), P (sanitize text) := by
  simp only [List.forall_mem_flatMap, List.forall_mem_map, forall_texts_viewMemory_iff]
  exact forall₂_and

lemma forall_texts_iff (h : buildContext getTime now params = .ok context) (P : String → Prop) :
    (∀ text ∈ context.texts, P text) ↔ (∀ text ∈ givenTexts getTime now params, P text) ∧
      P "Razorpay Test Mode" ∧ ∀ text ∈ sanitizedTexts getTime now params, P (sanitize text) := by
  rw [buildContext] at h
  split_ifs at h
  cases h
  simp only [SanitizedPromptContext.texts, givenTexts, sanitizedTexts, List.forall_mem_append,
    List.forall_mem_cons, forall_viewMemory_iff, Option.toList_map]
  rw [List.flatMap_map]
  tauto

lemma relevantMemories_of_buildContext (h : buildContext getTime now params = .ok context) :
    context.relevantMemories = ((eligibleMemories getTime now params).take 5).map viewMemory := by
  rw [buildContext] at h
  split_ifs at h
  cases h
  rfl

lemma IsSafe.isSafeInput (hsafe : IsSafe getTime now params)
    (h : isFuture getTime now params = false) : IsSafeInput getTime now params := by
  obtain ⟨context, hcontext⟩ := isFuture_eq_false_iff.mp h
  obtain ⟨hgiven, -, hsanitized⟩ :=
    (forall_texts_iff hcontext IsClean).mp (hsafe.clean context hcontext)
  exact ⟨hgiven, fun text htext => isClean_sanitize_iff.mp (hsanitized text htext)⟩

theorem isSafe_iff : IsSafe getTime now params ↔
    (isFuture getTime now params = false → IsSafeInput getTime now params) := by
  refine ⟨IsSafe.isSafeInput, fun h => ⟨?_, sanitize_sanitize, ?_⟩⟩
  · intro context hcontext
    obtain ⟨hgiven, hsanitized⟩ := h (isFuture_eq_false_iff.mpr ⟨context, hcontext⟩)
    exact (forall_texts_iff hcontext IsClean).mpr ⟨hgiven, isClean_mode,
      fun text htext => isClean_sanitize_iff.mpr (hsanitized text htext)⟩
  · intro context hcontext
    refine ⟨(eligibleMemories getTime now params).take 5, ?_, ?_,
      relevantMemories_of_buildContext hcontext⟩
    · exact (List.take_sublist 5 _).trans List.filter_sublist
    · exact fun memory hmemory => (List.mem_filter.mp (List.mem_of_mem_take hmemory)).2

/-- A card number in groups of four is not taken out. -/
theorem not_isSafe_grouped_card :
    ¬ IsSafe (fun text => if text = "2026-08-01T10:00:00.000Z" then some 1785578400000
        else if text = "2026-08-01T12:00:00.000Z" then some 1785585600000 else none)
      "2026-08-01T12:00:00.000Z"
      { goal := "RECOVER_PAYMENT"
        opportunity := {
          id := "opp_1", source := "payment_failed", amountPaise := 250000
          reasonCode := "card 4111 1111 1111 1111", declineType := "soft", attemptCount := 1
          customerId := "cust_1", customerTrustScore := some (3 / 4)
          createdAt := "2026-08-01T10:00:00.000Z", status := "DETECTED" } } := by
  intro hsafe
  have hinput := hsafe.isSafeInput (by decide)
  refine hinput.sanitized "card 4111 1111 1111 1111" (by simp [sanitizedTexts]) ?_
  have hkeys : ∀ p ∈ [rzpKey, nvapiKey, bearerToken],
      p.test "card 4111 1111 1111 1111".toList = false := by
    simp only [List.forall_mem_cons]
    exact ⟨by decide, by decide, by decide, List.forall_mem_nil _⟩
  rw [redactKeys_eq_self hkeys]
  refine ⟨some ' ', "4111 1111 1111 1111".toList, none, ⟨"card ".toList, [], rfl, rfl, rfl⟩,
    ⟨?_, by simp, by simp⟩, by decide⟩
  repeat first | exact .last rfl | refine .gap rfl (.inl rfl) ?_ | refine .digit rfl ?_

end Contexts

end AgentContextBuilder

end CtrlRecovery
