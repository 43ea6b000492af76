import CtrlRecovery.Webhooks.Handlers
import Mathlib

/-!
# The secrets behind a valid signature

A delivery is valid when it passes the checks of its size, address and time stamp and its body is
signed under one of the candidate secrets. These are the secrets that the caller passes, and when it
passes none at all, those of the platform and of its tests. So what a signature says about the
tenant depends on the secrets that are borrowed for it.
-/

namespace CtrlRecovery

namespace WebhookValidator

/-! ### What a valid delivery is -/

/-- The checks that come before the signature. -/
def PassesChecks (env : WebhookEnv) (params : Params) (now : Timestamp) : Prop :=
  params.rawBody.utf8ByteSize ≤ 1048576 ∧ isIpAllowed env params.clientIp = true ∧
    (isTimestampValid params.timestampHeader now).valid = true

/-- The signature of a delivery is that of its body under one of `secrets`. -/
def IsSignedUnder (platform : Platform) (params : Params) (secrets : List String) : Prop :=
  params.rawBody ≠ "" ∧ params.signatureHeader ≠ some "" ∧ ∃ secret ∈ secrets, secret ≠ "" ∧
    params.signatureHeader = some (platform.hmacSha256 secret params.rawBody)

/-- A delivery is valid only with a signature under one of the secrets that are `configured`. -/
def Authenticates (platform : Platform) (env : WebhookEnv) (params : Params) (now : Timestamp)
    (configured : List String) : Prop :=
  (validateWebhook platform env params now).isOk → IsSignedUnder platform params configured

variable {platform : Platform} {env : WebhookEnv} {params : Params} {now : Timestamp}

lemma not_isSignedUnder_nil : ¬ IsSignedUnder platform params [] := by
  simp [IsSignedUnder]

lemma IsSignedUnder.mono {secrets others : List String}
    (hsub : ∀ secret ∈ secrets, secret ≠ "" → secret ∈ others)
    (h : IsSignedUnder platform params secrets) : IsSignedUnder platform params others := by
  obtain ⟨hbody, hsignature, secret, hmem, hne, hsigned⟩ := h
  exact ⟨hbody, hsignature, secret, hsub secret hmem hne, hne, hsigned⟩

lemma isSignedUnder_append {secrets others : List String} :
    IsSignedUnder platform params (secrets ++ others) ↔
      IsSignedUnder platform params secrets ∨ IsSignedUnder platform params others := by
  constructor
  · rintro ⟨hbody, hsignature, secret, hmem, h⟩
    rcases List.mem_append.mp hmem with hmem | hmem
    · exact .inl ⟨hbody, hsignature, secret, hmem, h⟩
    · exact .inr ⟨hbody, hsignature, secret, hmem, h⟩
  · rintro (h | h)
    · exact h.mono fun _ hmem _ => List.mem_append_left _ hmem
    · exact h.mono fun _ hmem _ => List.mem_append_right _ hmem

lemma verifySignature_isSome {rawBody signature : String} {secrets : List String} :
    (verifySignature platform env rawBody signature secrets).isSome ↔
      rawBody ≠ "" ∧ signature ≠ "" ∧ ∃ secret ∈ candidateSecrets platform env secrets,
        secret ≠ "" ∧ platform.hmacSha256 secret rawBody = signature := by
  rw [verifySignature]
  split_ifs with hempty
  · simp only [Option.isSome_none, Bool.false_eq_true, false_iff]
    rintro ⟨hbody, hsignature, -⟩
    exact hempty.elim hbody hsignature
  · obtain ⟨hbody, hsignature⟩ := not_or.mp hempty
    simp [List.findIdx?_isSome, hbody, hsignature]

lemma passesChecks_of_isOk (h : (validateWebhook platform env params now).isOk) :
    PassesChecks env params now := by
  simp only [validateWebhook] at h
  split_ifs at h with hsize haddress htime
  · cases h
  · cases h
  · cases h
  · exact ⟨Nat.le_of_not_lt hsize, by simpa using haddress, by simpa using htime⟩

/-- Past them, the signature decides. -/
lemma validateWebhook_isOk_iff_isSignedUnder (h : PassesChecks env params now) :
    (validateWebhook platform env params now).isOk ↔
      IsSignedUnder platform params (candidateSecrets platform env params.webhookSecrets) := by
  obtain ⟨hsize, haddress, htime⟩ := h
  simp only [validateWebhook, Nat.not_lt.mpr hsize, haddress, htime, IsSignedUnder]
  cases params.signatureHeader with
  | none           => simp [Except.isOk, Except.toBool]
  | some signature =>
    by_cases hempty : signature = ""
    · simp [hempty, Option.filter_some, Except.isOk, Except.toBool]
    · have hverified :
          (verifySignature platform env params.rawBody signature params.webhookSecrets).isSome ↔ _ :=
        verifySignature_isSome
      simp only [hempty, Option.filter_some, ne_eq, not_false_eq_true, decide_true, if_true,
        Option.some.injEq, eq_comm (a := signature), true_and] at hverified ⊢
      rw [← hverified]
      cases verifySignature platform env params.rawBody signature params.webhookSecrets with
      | none       => simp [Except.isOk, Except.toBool]
      | some index => simp [Except.isOk, Except.toBool]

lemma authenticates_iff {configured : List String} :
    Authenticates platform env params now configured ↔
      (PassesChecks env params now →
        IsSignedUnder platform params (candidateSecrets platform env params.webhookSecrets) →
        IsSignedUnder platform params configured) := by
  constructor
  · intro h hchecks hsigned
    exact h ((validateWebhook_isOk_iff_isSignedUnder hchecks).mpr hsigned)
  · intro h hok
    have hchecks := passesChecks_of_isOk hok
    exact h hchecks ((validateWebhook_isOk_iff_isSignedUnder hchecks).mp hok)

end WebhookValidator

/-! ### The secrets that a tenant is served with -/

namespace RazorpayConnectionService

/-- The secrets that a tenant has configured, for one environment or the other. -/
def allConfiguredSecrets (credentials : Credentials) (tenantId : String) : List String :=
  configuredSecrets credentials tenantId .test ++ configuredSecrets credentials tenantId .live

/-- The current secret of the platform. -/
def currentSecret (platform : Platform) : List String :=
  (platform.razorpayWebhookSecret.filter (· ≠ "")).toList

/-- The secrets of the platform that the deliveries for a tenant are tried with: its current one
for an environment that the tenant has no secret for, and where there is none either, its old one
and that of its tests. -/
def borrowedSecrets (platform : Platform) (env : WebhookEnv) (credentials : Credentials)
    (tenantId : String) : List String :=
  if configuredSecrets credentials tenantId .test ≠ [] ∧
      configuredSecrets credentials tenantId .live ≠ [] then []
  else if allConfiguredSecrets credentials tenantId ++ currentSecret platform ≠ [] then
    currentSecret platform
  else [env.webhookSecretOld, some "rzp_whsec_ctrl_test"].reduceOption

variable {platform : Platform} {env : WebhookEnv} {credentials : Credentials} {tenantId : String}

lemma mem_getWebhookSecrets {environment : Environment} {secret : String} :
    secret ∈ getWebhookSecrets platform credentials tenantId environment ↔
      secret ∈ configuredSecrets credentials tenantId environment ∨
        configuredSecrets credentials tenantId environment = [] ∧
          secret ∈ currentSecret platform := by
  rw [getWebhookSecrets, ← currentSecret]
  cases configuredSecrets credentials tenantId environment with
  | nil                 => simp
  | cons secret secrets => simp

lemma mem_webhookSecrets {db : Db} {live : Bool} {secret : String} :
    secret ∈ RazorpayWebhook.webhookSecrets platform credentials db .razorpay tenantId live ↔
      secret ∈ getWebhookSecrets platform credentials tenantId .test ++
        getWebhookSecrets platform credentials tenantId .live := by
  simp only [RazorpayWebhook.webhookSecrets]
  cases RazorpayWebhook.secretsEnvironment db tenantId live with
  | live => simp [List.mem_eraseDups, or_comm]
  | test => simp [List.mem_eraseDups]

lemma candidateSecrets_of_ne_nil {secrets : List String} (h : secrets ≠ []) :
    WebhookValidator.candidateSecrets platform env secrets = secrets := by
  cases secrets with
  | nil                 => exact absurd rfl h
  | cons secret secrets => rfl

/-- The candidates of a delivery are the tenant's own secrets and the borrowed ones. -/
lemma mem_candidateSecrets {db : Db} {live : Bool} {secret : String} (hne : secret ≠ "") :
    secret ∈ WebhookValidator.candidateSecrets platform env
        (RazorpayWebhook.webhookSecrets platform credentials db .razorpay tenantId live) ↔
      secret ∈ allConfiguredSecrets credentials tenantId ++
        borrowedSecrets platform env credentials tenantId := by
  have hserved (secret : String) :
      secret ∈ RazorpayWebhook.webhookSecrets platform credentials db .razorpay tenantId live ↔ _ :=
    mem_webhookSecrets
  generalize RazorpayWebhook.webhookSecrets platform credentials db .razorpay tenantId live =
    secrets at hserved ⊢
  simp only [List.mem_append, mem_getWebhookSecrets] at hserved
  simp only [allConfiguredSecrets, borrowedSecrets]
  by_cases hempty : secrets = []
  · -- nothing to try: the tenant has no secret, and the platform no current one
    subst hempty
    simp only [List.not_mem_nil, false_iff, not_or, not_and] at hserved
    have htest : configuredSecrets credentials tenantId .test = [] :=
      List.eq_nil_iff_forall_not_mem.mpr fun s => (hserved s).1.1
    have hlive : configuredSecrets credentials tenantId .live = [] :=
      List.eq_nil_iff_forall_not_mem.mpr fun s => (hserved s).2.1
    have hcurrent : currentSecret platform = [] :=
      List.eq_nil_iff_forall_not_mem.mpr fun s => (hserved s).1.2 htest
    simp only [htest, hlive, hcurrent, WebhookValidator.candidateSecrets]
    cases hplatform : platform.razorpayWebhookSecret with
    | none   => simp [List.reduceOption, hne]
    | some s =>
      have hs : s = "" := by simpa [currentSecret, hplatform] using hcurrent
      simp [List.reduceOption, hne, hs]
  · rw [candidateSecrets_of_ne_nil hempty, hserved]
    by_cases htest : configuredSecrets credentials tenantId .test = []
    · by_cases hlive : configuredSecrets credentials tenantId .live = []
      · have hcurrent : currentSecret platform ≠ [] := by
          intro hcurrent
          exact hempty (List.eq_nil_iff_forall_not_mem.mpr fun s hs => by
            simpa [htest, hlive, hcurrent] using (hserved s).mp hs)
        simp [htest, hlive, hcurrent]
      · simp only [htest, hlive, List.not_mem_nil, false_or, true_and, ne_eq, not_true_eq_false,
          false_and, List.nil_append, List.append_eq_nil_iff, not_false_eq_true, if_true, if_false,
          List.mem_append, or_false]
        exact or_comm
    · by_cases hlive : configuredSecrets credentials tenantId .live = []
      · simp [htest, hlive]
      · simp [htest, hlive]

/-- Validation speaks for the secrets of the caller exactly when there are some, or the delivery is
not signed under those of the platform; and on the route it speaks for the secrets of the tenant
exactly when every signature under a borrowed secret is one under a secret of the tenant as well. -/
theorem authenticates_iff_not_borrowed (platform : Platform) (env : WebhookEnv)
    (credentials : Credentials) (db : Db) (tenantId : String) (live : Bool)
    (params : WebhookValidator.Params) (now : Timestamp) :
    (WebhookValidator.Authenticates platform env params now params.webhookSecrets ↔
      (params.webhookSecrets = [] → WebhookValidator.PassesChecks env params now →
        ¬ WebhookValidator.IsSignedUnder platform params
          (WebhookValidator.candidateSecrets platform env []))) ∧
    (WebhookValidator.Authenticates platform env
        { params with
          webhookSecrets :=
            RazorpayWebhook.webhookSecrets platform credentials db .razorpay tenantId live }
        now (allConfiguredSecrets credentials tenantId) ↔
      (WebhookValidator.PassesChecks env params now →
        WebhookValidator.IsSignedUnder platform params
          (borrowedSecrets platform env credentials tenantId) →
        WebhookValidator.IsSignedUnder platform params
          (allConfiguredSecrets credentials tenantId))) := by
  constructor
  · rw [WebhookValidator.authenticates_iff]
    by_cases hempty : params.webhookSecrets = []
    · rw [hempty]
      simp only [WebhookValidator.not_isSignedUnder_nil, forall_true_left]
    · rw [candidateSecrets_of_ne_nil hempty]
      simp [hempty]
  · rw [WebhookValidator.authenticates_iff]
    have hcandidates : WebhookValidator.IsSignedUnder platform params
        (WebhookValidator.candidateSecrets platform env
          (RazorpayWebhook.webhookSecrets platform credentials db .razorpay tenantId live)) ↔
        WebhookValidator.IsSignedUnder platform params
          (allConfiguredSecrets credentials tenantId ++
            borrowedSecrets platform env credentials tenantId) :=
      ⟨.mono fun _ hmem hne => (mem_candidateSecrets hne).mp hmem,
        .mono fun _ hmem hne => (mem_candidateSecrets hne).mpr hmem⟩
    show (WebhookValidator.PassesChecks env params now →
      WebhookValidator.IsSignedUnder platform params _ →
      WebhookValidator.IsSignedUnder platform params _) ↔ _
    rw [hcandidates, WebhookValidator.isSignedUnder_append]
    constructor
    · intro h hchecks hborrowed
      exact h hchecks (.inr hborrowed)
    · intro h hchecks hsigned
      exact hsigned.elim id (h hchecks)

/-- A production environment in which the platform has no secret of its own. -/
def bareEnv : WebhookEnv where
  isTest := false
  disableIpCheck := false
  enableIpCheck := false
  egressIps := none
  webhookSecretOld := none

/-- A delivery for a tenant without secrets, signed under the secret of the tests. -/
def unconfiguredDelivery : WebhookValidator.Params where
  webhookSecrets :=
    RazorpayWebhook.webhookSecrets Platform.plain (fun _ _ => none) Db.empty .razorpay "tenant_a" false
  clientIp := "203.0.113.9"
  rawBody := "{}"
  signatureHeader := some (Platform.plain.hmacSha256 "rzp_whsec_ctrl_test" "{}")
  timestampHeader := none

/-- A tenant without secrets accepts what is signed under the secret of the tests. -/
theorem accepts_test_secret :
    unconfiguredDelivery.webhookSecrets = [] ∧
      (WebhookValidator.validateWebhook Platform.plain bareEnv unconfiguredDelivery 0).isOk ∧
      ¬ WebhookValidator.Authenticates Platform.plain bareEnv unconfiguredDelivery 0
          unconfiguredDelivery.webhookSecrets ∧
      ¬ WebhookValidator.Authenticates Platform.plain bareEnv unconfiguredDelivery 0
          (allConfiguredSecrets (fun _ _ => none) "tenant_a") := by
  have hempty : unconfiguredDelivery.webhookSecrets = [] := by decide
  have hok : (WebhookValidator.validateWebhook Platform.plain bareEnv unconfiguredDelivery 0).isOk :=
    by decide
  refine ⟨hempty, hok, fun h => ?_, fun h => ?_⟩
  · exact WebhookValidator.not_isSignedUnder_nil (hempty ▸ h hok)
  · exact WebhookValidator.not_isSignedUnder_nil (h hok)

end RazorpayConnectionService

end CtrlRecovery
