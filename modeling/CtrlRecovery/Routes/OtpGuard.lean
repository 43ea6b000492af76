import CtrlRecovery.Core.Run
import CtrlRecovery.Routes.Otp

/-!
# Guesses and sessions of one-time codes

The counter of wrong codes is read before the stored code is fetched and written after it was
compared, and a code is deleted after it was matched. Where the requests that verify a code for an
email do not overlap, the counter covers the wrong codes of the last ten minutes, and a code that leads
to a session is gone (`otpGuarantee_of_guarded`); requests that overlap all read the same counter and
the same code.
-/

namespace CtrlRecovery

open Core

namespace OtpRoutes

/-- At most five wrong codes are compared in any ten minutes, and a code leads to one session. -/
structure OtpGuarantee (email : String) (s : OtpState) : Prop where
  guesses : ∀ start, SlidingWindow.within tenMinutes start (s.wrongTimes email) ≤ 5
  sessions : ∀ issue, s.sessions.count (email, issue) ≤ 1

/-- The number of wrong codes of the last ten minutes. -/
def recentGuesses (s : OtpState) (email : String) : ℕ :=
  SlidingWindow.recent tenMinutes s.now (s.wrongTimes email)

/-- No request to verify a code for the email starts during another one, and the counter is neither
cleared by a code that matches nor changed by the cache within ten minutes of a wrong one. -/
def Guarded (email : String) (s : OtpState) (action : OtpAction) (_ : OtpState) : Prop :=
  match action with
  | .verifyOtp _ address _ =>
    cleanEmail address = email →
      ∀ r ∈ s.requests.rows, r.email = email → r.phase.isVerifying = false
  | .resume id =>
    ∀ r ∈ s.requests.rows, r.id = id → r.email = email →
      r.phase.isClearing = true → recentGuesses s email = 0
  | .cacheChange key _ => key = failKey email → recentGuesses s email = 0
  | _ => True

lemma failKey_injective : Function.Injective failKey := by
  intro email email' h
  exact (String.append_right_inj "auth_otp_failed:").mp h

variable {process : AuthProcess} {s t : OtpState} {email : String} {r r' : OtpRequest}
  {action : OtpAction}

/-! ### What a step does to the requests -/

lemma mem_suspend : r ∈ (s.suspend r').requests.rows ↔
    r = r' ∨ (r ∈ s.requests.rows ∧ r.id ≠ r'.id) := Table.mem_put

lemma mem_finish {id : ℕ} : r ∈ (s.finish id).requests.rows ↔ r ∈ s.requests.rows ∧ r.id ≠ id :=
  Table.mem_erase

/-- What a request does when it is resumed. -/
inductive Resumed (process : AuthProcess) (s : OtpState) (r : OtpRequest) : OtpState → Prop
  | stored {expiresAt : Timestamp} (hphase : r.phase = .storing expiresAt) :
      Resumed process s r { s.finish r.id with
        authOtps := s.authOtps.put ⟨r.email, process.platform.sha256 r.otp, expiresAt, s.issued⟩
        issued := s.issued + 1 }
  | locked (hphase : r.phase = .counting) : Resumed process s r (s.finish r.id)
  | bypassed (hphase : r.phase = .counting) :
      Resumed process s r (s.suspend { r with phase := .signingIn none })
  | counted (hphase : r.phase = .counting)
      (hopen : (s.cache.get s.now (failKey r.email)).getD 0 < 5) :
      Resumed process s r
        (s.suspend { r with phase := .querying ((s.cache.get s.now (failKey r.email)).getD 0) })
  | queried {failedAttempts : ℕ} (hphase : r.phase = .querying failedAttempts) :
      Resumed process s r
        (s.suspend { r with phase := .comparing failedAttempts (s.authOtps.find? r.email) })
  | missing {failedAttempts : ℕ} (hphase : r.phase = .comparing failedAttempts none) :
      Resumed process s r (s.finish r.id)
  | expired {failedAttempts : ℕ} {record : OtpRecord}
      (hphase : r.phase = .comparing failedAttempts (some record)) :
      Resumed process s r (s.suspend { r with phase := .discarding })
  | matched {failedAttempts : ℕ} {record : OtpRecord}
      (hphase : r.phase = .comparing failedAttempts (some record)) :
      Resumed process s r (s.suspend { r with phase := .clearing record.issue })
  | mismatched {failedAttempts : ℕ} {record : OtpRecord}
      (hphase : r.phase = .comparing failedAttempts (some record)) :
      Resumed process s r { s.suspend { r with phase := .countingFailure failedAttempts } with
        wrong := (r.email, s.now) :: s.wrong }
  | discarded (hphase : r.phase = .discarding) :
      Resumed process s r { s.finish r.id with authOtps := s.authOtps.erase r.email }
  | failureCounted {failedAttempts : ℕ} (hphase : r.phase = .countingFailure failedAttempts) :
      Resumed process s r { s.finish r.id with
        cache := s.cache.set s.now (failKey r.email) (failedAttempts + 1) (600 * 1000) }
  | cleared {issue : ℕ} (hphase : r.phase = .clearing issue) :
      Resumed process s r { s.suspend { r with phase := .consuming issue } with
        cache := s.cache.del (failKey r.email) }
  | consumed {issue : ℕ} (hphase : r.phase = .consuming issue) :
      Resumed process s r { s.suspend { r with phase := .signingIn (some issue) } with
        authOtps := s.authOtps.erase r.email }

lemma resumed (h : resume process s r = some t) : Resumed process s r t := by
  cases hphase : r.phase with
  | storing expiresAt =>
    simp only [resume, hphase] at h
    cases h
    exact .stored hphase
  | counting =>
    simp only [resume, hphase] at h
    split_ifs at h with hlocked <;> cases h
    · exact .locked hphase
    · exact .bypassed hphase
    · exact .counted hphase (Nat.lt_of_not_le hlocked)
  | querying failedAttempts =>
    simp only [resume, hphase] at h
    cases h
    exact .queried hphase
  | comparing failedAttempts record =>
    cases record with
    | none =>
      simp only [resume, hphase] at h
      cases h
      exact .missing hphase
    | some record =>
      simp only [resume, hphase] at h
      split_ifs at h <;> cases h
      · exact .expired hphase
      · exact .matched hphase
      · exact .mismatched hphase
  | discarding =>
    simp only [resume, hphase] at h
    cases h
    exact .discarded hphase
  | countingFailure failedAttempts =>
    simp only [resume, hphase] at h
    cases h
    exact .failureCounted hphase
  | clearing issue =>
    simp only [resume, hphase] at h
    cases h
    exact .cleared hphase
  | consuming issue =>
    simp only [resume, hphase] at h
    cases h
    exact .consumed hphase
  | signingIn issue =>
    simp only [resume, hphase] at h
    cases h

lemma requests_resume (h : resume process s r = some t) :
    t.requests = s.requests.erase r.id ∨
      ∃ phase, r.phase.isVerifying = true ∧ phase.isVerifying = true ∧
        t.requests = s.requests.put { r with phase } := by
  cases resumed h with
  | stored | locked | missing | discarded | failureCounted => exact .inl rfl
  | bypassed hphase | counted hphase | queried hphase | expired hphase | matched hphase
    | mismatched hphase | cleared hphase | consumed hphase =>
    exact .inr ⟨_, by rw [hphase]; rfl, rfl, rfl⟩

lemma requests_signIn {account : AccountDraw} {draw : SessionDraw} {passwordHash : String}
    (h : signIn process s r account draw passwordHash = some t) :
    t.requests = s.requests.erase r.id := by
  rw [signIn.eq_def] at h
  split at h
  · obtain ⟨⟨identity, session⟩, -, rfl⟩ := Option.map_eq_some_iff.mp h
    cases session <;> rfl
  · cases h

/-! ### One request at a time -/

/-- No two requests verify a code for the email. -/
def Alone (email : String) (s : OtpState) : Prop :=
  ∀ r ∈ s.requests.rows, ∀ r' ∈ s.requests.rows, r.email = email → r'.email = email →
    r.phase.isVerifying = true → r'.phase.isVerifying = true → r = r'

lemma Alone.of_subset (h : Alone email s) (hsub : t.requests.rows ⊆ s.requests.rows) :
    Alone email t :=
  fun r hr r' hr' => h r (hsub hr) r' (hsub hr')

lemma Alone.of_erase (h : Alone email s) {id : ℕ} (ht : t.requests = s.requests.erase id) :
    Alone email t := by
  apply h.of_subset
  intro r hr
  rw [ht] at hr
  exact (Table.mem_erase.mp hr).1

lemma Alone.of_put (h : Alone email s) (hr : r ∈ s.requests.rows)
    (hverifying : r.phase.isVerifying = true) {phase : OtpPhase}
    (ht : t.requests = s.requests.put { r with phase }) : Alone email t := by
  intro r₁ hr₁ r₂ hr₂ hemail₁ hemail₂ hphase₁ hphase₂
  rw [ht] at hr₁ hr₂
  rcases Table.mem_put.mp hr₁ with rfl | ⟨hr₁, hid₁⟩ <;>
    rcases Table.mem_put.mp hr₂ with rfl | ⟨hr₂, hid₂⟩
  · rfl
  · cases h r hr r₂ hr₂ hemail₁ hemail₂ hverifying hphase₂
    exact absurd rfl hid₂
  · cases h r₁ hr₁ r hr hemail₁ hemail₂ hphase₁ hverifying
    exact absurd rfl hid₁
  · exact h r₁ hr₁ r₂ hr₂ hemail₁ hemail₂ hphase₁ hphase₂

/-- A new request is to send a code, is for another email, or is the only one. -/
lemma Alone.of_new (h : Alone email s)
    (hnew : r'.email = email → r'.phase.isVerifying = true →
      ∀ r ∈ s.requests.rows, r.email = email → r.phase.isVerifying = false) :
    Alone email (s.suspend r') := by
  intro r₁ hr₁ r₂ hr₂ hemail₁ hemail₂ hphase₁ hphase₂
  rcases mem_suspend.mp hr₁ with rfl | ⟨hold₁, -⟩ <;>
    rcases mem_suspend.mp hr₂ with rfl | ⟨hold₂, -⟩
  · rfl
  · exact absurd hphase₂ (by simp [hnew hemail₁ hphase₁ r₂ hold₂ hemail₂])
  · exact absurd hphase₁ (by simp [hnew hemail₂ hphase₂ r₁ hold₁ hemail₁])
  · exact h r₁ hold₁ r₂ hold₂ hemail₁ hemail₂ hphase₁ hphase₂

lemma alone_step (h : Alone email s) (hstep : step process s action = some t)
    (hguarded : Guarded email s action t) : Alone email t := by
  cases action with
  | sendOtp id address code =>
    simp only [step] at hstep
    split_ifs at hstep
    cases hstep
    rw [sendOtp]
    split_ifs
    · exact h
    all_goals exact h.of_new fun _ hphase => by cases hphase
  | verifyOtp id address otp =>
    simp only [step] at hstep
    split_ifs at hstep
    cases hstep
    rw [verifyOtp]
    split_ifs
    · exact h
    · exact h.of_new fun hemail _ => hguarded hemail
  | resume id =>
    obtain ⟨r, hfind, hresume⟩ := Option.bind_eq_some_iff.mp hstep
    rcases requests_resume hresume with ht | ⟨phase, hverifying, -, ht⟩
    · exact h.of_erase ht
    · exact h.of_put (Table.mem_of_find? hfind) hverifying ht
  | signIn id account draw passwordHash =>
    obtain ⟨r, -, hsign⟩ := Option.bind_eq_some_iff.mp hstep
    exact h.of_erase (requests_signIn hsign)
  | fail id =>
    obtain ⟨r, -, rfl⟩ := Option.map_eq_some_iff.mp hstep
    exact h.of_erase rfl
  | tick ms =>
    cases hstep
    exact h
  | cacheChange key entry =>
    cases hstep
    exact h

/-! ### The counter covers the wrong codes -/

/-- The count that a request has read covers the wrong codes of the last ten minutes. -/
def Allows (recent : ℕ) : OtpPhase → Prop
  | .querying failedAttempts | .comparing failedAttempts _ =>
    recent ≤ failedAttempts ∧ failedAttempts < 5
  | .countingFailure failedAttempts => recent ≤ failedAttempts + 1
  | _ => True

lemma Allows.mono {recent recent' : ℕ} (hle : recent' ≤ recent) {phase : OtpPhase}
    (h : Allows recent phase) : Allows recent' phase := by
  cases phase with
  | querying failedAttempts => exact ⟨hle.trans h.1, h.2⟩
  | comparing failedAttempts record => exact ⟨hle.trans h.1, h.2⟩
  | countingFailure failedAttempts => exact hle.trans h
  | storing | counting | discarding | clearing | consuming | signingIn => trivial

/-- The counter in the cache covers the wrong codes of the last ten minutes, as long as there are any.
-/
def Covered (email : String) (s : OtpState) : Prop :=
  recentGuesses s email = 0 ∨ ∃ failedAttempts expiry,
    s.cache.entries (failKey email) = some (failedAttempts, expiry) ∧
      recentGuesses s email ≤ failedAttempts ∧
      ∀ time ∈ s.wrongTimes email, time + tenMinutes ≤ expiry

/-- What a request reads from the cache covers the wrong codes of the last ten minutes. -/
lemma Covered.recentGuesses_le (h : Covered email s) :
    recentGuesses s email ≤ (s.cache.get s.now (failKey email)).getD 0 := by
  obtain hnone | ⟨failedAttempts, expiry, hentry, hle, hexpiry⟩ := h
  · rw [hnone]
    exact Nat.zero_le _
  · by_cases hnow : s.now ≤ expiry
    · rw [TtlStore.get_of_entry hentry hnow]
      exact hle
    · have hnone : recentGuesses s email = 0 := by
        rw [recentGuesses, SlidingWindow.recent_eq_zero_iff]
        intro time htime
        exact (hexpiry time htime).trans (Nat.le_of_not_le hnow)
      rw [hnone]
      exact Nat.zero_le _

/-- The wrong codes of an email are counted. -/
structure Counted (email : String) (s : OtpState) : Prop where
  past : ∀ time ∈ s.wrongTimes email, time ≤ s.now
  allows : ∀ r ∈ s.requests.rows, r.email = email → Allows (recentGuesses s email) r.phase
  covered : (∀ r ∈ s.requests.rows, r.email = email → ∀ count, r.phase ≠ .countingFailure count) →
    Covered email s
  bounded : ∀ start, SlidingWindow.within tenMinutes start (s.wrongTimes email) ≤ 5

/-- The clock, the counter and the wrong codes of an email. -/
structure SameCount (email : String) (s t : OtpState) : Prop where
  now : t.now = s.now
  entry : t.cache.entries (failKey email) = s.cache.entries (failKey email)
  wrong : t.wrongTimes email = s.wrongTimes email

lemma SameCount.recentGuesses (h : SameCount email s t) :
    recentGuesses t email = recentGuesses s email := by
  rw [OtpRoutes.recentGuesses, h.now, h.wrong, OtpRoutes.recentGuesses]

/-- Nothing is counted anew where only requests change, none of which is about to count. -/
lemma Counted.of_same (h : Counted email s) (hsame : SameCount email s t)
    (hnew : ∀ r ∈ t.requests.rows, r.email = email →
      r ∈ s.requests.rows ∨ Allows (recentGuesses s email) r.phase)
    (hkept : ∀ r ∈ s.requests.rows, r.email = email → ∀ count,
      r.phase = .countingFailure count → r ∈ t.requests.rows) : Counted email t where
  past := by
    rw [hsame.wrong, hsame.now]
    exact h.past
  allows := by
    intro r hr hemail
    rw [hsame.recentGuesses]
    rcases hnew r hr hemail with hold | hallows
    · exact h.allows r hold hemail
    · exact hallows
  covered := by
    intro hnone
    rw [Covered, hsame.recentGuesses, hsame.entry, hsame.wrong]
    apply h.covered
    intro r hr hemail count hphase
    exact hnone r (hkept r hr hemail count hphase) hemail count hphase
  bounded := by
    rw [hsame.wrong]
    exact h.bounded

/-- A request that is not about to count finishes or goes on. -/
lemma Counted.of_progress (h : Counted email s) (hsame : SameCount email s t)
    (hr : r ∈ s.requests.rows) (hidle : r.email = email → ∀ count, r.phase ≠ .countingFailure count)
    (ht : t.requests = s.requests.erase r.id ∨
      ∃ phase, (r.email = email → Allows (recentGuesses s email) phase) ∧
        t.requests = s.requests.put { r with phase }) : Counted email t := by
  have hother : ∀ r₁ ∈ s.requests.rows, r₁.email = email → ∀ count,
      r₁.phase = .countingFailure count → r₁.id ≠ r.id := by
    intro r₁ hr₁ hemail count hphase hid
    cases s.requests.eq_of_key_eq hr₁ hr hid
    exact hidle hemail count hphase
  apply h.of_same hsame
  · intro r₁ hr₁ hemail
    rcases ht with ht | ⟨phase, hallows, ht⟩
    · rw [ht] at hr₁
      exact .inl (Table.mem_erase.mp hr₁).1
    · rw [ht] at hr₁
      rcases Table.mem_put.mp hr₁ with rfl | ⟨hr₁, -⟩
      · exact .inr (hallows hemail)
      · exact .inl hr₁
  · intro r₁ hr₁ hemail count hphase
    have hid := hother r₁ hr₁ hemail count hphase
    rcases ht with ht | ⟨phase, -, ht⟩
    · rw [ht]
      exact Table.mem_erase.mpr ⟨hr₁, hid⟩
    · rw [ht]
      exact Table.mem_put.mpr (.inr ⟨hr₁, hid⟩)

lemma sameCount_resume (h : resume process s r = some t) (hne : email ≠ r.email) :
    SameCount email s t := by
  have hkey : failKey email ≠ failKey r.email := failKey_injective.ne hne
  cases resumed h with
  | stored | locked | bypassed | counted | queried | missing | expired | matched | discarded
    | consumed => exact ⟨rfl, rfl, rfl⟩
  | mismatched => exact ⟨rfl, rfl, by simp [OtpState.wrongTimes, hne.symm]⟩
  | failureCounted => exact ⟨rfl, TtlStore.entries_set_of_ne hkey, rfl⟩
  | cleared => exact ⟨rfl, TtlStore.entries_del_of_ne hkey, rfl⟩

/-- A wrong code is compared when fewer than five are recent. -/
lemma Counted.of_mismatch (h : Counted email s) (halone : Alone email s)
    (hr : r ∈ s.requests.rows) (hemail : r.email = email) {failedAttempts : ℕ}
    {record : Option OtpRecord} (hphase : r.phase = .comparing failedAttempts record) :
    Counted email { s.suspend { r with phase := .countingFailure failedAttempts } with
      wrong := (r.email, s.now) :: s.wrong } := by
  have hread : Allows (recentGuesses s email) (.comparing failedAttempts record) :=
    hphase ▸ h.allows r hr hemail
  have htimes : OtpState.wrongTimes { s.suspend { r with phase := .countingFailure failedAttempts } with
      wrong := (r.email, s.now) :: s.wrong } email = s.now :: s.wrongTimes email := by
    simp [OtpState.wrongTimes, hemail]
  have hverifying : r.phase.isVerifying = true := by
    rw [hphase]
    rfl
  constructor
  · rw [htimes]
    exact List.forall_mem_cons.mpr ⟨le_rfl, h.past⟩
  · intro r₁ hr₁ hemail₁
    rcases mem_suspend.mp hr₁ with rfl | ⟨hr₁, hid⟩
    · have hle : SlidingWindow.recent tenMinutes s.now (s.now :: s.wrongTimes email) ≤
          recentGuesses s email + 1 := SlidingWindow.recent_cons_le
      rw [recentGuesses, htimes]
      exact hle.trans (Nat.add_le_add_right hread.1 1)
    · cases hphase₁ : r₁.phase with
      | storing expiresAt => trivial
      | counting | querying | comparing | discarding | countingFailure | clearing | consuming
        | signingIn =>
        cases halone r₁ hr₁ r hr hemail₁ hemail (by rw [hphase₁]; rfl) hverifying
        exact absurd rfl hid
  · intro hnone
    exact absurd rfl (hnone _ (mem_suspend.mpr (.inl rfl)) hemail failedAttempts)
  · rw [htimes]
    exact SlidingWindow.within_cons_le h.bounded (hread.1.trans_lt hread.2)

/-- The count of a request is written. -/
lemma Counted.of_count (h : Counted email s) (hr : r ∈ s.requests.rows) (hemail : r.email = email)
    {failedAttempts : ℕ} (hphase : r.phase = .countingFailure failedAttempts) :
    Counted email { s.finish r.id with
      cache := s.cache.set s.now (failKey r.email) (failedAttempts + 1) (600 * 1000) } := by
  have hread : Allows (recentGuesses s email) (.countingFailure failedAttempts) :=
    hphase ▸ h.allows r hr hemail
  refine ⟨h.past, ?_, ?_, h.bounded⟩
  · intro r₁ hr₁ hemail₁
    exact h.allows r₁ (mem_finish.mp hr₁).1 hemail₁
  · intro _
    refine .inr ⟨failedAttempts + 1, s.now + 600 * 1000, ?_, hread, ?_⟩
    · rw [hemail]
      exact TtlStore.entries_set_self
    · intro time htime
      exact Nat.add_le_add_right (h.past time htime) _

lemma Counted.of_noRecent (h : Counted email s) (hnone : recentGuesses s email = 0)
    {cache : TtlStore String ℕ} : Counted email { s with cache } :=
  ⟨h.past, h.allows, fun _ => .inl hnone, h.bounded⟩

lemma counted_resume (h : Counted email s) (halone : Alone email s) (hr : r ∈ s.requests.rows)
    (hresume : resume process s r = some t)
    (hclear : r.email = email → r.phase.isClearing = true → recentGuesses s email = 0) :
    Counted email t := by
  by_cases hemail : r.email = email
  · have hallows : Allows (recentGuesses s email) r.phase := h.allows r hr hemail
    cases resumed hresume with
    | stored hphase | locked hphase | missing hphase | discarded hphase =>
      exact h.of_progress ⟨rfl, rfl, rfl⟩ hr (by simp [hphase]) (.inl rfl)
    | bypassed hphase | expired hphase | matched hphase | consumed hphase =>
      refine h.of_progress ⟨rfl, rfl, rfl⟩ hr (by simp [hphase]) (.inr ⟨_, ?_, rfl⟩)
      exact fun _ => trivial
    | counted hphase hopen =>
      -- no other request for the email is about to count, so that the counter covers its codes
      have hread : recentGuesses s email ≤ (s.cache.get s.now (failKey r.email)).getD 0 := by
        rw [hemail]
        apply (h.covered _).recentGuesses_le
        intro r₁ hr₁ hemail₁ count hphase₁
        cases halone r₁ hr₁ r hr hemail₁ hemail (by rw [hphase₁]; rfl) (by rw [hphase]; rfl)
        rw [hphase] at hphase₁
        cases hphase₁
      refine h.of_progress ⟨rfl, rfl, rfl⟩ hr (by simp [hphase]) (.inr ⟨_, ?_, rfl⟩)
      exact fun _ => ⟨hread, hopen⟩
    | queried hphase =>
      rw [hphase] at hallows
      refine h.of_progress ⟨rfl, rfl, rfl⟩ hr (by simp [hphase]) (.inr ⟨_, ?_, rfl⟩)
      exact fun _ => hallows
    | mismatched hphase => exact h.of_mismatch halone hr hemail hphase
    | failureCounted hphase => exact h.of_count hr hemail hphase
    | @cleared issue hphase =>
      have hkept : Counted email (s.suspend { r with phase := .consuming issue }) := by
        refine h.of_progress ⟨rfl, rfl, rfl⟩ hr (by simp [hphase]) (.inr ⟨_, ?_, rfl⟩)
        exact fun _ => trivial
      exact hkept.of_noRecent (hclear hemail (by rw [hphase]; rfl))
  · apply h.of_progress (sameCount_resume hresume (Ne.symm hemail)) hr fun h => absurd h hemail
    rcases requests_resume hresume with ht | ⟨phase, -, -, ht⟩
    · exact .inl ht
    · exact .inr ⟨phase, fun h => absurd h hemail, ht⟩

lemma Counted.of_new (h : Counted email s) (hnew : s.requests.find? r.id = none)
    (hallows : ∀ recent, Allows recent r.phase) : Counted email (s.suspend r) := by
  apply h.of_same (t := s.suspend r) ⟨rfl, rfl, rfl⟩
  · intro r₁ hr₁ _
    rcases mem_suspend.mp hr₁ with rfl | ⟨hr₁, -⟩
    · exact .inr (hallows _)
    · exact .inl hr₁
  · intro r₁ hr₁ _ _ _
    exact mem_suspend.mpr (.inr ⟨hr₁, Table.find?_eq_none_iff.mp hnew r₁ hr₁⟩)

lemma counted_step (h : Counted email s) (halone : Alone email s)
    (hstep : step process s action = some t) (hguarded : Guarded email s action t) :
    Counted email t := by
  cases action with
  | sendOtp id address code =>
    simp only [step] at hstep
    split_ifs at hstep with hnew
    cases hstep
    simp only [Bool.or_eq_true, not_or, Bool.not_eq_true, Option.isSome_eq_false_iff,
      Option.isNone_iff_eq_none] at hnew
    rw [sendOtp]
    split_ifs
    · exact h
    all_goals exact h.of_new hnew.1.1 fun _ => trivial
  | verifyOtp id address otp =>
    simp only [step] at hstep
    split_ifs at hstep with hnew
    cases hstep
    simp only [Bool.not_eq_true, Option.isSome_eq_false_iff, Option.isNone_iff_eq_none] at hnew
    rw [verifyOtp]
    split_ifs
    · exact h
    · exact h.of_new hnew fun _ => trivial
  | resume id =>
    obtain ⟨r, hfind, hresume⟩ := Option.bind_eq_some_iff.mp hstep
    obtain ⟨hr, hid⟩ := Table.find?_eq_some_iff.mp hfind
    exact counted_resume h halone hr hresume fun hemail => hguarded r hr hid hemail
  | signIn id account draw passwordHash =>
    obtain ⟨r, hfind, hsign⟩ := Option.bind_eq_some_iff.mp hstep
    have hsame := requests_signIn hsign
    rw [signIn.eq_def] at hsign
    split at hsign
    next issue hphase =>
      obtain ⟨⟨identity, session⟩, -, rfl⟩ := Option.map_eq_some_iff.mp hsign
      apply h.of_progress _ (Table.mem_of_find? hfind) (by simp [hphase]) (.inl hsame)
      cases session <;> exact ⟨rfl, rfl, rfl⟩
    · cases hsign
  | fail id =>
    obtain ⟨r, hfind, rfl⟩ := Option.map_eq_some_iff.mp hstep
    obtain ⟨hfind, hwaits⟩ := Option.filter_eq_some_iff.mp hfind
    have hidle : r.email = email → ∀ count, r.phase ≠ .countingFailure count := by
      rintro - count hphase
      rw [hphase] at hwaits
      cases hwaits
    exact h.of_progress ⟨rfl, rfl, rfl⟩ (Table.mem_of_find? hfind) hidle (.inl rfl)
  | tick ms =>
    cases hstep
    have hle : recentGuesses { s with now := s.now + ms } email ≤ recentGuesses s email :=
      SlidingWindow.recent_mono (Nat.le_add_right _ _)
    refine ⟨fun time htime => (h.past time htime).trans (Nat.le_add_right _ _),
      fun r hr hemail => (h.allows r hr hemail).mono hle, ?_, h.bounded⟩
    intro hnone
    rcases h.covered hnone with hzero | ⟨failedAttempts, expiry, hentry, hcount, hexpiry⟩
    · exact .inl (Nat.eq_zero_of_le_zero (hle.trans_eq hzero))
    · exact .inr ⟨failedAttempts, expiry, hentry, hle.trans hcount, hexpiry⟩
  | cacheChange key entry =>
    cases hstep
    by_cases hkey : key = failKey email
    · exact h.of_noRecent (hguarded hkey)
    · exact h.of_same ⟨rfl, TtlStore.entries_change_of_ne (Ne.symm hkey), rfl⟩
        (fun r hr _ => .inl hr) fun r hr _ _ _ => hr

/-! ### A code leads to one session -/

/-- A code that was issued and has led to no session. -/
def Unused (email : String) (s : OtpState) (issue : ℕ) : Prop :=
  issue < s.issued ∧ (email, issue) ∉ s.sessions

/-- The codes that are stored, or that a request has read, are unused; those for which a session is
about to be made are stored no more. -/
structure Consumed (email : String) (s : OtpState) : Prop where
  stored : ∀ record ∈ s.authOtps.rows, record.email = email → Unused email s record.issue
  held : ∀ r ∈ s.requests.rows, r.email = email → ∀ issue ∈ r.phase.issue?, Unused email s issue
  deleted : ∀ r ∈ s.requests.rows, r.email = email → ∀ issue, r.phase = .signingIn (some issue) →
    ∀ record ∈ s.authOtps.rows, record.email = email → record.issue ≠ issue
  known : ∀ issue, (email, issue) ∈ s.sessions → issue < s.issued
  once : ∀ issue, s.sessions.count (email, issue) ≤ 1

/-- What a request may read where no code is stored and no session made. -/
def MayHold (email : String) (s t : OtpState) (phase : OtpPhase) : Prop :=
  (∀ issue ∈ phase.issue?, Unused email s issue) ∧
    ∀ issue, phase = .signingIn (some issue) → ∀ record ∈ t.authOtps.rows, record.email ≠ email

lemma Consumed.of_same (h : Consumed email s) (hissued : t.issued = s.issued)
    (hsessions : t.sessions = s.sessions) (hrows : t.authOtps.rows ⊆ s.authOtps.rows)
    (hnew : ∀ r ∈ t.requests.rows, r.email = email →
      r ∈ s.requests.rows ∨ MayHold email s t r.phase) : Consumed email t := by
  have hunused : ∀ issue, Unused email s issue → Unused email t issue := by
    intro issue hissue
    rw [Unused, hissued, hsessions]
    exact hissue
  refine ⟨?_, ?_, ?_, ?_, ?_⟩
  · intro record hrecord hemail
    exact hunused _ (h.stored record (hrows hrecord) hemail)
  · intro r hr hemail issue hissue
    rcases hnew r hr hemail with hold | ⟨hholds, -⟩
    · exact hunused _ (h.held r hold hemail issue hissue)
    · exact hunused _ (hholds issue hissue)
  · intro r hr hemail issue hphase record hrecord hrecordEmail
    rcases hnew r hr hemail with hold | ⟨-, hgone⟩
    · exact h.deleted r hold hemail issue hphase record (hrows hrecord) hrecordEmail
    · exact absurd hrecordEmail (hgone issue hphase record hrecord)
  · rw [hsessions, hissued]
    exact h.known
  · rw [hsessions]
    exact h.once

lemma Consumed.of_finish (h : Consumed email s) {id : ℕ} (hissued : t.issued = s.issued)
    (hsessions : t.sessions = s.sessions) (hrows : t.authOtps.rows ⊆ s.authOtps.rows)
    (ht : t.requests = s.requests.erase id) : Consumed email t := by
  apply h.of_same hissued hsessions hrows
  intro r hr _
  rw [ht] at hr
  exact .inl (Table.mem_erase.mp hr).1

lemma Consumed.of_suspend (h : Consumed email s) (hissued : t.issued = s.issued)
    (hsessions : t.sessions = s.sessions) (hrows : t.authOtps.rows ⊆ s.authOtps.rows)
    (ht : t.requests = s.requests.put r) (hr : r.email = email → MayHold email s t r.phase) :
    Consumed email t := by
  apply h.of_same hissued hsessions hrows
  intro r₁ hr₁ hemail
  rw [ht] at hr₁
  rcases Table.mem_put.mp hr₁ with rfl | ⟨hr₁, -⟩
  · exact .inr (hr hemail)
  · exact .inl hr₁

/-- A code that is stored is a new one. -/
lemma Consumed.of_store (h : Consumed email s) {id : ℕ} {address otp : String}
    {expiresAt : Timestamp} :
    Consumed email { s.finish id with
      authOtps := s.authOtps.put ⟨address, otp, expiresAt, s.issued⟩
      issued := s.issued + 1 } := by
  have hunused : ∀ issue, Unused email s issue → issue < s.issued + 1 ∧ (email, issue) ∉ s.sessions :=
    fun issue hissue => ⟨Nat.lt_succ_of_lt hissue.1, hissue.2⟩
  refine ⟨?_, ?_, ?_, ?_, h.once⟩
  · intro record hrecord hemail
    rcases Table.mem_put.mp hrecord with rfl | ⟨hrecord, -⟩
    · exact ⟨Nat.lt_succ_self _, fun hmem => lt_irrefl _ (h.known _ hmem)⟩
    · exact hunused _ (h.stored record hrecord hemail)
  · intro r hr hemail issue hissue
    exact hunused _ (h.held r (mem_finish.mp hr).1 hemail issue hissue)
  · intro r hr hemail issue hphase record hrecord hrecordEmail
    have hr := (mem_finish.mp hr).1
    rcases Table.mem_put.mp hrecord with rfl | ⟨hrecord, -⟩
    · have hheld : Unused email s issue := h.held r hr hemail issue (by rw [hphase]; rfl)
      exact hheld.1.ne'
    · exact h.deleted r hr hemail issue hphase record hrecord hrecordEmail
  · exact fun issue hmem => Nat.lt_succ_of_lt (h.known issue hmem)

/-- The session of a code is made. -/
lemma Consumed.of_session (h : Consumed email s) (halone : Alone email s)
    (hr : r ∈ s.requests.rows) (hemail : r.email = email) {issue : ℕ} {identity : IdentityDb}
    (hphase : r.phase = .signingIn (some issue)) :
    Consumed email { s.finish r.id with
      identity, sessions := (r.email, issue) :: s.sessions } := by
  have hunused : Unused email s issue := h.held r hr hemail issue (by rw [hphase]; rfl)
  have hnone : ∀ r₁ ∈ (s.finish r.id).requests.rows, r₁.email = email →
      r₁.phase.isVerifying = false := by
    intro r₁ hr₁ hemail₁
    obtain ⟨hr₁, hid⟩ := mem_finish.mp hr₁
    by_contra hverifying
    rw [Bool.not_eq_false] at hverifying
    cases halone r₁ hr₁ r hr hemail₁ hemail hverifying (by rw [hphase]; rfl)
    exact hid rfl
  have hidle : ∀ phase : OtpPhase, phase.isVerifying = false → phase.issue? = none := by
    intro phase hphase
    cases phase <;> first | rfl | cases hphase
  refine ⟨?_, ?_, ?_, ?_, ?_⟩
  · intro record hrecord hrecordEmail
    have hstored := h.stored record hrecord hrecordEmail
    refine ⟨hstored.1, ?_⟩
    have hne := h.deleted r hr hemail issue hphase record hrecord hrecordEmail
    simp [hne, hstored.2]
  · intro r₁ hr₁ hemail₁ issue₁ hissue₁
    rw [hidle _ (hnone r₁ hr₁ hemail₁)] at hissue₁
    cases hissue₁
  · intro r₁ hr₁ hemail₁ issue₁ hphase₁
    have hverifying := hnone r₁ hr₁ hemail₁
    rw [hphase₁] at hverifying
    cases hverifying
  · intro issue₁ hmem
    rcases List.mem_cons.mp hmem with heq | hmem
    · cases heq
      exact hunused.1
    · exact h.known issue₁ hmem
  · intro issue₁
    show ((r.email, issue) :: s.sessions).count (email, issue₁) ≤ 1
    rw [List.count_cons, hemail]
    split_ifs with heq
    · cases eq_of_beq heq
      rw [List.count_eq_zero_of_not_mem hunused.2]
    · exact h.once issue₁

/-- The session of another email is made. -/
lemma Consumed.of_otherSession (h : Consumed email s) {address : String} (hne : address ≠ email)
    {id issue : ℕ} {identity : IdentityDb} :
    Consumed email { s.finish id with identity, sessions := (address, issue) :: s.sessions } := by
  have hother : ∀ issue₁, (address, issue) ≠ (email, issue₁) :=
    fun issue₁ heq => hne (congrArg Prod.fst heq)
  have hunused : ∀ issue₁, Unused email s issue₁ →
      issue₁ < s.issued ∧ (email, issue₁) ∉ (address, issue) :: s.sessions :=
    fun issue₁ h => ⟨h.1, List.not_mem_cons_of_ne_of_not_mem (hother issue₁).symm h.2⟩
  refine ⟨?_, ?_, ?_, ?_, ?_⟩
  · intro record hrecord hemail
    exact hunused _ (h.stored record hrecord hemail)
  · intro r hr hemail issue₁ hissue
    exact hunused _ (h.held r (mem_finish.mp hr).1 hemail issue₁ hissue)
  · intro r hr hemail issue₁ hphase
    exact h.deleted r (mem_finish.mp hr).1 hemail issue₁ hphase
  · intro issue₁ hmem
    exact h.known issue₁ (List.mem_of_ne_of_mem (hother issue₁).symm hmem)
  · intro issue₁
    exact (List.count_cons_of_ne (hother issue₁)).trans_le (h.once issue₁)

lemma erase_subset {id : String} : (s.authOtps.erase id).rows ⊆ s.authOtps.rows :=
  fun _ hrecord => (Table.mem_erase.mp hrecord).1

lemma consumed_resume (h : Consumed email s) (hr : r ∈ s.requests.rows)
    (hresume : resume process s r = some t) : Consumed email t := by
  have hheld : r.email = email → ∀ issue ∈ r.phase.issue?, Unused email s issue := h.held r hr
  cases resumed hresume with
  | stored => exact h.of_store
  | locked | missing | failureCounted => exact h.of_finish rfl rfl (List.Subset.refl _) rfl
  | discarded => exact h.of_finish rfl rfl erase_subset rfl
  | bypassed | counted | expired | mismatched =>
    exact h.of_suspend rfl rfl (List.Subset.refl _) rfl fun _ => ⟨nofun, nofun⟩
  | queried =>
    refine h.of_suspend rfl rfl (List.Subset.refl _) rfl fun hemail => ?_
    refine ⟨fun issue hissue => ?_, nofun⟩
    obtain ⟨record, hfind, rfl⟩ := Option.map_eq_some_iff.mp hissue
    obtain ⟨hrecord, hrecordEmail⟩ := Table.find?_eq_some_iff.mp hfind
    exact h.stored record hrecord (hrecordEmail.trans hemail)
  | matched hphase | cleared hphase =>
    rw [hphase] at hheld
    exact h.of_suspend rfl rfl (List.Subset.refl _) rfl fun hemail => ⟨hheld hemail, nofun⟩
  | consumed hphase =>
    rw [hphase] at hheld
    refine h.of_suspend rfl rfl erase_subset rfl fun hemail => ?_
    refine ⟨hheld hemail, fun _ _ record hrecord hrecordEmail => ?_⟩
    exact (Table.mem_erase.mp hrecord).2 (hrecordEmail.trans hemail.symm)

/-- A session of another email, or of the bypass, uses no code of the email. -/
lemma consumed_signIn (h : Consumed email s) (halone : Alone email s) (hr : r ∈ s.requests.rows)
    {account : AccountDraw} {draw : SessionDraw} {passwordHash : String}
    (hsign : signIn process s r account draw passwordHash = some t) : Consumed email t := by
  rw [signIn.eq_def] at hsign
  split at hsign
  next issue hphase =>
    obtain ⟨⟨identity, session⟩, -, rfl⟩ := Option.map_eq_some_iff.mp hsign
    cases session with
    | none => exact h.of_finish rfl rfl (List.Subset.refl _) rfl
    | some session =>
      cases issue with
      | none => exact h.of_finish rfl rfl (List.Subset.refl _) rfl
      | some issue =>
        by_cases hemail : r.email = email
        · exact h.of_session halone hr hemail hphase
        · exact h.of_otherSession hemail
  · cases hsign

lemma consumed_step (h : Consumed email s) (halone : Alone email s)
    (hstep : step process s action = some t) : Consumed email t := by
  cases action with
  | sendOtp id address code =>
    simp only [step] at hstep
    split_ifs at hstep
    cases hstep
    rw [sendOtp]
    split_ifs
    · exact h
    all_goals exact h.of_suspend rfl rfl (List.Subset.refl _) rfl fun _ =>
      ⟨fun issue hissue => (by cases hissue), fun issue hphase => (by cases hphase)⟩
  | verifyOtp id address otp =>
    simp only [step] at hstep
    split_ifs at hstep
    cases hstep
    rw [verifyOtp]
    split_ifs
    · exact h
    · exact h.of_suspend rfl rfl (List.Subset.refl _) rfl fun _ =>
        ⟨fun issue hissue => (by cases hissue), fun issue hphase => (by cases hphase)⟩
  | resume id =>
    obtain ⟨r, hfind, hresume⟩ := Option.bind_eq_some_iff.mp hstep
    exact consumed_resume h (Table.mem_of_find? hfind) hresume
  | signIn id account draw passwordHash =>
    obtain ⟨r, hfind, hsign⟩ := Option.bind_eq_some_iff.mp hstep
    exact consumed_signIn h halone (Table.mem_of_find? hfind) hsign
  | fail id =>
    obtain ⟨r, -, rfl⟩ := Option.map_eq_some_iff.mp hstep
    exact h.of_finish rfl rfl (List.Subset.refl _) rfl
  | tick ms =>
    cases hstep
    exact ⟨h.stored, h.held, h.deleted, h.known, h.once⟩
  | cacheChange key entry =>
    cases hstep
    exact ⟨h.stored, h.held, h.deleted, h.known, h.once⟩

/-! ### Runs -/

lemma alone_initial {now : Timestamp} {cache : TtlStore String ℕ} {identity : IdentityDb} :
    Alone email (.initial now cache identity) :=
  fun _ => nofun

lemma counted_initial {now : Timestamp} {cache : TtlStore String ℕ} {identity : IdentityDb} :
    Counted email (.initial now cache identity) :=
  ⟨nofun, fun _ => nofun, fun _ => .inl rfl, fun _ => Nat.zero_le _⟩

lemma consumed_initial {now : Timestamp} {cache : TtlStore String ℕ} {identity : IdentityDb} :
    Consumed email (.initial now cache identity) :=
  ⟨fun _ => nofun, fun _ => nofun, fun _ => nofun, fun _ => nofun, fun _ => Nat.zero_le _⟩

/-- In every run in which the requests that verify a code for an email do not overlap, and its
counter is kept for ten minutes, at most five wrong codes are compared in any ten minutes, and a code
leads to at most one session. -/
theorem otpGuarantee_of_guarded {now : Timestamp} {cache : TtlStore String ℕ}
    {identity : IdentityDb} {actions : List OtpAction}
    (hrun : Run (step process) (.initial now cache identity) actions t)
    (hguarded : AllSteps (step process) (Guarded email) (.initial now cache identity) actions) :
    OtpGuarantee email t := by
  have hinv : Alone email t ∧ Counted email t ∧ Consumed email t := by
    apply hrun.invariant_of_allSteps (I := fun s => Alone email s ∧ Counted email s ∧
      Consumed email s) _ hguarded
    · exact ⟨alone_initial, counted_initial, consumed_initial⟩
    · rintro s action t ⟨halone, hcounted, hconsumed⟩ hstep hguard
      exact ⟨alone_step halone hstep hguard, counted_step hcounted halone hstep hguard,
        consumed_step hconsumed halone hstep⟩
  exact ⟨hinv.2.1.bounded, hinv.2.2.once⟩

instance (email : String) (s t : OtpState) (action : OtpAction) :
    Decidable (Guarded email s action t) :=
  match action with
  | .verifyOtp _ address _ =>
    inferInstanceAs (Decidable (cleanEmail address = email → ∀ _ ∈ _, _ → _ = _))
  | .resume _              =>
    inferInstanceAs (Decidable (∀ _ ∈ _, _ → _ → _ = true → _ = 0))
  | .cacheChange key _     => inferInstanceAs (Decidable (key = failKey email → _ = 0))
  | .sendOtp _ _ _         => isTrue trivial
  | .signIn _ _ _ _        => isTrue trivial
  | .fail _                => isTrue trivial
  | .tick _                => isTrue trivial

/-- A wrong code is compared. -/
def oneGuess : List OtpAction :=
  [.sendOtp 0 "a@shop.in" 111111, .resume 0, .verifyOtp 1 "a@shop.in" "000000", .resume 1,
    .resume 1, .resume 1, .resume 1]

theorem otpGuarantee_oneGuess :
    ∃ t, Run (step (.signing .sample)) (.initial 0 .empty .empty) oneGuess t ∧
      OtpGuarantee "a@shop.in" t := by
  obtain ⟨t, hrun, -⟩ := exists_run_of_execute (step (.signing .sample))
    (.initial 0 .empty .empty) oneGuess (fun t => t.wrong.length = 1) (by decide +kernel)
  exact ⟨t, hrun, otpGuarantee_of_guarded hrun (by decide +kernel)⟩

/-- A process that signs two sessions of a user. -/
def signingTwice (user : SessionUser) : AuthProcess :=
  { AuthProcess.signing user with
    jwt :=
      { decode := fun token =>
          if token = "eyJ.1" then some (SessionAuthService.sessionPayload "ses_1" user 0)
          else if token = "eyJ.2" then some (SessionAuthService.sessionPayload "ses_2" user 0)
          else none
        isSigned := fun _ secret => secret = "secret" } }

def ownerSample : SessionUser := ⟨"usr_1", "tnt_1", "a@shop.in", "Owner", true⟩

/-- Six requests that guess at once, each resumed up to its comparison before the next one. -/
def parallelGuesses : List OtpAction :=
  [.sendOtp 0 "a@shop.in" 111111, .resume 0] ++
    (List.range' 1 6).map (.verifyOtp · "a@shop.in" "000000") ++
    (List.range' 1 6).map .resume ++ (List.range' 1 6).map .resume ++ (List.range' 1 6).map .resume

/-- Two requests with the right code, likewise. -/
def parallelSignIns : List OtpAction :=
  [.sendOtp 0 "a@shop.in" 111111, .resume 0] ++
    [1, 2].map (.verifyOtp · "a@shop.in" "111111") ++
    [1, 2, 1, 2, 1, 2, 1, 2, 1, 2].map .resume ++
    [.signIn 1 ⟨"tnt_1", "usr_1", "mem_1"⟩ ⟨"ses_1", "eyJ.1", 0⟩ "hash",
      .signIn 2 ⟨"tnt_2", "usr_2", "mem_2"⟩ ⟨"ses_2", "eyJ.2", 0⟩ "hash"]

/-- Six wrong codes are compared at once, and a code that is given twice leads to two sessions. -/
theorem parallel_guard_fails :
    (¬ ∀ (process : AuthProcess) email actions t, isTestOrDev process.env email = false →
      Run (step process) (.initial 0 .empty .empty) actions t →
        ∀ start, SlidingWindow.within tenMinutes start (t.wrongTimes email) ≤ 5) ∧
    ¬ ∀ (process : AuthProcess) email actions t, isTestOrDev process.env email = false →
      Run (step process) (.initial 0 .empty .empty) actions t →
        ∀ issue, t.sessions.count (email, issue) ≤ 1 := by
  constructor
  · intro h
    obtain ⟨t, hrun, hwrong⟩ := exists_run_of_execute (step (.signing .sample))
      (.initial 0 .empty .empty) parallelGuesses
      (fun t => 5 < SlidingWindow.within tenMinutes 0 (t.wrongTimes "a@shop.in")) (by decide +kernel)
    have hle := h _ "a@shop.in" _ t rfl hrun 0
    exact absurd hle (Nat.not_le_of_gt (of_decide_eq_true hwrong))
  · intro h
    obtain ⟨t, hrun, hsessions⟩ := exists_run_of_execute (step (signingTwice ownerSample))
      (.initial 0 .empty .empty) parallelSignIns
      (fun t => 1 < t.sessions.count ("a@shop.in", 0)) (by decide +kernel)
    have hle := h _ "a@shop.in" _ t rfl hrun 0
    exact absurd hle (Nat.not_le_of_gt (of_decide_eq_true hsessions))

end OtpRoutes

end CtrlRecovery
