import CtrlRecovery.Core.Run
import CtrlRecovery.Truth.LedgerIntegrity
import Mathlib.Logic.Function.Basic

/-!
# Appending to the settlement ledger

Any number of writers append to the ledger at the same time. `recordEntry` reads the hash of the
latest entry, and then takes the time and inserts. The reconciler takes the time when it starts,
long before its transaction generates an id, reads the latest hash and inserts.

The verifier accepts the ledger as long as every entry is inserted after all others in the order of
the replay and names the hash of the last one (`valid_of_appendsLast`). A writer that reads before
another has inserted, a time taken early, or a tie that the random suffixes break the other way
breaks the chain.
-/

namespace CtrlRecovery

open Core

namespace DoubleEntryLedger

/-- The entry of `ORDER BY timestamp DESC, id DESC LIMIT 1`. -/
def latestStored (rows : List StoredEntry) : Option StoredEntry := (ordered rows).getLast?

/-- `del_${Date.now()}_${suffix}`. -/
def entryId (ms : Timestamp) (suffix : String) : String := "del_" ++ toString ms ++ "_" ++ suffix

/-- What the callers of the ledger pass. -/
structure EntryParams where
  opportunityId : String
  eventType : String
  debitAccount : String
  creditAccount : String
  amountPaise : ℚ

def EntryParams.fields (params : EntryParams) (id timestamp : String) : EntryFields where
  id := id
  opportunityId := params.opportunityId
  eventType := params.eventType
  debitAccount := params.debitAccount
  creditAccount := params.creditAccount
  amountPaise := params.amountPaise
  timestamp := timestamp

/-- A writer between two awaits. -/
inductive AppendCall
  | recording (params : EntryParams) (prevHash : String)
  | reconciling (params : EntryParams) (now : Timestamp)
  | settling (params : EntryParams) (now : Timestamp) (id prevHash : String)

/-- The table, the last time that was taken, the suffixes that were drawn, and the writers. -/
structure AppendState where
  entries : Table StoredEntry.key
  clock : Timestamp
  suffixes : List String
  calls : ℕ → Option AppendCall

/-- What the writers do. `recordEntry` takes the time twice, for the id and for the timestamp; a
suffix is drawn with each id. -/
inductive AppendAction
  | recordEntry (call : ℕ) (params : EntryParams)
  | insertEntry (call : ℕ) (idTime now : Timestamp) (suffix : String)
  | reconcileOpportunity (call : ℕ) (params : EntryParams) (now : Timestamp)
  | settle (call : ℕ) (idTime : Timestamp) (suffix : String)
  | insertSettlement (call : ℕ)

section Append

variable (sha256 : String → String) (isoString : Timestamp → String)

/-- The insertion of an entry; a taken id rejects it. -/
def insertStored (entries : Table StoredEntry.key) (entry : StoredEntry) : Table StoredEntry.key :=
  entries.insertOrIgnore entry

/-- The entry that an action inserts. -/
def appended (s : AppendState) : AppendAction → Option StoredEntry
  | .insertEntry call idTime now suffix =>
    match s.calls call with
    | some (.recording params prevHash) =>
      some (.chained sha256 prevHash (params.fields (entryId idTime suffix) (isoString now)))
    | _ => none
  | .insertSettlement call =>
    match s.calls call with
    | some (.settling params now id prevHash) =>
      some (.chained sha256 prevHash (params.fields id (isoString now)))
    | _ => none
  | _ => none

/-- The time never goes back, and no suffix is drawn twice. -/
def appendStep (s : AppendState) (a : AppendAction) : Option AppendState :=
  let entries := (appended sha256 isoString s a).elim s.entries (insertStored s.entries)
  match a with
  | .recordEntry call params =>
    match s.calls call with
    | none =>
      let prevHash := ((latestStored s.entries.rows).map (·.entryHash)).getD GENESIS_HASH
      some { s with calls := Function.update s.calls call (some (.recording params prevHash)) }
    | some _ => none
  | .insertEntry call idTime now suffix =>
    match s.calls call with
    | some (.recording _ _) =>
      if s.clock ≤ idTime ∧ idTime ≤ now ∧ suffix ∉ s.suffixes then
        some
          { entries := entries
            clock := now
            suffixes := suffix :: s.suffixes
            calls := Function.update s.calls call none }
      else none
    | _ => none
  | .reconcileOpportunity call params now =>
    match s.calls call with
    | none =>
      if s.clock ≤ now then
        some
          { s with
            clock := now
            calls := Function.update s.calls call (some (.reconciling params now)) }
      else none
    | some _ => none
  | .settle call idTime suffix =>
    match s.calls call with
    | some (.reconciling params now) =>
      if s.clock ≤ idTime ∧ suffix ∉ s.suffixes then
        let prevHash := Js.orElse ((latestStored s.entries.rows).map (·.entryHash)) GENESIS_HASH
        some
          { s with
            clock := idTime
            suffixes := suffix :: s.suffixes
            calls := Function.update s.calls call
              (some (.settling params now (entryId idTime suffix) prevHash)) }
      else none
    | _ => none
  | .insertSettlement call =>
    match s.calls call with
    | some (.settling _ _ _ _) =>
      some { s with entries := entries, calls := Function.update s.calls call none }
    | _ => none

/-- The verifier accepts the ledger. -/
def Accepted (s : AppendState) : Prop := (verifyLedgerIntegrity sha256 s.entries.rows).valid

instance (s : AppendState) : Decidable (Accepted sha256 s) := by
  unfold Accepted
  infer_instance

/-- An entry that is inserted comes after all others in the order of the replay, and names the hash
of the last one. An entry whose id is taken is not inserted. -/
def AppendsLast (s : AppendState) (a : AppendAction) (_ : AppendState) : Prop :=
  ∀ entry ∈ appended sha256 isoString s a, entry.key ∉ s.entries.rows.map StoredEntry.key →
    (∀ e ∈ s.entries.rows, e.orderKey < entry.orderKey) ∧
      entry.prevHash = lastHash StoredEntry.entryHash GENESIS_HASH (ordered s.entries.rows)

instance (s : AppendState) (a : AppendAction) (t : AppendState) :
    Decidable (AppendsLast sha256 isoString s a t) := by
  unfold AppendsLast
  infer_instance

end Append

/-! ### One step -/

section Step

variable {sha256 : String → String} {isoString : Timestamp → String} {s t : AppendState}
  {a : AppendAction}

/-- The table after a step. -/
lemma appendStep_entries (h : appendStep sha256 isoString s a = some t) :
    t.entries = (appended sha256 isoString s a).elim s.entries (insertStored s.entries) := by
  cases a with
  | recordEntry call params =>
    simp only [appendStep] at h
    split at h <;> cases h
    rfl
  | insertEntry call idTime now suffix =>
    simp only [appendStep] at h
    split at h
    · split_ifs at h
      cases h
      rfl
    · cases h
  | reconcileOpportunity call params now =>
    simp only [appendStep] at h
    split at h
    · split_ifs at h
      cases h
      rfl
    · cases h
  | settle call idTime suffix =>
    simp only [appendStep] at h
    split at h
    · split_ifs at h
      cases h
      rfl
    · cases h
  | insertSettlement call =>
    simp only [appendStep] at h
    split at h <;> cases h
    rfl

lemma computedHash_of_appended {entry : StoredEntry} (h : entry ∈ appended sha256 isoString s a) :
    computedHash sha256 entry = entry.entryHash := by
  cases a with
  | insertEntry call idTime now suffix =>
    simp only [appended] at h
    split at h <;> cases h
    rfl
  | insertSettlement call =>
    simp only [appended] at h
    split at h <;> cases h
    rfl
  | _ => simp [appended] at h

lemma nodup_orderKey (entries : Table StoredEntry.key) :
    (entries.rows.map StoredEntry.orderKey).Nodup := by
  have hkeys : entries.rows.map StoredEntry.key =
      (entries.rows.map StoredEntry.orderKey).map fun k => (ofLex k).2 := by
    rw [List.map_map]
    rfl
  exact List.Nodup.of_map _ (hkeys ▸ entries.nodup)

/-- An entry that is put at the end of the replay keeps the ledger accepted. -/
lemma valid_append {entries : Table StoredEntry.key} {entry : StoredEntry}
    (hvalid : (verifyLedgerIntegrity sha256 entries.rows).valid)
    (hhash : computedHash sha256 entry = entry.entryHash)
    (hlast : ∀ e ∈ entries.rows, e.orderKey < entry.orderKey)
    (hprev : entry.prevHash =
      lastHash StoredEntry.entryHash GENESIS_HASH (ordered entries.rows)) :
    (verifyLedgerIntegrity sha256 (entries.rows ++ [entry])).valid := by
  obtain ⟨hlinked, hhashes⟩ := valid_iff.mp hvalid
  apply valid_iff.mpr
  constructor
  · rw [ordered, ascending_append_singleton (nodup_orderKey entries) hlast]
    exact linked_append_singleton.mpr ⟨hlinked, hprev⟩
  · intro e he
    rcases List.mem_append.mp he with he | he
    · exact hhashes e he
    · rw [List.mem_singleton.mp he]
      exact hhash

/-- A step leaves the table as it is, or puts an entry with a new id at its end. -/
lemma appendStep_rows (h : appendStep sha256 isoString s a = some t) :
    (t.entries = s.entries ∧
        ∀ entry ∈ appended sha256 isoString s a, entry.key ∈ s.entries.rows.map StoredEntry.key) ∨
      ∃ entry ∈ appended sha256 isoString s a,
        entry.key ∉ s.entries.rows.map StoredEntry.key ∧
          t.entries.rows = s.entries.rows ++ [entry] := by
  rw [appendStep_entries h]
  cases hentry : appended sha256 isoString s a with
  | none =>
    refine .inl ⟨rfl, fun entry h => ?_⟩
    simp at h
  | some entry =>
    rw [Option.elim_some, insertStored, Table.insertOrIgnore]
    cases hins : s.entries.insert? entry with
    | none =>
      refine .inl ⟨rfl, fun entry' h => ?_⟩
      cases h
      by_contra hnew
      obtain ⟨entries, hentries⟩ := Table.exists_insert? hnew
      simp [hins] at hentries
    | some entries =>
      obtain ⟨hnew, hrows⟩ := Table.insert?_eq_some_iff.mp hins
      exact .inr ⟨entry, rfl, hnew, hrows⟩

lemma Accepted.step (h : Accepted sha256 s) (hstep : appendStep sha256 isoString s a = some t)
    (hlast : AppendsLast sha256 isoString s a t) : Accepted sha256 t := by
  rw [Accepted]
  rcases appendStep_rows hstep with ⟨heq, -⟩ | ⟨entry, hentry, hnew, hrows⟩
  · rw [heq]
    exact h
  · obtain ⟨hafter, hprev⟩ := hlast entry hentry hnew
    rw [hrows]
    exact valid_append h (computedHash_of_appended hentry) hafter hprev

/-- Without collisions, an entry that leaves the ledger accepted is the last one. -/
lemma CollisionFree.appendsLast (hsha : CollisionFree sha256) (h : Accepted sha256 s)
    (hstep : appendStep sha256 isoString s a = some t) (h' : Accepted sha256 t) :
    AppendsLast sha256 isoString s a t := by
  intro entry hentry hnew
  rcases appendStep_rows hstep with ⟨-, htaken⟩ | ⟨entry', hentry', -, hrows⟩
  · exact absurd (htaken entry hentry) hnew
  · obtain rfl : entry' = entry := Option.mem_unique hentry' hentry
    obtain ⟨hlinked, -⟩ := valid_iff.mp h
    obtain ⟨hlinked', hhashes'⟩ := valid_iff.mp h'
    have hsub : ordered s.entries.rows ⊆ ordered t.entries.rows := by
      intro e he
      rw [ordered, mem_ascending] at he ⊢
      rw [hrows]
      exact List.mem_append_left _ he
    -- the old chain is a prefix of the new one, so that what is left of it is the new entry
    obtain ⟨rest, hrest⟩ := hlinked'.prefix_of_subset (hsha.binding hlinked' hhashes') hlinked hsub
    have hperm : (ordered s.entries.rows ++ rest).Perm (ordered s.entries.rows ++ [entry']) := by
      rw [hrest]
      refine (ascending_perm _ _).trans ?_
      rw [hrows]
      exact ((ascending_perm StoredEntry.orderKey s.entries.rows).append_right [entry']).symm
    have hrest' : rest = [entry'] := List.perm_singleton.mp ((List.perm_append_left_iff _).mp hperm)
    rw [hrest'] at hrest
    have hsorted := pairwise_ascending (nodup_orderKey t.entries)
    rw [← ordered, ← hrest, List.pairwise_append] at hsorted
    rw [← hrest, linked_append_singleton] at hlinked'
    refine ⟨fun e he => ?_, hlinked'.2⟩
    exact hsorted.2.2 e (mem_ascending.mpr he) entry' (List.mem_singleton.mpr rfl)

end Step

/-! ### Whole runs -/

/-- In every run whose insertions all append last, the ledger is accepted in every state. -/
theorem valid_of_appendsLast (sha256 : String → String) (isoString : Timestamp → String)
    (s : AppendState) (as : List AppendAction) (hvalid : Accepted sha256 s)
    (hlast : AllSteps (appendStep sha256 isoString) (AppendsLast sha256 isoString) s as) :
    ∀ pre rest t, as = pre ++ rest → Run (appendStep sha256 isoString) s pre t →
      Accepted sha256 t := by
  intro pre rest t has hpre
  rw [has] at hlast
  apply hpre.invariant_of_allSteps _ hlast.left hvalid
  intro s a t hI hstep hP
  exact hI.step hstep hP

/-- Without collisions there are no other such runs. -/
theorem always_accepted_iff {sha256 : String → String} (hsha : CollisionFree sha256)
    (isoString : Timestamp → String) (s : AppendState) (as : List AppendAction) :
    (∀ pre rest t, as = pre ++ rest → Run (appendStep sha256 isoString) s pre t →
        Accepted sha256 t) ↔
      Accepted sha256 s ∧
        AllSteps (appendStep sha256 isoString) (AppendsLast sha256 isoString) s as := by
  apply always_iff_allSteps
  intro s a t hs hstep
  exact ⟨hsha.appendsLast hs hstep, hs.step hstep⟩

/-! ### The reconciler's insertion -/

section Stored

variable {isoString : Timestamp → String} {entries : List DoubleEntryRecord}
  {entry : DoubleEntryRecord}

/-- What the order of the entries compares, with the time as a number. -/
def recordKey (entry : DoubleEntryRecord) : Timestamp ×ₗ String := toLex (entry.timestamp, entry.id)

lemma later_iff {e e' : DoubleEntryRecord} : later e e' ↔ recordKey e' < recordKey e := by
  simp only [later, recordKey, Prod.Lex.toLex_lt_toLex, Bool.or_eq_true, Bool.and_eq_true,
    decide_eq_true_eq, beq_iff_eq]
  exact or_congr_right (and_congr_left' eq_comm)

/-- The best of an entry and a list. -/
lemma foldl_later_spec (entries : List DoubleEntryRecord) (best : DoubleEntryRecord) :
    ∃ b, entries.foldl
        (fun best e => match best with
          | none   => some e
          | some b => if later e b then some e else some b) (some best) = some b ∧
      b ∈ best :: entries ∧ ∀ e ∈ best :: entries, recordKey e ≤ recordKey b := by
  induction entries generalizing best with
  | nil => exact ⟨best, rfl, by simp⟩
  | cons e entries ih =>
    obtain ⟨b, hb, hmem, hmax⟩ := ih (if later e best then e else best)
    refine ⟨b, ?_, ?_, fun x hx => ?_⟩
    · rw [List.foldl_cons, ← hb]
      dsimp only
      split_ifs <;> rfl
    · split_ifs at hmem <;> simp only [List.mem_cons] at hmem ⊢ <;> tauto
    · have hbest : recordKey (if later e best then e else best) ≤ recordKey b :=
        hmax _ List.mem_cons_self
      have hrest : ∀ y ∈ entries, recordKey y ≤ recordKey b := fun y hy =>
        hmax y (List.mem_cons_of_mem _ hy)
      have hpair : recordKey e ≤ recordKey b ∧ recordKey best ≤ recordKey b := by
        by_cases hlater : later e best
        · rw [if_pos hlater] at hbest
          exact ⟨hbest, (later_iff.mp hlater).le.trans hbest⟩
        · rw [if_neg hlater] at hbest
          exact ⟨(not_lt.mp fun hlt => hlater (later_iff.mpr hlt)).trans hbest, hbest⟩
      rcases List.mem_cons.mp hx with rfl | hx
      · exact hpair.2
      · rcases List.mem_cons.mp hx with rfl | hx
        · exact hpair.1
        · exact hrest x hx

lemma latest_spec (h : latest entries = some entry) :
    entry ∈ entries ∧ ∀ e ∈ entries, recordKey e ≤ recordKey entry := by
  cases entries with
  | nil => simp [latest] at h
  | cons e entries =>
    obtain ⟨b, hb, hspec⟩ := foldl_later_spec entries e
    rw [latest, List.foldl_cons] at h
    obtain rfl : b = entry := Option.some.inj (hb.symm.trans h)
    exact hspec

lemma orderKey_stored_le_iff (hiso : StrictMono isoString) {e e' : DoubleEntryRecord} :
    (e.stored isoString).orderKey ≤ (e'.stored isoString).orderKey ↔ recordKey e ≤ recordKey e' := by
  simp only [StoredEntry.orderKey, recordKey, DoubleEntryRecord.stored, Prod.Lex.toLex_le_toLex,
    hiso.lt_iff_lt, hiso.injective.eq_iff]

/-- Both orders agree on the latest entry. -/
lemma latestStored_map_stored (hiso : StrictMono isoString)
    (hid : (entries.map (·.id)).Nodup) :
    latestStored (entries.map (·.stored isoString)) = (latest entries).map (·.stored isoString) := by
  cases hlast : latestStored (entries.map (·.stored isoString)) with
  | none =>
    have hempty : entries = [] := by
      have hlength := (ascending_perm StoredEntry.orderKey
        (entries.map (·.stored isoString))).length_eq
      rw [← ordered, List.getLast?_eq_none_iff.mp hlast, List.length_map] at hlength
      exact List.length_eq_zero_iff.mp hlength.symm
    rw [hempty]
    rfl
  | some x =>
    obtain ⟨hx, hmax⟩ := getLast?_ascending hlast
    obtain ⟨e, he, rfl⟩ := List.mem_map.mp hx
    cases hlatest : latest entries with
    | none =>
      cases entries with
      | nil => simp at he
      | cons e' entries =>
        obtain ⟨b, hb, -⟩ := foldl_later_spec entries e'
        have hsome : latest (e' :: entries) = some b := hb
        simp [hsome] at hlatest
    | some b =>
      obtain ⟨hb, hbest⟩ := latest_spec hlatest
      have hle : recordKey b ≤ recordKey e :=
        (orderKey_stored_le_iff hiso).mp (hmax _ (List.mem_map_of_mem hb))
      have hkey : recordKey e = recordKey b := le_antisymm (hbest e he) hle
      have hids : e.id = b.id := congrArg (fun k => (ofLex k).2) hkey
      rw [List.inj_on_of_nodup_map hid he hb hids, Option.map_some]

/-- What the reconciler records in the ledger. -/
def settlementParams (plan : SettlementPlan) : EntryParams where
  opportunityId := plan.read.opp.id
  eventType := PAYMENT_RECOVERED
  debitAccount := "bank_settlement"
  creditAccount := "recovered_revenue"
  amountPaise := plan.truthEval.amountPaidPaise

/-- The entry that the transaction of a settlement inserts is the one of `insertSettlement`. -/
theorem stored_settlementEntry (platform : Platform) (hiso : StrictMono platform.isoString)
    (plan : SettlementPlan) (ids : TransactionIds) (db : Db) :
    (AuthoritativeReconciler.settlementEntry platform plan ids db).stored platform.isoString =
      .chained platform.sha256
        (Js.orElse ((latestStored (db.doubleEntryLedger.rows.map
          (·.stored platform.isoString))).map (·.entryHash)) GENESIS_HASH)
        ((settlementParams plan).fields ids.doubleEntryId (platform.isoString plan.read.now)) := by
  have hprev : Js.orElse ((latestStored (db.doubleEntryLedger.rows.map
      (·.stored platform.isoString))).map (·.entryHash)) GENESIS_HASH =
        prevHash db.doubleEntryLedger.rows := by
    rw [latestStored_map_stored hiso db.doubleEntryLedger.nodup, Option.map_map]
    rfl
  rw [hprev]
  simp only [DoubleEntryRecord.stored, AuthoritativeReconciler.settlementEntry, StoredEntry.chained,
    settlementParams, EntryParams.fields, computeHash, EntryFields.text, String.append_assoc]

end Stored

/-! ### A tie -/

/-- An empty ledger, and no writer. -/
def appendStart : AppendState where
  entries := .empty
  clock := 0
  suffixes := []
  calls := fun _ => none

/-- A settlement of ₹1000.00. -/
def sampleParams (opportunityId : String) : EntryParams where
  opportunityId := opportunityId
  eventType := PAYMENT_RECOVERED
  debitAccount := "bank_settlement"
  creditAccount := "recovered_revenue"
  amountPaise := 100000

/-- Two entries, one after the other, at these times and with these suffixes. -/
def twoEntries (first second : Timestamp × String) : List AppendAction :=
  [.recordEntry 0 (sampleParams "pay_1"), .insertEntry 0 first.1 first.1 first.2,
    .recordEntry 1 (sampleParams "pay_2"), .insertEntry 1 second.1 second.1 second.2]

/-- Two entries of different milliseconds. -/
theorem valid_of_appendsLast_twoEntries :
    ∃ t, Run (appendStep id toString) appendStart (twoEntries (3000, "x7") (3001, "a2")) t ∧
      Accepted id t := by
  obtain ⟨t, hrun, -⟩ := exists_run_of_execute (appendStep id toString) appendStart
    (twoEntries (3000, "x7") (3001, "a2")) (fun _ => true) (by decide +kernel)
  refine ⟨t, hrun, ?_⟩
  exact valid_of_appendsLast id toString appendStart (twoEntries (3000, "x7") (3001, "a2"))
    (by decide +kernel) (by decide +kernel) _ [] t (List.append_nil _).symm hrun

/-- Two entries of one millisecond, the second of which has the smaller suffix. -/
theorem tie_breaks_chain :
    ¬ ∀ (sha256 : String → String) (isoString : Timestamp → String) (s : AppendState)
      (as : List AppendAction), s.entries.rows = [] → (∀ call, s.calls call = none) →
        ∀ pre rest t, as = pre ++ rest → Run (appendStep sha256 isoString) s pre t →
          Accepted sha256 t := by
  intro h
  obtain ⟨t, hrun, hrejected⟩ := exists_run_of_execute (appendStep id toString) appendStart
    (twoEntries (3000, "x7") (3000, "a2")) (fun t => ¬ Accepted id t) (by decide +kernel)
  exact (of_decide_eq_true hrejected)
    (h id toString appendStart _ rfl (fun _ => rfl) _ [] t (List.append_nil _).symm hrun)

end DoubleEntryLedger

end CtrlRecovery
