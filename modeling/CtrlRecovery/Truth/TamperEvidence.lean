import CtrlRecovery.Truth.LedgerAppends

/-!
# Tampering with the settlement ledger

Someone with access to the table changes the columns of an entry and keeps its hashes, or deletes
entries. The verifier is meant to reject every ledger that is changed so.

It does not notice that the last entries are missing, as nothing outside the table says how many
there were. Nor does it notice a change that leaves the joined text of the columns as it was,
because a column may itself hold the colon that joins them. These are the only changes that it
misses (`edit_rejected_iff`).
-/

namespace CtrlRecovery

open Core

namespace DoubleEntryLedger

/-- A change of the table behind the program's back: the columns of the entry with this id, or a
deletion of the entries with these ids. -/
inductive LedgerEdit
  | alter (id : String) (fields : EntryFields)
  | delete (ids : List String)

/-- The entry with these columns, if it is the one that is altered. -/
def alterEntry (id : String) (fields : EntryFields) (entry : StoredEntry) : StoredEntry :=
  if entry.id = id then { entry with toEntryFields := fields } else entry

/-- The table after a change; `none` when an altered id is taken. -/
def LedgerEdit.apply (ledger : Table StoredEntry.key) : LedgerEdit → Option (Table StoredEntry.key)
  | .alter id fields => Table.ofRows? (ledger.rows.map (alterEntry id fields))
  | .delete ids      => Table.ofRows? (ledger.rows.filter fun e => e.id ∉ ids)

/-- What the verifier notices of a change: a different text of the columns, a different place among
the other entries, or an entry that is left behind a deleted one. -/
def LedgerEdit.Shows (ledger : Table StoredEntry.key) : LedgerEdit → Prop
  | .alter id fields =>
    ∃ entry ∈ ledger.rows, entry.id = id ∧
      (fields.text ≠ entry.toEntryFields.text ∨
        ∃ e ∈ ledger.rows, e.id ≠ id ∧
          ¬ (e.orderKey < entry.orderKey ↔
            e.orderKey < StoredEntry.orderKey { entry with toEntryFields := fields }))
  | .delete ids =>
    ∃ d ∈ ledger.rows, d.id ∈ ids ∧ ∃ e ∈ ledger.rows, e.id ∉ ids ∧ d.orderKey < e.orderKey

instance (ledger : Table StoredEntry.key) (edit : LedgerEdit) : Decidable (edit.Shows ledger) := by
  cases edit <;> unfold LedgerEdit.Shows <;> infer_instance

section Delete

variable {sha256 : String → String} {ledger ledger' : Table StoredEntry.key}

/-- A deletion is missed exactly when it takes the last entries. -/
lemma valid_delete_iff (hsha : CollisionFree sha256)
    (hvalid : (verifyLedgerIntegrity sha256 ledger.rows).valid) {ids : List String}
    (hedit : (LedgerEdit.delete ids).apply ledger = some ledger') :
    (verifyLedgerIntegrity sha256 ledger'.rows).valid ↔ ¬ (LedgerEdit.delete ids).Shows ledger := by
  obtain ⟨hlinked, hhashes⟩ := valid_iff.mp hvalid
  have hrows : ledger'.rows = ledger.rows.filter fun e => e.id ∉ ids := Table.rows_of_ofRows? hedit
  have hordered : ordered ledger'.rows = (ordered ledger.rows).filter fun e => e.id ∉ ids := by
    rw [ordered, hrows, ascending_filter]
    rfl
  have hhashes' : ∀ e ∈ ledger'.rows, computedHash sha256 e = e.entryHash := by
    intro e he
    rw [hrows] at he
    exact hhashes e (List.mem_of_mem_filter he)
  have hchain : (verifyLedgerIntegrity sha256 ledger'.rows).valid ↔
      ordered ledger'.rows <+: ordered ledger.rows := by
    rw [valid_iff, and_iff_left hhashes']
    refine ⟨fun h => hlinked.prefix_of_subset (hsha.binding hlinked hhashes) h ?_, hlinked.of_prefix⟩
    rw [hordered]
    exact List.filter_subset_self _
  rw [hchain, hordered, filter_prefix_iff]
  have hsorted := pairwise_ascending (nodup_orderKey ledger)
  simp only [LedgerEdit.Shows, decide_eq_true_eq]
  constructor
  · rintro hpairwise ⟨d, hd, hdel, e, he, hkept, hlt⟩
    exact rel_of_lt hsorted hpairwise (mem_ascending.mpr hd) (mem_ascending.mpr he) hlt hkept hdel
  · intro hnone
    refine hsorted.imp_of_mem ?_
    intro d e hd he hlt hkept hdel
    rw [mem_ascending] at hd he
    exact hnone ⟨d, hd, hdel, e, he, hkept, hlt⟩

end Delete

section Alter

variable {sha256 : String → String} {ledger ledger' : Table StoredEntry.key} {id : String}
  {fields : EntryFields}

@[simp] lemma alterEntry_prevHash (entry : StoredEntry) :
    (alterEntry id fields entry).prevHash = entry.prevHash := by
  rw [alterEntry]
  split_ifs <;> rfl

@[simp] lemma alterEntry_entryHash (entry : StoredEntry) :
    (alterEntry id fields entry).entryHash = entry.entryHash := by
  rw [alterEntry]
  split_ifs <;> rfl

lemma alterEntry_of_eq {entry : StoredEntry} (h : entry.id = id) :
    alterEntry id fields entry = { entry with toEntryFields := fields } := if_pos h

lemma alterEntry_of_ne {entry : StoredEntry} (h : entry.id ≠ id) :
    alterEntry id fields entry = entry := if_neg h

lemma links_alterEntry (rows : List StoredEntry) :
    ((rows.map (alterEntry id fields)).map fun e => (e.prevHash, e.entryHash)) =
      rows.map fun e => (e.prevHash, e.entryHash) := by
  rw [List.map_map]
  exact List.map_congr_left fun e _ => by simp

/-- An alteration that keeps the text of the columns keeps all hashes right; one that does not makes
one wrong. -/
lemma computedHash_alterEntry_iff (hsha : CollisionFree sha256)
    (hhashes : ∀ e ∈ ledger.rows, computedHash sha256 e = e.entryHash) :
    (∀ e ∈ ledger.rows.map (alterEntry id fields), computedHash sha256 e = e.entryHash) ↔
      ∀ e ∈ ledger.rows, e.id = id → fields.text = e.toEntryFields.text := by
  rw [List.forall_mem_map]
  refine forall₂_congr fun e he => ?_
  by_cases hid : e.id = id
  · have hsame : computedHash sha256 (alterEntry id fields e) = e.entryHash ↔
        fields.text = e.toEntryFields.text := by
      rw [← hhashes e he, computedHash, computedHash, hsha.injective.eq_iff, alterEntry_of_eq hid,
        StoredEntry.payload, StoredEntry.payload, String.append_right_inj]
    rw [alterEntry_entryHash, hsame]
    exact ⟨fun h _ => h, fun h => h hid⟩
  · rw [alterEntry_of_ne hid]
    exact ⟨fun _ h => absurd h hid, fun _ => hhashes e he⟩

/-- The altered entry keeps its place among the others. -/
def KeepsPlace (ledger : Table StoredEntry.key) (id : String) (fields : EntryFields) : Prop :=
  ∀ entry ∈ ledger.rows, entry.id = id → ∀ e ∈ ledger.rows, e.id ≠ id →
    (e.orderKey < entry.orderKey ↔
      e.orderKey < StoredEntry.orderKey { entry with toEntryFields := fields })

/-- Where the altered entry keeps its place, the entries are replayed in the order they had. -/
lemma ordered_alterEntry (hrows : ledger'.rows = ledger.rows.map (alterEntry id fields))
    (hplace : KeepsPlace ledger id fields) :
    ordered ledger'.rows = (ordered ledger.rows).map (alterEntry id fields) := by
  symm
  apply eq_ascending (nodup_orderKey ledger')
  · rw [hrows]
    exact (ascending_perm StoredEntry.orderKey ledger.rows).map _
  · rw [List.pairwise_map]
    refine (pairwise_ascending (nodup_orderKey ledger)).imp_of_mem ?_
    intro d e hd he hlt
    rw [mem_ascending] at hd he
    have hkeys : (ledger.rows.map (StoredEntry.key ∘ alterEntry id fields)).Nodup := by
      rw [← List.map_map, ← hrows]
      exact ledger'.nodup
    by_cases hid : d.id = id
    · by_cases hie : e.id = id
      · obtain rfl : d = e := ledger.eq_of_key_eq hd he (hid.trans hie.symm)
        exact absurd hlt (lt_irrefl _)
      · -- the altered entry stays before the ones that come after it
        have hnot : ¬ e.orderKey < (alterEntry id fields d).orderKey := by
          rw [alterEntry_of_eq hid, ← hplace d hd hid e he hie]
          exact lt_asymm hlt
        have hne : (alterEntry id fields d).orderKey ≠ e.orderKey := by
          intro heq
          have hkept : (alterEntry id fields e).orderKey = e.orderKey := by
            rw [alterEntry_of_ne hie]
          rw [← hkept] at heq
          have hsame : d = e :=
            List.inj_on_of_nodup_map hkeys hd he (congrArg (fun k => (ofLex k).2) heq)
          exact hie (hsame ▸ hid)
        rw [alterEntry_of_ne hie]
        exact lt_of_le_of_ne (not_lt.mp hnot) hne
    · rw [alterEntry_of_ne hid]
      by_cases hie : e.id = id
      · rw [alterEntry_of_eq hie]
        exact (hplace e he hie d hd hid).mp hlt
      · rw [alterEntry_of_ne hie]
        exact hlt

/-- Where the altered ledger is replayed in the order it had, the altered entry keeps its place. -/
lemma keepsPlace_of_ordered
    (hordered : ordered ledger'.rows = (ordered ledger.rows).map (alterEntry id fields)) :
    KeepsPlace ledger id fields := by
  have hsorted := pairwise_ascending (nodup_orderKey ledger)
  have hsorted' := pairwise_ascending (nodup_orderKey ledger')
  rw [← ordered, hordered, List.pairwise_map] at hsorted'
  intro entry hentry hid e he hne
  have hpair : ∀ a ∈ ledger.rows, ∀ b ∈ ledger.rows, a.orderKey < b.orderKey →
      (alterEntry id fields a).orderKey < (alterEntry id fields b).orderKey := by
    intro a ha b hb hlt
    exact rel_of_lt hsorted hsorted' (mem_ascending.mpr ha) (mem_ascending.mpr hb) hlt
  rw [← alterEntry_of_eq hid]
  constructor
  · intro hlt
    have halt := hpair e he entry hentry hlt
    rwa [alterEntry_of_ne hne] at halt
  · intro hlt
    by_contra hnot
    have hdiff : entry.orderKey ≠ e.orderKey := by
      intro heq
      exact hne ((congrArg (fun k => (ofLex k).2) heq).symm.trans hid)
    have halt := hpair entry hentry e he (lt_of_le_of_ne (not_lt.mp hnot) hdiff)
    rw [alterEntry_of_ne hne] at halt
    exact lt_asymm hlt halt

/-- Without collisions, an altered ledger with the right hashes is a chain exactly when the altered
entry keeps its place. -/
lemma linked_alter_iff (hsha : CollisionFree sha256)
    (hvalid : (verifyLedgerIntegrity sha256 ledger.rows).valid)
    (hrows : ledger'.rows = ledger.rows.map (alterEntry id fields)) :
    Linked StoredEntry.prevHash StoredEntry.entryHash GENESIS_HASH (ordered ledger'.rows) ↔
      KeepsPlace ledger id fields := by
  obtain ⟨hlinked, hhashes⟩ := valid_iff.mp hvalid
  constructor
  · intro hlinked'
    apply keepsPlace_of_ordered
    have hperm : (ordered ledger'.rows).Perm ((ordered ledger.rows).map (alterEntry id fields)) := by
      refine (ascending_perm _ _).trans ?_
      rw [hrows]
      exact ((ascending_perm StoredEntry.orderKey ledger.rows).map _).symm
    have hsame : ((ordered ledger.rows).map (alterEntry id fields)).map
        (fun e => (e.prevHash, e.entryHash)) =
          (ordered ledger.rows).map fun e => (e.prevHash, e.entryHash) :=
      links_alterEntry (ordered ledger.rows)
    have hlinks := hlinked.links_eq (hsha.binding hlinked hhashes) hlinked' (by
      rw [← hsame]
      exact hperm.map _)
    rw [← hsame] at hlinks
    -- the hashes tell the entries apart: the same links in the same order are the same entries
    apply eq_of_perm_of_map_eq hperm hlinks
    rw [links_alterEntry]
    apply List.Nodup.of_map Prod.snd
    rw [List.map_map]
    exact hlinked.nodup (hsha.binding hlinked hhashes)
  · intro hplace
    rw [ordered_alterEntry hrows hplace, linked_iff_links, links_alterEntry, ← linked_iff_links]
    exact hlinked

/-- An alteration is missed exactly when it keeps the text of the columns and the place of the
entry. -/
lemma valid_alter_iff (hsha : CollisionFree sha256)
    (hvalid : (verifyLedgerIntegrity sha256 ledger.rows).valid)
    (hedit : (LedgerEdit.alter id fields).apply ledger = some ledger') :
    (verifyLedgerIntegrity sha256 ledger'.rows).valid ↔
      ¬ (LedgerEdit.alter id fields).Shows ledger := by
  have hrows : ledger'.rows = ledger.rows.map (alterEntry id fields) := Table.rows_of_ofRows? hedit
  rw [valid_iff, linked_alter_iff hsha hvalid hrows, hrows,
    computedHash_alterEntry_iff hsha (valid_iff.mp hvalid).2]
  constructor
  · rintro ⟨hplace, htext⟩ ⟨entry, hentry, hid, hchange | ⟨e, he, hne, hmoved⟩⟩
    · exact hchange (htext entry hentry hid)
    · exact hmoved (hplace entry hentry hid e he hne)
  · intro hnone
    constructor
    · intro entry hentry hid e he hne
      by_contra hmoved
      exact hnone ⟨entry, hentry, hid, .inr ⟨e, he, hne, hmoved⟩⟩
    · intro entry hentry hid
      by_contra hchange
      exact hnone ⟨entry, hentry, hid, .inl hchange⟩

end Alter

/-! ### Changes of an accepted ledger -/

/-- Without collisions, the verifier rejects a changed ledger exactly when the change shows. -/
theorem edit_rejected_iff {sha256 : String → String} (hsha : CollisionFree sha256)
    (ledger ledger' : Table StoredEntry.key) (edit : LedgerEdit)
    (hvalid : (verifyLedgerIntegrity sha256 ledger.rows).valid)
    (hedit : edit.apply ledger = some ledger') :
    ¬ (verifyLedgerIntegrity sha256 ledger'.rows).valid ↔ edit.Shows ledger := by
  cases edit with
  | alter id fields => rw [valid_alter_iff hsha hvalid hedit, not_not]
  | delete ids => rw [valid_delete_iff hsha hvalid hedit, not_not]

/-- Without collisions, the verifier rejects a ledger in which the text of an entry or its place has
changed, or an entry is left behind a deleted one. -/
theorem shown_edit_rejected {sha256 : String → String} (hsha : CollisionFree sha256)
    (ledger ledger' : Table StoredEntry.key) (edit : LedgerEdit)
    (hvalid : (verifyLedgerIntegrity sha256 ledger.rows).valid)
    (hedit : edit.apply ledger = some ledger') (hshows : edit.Shows ledger) :
    ¬ (verifyLedgerIntegrity sha256 ledger'.rows).valid :=
  (edit_rejected_iff hsha ledger ledger' edit hvalid hedit).mpr hshows

/-! ### A hash to evaluate on -/

/-- The characters of a text, with its colons escaped. -/
def escaped : List Char → List Char
  | []      => []
  | c :: cs =>
    if c = ':' then '%' :: '.' :: escaped cs
    else if c = '%' then '%' :: '%' :: escaped cs
    else c :: escaped cs

/-- A text as its own digest: without colons, and not a row of zeros. -/
def escapedHash (text : String) : String := String.ofList ('h' :: escaped text.toList)

lemma colon_notMem_escaped (cs : List Char) : ':' ∉ escaped cs := by
  induction cs with
  | nil => simp [escaped]
  | cons c cs ih =>
    rw [escaped]
    split_ifs with hcolon
    · simp [ih]
    · simp [ih]
    · simp [ih, Ne.symm hcolon]

lemma escaped_injective : Function.Injective escaped := by
  intro cs
  induction cs with
  | nil =>
    intro ds h
    cases ds with
    | nil => rfl
    | cons d ds =>
      rw [escaped, escaped] at h
      split_ifs at h
  | cons c cs ih =>
    intro ds h
    cases ds with
    | nil =>
      rw [escaped, escaped] at h
      split_ifs at h
    | cons d ds =>
      have htail : escaped cs = escaped ds → cs = ds := fun heq => ih heq
      rw [escaped, escaped] at h
      split_ifs at h <;> grind

lemma collisionFree_escapedHash : CollisionFree escapedHash := by
  constructor
  · intro a b h
    have hlist := congrArg String.toList h
    simp only [escapedHash, String.toList_ofList, List.cons.injEq, true_and] at hlist
    exact String.toList_inj.mp (escaped_injective hlist)
  · intro text
    simp [escapedHash, colon_notMem_escaped]
  · intro text h
    have hhead : (escapedHash text).toList.head? = GENESIS_HASH.toList.head? := by rw [h]
    rw [escapedHash, String.toList_ofList, List.head?_cons] at hhead
    revert hhead
    decide

/-! ### Missing last entries -/

/-- The first of two settlements. -/
def firstSettlement : StoredEntry :=
  .chained escapedHash GENESIS_HASH
    ((sampleParams "pay_1").fields "del_3000_x7" "2026-01-01T00:00:03.000Z")

/-- The second of two settlements. -/
def secondSettlement : StoredEntry :=
  .chained escapedHash firstSettlement.entryHash
    ((sampleParams "pay_2").fields "del_3001_a2" "2026-01-01T00:00:03.001Z")

/-- A ledger of two settlements. -/
def auditedLedger : Table StoredEntry.key := ⟨[firstSettlement, secondSettlement], by decide +kernel⟩

lemma ordered_auditedLedger :
    ordered auditedLedger.rows = [firstSettlement, secondSettlement] := by
  symm
  apply eq_ascending (nodup_orderKey auditedLedger) (List.Perm.refl _)
  apply List.pairwise_pair.mpr
  decide +kernel

lemma valid_auditedLedger : (verifyLedgerIntegrity escapedHash auditedLedger.rows).valid := by
  rw [valid_iff, ordered_auditedLedger]
  constructor
  · exact ⟨rfl, rfl, trivial⟩
  · intro e he
    rcases List.mem_pair.mp he with rfl | rfl <;> rfl

/-- The first settlement, with its amount doubled. -/
def doubledAmount : LedgerEdit :=
  .alter "del_3000_x7" { firstSettlement.toEntryFields with amountPaise := 200000 }

/-- A doubled amount is rejected. -/
theorem shown_edit_rejected_doubledAmount :
    ∃ ledger', doubledAmount.apply auditedLedger = some ledger' ∧
      ¬ (verifyLedgerIntegrity escapedHash ledger'.rows).valid := by
  obtain ⟨ledger', hedit⟩ : ∃ ledger', doubledAmount.apply auditedLedger = some ledger' :=
    Option.isSome_iff_exists.mp (by decide +kernel)
  refine ⟨ledger', hedit, ?_⟩
  apply shown_edit_rejected collisionFree_escapedHash auditedLedger ledger' doubledAmount
    valid_auditedLedger hedit
  exact ⟨firstSettlement, List.mem_cons_self, rfl, .inl (by decide +kernel)⟩

/-- A ledger whose last settlement is deleted is accepted. -/
theorem missing_suffix_accepted :
    ¬ ∀ (sha256 : String → String), CollisionFree sha256 →
      ∀ (ledger ledger' : Table StoredEntry.key) (edit : LedgerEdit),
        (verifyLedgerIntegrity sha256 ledger.rows).valid → edit.apply ledger = some ledger' →
          ledger'.rows ≠ ledger.rows → ¬ (verifyLedgerIntegrity sha256 ledger'.rows).valid := by
  intro h
  obtain ⟨ledger', hedit⟩ :
      ∃ ledger', (LedgerEdit.delete ["del_3001_a2"]).apply auditedLedger = some ledger' :=
    Option.isSome_iff_exists.mp (by decide +kernel)
  have hrows : ledger'.rows = auditedLedger.rows.filter fun e => e.id ∉ ["del_3001_a2"] :=
    Table.rows_of_ofRows? hedit
  apply h escapedHash collisionFree_escapedHash auditedLedger ledger' _ valid_auditedLedger hedit
  · intro heq
    have hlength := congrArg List.length (hrows.symm.trans heq)
    revert hlength
    decide +kernel
  · apply (valid_delete_iff collisionFree_escapedHash valid_auditedLedger hedit).mpr
    decide +kernel

end DoubleEntryLedger

end CtrlRecovery
