import Mathlib.Data.List.Nodup

/-!
# Keyed tables

A table is a list of rows in insertion order, no two of which share their primary key. The
uniqueness of the key is a field of the structure, so that no operation can build a table that
breaks it. `put` is an insert that replaces the row of the same key in place, `update` rewrites the
row of one key, and every lookup after them is given by `find?_put` and `find?_update`.
-/

namespace Core

/-- Rows of type `ρ` in insertion order, with the primary key `key`. -/
structure Table {ρ κ : Type*} (key : ρ → κ) where
  rows : List ρ
  nodup : (rows.map key).Nodup

namespace Table

variable {ρ κ : Type*} {key : ρ → κ}

@[ext] lemma ext {t t' : Table key} (h : t.rows = t'.rows) : t = t' := by
  cases t
  cases t'
  cases h
  rfl

def empty : Table key := ⟨[], List.nodup_nil⟩

@[simp] lemma rows_empty : (empty : Table key).rows = [] := rfl

lemma eq_of_key_eq (t : Table key) {r r' : ρ} (h : r ∈ t.rows) (h' : r' ∈ t.rows)
    (hkey : key r = key r') : r = r' :=
  List.inj_on_of_nodup_map t.nodup h h' hkey

variable [DecidableEq κ]

/-! ### Lookup -/

def find? (t : Table key) (k : κ) : Option ρ := t.rows.find? fun r => key r = k

lemma find?_eq_some_iff {t : Table key} {k : κ} {r : ρ} :
    t.find? k = some r ↔ r ∈ t.rows ∧ key r = k := by
  constructor
  · intro h
    have hkey := List.find?_some h
    exact ⟨List.mem_of_find?_eq_some h, by simpa using hkey⟩
  · rintro ⟨hmem, rfl⟩
    obtain ⟨r', hr'⟩ : ∃ r', t.find? (key r) = some r' := by
      rw [← Option.isSome_iff_exists, find?, List.find?_isSome]
      exact ⟨r, hmem, by simp⟩
    have hkey : key r' = key r := by simpa using List.find?_some hr'
    rw [hr', t.eq_of_key_eq (List.mem_of_find?_eq_some hr') hmem hkey]

lemma mem_of_find? {t : Table key} {k : κ} {r : ρ} (h : t.find? k = some r) : r ∈ t.rows :=
  (find?_eq_some_iff.mp h).1

lemma key_of_find? {t : Table key} {k : κ} {r : ρ} (h : t.find? k = some r) : key r = k :=
  (find?_eq_some_iff.mp h).2

lemma find?_key_of_mem {t : Table key} {r : ρ} (h : r ∈ t.rows) : t.find? (key r) = some r :=
  find?_eq_some_iff.mpr ⟨h, rfl⟩

lemma find?_eq_none_iff {t : Table key} {k : κ} : t.find? k = none ↔ ∀ r ∈ t.rows, key r ≠ k := by
  simp [find?]

@[simp] lemma find?_empty (k : κ) : (empty : Table key).find? k = none := rfl

/-! ### Updating the row of a key -/

/-- Rewrite the row of `k` by `f`, which keeps the key. -/
def update (t : Table key) (k : κ) (f : ρ → ρ) (hf : ∀ r, key (f r) = key r) :
    Table key where
  rows := t.rows.map fun r => if key r = k then f r else r
  nodup := by
    have hkeys : (t.rows.map fun r => if key r = k then f r else r).map key = t.rows.map key := by
      rw [List.map_map]
      refine List.map_congr_left fun r _ => ?_
      simp only [Function.comp_apply]
      split_ifs
      · exact hf r
      · rfl
    rw [hkeys]
    exact t.nodup

variable {t : Table key} {k j : κ} {f : ρ → ρ} {hf : ∀ r, key (f r) = key r}

lemma rows_update :
    (t.update k f hf).rows = t.rows.map fun r => if key r = k then f r else r := rfl

lemma find?_update :
    (t.update k f hf).find? j = if j = k then (t.find? j).map f else t.find? j := by
  have hcomp : (fun r => decide (key (if key r = k then f r else r) = j)) =
      fun r => decide (key r = j) := by
    funext r
    split_ifs
    · rw [hf]
    · rfl
  simp only [find?, rows_update, List.find?_map, Function.comp_def, hcomp]
  split_ifs with hjk
  · subst hjk
    cases h : t.rows.find? fun r => key r = j with
    | none => rfl
    | some r =>
      have hr : key r = j := by simpa using List.find?_some h
      simp [hr]
  · cases h : t.rows.find? fun r => key r = j with
    | none => rfl
    | some r =>
      have hr : key r = j := by simpa using List.find?_some h
      have hrk : key r ≠ k := fun hk => hjk (hr ▸ hk)
      simp [hrk]

@[simp] lemma find?_update_self : (t.update k f hf).find? k = (t.find? k).map f := by
  rw [find?_update, if_pos rfl]

lemma find?_update_of_ne (h : j ≠ k) : (t.update k f hf).find? j = t.find? j := by
  rw [find?_update, if_neg h]

lemma update_eq_self (h : ∀ r ∈ t.find? k, f r = r) : t.update k f hf = t := by
  apply Table.ext
  have hrow : ∀ r ∈ t.rows, (if key r = k then f r else r) = r := by
    intro r hr
    split_ifs with hk
    · apply h
      rw [← hk]
      exact find?_key_of_mem hr
    · rfl
  rw [rows_update, List.map_congr_left hrow, List.map_id']

/-- What a filter keeps is the same after an update of rows that it drops before and after. -/
lemma filter_rows_update {q : ρ → Bool} (h : ∀ r ∈ t.rows, key r = k → ¬ q r ∧ ¬ q (f r)) :
    (t.update k f hf).rows.filter q = t.rows.filter q := by
  have hkept : t.rows.filter (q ∘ fun r => if key r = k then f r else r) = t.rows.filter q := by
    refine List.filter_congr fun r hr => ?_
    simp only [Function.comp_apply]
    split_ifs with hk
    · rw [Bool.eq_false_iff.mpr (h r hr hk).1, Bool.eq_false_iff.mpr (h r hr hk).2]
    · rfl
  rw [rows_update, List.filter_map, hkept]
  conv_rhs => rw [← List.map_id (t.rows.filter q)]
  refine List.map_congr_left fun r hr => if_neg fun hk => ?_
  exact (h r (List.mem_of_mem_filter hr) hk).1 (List.mem_filter.mp hr).2

/-! ### Updating the rows of a condition -/

omit [DecidableEq κ] in
lemma nodup_map_updateWhere (t : Table key) (q : ρ → Bool) (f : ρ → ρ)
    (hf : ∀ r, key (f r) = key r) : ((t.rows.map fun r => if q r then f r else r).map key).Nodup := by
  have hkeys : (t.rows.map fun r => if q r then f r else r).map key = t.rows.map key := by
    rw [List.map_map]
    refine List.map_congr_left fun r _ => ?_
    simp only [Function.comp_apply]
    split_ifs
    · exact hf r
    · rfl
  rw [hkeys]
  exact t.nodup

/-- Rewrite the rows that `q` selects by `f`, which keeps the key. -/
def updateWhere (t : Table key) (q : ρ → Bool) (f : ρ → ρ) (hf : ∀ r, key (f r) = key r) :
    Table key :=
  ⟨t.rows.map fun r => if q r then f r else r, t.nodup_map_updateWhere q f hf⟩

omit [DecidableEq κ] in
lemma mem_updateWhere {q : ρ → Bool} {f : ρ → ρ} {hf : ∀ r, key (f r) = key r} {x : ρ} :
    x ∈ (t.updateWhere q f hf).rows ↔ ∃ r ∈ t.rows, (if q r then f r else r) = x :=
  List.mem_map

lemma find?_updateWhere (t : Table key) (q : ρ → Bool) (f : ρ → ρ) (hf : ∀ r, key (f r) = key r)
    (k : κ) : (t.updateWhere q f hf).find? k = (t.find? k).map fun r => if q r then f r else r := by
  have hkey : ∀ r, key (if q r then f r else r) = key r := fun r => by
    split_ifs
    · exact hf r
    · rfl
  cases h : t.find? k with
  | none =>
    rw [Option.map_none, find?_eq_none_iff]
    intro r hr hk
    obtain ⟨old, hold, rfl⟩ := mem_updateWhere.mp hr
    exact find?_eq_none_iff.mp h old hold ((hkey old).symm.trans hk)
  | some r =>
    rw [Option.map_some, find?_eq_some_iff]
    exact ⟨mem_updateWhere.mpr ⟨r, mem_of_find? h, rfl⟩, (hkey r).trans (key_of_find? h)⟩

/-! ### Inserting or replacing a row -/

/-- Insert a row, or replace the row of the same key where it stands. -/
def put (t : Table key) (r : ρ) : Table key :=
  if h : key r ∈ t.rows.map key then
    { rows := t.rows.map fun x => if key x = key r then r else x
      nodup := by
        have hkeys : (t.rows.map fun x => if key x = key r then r else x).map key =
            t.rows.map key := by
          rw [List.map_map]
          refine List.map_congr_left fun x _ => ?_
          simp only [Function.comp_apply]
          split_ifs with hx
          · exact hx.symm
          · rfl
        rw [hkeys]
        exact t.nodup }
  else
    { rows := t.rows ++ [r]
      nodup := by
        rw [List.map_append, List.nodup_append]
        refine ⟨t.nodup, by simp, fun a ha b hb => ?_⟩
        rw [List.map_singleton, List.mem_singleton] at hb
        rintro rfl
        exact h (hb ▸ ha) }

lemma rows_put_of_mem {r : ρ} (h : key r ∈ t.rows.map key) :
    (t.put r).rows = t.rows.map fun x => if key x = key r then r else x := by
  rw [put, dif_pos h]

lemma rows_put_of_notMem {r : ρ} (h : key r ∉ t.rows.map key) :
    (t.put r).rows = t.rows ++ [r] := by
  rw [put, dif_neg h]

lemma mem_put {r x : ρ} : x ∈ (t.put r).rows ↔ x = r ∨ (x ∈ t.rows ∧ key x ≠ key r) := by
  by_cases h : key r ∈ t.rows.map key
  · simp only [rows_put_of_mem h, List.mem_map]
    constructor
    · rintro ⟨y, hy, rfl⟩
      split_ifs with hk
      · exact .inl rfl
      · exact .inr ⟨hy, hk⟩
    · rintro (rfl | ⟨hx, hk⟩)
      · obtain ⟨y, hy, hkey⟩ := List.mem_map.mp h
        exact ⟨y, hy, if_pos hkey⟩
      · exact ⟨x, hx, if_neg hk⟩
  · simp only [rows_put_of_notMem h, List.mem_append, List.mem_singleton]
    constructor
    · rintro (hx | rfl)
      · exact .inr ⟨hx, fun hk => h (hk ▸ List.mem_map_of_mem hx)⟩
      · exact .inl rfl
    · rintro (rfl | ⟨hx, -⟩)
      · exact .inr rfl
      · exact .inl hx

lemma find?_put {r : ρ} : (t.put r).find? j = if j = key r then some r else t.find? j := by
  split_ifs with h
  · exact find?_eq_some_iff.mpr ⟨mem_put.mpr (.inl rfl), h.symm⟩
  · refine Option.ext fun x => ?_
    rw [find?_eq_some_iff, find?_eq_some_iff, mem_put]
    constructor
    · rintro ⟨rfl | ⟨hx, -⟩, rfl⟩
      · exact absurd rfl h
      · exact ⟨hx, rfl⟩
    · rintro ⟨hx, rfl⟩
      exact ⟨.inr ⟨hx, h⟩, rfl⟩

@[simp] lemma find?_put_self {r : ρ} : (t.put r).find? (key r) = some r := by
  rw [find?_put, if_pos rfl]

lemma find?_put_of_ne {r : ρ} (h : j ≠ key r) : (t.put r).find? j = t.find? j := by
  rw [find?_put, if_neg h]

/-- What a filter keeps is the same after a `put` of a row that it drops, over none that it keeps.
-/
lemma filter_rows_put_of_neg {r : ρ} {q : ρ → Bool} (hr : ¬ q r)
    (hold : ∀ x ∈ t.rows, key x = key r → ¬ q x) : (t.put r).rows.filter q = t.rows.filter q := by
  by_cases h : key r ∈ t.rows.map key
  · rw [rows_put_of_mem h, List.filter_map]
    have hkept : t.rows.filter (q ∘ fun x => if key x = key r then r else x) = t.rows.filter q := by
      refine List.filter_congr fun x hx => ?_
      simp only [Function.comp_apply]
      split_ifs with hk
      · rw [Bool.eq_false_iff.mpr hr, Bool.eq_false_iff.mpr (hold x hx hk)]
      · rfl
    rw [hkept]
    conv_rhs => rw [← List.map_id (t.rows.filter q)]
    refine List.map_congr_left fun x hx => if_neg fun hk => ?_
    exact hold x (List.mem_of_mem_filter hx) hk (List.mem_filter.mp hx).2
  · simp [rows_put_of_notMem h, hr]

/-- A filter keeps one row more after a `put` of a row that it keeps, over none that it keeps. -/
lemma filter_rows_put_of_pos {r : ρ} {q : ρ → Bool} (hr : q r)
    (hold : ∀ x ∈ t.rows, key x = key r → ¬ q x) :
    ((t.put r).rows.filter q).Perm (r :: t.rows.filter q) := by
  have hnodup : (r :: t.rows.filter q).Nodup := by
    rw [List.nodup_cons]
    refine ⟨fun hmem => ?_, (List.Nodup.of_map _ t.nodup).filter q⟩
    exact hold r (List.mem_of_mem_filter hmem) rfl hr
  rw [List.perm_ext_iff_of_nodup ((List.Nodup.of_map _ (t.put r).nodup).filter q) hnodup]
  intro x
  simp only [List.mem_filter, mem_put, List.mem_cons]
  constructor
  · rintro ⟨rfl | ⟨hx, -⟩, hq⟩
    · exact .inl rfl
    · exact .inr ⟨hx, hq⟩
  · rintro (rfl | ⟨hx, hq⟩)
    · exact ⟨.inl rfl, hr⟩
    · exact ⟨.inr ⟨hx, fun hk => hold x hx hk hq⟩, hq⟩

/-! ### Deleting the row of a key -/

/-- Delete the row of `k`. -/
def erase (t : Table key) (k : κ) : Table key where
  rows := t.rows.filter fun r => key r ≠ k
  nodup := t.nodup.sublist (List.filter_sublist.map key)

lemma mem_erase {x : ρ} : x ∈ (t.erase k).rows ↔ x ∈ t.rows ∧ key x ≠ k := by
  simp [erase]

lemma find?_erase : (t.erase k).find? j = if j = k then none else t.find? j := by
  split_ifs with h
  · exact find?_eq_none_iff.mpr fun r hr hkey => (mem_erase.mp hr).2 (hkey.trans h)
  · refine Option.ext fun r => ?_
    rw [find?_eq_some_iff, find?_eq_some_iff, mem_erase]
    constructor
    · rintro ⟨⟨hr, -⟩, hkey⟩
      exact ⟨hr, hkey⟩
    · rintro ⟨hr, hkey⟩
      exact ⟨⟨hr, fun hk => h (hkey.symm.trans hk)⟩, hkey⟩

/-! ### Replacing conflicting rows -/

/-- Insert a row in place of the row of the same key and of those that `conflicts` selects. -/
def replace (t : Table key) (r : ρ) (conflicts : ρ → Bool) : Table key where
  rows := (t.rows.filter fun x => !conflicts x && key x ≠ key r) ++ [r]
  nodup := by
    rw [List.map_append, List.nodup_append]
    refine ⟨t.nodup.sublist (List.filter_sublist.map key), by simp, fun a ha b hb => ?_⟩
    obtain ⟨x, hx, rfl⟩ := List.mem_map.mp ha
    rw [List.map_singleton, List.mem_singleton] at hb
    rw [List.mem_filter, Bool.and_eq_true, decide_eq_true_iff] at hx
    rintro rfl
    exact hx.2.2 hb

lemma mem_replace {r x : ρ} {conflicts : ρ → Bool} :
    x ∈ (t.replace r conflicts).rows ↔
      x = r ∨ (x ∈ t.rows ∧ conflicts x = false ∧ key x ≠ key r) := by
  simp only [replace, List.mem_append, List.mem_filter, List.mem_singleton, Bool.and_eq_true,
    Bool.not_eq_true', decide_eq_true_eq]
  exact or_comm

/-! ### Inserting a new row -/

/-- Insert a row; `none` when its key is taken. -/
def insert? (t : Table key) (r : ρ) : Option (Table key) :=
  if key r ∈ t.rows.map key then none else some (t.put r)

def insertOrIgnore (t : Table key) (r : ρ) : Table key := (t.insert? r).getD t

lemma insert?_eq_some_iff {r : ρ} {t' : Table key} :
    t.insert? r = some t' ↔ key r ∉ t.rows.map key ∧ t'.rows = t.rows ++ [r] := by
  rw [insert?]
  split_ifs with h
  · simp [h]
  · simp only [Option.some.injEq, h, not_false_eq_true, true_and]
    rw [← rows_put_of_notMem h, Table.ext_iff, eq_comm]

lemma rows_of_insert? {r : ρ} {t' : Table key} (h : t.insert? r = some t') :
    t'.rows = t.rows ++ [r] :=
  (insert?_eq_some_iff.mp h).2

lemma exists_insert? {r : ρ} (h : key r ∉ t.rows.map key) : ∃ t', t.insert? r = some t' :=
  ⟨t.put r, by rw [insert?, if_neg h]⟩

/-! ### A table of given rows -/

/-- The table of these rows, when no two of them share their key. -/
def ofRows? (rows : List ρ) : Option (Table key) :=
  if h : (rows.map key).Nodup then some ⟨rows, h⟩ else none

lemma rows_of_ofRows? {rows : List ρ} {t : Table key} (h : ofRows? rows = some t) :
    t.rows = rows := by
  rw [ofRows?] at h
  split_ifs at h
  cases h
  rfl

end Table

end Core
