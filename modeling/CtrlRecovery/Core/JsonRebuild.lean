import CtrlRecovery.Core.JsonKeys

/-!
# Objects rebuilt by assignment

A JSON object that is copied field by field, with `copy[key] = value`, has a field for each key that was
assigned, with the last value. The key `__proto__` is special: assigning to it sets the prototype of the
copy, which is no field of its own, as long as the copy inherits the setter of `__proto__`. It loses the
setter with a prototype that has lost it, such as `null`.

The copy has as many fields as were assigned exactly when the keys differ and none is `__proto__`
(`length_build_eq_iff`).
-/

namespace Core

namespace Json

/-- A copied value, and whether an object of which it was made the prototype still has the setter. A
prototype that is neither an object nor `null` is ignored. -/
structure Rebuilt where
  value : Json
  setter : Bool

/-- An object that is being built. -/
structure Draft where
  fields : List (String × Json) := []
  setter : Bool := true

def protoKey : String := "__proto__"

section Fields

variable {fields : List (String × Json)} {k : String} {v : Json}

def putField (fields : List (String × Json)) (k : String) (v : Json) : List (String × Json) :=
  if k ∈ fields.map Prod.fst then fields.map fun f => if f.1 = k then (k, v) else f
  else fields ++ [(k, v)]

lemma putField_of_new (h : k ∉ fields.map Prod.fst) : putField fields k v = fields ++ [(k, v)] :=
  if_neg h

lemma map_fst_putField : (putField fields k v).map Prod.fst =
    if k ∈ fields.map Prod.fst then fields.map Prod.fst else fields.map Prod.fst ++ [k] := by
  rw [putField]
  split_ifs
  · rw [List.map_map]
    refine List.map_congr_left fun f _ => ?_
    rw [Function.comp_apply]
    split_ifs with hk
    · exact hk.symm
    · rfl
  · simp

lemma mem_map_fst_putField {l : String} :
    l ∈ (putField fields k v).map Prod.fst ↔ l = k ∨ l ∈ fields.map Prod.fst := by
  rw [map_fst_putField]
  split_ifs with hmem
  · exact ⟨.inr, fun h => h.elim (fun h => h ▸ hmem) id⟩
  · rw [List.mem_append, List.mem_singleton, or_comm]

lemma nodup_putField (h : (fields.map Prod.fst).Nodup) :
    ((putField fields k v).map Prod.fst).Nodup := by
  rw [map_fst_putField]
  split_ifs with hmem
  · exact h
  · exact List.nodup_append.mpr
      ⟨h, List.nodup_singleton k, fun a ha b hb hab => hmem (List.mem_singleton.mp hb ▸ hab ▸ ha)⟩

end Fields

/-- `copy[k] = v`. -/
def Draft.assign (d : Draft) (k : String) (v : Rebuilt) : Draft :=
  if k = protoKey ∧ d.setter then { d with setter := v.setter }
  else { d with fields := putField d.fields k v.value }

lemma nodup_assign {d : Draft} {k : String} {v : Rebuilt} (h : (d.fields.map Prod.fst).Nodup) :
    ((d.assign k v).fields.map Prod.fst).Nodup := by
  rw [Draft.assign]
  split_ifs
  · exact h
  · exact nodup_putField h

lemma mem_of_mem_assign {d : Draft} {k l : String} {v : Rebuilt}
    (h : l ∈ (d.assign k v).fields.map Prod.fst) : l = k ∨ l ∈ d.fields.map Prod.fst := by
  rw [Draft.assign] at h
  split_ifs at h
  · exact .inr h
  · exact mem_map_fst_putField.mp h

def build (fs : List (String × Rebuilt)) : Draft :=
  fs.foldl (fun d f => d.assign f.1 f.2) {}

def rebuiltObject (fs : List (String × Rebuilt)) : Rebuilt :=
  ⟨.object (build fs).fields, (build fs).setter⟩

variable {fs : List (String × Rebuilt)} {d : Draft}

lemma nodup_build : ((build fs).fields.map Prod.fst).Nodup := by
  have hfrom : ∀ d : Draft, (d.fields.map Prod.fst).Nodup →
      ((fs.foldl (fun d f => d.assign f.1 f.2) d).fields.map Prod.fst).Nodup := by
    induction fs with
    | nil => exact fun _ h => h
    | cons f fs ih => exact fun d h => ih _ (nodup_assign h)
  exact hfrom {} List.nodup_nil

lemma mem_of_mem_build {k : String} (h : k ∈ (build fs).fields.map Prod.fst) :
    k ∈ fs.map Prod.fst := by
  have hfrom : ∀ d : Draft, k ∈ (fs.foldl (fun d f => d.assign f.1 f.2) d).fields.map Prod.fst →
      k ∈ d.fields.map Prod.fst ∨ k ∈ fs.map Prod.fst := by
    clear h
    induction fs with
    | nil => exact fun _ h => .inl h
    | cons f fs ih =>
      intro d h
      rw [List.map_cons, List.mem_cons]
      rcases ih _ h with hd | hfs
      · exact (mem_of_mem_assign hd).elim (fun hk => .inr (.inl hk)) .inl
      · exact .inr (.inr hfs)
  exact (hfrom {} h).resolve_left List.not_mem_nil

/-- Different keys make a field each, except for `__proto__`. -/
lemma build_of_nodup (h : (fs.map Prod.fst).Nodup) : (build fs).fields =
    (fs.filter fun f => f.1 ≠ protoKey).map fun f => (f.1, f.2.value) := by
  have hfrom : ∀ d : Draft, (protoKey ∈ fs.map Prod.fst → d.setter = true) →
      (∀ k ∈ fs.map Prod.fst, k ∉ d.fields.map Prod.fst) →
      (fs.foldl (fun d f => d.assign f.1 f.2) d).fields =
        d.fields ++ (fs.filter fun f => f.1 ≠ protoKey).map fun f => (f.1, f.2.value) := by
    induction fs with
    | nil => simp
    | cons f fs ih =>
      intro d hsetter hnew
      obtain ⟨hf, hfs⟩ := List.nodup_cons.mp h
      rw [List.foldl_cons]
      by_cases hproto : f.1 = protoKey
      · have hassign : d.assign f.1 f.2 = { d with setter := f.2.setter } :=
          if_pos ⟨hproto, hsetter (by simp [hproto])⟩
        have hrest := ih hfs { d with setter := f.2.setter } (fun hmem => absurd (hproto ▸ hmem) hf)
          fun k hk => hnew k (List.mem_cons_of_mem _ hk)
        rw [hassign, hrest, List.filter_cons_of_neg (by simpa using hproto)]
      · have hassign : d.assign f.1 f.2 = { d with fields := d.fields ++ [(f.1, f.2.value)] } := by
          rw [Draft.assign, if_neg fun h => hproto h.1,
            putField_of_new (hnew f.1 List.mem_cons_self)]
        rw [hassign, ih hfs, List.filter_cons_of_pos (by simpa using hproto), List.map_cons,
          List.append_assoc, List.singleton_append]
        · exact fun hmem => hsetter (List.mem_cons_of_mem _ hmem)
        · intro k hk hmem
          rw [List.map_append, List.mem_append] at hmem
          rcases hmem with hmem | hmem
          · exact hnew k (List.mem_cons_of_mem _ hk) hmem
          · exact hf (List.mem_singleton.mp hmem ▸ hk)
  exact hfrom {} (fun _ => rfl) (fun _ _ => List.not_mem_nil)

/-- Different keys that are not `__proto__` are all kept, with their values. -/
lemma build_of_plain (h : (fs.map Prod.fst).Nodup) (hproto : protoKey ∉ fs.map Prod.fst) :
    (build fs).fields = fs.map fun f => (f.1, f.2.value) := by
  rw [build_of_nodup h, List.filter_eq_self.mpr]
  intro f hf
  exact decide_eq_true fun hk => hproto (List.mem_map.mpr ⟨f, hf, hk⟩)

/-- The copy has a field for each assignment exactly when the keys differ and none is `__proto__`. -/
theorem length_build_eq_iff : (build fs).fields.length = fs.length ↔
    (fs.map Prod.fst).Nodup ∧ protoKey ∉ fs.map Prod.fst := by
  constructor
  · intro hlength
    have hsub : ((build fs).fields.map Prod.fst).Subperm (fs.map Prod.fst) :=
      nodup_build.subperm fun k => mem_of_mem_build
    have hperm := hsub.perm_of_length_le (by simp [hlength])
    have hnodup := hperm.nodup_iff.mp nodup_build
    refine ⟨hnodup, fun hproto => ?_⟩
    rw [build_of_nodup hnodup, List.length_map] at hlength
    obtain ⟨f, hf, hk⟩ := List.mem_map.mp hproto
    exact absurd (List.length_filter_eq_length_iff.mp hlength f hf) (by simp [hk])
  · rintro ⟨hnodup, hproto⟩
    rw [build_of_plain hnodup hproto, List.length_map]

end Json

end Core
