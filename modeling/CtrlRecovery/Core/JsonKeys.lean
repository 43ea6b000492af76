import CtrlRecovery.Core.Json
import Mathlib.Data.Set.Finite.Lattice

/-!
# The keys of objects

The order of the fields of an object carries no meaning: two values are the same (`Same`) when one
becomes the other by reordering the fields of objects, at any depth. A function on values that does
not look at the order of fields gives the same result on both (`Same.fold_eq`).

A list of keys selects fields of every object at any depth, in the order of the list (`select`), as
an array does that is given to `JSON.stringify`. The selection determines the value without its other
fields up to the order of fields (`same_select`), and is determined by it (`select_restrict`,
`Same.select_eq`). What is selected may be inherited by the objects that have no field of the name
(`inherit`).
-/

namespace Core

namespace Json

/-! ### Changing every object -/

/-- Apply `g` to the fields of every object, from the inside out. -/
def mapObjects (g : List (String × Json) → List (String × Json)) (v : Json) : Json :=
  v.fold
    { null := .null
      bool := .bool
      number := .number
      string := .string
      array := .array
      object := fun fields => .object (g fields) }

section MapObjects

variable (g : List (String × Json) → List (String × Json))

@[simp] lemma mapObjects_null : mapObjects g .null = .null := fold_null _

@[simp] lemma mapObjects_bool (b : Bool) : mapObjects g (.bool b) = .bool b := fold_bool _ b

@[simp] lemma mapObjects_number (n : NumberText) : mapObjects g (.number n) = .number n :=
  fold_number _ n

@[simp] lemma mapObjects_string (s : String) : mapObjects g (.string s) = .string s :=
  fold_string _ s

@[simp] lemma mapObjects_array (elems : List Json) :
    mapObjects g (.array elems) = .array (elems.map (mapObjects g)) := fold_array _ elems

@[simp] lemma mapObjects_object (fields : List (String × Json)) :
    mapObjects g (.object fields) =
      .object (g (fields.map fun f => (f.1, mapObjects g f.2))) := fold_object _ fields

end MapObjects

/-- No object has two fields of one name. -/
def Distinct (v : Json) : Prop :=
  v.fold
    { null := True
      bool := fun _ => True
      number := fun _ => True
      string := fun _ => True
      array := fun elems => ∀ p ∈ elems, p
      object := fun fields => (fields.map Prod.fst).Nodup ∧ ∀ f ∈ fields, f.2 }

@[simp] lemma distinct_array {elems : List Json} :
    (array elems).Distinct ↔ ∀ v ∈ elems, v.Distinct := by
  rw [Distinct, fold_array]
  exact List.forall_mem_map

@[simp] lemma distinct_object {fields : List (String × Json)} :
    (object fields).Distinct ↔
      (fields.map Prod.fst).Nodup ∧ ∀ f ∈ fields, f.2.Distinct := by
  simp only [Distinct, fold_object, List.map_map, Function.comp_def, List.forall_mem_map]

/-- A value is or contains an object. -/
def hasObject (v : Json) : Bool :=
  v.fold
    { null := false
      bool := fun _ => false
      number := fun _ => false
      string := fun _ => false
      array := fun elems => elems.any id
      object := fun _ => true }

@[simp] lemma hasObject_array (elems : List Json) :
    (array elems).hasObject = elems.any hasObject := by
  rw [hasObject, fold_array]
  exact List.any_map

@[simp] lemma hasObject_object (fields : List (String × Json)) :
    (object fields).hasObject = true := by
  rw [hasObject, fold_object]

@[simp] lemma hasObject_mapObjects (g : List (String × Json) → List (String × Json)) (v : Json) :
    (mapObjects g v).hasObject = v.hasObject := by
  induction v with
  | array elems ih =>
    rw [mapObjects_array, hasObject_array, hasObject_array, List.any_map, Bool.eq_iff_iff,
      List.any_eq_true, List.any_eq_true]
    exact exists_congr fun v => and_congr_right fun hv => by rw [Function.comp_apply, ih v hv]
  | object fields ih => simp
  | _ => simp

def fields : Json → List (String × Json)
  | .object fields => fields
  | _              => []

def keys (v : Json) : List String := v.fields.map Prod.fst

/-- The names of the fields of all objects in a value. -/
def names (v : Json) : Set String :=
  v.fold
    { null := ∅
      bool := fun _ => ∅
      number := fun _ => ∅
      string := fun _ => ∅
      array := fun elems => {k | ∃ s ∈ elems, k ∈ s}
      object := fun fields => {k | ∃ f ∈ fields, k = f.1 ∨ k ∈ f.2} }

lemma mem_names_array {k : String} {elems : List Json} :
    k ∈ (array elems).names ↔ ∃ v ∈ elems, k ∈ v.names := by
  simp [names, fold_array]

lemma mem_names_object {k : String} {fields : List (String × Json)} :
    k ∈ (object fields).names ↔ ∃ f ∈ fields, k = f.1 ∨ k ∈ f.2.names := by
  simp [names, fold_object, -Prod.exists]

lemma finite_names (v : Json) : v.names.Finite := by
  induction v with
  | array elems ih =>
    refine (elems.finite_toSet.biUnion ih).subset fun k hk => ?_
    simpa [mem_names_array] using hk
  | object fields ih =>
    have hkeys := ((fields.map Prod.fst).finite_toSet.union (fields.finite_toSet.biUnion ih))
    refine hkeys.subset fun k hk => ?_
    obtain ⟨f, hf, rfl | hk⟩ := mem_names_object.mp hk
    · exact .inl (List.mem_map_of_mem hf)
    · exact .inr (Set.mem_biUnion hf hk)
  | _ => exact Set.finite_empty

/-! ### The order of fields -/

/-- Equal up to the order of the fields of objects, at any depth. -/
inductive Same : Json → Json → Prop
  | refl (v : Json) : Same v v
  | symm {v w : Json} : Same v w → Same w v
  | trans {u v w : Json} : Same u v → Same v w → Same u w
  | order {fields fields' : List (String × Json)} :
      fields.Perm fields' → Same (.object fields) (.object fields')
  | element (before after : List Json) {v w : Json} :
      Same v w → Same (.array (before ++ v :: after)) (.array (before ++ w :: after))
  | field (before after : List (String × Json)) (k : String) {v w : Json} :
      Same v w → Same (.object (before ++ (k, v) :: after)) (.object (before ++ (k, w) :: after))

namespace Same

variable {v w : Json}

lemma array_map {f g : Json → Json} (elems : List Json) (h : ∀ v ∈ elems, Same (f v) (g v)) :
    Same (.array (elems.map f)) (.array (elems.map g)) := by
  have hfrom : ∀ before : List Json,
      Same (.array (before ++ elems.map f)) (.array (before ++ elems.map g)) := by
    induction elems with
    | nil => exact fun before => .refl _
    | cons v elems ih =>
      intro before
      obtain ⟨hv, helems⟩ := List.forall_mem_cons.mp h
      have hrest := ih helems (before ++ [g v])
      simp only [List.append_assoc, List.singleton_append] at hrest
      exact (element before (elems.map f) hv).trans hrest
  exact hfrom []

lemma object_map {f g : Json → Json} (fields : List (String × Json))
    (h : ∀ a ∈ fields, Same (f a.2) (g a.2)) :
    Same (.object (fields.map fun a => (a.1, f a.2)))
      (.object (fields.map fun a => (a.1, g a.2))) := by
  have hfrom : ∀ before : List (String × Json),
      Same (.object (before ++ fields.map fun a => (a.1, f a.2)))
        (.object (before ++ fields.map fun a => (a.1, g a.2))) := by
    induction fields with
    | nil => exact fun before => .refl _
    | cons a fields ih =>
      intro before
      obtain ⟨ha, hfields⟩ := List.forall_mem_cons.mp h
      have hrest := ih hfields (before ++ [(a.1, g a.2)])
      simp only [List.append_assoc, List.singleton_append] at hrest
      exact (field before (fields.map fun a => (a.1, f a.2)) a.1 ha).trans hrest
  exact hfrom []

lemma distinct_iff (h : Same v w) : v.Distinct ↔ w.Distinct := by
  induction h with
  | refl v => rfl
  | symm _ ih => exact ih.symm
  | trans _ _ ih ih' => exact ih.trans ih'
  | order hperm =>
    rw [distinct_object, distinct_object, (hperm.map Prod.fst).nodup_iff]
    exact and_congr_right fun _ => forall_congr' fun f => by rw [hperm.mem_iff]
  | element before after _ ih =>
    rw [distinct_array, distinct_array]
    simp only [List.forall_mem_append, List.forall_mem_cons, ih]
  | field before after k _ ih =>
    rw [distinct_object, distinct_object]
    simp only [List.map_append, List.map_cons, List.forall_mem_append, List.forall_mem_cons, ih]

/-- A function that does not look at the order of fields of different names does not tell the same
values apart. -/
theorem fold_eq {α : Type*} {a : Algebra α}
    (horder : ∀ fs gs : List (String × α), fs.Perm gs → (fs.map Prod.fst).Nodup →
      a.object fs = a.object gs) (h : Same v w) (hv : v.Distinct) : v.fold a = w.fold a := by
  induction h with
  | refl v => rfl
  | symm h ih => exact (ih (h.distinct_iff.mpr hv)).symm
  | trans h _ ih ih' => exact (ih hv).trans (ih' (h.distinct_iff.mp hv))
  | order hperm =>
    rw [fold_object, fold_object]
    refine horder _ _ (hperm.map _) ?_
    rw [List.map_map]
    exact (distinct_object.mp hv).1
  | @element before after v w _ ih =>
    have hw : v.Distinct := distinct_array.mp hv v (by simp)
    simp only [fold_array, List.map_append, List.map_cons, ih hw]
  | @field before after k v w _ ih =>
    have hw : v.Distinct := (distinct_object.mp hv).2 (k, v) (by simp)
    simp only [fold_object, List.map_append, List.map_cons, ih hw]

lemma keys_perm (h : Same v w) : v.keys.Perm w.keys := by
  induction h with
  | refl v => rfl
  | symm _ ih => exact ih.symm
  | trans _ _ ih ih' => exact ih.trans ih'
  | order hperm => exact hperm.map Prod.fst
  | element _ _ _ _ => rfl
  | field before after k _ _ => simp [keys, fields]

/-- The fields at the top correspond to each other. -/
lemma exists_field (h : Same v w) :
    (∀ f ∈ v.fields, ∃ g ∈ w.fields, Same f.2 g.2) ∧
      ∀ g ∈ w.fields, ∃ f ∈ v.fields, Same f.2 g.2 := by
  induction h with
  | refl v => exact ⟨fun f hf => ⟨f, hf, .refl _⟩, fun f hf => ⟨f, hf, .refl _⟩⟩
  | symm _ ih =>
    refine ⟨fun f hf => ?_, fun g hg => ?_⟩
    · exact (ih.2 f hf).imp fun _ hg => ⟨hg.1, hg.2.symm⟩
    · exact (ih.1 g hg).imp fun _ hf => ⟨hf.1, hf.2.symm⟩
  | trans _ _ ih ih' =>
    constructor
    · intro f hf
      obtain ⟨g, hg, hfg⟩ := ih.1 f hf
      exact (ih'.1 g hg).imp fun _ hk => ⟨hk.1, hfg.trans hk.2⟩
    · intro k hk
      obtain ⟨g, hg, hgk⟩ := ih'.2 k hk
      exact (ih.2 g hg).imp fun _ hf => ⟨hf.1, hf.2.trans hgk⟩
  | order hperm =>
    exact ⟨fun f hf => ⟨f, hperm.mem_iff.mp hf, .refl _⟩,
      fun f hf => ⟨f, hperm.mem_iff.mpr hf, .refl _⟩⟩
  | element _ _ _ _ => simp [fields]
  | @field before after k v w h _ =>
    have hkept : ∀ {u u' : Json}, Same u u' → ∀ f ∈ before ++ (k, u) :: after,
        ∃ g ∈ before ++ (k, u') :: after, Same f.2 g.2 := by
      intro u u' hu f hf
      rw [List.mem_append, List.mem_cons] at hf
      rcases hf with hf | rfl | hf
      · exact ⟨f, by simp [hf], .refl _⟩
      · exact ⟨(k, u'), by simp, hu⟩
      · exact ⟨f, by simp [hf], .refl _⟩
    exact ⟨hkept h, fun g hg => (hkept h.symm g hg).imp fun _ hf => ⟨hf.1, hf.2.symm⟩⟩

lemma hasObject_eq (h : Same v w) (hv : v.Distinct) : v.hasObject = w.hasObject :=
  h.fold_eq (fun _ _ _ _ => rfl) hv

lemma names_eq (h : Same v w) (hv : v.Distinct) : v.names = w.names := by
  refine h.fold_eq (fun fs gs hperm _ => ?_) hv
  simp only [hperm.mem_iff]

end Same

/-! ### Selecting fields -/

section Fields

variable {α : Type*} {keys : List String} {fields fields' : List (String × α)} {k : String}

def pick (keys : List String) (fields : List (String × α)) : List (String × α) :=
  keys.filterMap fun k => (fields.lookup k).map fun v => (k, v)

lemma lookup_eq_some_iff (hnodup : (fields.map Prod.fst).Nodup) {v : α} :
    fields.lookup k = some v ↔ (k, v) ∈ fields := by
  induction fields with
  | nil => simp
  | cons g fields ih =>
    obtain ⟨hnew, hrest⟩ := List.nodup_cons.mp hnodup
    rw [List.lookup_cons, List.mem_cons]
    by_cases hk : k = g.1
    · subst hk
      have hnot : (g.1, v) ∉ fields := fun h => hnew (List.mem_map.mpr ⟨_, h, rfl⟩)
      simp only [BEq.rfl, Option.some.injEq, hnot, or_false]
      exact ⟨fun h => Prod.ext rfl h.symm, fun h => (congrArg Prod.snd h).symm⟩
    · have hne : (k, v) ≠ g := fun h => hk (congrArg Prod.fst h)
      simp [beq_false_of_ne hk, hne, ih hrest]

lemma mem_pick (hnodup : (fields.map Prod.fst).Nodup) {f : String × α} :
    f ∈ pick keys fields ↔ f ∈ fields ∧ f.1 ∈ keys := by
  simp only [pick, List.mem_filterMap, Option.map_eq_some_iff, lookup_eq_some_iff hnodup]
  constructor
  · rintro ⟨k, hk, v, hv, rfl⟩
    exact ⟨hv, hk⟩
  · rintro ⟨hf, hk⟩
    exact ⟨f.1, hk, f.2, hf, rfl⟩

lemma nodup_pick (hkeys : keys.Nodup) : (pick keys fields).Nodup := by
  refine hkeys.filterMap fun k l f hk hl => ?_
  obtain ⟨v, -, rfl⟩ := Option.map_eq_some_iff.mp hk
  obtain ⟨w, -, hw⟩ := Option.map_eq_some_iff.mp hl
  exact (congrArg Prod.fst hw).symm

lemma pick_perm (hkeys : keys.Nodup) (hnodup : (fields.map Prod.fst).Nodup) :
    (pick keys fields).Perm (fields.filter fun f => f.1 ∈ keys) := by
  refine (List.perm_ext_iff_of_nodup (nodup_pick hkeys) (hnodup.of_map.filter _)).mpr fun f => ?_
  rw [mem_pick hnodup, List.mem_filter, decide_eq_true_eq]

lemma pick_eq_of_perm (hperm : fields.Perm fields') (hnodup : (fields.map Prod.fst).Nodup) :
    pick keys fields = pick keys fields' := by
  have hnodup' : (fields'.map Prod.fst).Nodup := (hperm.map Prod.fst).nodup_iff.mp hnodup
  have hlookup : ∀ k, fields.lookup k = fields'.lookup k := fun k => Option.ext fun v => by
    rw [lookup_eq_some_iff hnodup, lookup_eq_some_iff hnodup', hperm.mem_iff]
  simp only [pick, hlookup]

lemma lookup_filter (hk : k ∈ keys) :
    (fields.filter fun f => f.1 ∈ keys).lookup k = fields.lookup k := by
  induction fields with
  | nil => rfl
  | cons f fields ih =>
    rw [List.filter_cons, List.lookup_cons]
    split_ifs with hf
    · rw [List.lookup_cons, ih]
    · have hne : k ≠ f.1 := fun h => hf (by simpa [h] using hk)
      rw [ih, beq_false_of_ne hne]

lemma pick_filter : pick keys (fields.filter fun f => f.1 ∈ keys) = pick keys fields :=
  List.filterMap_congr fun k hk => by rw [lookup_filter hk]

end Fields

/-- The fields with these names of every object, in the order of the names. -/
def select (keys : List String) (v : Json) : Json := v.mapObjects (pick keys)

/-- The value without the fields of other names. -/
def restrict (keys : List String) (v : Json) : Json :=
  v.mapObjects fun fields => fields.filter fun f => f.1 ∈ keys

section Select

variable {keys : List String} {v w : Json}

@[simp] lemma select_array (elems : List Json) :
    (array elems).select keys = .array (elems.map (select keys)) := mapObjects_array _ elems

@[simp] lemma select_object (fields : List (String × Json)) :
    (object fields).select keys =
      .object (pick keys (fields.map fun f => (f.1, f.2.select keys))) := mapObjects_object _ fields

@[simp] lemma restrict_array (elems : List Json) :
    (array elems).restrict keys = .array (elems.map (restrict keys)) := mapObjects_array _ elems

@[simp] lemma restrict_object (fields : List (String × Json)) :
    (object fields).restrict keys =
      .object ((fields.filter fun f => f.1 ∈ keys).map fun f => (f.1, f.2.restrict keys)) := by
  rw [restrict, mapObjects_object, List.filter_map]
  rfl

/-- A selection is the restricted value up to the order of fields. -/
theorem same_select (hkeys : keys.Nodup) (hv : v.Distinct) :
    Same (v.select keys) (v.restrict keys) := by
  induction v with
  | array elems ih =>
    rw [select_array, restrict_array]
    exact .array_map elems fun v hmem => ih v hmem (distinct_array.mp hv v hmem)
  | object fields ih =>
    obtain ⟨hnodup, hfields⟩ := distinct_object.mp hv
    have hnodup' : ((fields.map fun f => (f.1, f.2.select keys)).map Prod.fst).Nodup := by
      rwa [List.map_map]
    rw [select_object, restrict_object]
    refine (Same.order (pick_perm hkeys hnodup')).trans ?_
    rw [List.filter_map]
    exact .object_map _ fun f hf =>
      ih f (List.mem_of_mem_filter hf) (hfields f (List.mem_of_mem_filter hf))
  | _ => exact .refl _

/-- A selection does not look at the fields of other names. -/
lemma select_restrict : (v.restrict keys).select keys = v.select keys := by
  induction v with
  | array elems ih =>
    rw [restrict_array, select_array, select_array, List.map_map]
    exact congrArg array (List.map_congr_left ih)
  | object fields ih =>
    have hfields : ((fields.filter fun f => f.1 ∈ keys).map
        fun f => (f.1, (f.2.restrict keys).select keys)) =
        (fields.map fun f => (f.1, f.2.select keys)).filter fun f => f.1 ∈ keys := by
      rw [List.filter_map]
      exact List.map_congr_left fun f hf => by rw [ih f (List.mem_of_mem_filter hf)]
    rw [restrict_object, select_object, select_object, List.map_map]
    exact congrArg object ((congrArg (pick keys) hfields).trans pick_filter)
  | _ => rfl

lemma Same.select_eq (h : Same v w) (hv : v.Distinct) : v.select keys = w.select keys :=
  h.fold_eq (fun _ _ hperm hnodup => congrArg object (pick_eq_of_perm hperm hnodup)) hv

lemma Distinct.restrict (hv : v.Distinct) : (v.restrict keys).Distinct := by
  induction v with
  | array elems ih =>
    rw [restrict_array, distinct_array, List.forall_mem_map]
    exact fun v hmem => ih v hmem (distinct_array.mp hv v hmem)
  | object fields ih =>
    obtain ⟨hnodup, hfields⟩ := distinct_object.mp hv
    rw [restrict_object, distinct_object, List.map_map, List.forall_mem_map]
    refine ⟨hnodup.sublist (List.filter_sublist.map Prod.fst), fun f hf => ?_⟩
    exact ih f (List.mem_of_mem_filter hf) (hfields f (List.mem_of_mem_filter hf))
  | _ => exact hv

/-- A selection tells apart what differs in the selected fields. -/
theorem select_eq_iff (hkeys : keys.Nodup) (hv : v.Distinct) (hw : w.Distinct) :
    v.select keys = w.select keys ↔ Same (v.restrict keys) (w.restrict keys) := by
  constructor
  · intro h
    exact (same_select hkeys hv).symm.trans (h ▸ same_select hkeys hw)
  · intro h
    rw [← select_restrict, h.select_eq hv.restrict, select_restrict]

lemma restrict_congr {keys' : List String} (h : keys.Perm keys') :
    v.restrict keys = v.restrict keys' := by
  simp only [restrict, h.mem_iff]

lemma mapObjects_eq_self {g : List (String × Json) → List (String × Json)}
    (h : v.hasObject = false) : v.mapObjects g = v := by
  induction v with
  | array elems ih =>
    rw [hasObject_array, List.any_eq_false] at h
    rw [mapObjects_array]
    have helems : ∀ v ∈ elems, v.mapObjects g = id v := fun v hv => ih v hv (by simpa using h v hv)
    rw [List.map_congr_left helems, List.map_id]
  | object fields ih => simp at h
  | _ => rfl

end Select

/-! ### Adding a field -/

/-- The value with one more field in every object. -/
def addField (k : String) (v : Json) : Json :=
  v.mapObjects fun fields => fields ++ [(k, .null)]

section AddField

variable {keys : List String} {k : String} {v : Json}

@[simp] lemma addField_array (elems : List Json) :
    (array elems).addField k = .array (elems.map (addField k)) := mapObjects_array _ elems

@[simp] lemma addField_object (fields : List (String × Json)) :
    (object fields).addField k =
      .object ((fields.map fun f => (f.1, f.2.addField k)) ++ [(k, .null)]) :=
  mapObjects_object _ fields

lemma Distinct.addField (hk : k ∉ v.names) (hv : v.Distinct) : (v.addField k).Distinct := by
  induction v with
  | array elems ih =>
    rw [addField_array, distinct_array, List.forall_mem_map]
    rw [mem_names_array] at hk
    exact fun v hmem => ih v hmem (fun h => hk ⟨v, hmem, h⟩) (distinct_array.mp hv v hmem)
  | object fields ih =>
    obtain ⟨hnodup, hfields⟩ := distinct_object.mp hv
    rw [mem_names_object] at hk
    have hnew : k ∉ fields.map Prod.fst := fun h =>
      let ⟨f, hf, hfk⟩ := List.mem_map.mp h
      hk ⟨f, hf, .inl hfk.symm⟩
    rw [addField_object, distinct_object, List.map_append, List.map_map, List.forall_mem_append,
      List.forall_mem_map]
    refine ⟨?_, fun f hf => ih f hf (fun h => hk ⟨f, hf, .inr h⟩) (hfields f hf), by simp [Distinct]⟩
    exact hnodup.append (List.nodup_singleton k) (by simpa using hnew)
  | _ => exact hv

lemma mem_names_addField (h : v.hasObject) : k ∈ (v.addField k).names := by
  induction v with
  | array elems ih =>
    obtain ⟨v, hv, hobj⟩ := List.any_eq_true.mp (hasObject_array elems ▸ h)
    rw [addField_array, mem_names_array]
    exact ⟨v.addField k, List.mem_map_of_mem hv, ih v hv hobj⟩
  | object fields ih =>
    rw [addField_object, mem_names_object]
    exact ⟨(k, .null), by simp, .inl rfl⟩
  | _ => simp [hasObject] at h

end AddField

/-! ### Inheriting a field -/

/-- The value with a field in every object that has none of its name. -/
def inherit (a : String × Json) (v : Json) : Json :=
  v.mapObjects fun fields => if a.1 ∈ fields.map Prod.fst then fields else fields ++ [a]

section Inherit

variable {a : String × Json} {keys : List String} {k : String} {v w : Json}

@[simp] lemma inherit_array (elems : List Json) :
    (array elems).inherit a = .array (elems.map (inherit a)) := mapObjects_array _ elems

lemma inherit_object (fields : List (String × Json)) :
    (object fields).inherit a =
      .object (if a.1 ∈ fields.map Prod.fst then fields.map fun f => (f.1, f.2.inherit a)
        else (fields.map fun f => (f.1, f.2.inherit a)) ++ [a]) := by
  rw [inherit, mapObjects_object, List.map_map]
  rfl

lemma inherit_eq_self (h : v.hasObject = false) : v.inherit a = v := mapObjects_eq_self h

lemma Distinct.inherit (ha : a.2.Distinct) (hv : v.Distinct) : (v.inherit a).Distinct := by
  induction v with
  | array elems ih =>
    rw [inherit_array, distinct_array, List.forall_mem_map]
    exact fun v hmem => ih v hmem (distinct_array.mp hv v hmem)
  | object fields ih =>
    obtain ⟨hnodup, hfields⟩ := distinct_object.mp hv
    have hinner : ∀ f ∈ fields, (f.2.inherit a).Distinct := fun f hf => ih f hf (hfields f hf)
    rw [inherit_object]
    split_ifs with hown
    · rw [distinct_object, List.map_map, List.forall_mem_map]
      exact ⟨hnodup, hinner⟩
    · rw [distinct_object, List.map_append, List.map_map, List.forall_mem_append,
        List.forall_mem_map]
      refine ⟨?_, hinner, by simpa using ha⟩
      exact List.Nodup.append hnodup (List.nodup_singleton _) (by simpa using hown)
  | _ => exact hv

/-- The same values inherit the same. -/
lemma Same.inherit (h : Same v w) : Same (v.inherit a) (w.inherit a) := by
  induction h with
  | refl v => exact .refl _
  | symm _ ih => exact ih.symm
  | trans _ _ ih ih' => exact ih.trans ih'
  | @order fields fields' hperm =>
    have hinner := hperm.map fun f : String × Json => (f.1, f.2.inherit a)
    simp only [inherit_object, (hperm.map Prod.fst).mem_iff]
    split_ifs
    · exact .order hinner
    · exact .order (hinner.append_right [a])
  | element before after _ ih =>
    simp only [inherit_array, List.map_append, List.map_cons]
    exact .element _ _ ih
  | @field before after k v w _ ih =>
    have hkeys : (before ++ (k, v) :: after).map Prod.fst = (before ++ (k, w) :: after).map Prod.fst := by
      simp
    simp only [inherit_object, hkeys]
    split_ifs
    · simp only [List.map_append, List.map_cons]
      exact .field _ _ k ih
    · simp only [List.map_append, List.map_cons, List.append_assoc, List.cons_append]
      exact .field _ _ k ih

lemma restrict_inherit_object (fields : List (String × Json)) :
    ((object fields).inherit a).restrict keys =
      .object (((fields.filter fun f => f.1 ∈ keys).map fun f => (f.1, (f.2.inherit a).restrict keys)) ++
        if a.1 ∈ fields.map Prod.fst ∨ a.1 ∉ keys then [] else [(a.1, a.2.restrict keys)]) := by
  rw [inherit_object]
  by_cases hown : a.1 ∈ fields.map Prod.fst
  · rw [if_pos hown, if_pos (.inl hown), restrict_object, List.filter_map, List.map_map,
      List.append_nil]
    rfl
  · rw [if_neg hown, restrict_object, List.filter_append, List.map_append, List.filter_map,
      List.map_map]
    by_cases hkey : a.1 ∈ keys
    · rw [if_neg (not_or.mpr ⟨hown, not_not.mpr hkey⟩), List.filter_cons_of_pos (by simpa using hkey)]
      rfl
    · rw [if_pos (.inr hkey), List.filter_cons_of_neg (by simpa using hkey)]
      rfl

/-- A new field that is neither selected nor inherited is not seen. -/
lemma restrict_inherit_addField (hk : k ∉ keys) (hne : k ≠ a.1) :
    ((v.addField k).inherit a).restrict keys = (v.inherit a).restrict keys := by
  induction v with
  | array elems ih =>
    rw [addField_array, inherit_array, inherit_array, restrict_array, restrict_array, List.map_map,
      List.map_map, List.map_map]
    exact congrArg array (List.map_congr_left ih)
  | object fields ih =>
    have hown : a.1 ∈ ((fields.map fun f => (f.1, f.2.addField k)) ++ [(k, null)]).map Prod.fst ↔
        a.1 ∈ fields.map Prod.fst := by
      simp [hne.symm]
    rw [addField_object, restrict_inherit_object, restrict_inherit_object, List.filter_append,
      List.filter_map, List.filter_cons_of_neg (by simpa using hk), List.filter_nil, List.append_nil,
      List.map_map]
    simp only [hown]
    congr 2
    exact List.map_congr_left fun f hf => Prod.ext rfl (ih f (List.mem_of_mem_filter hf))
  | _ => rfl

end Inherit

end Json

end Core
