import CtrlRecovery.Core.CodeUnits
import CtrlRecovery.Core.JsonRebuild

/-!
# The input sanitizer

`sanitizeValue` removes control characters from every string of a request and NUL from every key, and
builds the objects anew with the cleaned keys. Strings and keys are cleaned by different rules, so that
a key keeps the other control characters; and where two keys become one, or a key becomes `__proto__`,
a field is lost (`sanitizesWell_iff`).
-/

namespace CtrlRecovery

open Core

namespace InputSanitizer

/-! ### Cleaning -/

def nul : Char := Char.ofNat 0

/-- The class `[\x01-\x08\x0B\x0C\x0E-\x1F\x7F]`. -/
def isControl (c : Char) : Bool :=
  let n := c.toNat
  (1 ≤ n && n ≤ 0x8) || n == 0xB || n == 0xC || (0xE ≤ n && n ≤ 0x1F) || n == 0x7F

/-- `s.replace(/\0/g, '')`. -/
def removeNul (s : String) : String := String.ofList (s.toList.filter (· ≠ nul))

def removeControls (s : String) : String := String.ofList (s.toList.filter fun c => !isControl c)

def maxLength : ℕ := 250000

def sanitizeText (value : String) : String :=
  let cleaned := removeControls (removeNul value)
  if Js.length cleaned > maxLength then Js.slice cleaned maxLength else cleaned

/-- A value next to what it is as a prototype. -/
def algebra : Json.Algebra Json.Rebuilt where
  null := ⟨.null, false⟩
  bool b := ⟨.bool b, true⟩
  number n := ⟨.number n, true⟩
  string s := ⟨.string (sanitizeText s), true⟩
  array elems := ⟨.array (elems.map (·.value)), true⟩
  object fields := Json.rebuiltObject (fields.map fun f => (removeNul f.1, f.2))

def sanitizeValue (value : Json) : Json := (value.fold algebra).value

@[simp] lemma sanitizeValue_string (s : String) :
    sanitizeValue (.string s) = .string (sanitizeText s) := by
  simp [sanitizeValue, algebra]

@[simp] lemma sanitizeValue_array (elems : List Json) :
    sanitizeValue (.array elems) = .array (elems.map sanitizeValue) := by
  simp [sanitizeValue, algebra, Function.comp_def]

/-- The fields as they are assigned. -/
def assigned (fields : List (String × Json)) : List (String × Json.Rebuilt) :=
  fields.map fun f => (removeNul f.1, f.2.fold algebra)

lemma sanitizeValue_object (fields : List (String × Json)) :
    sanitizeValue (.object fields) = .object (Json.build (assigned fields)).fields := by
  simp [sanitizeValue, algebra, Json.rebuiltObject, assigned, Function.comp_def]

def cleanKeys (fields : List (String × Json)) : List String := fields.map fun f => removeNul f.1

lemma map_fst_assigned (fields : List (String × Json)) :
    (assigned fields).map Prod.fst = cleanKeys fields := by
  simp [assigned, cleanKeys, Function.comp_def]

lemma sanitizeValue_object_of_plain {fields : List (String × Json)} (h : (cleanKeys fields).Nodup)
    (hproto : Json.protoKey ∉ cleanKeys fields) : sanitizeValue (.object fields) =
      .object (fields.map fun f => (removeNul f.1, sanitizeValue f.2)) := by
  rw [← map_fst_assigned] at h hproto
  rw [sanitizeValue_object, Json.build_of_plain h hproto, assigned, List.map_map]
  rfl

/-! ### What sanitizing promises -/

/-- A text without NUL and control characters. -/
def Harmless (s : String) : Prop := ∀ c ∈ s.toList, c ≠ nul ∧ isControl c = false

instance (s : String) : Decidable (Harmless s) :=
  inferInstanceAs (Decidable (∀ c ∈ s.toList, c ≠ nul ∧ isControl c = false))

/-- Every string and every key is harmless. -/
def Clean (v : Json) : Prop :=
  v.fold
    { null := True
      bool := fun _ => True
      number := fun _ => True
      string := Harmless
      array := fun elems => ∀ p ∈ elems, p
      object := fun fields => ∀ f ∈ fields, Harmless f.1 ∧ f.2 }

@[simp] lemma clean_string {s : String} : Clean (.string s) ↔ Harmless s := by simp [Clean]

@[simp] lemma clean_array {elems : List Json} : Clean (.array elems) ↔ ∀ v ∈ elems, Clean v := by
  simp only [Clean, Json.fold_array, List.forall_mem_map]

@[simp] lemma clean_object {fields : List (String × Json)} :
    Clean (.object fields) ↔ ∀ f ∈ fields, Harmless f.1 ∧ Clean f.2 := by
  simp only [Clean, Json.fold_object, List.forall_mem_map]

/-- Every object of a value has as many fields as the one in its place in another value, where the
places are named by the cleaned keys. -/
def KeepsFields (v : Json) : Json → Prop :=
  v.fold
    { null := fun _ => True
      bool := fun _ _ => True
      number := fun _ _ => True
      string := fun _ _ => True
      array := fun elems w => ∃ elems', w = .array elems' ∧ List.Forall₂ (fun p v => p v) elems elems'
      object := fun fields w => ∃ fields', w = .object fields' ∧ fields'.length = fields.length ∧
        ∀ f ∈ fields, ∃ v, (removeNul f.1, v) ∈ fields' ∧ f.2 v }

lemma keepsFields_array {elems : List Json} {w : Json} : KeepsFields (.array elems) w ↔
    ∃ elems', w = .array elems' ∧ List.Forall₂ KeepsFields elems elems' := by
  simp only [KeepsFields, Json.fold_array, List.forall₂_map_left_iff]
  rfl

lemma keepsFields_object {fields : List (String × Json)} {w : Json} :
    KeepsFields (.object fields) w ↔
      ∃ fields', w = .object fields' ∧ fields'.length = fields.length ∧
        ∀ f ∈ fields, ∃ v, (removeNul f.1, v) ∈ fields' ∧ KeepsFields f.2 v := by
  simp only [KeepsFields, Json.fold_object, List.length_map, List.forall_mem_map]

structure SanitizesWell (v : Json) : Prop where
  idempotent : sanitizeValue (sanitizeValue v) = sanitizeValue v
  clean : Clean (sanitizeValue v)
  keepsFields : KeepsFields v (sanitizeValue v)

/-- No two keys of an object differ in NUL only, and none is `__proto__` or has a control character
other than NUL. -/
def Plain (v : Json) : Prop :=
  v.fold
    { null := True
      bool := fun _ => True
      number := fun _ => True
      string := fun _ => True
      array := fun elems => ∀ p ∈ elems, p
      object := fun fields => (fields.map fun f => removeNul f.1).Nodup ∧
        ∀ f ∈ fields, removeNul f.1 ≠ Json.protoKey ∧ Harmless (removeNul f.1) ∧ f.2 }

@[simp] lemma plain_array {elems : List Json} : Plain (.array elems) ↔ ∀ v ∈ elems, Plain v := by
  simp only [Plain, Json.fold_array, List.forall_mem_map]

@[simp] lemma plain_object {fields : List (String × Json)} : Plain (.object fields) ↔
    (cleanKeys fields).Nodup ∧
      ∀ f ∈ fields, removeNul f.1 ≠ Json.protoKey ∧ Harmless (removeNul f.1) ∧ Plain f.2 := by
  simp only [Plain, Json.fold_object, List.map_map, List.forall_mem_map, cleanKeys, Function.comp_def]

/-! ### Texts -/

@[simp] lemma removeNul_removeNul (s : String) : removeNul (removeNul s) = removeNul s := by
  simp [removeNul, List.filter_filter]

lemma removeNul_of_harmless {s : String} (h : Harmless s) : removeNul s = s := by
  rw [removeNul, List.filter_eq_self.mpr fun c hc => decide_eq_true (h c hc).1, String.ofList_toList]

lemma removeControls_of_harmless {s : String} (h : Harmless s) : removeControls s = s := by
  rw [removeControls, List.filter_eq_self.mpr fun c hc => by simp [(h c hc).2], String.ofList_toList]

lemma harmless_removeControls (s : String) : Harmless (removeControls (removeNul s)) := by
  intro c hc
  simp only [removeControls, removeNul, String.toList_ofList, List.mem_filter, decide_eq_true_eq,
    Bool.not_eq_true'] at hc
  exact ⟨hc.1.2, hc.2⟩

lemma harmless_sanitizeText (s : String) : Harmless (sanitizeText s) := by
  rw [sanitizeText]
  split_ifs
  · exact fun c hc => harmless_removeControls s c (Js.mem_of_mem_slice hc)
  · exact harmless_removeControls s

lemma length_sanitizeText_le (s : String) : Js.length (sanitizeText s) ≤ maxLength := by
  rw [sanitizeText]
  split_ifs with hlong
  · exact Js.length_slice_le _ _
  · exact not_lt.mp hlong

lemma sanitizeText_of_harmless {s : String} (h : Harmless s) (hlength : Js.length s ≤ maxLength) :
    sanitizeText s = s := by
  rw [sanitizeText, removeNul_of_harmless h, removeControls_of_harmless h, if_neg (not_lt.mpr hlength)]

@[simp] lemma sanitizeText_sanitizeText (s : String) :
    sanitizeText (sanitizeText s) = sanitizeText s :=
  sanitizeText_of_harmless (harmless_sanitizeText s) (length_sanitizeText_le s)

/-! ### When it is kept -/

section Plain

variable {v : Json}

lemma proto_not_mem {fields : List (String × Json)}
    (h : ∀ f ∈ fields, removeNul f.1 ≠ Json.protoKey) : Json.protoKey ∉ cleanKeys fields := by
  intro hmem
  obtain ⟨f, hf, hk⟩ := List.mem_map.mp hmem
  exact h f hf hk

lemma Plain.sanitizeValue_object {fields : List (String × Json)} (h : Plain (.object fields)) :
    sanitizeValue (.object fields) =
      .object (fields.map fun f => (removeNul f.1, sanitizeValue f.2)) :=
  let ⟨hnodup, hfields⟩ := plain_object.mp h
  sanitizeValue_object_of_plain hnodup (proto_not_mem fun f hf => (hfields f hf).1)

lemma Plain.idempotent (h : Plain v) : sanitizeValue (sanitizeValue v) = sanitizeValue v := by
  induction v with
  | string s => simp
  | array elems ih =>
    rw [sanitizeValue_array, sanitizeValue_array, List.map_map]
    exact congrArg Json.array (List.map_congr_left fun v hv => ih v hv (plain_array.mp h v hv))
  | object fields ih =>
    obtain ⟨hnodup, hfields⟩ := plain_object.mp h
    have hkeys : cleanKeys (fields.map fun f => (removeNul f.1, sanitizeValue f.2)) =
        cleanKeys fields := by
      simp [cleanKeys, Function.comp_def]
    have hproto := proto_not_mem fun f hf => (hfields f hf).1
    rw [h.sanitizeValue_object,
      sanitizeValue_object_of_plain (hkeys ▸ hnodup) (hkeys ▸ hproto), List.map_map]
    refine congrArg Json.object (List.map_congr_left fun f hf => ?_)
    simp [ih f hf (hfields f hf).2.2]
  | _ => rfl

lemma Plain.clean (h : Plain v) : Clean (sanitizeValue v) := by
  induction v with
  | string s => simpa using harmless_sanitizeText s
  | array elems ih =>
    rw [sanitizeValue_array, clean_array, List.forall_mem_map]
    exact fun v hv => ih v hv (plain_array.mp h v hv)
  | object fields ih =>
    have hfields := (plain_object.mp h).2
    rw [h.sanitizeValue_object, clean_object, List.forall_mem_map]
    exact fun f hf => ⟨(hfields f hf).2.1, ih f hf (hfields f hf).2.2⟩
  | _ => trivial

lemma Plain.keepsFields (h : Plain v) : KeepsFields v (sanitizeValue v) := by
  induction v with
  | array elems ih =>
    rw [sanitizeValue_array, keepsFields_array]
    refine ⟨_, rfl, List.forall₂_map_right_iff.mpr (List.forall₂_same.mpr fun v hv => ?_)⟩
    exact ih v hv (plain_array.mp h v hv)
  | object fields ih =>
    have hfields := (plain_object.mp h).2
    rw [h.sanitizeValue_object, keepsFields_object]
    refine ⟨_, rfl, List.length_map _, fun f hf => ⟨sanitizeValue f.2, ?_, ?_⟩⟩
    · exact List.mem_map.mpr ⟨f, hf, rfl⟩
    · exact ih f hf (hfields f hf).2.2
  | _ => trivial

/-- A field that is lost or not clean shows in the result. -/
lemma plain_of_sanitized (hclean : Clean (sanitizeValue v)) (hkeeps : KeepsFields v (sanitizeValue v)) :
    Plain v := by
  induction v with
  | array elems ih =>
    rw [sanitizeValue_array] at hclean hkeeps
    rw [clean_array, List.forall_mem_map] at hclean
    obtain ⟨elems', heq, hall⟩ := keepsFields_array.mp hkeeps
    obtain rfl := Json.array.inj heq
    rw [List.forall₂_map_right_iff, List.forall₂_same] at hall
    exact plain_array.mpr fun v hv => ih v hv (hclean v hv) (hall v hv)
  | object fields ih =>
    obtain ⟨fields', heq, hlength, hall⟩ := keepsFields_object.mp hkeeps
    obtain rfl := Json.object.inj (sanitizeValue_object fields ▸ heq)
    have hlengths : (assigned fields).length = fields.length := List.length_map _
    obtain ⟨hnodup, hproto⟩ := Json.length_build_eq_iff.mp (hlength.trans hlengths.symm)
    rw [map_fst_assigned] at hnodup hproto
    have hobject := sanitizeValue_object_of_plain hnodup hproto
    rw [hobject, clean_object, List.forall_mem_map] at hclean
    have hbuild := Json.object.inj ((sanitizeValue_object fields).symm.trans hobject)
    refine plain_object.mpr ⟨hnodup, fun f hf => ⟨?_, (hclean f hf).1, ?_⟩⟩
    · exact fun hk => hproto (List.mem_map.mpr ⟨f, hf, hk⟩)
    · -- the field of its key in the result is its own
      obtain ⟨w, hw, hkept⟩ := hall f hf
      rw [hbuild] at hw
      obtain ⟨g, hg, hgw⟩ := List.mem_map.mp hw
      obtain ⟨hk, rfl⟩ := Prod.mk.inj hgw
      obtain rfl := List.inj_on_of_nodup_map hnodup hg hf hk
      exact ih g hf (hclean g hf).2 hkept
  | _ => trivial

end Plain

/-- Sanitizing keeps its promises exactly of the values whose keys are not changed into one another,
into `__proto__` or into a key with a control character. -/
theorem sanitizesWell_iff (v : Json) : SanitizesWell v ↔ Plain v :=
  ⟨fun h => plain_of_sanitized h.clean h.keepsFields,
    fun h => ⟨h.idempotent, h.clean, h.keepsFields⟩⟩

/-- Two keys that differ in NUL are one afterwards. -/
theorem not_sanitizesWell_keys : ¬ ∀ v, SanitizesWell v := by
  intro h
  have hwell := h (.object [("a", .bool true), (String.ofList ['a', nul], .bool false)])
  exact absurd (plain_object.mp (plain_of_sanitized hwell.clean hwell.keepsFields)).1 (by decide)

end InputSanitizer

end CtrlRecovery
