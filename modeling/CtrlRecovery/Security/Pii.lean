import CtrlRecovery.Core.CodeUnits
import CtrlRecovery.Core.JsonRebuild

/-!
# Redaction of personal data

`PIIMasker.sanitizeObject` copies a value and masks the strings under keys that name a phone, an email
or a customer. A key is looked at together with the type of the value right under it, so that numbers
pass, and so do strings in a list or in an object under such a key (`redacts_iff`).
-/

namespace CtrlRecovery

open Core

namespace Pii

/-! ### Masks -/

/-- `s[0]`, as text. Half of a character is read as the replacement character. -/
def unitText (c : Char) : Char := if (Js.charCodes c).length = 1 then c else Char.ofNat 0xFFFD

def headText (cs : List Char) : String := String.ofList (cs.head?.map unitText).toList

def lastText (cs : List Char) : String := String.ofList (cs.getLast?.map unitText).toList

def maskPhone (phone : String) : String :=
  if phone = "" then "—"
  else
    let clean := phone.toList.filter fun c => c.isDigit || c == '+'
    if clean.length ≤ 4 then "****"
    else if "+91".toList.isPrefixOf clean ∧ clean.length = 13 then
      "+91 " ++ String.ofList ((clean.drop 3).take 2) ++ "****" ++ String.ofList (clean.drop 9)
    else if clean.length = 10 then
      String.ofList (clean.take 2) ++ "****" ++ String.ofList (clean.drop 6)
    else String.ofList (clean.take 3) ++ "****" ++ String.ofList (clean.drop (clean.length - 2))

def maskEmail (email : String) : String :=
  if email = "" then "—"
  else match email.toList.splitOn '@' with
    | [user, domain] =>
      if user = [] ∨ domain = [] then "****@domain.com"
      else if Js.length (String.ofList user) ≤ 2 then
        headText user ++ "*@" ++ String.ofList domain
      else headText user ++ "****" ++ lastText user ++ "@" ++ String.ofList domain
    | _ => "****@domain.com"

/-- The pieces between white space. -/
def tokens (s : String) : List (List Char) :=
  ((Js.trim s).toList.splitOnP Js.isWhitespace).filter (· ≠ [])

def maskName (name : String) : String :=
  if name = "" then "Customer"
  else match tokens name with
    | []                   => "Customer"
    | [first]              => String.ofList first
    | first :: second :: _ => String.ofList first ++ " " ++ headText second ++ "."

/-- What a key names. -/
inductive Kind
  | phone
  | email
  | name
  deriving DecidableEq

def Kind.mask : Kind → String → String
  | .phone => maskPhone
  | .email => maskEmail
  | .name  => maskName

def kindOfKey (key : String) : Option Kind :=
  let lowerKey := Js.toLowerCase key
  if Js.includes lowerKey "phone" ∨ Js.includes lowerKey "contact" then some .phone
  else if Js.includes lowerKey "email" then some .email
  else if lowerKey = "customer_name" ∨ lowerKey = "name" then some .name
  else none

/-! ### Copies -/

def maskUnder (key s : String) : String :=
  match kindOfKey key with
  | some kind => kind.mask s
  | none      => s

/-- What is assigned for a field: a string is masked after its key, and another value is copied. -/
def assigned (key : String) (r : Json.Rebuilt) : Json.Rebuilt :=
  match r.value with
  | .string s => ⟨.string (maskUnder key s), true⟩
  | _         => r

def algebra : Json.Algebra Json.Rebuilt where
  null := ⟨.null, false⟩
  bool b := ⟨.bool b, true⟩
  number n := ⟨.number n, true⟩
  string s := ⟨.string s, true⟩
  array elems := ⟨.array (elems.mapIdx fun i r => (assigned i.repr r).value), true⟩
  object fields := Json.rebuiltObject (fields.map fun f => (f.1, assigned f.1 f.2))

def masked (v : Json) : Json := (v.fold algebra).value

def sanitizeObject (obj : Json) (allowPII : Bool) : Json := if allowPII then obj else masked obj

/-- The value that is assigned for a field. -/
def maskedField (key : String) : Json → Json
  | .string s => .string (maskUnder key s)
  | v         => masked v

lemma assigned_value (key : String) (v : Json) :
    (assigned key (v.fold algebra)).value = maskedField key v := by
  cases v <;> simp [assigned, maskedField, masked, algebra, Json.rebuiltObject]

lemma mem_of_includes {s t : String} {c : Char} (h : Js.includes s t = true) (hc : c ∈ t.toList) :
    c ∈ s.toList := by
  obtain ⟨tail, htail, hprefix⟩ := List.any_eq_true.mp h
  have hsub := (List.isPrefixOf_iff_prefix.mp hprefix).subset hc
  exact ((List.mem_tails _ _).mp htail).subset hsub

lemma kindOfKey_of_digits {key : String} (h : ∀ c ∈ key.toList, c.isDigit) :
    kindOfKey key = none := by
  have hlower : Js.toLowerCase key = key := by
    refine Js.toLowerCase_of_isLower fun c hc => ?_
    have hle : c.toNat ≤ 57 := (Char.isDigit_iff_toNat.mp (h c hc)).2
    refine Js.isLower_of_ascii (by omega) ?_
    have hupper : ¬ 'A' ≤ c := fun hle' => absurd (show 65 ≤ c.toNat from hle') (by omega)
    simp [Js.isAsciiUpper, hupper]
  have hdigit : ∀ c ∈ (Js.toLowerCase key).toList, c.isDigit := by
    rw [hlower]
    exact h
  have hincludes : ∀ t : String, ∀ c ∈ t.toList, c.isDigit = false →
      Js.includes (Js.toLowerCase key) t = false := by
    intro t c hc hno
    refine Bool.eq_false_iff.mpr fun h => ?_
    simp [hdigit c (mem_of_includes h hc)] at hno
  have hne : ∀ t : String, ∀ c ∈ t.toList, c.isDigit = false → Js.toLowerCase key ≠ t := by
    rintro t c hc hno rfl
    simp [hdigit c hc] at hno
  simp [kindOfKey, hincludes "phone" 'p' (by decide) rfl, hincludes "contact" 'c' (by decide) rfl,
    hincludes "email" 'e' (by decide) rfl, hne "customer_name" 'c' (by decide) rfl,
    hne "name" 'n' (by decide) rfl]

lemma kindOfKey_repr (i : ℕ) : kindOfKey i.repr = none :=
  kindOfKey_of_digits fun _ hc =>
    Nat.isDigit_of_mem_toDigits (b := 10) (by decide) (by decide) (by simpa using hc)

@[simp] lemma masked_array (elems : List Json) :
    masked (.array elems) = .array (elems.map masked) := by
  have helement : ∀ (i : ℕ) r, (assigned i.repr r).value = r.value := by
    intro i r
    simp only [assigned, maskUnder, kindOfKey_repr]
    split
    next h => exact h.symm
    · rfl
  rw [masked, Json.fold_array]
  change Json.array (List.mapIdx (fun i r => (assigned i.repr r).value) _) = _
  refine congrArg Json.array (List.ext_getElem (by simp) fun i _ _ => ?_)
  simp [helement, masked]

/-- The fields as they are assigned. -/
def assignments (fields : List (String × Json)) : List (String × Json.Rebuilt) :=
  fields.map fun f => (f.1, assigned f.1 (f.2.fold algebra))

lemma masked_object (fields : List (String × Json)) :
    masked (.object fields) = .object (Json.build (assignments fields)).fields := by
  simp [masked, algebra, Json.rebuiltObject, assignments, Function.comp_def]

lemma map_fst_assignments (fields : List (String × Json)) :
    (assignments fields).map Prod.fst = fields.map Prod.fst := by
  simp [assignments, Function.comp_def]

lemma masked_object_of_plain {fields : List (String × Json)} (h : (fields.map Prod.fst).Nodup)
    (hproto : Json.protoKey ∉ fields.map Prod.fst) :
    masked (.object fields) = .object (fields.map fun f => (f.1, maskedField f.1 f.2)) := by
  rw [← map_fst_assignments] at h hproto
  rw [masked_object, Json.build_of_plain h hproto, assignments, List.map_map]
  refine congrArg Json.object (List.map_congr_left fun f _ => ?_)
  simp [assigned_value]

/-! ### What redaction promises -/

/-- Neither an array nor an object. -/
def IsLeaf : Json → Prop
  | .array _  => False
  | .object _ => False
  | _         => True

/-- A leaf becomes a leaf. Under no key that names something it stays as it is, and under one it stays
only if its text is one that the mask leaves. -/
def LeafRedacted (v : Json) (text : Option String) (kind : Option Kind) (w : Json) : Prop :=
  IsLeaf w ∧
    match kind with
    | none      => w = v
    | some kind => w = v → ∀ s ∈ text, kind.mask s = s

/-- What the nearest key that names something names, behind a key. -/
def below (key : String) (kind : Option Kind) : Option Kind := (kindOfKey key).or kind

/-- A value of the same shape whose leaves are redacted, under a kind of keys. -/
def Redacts (v : Json) : Option Kind → Json → Prop :=
  v.fold
    { null := LeafRedacted .null none
      bool := fun b => LeafRedacted (.bool b) none
      number := fun n => LeafRedacted (.number n) (some (String.ofList n.chars))
      string := fun s => LeafRedacted (.string s) (some s)
      array := fun elems kind w =>
        ∃ elems', w = .array elems' ∧ List.Forall₂ (fun p v => p kind v) elems elems'
      object := fun fields kind w => ∃ fields', w = .object fields' ∧
        List.Forall₂ (fun f g => g.1 = f.1 ∧ f.2 (below f.1 kind) g.2) fields fields' }

/-- The mask of a kind leaves a text. -/
def Left (kind : Option Kind) (s : String) : Prop := ∀ k ∈ kind, k.mask s = s

/-- No key is `__proto__`, and the masks leave the numbers and, except right under a key that names
something, the strings. -/
def Covered (v : Json) : Bool → Option Kind → Prop :=
  v.fold
    { null := fun _ _ => True
      bool := fun _ _ _ => True
      number := fun n _ kind => Left kind (String.ofList n.chars)
      string := fun s direct kind => direct = true ∨ Left kind s
      array := fun elems _ kind => ∀ p ∈ elems, p false kind
      object := fun fields _ kind => ∀ f ∈ fields,
        f.1 ≠ Json.protoKey ∧ f.2 (kindOfKey f.1).isSome (below f.1 kind) }

section Redacts

variable {elems : List Json} {fields : List (String × Json)} {kind : Option Kind} {w : Json}
  {direct : Bool}

lemma redacts_array : Redacts (.array elems) kind w ↔
    ∃ elems', w = .array elems' ∧ List.Forall₂ (fun v w => Redacts v kind w) elems elems' := by
  simp only [Redacts, Json.fold_array, List.forall₂_map_left_iff]

lemma redacts_object : Redacts (.object fields) kind w ↔
    ∃ fields', w = .object fields' ∧
      List.Forall₂ (fun f g => g.1 = f.1 ∧ Redacts f.2 (below f.1 kind) g.2) fields fields' := by
  simp only [Redacts, Json.fold_object, List.forall₂_map_left_iff]

lemma covered_array : Covered (.array elems) direct kind ↔ ∀ v ∈ elems, Covered v false kind := by
  simp only [Covered, Json.fold_array, List.forall_mem_map]

lemma covered_object : Covered (.object fields) direct kind ↔ ∀ f ∈ fields,
    f.1 ≠ Json.protoKey ∧ Covered f.2 (kindOfKey f.1).isSome (below f.1 kind) := by
  simp only [Covered, Json.fold_object, List.forall_mem_map]

end Redacts

lemma redacts_maskedField {key : String} {v : Json} {kind : Option Kind}
    (h : ∀ kind, Redacts v kind (masked v) ↔ Covered v false kind) :
    Redacts v (below key kind) (maskedField key v) ↔
      Covered v (kindOfKey key).isSome (below key kind) := by
  cases v with
  | string s =>
    cases hkey : kindOfKey key with
    | none =>
      have hfield : maskedField key (.string s) = masked (.string s) := by
        simp [maskedField, maskUnder, hkey, masked, algebra]
      rw [hfield]
      exact h _
    | some k =>
      have hbelow : below key kind = some k := by simp [below, hkey]
      have hfield : maskedField key (.string s) = .string (k.mask s) := by
        simp [maskedField, maskUnder, hkey]
      rw [hfield, hbelow]
      refine iff_of_true ⟨trivial, fun heq t ht => ?_⟩ (.inl rfl)
      obtain rfl := Option.mem_some_iff.mp ht
      exact Json.string.inj heq
  | array elems => exact (h _).trans (covered_array.trans covered_array.symm)
  | object fields => exact (h _).trans (covered_object.trans covered_object.symm)
  | null => exact h _
  | bool b => exact h _
  | number n => exact h _

lemma leafRedacted_self {v : Json} (hv : IsLeaf v) (s : String) (kind : Option Kind) :
    LeafRedacted v (some s) kind v ↔ Left kind s := by
  cases kind with
  | none => simp [LeafRedacted, Left, hv]
  | some k => simp [LeafRedacted, Left, hv]

lemma leafRedacted_none {v : Json} (hv : IsLeaf v) (kind : Option Kind) :
    LeafRedacted v none kind v := by
  cases kind with
  | none => exact ⟨hv, rfl⟩
  | some k => exact ⟨hv, fun _ _ hs => nomatch hs⟩

lemma redacts_masked {v : Json} (hv : v.Distinct) (kind : Option Kind) :
    Redacts v kind (masked v) ↔ Covered v false kind := by
  induction v generalizing kind with
  | null => exact iff_of_true (leafRedacted_none (v := .null) trivial kind) trivial
  | bool b => exact iff_of_true (leafRedacted_none (v := .bool b) trivial kind) trivial
  | number n => exact leafRedacted_self (v := .number n) trivial _ kind
  | string s =>
    exact (leafRedacted_self (v := .string s) trivial s kind).trans (by simp [Covered])
  | array elems ih =>
    rw [masked_array, redacts_array, covered_array]
    simp only [Json.array.injEq, exists_eq_left', List.forall₂_map_right_iff, List.forall₂_same]
    exact forall₂_congr fun v hmem => ih v hmem (Json.distinct_array.mp hv v hmem) kind
  | object fields ih =>
    obtain ⟨hnodup, hdistinct⟩ := Json.distinct_object.mp hv
    have hfield : ∀ f ∈ fields, Redacts f.2 (below f.1 kind) (maskedField f.1 f.2) ↔
        Covered f.2 (kindOfKey f.1).isSome (below f.1 kind) :=
      fun f hf => redacts_maskedField fun kind => ih f hf (hdistinct f hf) kind
    rw [redacts_object, covered_object]
    constructor
    · rintro ⟨fields', heq, hall⟩
      -- no field was lost, so that no key is the special one
      obtain rfl := Json.object.inj (masked_object fields ▸ heq)
      have hlength : (Json.build (assignments fields)).fields.length = (assignments fields).length :=
        hall.length_eq.symm.trans (List.length_map _).symm
      have hproto := (Json.length_build_eq_iff.mp hlength).2
      rw [map_fst_assignments] at hproto
      have hobject := masked_object_of_plain hnodup hproto
      rw [Json.object.inj ((masked_object fields).symm.trans hobject), List.forall₂_map_right_iff,
        List.forall₂_same] at hall
      exact fun f hf => ⟨fun hk => hproto (List.mem_map.mpr ⟨f, hf, hk⟩), (hfield f hf).mp (hall f hf).2⟩
    · intro h
      have hproto : Json.protoKey ∉ fields.map Prod.fst := by
        intro hmem
        obtain ⟨f, hf, hk⟩ := List.mem_map.mp hmem
        exact (h f hf).1 hk
      refine ⟨_, masked_object_of_plain hnodup hproto, ?_⟩
      rw [List.forall₂_map_right_iff, List.forall₂_same]
      exact fun f hf => ⟨rfl, (hfield f hf).mpr (h f hf).2⟩

/-- Without permission, exactly the values are redacted in which every number, and every string that is
not right under such a key, is one that the mask leaves, and no key is `__proto__`. -/
theorem redacts_iff {v : Json} (hv : v.Distinct) :
    Redacts v none (sanitizeObject v false) ↔ Covered v false none :=
  redacts_masked hv none

/-- A phone number as a string. -/
def contact : Json := .object [("phone", .string "+919876543210")]

lemma distinct_contact : contact.Distinct := by simp [contact, Json.Distinct]

theorem redacts_contact : Redacts contact none (sanitizeObject contact false) :=
  (redacts_iff distinct_contact).mpr <| covered_object.mpr fun f hf => by
    obtain rfl := List.mem_singleton.mp hf
    exact ⟨by decide, .inl (by decide)⟩

/-- A list of phone numbers is copied as it is. -/
theorem not_redacts_list : ¬ ∀ v : Json, v.Distinct → Redacts v none (sanitizeObject v false) := by
  intro h
  have hlist := h (.object [("phones", .array [.string "+919876543210"])])
    (by simp [Json.Distinct])
  have hcovered := (redacts_masked (by simp [Json.Distinct]) none).mp hlist
  have hleft := covered_array.mp ((covered_object.mp hcovered) _ List.mem_cons_self).2 _
    List.mem_cons_self
  exact absurd (hleft.resolve_left Bool.false_ne_true .phone rfl) (by decide)

end Pii

end CtrlRecovery
