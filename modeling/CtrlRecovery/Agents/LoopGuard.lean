import CtrlRecovery.Core.JsonKeys
import CtrlRecovery.Js
import Mathlib.Data.Fintype.EquivFin
import Mathlib.Data.List.Lex

/-!
# The loop guard of a mission

`LoopGuard` blocks a tool call that repeats the last ones and a tool that keeps failing. It tells
calls apart by a fingerprint: the hash of the name of the tool and of the text of the payload, whose
keys `JSON.stringify` is given as a sorted array. The array also selects the fields of nested objects,
and the fields whose names are not among the keys of the payload are lost there. A nested object that
has no field of a selected name is asked for what it inherits, which is a value for `__proto__` only.

Two payloads have one fingerprint exactly when they are the same without these fields
(`generateToolFingerprint_inj`), and a payload is told from every other one exactly when it contains
no nested object (`tellsApart_iff`).
-/

namespace Js

lemma charCodes_ne_nil (c : Char) : charCodes c ≠ [] := by
  rw [charCodes]
  split_ifs <;> simp

/-- The code units of a character tell the character and where it ends. -/
lemma charCodes_inj {c d : Char} {r s : List ℕ} (h : charCodes c ++ r = charCodes d ++ s) :
    c = d ∧ r = s := by
  have hvalid : ∀ c : Char, c.toNat < 0xD800 ∨ 0xDFFF < c.toNat ∧ c.toNat < 0x110000 :=
    fun c => c.valid
  have hc := hvalid c
  have hd := hvalid d
  have hnat : c.toNat = d.toNat ∧ r = s := by
    rw [charCodes, charCodes] at h
    -- a surrogate is not the code unit of a character of the basic plane
    split_ifs at h <;> simp only [List.cons_append, List.nil_append, List.cons.injEq] at h
    · exact h
    · omega
    · omega
    · exact ⟨by omega, h.2.2⟩
  exact ⟨Char.toNat_inj.mp hnat.1, hnat.2⟩

lemma codeUnits_injective : Function.Injective codeUnits := by
  have hchars : ∀ cs ds : List Char, cs.flatMap charCodes = ds.flatMap charCodes → cs = ds := by
    intro cs
    induction cs with
    | nil =>
      intro ds h
      cases ds with
      | nil => rfl
      | cons d ds => simp [charCodes_ne_nil] at h
    | cons c cs ih =>
      intro ds h
      cases ds with
      | nil => simp [charCodes_ne_nil] at h
      | cons d ds =>
        rw [List.flatMap_cons, List.flatMap_cons] at h
        obtain ⟨rfl, hrest⟩ := charCodes_inj h
        rw [ih ds hrest]
  exact fun s t h => String.toList_inj.mp (hchars _ _ h)

/-- `keys.sort()`: by code units. -/
def sort (keys : List String) : List String :=
  keys.insertionSort fun k l => codeUnits k ≤ codeUnits l

variable {keys keys' : List String}

lemma sort_perm : (sort keys).Perm keys := List.perm_insertionSort _ _

lemma sort_eq_of_perm (h : keys.Perm keys') : sort keys = sort keys' := by
  have : Std.Total fun k l : String => codeUnits k ≤ codeUnits l := ⟨fun k l => le_total _ _⟩
  have : IsTrans String fun k l => codeUnits k ≤ codeUnits l := ⟨fun _ _ _ => le_trans⟩
  have hsorted := fun keys : List String =>
    List.pairwise_insertionSort (fun k l => codeUnits k ≤ codeUnits l) keys
  refine (sort_perm.trans (h.trans sort_perm.symm)).eq_of_pairwise (fun k l _ _ hkl hlk => ?_)
    (hsorted keys) (hsorted keys')
  exact codeUnits_injective (le_antisymm hkl hlk)

end Js

namespace CtrlRecovery

open Core

/-- The input of a tool: an object, whose objects all have fields of different names. -/
structure InputPayload where
  fields : List (String × Json)
  distinct : (Json.object fields).Distinct

/-- What an object without a field `__proto__` has under this name: the prototype of objects, which
inherits nothing itself. Under other names objects inherit functions, which have no JSON texts. -/
def inheritedField : String × Json := ("__proto__", .object [("__proto__", .null)])

namespace InputPayload

def json (payload : InputPayload) : Json := .object payload.fields

/-- The payload with what its objects inherit. -/
def inherited (payload : InputPayload) : Json := payload.json.inherit inheritedField

/-- The payload, with what its objects inherit, without the fields of nested objects whose names are not
among its keys. -/
def visible (payload : InputPayload) : Json := payload.inherited.restrict payload.json.keys

/-- No field of the payload is or contains an object. -/
def Flat (payload : InputPayload) : Prop := ∀ f ∈ payload.fields, f.2.hasObject = false

variable {payload payload' : InputPayload}

lemma distinct_json : payload.json.Distinct := payload.distinct

lemma distinct_inherited : payload.inherited.Distinct :=
  Json.Distinct.inherit (by simp [inheritedField, Json.Distinct]) payload.distinct

lemma nodup_keys : payload.json.keys.Nodup := (Json.distinct_object.mp payload.distinct).1

lemma visible_eq : payload.visible =
    .object (payload.fields.map fun f =>
      (f.1, (f.2.inherit inheritedField).restrict payload.json.keys)) := by
  have hall : ∀ f ∈ payload.fields, decide (f.1 ∈ payload.json.keys) :=
    fun f hf => decide_eq_true (List.mem_map_of_mem hf)
  have hnone : inheritedField.1 ∈ payload.fields.map Prod.fst ∨ inheritedField.1 ∉ payload.json.keys :=
    Classical.em _
  rw [visible, inherited, json, Json.restrict_inherit_object, ← json, List.filter_eq_self.mpr hall,
    if_pos hnone, List.append_nil]

@[simp] lemma keys_visible : payload.visible.keys = payload.json.keys := by
  rw [visible_eq, Json.keys, Json.fields, List.map_map]
  rfl

lemma visible_of_flat (h : payload.Flat) : payload.visible = payload.json := by
  have hfields : ∀ f ∈ payload.fields,
      (f.1, (f.2.inherit inheritedField).restrict payload.json.keys) = id f := by
    intro f hf
    rw [Json.inherit_eq_self (h f hf), Json.restrict, Json.mapObjects_eq_self (h f hf)]
    rfl
  rw [visible_eq, List.map_congr_left hfields, List.map_id, json]

lemma flat_of_same_visible (h : payload.Flat) (hsame : Json.Same payload.json payload'.visible) :
    payload'.Flat := by
  intro g hg
  have hmem : (g.1, (g.2.inherit inheritedField).restrict payload'.json.keys) ∈
      payload'.visible.fields := by
    rw [visible_eq]
    exact List.mem_map_of_mem hg
  obtain ⟨f, hf, hfg⟩ := hsame.exists_field.2 _ hmem
  have hobj := hfg.hasObject_eq ((Json.distinct_object.mp payload.distinct).2 f hf)
  rw [Json.restrict, Json.hasObject_mapObjects, Json.inherit, Json.hasObject_mapObjects] at hobj
  exact hobj.symm.trans (h f hf)

lemma same_visible (h : Json.Same payload.json payload'.json) :
    Json.Same payload.visible payload'.visible := by
  rw [visible, visible, ← Json.restrict_congr h.keys_perm,
    ← Json.select_eq_iff nodup_keys distinct_inherited distinct_inherited]
  exact h.inherit.select_eq distinct_inherited

/-- The payload with one more field in every nested object. -/
def addField (payload : InputPayload) (k : String) (hk : k ∉ payload.json.names) : InputPayload where
  fields := payload.fields.map fun f => (f.1, f.2.addField k)
  distinct := by
    obtain ⟨hnodup, hfields⟩ := Json.distinct_object.mp payload.distinct
    rw [Json.distinct_object, List.map_map, List.forall_mem_map]
    rw [json, Json.mem_names_object] at hk
    exact ⟨hnodup, fun f hf => (hfields f hf).addField fun h => hk ⟨f, hf, .inr h⟩⟩

section AddField

variable {k : String} (hk : k ∉ payload.json.names)

@[simp] lemma keys_addField : (payload.addField k hk).json.keys = payload.json.keys := by
  simp [json, addField, Json.keys, Json.fields]

lemma visible_addField (hne : k ≠ inheritedField.1) :
    (payload.addField k hk).visible = payload.visible := by
  have hkeys : k ∉ payload.json.keys := by
    intro hmem
    obtain ⟨f, hf, rfl⟩ := List.mem_map.mp hmem
    exact hk (Json.mem_names_object.mpr ⟨f, hf, .inl rfl⟩)
  rw [visible_eq, visible_eq, keys_addField, addField, List.map_map]
  exact congrArg Json.object
    (List.map_congr_left fun f _ => Prod.ext rfl (Json.restrict_inherit_addField hkeys hne))

lemma not_same_addField (hnested : ¬ payload.Flat) :
    ¬ Json.Same payload.json (payload.addField k hk).json := by
  intro h
  rw [Flat, not_forall₂] at hnested
  obtain ⟨f, hf, hobj⟩ := hnested
  rw [h.names_eq distinct_json] at hk
  refine hk (Json.mem_names_object.mpr ⟨(f.1, f.2.addField k), List.mem_map_of_mem hf, .inr ?_⟩)
  exact Json.mem_names_addField (by simpa using hobj)

end AddField

end InputPayload

structure LoopGuardResult where
  allowed : Bool
  reason : Option String
  fingerprint : String
  deriving DecidableEq, Repr

/-- An entry of the history of tool calls. -/
structure ToolCallEntry where
  fingerprint : String
  toolName : String
  success : Bool
  deriving DecidableEq, Repr

/-- The guard of a mission, with the history latest last. -/
structure LoopGuard where
  toolCallHistory : List ToolCallEntry := []
  planFingerprints : List String := []
  maxConsecutiveIdenticalCalls : ℕ := 3
  maxConsecutiveFailures : ℕ := 2
  deriving DecidableEq, Repr

namespace LoopGuard

/-- `history.slice(-n)`; as `-0` is `0`, all of it where `n` is `0`. -/
def lastEntries (n : ℕ) (history : List ToolCallEntry) : List ToolCallEntry :=
  if n = 0 then history else history.drop (history.length - n)

section Fingerprints

-- `crypto.createHash('sha256').update(text).digest('hex')`
variable (hash : String → String)

/-- The keys of the payload in order, which `JSON.stringify` asks for at every depth. -/
def selectedKeys (inputPayload : InputPayload) : List String := Js.sort inputPayload.json.keys

def generateToolFingerprint (toolName : String) (inputPayload : InputPayload) : String :=
  let serialized := (inputPayload.inherited.select (selectedKeys inputPayload)).stringify
  hash (toolName ++ ":" ++ serialized)

def generatePlanFingerprint (steps : List String) (preferredAction : String) : String :=
  hash (Json.object
    [("steps", .array (steps.map .string)), ("preferredAction", .string preferredAction)]).stringify

def checkToolCall (guard : LoopGuard) (toolName : String) (inputPayload : InputPayload) :
    LoopGuardResult :=
  let fp := generateToolFingerprint hash toolName inputPayload
  let recent := lastEntries guard.maxConsecutiveIdenticalCalls guard.toolCallHistory
  let recentToolFailures := lastEntries guard.maxConsecutiveFailures
    (guard.toolCallHistory.filter fun entry => entry.toolName = toolName)
  if guard.maxConsecutiveIdenticalCalls ≤ recent.length ∧
      recent.all fun entry => entry.fingerprint = fp then
    { allowed := false
      reason := some ("Loop Guard: Blocked " ++ toString guard.maxConsecutiveIdenticalCalls ++
        " consecutive identical tool calls to '" ++ toolName ++ "'")
      fingerprint := fp }
  else if guard.maxConsecutiveFailures ≤ recentToolFailures.length ∧
      recentToolFailures.all fun e => !e.success then
    { allowed := false
      reason := some ("Loop Guard: Blocked after " ++ toString guard.maxConsecutiveFailures ++
        " consecutive failures for tool '" ++ toolName ++ "'")
      fingerprint := fp }
  else { allowed := true, reason := none, fingerprint := fp }

def recordToolExecution (guard : LoopGuard) (toolName : String) (inputPayload : InputPayload)
    (success : Bool) : LoopGuard :=
  let fp := generateToolFingerprint hash toolName inputPayload
  { guard with toolCallHistory := guard.toolCallHistory ++ [⟨fp, toolName, success⟩] }

def checkPlanLoop (guard : LoopGuard) (steps : List String) (preferredAction : String) :
    LoopGuardResult × LoopGuard :=
  let fp := generatePlanFingerprint hash steps preferredAction
  if fp ∈ guard.planFingerprints then
    ({ allowed := false
       reason := some ("Loop Guard: Cyclic plan detected. " ++
        "Identical plan already executed in this mission.")
       fingerprint := fp }, guard)
  else
    ({ allowed := true, reason := none, fingerprint := fp },
      { guard with planFingerprints := fp :: guard.planFingerprints })

section Injective

variable {hash} (hhash : Function.Injective hash) (toolName : String)
  (payload payload' : InputPayload)

lemma restrict_selectedKeys :
    payload.inherited.restrict (selectedKeys payload) = payload.visible :=
  Json.restrict_congr Js.sort_perm

lemma nodup_selectedKeys : (selectedKeys payload).Nodup :=
  Js.sort_perm.nodup_iff.mpr InputPayload.nodup_keys

lemma same_select : Json.Same (payload.inherited.select (selectedKeys payload)) payload.visible := by
  rw [← restrict_selectedKeys]
  exact Json.same_select (nodup_selectedKeys payload) InputPayload.distinct_inherited

include hhash

/-- One tool has equal fingerprints for payloads that are the same, with what their objects inherit, but
for the fields of nested objects whose names are not among the keys of the payload. -/
theorem generateToolFingerprint_inj :
    generateToolFingerprint hash toolName payload =
        generateToolFingerprint hash toolName payload' ↔
      Json.Same payload.visible payload'.visible := by
  rw [generateToolFingerprint, generateToolFingerprint, hhash.eq_iff, String.append_right_inj,
    Json.stringify_inj]
  constructor
  · intro h
    exact (same_select payload).symm.trans (h ▸ same_select payload')
  · intro h
    have hkeys : selectedKeys payload = selectedKeys payload' :=
      Js.sort_eq_of_perm (by simpa using h.keys_perm)
    rw [← hkeys, Json.select_eq_iff (nodup_selectedKeys payload) InputPayload.distinct_inherited
      InputPayload.distinct_inherited, restrict_selectedKeys, hkeys, restrict_selectedKeys]
    exact h

lemma generatePlanFingerprint_inj {steps steps' : List String} {action action' : String} :
    generatePlanFingerprint hash steps action = generatePlanFingerprint hash steps' action' ↔
      steps = steps' ∧ action = action' := by
  have hstring : Function.Injective Json.string := fun s t h => Json.string.inj h
  simp [generatePlanFingerprint, hhash.eq_iff, Json.stringify_inj, hstring.list_map.eq_iff]

omit hhash

end Injective

end Fingerprints

/-- The fingerprints of two payloads are equal exactly when the payloads are, up to the order of
keys. -/
def TellsApart (hash : String → String) (toolName : String) (payload payload' : InputPayload) :
    Prop :=
  generateToolFingerprint hash toolName payload = generateToolFingerprint hash toolName payload' ↔
    Json.Same payload.json payload'.json

theorem tellsApart_iff {hash : String → String} (hhash : Function.Injective hash)
    (toolName : String) :
    (∀ payload payload', TellsApart hash toolName payload payload' ↔
        (Json.Same payload.visible payload'.visible → Json.Same payload.json payload'.json)) ∧
      ∀ payload, (∀ payload', TellsApart hash toolName payload payload') ↔ payload.Flat := by
  have hiff : ∀ payload payload', TellsApart hash toolName payload payload' ↔
      (Json.Same payload.visible payload'.visible → Json.Same payload.json payload'.json) := by
    intro payload payload'
    rw [TellsApart, generateToolFingerprint_inj hhash]
    exact ⟨Iff.mp, fun h => ⟨h, InputPayload.same_visible⟩⟩
  refine ⟨hiff, fun payload => ?_⟩
  simp only [hiff]
  constructor
  · intro h
    -- otherwise the payload looks like the one with a new field in every nested object
    by_contra hnested
    obtain ⟨k, hk⟩ := (payload.json.finite_names.insert inheritedField.1).exists_notMem
    rw [Set.mem_insert_iff, not_or] at hk
    refine InputPayload.not_same_addField hk.2 hnested (h (payload.addField k hk.2) ?_)
    rw [InputPayload.visible_addField hk.2 hk.1]
    exact .refl _
  · intro hflat payload' hsame
    rw [InputPayload.visible_of_flat hflat] at hsame
    rwa [InputPayload.visible_of_flat (InputPayload.flat_of_same_visible hflat hsame)] at hsame

/-- The failures of one reason, and those of one bank. -/
def reasonQuery : InputPayload where
  fields := [("filter", .object [("reason_code", .string "EXPIRED_CARD")])]
  distinct := by simp [Json.Distinct]

def bankQuery : InputPayload where
  fields := [("filter", .object [("bank_code", .string "HDFC")])]
  distinct := by simp [Json.Distinct]

def flatQuery : InputPayload where
  fields := [("reason_code", .string "EXPIRED_CARD")]
  distinct := by simp [Json.Distinct]

/-- Both texts are the name of the tool and an empty filter. -/
theorem nested_queries_collide :
    Function.Injective (id : String → String) ∧
      ¬ TellsApart id "get_failure_history" reasonQuery bankQuery := by
  refine ⟨Function.injective_id, fun h => ?_⟩
  have hsame : Json.Same reasonQuery.json bankQuery.json := by
    refine h.mp ((generateToolFingerprint_inj Function.injective_id _ _ _).mpr ?_)
    have hvisible : reasonQuery.visible = bankQuery.visible := by
      rw [InputPayload.visible_eq, InputPayload.visible_eq]
      rfl
    exact hvisible ▸ .refl _
  have hmem : "reason_code" ∈ bankQuery.json.names := by
    rw [← hsame.names_eq InputPayload.distinct_json]
    simp [InputPayload.json, reasonQuery, Json.mem_names_object]
  simp [InputPayload.json, bankQuery, Json.names] at hmem

theorem flat_query_told_apart :
    Function.Injective (id : String → String) ∧
      TellsApart id "get_failure_history" flatQuery reasonQuery := by
  have hflat : flatQuery.Flat := by simp [InputPayload.Flat, flatQuery, Json.hasObject]
  exact ⟨Function.injective_id,
    ((tellsApart_iff Function.injective_id "get_failure_history").2 flatQuery).mpr hflat _⟩

/-- An object that inherits, and one that has what the other inherits. -/
example :
    ((Json.object [("__proto__", .bool true), ("a", .object [])]).inherit inheritedField).select
        ["__proto__", "a"] =
      ((Json.object [("__proto__", .bool true),
        ("a", .object [inheritedField])]).inherit inheritedField).select ["__proto__", "a"] := by
  rfl

end LoopGuard

end CtrlRecovery
