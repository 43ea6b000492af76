import CtrlRecovery.Core.Joining

/-!
# Quoted fields

A field is a key, an opening mark, and a value between quotes, in which every quote is escaped but no
escape is. The end of such a value cannot be told by looking at it: a quote after an escape may be part
of the value, or close a value that ends with the escape. A list of fields can be told from its text
nevertheless (`flatMap_field_inj`), since two readings that have parted never meet again: where the one
has opened a quote, the other has just closed one.
-/

namespace Core

namespace Quoting

variable {α : Type*} [DecidableEq α]

section Field

variable (opening quote esc : α)

/-- Every quote comes after an escape. -/
def escape (xs : List α) : List α := xs.flatMap fun x => if x = quote then [esc, quote] else [x]

def closed (value rest : List α) : List α := escape quote esc value ++ quote :: rest

def field (item : List α × List α) : List α :=
  item.1 ++ opening :: quote :: closed quote esc item.2 []

end Field

variable {opening quote esc c : α} {key key' value rest rest' sep : List α}
  {items items' : List (List α × List α)}

@[simp] lemma closed_nil : closed quote esc [] rest = quote :: rest := rfl

lemma closed_cons_of_ne (h : c ≠ quote) :
    closed quote esc (c :: value) rest = c :: closed quote esc value rest := by
  simp [closed, escape, h]

lemma closed_cons_quote :
    closed quote esc (quote :: value) rest = esc :: quote :: closed quote esc value rest := by
  simp [closed, escape]

lemma field_append (item : List α × List α) : field opening quote esc item ++ rest =
    item.1 ++ opening :: quote :: closed quote esc item.2 rest := by
  simp [field, closed]

lemma closed_eq_quote_cons_iff (hesc : esc ≠ quote) :
    closed quote esc value rest = quote :: rest' ↔ value = [] ∧ rest = rest' := by
  cases value with
  | nil => simp
  | cons c value =>
    by_cases hc : c = quote
    · subst hc
      simp [closed_cons_quote, hesc]
    · simp [closed_cons_of_ne hc, hc]

section Marks

variable (hopening : opening ≠ quote) (hesc : esc ≠ quote) (hmarks : opening ≠ esc)

include hopening hesc hmarks

/-- The first quote of a text that closes a value comes after an opening mark only if it closes the
value. -/
lemma closed_eq_opening (hkey : quote ∉ key)
    (h : closed quote esc value rest = key ++ opening :: quote :: rest') :
    value = key ++ [opening] ∧ rest = rest' := by
  induction value generalizing key with
  | nil =>
    cases key with
    | nil => exact absurd (List.cons.inj h).1.symm hopening
    | cons d key => exact absurd ((List.cons.inj h).1 ▸ List.mem_cons_self) hkey
  | cons c value ih =>
    by_cases hc : c = quote
    · subst hc
      rw [closed_cons_quote] at h
      match key with
      | [] => exact absurd (List.cons.inj h).1.symm hmarks
      | [d] => exact absurd (List.cons.inj (List.cons.inj h).2).1.symm hopening
      | d :: d' :: key =>
        have hd : c = d' := (List.cons.inj (List.cons.inj h).2).1
        exact absurd (by simp [hd]) hkey
    · rw [closed_cons_of_ne hc] at h
      cases key with
      | nil =>
        obtain ⟨rfl, htail⟩ := List.cons.inj h
        obtain ⟨rfl, rfl⟩ := (closed_eq_quote_cons_iff hesc).mp htail
        exact ⟨rfl, rfl⟩
      | cons d key =>
        obtain ⟨rfl, htail⟩ := List.cons.inj h
        obtain ⟨rfl, hrest⟩ := ih (fun hmem => hkey (List.mem_cons_of_mem _ hmem)) htail
        exact ⟨rfl, hrest⟩

/-- Two readings of a text, one inside and one outside of the quotes, never end together. -/
lemma closed_ne_flatMap (hitems : ∀ item ∈ items, quote ∉ item.1)
    (hitems' : ∀ item ∈ items', quote ∉ item.1) :
    closed quote esc value (items.flatMap (field opening quote esc)) ≠
      items'.flatMap (field opening quote esc) := by
  induction hn : items.length + items'.length generalizing value items items' with
  | zero =>
    rw [List.length_eq_zero_iff.mp (Nat.eq_zero_of_add_eq_zero_left hn)]
    intro h
    simp [closed] at h
  | succ n ih =>
    intro h
    cases items' with
    | nil => simp [closed] at h
    | cons item items' =>
      -- the readings change their roles at the next quote
      rw [List.flatMap_cons, field_append] at h
      obtain ⟨hkey, hrest'⟩ := List.forall_mem_cons.mp hitems'
      obtain ⟨-, hrest⟩ := closed_eq_opening hopening hesc hmarks hkey h
      exact ih hrest' hitems (by simp at hn; omega) hrest.symm

lemma closed_inj (hitems : ∀ item ∈ items, quote ∉ item.1)
    (hitems' : ∀ item ∈ items', quote ∉ item.1)
    (h : closed quote esc value (items.flatMap (field opening quote esc)) =
      closed quote esc value' (items'.flatMap (field opening quote esc))) :
    value = value' ∧ items.flatMap (field opening quote esc) =
      items'.flatMap (field opening quote esc) := by
  induction value generalizing value' with
  | nil =>
    obtain ⟨rfl, hrest⟩ := (closed_eq_quote_cons_iff hesc).mp h.symm
    exact ⟨rfl, hrest.symm⟩
  | cons c value ih =>
    cases value' with
    | nil =>
      obtain ⟨hnil, -⟩ := (closed_eq_quote_cons_iff hesc).mp h
      cases hnil
    | cons c' value' =>
      by_cases hc : c = quote <;> by_cases hc' : c' = quote
      · rw [hc, hc', closed_cons_quote, closed_cons_quote] at h
        obtain ⟨rfl, hrest⟩ := ih (List.cons.inj (List.cons.inj h).2).2
        exact ⟨by rw [hc, hc'], hrest⟩
      · -- the escape ends the second value
        rw [hc, closed_cons_quote, closed_cons_of_ne hc'] at h
        obtain ⟨-, hrest⟩ := (closed_eq_quote_cons_iff hesc).mp (List.cons.inj h).2.symm
        exact absurd hrest.symm (closed_ne_flatMap hopening hesc hmarks hitems hitems')
      · rw [hc', closed_cons_of_ne hc, closed_cons_quote] at h
        obtain ⟨-, hrest⟩ := (closed_eq_quote_cons_iff hesc).mp (List.cons.inj h).2
        exact absurd hrest.symm (closed_ne_flatMap hopening hesc hmarks hitems' hitems)
      · rw [closed_cons_of_ne hc, closed_cons_of_ne hc'] at h
        obtain ⟨rfl, htail⟩ := List.cons.inj h
        obtain ⟨rfl, hrest⟩ := ih htail
        exact ⟨rfl, hrest⟩

/-- A list of fields can be told from its text. -/
theorem flatMap_field_inj (hitems : ∀ item ∈ items, quote ∉ item.1)
    (hitems' : ∀ item ∈ items', quote ∉ item.1)
    (h : items.flatMap (field opening quote esc) = items'.flatMap (field opening quote esc)) :
    items = items' := by
  induction items generalizing items' with
  | nil =>
    cases items' with
    | nil => rfl
    | cons item items' => simp [field] at h
  | cons item items ih =>
    cases items' with
    | nil => simp [field] at h
    | cons item' items' =>
      obtain ⟨hkey, hrest⟩ := List.forall_mem_cons.mp hitems
      obtain ⟨hkey', hrest'⟩ := List.forall_mem_cons.mp hitems'
      rw [List.flatMap_cons, List.flatMap_cons, field_append, field_append, List.append_cons,
        List.append_cons item'.1] at h
      obtain ⟨hkeys, htail⟩ := append_inj_of_notMem (c := quote)
        (by simp [hkey, hopening.symm]) (by simp [hkey', hopening.symm]) (.inr ⟨_, rfl⟩)
        (.inr ⟨_, rfl⟩) h
      obtain ⟨hvalue, hitems⟩ := closed_inj hopening hesc hmarks hrest hrest' (List.cons.inj htail).2
      rw [ih hrest hrest' hitems, Prod.ext (List.append_cancel_right hkeys) hvalue]

end Marks

/-- A field whose key starts with a separator. -/
def lead (sep : List α) (item : List α × List α) : List α × List α := (sep ++ item.1, item.2)

omit [DecidableEq α] in
lemma lead_injective : Function.Injective (lead sep) := by
  rintro ⟨key, value⟩ ⟨key', value'⟩ h
  rw [lead, lead, Prod.mk.injEq] at h
  exact Prod.ext (List.append_cancel_left h.1) h.2

lemma intercalate_map_field (item : List α × List α) : sep.intercalate
      ((item :: items).map (field opening quote esc)) =
    (item :: items.map (lead sep)).flatMap (field opening quote esc) := by
  have hlead : ∀ item : List α × List α, sep ++ field opening quote esc item =
      field opening quote esc (lead sep item) := fun item => by simp [field, lead]
  rw [List.map_cons, intercalate_cons, List.flatMap_cons, List.flatMap_map, List.flatMap_map]
  simp only [hlead]

/-- The same for fields with separators in which no quote occurs. -/
theorem intercalate_field_inj (hopening : opening ≠ quote) (hesc : esc ≠ quote)
    (hmarks : opening ≠ esc) (hsep : quote ∉ sep) (hitems : ∀ item ∈ items, quote ∉ item.1)
    (hitems' : ∀ item ∈ items', quote ∉ item.1)
    (h : sep.intercalate (items.map (field opening quote esc)) =
      sep.intercalate (items'.map (field opening quote esc))) : items = items' := by
  have hled : ∀ {items : List (List α × List α)}, (∀ item ∈ items, quote ∉ item.1) →
      ∀ item ∈ items.map (lead sep), quote ∉ item.1 := by
    intro items hitems item hitem
    obtain ⟨item, hmem, rfl⟩ := List.mem_map.mp hitem
    simp [lead, hsep, hitems item hmem]
  cases items with
  | nil =>
    cases items' with
    | nil => rfl
    | cons item' items' =>
      rw [intercalate_map_field] at h
      simp [field] at h
  | cons item items =>
    cases items' with
    | nil =>
      rw [intercalate_map_field] at h
      simp [field] at h
    | cons item' items' =>
      obtain ⟨hkey, hrest⟩ := List.forall_mem_cons.mp hitems
      obtain ⟨hkey', hrest'⟩ := List.forall_mem_cons.mp hitems'
      rw [intercalate_map_field, intercalate_map_field] at h
      obtain ⟨rfl, hmap⟩ := List.cons.inj <| flatMap_field_inj hopening hesc hmarks
        (List.forall_mem_cons.mpr ⟨hkey, hled hrest⟩)
        (List.forall_mem_cons.mpr ⟨hkey', hled hrest'⟩) h
      rw [(List.map_injective_iff.mpr lead_injective) hmap]

end Quoting

end Core
