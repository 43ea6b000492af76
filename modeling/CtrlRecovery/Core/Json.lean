import Mathlib.Data.List.Nodup
import Mathlib.Data.List.Sort
import Mathlib.Data.Nat.Notation

/-!
# JSON values and their texts

A JSON value is a tree of arrays and objects over scalars; the fields of an object come in an order. A
function on values is given by what it does at each kind of node (`Algebra`) and computed by `fold`.
The text of a value is compact, as `JSON.stringify` gives it without an indent, and it determines the
value (`text_injective`).
-/

namespace Core

namespace Json

def isNumberChar (c : Char) : Bool := "0123456789+-.e".toList.contains c

end Json

/-- A number, as the text that stands for it: the shortest one that reads back as the number. -/
structure NumberText where
  chars : List Char
  ne_nil : chars ≠ []
  isNumber : ∀ c ∈ chars, Json.isNumberChar c
  deriving DecidableEq

inductive Json
  | null
  | bool (b : Bool)
  | number (n : NumberText)
  | string (s : String)
  | array (elements : List Json)
  | object (fields : List (String × Json))

namespace Json

/-! ### Folds -/

/-- What a function does at each kind of node. -/
structure Algebra (α : Type*) where
  null : α
  bool : Bool → α
  number : NumberText → α
  string : String → α
  array : List α → α
  object : List (String × α) → α

section Fold

variable {α : Type*} (a : Algebra α)

mutual

def fold : Json → α
  | .null          => a.null
  | .bool b        => a.bool b
  | .number n      => a.number n
  | .string s      => a.string s
  | .array elems   => a.array (foldList elems)
  | .object fields => a.object (foldFields fields)

def foldList : List Json → List α
  | []      => []
  | v :: vs => fold v :: foldList vs

def foldFields : List (String × Json) → List (String × α)
  | []           => []
  | (k, v) :: fs => (k, fold v) :: foldFields fs

end

lemma foldList_eq (vs : List Json) : foldList a vs = vs.map (fold a) := by
  induction vs with
  | nil => rfl
  | cons v vs ih => exact congrArg (fold a v :: ·) ih

lemma foldFields_eq (fs : List (String × Json)) :
    foldFields a fs = fs.map fun f => (f.1, fold a f.2) := by
  induction fs with
  | nil => rfl
  | cons f fs ih => exact congrArg ((f.1, fold a f.2) :: ·) ih

@[simp] lemma fold_null : fold a .null = a.null := by rfl

@[simp] lemma fold_bool (b : Bool) : fold a (.bool b) = a.bool b := by rfl

@[simp] lemma fold_number (n : NumberText) : fold a (.number n) = a.number n := by rfl

@[simp] lemma fold_string (s : String) : fold a (.string s) = a.string s := by rfl

@[simp] lemma fold_array (elems : List Json) :
    fold a (.array elems) = a.array (elems.map (fold a)) :=
  congrArg a.array (foldList_eq a elems)

@[simp] lemma fold_object (fields : List (String × Json)) :
    fold a (.object fields) = a.object (fields.map fun f => (f.1, fold a f.2)) :=
  congrArg a.object (foldFields_eq a fields)

end Fold

/-- Induction on a value, with the elements of an array and the fields of an object. -/
@[elab_as_elim, induction_eliminator]
theorem induction {P : Json → Prop} (null : P .null) (bool : ∀ b, P (.bool b))
    (number : ∀ n, P (.number n)) (string : ∀ s, P (.string s))
    (array : ∀ elems, (∀ v ∈ elems, P v) → P (.array elems))
    (object : ∀ fields, (∀ f ∈ fields, P f.2) → P (.object fields)) (v : Json) : P v :=
  @Json.rec P (fun elems => ∀ v ∈ elems, P v) (fun fields => ∀ f ∈ fields, P f.2) (fun f => P f.2)
    null bool number string array object
    (fun _ h => absurd h List.not_mem_nil)
    (fun _ _ hv hvs => List.forall_mem_cons.mpr ⟨hv, hvs⟩)
    (fun _ h => absurd h List.not_mem_nil)
    (fun _ _ hf hfs => List.forall_mem_cons.mpr ⟨hf, hfs⟩)
    (fun _ _ hv => hv) v

/-! ### Texts -/

/-- The quotation mark and the backslash. -/
def quotationMark : Char := Char.ofNat 0x22

def backslash : Char := Char.ofNat 0x5C

/-- The brackets of an object. -/
def openBrace : Char := Char.ofNat 0x7B

def closeBrace : Char := Char.ofNat 0x7D

def hexDigit (n : ℕ) : Char := "0123456789abcdef".toList.getD n '0'

/-- A character inside a string literal. -/
def quoteChar (c : Char) : List Char :=
  if c = quotationMark ∨ c = backslash then [backslash, c]
  else match c.toNat with
    | 0x8 => [backslash, 'b']
    | 0x9 => [backslash, 't']
    | 0xA => [backslash, 'n']
    | 0xC => [backslash, 'f']
    | 0xD => [backslash, 'r']
    | n   =>
      if n < 0x20 then [backslash, 'u', '0', '0', hexDigit (n / 16), hexDigit (n % 16)] else [c]

def quote (s : String) : List Char :=
  quotationMark :: (s.toList.flatMap quoteChar ++ [quotationMark])

/-- What follows the first of the texts that are separated by commas, up to the bracket. -/
def separated (close : Char) : List (List Char) → List Char
  | []      => [close]
  | t :: ts => ',' :: (t ++ separated close ts)

def enclosed (close : Char) : List (List Char) → List Char
  | []      => [close]
  | t :: ts => t ++ separated close ts

def textAlgebra : Algebra (List Char) where
  null := "null".toList
  bool b := if b then "true".toList else "false".toList
  number n := n.chars
  string := quote
  array ts := '[' :: enclosed ']' ts
  object fs := openBrace :: enclosed closeBrace (fs.map fun f => quote f.1 ++ ':' :: f.2)

def text (v : Json) : List Char := v.fold textAlgebra

@[simp] lemma text_number (n : NumberText) : text (.number n) = n.chars := fold_number textAlgebra n

@[simp] lemma text_string (s : String) : text (.string s) = quote s := fold_string textAlgebra s

def stringify (v : Json) : String := String.ofList v.text

/-! ### String literals -/

def hexValue (c : Char) : ℕ := "0123456789abcdef".toList.idxOf c

/-- The first character of what a string literal goes on with, and the rest. -/
def readChar : List Char → Option (Char × List Char)
  | []        => none
  | c :: rest =>
    if c = backslash then
      match rest with
      | 'b' :: rest => some (Char.ofNat 0x8, rest)
      | 't' :: rest => some (Char.ofNat 0x9, rest)
      | 'n' :: rest => some (Char.ofNat 0xA, rest)
      | 'f' :: rest => some (Char.ofNat 0xC, rest)
      | 'r' :: rest => some (Char.ofNat 0xD, rest)
      | 'u' :: _ :: _ :: high :: low :: rest =>
        some (Char.ofNat (hexValue high * 16 + hexValue low), rest)
      | c :: rest   => some (c, rest)
      | []          => none
    else some (c, rest)

lemma hexValue_hexDigit : ∀ n < 16, hexValue (hexDigit n) = n := by decide

lemma readChar_quoteChar (c : Char) (rest : List Char) :
    readChar (quoteChar c ++ rest) = some (c, rest) := by
  have hof : ∀ n, c.toNat = n → Char.ofNat n = c := fun n h => h ▸ Char.ofNat_toNat c
  rw [quoteChar]
  split_ifs with hspecial
  · rcases hspecial with rfl | rfl <;> rfl
  · split
    next h => simpa [readChar] using hof _ h
    next h => simpa [readChar] using hof _ h
    next h => simpa [readChar] using hof _ h
    next h => simpa [readChar] using hof _ h
    next h => simpa [readChar] using hof _ h
    · split_ifs with hcontrol
      · have hhigh := hexValue_hexDigit (c.toNat / 16) (by omega)
        have hlow := hexValue_hexDigit (c.toNat % 16) (by omega)
        simp only [List.cons_append, List.nil_append, readChar, if_true, hhigh, hlow]
        rw [Nat.div_add_mod', Char.ofNat_toNat]
      · rw [not_or] at hspecial
        simp [readChar, hspecial.2]

/-- The literal does not end with a character of the string. -/
lemma head_quoteChar_ne (c : Char) (rest : List Char) :
    (quoteChar c ++ rest).head? ≠ some quotationMark := by
  rw [quoteChar]
  split_ifs with hspecial
  · simp [backslash, quotationMark]
  · split
    · simp [backslash, quotationMark]
    · simp [backslash, quotationMark]
    · simp [backslash, quotationMark]
    · simp [backslash, quotationMark]
    · simp [backslash, quotationMark]
    · split_ifs
      · simp [backslash, quotationMark]
      · rw [not_or] at hspecial
        simpa using hspecial.1

lemma flatMap_quoteChar_inj {cs ds r s : List Char}
    (h : cs.flatMap quoteChar ++ quotationMark :: r = ds.flatMap quoteChar ++ quotationMark :: s) :
    cs = ds ∧ r = s := by
  induction cs generalizing ds with
  | nil =>
    cases ds with
    | nil => simpa using h
    | cons d ds =>
      rw [List.flatMap_nil, List.nil_append, List.flatMap_cons, List.append_assoc] at h
      exact absurd (congrArg List.head? h).symm (head_quoteChar_ne d _)
  | cons c cs ih =>
    cases ds with
    | nil =>
      rw [List.flatMap_nil, List.nil_append, List.flatMap_cons, List.append_assoc] at h
      exact absurd (congrArg List.head? h) (head_quoteChar_ne c _)
    | cons d ds =>
      rw [List.flatMap_cons, List.append_assoc, List.flatMap_cons, List.append_assoc] at h
      have hread := congrArg readChar h
      rw [readChar_quoteChar, readChar_quoteChar, Option.some.injEq, Prod.mk.injEq] at hread
      obtain ⟨rfl, hrest⟩ := hread
      obtain ⟨rfl, rfl⟩ := ih hrest
      exact ⟨rfl, rfl⟩

lemma quote_inj {k l : String} {r s : List Char} (h : quote k ++ r = quote l ++ s) :
    k = l ∧ r = s := by
  simp only [quote, List.cons_append, List.append_assoc, List.nil_append, List.cons.injEq,
    true_and] at h
  obtain ⟨hchars, hrest⟩ := flatMap_quoteChar_inj h
  exact ⟨String.toList_inj.mp hchars, hrest⟩

/-! ### Texts determine their values -/

/-- A number cannot go on with this text. -/
def Delimited (r : List Char) : Prop := ∀ c ∈ r.head?, ¬ isNumberChar c

lemma delimited_cons {c : Char} {r : List Char} (h : isNumberChar c = false) :
    Delimited (c :: r) := by
  simp [Delimited, h]

/-- Texts that tell where they end, and their values, whatever delimited text follows. -/
def Reads {α : Type*} (e : α → List Char) (a : α) : Prop :=
  ∀ b r s, Delimited r → Delimited s → e a ++ r = e b ++ s → a = b ∧ r = s

section Lists

variable {α : Type*} {e : α → List Char} {close : Char} {as bs : List α} {r s : List Char}

lemma delimited_separated (hclose : isNumberChar close = false) (ts : List (List Char))
    (r : List Char) : Delimited (separated close ts ++ r) := by
  cases ts with
  | nil => exact delimited_cons hclose
  | cons t ts => exact delimited_cons (by decide)

lemma separated_inj (hclose : isNumberChar close = false) (hcomma : close ≠ ',')
    (he : ∀ a ∈ as, Reads e a)
    (h : separated close (as.map e) ++ r = separated close (bs.map e) ++ s) : as = bs ∧ r = s := by
  induction as generalizing bs with
  | nil =>
    cases bs with
    | nil => simpa [separated] using h
    | cons b bs => simp [separated, hcomma] at h
  | cons a as ih =>
    cases bs with
    | nil => simp [separated, hcomma.symm] at h
    | cons b bs =>
      simp only [List.map_cons, separated, List.cons_append, List.append_assoc,
        List.cons.injEq, true_and] at h
      obtain ⟨rfl, hrest⟩ := he a List.mem_cons_self b _ _ (delimited_separated hclose _ _)
        (delimited_separated hclose _ _) h
      obtain ⟨rfl, rfl⟩ := ih (fun a ha => he a (List.mem_cons_of_mem _ ha)) hrest
      exact ⟨rfl, rfl⟩

lemma enclosed_inj (hclose : isNumberChar close = false) (hcomma : close ≠ ',')
    (hstart : ∀ a r, (e a ++ r).head? ≠ some close) (he : ∀ a ∈ as, Reads e a)
    (h : enclosed close (as.map e) ++ r = enclosed close (bs.map e) ++ s) : as = bs ∧ r = s := by
  cases as with
  | nil =>
    cases bs with
    | nil => simpa [enclosed] using h
    | cons b bs =>
      rw [List.map_cons, enclosed, List.append_assoc] at h
      exact absurd (congrArg List.head? h).symm (hstart b _)
  | cons a as =>
    cases bs with
    | nil =>
      rw [List.map_cons, enclosed, List.append_assoc] at h
      exact absurd (congrArg List.head? h) (hstart a _)
    | cons b bs =>
      simp only [List.map_cons, enclosed, List.append_assoc] at h
      obtain ⟨rfl, hrest⟩ := he a List.mem_cons_self b _ _ (delimited_separated hclose _ _)
        (delimited_separated hclose _ _) h
      obtain ⟨rfl, rfl⟩ := separated_inj hclose hcomma
        (fun a ha => he a (List.mem_cons_of_mem _ ha)) hrest
      exact ⟨rfl, rfl⟩

end Lists

lemma numberText_inj {n m : NumberText} {r s : List Char} (hr : Delimited r) (hs : Delimited s)
    (h : n.chars ++ r = m.chars ++ s) : n = m ∧ r = s := by
  have hspan : ∀ {cs t : List Char}, (∀ c ∈ cs, isNumberChar c) → Delimited t →
      (cs ++ t).takeWhile isNumberChar = cs ∧ (cs ++ t).dropWhile isNumberChar = t := by
    intro cs t hcs ht
    have htake : t.takeWhile isNumberChar = [] ∧ t.dropWhile isNumberChar = t := by
      cases t with
      | nil => exact ⟨rfl, rfl⟩
      | cons c t =>
        have hc : isNumberChar c = false := by simpa [Delimited] using ht
        simp [hc]
    rw [List.takeWhile_append_of_pos hcs, List.dropWhile_append_of_pos hcs, htake.1, htake.2,
      List.append_nil]
    exact ⟨rfl, rfl⟩
  obtain ⟨hn, hr'⟩ := hspan n.isNumber hr
  obtain ⟨hm, hs'⟩ := hspan m.isNumber hs
  constructor
  · cases n
    cases m
    simp only [NumberText.mk.injEq]
    exact hn.symm.trans ((congrArg (List.takeWhile isNumberChar) h).trans hm)
  · exact hr'.symm.trans ((congrArg (List.dropWhile isNumberChar) h).trans hs')

/-- The kind of a value, and the kind of the values whose texts start with a character. -/
def kind : Json → ℕ
  | .null     => 0
  | .bool _   => 1
  | .number _ => 2
  | .string _ => 3
  | .array _  => 4
  | .object _ => 5

def kindOf (c : Char) : ℕ :=
  if c = 'n' then 0 else if c = 't' ∨ c = 'f' then 1 else if isNumberChar c then 2
  else if c = quotationMark then 3 else if c = '[' then 4 else if c = openBrace then 5 else 6

lemma head_text (v : Json) (r : List Char) :
    (v.text ++ r).head?.map kindOf = some v.kind := by
  cases v with
  | null => rfl
  | bool b => cases b <;> rfl
  | number n =>
    obtain ⟨c, cs, hcs⟩ := List.exists_cons_of_ne_nil n.ne_nil
    have hc : isNumberChar c := n.isNumber c (by simp [hcs])
    have hnumber : "0123456789+-.e".toList.all (kindOf · = 2) = true := by decide
    have hkind : kindOf c = 2 :=
      of_decide_eq_true (List.all_eq_true.mp hnumber c (by simpa [isNumberChar] using hc))
    simp [hcs, kind, hkind]
  | string s => rfl
  | array elems =>
    rw [text, fold_array]
    rfl
  | object fields =>
    rw [text, fold_object]
    rfl

lemma kind_eq_of_text {v w : Json} {r s : List Char} (h : v.text ++ r = w.text ++ s) :
    v.kind = w.kind := by
  rw [← Option.some_inj, ← head_text v r, ← head_text w s, h]

lemma head_text_ne {c : Char} (hc : ∀ v : Json, v.kind ≠ kindOf c) (v : Json) (r : List Char) :
    (v.text ++ r).head? ≠ some c := by
  intro h
  have := head_text v r
  rw [h] at this
  exact hc v (Option.some_inj.mp this).symm

lemma reads_field {f : String × Json} (hf : Reads text f.2) :
    Reads (fun f : String × Json => quote f.1 ++ ':' :: f.2.text) f := by
  intro g r s hr hs h
  simp only [List.append_assoc, List.cons_append] at h
  obtain ⟨hkey, hrest⟩ := quote_inj h
  rw [List.cons.injEq] at hrest
  obtain ⟨hvalue, hrest⟩ := hf g.2 r s hr hs hrest.2
  exact ⟨Prod.ext hkey hvalue, hrest⟩

lemma not_isNumberChar_close : isNumberChar ']' = false ∧ isNumberChar closeBrace = false := by
  decide

/-- The text of a value tells the value and where it ends. -/
theorem reads_text (v : Json) : Reads text v := by
  induction v with
  | null =>
    intro w r s _ _ h
    cases w with
    | null => exact ⟨rfl, List.append_cancel_left h⟩
    | _ => exact absurd (kind_eq_of_text h) (by simp [kind])
  | bool b =>
    intro w r s _ _ h
    cases w with
    | bool b' =>
      cases b <;> cases b'
      · exact ⟨rfl, List.append_cancel_left h⟩
      · exact absurd (List.cons.inj h).1 (by decide)
      · exact absurd (List.cons.inj h).1 (by decide)
      · exact ⟨rfl, List.append_cancel_left h⟩
    | _ => exact absurd (kind_eq_of_text h) (by simp [kind])
  | number n =>
    intro w r s hr hs h
    cases w with
    | number m =>
      simp only [text_number] at h
      obtain ⟨rfl, hrest⟩ := numberText_inj hr hs h
      exact ⟨rfl, hrest⟩
    | _ => exact absurd (kind_eq_of_text h) (by simp [kind])
  | string t =>
    intro w r s _ _ h
    cases w with
    | string u =>
      simp only [text_string] at h
      obtain ⟨rfl, hrest⟩ := quote_inj h
      exact ⟨rfl, hrest⟩
    | _ => exact absurd (kind_eq_of_text h) (by simp [kind])
  | array elems ih =>
    intro w r s _ _ h
    cases w with
    | array elems' =>
      simp only [text, fold_array, textAlgebra, List.cons_append, List.cons.injEq, true_and] at h
      have hkind : kindOf ']' = 6 := by decide
      have hstart : ∀ (v : Json) r, (v.text ++ r).head? ≠ some ']' :=
        head_text_ne fun v => by cases v <;> simp [kind, hkind]
      obtain ⟨rfl, hrest⟩ := enclosed_inj not_isNumberChar_close.1 (by decide) hstart ih h
      exact ⟨rfl, hrest⟩
    | _ => exact absurd (kind_eq_of_text h) (by simp [kind])
  | object fields ih =>
    intro w r s _ _ h
    cases w with
    | object fields' =>
      simp only [text, fold_object, textAlgebra, List.map_map, List.cons_append, List.cons.injEq,
        true_and] at h
      obtain ⟨rfl, hrest⟩ := enclosed_inj
        (e := fun f : String × Json => quote f.1 ++ ':' :: f.2.text) not_isNumberChar_close.2
        (by decide) (fun f r => by simp [quote, quotationMark, closeBrace])
        (fun f hf => reads_field (ih f hf)) h
      exact ⟨rfl, hrest⟩
    | _ => exact absurd (kind_eq_of_text h) (by simp [kind])

theorem text_injective : Function.Injective text := by
  intro v w h
  refine (reads_text v w [] [] ?_ ?_ (by rw [h])).1
  · simp [Delimited]
  · simp [Delimited]

lemma stringify_inj {v w : Json} : v.stringify = w.stringify ↔ v = w := by
  rw [stringify, stringify, String.ofList_inj, text_injective.eq_iff]

end Json

end Core
