import CtrlRecovery.Db.SqlText
import Mathlib.Data.List.TakeWhile

/-!
# Placeholders of the two engines

For PostgreSQL `normalizeSql` numbers the question marks of a text through, for SQLite it writes a
question mark for every `$n`. Both read the text as characters, so they also rewrite literals, and
neither looks at the numbers that are there.

PostgreSQL binds `$n` to the n-th parameter and SQLite binds the n-th question mark to it. The
engines read the same exactly when no literal holds a question mark or a `$` before a digit, and the
placeholders are question marks followed by the numbers that go on counting
(`numberTokens_eq_inSequence_iff`).
-/

namespace CtrlRecovery

open Core

namespace SqlText

/-! ### Rewriting characters -/

/-- `.replace(/\?/g, () => '$' + index++)`. -/
def numberFrom : ℕ → List Char → List Char
  | _, []          => []
  | index, c :: cs =>
    if c = '?' then '$' :: (Nat.toDigits 10 index ++ numberFrom (index + 1) cs)
    else c :: numberFrom index cs

/-- `/\$\d+/`. -/
def dollarNumber : Pattern Char where
  rest? := fun
    | '$' :: cs => if cs.takeWhile Char.isDigit = [] then none else some (cs.dropWhile Char.isDigit)
    | _         => none
  shorter := by
    intro cs rest h
    split at h
    · split_ifs at h
      cases h
      have hsuffix := List.dropWhile_suffix Char.isDigit (l := ‹List Char›)
      exact ⟨hsuffix.trans (List.suffix_cons _ _), Nat.lt_succ_of_le hsuffix.length_le⟩
    · cases h

/-- `.replace(/\$\d+/g, '?')`. -/
def markNumbers (text : List Char) : List Char := dollarNumber.replaceAll ['?'] text

section Characters

variable {k : ℕ} {cs ys : List Char} {c : Char}

lemma numberFrom_append :
    numberFrom k (cs ++ ys) = numberFrom k cs ++ numberFrom (k + cs.count '?') ys := by
  induction cs generalizing k with
  | nil => rfl
  | cons c cs ih =>
    rw [List.cons_append, numberFrom, numberFrom]
    split_ifs with h
    · rw [ih, h, List.count_cons_self, List.cons_append, List.append_assoc, Nat.add_right_comm]
      rfl
    · rw [ih, List.count_cons_of_ne h, List.cons_append]

lemma numberFrom_of_notMem (h : '?' ∉ cs) : numberFrom k cs = cs := by
  induction cs with
  | nil => rfl
  | cons c cs ih =>
    rw [List.mem_cons, not_or] at h
    rw [numberFrom, if_neg (Ne.symm h.1), ih h.2]

lemma question_notMem_toDigits (n : ℕ) : '?' ∉ Nat.toDigits 10 n := fun h =>
  absurd (Nat.isDigit_of_mem_toDigits (by decide) (by decide) h) (by decide)

lemma question_notMem_numberFrom : '?' ∉ numberFrom k cs := by
  induction cs generalizing k with
  | nil => exact List.not_mem_nil
  | cons c cs ih =>
    rw [numberFrom]
    split_ifs with h
    · rw [List.mem_cons, List.mem_append]
      rintro (heq | hmem | hmem)
      · exact absurd heq (by decide)
      · exact question_notMem_toDigits k hmem
      · exact ih hmem
    · rw [List.mem_cons]
      rintro (heq | hmem)
      · exact h heq.symm
      · exact ih hmem

lemma escape_append : escape (cs ++ ys) = escape cs ++ escape ys := by
  induction cs with
  | nil => rfl
  | cons c cs ih =>
    rw [List.cons_append, escape, escape]
    split_ifs <;> simp [ih]

lemma escape_of_notMem (h : '\'' ∉ cs) : escape cs = cs := by
  induction cs with
  | nil => rfl
  | cons c cs ih =>
    rw [List.mem_cons, not_or] at h
    rw [escape, if_neg (Ne.symm h.1), ih h.2]

lemma count_escape : (escape cs).count '?' = cs.count '?' := by
  induction cs with
  | nil => rfl
  | cons c cs ih =>
    rw [escape]
    split_ifs with h
    · subst h
      simp [ih]
    · rw [List.count_cons, List.count_cons, ih]

/-- A quote is no question mark, so a literal may be numbered before its quotes are doubled. -/
lemma numberFrom_escape : numberFrom k (escape cs) = escape (numberFrom k cs) := by
  induction cs generalizing k with
  | nil => rfl
  | cons c cs ih =>
    have hdigits : '\'' ∉ Nat.toDigits 10 k := fun h =>
      absurd (Nat.isDigit_of_mem_toDigits (by decide) (by decide) h) (by decide)
    by_cases hquote : c = '\''
    · subst hquote
      simp [escape, numberFrom, ih]
    · by_cases hmark : c = '?'
      · subst hmark
        simp [escape, numberFrom, ih, escape_append, escape_of_notMem hdigits]
      · simp [escape, numberFrom, hquote, hmark, ih]

/-! ### Numbers after a dollar -/

lemma rest?_dollar (h : cs.takeWhile Char.isDigit ≠ []) :
    dollarNumber.rest? ('$' :: cs) = some (cs.dropWhile Char.isDigit) := if_neg h

lemma rest?_dollar_of_nil (h : cs.takeWhile Char.isDigit = []) :
    dollarNumber.rest? ('$' :: cs) = none := if_pos h

lemma rest?_of_ne (h : c ≠ '$') : dollarNumber.rest? (c :: cs) = none := by
  simp only [dollarNumber]
  split
  · rename_i heq
    exact absurd (List.cons.inj heq).1 h
  · rfl

lemma span_digits_append (cs : List Char) (h : ys.takeWhile Char.isDigit = []) :
    (cs ++ ys).takeWhile Char.isDigit = cs.takeWhile Char.isDigit ∧
      (cs ++ ys).dropWhile Char.isDigit = cs.dropWhile Char.isDigit ++ ys := by
  induction cs with
  | nil =>
    have hys : ys.dropWhile Char.isDigit = ys := by
      have hspan := List.takeWhile_append_dropWhile (p := Char.isDigit) (l := ys)
      rwa [h] at hspan
    exact ⟨h, hys⟩
  | cons c cs ih =>
    cases hc : c.isDigit with
    | true => simp [hc, ih]
    | false => simp [hc]

lemma span_digits_escape (cs : List Char) :
    (escape cs).takeWhile Char.isDigit = cs.takeWhile Char.isDigit ∧
      (escape cs).dropWhile Char.isDigit = escape (cs.dropWhile Char.isDigit) := by
  induction cs with
  | nil => exact ⟨rfl, rfl⟩
  | cons c cs ih =>
    by_cases hquote : c = '\''
    · subst hquote
      simp [escape]
    · cases hc : c.isDigit with
      | true => simp [escape, hquote, hc, ih]
      | false => simp [escape, hquote, hc]

lemma markNumbers_append (h : ys.takeWhile Char.isDigit = []) :
    markNumbers (cs ++ ys) = markNumbers cs ++ markNumbers ys := by
  refine Pattern.replaceAll_append fun tail _ hne => ?_
  obtain ⟨c, tail, rfl⟩ := List.exists_cons_of_ne_nil hne
  by_cases hdollar : c = '$'
  · subst hdollar
    obtain ⟨htake, hdrop⟩ := span_digits_append tail h
    by_cases hnil : tail.takeWhile Char.isDigit = []
    · rw [List.cons_append, rest?_dollar_of_nil hnil, rest?_dollar_of_nil (htake.trans hnil)]
      rfl
    · rw [List.cons_append, rest?_dollar hnil, rest?_dollar (htake.trans_ne hnil), hdrop]
      rfl
  · rw [List.cons_append, rest?_of_ne hdollar, rest?_of_ne hdollar]
    rfl

lemma markNumbers_append_of_notMem (h : '$' ∉ cs) : markNumbers (cs ++ ys) = cs ++ markNumbers ys := by
  refine Pattern.replaceAll_append_of_none fun tail htail hne => ?_
  obtain ⟨c, tail, rfl⟩ := List.exists_cons_of_ne_nil hne
  exact rest?_of_ne fun heq => h (heq ▸ htail.subset List.mem_cons_self)

lemma markNumbers_of_notMem (h : '$' ∉ cs) : markNumbers cs = cs := by
  simpa [markNumbers] using @markNumbers_append_of_notMem cs [] h

lemma takeWhile_toDigits (n : ℕ) :
    (Nat.toDigits 10 n).takeWhile Char.isDigit = Nat.toDigits 10 n := by
  rw [List.takeWhile_eq_self_iff]
  exact fun c hc => Nat.isDigit_of_mem_toDigits (by decide) (by decide) hc

lemma markNumbers_numbered {n : ℕ} (h : ys.takeWhile Char.isDigit = []) :
    markNumbers ('$' :: Nat.toDigits 10 n ++ ys) = '?' :: markNumbers ys := by
  obtain ⟨htake, hdrop⟩ := span_digits_append (Nat.toDigits 10 n) h
  have hdigits : (Nat.toDigits 10 n).dropWhile Char.isDigit = [] := by
    have hspan := List.takeWhile_append_dropWhile (p := Char.isDigit) (l := Nat.toDigits 10 n)
    rw [takeWhile_toDigits] at hspan
    simpa using hspan
  rw [takeWhile_toDigits] at htake
  rw [hdigits, List.nil_append] at hdrop
  have hne : (Nat.toDigits 10 n ++ ys).takeWhile Char.isDigit ≠ [] :=
    htake.trans_ne Nat.toDigits_ne_nil
  rw [markNumbers, List.cons_append, Pattern.replaceAll_of_rest? (rest?_dollar hne), hdrop]
  rfl

lemma markNumbers_escape : markNumbers (escape cs) = escape (markNumbers cs) := by
  induction hlength : cs.length using Nat.strong_induction_on generalizing cs with
  | _ n ih =>
    cases cs with
    | nil => simp [markNumbers, escape]
    | cons c cs =>
      have ihcs := ih cs.length (by simp [← hlength]) rfl
      by_cases hdollar : c = '$'
      · subst hdollar
        obtain ⟨htake, hdrop⟩ := span_digits_escape cs
        have hescape : escape ('$' :: cs) = '$' :: escape cs := if_neg (by decide)
        rw [hescape]
        by_cases hnil : cs.takeWhile Char.isDigit = []
        · rw [markNumbers, markNumbers,
            Pattern.replaceAll_cons_of_none (rest?_dollar_of_nil (htake.trans hnil)),
            Pattern.replaceAll_cons_of_none (rest?_dollar_of_nil hnil)]
          rw [markNumbers, markNumbers] at ihcs
          rw [ihcs, escape, if_neg (by decide)]
        · have hlt : (cs.dropWhile Char.isDigit).length < n := by
            have := (List.dropWhile_suffix Char.isDigit (l := cs)).length_le
            rw [← hlength, List.length_cons]
            omega
          have ihrest := ih _ hlt rfl
          rw [markNumbers, markNumbers] at ihrest
          rw [markNumbers, markNumbers,
            Pattern.replaceAll_of_rest? (rest?_dollar (htake.trans_ne hnil)),
            Pattern.replaceAll_of_rest? (rest?_dollar hnil), hdrop, ihrest]
          rfl
      · rw [markNumbers, markNumbers] at ihcs
        have hcons : ∀ xs, dollarNumber.replaceAll ['?'] (c :: xs) =
            c :: dollarNumber.replaceAll ['?'] xs := fun xs =>
          Pattern.replaceAll_cons_of_none (rest?_of_ne hdollar)
        rw [markNumbers, markNumbers, hcons, escape, escape]
        split_ifs with hquote
        · subst hquote
          rw [hcons, hcons, ihcs]
        · rw [hcons, ihcs]

end Characters

/-! ### Rewriting tokens -/

def Token.numberFrom (index : ℕ) : Token → Token
  | .question        => .numbered index
  | .literal content => .literal (SqlText.numberFrom index content)
  | t                => t

def Token.marks : Token → ℕ
  | .question        => 1
  | .literal content => content.count '?'
  | _                => 0

def Token.mark : Token → Token
  | .numbered _      => .question
  | .literal content => .literal (markNumbers content)
  | t                => t

def numberTokens : ℕ → List Token → List Token
  | _, []          => []
  | index, t :: ts => t.numberFrom index :: numberTokens (index + t.marks) ts

def numberPieces : ℕ → List Piece → List Piece
  | _, []          => []
  | index, p :: ps =>
    { p with token := p.token.numberFrom index } :: numberPieces (index + p.token.marks) ps

def markPieces (pieces : List Piece) : List Piece :=
  pieces.map fun p => { p with token := p.token.mark }

section Tokens

variable {index : ℕ} {t : Token} {p q : Piece} {pieces pieces' : List Piece} {trail : List Char}

lemma map_token_numberPieces :
    (numberPieces index pieces).map Piece.token = numberTokens index (pieces.map Piece.token) := by
  induction pieces generalizing index with
  | nil => rfl
  | cons p pieces ih => rw [numberPieces, List.map_cons, List.map_cons, numberTokens, ih]

lemma map_token_markPieces :
    (markPieces pieces).map Piece.token = (pieces.map Piece.token).map Token.mark := by
  simp [markPieces]

/-- The token has another spelling, with the same gap before it. -/
structure SameShape (p q : Piece) : Prop where
  gap : q.gap = p.gap
  isSolid : q.token.isSolid = p.token.isSolid
  valid : p.token.Valid → q.token.Valid

lemma sameShape_numberFrom : SameShape p { p with token := p.token.numberFrom index } where
  gap := rfl
  isSolid := by cases p.token <;> rfl
  valid h := by
    revert h
    cases p.token <;> exact fun h => h

lemma sameShape_mark : SameShape p { p with token := p.token.mark } where
  gap := rfl
  isSolid := by cases p.token <;> rfl
  valid h := by
    revert h
    cases p.token <;> exact fun h => h

lemma forall₂_numberPieces : List.Forall₂ SameShape pieces (numberPieces index pieces) := by
  induction pieces generalizing index with
  | nil => exact .nil
  | cons p pieces ih => exact .cons sameShape_numberFrom ih

lemma forall₂_markPieces : List.Forall₂ SameShape pieces (markPieces pieces) := by
  induction pieces with
  | nil => exact .nil
  | cons p pieces ih => exact .cons sameShape_mark ih

lemma valid_of_forall₂ (h : List.Forall₂ SameShape pieces pieces') (hvalid : ∀ p ∈ pieces, p.Valid) :
    ∀ p ∈ pieces', p.Valid := by
  induction h with
  | nil => exact hvalid
  | cons hshape _ ih =>
    rw [List.forall_mem_cons] at hvalid ⊢
    exact ⟨⟨hshape.gap ▸ hvalid.1.1, hshape.valid hvalid.1.2⟩, ih hvalid.2⟩

lemma separated_of_forall₂ (h : List.Forall₂ SameShape pieces pieces') (hsep : Separated pieces) :
    Separated pieces' := by
  induction h with
  | nil => exact hsep
  | cons hshape hrest ih =>
    rw [separated_cons] at hsep ⊢
    refine ⟨?_, ih hsep.2⟩
    cases hrest with
    | nil => nofun
    | cons hshape' _ =>
      rintro q ⟨⟩
      rw [hshape.isSolid, hshape'.isSolid, hshape'.gap]
      exact hsep.1 _ rfl

/-! ### The text of the rewritten tokens -/

lemma notMem_of_isSpace {c : Char} (hc : isSpace c = false) (h : ∀ d ∈ trail, isSpace d = true) :
    c ∉ trail := fun hmem => by
  rw [h c hmem] at hc
  cases hc

lemma notMem_of_isWordChar {c : Char} (hc : isWordChar c = false)
    (h : ∀ d ∈ trail, isWordChar d = true) : c ∉ trail := fun hmem => by
  rw [h c hmem] at hc
  cases hc

lemma count_spell (ht : t.Valid) : t.spell.count '?' = t.marks := by
  cases t with
  | word text => exact List.count_eq_zero.mpr (notMem_of_isWordChar (by decide) ht.2)
  | literal content => simp [Token.spell, Token.marks, count_escape]
  | question => rfl
  | numbered n => simp [Token.spell, Token.marks, List.count_eq_zero, question_notMem_toDigits]
  | symbol c =>
    have hc := (symbol_chars ht).2.2.2.1
    simp [Token.spell, Token.marks, hc]

lemma numberFrom_token (ht : t.Valid) :
    numberFrom index t.spell = (t.numberFrom index).spell := by
  cases t with
  | word text => exact numberFrom_of_notMem (notMem_of_isWordChar (by decide) ht.2)
  | literal content =>
    simp [Token.spell, Token.numberFrom, numberFrom, numberFrom_append, numberFrom_escape]
  | question => simp [Token.spell, Token.numberFrom, numberFrom]
  | numbered n =>
    exact numberFrom_of_notMem (by simp [Token.spell, question_notMem_toDigits])
  | symbol c =>
    have hc := (symbol_chars ht).2.2.2.1
    exact numberFrom_of_notMem (by simpa [Token.spell] using hc.symm)

lemma numberFrom_spell (hvalid : ∀ p ∈ pieces, p.Valid) (htrail : ∀ c ∈ trail, isSpace c = true) :
    numberFrom index (spell pieces ++ trail) = spell (numberPieces index pieces) ++ trail := by
  induction pieces generalizing index with
  | nil => exact numberFrom_of_notMem (notMem_of_isSpace (by decide) htrail)
  | cons p pieces ih =>
    rw [List.forall_mem_cons] at hvalid
    have hgap : '?' ∉ p.gap := notMem_of_isSpace (by decide) hvalid.1.1
    have hspell : spell (p :: pieces) ++ trail =
        p.gap ++ (p.token.spell ++ (spell pieces ++ trail)) := by
      simp [spell, Piece.spell]
    rw [hspell, numberFrom_append, numberFrom_append, numberFrom_of_notMem hgap,
      numberFrom_token hvalid.1.2, List.count_eq_zero.mpr hgap, count_spell hvalid.1.2, ih hvalid.2]
    simp [spell, numberPieces, Piece.spell]

/-- After a solid token no digit stands. -/
lemma takeWhile_spell (hvalid : ∀ p ∈ pieces, p.Valid) (htrail : ∀ c ∈ trail, isSpace c = true)
    (hfirst : ∀ q ∈ pieces.head?, q.token.isSolid = true → q.gap ≠ []) :
    (spell pieces ++ trail).takeWhile Char.isDigit = [] := by
  have hspace : ∀ c, isSpace c = true → c.isDigit = false := by
    intro c hc
    rw [Bool.eq_false_iff]
    intro hdigit
    rw [isSpace_of_isWordChar (isWordChar_of_isDigit hdigit)] at hc
    cases hc
  have hcons : ∀ c cs, Char.isDigit c = false → (c :: cs).takeWhile Char.isDigit = [] := by
    intro c cs hc
    simp [hc]
  cases pieces with
  | nil =>
    cases trail with
    | nil => rfl
    | cons c trail => exact hcons c _ (hspace c (htrail c List.mem_cons_self))
  | cons q pieces =>
    have hq := hvalid q List.mem_cons_self
    have hspell : spell (q :: pieces) ++ trail =
        q.gap ++ (q.token.spell ++ (spell pieces ++ trail)) := by
      simp [spell, Piece.spell]
    rw [hspell]
    cases hgap : q.gap with
    | cons c gap => exact hcons c _ (hspace c (hq.1 c (hgap ▸ List.mem_cons_self)))
    | nil =>
      have hsolid : q.token.isSolid = false := by
        rw [Bool.eq_false_iff]
        exact fun hsolid => hfirst q rfl hsolid hgap
      cases htoken : q.token with
      | symbol c =>
        have hc : c ∈ symbols := by simpa [htoken, Token.Valid] using hq.2
        refine hcons c _ ?_
        rw [Bool.eq_false_iff]
        intro hdigit
        exact absurd (isWordChar_of_isDigit hdigit) (by simp [(symbol_chars hc).2.1])
      | _ => rw [htoken] at hsolid; cases hsolid

/-- Writing question marks into a text writes them into its tokens. -/
lemma markNumbers_spell (hvalid : ∀ p ∈ pieces, p.Valid) (hsep : Separated pieces)
    (htrail : ∀ c ∈ trail, isSpace c = true) :
    markNumbers (spell pieces ++ trail) = spell (markPieces pieces) ++ trail := by
  induction pieces with
  | nil => exact markNumbers_of_notMem (notMem_of_isSpace (by decide) htrail)
  | cons p pieces ih =>
    rw [List.forall_mem_cons] at hvalid
    obtain ⟨hfirst, hsep⟩ := separated_cons.mp hsep
    have hgap : '$' ∉ p.gap := notMem_of_isSpace (by decide) hvalid.1.1
    have hspell : spell (p :: pieces) ++ trail =
        p.gap ++ (p.token.spell ++ (spell pieces ++ trail)) := by
      simp [spell, Piece.spell]
    have htoken : markNumbers (p.token.spell ++ (spell pieces ++ trail)) =
        p.token.mark.spell ++ markNumbers (spell pieces ++ trail) := by
      cases ht : p.token with
      | word text =>
        have hword : Token.Valid (.word text) := ht ▸ hvalid.1.2
        exact markNumbers_append_of_notMem (notMem_of_isWordChar (by decide) hword.2)
      | literal content =>
        have hopen : '$' ∉ ['\''] := by decide
        have hclose : ('\'' :: (spell pieces ++ trail)).takeWhile Char.isDigit = [] := rfl
        have hquote : markNumbers ('\'' :: (spell pieces ++ trail)) =
            '\'' :: markNumbers (spell pieces ++ trail) := markNumbers_append_of_notMem hopen
        calc markNumbers ((Token.literal content).spell ++ (spell pieces ++ trail))
            = markNumbers (['\''] ++ (escape content ++ '\'' :: (spell pieces ++ trail))) := by
              simp [Token.spell]
          _ = '\'' :: (escape (markNumbers content) ++
                '\'' :: markNumbers (spell pieces ++ trail)) := by
              rw [markNumbers_append_of_notMem hopen, markNumbers_append hclose, hquote,
                markNumbers_escape]
              rfl
          _ = (Token.literal content).mark.spell ++ markNumbers (spell pieces ++ trail) := by
              simp [Token.spell, Token.mark]
      | question => exact markNumbers_append_of_notMem (by decide)
      | numbered n =>
        exact markNumbers_numbered (takeWhile_spell hvalid.2 htrail fun q hq =>
          hfirst q hq (by rw [ht]; rfl))
      | symbol c =>
        have hc := symbol_chars (c := c) (ht ▸ hvalid.1.2 : Token.Valid (.symbol c))
        exact markNumbers_append_of_notMem (by simpa [Token.spell] using hc.2.2.2.2.symm)
    rw [hspell, markNumbers_append_of_notMem hgap, htoken, ih hvalid.2 hsep]
    simp [spell, markPieces, Piece.spell]

end Tokens

/-! ### Binding -/

/-- What SQLite reads: the n-th question mark is the n-th parameter. A `$n` is the name of another
parameter, for which no value is given. -/
def bindSqlite : ℕ → List Token → Option (List Token)
  | _, []                     => some []
  | index, .question :: ts    => (bindSqlite (index + 1) ts).map (.numbered index :: ·)
  | _, .numbered _ :: _       => none
  | index, .word text :: ts   => (bindSqlite index ts).map (.word text :: ·)
  | index, .literal text :: ts => (bindSqlite index ts).map (.literal text :: ·)
  | index, .symbol c :: ts    => (bindSqlite index ts).map (.symbol c :: ·)

/-- What PostgreSQL reads: `$n` is the n-th parameter, and a question mark is an operator. -/
def bindPg (tokens : List Token) : Option (List Token) :=
  if .question ∈ tokens then none else some tokens

/-- The placeholders of a statement, numbered in the order in which they stand. -/
def inSequence : ℕ → List Token → List Token
  | _, []                     => []
  | index, .question :: ts    => .numbered index :: inSequence (index + 1) ts
  | index, .numbered _ :: ts  => .numbered index :: inSequence (index + 1) ts
  | index, .word text :: ts   => .word text :: inSequence index ts
  | index, .literal text :: ts => .literal (markNumbers text) :: inSequence index ts
  | index, .symbol c :: ts    => .symbol c :: inSequence index ts

def Token.isPlaceholder : Token → Bool
  | .question   => true
  | .numbered _ => true
  | _           => false

def placeholders (tokens : List Token) : List Token := tokens.filter Token.isPlaceholder

/-- No literal holds a question mark or a `$` before a digit. -/
def Token.Clean : Token → Prop
  | .literal content => '?' ∉ content ∧ dollarNumber.test content = false
  | _                => True

instance (t : Token) : Decidable t.Clean :=
  match t with
  | .literal content =>
    inferInstanceAs (Decidable ('?' ∉ content ∧ dollarNumber.test content = false))
  | .word _     => inferInstanceAs (Decidable True)
  | .symbol _   => inferInstanceAs (Decidable True)
  | .question   => inferInstanceAs (Decidable True)
  | .numbered _ => inferInstanceAs (Decidable True)

/-- The placeholders are question marks followed by the numbers that go on counting. -/
def InOrder (tokens : List Token) : Prop :=
  ∃ marks numbers, placeholders tokens =
    List.replicate marks .question ++ (List.range' (marks + 1) numbers).map .numbered

section Binding

variable {index k : ℕ} {tokens : List Token}

@[simp] lemma placeholders_nil : placeholders [] = [] := rfl

@[simp] lemma placeholders_question :
    placeholders (.question :: tokens) = .question :: placeholders tokens := rfl

@[simp] lemma placeholders_numbered (n : ℕ) :
    placeholders (.numbered n :: tokens) = .numbered n :: placeholders tokens := rfl

lemma bindSqlite_mark :
    bindSqlite index (tokens.map Token.mark) = some (inSequence index tokens) := by
  induction tokens generalizing index with
  | nil => rfl
  | cons t tokens ih => cases t <;> simp [Token.mark, bindSqlite, inSequence, ih]

lemma bindPg_numberTokens : bindPg (numberTokens index tokens) = some (numberTokens index tokens) := by
  refine if_neg ?_
  induction tokens generalizing index with
  | nil => exact List.not_mem_nil
  | cons t tokens ih =>
    rw [numberTokens, List.mem_cons, not_or]
    exact ⟨by cases t <;> nofun, ih⟩

/-- Both rewritings leave a literal the same only if they leave it as it is. -/
lemma numberFrom_eq_markNumbers_iff {content : List Char} :
    numberFrom index content = markNumbers content ↔
      '?' ∉ content ∧ dollarNumber.test content = false := by
  constructor
  · intro h
    have htest : dollarNumber.test content = false := by
      rw [Bool.eq_false_iff]
      intro htest
      have hmem : '?' ∈ markNumbers content :=
        Pattern.mem_replaceAll_of_test htest List.mem_cons_self
      exact question_notMem_numberFrom (h ▸ hmem)
    rw [markNumbers, Pattern.replaceAll_of_not_test htest] at h
    exact ⟨h ▸ question_notMem_numberFrom, htest⟩
  · rintro ⟨hmark, htest⟩
    rw [markNumbers, Pattern.replaceAll_of_not_test htest, numberFrom_of_notMem hmark]

/-- A token that is no placeholder is read alike exactly when it is clean. -/
lemma numberTokens_cons_eq_iff {t : Token} (h : t.isPlaceholder = false) :
    numberTokens k (t :: tokens) = inSequence index (t :: tokens) ↔
      t.Clean ∧ numberTokens k tokens = inSequence index tokens := by
  cases t with
  | word text | symbol c =>
    simp only [numberTokens, Token.numberFrom, Token.marks, inSequence, List.cons.injEq, true_and,
      Nat.add_zero, Token.Clean]
  | literal content =>
    simp only [numberTokens, Token.numberFrom, Token.marks, inSequence, List.cons.injEq,
      Token.literal.injEq, numberFrom_eq_markNumbers_iff, Token.Clean]
    refine and_congr_right fun hclean => ?_
    rw [List.count_eq_zero.mpr hclean.1, Nat.add_zero]
  | question | numbered n => cases h

/-- Once a number has been read, PostgreSQL counts behind SQLite. -/
lemma numberTokens_eq_inSequence_of_lt (hlt : k < index) :
    numberTokens k tokens = inSequence index tokens ↔
      (∀ t ∈ tokens, t.Clean) ∧ ∃ numbers, placeholders tokens =
        (List.range' index numbers).map .numbered := by
  induction tokens generalizing k index with
  | nil => exact iff_of_true rfl ⟨List.forall_mem_nil _, 0, rfl⟩
  | cons t tokens ih =>
    rw [List.forall_mem_cons]
    cases t with
    | word | symbol | literal =>
      rw [numberTokens_cons_eq_iff rfl, ih hlt, ← and_assoc]
      rfl
    | question =>
      simp only [numberTokens, Token.numberFrom, Token.marks, inSequence, List.cons.injEq,
        Token.numbered.injEq]
      refine iff_of_false (fun h => absurd h.1 hlt.ne) ?_
      rintro ⟨-, numbers, h⟩
      cases numbers <;> simp [List.range'_succ] at h
    | numbered n =>
      simp only [numberTokens, Token.numberFrom, Token.marks, inSequence, List.cons.injEq,
        Token.numbered.injEq, Nat.add_zero, Token.Clean, true_and]
      rw [ih (Nat.lt_succ_of_lt hlt), and_left_comm]
      refine and_congr_right fun _ => ⟨?_, ?_⟩
      · rintro ⟨rfl, numbers, h⟩
        exact ⟨numbers + 1, by simp [List.range'_succ, h]⟩
      · rintro ⟨numbers, h⟩
        cases numbers with
        | zero => simp at h
        | succ numbers =>
          simp only [placeholders_numbered, List.range'_succ, List.map_cons,
            List.cons.injEq, Token.numbered.injEq] at h
          exact ⟨h.1, numbers, h.2⟩

/-- While only question marks have been read, both count alike. -/
lemma numberTokens_eq_inSequence :
    numberTokens k tokens = inSequence k tokens ↔
      (∀ t ∈ tokens, t.Clean) ∧ ∃ marks numbers, placeholders tokens =
        List.replicate marks .question ++ (List.range' (k + marks) numbers).map .numbered := by
  induction tokens generalizing k with
  | nil => exact iff_of_true rfl ⟨List.forall_mem_nil _, 0, 0, rfl⟩
  | cons t tokens ih =>
    rw [List.forall_mem_cons]
    cases t with
    | word | symbol | literal =>
      rw [numberTokens_cons_eq_iff rfl, ih, ← and_assoc]
      rfl
    | question =>
      simp only [numberTokens, Token.numberFrom, Token.marks, inSequence, List.cons.injEq, true_and,
        Token.Clean]
      rw [ih]
      refine and_congr_right fun _ => ⟨?_, ?_⟩
      · rintro ⟨marks, numbers, h⟩
        refine ⟨marks + 1, numbers, ?_⟩
        simp [h, List.replicate_succ, Nat.add_assoc, Nat.add_comm 1]
      · rintro ⟨marks, numbers, h⟩
        cases marks with
        | zero => cases numbers <;> simp [List.range'_succ] at h
        | succ marks =>
          refine ⟨marks, numbers, ?_⟩
          simpa [List.replicate_succ, Nat.add_assoc, Nat.add_comm 1] using h
    | numbered n =>
      simp only [numberTokens, Token.numberFrom, Token.marks, inSequence, List.cons.injEq,
        Token.numbered.injEq, Nat.add_zero, Token.Clean, true_and]
      rw [numberTokens_eq_inSequence_of_lt (Nat.lt_succ_self k), and_left_comm]
      refine and_congr_right fun _ => ⟨?_, ?_⟩
      · rintro ⟨rfl, numbers, h⟩
        exact ⟨0, numbers + 1, by simp [List.range'_succ, h]⟩
      · rintro ⟨marks, numbers, h⟩
        cases marks with
        | succ marks => simp [List.replicate_succ] at h
        | zero =>
          cases numbers with
          | zero => simp at h
          | succ numbers =>
            simp only [placeholders_numbered, List.replicate_zero,
              List.nil_append, Nat.add_zero, List.range'_succ, List.map_cons, List.cons.injEq,
              Token.numbered.injEq] at h
            exact ⟨h.1, numbers, h.2⟩

/-- The engines read a statement alike exactly when its literals are clean and its placeholders are
in order. -/
theorem numberTokens_eq_inSequence_iff :
    numberTokens 1 tokens = inSequence 1 tokens ↔ (∀ t ∈ tokens, t.Clean) ∧ InOrder tokens := by
  simp only [numberTokens_eq_inSequence, InOrder, Nat.add_comm 1]

end Binding

end SqlText

end CtrlRecovery
