import CtrlRecovery.Db.NormalizeSql

/-!
# The statement that PostgreSQL gets

Where no pattern matches elsewhere, `normalizeSql` makes of the text of a statement the text of
another: the `OR` of an `INSERT` is taken out, a conflict clause is written behind it if the tests say
so, and the question marks are numbered (`normalizeSql_postgreSQL`).

A primary key that numbers its rows is written `BIGSERIAL PRIMARY KEY` for PostgreSQL. The statement
with these words in its place is a statement too, and `normalizeSql` makes the same text of both
(`normalizeSql_serial`).
-/

namespace CtrlRecovery

open Core SqlText

namespace DatabaseAdapter

/-! ### Characters of statements -/

lemma isWhitespace_of_isSpace {c : Char} (h : isSpace c = true) : Js.isWhitespace c = true := by
  rw [isSpace, decide_eq_true_eq] at h
  simp only [List.mem_cons, List.not_mem_nil, or_false] at h
  obtain rfl | rfl | rfl | rfl | rfl := h <;> decide

lemma isWhitespace_of_isWordChar {c : Char} (h : isWordChar c = true) :
    Js.isWhitespace c = false := by
  refine Js.isWhitespace_of_printable ?_
  simp only [isWordChar, Char.isAlphanum, Char.isAlpha, Char.isUpper, Char.isLower, Char.isDigit,
    Bool.or_eq_true, Bool.and_eq_true, decide_eq_true_eq, beq_iff_eq, ge_iff_le,
    UInt32.le_iff_toNat_le] at h
  rw [Char.toNat]
  obtain ((⟨hl, hu⟩ | ⟨hl, hu⟩) | ⟨hl, hu⟩) | rfl := h
  · exact ⟨le_trans (by decide) hl, le_trans hu (by decide)⟩
  · exact ⟨le_trans (by decide) hl, le_trans hu (by decide)⟩
  · exact ⟨le_trans (by decide) hl, le_trans hu (by decide)⟩
  · decide

lemma isWhitespace_of_mem_symbols {c : Char} (h : c ∈ symbols) : Js.isWhitespace c = false := by
  have hall : ∀ d ∈ symbols, Js.isWhitespace d = false := by decide
  exact hall c h

/-- The last character of a token is no white space, and it is `;` only in the terminator. -/
lemma exists_spell_eq_concat {t : Token} (ht : t.Valid) :
    ∃ cs c, t.spell = cs ++ [c] ∧ Js.isWhitespace c = false ∧ (t ≠ .symbol ';' → c ≠ ';') := by
  cases t with
  | word text =>
    obtain ⟨hne, hword⟩ := ht
    refine ⟨text.dropLast, text.getLast hne, (List.dropLast_append_getLast hne).symm, ?_, fun _ => ?_⟩
    · exact isWhitespace_of_isWordChar (hword _ (List.getLast_mem hne))
    · intro heq
      exact absurd (heq ▸ hword _ (List.getLast_mem hne)) (by decide)
  | literal content => exact ⟨'\'' :: escape content, '\'', rfl, by decide, fun _ => by decide⟩
  | question => exact ⟨[], '?', rfl, by decide, fun _ => by decide⟩
  | numbered n =>
    have hne : Nat.toDigits 10 n ≠ [] := Nat.toDigits_ne_nil
    have hdigit : ((Nat.toDigits 10 n).getLast hne).isDigit = true :=
      Nat.isDigit_of_mem_toDigits (by decide) (by decide) (List.getLast_mem hne)
    refine ⟨'$' :: (Nat.toDigits 10 n).dropLast, (Nat.toDigits 10 n).getLast hne, ?_, ?_, fun _ => ?_⟩
    · rw [List.cons_append, List.dropLast_append_getLast, Token.spell]
    · exact isWhitespace_of_isWordChar (isWordChar_of_isDigit hdigit)
    · intro heq
      exact absurd (heq ▸ hdigit) (by decide)
  | symbol c =>
    exact ⟨[], c, rfl, isWhitespace_of_mem_symbols ht, fun hne heq => hne (by rw [heq])⟩

/-! ### Pieces -/

lemma spell_append (ps qs : List Piece) : spell (ps ++ qs) = spell ps ++ spell qs :=
  List.flatMap_append

lemma separated_append {ps qs : List Piece} (hps : Separated ps) (hqs : Separated qs)
    (h : ∀ q ∈ qs.head?, q.token.isSolid = true → q.gap ≠ []) : Separated (ps ++ qs) := by
  induction ps with
  | nil => exact hqs
  | cons p ps ih =>
    obtain ⟨hfirst, hps⟩ := separated_cons.mp hps
    refine separated_cons.mpr ⟨?_, ih hps⟩
    cases ps with
    | nil => exact fun q hq _ => h q hq
    | cons p' ps => exact hfirst

namespace Statement

variable (st : Statement)

lemma separated_ending : Separated (st.pieces ++ st.ending) := by
  refine separated_append st.separated ?_ ?_
  · rw [ending]
    cases st.terminator <;> simp [Separated]
  · rw [ending]
    cases st.terminator with
    | none =>
      intro q hq
      cases hq
    | some gap =>
      intro q hq hsolid
      cases hq
      cases hsolid

lemma valid_ending : ∀ p ∈ st.pieces ++ st.ending, p.Valid := by
  intro p hp
  obtain hp | hp := List.mem_append.mp hp
  · exact (st.valid p hp).1
  · obtain ⟨gap, hgap, rfl⟩ := List.mem_map.mp hp
    exact ⟨st.terminator_spaces gap (by simpa using hgap), by simp [Token.Valid, symbols]⟩

end Statement

/-! ### A statement without its `OR` -/

lemma insertOr?_eq_some {tokens : List Token} {or : InsertOr} (h : insertOr? tokens = some or) :
    ∃ ts, tokens = .word "INSERT".toList :: .word "OR".toList :: .word or.word ::
      .word "INTO".toList :: ts := by
  rw [insertOr?.eq_def] at h
  split at h
  · split_ifs at h with hwords hignore hreplace
    · cases h
      obtain ⟨rfl, rfl, rfl⟩ := hwords
      exact ⟨_, by rw [hignore]⟩
    · cases h
      obtain ⟨rfl, rfl, rfl⟩ := hwords
      exact ⟨_, by rw [hreplace]⟩
  · cases h

lemma fold_eq_word {t : Token} {text : List Char} (h : fold t = .word text) :
    ∃ text', t = .word text' ∧ text'.map Char.toUpper = text := by
  cases t with
  | word text' => exact ⟨text', rfl, Token.word.inj h⟩
  | literal | question | numbered | symbol => cases h

/-- The words at the start of an `INSERT OR`. -/
lemma Statement.exists_head {st : Statement} {or : InsertOr} (h : st.insertOr = some or) :
    ∃ g₁ w₁ g₂ w₂ g₃ w₃ g₄ w₄ rest,
      st.pieces = ⟨g₁, .word w₁⟩ :: ⟨g₂, .word w₂⟩ :: ⟨g₃, .word w₃⟩ :: ⟨g₄, .word w₄⟩ :: rest ∧
        w₁.map Char.toUpper = "INSERT".toList ∧ w₂.map Char.toUpper = "OR".toList ∧
        w₃.map Char.toUpper = or.word ∧ w₄.map Char.toUpper = "INTO".toList := by
  obtain ⟨ts, hts⟩ := insertOr?_eq_some h
  rw [Statement.tokens, List.map_map] at hts
  obtain ⟨p₁, ps, hpieces, h₁, hts⟩ := List.map_eq_cons_iff.mp hts
  obtain ⟨p₂, ps, rfl, h₂, hts⟩ := List.map_eq_cons_iff.mp hts
  obtain ⟨p₃, ps, rfl, h₃, hts⟩ := List.map_eq_cons_iff.mp hts
  obtain ⟨p₄, rest, rfl, h₄, -⟩ := List.map_eq_cons_iff.mp hts
  obtain ⟨w₁, ht₁, hw₁⟩ := fold_eq_word h₁
  obtain ⟨w₂, ht₂, hw₂⟩ := fold_eq_word h₂
  obtain ⟨w₃, ht₃, hw₃⟩ := fold_eq_word h₃
  obtain ⟨w₄, ht₄, hw₄⟩ := fold_eq_word h₄
  refine ⟨p₁.gap, w₁, p₂.gap, w₂, p₃.gap, w₃, p₄.gap, w₄, rest, ?_, hw₁, hw₂, hw₃, hw₄⟩
  rw [hpieces, ← ht₁, ← ht₂, ← ht₃, ← ht₄]

lemma Statement.insertPieces_of_none {st : Statement} (h : st.insertOr = none) :
    st.insertPieces = st.pieces := by
  rw [Statement.insertPieces, h]

/-- The statement without its `OR`. -/
def Statement.withoutOr (st : Statement) : Statement where
  pieces := st.insertPieces
  terminator := st.terminator
  trail := st.trail
  valid := by
    cases hor : st.insertOr with
    | none => rw [st.insertPieces_of_none hor]; exact st.valid
    | some or =>
      obtain ⟨g₁, w₁, g₂, w₂, g₃, w₃, g₄, w₄, rest, hpieces, -⟩ := st.exists_head hor
      have hvalid := st.valid
      simp only [Statement.insertPieces, hor, hpieces, List.drop_succ_cons, List.drop_zero,
        List.forall_mem_cons] at hvalid ⊢
      obtain ⟨⟨hfirst, -⟩, -, -, -, hrest⟩ := hvalid
      exact ⟨⟨⟨hfirst.1, by decide, by decide⟩, by decide⟩,
        ⟨⟨by decide, by decide, by decide⟩, by decide⟩, hrest⟩
  separated := by
    cases hor : st.insertOr with
    | none => rw [st.insertPieces_of_none hor]; exact st.separated
    | some or =>
      obtain ⟨g₁, w₁, g₂, w₂, g₃, w₃, g₄, w₄, rest, hpieces, -⟩ := st.exists_head hor
      have hseparated := st.separated
      simp only [Statement.insertPieces, hor, hpieces, List.drop_succ_cons, List.drop_zero,
        separated_cons] at hseparated ⊢
      obtain ⟨-, -, -, hrest⟩ := hseparated
      exact ⟨by simp, hrest⟩
  terminator_spaces := st.terminator_spaces
  trail_spaces := st.trail_spaces

lemma Statement.text_withoutOr (st : Statement) : st.withoutOr.text = st.insertText := rfl

/-! ### The head of an `INSERT OR` -/

lemma matchWord_map {text w rest : List Char} (h : text.map Char.toUpper = w) :
    matchWord w (text ++ rest) = some rest := by
  subst h
  induction text with
  | nil => rfl
  | cons c text ih => simpa [matchWord] using ih

lemma matchPhrase_word {text w w' gap rest : List Char} {ws : List (List Char)}
    (h : text.map Char.toUpper = w) (hne : gap ≠ []) (hgap : ∀ c ∈ gap, isSpace c = true)
    (hrest : rest.dropWhile Js.isWhitespace = rest) :
    matchPhrase (w :: w' :: ws) (text ++ (gap ++ rest)) = matchPhrase (w' :: ws) rest := by
  obtain ⟨c, gap, rfl⟩ := List.exists_cons_of_ne_nil hne
  rw [List.forall_mem_cons] at hgap
  have hdrop : (gap ++ rest).dropWhile Js.isWhitespace = rest := by
    rw [List.dropWhile_append, List.dropWhile_eq_nil_iff.mpr fun c hc =>
      isWhitespace_of_isSpace (hgap.2 c hc)]
    exact hrest
  rw [matchPhrase, matchWord_map h]
  · simp [isWhitespace_of_isSpace hgap.1, hdrop]
  · simp

lemma dropWhile_word {text rest : List Char} (ht : Token.Valid (.word text)) :
    (text ++ rest).dropWhile Js.isWhitespace = text ++ rest := by
  obtain ⟨c, text, rfl⟩ := List.exists_cons_of_ne_nil ht.1
  have hc := isWhitespace_of_isWordChar (ht.2 c List.mem_cons_self)
  simp [hc]

lemma matchPhrase_space {w c : Char} {word cs : List Char} {ws : List (List Char)} (hw : w = 'I')
    (hc : isSpace c = true) : matchPhrase ((w :: word) :: ws) (c :: cs) = none := by
  have hne : c.toUpper ≠ w := by
    rw [isSpace, decide_eq_true_eq] at hc
    simp only [List.mem_cons, List.not_mem_nil, or_false] at hc
    obtain rfl | rfl | rfl | rfl | rfl := hc <;> rw [hw] <;> decide
  have hword : matchWord (w :: word) (c :: cs) = none := if_neg hne
  cases ws with
  | nil => exact hword
  | cons w' ws =>
    rw [matchPhrase, hword]
    simp

/-- The pattern for the `OR` of an `INSERT`. -/
def InsertOr.pattern : InsertOr → Pattern Char
  | .ignore  => insertOrIgnore
  | .replace => insertOrReplace

lemma InsertOr.rest?_pattern (or : InsertOr) (cs : List Char) :
    or.pattern.rest? cs =
      matchPhrase ["INSERT".toList, "OR".toList, or.word, "INTO".toList] cs := by
  cases or <;> rfl

/-- The text of an `INSERT OR`: its head, from which the code makes `INSERT INTO`, after white space. A
pattern whose first word clashes with the words of the head takes nothing from it. -/
structure Statement.HasHead (st : Statement) (or : InsertOr) (lead head tail : List Char) : Prop where
  text : st.text = lead ++ (head ++ tail)
  insertText : st.insertText = lead ++ ("INSERT INTO".toList ++ tail)
  spaces : ∀ c ∈ lead, isSpace c = true
  matched : ∀ tail, or.pattern.rest? (head ++ tail) = some tail
  skipped : ∀ {p : Pattern Char} {d v}, (∀ c, isSpace c = true → c.toUpper ≠ d) →
    (∀ cs, matchWord (d :: v) cs = none → p.rest? cs = none) →
    (∀ word ∈ ["INSERT".toList, "OR".toList, or.word, "INTO".toList], ∀ tail ∈ word.tails,
      tail ≠ [] → clash (d :: v) tail = true) → p.Skips head

lemma Statement.exists_hasHead {st : Statement} {or : InsertOr} (h : st.insertOr = some or) :
    ∃ lead head tail, st.HasHead or lead head tail := by
  obtain ⟨g₁, w₁, g₂, w₂, g₃, w₃, g₄, w₄, rest, hpieces, hw₁, hw₂, hw₃, hw₄⟩ := st.exists_head h
  have hvalid := st.valid
  have hseparated := st.separated
  rw [hpieces] at hvalid hseparated
  simp only [List.forall_mem_cons] at hvalid
  obtain ⟨⟨⟨hg₁, hv₁⟩, -⟩, ⟨⟨hg₂, hv₂⟩, -⟩, ⟨⟨hg₃, hv₃⟩, -⟩, ⟨⟨hg₄, hv₄⟩, -⟩, -⟩ := hvalid
  simp only [separated_cons, List.head?_cons, Option.mem_some_iff, forall_eq'] at hseparated
  obtain ⟨hs₂, hs₃, hs₄, -⟩ := hseparated
  refine ⟨g₁, w₁ ++ (g₂ ++ (w₂ ++ (g₃ ++ (w₃ ++ (g₄ ++ w₄))))), spell (rest ++ st.ending) ++ st.trail,
    ?_, ?_, hg₁, fun tail => ?_, fun {p d v} hd hp hclash => ?_⟩
  · simp [Statement.text, hpieces, spell, Piece.spell, Token.spell]
  · simp [Statement.insertText, Statement.insertPieces, h, hpieces, spell, Piece.spell, Token.spell]
  · simp only [List.append_assoc]
    rw [or.rest?_pattern, matchPhrase_word hw₁ (hs₂ rfl rfl) hg₂ (dropWhile_word hv₂),
      matchPhrase_word hw₂ (hs₃ rfl rfl) hg₃ (dropWhile_word hv₃),
      matchPhrase_word hw₃ (hs₄ rfl rfl) hg₄ (dropWhile_word hv₄), matchPhrase, matchWord_map hw₄]
  · have hgap : ∀ gap : List Char, (∀ c ∈ gap, isSpace c = true) → p.Skips gap := fun gap hgap =>
      skips_of_forall_ne hp fun c hc => hd c (hgap c hc)
    have hword : ∀ {w word : List Char}, w.map Char.toUpper = word →
        word ∈ ["INSERT".toList, "OR".toList, or.word, "INTO".toList] → p.Skips w := fun hw hmem =>
      skips_of_clash hp hw (hclash _ hmem)
    exact (hword hw₁ (by simp)).append ((hgap g₂ hg₂).append ((hword hw₂ (by simp)).append
      ((hgap g₃ hg₃).append ((hword hw₃ (by simp)).append ((hgap g₄ hg₄).append
        (hword hw₄ (by simp)))))))

lemma InsertOr.skips_spaces (or : InsertOr) {cs : List Char} (h : ∀ c ∈ cs, isSpace c = true) :
    or.pattern.Skips cs := by
  intro tail htail hne ys
  obtain ⟨c, tail, rfl⟩ := List.exists_cons_of_ne_nil hne
  rw [or.rest?_pattern]
  exact matchPhrase_space rfl (h c (htail.subset List.mem_cons_self))

/-- The pattern finds the head of the statement, and no more. -/
lemma replaceAll_text {st : Statement} {or : InsertOr} (h : st.insertOr = some or)
    (htest : or.pattern.test st.insertText = false) :
    or.pattern.test st.text = true ∧
      or.pattern.replaceAll "INSERT INTO".toList st.text = st.insertText := by
  obtain ⟨lead, head, tail, hhead⟩ := st.exists_hasHead h
  have hrest : or.pattern.test tail = false := by
    refine Pattern.not_test_of_suffix ?_ htest
    rw [hhead.insertText]
    exact (List.suffix_append _ _).trans (List.suffix_append _ _)
  rw [hhead.text, hhead.insertText]
  constructor
  · rw [Pattern.test_eq_true_iff]
    exact ⟨_, List.suffix_append lead _, by rw [hhead.matched]; rfl⟩
  · rw [Pattern.replaceAll_append_of_skips (or.skips_spaces hhead.spaces),
      Pattern.replaceAll_of_rest? (hhead.matched tail), Pattern.replaceAll_of_not_test hrest]

/-- No match starts in `INSERT INTO`. -/
lemma InsertOr.skips_insertInto (or : InsertOr) : or.pattern.Skips "INSERT INTO".toList := by
  have htails : ∀ tail ∈ "INSERT INTO".toList.tails, tail ≠ [] →
      tail = "INSERT INTO".toList ∨ clash "INSERT".toList tail = true := by decide
  intro tail htail hne ys
  rw [or.rest?_pattern]
  obtain rfl | hclash := htails tail ((List.mem_tails ..).mpr htail) hne
  · have hor : matchPhrase ["OR".toList, or.word, "INTO".toList] ("INTO".toList ++ ys) = none :=
      matchPhrase_of_matchWord rfl
    exact hor
  · exact matchPhrase_of_matchWord (matchWord_of_clash hclash)

lemma count_text {st : Statement} {or : InsertOr} (h : st.insertOr = some or) :
    or.pattern.count st.text = or.pattern.count st.insertText + 1 := by
  obtain ⟨lead, head, tail, hhead⟩ := st.exists_hasHead h
  have hlead : or.pattern.Skips lead := or.skips_spaces hhead.spaces
  rw [hhead.text, hhead.insertText, Pattern.count_append_of_skips hlead,
    Pattern.count_append_of_skips hlead, Pattern.count_append_of_skips or.skips_insertInto,
    Pattern.count_of_rest? (hhead.matched tail)]

/-! ### A clause behind the statement -/

/-- A conflict clause, without the `;` at its end. -/
structure Clause where
  pieces : List Piece
  valid : ∀ p ∈ pieces, p.Valid ∧ p.token ≠ .symbol ';'
  separated : Separated pieces
  after_space : ∀ p ∈ pieces.head?, p.gap ≠ []

def Clause.after (clause : Clause) (gap : List Char) : List Piece :=
  match clause.pieces with
  | []      => []
  | p :: ps => ⟨gap ++ p.gap, p.token⟩ :: ps

def trimFirst : List Piece → List Piece
  | []      => []
  | p :: ps => ⟨[], p.token⟩ :: ps

section Clauses

variable {st : Statement} {clause : Clause} {gap : List Char}

lemma map_token_after : (clause.after gap).map Piece.token = clause.pieces.map Piece.token := by
  rw [Clause.after]
  cases clause.pieces <;> rfl

lemma map_token_trimFirst (ps : List Piece) :
    (trimFirst ps).map Piece.token = ps.map Piece.token := by
  cases ps <;> rfl

lemma spell_after (hne : clause.pieces ≠ []) :
    spell (clause.after gap) = gap ++ spell clause.pieces := by
  rw [Clause.after]
  cases hpieces : clause.pieces with
  | nil => exact absurd hpieces hne
  | cons p ps => simp [spell, Piece.spell]

lemma valid_after (hgap : ∀ c ∈ gap, isSpace c = true) :
    ∀ p ∈ clause.after gap, p.Valid ∧ p.token ≠ .symbol ';' := by
  have hvalid := clause.valid
  rw [Clause.after]
  cases hpieces : clause.pieces with
  | nil => nofun
  | cons p ps =>
    rw [hpieces, List.forall_mem_cons] at hvalid
    rw [List.forall_mem_cons]
    refine ⟨⟨⟨?_, hvalid.1.1.2⟩, hvalid.1.2⟩, hvalid.2⟩
    intro c hc
    obtain hc | hc := List.mem_append.mp hc
    · exact hgap c hc
    · exact hvalid.1.1.1 c hc

lemma separated_after : Separated (clause.after gap) := by
  have hseparated := clause.separated
  rw [Clause.after]
  cases hpieces : clause.pieces with
  | nil => exact .nil
  | cons p ps =>
    rw [hpieces, separated_cons] at hseparated
    rw [separated_cons]
    exact hseparated

lemma valid_trimFirst : ∀ p ∈ trimFirst st.pieces, p.Valid ∧ p.token ≠ .symbol ';' := by
  have hvalid := st.valid
  cases hpieces : st.pieces with
  | nil => nofun
  | cons p ps =>
    rw [hpieces, List.forall_mem_cons] at hvalid
    rw [trimFirst, List.forall_mem_cons]
    exact ⟨⟨⟨nofun, hvalid.1.1.2⟩, hvalid.1.2⟩, hvalid.2⟩

lemma separated_trimFirst : Separated (trimFirst st.pieces) := by
  have hseparated := st.separated
  cases hpieces : st.pieces with
  | nil => exact .nil
  | cons p ps =>
    rw [hpieces, separated_cons] at hseparated
    rw [trimFirst, separated_cons]
    exact hseparated

lemma spaces_terminator : ∀ c ∈ st.terminator.getD [], isSpace c = true := by
  have hspaces := st.terminator_spaces
  cases hterminator : st.terminator with
  | none => nofun
  | some gap => exact hspaces gap hterminator

lemma spaces_nil : ∀ c ∈ ([] : List Char), isSpace c = true := by decide

lemma spaces_empty : ∀ gap ∈ some ([] : List Char), ∀ c ∈ gap, isSpace c = true := by decide

end Clauses

/-- The statement, trimmed, with the clause behind it. -/
def Statement.append (st : Statement) (clause : Clause) : Statement where
  pieces := trimFirst st.pieces ++ clause.after (st.terminator.getD [])
  terminator := some []
  trail := []
  valid := by
    intro p hp
    obtain hp | hp := List.mem_append.mp hp
    · exact valid_trimFirst p hp
    · exact valid_after spaces_terminator p hp
  separated := by
    refine separated_append separated_trimFirst separated_after ?_
    have hspace := clause.after_space
    rw [Clause.after]
    cases hpieces : clause.pieces with
    | nil => nofun
    | cons p ps =>
      rintro q ⟨⟩ -
      exact fun hnil => hspace p (by rw [hpieces]; rfl) (List.append_eq_nil_iff.mp hnil).2
  terminator_spaces := spaces_empty
  trail_spaces := spaces_nil

lemma Statement.tokens_append (st : Statement) (clause : Clause) :
    (st.append clause).tokens = st.tokens ++ clause.pieces.map Piece.token := by
  simp [Statement.append, Statement.tokens, map_token_after, map_token_trimFirst]

lemma trim_spaces {lead cs trail : List Char} (hlead : ∀ c ∈ lead, isSpace c = true)
    (htrail : ∀ c ∈ trail, isSpace c = true) (hfirst : cs.dropWhile Js.isWhitespace = cs)
    (hlast : ∃ ys c, cs = ys ++ [c] ∧ Js.isWhitespace c = false) :
    (Js.trim (String.ofList (lead ++ (cs ++ trail)))).toList = cs := by
  obtain ⟨ys, c, hcs, hc⟩ := hlast
  have hne : cs ≠ [] := by simp [hcs]
  have hleft : (lead ++ (cs ++ trail)).dropWhile Js.isWhitespace = cs ++ trail := by
    have hempty : lead.dropWhile Js.isWhitespace = [] :=
      List.dropWhile_eq_nil_iff.mpr fun c hc => isWhitespace_of_isSpace (hlead c hc)
    rw [List.dropWhile_append, hempty, List.isEmpty_nil, if_pos rfl, List.dropWhile_append, hfirst,
      if_neg (by simpa using hne)]
  have hright : (trail.reverse ++ cs.reverse).dropWhile Js.isWhitespace = cs.reverse := by
    have hempty : trail.reverse.dropWhile Js.isWhitespace = [] :=
      List.dropWhile_eq_nil_iff.mpr fun c hc =>
        isWhitespace_of_isSpace (htrail c (List.mem_reverse.mp hc))
    rw [List.dropWhile_append, hempty, List.isEmpty_nil, if_pos rfl, hcs, List.reverse_append,
      List.reverse_singleton, List.singleton_append, List.dropWhile_cons_of_neg (by simp [hc])]
  rw [Js.trim, String.toList_ofList, String.toList_ofList, hleft, List.reverse_append, hright,
    List.reverse_reverse]

lemma dropWhile_spell {t : Token} (ht : t.Valid) (rest : List Char) :
    (t.spell ++ rest).dropWhile Js.isWhitespace = t.spell ++ rest := by
  cases t with
  | word text => exact dropWhile_word ht
  | literal content => rfl
  | question => rfl
  | numbered n => rfl
  | symbol c => simp [Token.spell, isWhitespace_of_mem_symbols ht]

lemma exists_spell_concat {pieces : List Piece} (hne : pieces ≠ [])
    (hvalid : ∀ p ∈ pieces, p.Valid ∧ p.token ≠ .symbol ';') :
    ∃ cs c, spell pieces = cs ++ [c] ∧ Js.isWhitespace c = false ∧ c ≠ ';' := by
  obtain ⟨hlast, hterminator⟩ := hvalid _ (List.getLast_mem hne)
  obtain ⟨cs, c, hspell, hc, hne'⟩ := exists_spell_eq_concat hlast.2
  refine ⟨spell pieces.dropLast ++ (pieces.getLast hne).gap ++ cs, c, ?_, hc, hne' hterminator⟩
  conv_lhs => rw [← List.dropLast_append_getLast hne]
  simp [spell, Piece.spell, hspell]

/-- A statement begins and ends with no white space once it is trimmed. -/
lemma trim_text {st : Statement} (hne : st.pieces ≠ []) :
    (Js.trim (String.ofList st.text)).toList = spell (trimFirst st.pieces) ++ spell st.ending := by
  obtain ⟨p, ps, hpieces⟩ := List.exists_cons_of_ne_nil hne
  have hp := (st.valid p (by rw [hpieces]; exact List.mem_cons_self)).1
  have hwritten : st.text =
      p.gap ++ ((spell (trimFirst st.pieces) ++ spell st.ending) ++ st.trail) := by
    simp [Statement.text, hpieces, trimFirst, spell, Piece.spell]
  rw [hwritten]
  refine trim_spaces hp.1 st.trail_spaces ?_ ?_
  · have hcons : spell (trimFirst st.pieces) ++ spell st.ending =
        p.token.spell ++ (spell ps ++ spell st.ending) := by
      simp [hpieces, trimFirst, spell, Piece.spell]
    rw [hcons, dropWhile_spell hp.2]
  · cases hend : st.terminator with
    | none =>
      have hending : spell st.ending = [] := by simp [Statement.ending, hend, spell]
      have hnetrim : trimFirst st.pieces ≠ [] := by simp [hpieces, trimFirst]
      obtain ⟨cs, c, hspell, hc, -⟩ := exists_spell_concat hnetrim valid_trimFirst
      exact ⟨cs, c, by rw [hending, hspell, List.append_nil], hc⟩
    | some gap =>
      have hending : spell st.ending = gap ++ [';'] := by
        simp [Statement.ending, hend, spell, Piece.spell, Token.spell]
      exact ⟨spell (trimFirst st.pieces) ++ gap, ';', by rw [hending, List.append_assoc], by decide⟩

lemma text_append {st : Statement} {clause : Clause} (hclause : clause.pieces ≠ []) :
    (st.append clause).text = spell (trimFirst st.pieces) ++ st.terminator.getD [] ++
      (spell clause.pieces ++ [';']) := by
  have htext : (st.append clause).text = spell (trimFirst st.pieces ++
      clause.after (st.terminator.getD []) ++ [⟨[], .symbol ';'⟩]) ++ [] := rfl
  have hterminator : spell [⟨[], .symbol ';'⟩] = [';'] := rfl
  rw [htext, List.append_nil, spell_append, spell_append, spell_after hclause, hterminator,
    List.append_assoc, List.append_assoc, List.append_assoc]

/-- The code writes a clause behind the text of a statement as behind the statement. -/
lemma withClause_text {st : Statement} {clause : Clause} {text : String} (hne : st.pieces ≠ [])
    (hclause : clause.pieces ≠ []) (htext : text.toList = spell clause.pieces ++ [';']) :
    withClause text st.text = (st.append clause).text := by
  have hnetrim : trimFirst st.pieces ≠ [] := by
    obtain ⟨p, ps, hpieces⟩ := List.exists_cons_of_ne_nil hne
    simp [hpieces, trimFirst]
  rw [withClause, trim_text hne, text_append hclause, htext]
  congr 1
  cases hend : st.terminator with
  | none =>
    have hending : spell st.ending = [] := by simp [Statement.ending, hend, spell]
    obtain ⟨cs, c, hspell, -, hc⟩ := exists_spell_concat hnetrim valid_trimFirst
    have hlast : (cs ++ [c]).getLast? ≠ some ';' := by
      rw [List.getLast?_concat]
      exact fun heq => hc (Option.some_inj.mp heq)
    rw [hending, List.append_nil, hspell, if_neg hlast, Option.getD_none, List.append_nil]
  | some gap =>
    have hending : spell st.ending = gap ++ [';'] := by
      simp [Statement.ending, hend, spell, Piece.spell, Token.spell]
    rw [hending, ← List.append_assoc, List.getLast?_concat, if_pos rfl, List.dropLast_concat]
    rfl

/-! ### The clauses of the code -/

def keyword (text : String) : Piece := ⟨[' '], .word text.toList⟩

def doNothingClause : Clause where
  pieces := [keyword "ON", keyword "CONFLICT", keyword "DO", keyword "NOTHING"]
  valid := by decide
  separated := by decide
  after_space := by decide

/-- `ON CONFLICT (key) DO UPDATE SET c = EXCLUDED.c, …`. -/
def updatePieces (key : String) (columns : List String) : List Piece :=
  [keyword "ON", keyword "CONFLICT", ⟨[' '], .symbol '('⟩, ⟨[], .word key.toList⟩, ⟨[], .symbol ')'⟩,
      keyword "DO", keyword "UPDATE", keyword "SET"] ++
    [⟨[], .symbol ','⟩].intercalate (columns.map fun column =>
      [keyword column, ⟨[' '], .symbol '='⟩, keyword "EXCLUDED", ⟨[], .symbol '.'⟩,
        ⟨[], .word column.toList⟩])

def updateOtpClause : Clause where
  pieces := updatePieces "email" ["otp", "expires_at", "created_at"]
  valid := by decide
  separated := by decide
  after_space := by decide

def updateTenantClause : Clause where
  pieces := updatePieces "id" ["status", "capacity_limit"]
  valid := by decide
  separated := by decide
  after_space := by decide

lemma toList_doNothing : doNothing.toList = spell doNothingClause.pieces ++ [';'] := by decide

lemma toList_updateOtp : updateOtp.toList = spell updateOtpClause.pieces ++ [';'] := by
  decide +kernel

lemma toList_updateTenant : updateTenant.toList = spell updateTenantClause.pieces ++ [';'] := by
  decide +kernel

/-- The clause that the code writes behind an `INSERT OR`. -/
def pgClause (st : Statement) : Option Clause :=
  match st.insertOr with
  | none    => none
  | some or =>
    if onConflict.test st.insertText then none
    else match or with
      | .ignore  => some doNothingClause
      | .replace =>
        if authOtps.test st.insertText then some updateOtpClause
        else if tenants.test st.insertText then some updateTenantClause
        else none

def pgStatement (st : Statement) : Statement :=
  match pgClause st with
  | none        => st.withoutOr
  | some clause => st.withoutOr.append clause

section Normalize

variable {st : Statement}

lemma insertPieces_ne_nil {or : InsertOr} (h : st.insertOr = some or) : st.withoutOr.pieces ≠ [] := by
  obtain ⟨g₁, w₁, g₂, w₂, g₃, w₃, g₄, w₄, rest, hpieces, -⟩ := st.exists_head h
  simp [Statement.withoutOr, Statement.insertPieces, h, hpieces]

/-- White space, what both texts begin with, and the end of the statement. -/
lemma exists_text_eq (hne : st.pieces ≠ []) : ∃ lead rest, (∀ c ∈ lead, isSpace c = true) ∧
    (∀ c ∈ rest, isSpace c = true ∨ c = ';') ∧
      st.text = lead ++ ((spell (trimFirst st.pieces) ++ st.terminator.getD []) ++ rest) := by
  obtain ⟨p, ps, hpieces⟩ := List.exists_cons_of_ne_nil hne
  refine ⟨p.gap, (if st.terminator.isSome then [';'] else []) ++ st.trail, ?_, ?_, ?_⟩
  · exact (st.valid p (by rw [hpieces]; exact List.mem_cons_self)).1.1
  · intro c hc
    obtain hc | hc := List.mem_append.mp hc
    · split_ifs at hc
      · exact .inr (List.mem_singleton.mp hc)
      · cases hc
    · exact .inl (st.trail_spaces c hc)
  · cases hend : st.terminator <;>
      simp [Statement.text, Statement.ending, hend, hpieces, trimFirst, spell, Piece.spell, Token.spell]

/-- The clause `ON CONFLICT DO NOTHING` makes no `INSERT OR REPLACE` of a statement. -/
lemma insertOrReplace_test_append (hne : st.pieces ≠ []) (h : insertOrReplace.test st.text = false) :
    insertOrReplace.test (st.append doNothingClause).text = false := by
  obtain ⟨lead, rest, -, -, htext⟩ := exists_text_eq hne
  have hclause : spell doNothingClause.pieces ++ [';'] =
      ' ' :: "ON CONFLICT DO NOTHING;".toList := by decide
  rw [text_append (by decide), hclause]
  refine phrase_test_append_space (by decide) (by decide) (by decide) ?_
  rw [htext] at h
  exact phrase_test_of_append (by decide) (Pattern.not_test_of_suffix (List.suffix_append _ _) h)

/-- What the code makes of a text in which the patterns match nowhere else. -/
theorem normalizeSql_postgreSQL (h : ¬ Touched st) :
    normalizeSql .postgreSQL st.text = numberFrom 1 (pgStatement st).text := by
  simp only [Touched, not_or, Bool.not_eq_true] at h
  obtain ⟨hauto, hpragma, hignore, hreplace⟩ := h
  rw [normalizeSql, Pattern.replaceAll_of_not_test hauto, Pattern.replaceAll_of_not_test hpragma]
  congr 1
  rw [pgStatement, pgClause]
  cases hor : st.insertOr with
  | none =>
    have htext : st.insertText = st.text := by
      rw [Statement.insertText, st.insertPieces_of_none hor, Statement.text]
    rw [hor, if_neg nofun] at hignore
    rw [normalizeIgnore, if_neg (by simp [hignore]), normalizeReplace,
      if_neg (by simp [← htext, hreplace])]
    exact htext.symm
  | some or =>
    have hne := insertPieces_ne_nil hor
    cases or with
    | ignore =>
      rw [hor, if_pos rfl] at hignore
      obtain ⟨htest, hreplaced⟩ := replaceAll_text hor hignore
      rw [InsertOr.pattern] at htest hreplaced
      rw [normalizeIgnore, if_pos htest, hreplaced]
      dsimp only
      split_ifs with hconflict
      · rw [normalizeReplace, if_neg (by simp [hreplace])]
        rfl
      · rw [← st.text_withoutOr, withClause_text hne (by decide) toList_doNothing, normalizeReplace,
          if_neg (by simp [insertOrReplace_test_append hne hreplace])]
    | replace =>
      rw [hor, if_neg (by decide)] at hignore
      obtain ⟨htest, hreplaced⟩ := replaceAll_text hor hreplace
      rw [InsertOr.pattern] at htest hreplaced
      rw [normalizeIgnore, if_neg (by simp [hignore]), normalizeReplace, if_pos htest, hreplaced]
      dsimp only
      split_ifs with hconflict hotps htenants
      · rfl
      · rw [← st.text_withoutOr, withClause_text hne (by decide) toList_updateOtp]
      · rw [← st.text_withoutOr, withClause_text hne (by decide) toList_updateTenant]
      · rfl

end Normalize

/-! ### PostgreSQL's words for a key -/

def serialKey : List Char := "BIGSERIAL PRIMARY KEY".toList

/-- The pieces with PostgreSQL's words for every numbered key; the first `skip` are dropped. -/
def serialPieces : ℕ → List Piece → List Piece
  | _, []             => []
  | skip + 1, _ :: ps => serialPieces skip ps
  | 0, p :: ps        =>
    if numberedKey .sqlite <+: (p :: ps).map fun q => fold q.token then
      ⟨p.gap, .word "BIGSERIAL".toList⟩ :: keyword "PRIMARY" :: keyword "KEY" :: serialPieces 3 ps
    else p :: serialPieces 0 ps

/-- Pieces in which some numbered keys are written for PostgreSQL. -/
inductive Rewords : List Piece → List Piece → Prop
  | nil : Rewords [] []
  | cons (p : Piece) {ps qs : List Piece} : Rewords ps qs → Rewords (p :: ps) (p :: qs)
  | key {p q r s : Piece} {ps qs : List Piece} :
      [p, q, r, s].map (fun piece => fold piece.token) = numberedKey .sqlite → Rewords ps qs →
      Rewords (p :: q :: r :: s :: ps)
        (⟨p.gap, .word "BIGSERIAL".toList⟩ :: keyword "PRIMARY" :: keyword "KEY" :: qs)

section Pieces

variable {ps qs : List Piece}

lemma exists_words_of_key {p q r s : Piece}
    (h : [p, q, r, s].map (fun piece => fold piece.token) = numberedKey .sqlite) :
    ∃ w₁ w₂ w₃ w₄, (p.token = .word w₁ ∧ q.token = .word w₂ ∧ r.token = .word w₃ ∧
      s.token = .word w₄) ∧ w₁.map Char.toUpper = "INTEGER".toList ∧
        w₂.map Char.toUpper = "PRIMARY".toList ∧ w₃.map Char.toUpper = "KEY".toList ∧
          w₄.map Char.toUpper = "AUTOINCREMENT".toList := by
  simp only [numberedKey, List.map_cons, List.map_nil, List.cons.injEq, and_true] at h
  obtain ⟨hp, hq, hr, hs⟩ := h
  obtain ⟨w₁, hp, hw₁⟩ := fold_eq_word hp
  obtain ⟨w₂, hq, hw₂⟩ := fold_eq_word hq
  obtain ⟨w₃, hr, hw₃⟩ := fold_eq_word hr
  obtain ⟨w₄, hs, hw₄⟩ := fold_eq_word hs
  exact ⟨w₁, w₂, w₃, w₄, ⟨hp, hq, hr, hs⟩, hw₁, hw₂, hw₃, hw₄⟩

lemma rewords_serialPieces (skip : ℕ) : Rewords (ps.drop skip) (serialPieces skip ps) := by
  induction ps generalizing skip with
  | nil => cases skip <;> exact .nil
  | cons p ps ih =>
    cases skip with
    | succ skip => exact ih skip
    | zero =>
      rw [serialPieces, List.drop_zero]
      split_ifs with hkey
      · obtain ⟨ts, hts⟩ := hkey
        obtain ⟨hp, hts⟩ := List.cons.inj hts
        obtain ⟨q, ps, rfl, hq, hts⟩ := List.map_eq_cons_iff.mp hts.symm
        obtain ⟨r, ps, rfl, hr, hts⟩ := List.map_eq_cons_iff.mp hts
        obtain ⟨s, ps, rfl, hs, -⟩ := List.map_eq_cons_iff.mp hts
        refine .key ?_ (ih 3)
        simp only [List.map_cons, List.map_nil, hq, hr, hs, ← hp]
        rfl
      · exact .cons p (ih 0)

lemma Rewords.valid (h : Rewords ps qs) (hvalid : ∀ p ∈ ps, p.Valid ∧ p.token ≠ .symbol ';') :
    ∀ q ∈ qs, q.Valid ∧ q.token ≠ .symbol ';' := by
  induction h with
  | nil => exact hvalid
  | cons p _ ih =>
    rw [List.forall_mem_cons] at hvalid ⊢
    exact ⟨hvalid.1, ih hvalid.2⟩
  | key _ _ ih =>
    simp only [List.forall_mem_cons] at hvalid ⊢
    obtain ⟨⟨hp, -⟩, -, -, -, hvalid⟩ := hvalid
    exact ⟨⟨⟨hp.1, by decide, by decide⟩, by decide⟩, ⟨⟨by decide, by decide, by decide⟩, by decide⟩,
      ⟨⟨by decide, by decide, by decide⟩, by decide⟩, ih hvalid⟩

lemma Rewords.head (h : Rewords ps qs) : ∀ q ∈ qs.head?, ∃ p ∈ ps.head?,
    q.gap = p.gap ∧ (q.token.isSolid = true → p.token.isSolid = true) := by
  cases h with
  | nil => nofun
  | cons p => exact fun q hq => ⟨q, hq, rfl, id⟩
  | @key p _ _ _ _ _ hkey =>
    rintro q ⟨⟩
    obtain ⟨w, -, -, -, ⟨hw, -⟩, -⟩ := exists_words_of_key hkey
    exact ⟨p, rfl, rfl, fun _ => by rw [hw]; rfl⟩

lemma Rewords.separated (h : Rewords ps qs) (hseparated : Separated ps) : Separated qs := by
  induction h with
  | nil => exact hseparated
  | @cons p ps qs h ih =>
    rw [separated_cons] at hseparated ⊢
    refine ⟨fun q hq hp hsolid => ?_, ih hseparated.2⟩
    obtain ⟨p', hp', hgap, hsolid'⟩ := h.head q hq
    rw [hgap]
    exact hseparated.1 p' hp' hp (hsolid' hsolid)
  | @key p q r s ps qs hkey h ih =>
    simp only [separated_cons] at hseparated
    obtain ⟨-, -, -, hs, hseparated⟩ := hseparated
    obtain ⟨-, -, -, w, ⟨-, -, -, hw⟩, -⟩ := exists_words_of_key hkey
    have hlast : ∀ q ∈ qs.head?, (keyword "KEY").token.isSolid = true → q.token.isSolid = true →
        q.gap ≠ [] := by
      intro q hq _ hsolid
      obtain ⟨p', hp', hgap, hsolid'⟩ := h.head q hq
      rw [hgap]
      exact hs p' hp' (by rw [hw]; rfl) (hsolid' hsolid)
    refine separated_cons.mpr ⟨by simp [keyword], separated_cons.mpr ⟨by simp [keyword], ?_⟩⟩
    exact separated_cons.mpr ⟨hlast, ih hseparated⟩

/-- The tokens have PostgreSQL's words for every numbered key. -/
lemma map_serialPieces (skip : ℕ) : (serialPieces skip ps).map (fun p => fold p.token) =
    replaceRun (numberedKey .sqlite) (numberedKey .postgreSQL) skip
      (ps.map fun p => fold p.token) := by
  induction ps generalizing skip with
  | nil => cases skip <;> rfl
  | cons p ps ih =>
    cases skip with
    | succ skip => exact ih skip
    | zero =>
      rw [serialPieces, List.map_cons, replaceRun]
      split_ifs
      · simp only [List.map_cons, ih]
        rfl
      · rw [List.map_cons, ih]

end Pieces

/-! ### The text that is rewritten is the same -/

section Texts

variable {ps qs : List Piece} {xs ys : List Char}

lemma serialKey_eq : serialKey =
    "BIGSERIAL".toList ++ ' ' :: ("PRIMARY".toList ++ ' ' :: "KEY".toList) := by decide

lemma rest?_autoincrement (cs : List Char) : autoincrement.rest? cs =
    matchPhrase ["INTEGER".toList, "PRIMARY".toList, "KEY".toList, "AUTOINCREMENT".toList] cs := rfl

lemma rest?_autoincrement_of_none (h : matchWord "INTEGER".toList xs = none) :
    autoincrement.rest? xs = none := matchPhrase_of_matchWord h

lemma Rewords.rewritten (h : Rewords ps qs) (hvalid : ∀ p ∈ ps, p.Valid)
    (hseparated : Separated ps) (tail : List Char) :
    autoincrement.Rewritten serialKey (spell ps ++ tail) (spell qs ++ tail) := by
  induction h with
  | nil => exact .refl _
  | @cons p ps qs _ ih =>
    rw [List.forall_mem_cons] at hvalid
    have hcons : ∀ ps, spell (p :: ps) ++ tail = p.spell ++ (spell ps ++ tail) := by simp [spell]
    rw [hcons, hcons]
    exact (ih hvalid.2 (separated_cons.mp hseparated).2).append_left p.spell
  | @key p q r s ps qs hkey _ ih =>
    obtain ⟨w₁, w₂, w₃, w₄, ⟨hp, hq, hr, hs⟩, hw₁, hw₂, hw₃, hw₄⟩ := exists_words_of_key hkey
    simp only [List.forall_mem_cons] at hvalid
    obtain ⟨hvp, hvq, hvr, hvs, hvalid⟩ := hvalid
    simp only [separated_cons, List.head?_cons, Option.mem_some_iff, forall_eq', hp, hq, hr,
      hs] at hseparated
    obtain ⟨hgq, hgr, hgs, -, hseparated⟩ := hseparated
    rw [Piece.Valid, hq] at hvq
    rw [Piece.Valid, hr] at hvr
    rw [Piece.Valid, hs] at hvs
    have hmatch : autoincrement.rest? (w₁ ++ (q.gap ++ (w₂ ++ (r.gap ++ (w₃ ++ (s.gap ++ (w₄ ++
        (spell ps ++ tail)))))))) = some (spell ps ++ tail) := by
      rw [rest?_autoincrement, matchPhrase_word hw₁ (hgq rfl rfl) hvq.1 (dropWhile_word hvq.2),
        matchPhrase_word hw₂ (hgr rfl rfl) hvr.1 (dropWhile_word hvr.2),
        matchPhrase_word hw₃ (hgs rfl rfl) hvs.1 (dropWhile_word hvs.2), matchPhrase,
        matchWord_map hw₄]
    have hkeys : spell (p :: q :: r :: s :: ps) ++ tail = p.gap ++ (w₁ ++ (q.gap ++ (w₂ ++ (r.gap ++
        (w₃ ++ (s.gap ++ (w₄ ++ (spell ps ++ tail)))))))) := by
      simp [spell, Piece.spell, Token.spell, hp, hq, hr, hs]
    have hserial : spell (⟨p.gap, .word "BIGSERIAL".toList⟩ :: keyword "PRIMARY" :: keyword "KEY" ::
        qs) ++ tail = p.gap ++ (serialKey ++ (spell qs ++ tail)) := by
      rw [serialKey_eq]
      simp [spell, Piece.spell, Token.spell, keyword]
    rw [hkeys, hserial]
    exact (Pattern.Rewritten.replace hmatch (ih hvalid hseparated)).append_left p.gap

lemma skips_serialKey : autoincrement.Skips serialKey :=
  skips_of_clash (fun _ => rest?_autoincrement_of_none) rfl (by decide)

lemma toUpper_of_isWhitespace {c : Char} (h : Js.isWhitespace c = true) : c.toUpper = c := by
  refine dif_neg fun hlower => ?_
  have hlower : c.isLower = true := by simpa [Char.isLower] using hlower
  have hword : isWordChar c = true := by simp [isWordChar, Char.isAlphanum, Char.isAlpha, hlower]
  rw [isWhitespace_of_isWordChar hword] at h
  cases h

lemma toUpper_ne_of_isWhitespace {c x : Char} (hx : Js.isWhitespace x = false)
    (h : Js.isWhitespace c = true) : c.toUpper ≠ x := by
  rw [toUpper_of_isWhitespace h]
  rintro rfl
  rw [hx] at h
  cases h

/-- A match goes across no key that is written for PostgreSQL. -/
lemma rel_rest?_autoincrement {x : Char} (h : autoincrement.Rewritten serialKey xs ys) :
    Option.Rel (autoincrement.Rewritten serialKey) (autoincrement.rest? (x :: xs))
      (autoincrement.rest? (x :: ys)) := by
  have hp : ∀ cs, matchWord "INTEGER".toList cs = none → autoincrement.rest? cs = none :=
    fun _ => rest?_autoincrement_of_none
  have hspace : ∀ c cs, Js.isWhitespace c = true → matchWord "INTEGER".toList (c :: cs) = none :=
    fun c cs hc => if_neg (toUpper_ne_of_isWhitespace (by decide) hc)
  have hserial : serialKey = 'B' :: "IGSERIAL PRIMARY KEY".toList := rfl
  rw [hserial] at h ⊢
  refine Pattern.Rewritten.rel_matchPhrase hp hspace (by decide) (by decide) ?_
  have hword : "INTEGER".toList = 'I' :: "NTEGER".toList := rfl
  rw [hword, matchWord, matchWord]
  split_ifs
  · exact Pattern.Rewritten.rel_matchWord hp (by decide) h
  · exact .none

end Texts

namespace Statement

variable (st : Statement)

/-- The statement with its numbered keys written for PostgreSQL. -/
def serial : Statement where
  pieces := serialPieces 0 st.pieces
  terminator := st.terminator
  trail := st.trail
  valid := (rewords_serialPieces 0).valid st.valid
  separated := (rewords_serialPieces 0).separated st.separated
  terminator_spaces := st.terminator_spaces
  trail_spaces := st.trail_spaces

lemma map_fold_serial : st.serial.tokens.map fold =
    replaceRun (numberedKey .sqlite) (numberedKey .postgreSQL) 0 (st.tokens.map fold) := by
  rw [tokens, tokens, List.map_map, List.map_map]
  exact map_serialPieces 0

end Statement

/-- `normalizeSql` makes the same of a statement and of the one with PostgreSQL's words. -/
theorem normalizeSql_serial (st : Statement) :
    normalizeSql .postgreSQL st.text = normalizeSql .postgreSQL st.serial.text := by
  have hrewritten : autoincrement.Rewritten serialKey st.text st.serial.text := by
    have hrewords : Rewords st.pieces (serialPieces 0 st.pieces) := rewords_serialPieces 0
    have hpieces := hrewords.rewritten (fun p hp => (st.valid p hp).1) st.separated
      (spell st.ending ++ st.trail)
    rw [← List.append_assoc, ← List.append_assoc, ← spell_append, ← spell_append] at hpieces
    exact hpieces
  have hsame := hrewritten.replaceAll_eq skips_serialKey fun _ _ _ => rel_rest?_autoincrement
  have hnormalize : ∀ text, normalizeSql .postgreSQL text = numberFrom 1 (normalizeReplace
      (normalizeIgnore (pragma.replaceAll [] (autoincrement.replaceAll serialKey text)))) :=
    fun _ => rfl
  rw [hnormalize, hnormalize, hsame]

/-! ### What a clause has to do -/

/-- The columns outside the primary key are those that the clause sets. -/
def Covers (t : TableDef) (key columns : List String) : Prop :=
  (key ⊆ t.primaryKey ∧ t.primaryKey ⊆ key) ∧ columns ⊆ t.columns ∧
    t.columns ⊆ t.primaryKey ++ columns

/-- The conflict clause of the statement, with its placeholders bound in the order of their places. -/
def Statement.clause (st : Statement) : List Token :=
  (Reading.of (markKeys .sqlite ((inSequence 1 st.tokens).map fold))).clause

/-- The row of the same key is treated as the `OR` of the statement says. -/
def Resolves (t : TableDef) (st : Statement) : Prop :=
  match st.insertOr with
  | none          => True
  | some .ignore  =>
    if st.clause = [] then onConflict.test st.serial.insertText = false else HandlesKey t st.clause
  | some .replace =>
    if st.clause = [] then
      onConflict.test st.serial.insertText = false ∧
        if authOtps.test st.serial.insertText = true then
          Covers t ["EMAIL"] ["OTP", "EXPIRES_AT", "CREATED_AT"]
        else tenants.test st.serial.insertText = true ∧ Covers t ["ID"] ["STATUS", "CAPACITY_LIMIT"]
    else HandlesKey t st.clause

end DatabaseAdapter

end CtrlRecovery
