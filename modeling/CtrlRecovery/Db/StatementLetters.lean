import CtrlRecovery.Db.PgStatement

/-!
# The letters of a statement

An engine reads every letter of its text in one of the tokens. What the rewriting puts in and takes out
is therefore counted in the tokens: two texts that are read alike have the same letters.
-/

namespace CtrlRecovery

open Core SqlText

namespace DatabaseAdapter

/-! ### Letters of tokens -/

/-- How often a letter stands in a token, in either case. -/
def tokenLetters (x : Char) : Token → ℕ
  | .word text       => letters x text
  | .literal content => letters x content
  | .symbol c        => letters x [c]
  | _                => 0

def lettersOf (x : Char) : List Token → ℕ
  | []      => 0
  | t :: ts => tokenLetters x t + lettersOf x ts

section Tokens

variable {x c : Char} {k : ℕ} {cs : List Char} {t : Token} {ts ts' : List Token}

@[simp] lemma lettersOf_nil : lettersOf x [] = 0 := rfl

@[simp] lemma lettersOf_cons : lettersOf x (t :: ts) = tokenLetters x t + lettersOf x ts := rfl

@[simp] lemma lettersOf_append : lettersOf x (ts ++ ts') = lettersOf x ts + lettersOf x ts' := by
  induction ts with
  | nil => simp
  | cons t ts ih => simp [ih, Nat.add_assoc]

lemma tokenLetters_fold : tokenLetters x (fold t) = tokenLetters x t := by
  cases t with
  | word text =>
    rw [fold, tokenLetters, tokenLetters, letters, letters, List.countP_map]
    exact List.countP_congr fun c _ => by simp
  | literal | question | numbered | symbol => rfl

lemma lettersOf_map_fold : lettersOf x (ts.map fold) = lettersOf x ts := by
  induction ts with
  | nil => rfl
  | cons t ts ih => rw [List.map_cons, lettersOf_cons, lettersOf_cons, tokenLetters_fold, ih]

variable (hx : x.isUpper = true)
include hx

lemma isAlpha_of_toUpper (h : c.toUpper = x) : c.isAlpha = true := by
  by_cases hlower : 'a'.val ≤ c.val ∧ c.val ≤ 'z'.val
  · have hlower : c.isLower = true := by simpa [Char.isLower] using hlower
    simp [Char.isAlpha, hlower]
  · rw [Char.toUpper, dif_neg hlower] at h
    simp [Char.isAlpha, h, hx]

lemma toUpper_ne_of_not_isAlpha (h : c.isAlpha = false) : c.toUpper ≠ x := fun heq => by
  rw [isAlpha_of_toUpper hx heq] at h
  cases h

lemma letters_cons_of_not_isAlpha (h : c.isAlpha = false) : letters x (c :: cs) = letters x cs := by
  rw [letters_cons, if_neg (toUpper_ne_of_not_isAlpha hx h), Nat.add_zero]

lemma letters_of_not_isAlpha (h : ∀ c ∈ cs, c.isAlpha = false) : letters x cs = 0 :=
  letters_eq_zero fun c hc => toUpper_ne_of_not_isAlpha hx (h c hc)

omit hx in
lemma not_isAlpha_of_isWhitespace (h : Js.isWhitespace c = true) : c.isAlpha = false := by
  rw [Bool.eq_false_iff]
  intro halpha
  have hword : isWordChar c = true := by simp [isWordChar, Char.isAlphanum, halpha]
  rw [isWhitespace_of_isWordChar hword] at h
  cases h

omit hx in
lemma not_isAlpha_of_isDigit (h : c.isDigit = true) : c.isAlpha = false := by
  have hnine : '9'.val.toNat = 57 := rfl
  have hcapital : 'A'.val.toNat = 65 := rfl
  have hsmall : 'a'.val.toNat = 97 := rfl
  simp only [Char.isDigit, Char.isAlpha, Char.isUpper, Char.isLower, Bool.and_eq_true,
    decide_eq_true_eq, Bool.or_eq_false_iff, Bool.and_eq_false_imp, decide_eq_false_iff_not,
    ge_iff_le, UInt32.le_iff_toNat_le] at h ⊢
  omega

lemma toUpper_ne_of_space (h : Js.isWhitespace c = true) : c.toUpper ≠ x :=
  toUpper_ne_of_not_isAlpha hx (not_isAlpha_of_isWhitespace h)

lemma letters_toDigits (n : ℕ) : letters x (Nat.toDigits 10 n) = 0 :=
  letters_of_not_isAlpha hx fun _ hc =>
    not_isAlpha_of_isDigit (Nat.isDigit_of_mem_toDigits (by decide) (by decide) hc)

lemma letters_numberFrom : letters x (numberFrom k cs) = letters x cs := by
  induction cs generalizing k with
  | nil => rfl
  | cons c cs ih =>
    rw [numberFrom]
    split_ifs with hmark
    · rw [letters_cons_of_not_isAlpha hx (by decide), letters_append, letters_toDigits hx, ih, hmark,
        letters_cons_of_not_isAlpha hx (by decide), Nat.zero_add]
    · rw [letters_cons, letters_cons, ih]

lemma letters_markNumbers : letters x (markNumbers cs) = letters x cs := by
  induction hlength : cs.length using Nat.strong_induction_on generalizing cs with
  | _ n ih =>
    cases cs with
    | nil => simp [markNumbers]
    | cons c cs =>
      have ihcs := ih cs.length (by simp [← hlength]) rfl
      by_cases hdollar : c = '$'
      · subst hdollar
        by_cases hnil : cs.takeWhile Char.isDigit = []
        · rw [markNumbers, Pattern.replaceAll_cons_of_none (rest?_dollar_of_nil hnil), letters_cons,
            letters_cons, ← ihcs, markNumbers]
        · have hlt : (cs.dropWhile Char.isDigit).length < n := by
            have := (List.dropWhile_suffix Char.isDigit (l := cs)).length_le
            rw [← hlength, List.length_cons]
            omega
          have hdigits : letters x (cs.takeWhile Char.isDigit) = 0 :=
            letters_of_not_isAlpha hx fun c hc => not_isAlpha_of_isDigit (List.mem_takeWhile_imp hc)
          have hspan := List.takeWhile_append_dropWhile (p := Char.isDigit) (l := cs)
          rw [markNumbers, Pattern.replaceAll_of_rest? (rest?_dollar hnil), List.singleton_append,
            letters_cons_of_not_isAlpha hx (by decide), letters_cons_of_not_isAlpha hx (by decide),
            ← markNumbers, ih _ hlt rfl]
          conv_rhs => rw [← hspan, letters_append, hdigits, Nat.zero_add]
      · rw [markNumbers, Pattern.replaceAll_cons_of_none (rest?_of_ne hdollar), letters_cons,
          letters_cons, ← ihcs, markNumbers]

lemma lettersOf_inSequence : lettersOf x (inSequence k ts) = lettersOf x ts := by
  induction ts generalizing k with
  | nil => rfl
  | cons t ts ih =>
    cases t <;> simp [inSequence, tokenLetters, ih, letters_markNumbers hx]

lemma letters_escape : letters x (escape cs) = letters x cs := by
  induction cs with
  | nil => rfl
  | cons c cs ih =>
    rw [escape]
    split_ifs with hquote
    · rw [hquote, letters_cons_of_not_isAlpha hx (by decide),
        letters_cons_of_not_isAlpha hx (by decide), letters_cons_of_not_isAlpha hx (by decide), ih]
    · rw [letters_cons, letters_cons, ih]

lemma letters_spell_token : letters x t.spell = tokenLetters x t := by
  cases t with
  | word text => rfl
  | literal content =>
    have hquote : letters x ['\''] = 0 := letters_of_not_isAlpha hx (by decide)
    rw [Token.spell, letters_cons_of_not_isAlpha hx (by decide), letters_append, letters_escape hx,
      hquote]
    rfl
  | question => exact letters_of_not_isAlpha hx (by decide)
  | numbered n =>
    rw [Token.spell, letters_cons_of_not_isAlpha hx (by decide), letters_toDigits hx]
    rfl
  | symbol c => rfl

lemma letters_spaces (h : ∀ c ∈ cs, isSpace c = true) : letters x cs = 0 :=
  letters_of_not_isAlpha hx fun c hc =>
    not_isAlpha_of_isWhitespace (isWhitespace_of_isSpace (h c hc))

lemma letters_spell {pieces : List Piece} (hvalid : ∀ p ∈ pieces, p.Valid) :
    letters x (spell pieces) = lettersOf x (pieces.map Piece.token) := by
  induction pieces with
  | nil => rfl
  | cons p pieces ih =>
    rw [List.forall_mem_cons] at hvalid
    have hspell : spell (p :: pieces) = p.gap ++ (p.token.spell ++ spell pieces) := by
      simp [spell, Piece.spell]
    rw [hspell, letters_append, letters_append, letters_spaces hx hvalid.1.1,
      letters_spell_token hx, ih hvalid.2, Nat.zero_add]
    rfl

end Tokens

/-! ### Letters that are read -/

section Reading

variable {x c : Char} {text tail : List Char} {ts : List Token} {lexer : Lexer}

def modeLetters (x : Char) : Mode → ℕ
  | .inWord text       => letters x text
  | .inLiteral content => letters x content
  | .atQuote content   => letters x content
  | _                  => 0

def lexerLetters (x : Char) (lexer : Lexer) : ℕ := lettersOf x lexer.tokens + modeLetters x lexer.mode

lemma lettersOf_flush (h : lexer.Closed) : lettersOf x lexer.flush = lexerLetters x lexer := by
  obtain ⟨tokens, mode⟩ := lexer
  cases mode with
  | inLiteral content => exact absurd rfl (h content)
  | between | inWord | atQuote | inNumber => simp [Lexer.flush, lexerLetters, modeLetters, tokenLetters]

variable (hx : x.isUpper = true)
include hx

lemma lexerLetters_start : lexerLetters x (Lexer.start ts c) = lettersOf x ts + letters x [c] := by
  have hnone : c.isAlpha = false → letters x [c] = 0 := fun hc => letters_cons_of_not_isAlpha hx hc
  rw [Lexer.start]
  split_ifs with hspace hword hquote hmark hdollar
  · rw [hnone (not_isAlpha_of_isWhitespace (isWhitespace_of_isSpace hspace))]
    rfl
  · rfl
  · rw [hnone (by rw [hquote]; decide)]
    rfl
  · rw [hnone (by rw [hmark]; decide)]
    simp [lexerLetters, modeLetters, tokenLetters]
  · rw [hnone (by rw [hdollar]; decide)]
    rfl
  · simp [lexerLetters, modeLetters, tokenLetters]

/-- A character is read into the tokens or into what is being read. -/
lemma lexerLetters_step : lexerLetters x (lexer.step c) = lexerLetters x lexer + letters x [c] := by
  obtain ⟨tokens, mode⟩ := lexer
  have hquote : letters x ['\''] = 0 := letters_of_not_isAlpha hx (by decide)
  have hstart : ∀ lexer : Lexer, lexer.Closed →
      lexerLetters x (Lexer.start lexer.flush c) = lexerLetters x lexer + letters x [c] :=
    fun lexer hclosed => by rw [lexerLetters_start hx, lettersOf_flush hclosed]
  cases mode with
  | between => exact hstart ⟨tokens, .between⟩ (by simp [Lexer.Closed])
  | inWord text =>
    simp only [Lexer.step]
    split_ifs
    · simp [lexerLetters, modeLetters, Nat.add_assoc]
    · exact hstart ⟨tokens, .inWord text⟩ (by simp [Lexer.Closed])
  | inLiteral content =>
    simp only [Lexer.step]
    split_ifs with hc
    · rw [hc, hquote]
      rfl
    · simp [lexerLetters, modeLetters, Nat.add_assoc]
  | atQuote content =>
    simp only [Lexer.step]
    split_ifs with hc
    · simp [lexerLetters, modeLetters, Nat.add_assoc]
    · exact hstart ⟨tokens, .atQuote content⟩ (by simp [Lexer.Closed])
  | inNumber digits =>
    simp only [Lexer.step]
    split_ifs with hc
    · have hdigit : letters x [c] = 0 := letters_cons_of_not_isAlpha hx (not_isAlpha_of_isDigit hc)
      rw [hdigit]
      rfl
    · exact hstart ⟨tokens, .inNumber digits⟩ (by simp [Lexer.Closed])

lemma lexerLetters_run : lexerLetters x (lexer.run text) = lexerLetters x lexer + letters x text := by
  induction text generalizing lexer with
  | nil => rfl
  | cons c text ih =>
    have hcons : letters x (c :: text) = letters x [c] + letters x text := @letters_append x [c] text
    rw [Lexer.run_cons, ih, lexerLetters_step hx, hcons, Nat.add_assoc]

omit hx in
lemma finish_eq_some (h : lexer.finish = some ts) : lexer.Closed ∧ ts = lexer.flush := by
  obtain ⟨tokens, mode⟩ := lexer
  cases mode with
  | inLiteral content => cases h
  | between | inWord | atQuote | inNumber => exact ⟨nofun, (Option.some_inj.mp h).symm⟩

lemma lettersOf_lex (h : lex text = some ts) : lettersOf x ts = letters x text := by
  obtain ⟨hclosed, rfl⟩ := finish_eq_some h
  rw [lettersOf_flush hclosed, lexerLetters_run hx]
  exact Nat.zero_add _

lemma lettersOf_dropTerminator : lettersOf x (dropTerminator ts) = lettersOf x ts := by
  have hterminator : tokenLetters x (.symbol ';') = 0 := letters_of_not_isAlpha hx (by decide)
  rw [dropTerminator]
  split_ifs with hlast
  · obtain ⟨ts', rfl⟩ := List.getLast?_eq_some_iff.mp hlast
    simp [hterminator]
  · rfl

omit hx in
lemma not_closed_run {content : List Char} (hmode : lexer.mode = .inLiteral content)
    (h : '\'' ∉ text) : ¬ (lexer.run text).Closed := by
  induction text generalizing lexer content with
  | nil => exact fun hclosed => hclosed content hmode
  | cons c text ih =>
    rw [List.mem_cons, not_or] at h
    rw [Lexer.run_cons]
    refine @ih _ (content ++ [c]) ?_ h.2
    obtain ⟨tokens, mode⟩ := lexer
    cases hmode
    simp only [Lexer.step, if_neg (Ne.symm h.1)]

omit hx in
/-- What is written behind a text, without quotes, is read as it was written. -/
lemma exists_of_lex_append {pieces : List Piece} (hvalid : ∀ p ∈ pieces, p.Valid)
    (hseparated : Separated pieces) (hfirst : ∀ p ∈ pieces.head?, p.gap ≠ [])
    (hquote : '\'' ∉ spell pieces) (h : lex (text ++ spell pieces) = some ts) :
    ∃ ts', ts = ts' ++ pieces.map Piece.token := by
  obtain ⟨hclosed, rfl⟩ := finish_eq_some h
  rw [Lexer.run_append] at hclosed ⊢
  have hopen : (Lexer.initial.run text).Closed := fun content hmode =>
    not_closed_run hmode hquote hclosed
  exact ⟨_, (hopen.run_spell hvalid hseparated fun p hp _ => .inl (hfirst p hp)).2⟩

end Reading

/-! ### Letters that are rewritten -/

/-- The letters of the `OR` of an `INSERT`. -/
def orLetters (x : Char) (or : InsertOr) : ℕ := letters x "OR".toList + letters x or.word

def keyLetters (x : Char) : ℕ := letters x "INTEGERPRIMARYKEYAUTOINCREMENT".toList

section Rewriting

variable {x : Char} {sql cs : List Char}

/-- The text without the `INSERT OR`s of a kind. -/
def InsertOr.dropAll (or : InsertOr) (sql : List Char) : List Char :=
  or.pattern.replaceAll "INSERT INTO".toList sql

lemma letters_capitals (h : ∀ c ∈ cs, c.toUpper = c) : letters x cs = cs.count x :=
  List.countP_congr fun c hc => by simp [h c hc]

variable (hx : x.isUpper = true)
include hx

lemma letters_autoincrement :
    letters x (autoincrement.replaceAll serialKey sql) + autoincrement.count sql * keyLetters x =
      letters x sql + autoincrement.count sql * letters x serialKey := by
  have hkey : keyLetters x = (["INTEGER", "PRIMARY", "KEY", "AUTOINCREMENT"].map
      String.toList).flatten.count x := letters_capitals (by decide)
  rw [hkey]
  exact letters_replaceAll_phrase fun c hc => toUpper_ne_of_space hx hc

lemma letters_dropAll (or : InsertOr) :
    letters x (or.dropAll sql) + or.pattern.count sql * orLetters x or = letters x sql := by
  have hspace : letters x [' '] = 0 := letters_of_not_isAlpha hx (by decide)
  have hinto : letters x "INSERT INTO".toList =
      letters x "INSERT".toList + letters x "INTO".toList := by
    have happend : "INSERT INTO".toList = "INSERT".toList ++ ([' '] ++ "INTO".toList) := by decide
    rw [happend, letters_append, letters_append, hspace, Nat.zero_add]
  let words := ["INSERT", "OR", String.ofList or.word, "INTO"]
  have hreplace : letters x (or.dropAll sql) +
      or.pattern.count sql * (words.map String.toList).flatten.count x =
        letters x sql + or.pattern.count sql * letters x "INSERT INTO".toList := by
    have hspaces : ∀ c, Js.isWhitespace c = true → c.toUpper ≠ x := fun c hc =>
      toUpper_ne_of_space hx hc
    cases or <;> exact @letters_replaceAll_phrase x sql _ (by decide) _ hspaces
  have hwords : (words.map String.toList).flatten.count x =
      letters x "INSERT INTO".toList + orLetters x or := by
    have hflatten : (words.map String.toList).flatten =
        "INSERT".toList ++ ("OR".toList ++ (or.word ++ "INTO".toList)) := by cases or <;> decide
    rw [← letters_capitals (by cases or <;> decide), hflatten, letters_append, letters_append,
      letters_append, hinto, orLetters]
    omega
  rw [hwords, Nat.mul_add] at hreplace
  omega

omit hx in
/-- At least its keyword goes with a pragma. -/
lemma letters_pragma :
    letters x (pragma.replaceAll [] sql) + pragma.count sql * letters x "PRAGMA".toList ≤
      letters x sql := by
  induction hlength : sql.length using Nat.strong_induction_on generalizing sql with
  | _ n ih =>
    cases sql with
    | nil => simp
    | cons c sql =>
      cases hrest : pragma.rest? (c :: sql) with
      | none =>
        have := ih sql.length (by simp [← hlength]) rfl
        rw [Pattern.replaceAll_cons_of_none hrest, Pattern.count_cons_of_none hrest, letters_cons,
          letters_cons]
        omega
      | some rest =>
        have hlt := (pragma.shorter hrest).2
        have := ih rest.length (hlength ▸ hlt) rfl
        have hword : letters x "PRAGMA".toList + letters x rest ≤ letters x (c :: sql) := by
          simp only [pragma] at hrest
          split at hrest
          · rename_i space c' after hmatch
            split_ifs at hrest
            cases hrest
            rw [letters_of_matchWord hmatch, ← letters_capitals (by decide)]
            refine Nat.add_le_add_left (letters_le_of_suffix ?_) _
            exact ((List.tail_suffix _).trans (List.dropWhile_suffix _)).trans
              ((List.suffix_cons c' after).trans (List.suffix_cons space _))
          · cases hrest
        rw [Pattern.replaceAll_of_rest? hrest, Pattern.count_of_rest? hrest, List.nil_append,
          Nat.succ_mul]
        omega

lemma letters_trim : letters x (Js.trim (String.ofList cs)).toList = letters x cs := by
  have hdrop : ∀ cs, letters x (List.dropWhile Js.isWhitespace cs) = letters x cs := fun cs =>
    letters_dropWhile fun c hc => toUpper_ne_of_space hx hc
  have hreverse : ∀ cs : List Char, letters x cs.reverse = letters x cs := fun cs =>
    List.countP_reverse
  rw [Js.trim, String.toList_ofList, String.toList_ofList, hreverse, hdrop, hreverse, hdrop]

lemma letters_withClause {clause : String} :
    letters x (withClause clause sql) = letters x sql + letters x clause.toList := by
  have hterminator : letters x [';'] = 0 := letters_of_not_isAlpha hx (by decide)
  have hcut : ∀ cs : List Char,
      letters x (if cs.getLast? = some ';' then cs.dropLast else cs) = letters x cs := by
    intro cs
    split_ifs with hlast
    · obtain ⟨cs, rfl⟩ := List.getLast?_eq_some_iff.mp hlast
      rw [List.dropLast_concat, letters_append, hterminator, Nat.add_zero]
    · rfl
  rw [withClause, letters_append, hcut, letters_trim hx]

end Rewriting

/-! ### What the code writes behind a text -/

def addedTokens (added : Option Clause) : List Token :=
  ((added.map Clause.pieces).getD []).map Piece.token

/-- A text and the clause that was written behind it, with the number of the `INSERT OR`s that were
taken out before. -/
inductive Appended (ignores replaces : ℕ) (sql : List Char) : Option Clause → Prop
  | none : Appended ignores replaces sql none
  | ignore (before : List Char) : 0 < ignores →
      sql = before ++ doNothing.toList →
      Appended ignores replaces sql (some doNothingClause)
  | otp (before : List Char) : 0 < replaces →
      sql = before ++ updateOtp.toList →
      Appended ignores replaces sql (some updateOtpClause)
  | tenant (before : List Char) : 0 < replaces →
      sql = before ++ updateTenant.toList →
      Appended ignores replaces sql (some updateTenantClause)

section Appending

variable {x : Char} {sql before : List Char} {clause : Clause} {text : String}

lemma exists_withClause (text : String) (sql : List Char) :
    ∃ before, withClause text sql = before ++ text.toList := ⟨_, rfl⟩

/-- Behind a text the clause is left as it is. -/
lemma dropAll_append_doNothing :
    InsertOr.replace.dropAll (before ++ doNothing.toList) =
      InsertOr.replace.dropAll before ++ doNothing.toList := by
  have hclause : doNothing.toList = ' ' :: "ON CONFLICT DO NOTHING;".toList := by decide
  have hnone : insertOrReplace.test doNothing.toList = false := by decide
  rw [InsertOr.dropAll, InsertOr.dropAll, InsertOr.pattern, Pattern.replaceAll_append]
  · rw [Pattern.replaceAll_of_not_test hnone]
  · intro tail _ _
    rw [insertOrReplace, phrase_rest?, phrase_rest?]
    cases hrest : matchPhrase (["INSERT", "OR", "REPLACE", "INTO"].map String.toList) tail with
    | some rest => exact matchPhrase_append (by decide) hrest
    | none =>
      rw [hclause]
      exact matchPhrase_append_space (by decide) (fun ws hws hne =>
        (by decide : ∀ ws ∈ (["INSERT", "OR", "REPLACE", "INTO"].map String.toList).tails, ws ≠ [] →
          matchPhrase ws ("ON CONFLICT DO NOTHING;".toList.dropWhile Js.isWhitespace) = none) ws
          ((List.mem_tails ..).mpr hws) hne) hrest

lemma onConflict_test_append : onConflict.test (before ++ doNothing.toList) = true := by
  have hsuffix : "ON CONFLICT DO NOTHING;".toList <:+ doNothing.toList := by decide
  rw [Pattern.test_eq_true_iff]
  exact ⟨_, hsuffix.trans (List.suffix_append before _), by decide⟩

lemma letters_text_of_clause (hx : x.isUpper = true)
    (htext : text.toList = spell clause.pieces ++ [';']) :
    letters x text.toList = lettersOf x (addedTokens (some clause)) := by
  have hterminator : letters x [';'] = 0 := letters_of_not_isAlpha hx (by decide)
  rw [htext, letters_append, letters_spell hx fun p hp => (clause.valid p hp).1, hterminator]
  rfl

lemma Appended.of_zero {ignores replaces : ℕ} {added : Option Clause}
    (h : Appended 0 replaces sql added) : Appended ignores replaces sql added := by
  cases h with
  | none => exact .none
  | ignore before hpos => exact absurd hpos (Nat.lt_irrefl 0)
  | otp before hpos hsql => exact .otp before hpos hsql
  | tenant before hpos hsql => exact .tenant before hpos hsql

lemma Appended.exists_text {ignores replaces : ℕ} (h : Appended ignores replaces sql (some clause)) :
    ∃ before, sql = before ++ (spell clause.pieces ++ [';']) := by
  cases h with
  | ignore before _ hsql => exact ⟨before, by rw [hsql, toList_doNothing]⟩
  | otp before _ hsql => exact ⟨before, by rw [hsql, toList_updateOtp]⟩
  | tenant before _ hsql => exact ⟨before, by rw [hsql, toList_updateTenant]⟩

lemma count_pos (p : Pattern Char) (h : p.test sql = true) : 0 < p.count sql := by
  rw [Nat.pos_iff_ne_zero, ne_eq, Pattern.count_eq_zero_iff, h]
  exact Bool.noConfusion

/-- `ON CONFLICT DO NOTHING` is all that is written behind a text without `INSERT OR IGNORE`. -/
lemma normalizeIgnore_cases (sql : List Char) :
    (∀ x, x.isUpper = true → letters x (normalizeIgnore sql) +
        insertOrIgnore.count sql * orLetters x .ignore = letters x sql) ∨
      (∃ before, normalizeIgnore sql = before ++ doNothing.toList) ∧ 0 < insertOrIgnore.count sql ∧
        ∀ x, x.isUpper = true → letters x (normalizeIgnore sql) +
            insertOrIgnore.count sql * orLetters x .ignore =
          letters x sql + lettersOf x (addedTokens (some doNothingClause)) := by
  have hdrop : ∀ x, x.isUpper = true → letters x (InsertOr.ignore.dropAll sql) +
      insertOrIgnore.count sql * orLetters x .ignore = letters x sql :=
    fun x hx => letters_dropAll hx .ignore
  rw [normalizeIgnore]
  split_ifs with htest
  · dsimp only
    split_ifs
    · exact .inl hdrop
    · refine .inr ⟨exists_withClause _ _, count_pos insertOrIgnore htest, fun x hx => ?_⟩
      have hletters := hdrop x hx
      rw [letters_withClause hx, letters_text_of_clause hx toList_doNothing]
      rw [InsertOr.dropAll, InsertOr.pattern] at hletters
      omega
  · refine .inl fun x _ => ?_
    rw [Pattern.count_eq_zero_iff.mpr (by simpa using htest), Nat.zero_mul, Nat.add_zero]

/-- A text without a clause of the code gets one of the other clauses, or none. -/
lemma normalizeReplace_cases (sql : List Char) : ∃ added,
    Appended 0 (insertOrReplace.count sql) (normalizeReplace sql) added ∧
      ∀ x, x.isUpper = true → letters x (normalizeReplace sql) +
          insertOrReplace.count sql * orLetters x .replace =
        letters x sql + lettersOf x (addedTokens added) := by
  have hdrop : ∀ x, x.isUpper = true → letters x (InsertOr.replace.dropAll sql) +
      insertOrReplace.count sql * orLetters x .replace = letters x sql :=
    fun x hx => letters_dropAll hx .replace
  have hwith : ∀ {text : String} {clause : Clause}, text.toList = spell clause.pieces ++ [';'] →
      ∀ x, x.isUpper = true → letters x (withClause text (InsertOr.replace.dropAll sql)) +
          insertOrReplace.count sql * orLetters x .replace =
        letters x sql + lettersOf x (addedTokens (some clause)) := by
    intro text clause htext x hx
    have hletters := hdrop x hx
    rw [letters_withClause hx, letters_text_of_clause hx htext]
    omega
  rw [normalizeReplace]
  split_ifs with htest
  · have hpos := count_pos insertOrReplace htest
    dsimp only
    split_ifs
    · exact ⟨none, .none, hdrop⟩
    · exact ⟨_, .otp _ hpos rfl, hwith toList_updateOtp⟩
    · exact ⟨_, .tenant _ hpos rfl, hwith toList_updateTenant⟩
    · exact ⟨none, .none, hdrop⟩
  · refine ⟨none, .none, fun x _ => ?_⟩
    rw [Pattern.count_eq_zero_iff.mpr (by simpa using htest), Nat.zero_mul, Nat.add_zero]
    rfl

/-- No second clause is written behind `ON CONFLICT DO NOTHING`. -/
lemma normalizeReplace_doNothing (h : sql = before ++ doNothing.toList) :
    (∃ before, normalizeReplace sql = before ++ doNothing.toList) ∧
      ∀ x, x.isUpper = true → letters x (normalizeReplace sql) +
        insertOrReplace.count sql * orLetters x .replace = letters x sql := by
  have hdrop : InsertOr.replace.dropAll sql =
      InsertOr.replace.dropAll before ++ doNothing.toList := by rw [h, dropAll_append_doNothing]
  rw [normalizeReplace]
  split_ifs with htest
  · have hconflict : onConflict.test (insertOrReplace.replaceAll "INSERT INTO".toList sql) = true := by
      rw [InsertOr.dropAll, InsertOr.pattern] at hdrop
      rw [hdrop]
      exact onConflict_test_append
    dsimp only
    rw [if_pos hconflict]
    exact ⟨⟨_, hdrop⟩, fun x hx => letters_dropAll hx .replace⟩
  · refine ⟨⟨before, h⟩, fun x _ => ?_⟩
    rw [Pattern.count_eq_zero_iff.mpr (by simpa using htest), Nat.zero_mul, Nat.add_zero]

/-- What becomes of the letters of a text, and what stands at its end. -/
lemma exists_appended (sql : List Char) : ∃ added,
    Appended (insertOrIgnore.count sql) (insertOrReplace.count (normalizeIgnore sql))
        (normalizeReplace (normalizeIgnore sql)) added ∧
      ∀ x, x.isUpper = true → letters x (normalizeReplace (normalizeIgnore sql)) +
        insertOrIgnore.count sql * orLetters x .ignore +
          insertOrReplace.count (normalizeIgnore sql) * orLetters x .replace =
        letters x sql + lettersOf x (addedTokens added) := by
  obtain hletters | ⟨⟨before, hsql⟩, hpos, hletters⟩ := normalizeIgnore_cases sql
  · obtain ⟨added, happended, hletters'⟩ := normalizeReplace_cases (normalizeIgnore sql)
    refine ⟨added, happended.of_zero, fun x hx => ?_⟩
    have := hletters x hx
    have := hletters' x hx
    omega
  · obtain ⟨⟨before', hsql'⟩, hletters'⟩ := normalizeReplace_doNothing hsql
    refine ⟨_, .ignore before' hpos hsql', fun x hx => ?_⟩
    have := hletters x hx
    have := hletters' x hx
    omega

end Appending

/-! ### Letters of statements -/

section Statements

variable {x : Char} {ts : List Token} {st : Statement}

lemma lettersOf_replaceRun {old new new' : List Token} (hne : old ≠ [])
    (h : lettersOf x new = lettersOf x new') :
    lettersOf x (replaceRun old new 0 ts) = lettersOf x (replaceRun old new' 0 ts) := by
  induction ts using run_induction hne with
  | nil => rfl
  | run ts ih =>
    rw [replaceRun_append hne, replaceRun_append hne, lettersOf_append, lettersOf_append, h, ih]
  | cons t ts hrun ih =>
    rw [replaceRun_cons hrun, replaceRun_cons hrun, lettersOf_cons, lettersOf_cons, ih]

variable (hx : x.isUpper = true)
include hx

lemma lettersOf_keyMark : lettersOf x [keyMark] = lettersOf x (numberedKey .postgreSQL) := by
  have hmark : lettersOf x [keyMark] = letters x serialKey := rfl
  have hspace : ∀ cs, letters x (' ' :: cs) = letters x cs := fun cs =>
    letters_cons_of_not_isAlpha hx (by decide)
  rw [hmark, serialKey_eq, letters_append, hspace, letters_append, hspace]
  rfl

lemma lettersOf_markKeys_postgreSQL : lettersOf x (markKeys .postgreSQL ts) = lettersOf x ts := by
  rw [markKeys, lettersOf_replaceRun (by decide) (lettersOf_keyMark hx), replaceRun_self (by decide)]

lemma letters_text : letters x st.text = lettersOf x st.tokens := by
  have hending : lettersOf x (st.ending.map Piece.token) = 0 := by
    have hterminator : tokenLetters x (.symbol ';') = 0 := letters_of_not_isAlpha hx (by decide)
    rw [Statement.ending]
    cases st.terminator <;> simp [hterminator]
  rw [Statement.text, letters_append, letters_spell hx st.valid_ending,
    letters_spaces hx st.trail_spaces, List.map_append, lettersOf_append, hending]
  rfl

lemma letters_insertText :
    letters x st.insertText = lettersOf x (st.insertPieces.map Piece.token) := by
  rw [← st.text_withoutOr, letters_text hx]
  rfl

lemma letters_text_of_none (h : st.insertOr = none) : letters x st.text = letters x st.insertText := by
  rw [letters_text hx, letters_insertText hx, Statement.tokens, st.insertPieces_of_none h]

lemma letters_text_of_or {or : InsertOr} (h : st.insertOr = some or) :
    letters x st.text = letters x st.insertText + orLetters x or := by
  obtain ⟨g₁, w₁, g₂, w₂, g₃, w₃, g₄, w₄, rest, hpieces, hw₁, hw₂, hw₃, hw₄⟩ := st.exists_head h
  have hword : ∀ w : List Char, letters x (w.map Char.toUpper) = letters x w := fun w => by
    rw [letters, letters, List.countP_map]
    exact List.countP_congr fun c _ => by simp
  rw [letters_text hx, letters_insertText hx, Statement.tokens, Statement.insertPieces, h, hpieces,
    orLetters, ← hw₂, ← hw₃, hword, hword]
  simp only [List.map_cons, List.drop_succ_cons, List.drop_zero, lettersOf_cons, tokenLetters]
  rw [← hw₁, ← hw₄, hword, hword]
  omega

end Statements

/-! ### What is left of an `INSERT OR` -/

section Heads

variable {st : Statement}

lemma rest?_pragma_of_none {cs : List Char} (h : matchWord "PRAGMA".toList cs = none) :
    pragma.rest? cs = none := by
  simp only [pragma, h]

/-- The patterns before take nothing from the head of an `INSERT OR IGNORE`. -/
lemma insertOrIgnore_test_of_ignore (h : st.insertOr = some .ignore) : insertOrIgnore.test
    (pragma.replaceAll [] (autoincrement.replaceAll serialKey st.text)) = true := by
  obtain ⟨lead, head, tail, hhead⟩ := st.exists_hasHead h
  have hlead : ∀ {p : Pattern Char} {d v}, Js.isWhitespace d = false →
      (∀ cs, matchWord (d :: v) cs = none → p.rest? cs = none) → p.Skips lead := fun hd hp =>
    skips_of_forall_ne hp fun c hc =>
      toUpper_ne_of_isWhitespace hd (isWhitespace_of_isSpace (hhead.spaces c hc))
  have hskipped : ∀ {p : Pattern Char} {d v}, Js.isWhitespace d = false →
      (∀ cs, matchWord (d :: v) cs = none → p.rest? cs = none) →
      (∀ word ∈ ["INSERT".toList, "OR".toList, InsertOr.ignore.word, "INTO".toList],
        ∀ tail ∈ word.tails, tail ≠ [] → clash (d :: v) tail = true) → p.Skips head := fun hd hp =>
    hhead.skipped (fun c hc => toUpper_ne_of_isWhitespace hd (isWhitespace_of_isSpace hc)) hp
  have hkey : ∀ cs, matchWord "INTEGER".toList cs = none → autoincrement.rest? cs = none :=
    fun _ => rest?_autoincrement_of_none
  have hpragma : ∀ cs, matchWord "PRAGMA".toList cs = none → pragma.rest? cs = none :=
    fun _ => rest?_pragma_of_none
  rw [hhead.text, Pattern.replaceAll_append_of_skips (hlead (by decide) hkey),
    Pattern.replaceAll_append_of_skips (hskipped (by decide) hkey (by decide)),
    Pattern.replaceAll_append_of_skips (hlead (by decide) hpragma),
    Pattern.replaceAll_append_of_skips (hskipped (by decide) hpragma (by decide)),
    Pattern.test_eq_true_iff]
  refine ⟨_, List.suffix_append lead _, ?_⟩
  rw [← InsertOr.pattern, hhead.matched]
  rfl

/-- A match in the statement is one when the clause `ON CONFLICT DO NOTHING` stands behind it. -/
lemma insertOrReplace_test_of_append (hne : st.pieces ≠ [])
    (h : insertOrReplace.test (st.append doNothingClause).text = false) :
    insertOrReplace.test st.text = false := by
  obtain ⟨lead, rest, hlead, hrest, htext⟩ := exists_text_eq hne
  rw [text_append (by decide)] at h
  have hother : ∀ c ∈ rest, ∀ w ∈ ["INSERT", "OR", "REPLACE", "INTO"], c.toUpper ∉ w.toList := by
    intro c hc w hw hmem
    have hcapitals : ∀ w ∈ ["INSERT", "OR", "REPLACE", "INTO"], ∀ x ∈ w.toList, x.isUpper = true := by
      decide
    refine toUpper_ne_of_not_isAlpha (hcapitals w hw _ hmem) ?_ rfl
    obtain hspace | rfl := hrest c hc
    · exact not_isAlpha_of_isWhitespace (isWhitespace_of_isSpace hspace)
    · decide
  have hskips : insertOrReplace.Skips lead := InsertOr.replace.skips_spaces hlead
  rw [htext, ← Pattern.count_eq_zero_iff, Pattern.count_append_of_skips hskips,
    Pattern.count_eq_zero_iff]
  exact phrase_test_append_other (by decide) hother (phrase_test_of_append (by decide) h)

end Heads

/-! ### What is taken out and put in

Five letters tell the rewritings from each other: a key gets a `B` and loses `N`s, a pragma and an
`INSERT OR IGNORE` lose a `G`, an `INSERT OR REPLACE` loses a `P`, and all of them lose an `R`.
-/

section Balance

variable {sql : List Char} {clause : Clause}

/-- The letters of the `OR` of a statement. -/
def orPart (x : Char) : Option InsertOr → ℕ
  | none    => 0
  | some or => orLetters x or

/-- The text with its keys rewritten, and then without its pragmas. -/
def keysText (st : Statement) : List Char := autoincrement.replaceAll serialKey st.serial.text

def pragmaText (st : Statement) : List Char := pragma.replaceAll [] (keysText st)

/-- How often each pattern is found, with the letters that are left over and those that are added. -/
def Balanced (keys pragmas ignores replaces : ℕ) (extra added : Char → ℕ) : Prop :=
  ∀ x : Char, x.isUpper = true →
    let left := extra x + keys * keyLetters x + ignores * orLetters x .ignore +
      replaces * orLetters x .replace
    let right := added x + keys * letters x serialKey
    left + pragmas * letters x "PRAGMA".toList ≤ right ∧ (pragmas = 0 → left = right)

lemma Balanced.table {keys pragmas ignores replaces : ℕ} {extra added : Char → ℕ}
    (h : Balanced keys pragmas ignores replaces extra added) :
    (extra 'B' ≤ added 'B' + keys ∧ (pragmas = 0 → extra 'B' = added 'B' + keys)) ∧
      extra 'G' + pragmas + ignores ≤ added 'G' ∧
      (extra 'N' + 3 * keys + ignores ≤ added 'N' ∧
        (pragmas = 0 → extra 'N' + 3 * keys + ignores = added 'N')) ∧
      (extra 'P' + pragmas + replaces ≤ added 'P' ∧
        (pragmas = 0 → extra 'P' + replaces = added 'P')) ∧
      extra 'R' + keys + pragmas + 2 * ignores + 2 * replaces ≤ added 'R' ∧
        (pragmas = 0 → extra 'R' + keys + 2 * ignores + 2 * replaces = added 'R') := by
  have hkey : keyLetters 'B' = 0 ∧ keyLetters 'G' = 1 ∧ keyLetters 'N' = 3 ∧ keyLetters 'P' = 1 ∧
      keyLetters 'R' = 4 := by decide
  have hserial : letters 'B' serialKey = 1 ∧ letters 'G' serialKey = 1 ∧ letters 'N' serialKey = 0 ∧
      letters 'P' serialKey = 1 ∧ letters 'R' serialKey = 3 := by decide
  have hpragma : letters 'B' "PRAGMA".toList = 0 ∧ letters 'G' "PRAGMA".toList = 1 ∧
      letters 'N' "PRAGMA".toList = 0 ∧ letters 'P' "PRAGMA".toList = 1 ∧
      letters 'R' "PRAGMA".toList = 1 := by decide
  have hignore : orLetters 'B' .ignore = 0 ∧ orLetters 'G' .ignore = 1 ∧ orLetters 'N' .ignore = 1 ∧
      orLetters 'P' .ignore = 0 ∧ orLetters 'R' .ignore = 2 := by decide
  have hreplace : orLetters 'B' .replace = 0 ∧ orLetters 'G' .replace = 0 ∧
      orLetters 'N' .replace = 0 ∧ orLetters 'P' .replace = 1 ∧ orLetters 'R' .replace = 2 := by decide
  have hB := h 'B' rfl
  have hG := h 'G' rfl
  have hN := h 'N' rfl
  have hP := h 'P' rfl
  have hR := h 'R' rfl
  simp only [hkey, hserial, hpragma, hignore, hreplace] at hB hG hN hP hR
  omega

/-- What is taken out when only the `OR` of the statement is. -/
def OnlyOr (or : Option InsertOr) (keys pragmas ignores replaces : ℕ) : Prop :=
  keys = 0 ∧ pragmas = 0 ∧ ignores = (if or = some .ignore then 1 else 0) ∧
    replaces = if or = some .replace then 1 else 0

section Counts

variable {keys pragmas ignores replaces : ℕ} {or : InsertOr} {o : Option InsertOr}
  {added : Option Clause} {extra : Char → ℕ}

lemma orPart_ignore : orPart 'B' (some .ignore) = 0 ∧ orPart 'G' (some .ignore) = 1 ∧
    orPart 'N' (some .ignore) = 1 ∧ orPart 'P' (some .ignore) = 0 ∧
      orPart 'R' (some .ignore) = 2 := by decide

lemma orPart_replace : orPart 'B' (some .replace) = 0 ∧ orPart 'G' (some .replace) = 0 ∧
    orPart 'N' (some .replace) = 0 ∧ orPart 'P' (some .replace) = 1 ∧
      orPart 'R' (some .replace) = 2 := by decide

lemma letters_doNothing : lettersOf 'B' (addedTokens (some doNothingClause)) = 0 ∧
    lettersOf 'G' (addedTokens (some doNothingClause)) = 1 ∧
      lettersOf 'N' (addedTokens (some doNothingClause)) = 4 ∧
        lettersOf 'P' (addedTokens (some doNothingClause)) = 0 ∧
          lettersOf 'R' (addedTokens (some doNothingClause)) = 0 := by decide

lemma letters_updateOtp : lettersOf 'B' (addedTokens (some updateOtpClause)) = 0 ∧
    lettersOf 'G' (addedTokens (some updateOtpClause)) = 0 ∧
      lettersOf 'N' (addedTokens (some updateOtpClause)) = 2 := by decide +kernel

lemma letters_updateTenant : lettersOf 'B' (addedTokens (some updateTenantClause)) = 0 ∧
    lettersOf 'G' (addedTokens (some updateTenantClause)) = 0 ∧
      lettersOf 'N' (addedTokens (some updateTenantClause)) = 2 := by decide +kernel

/-- With the same clauses, a clause that was added would leave too many `N`s. -/
lemma onlyOr_of_same (happended : Appended ignores replaces sql added)
    (hhead : o = some .ignore → 0 < ignores)
    (h : Balanced keys pragmas ignores replaces (fun _ => 0)
      fun x => orPart x o + lettersOf x (addedTokens added)) :
    OnlyOr o keys pragmas ignores replaces := by
  have hnone : ∀ x, lettersOf x (addedTokens none) = 0 := fun _ => rfl
  have hempty : ∀ x, orPart x none = 0 := fun _ => rfl
  have htable := h.table
  rw [OnlyOr]
  rcases o with _ | _ | _ <;> cases happended <;>
    simp only [hempty, orPart_ignore, orPart_replace, hnone, letters_doNothing, letters_updateOtp,
      letters_updateTenant, forall_const, reduceCtorEq, Option.some.injEq, if_true,
      if_false] at htable hhead ⊢ <;>
    omega

lemma onlyOr_of_appended (happended : Appended ignores replaces sql (some clause))
    (h : Balanced keys pragmas ignores replaces extra fun x => orPart x (some or)) :
    OnlyOr (some or) keys pragmas ignores replaces := by
  have htable := h.table
  rw [OnlyOr]
  cases or <;> cases happended <;>
    simp only [orPart_ignore, orPart_replace, reduceCtorEq, Option.some.injEq, if_true,
      if_false] at htable ⊢ <;>
    omega

lemma not_balanced_of_clause (hextra : 2 ≤ extra 'N')
    (h : Balanced keys pragmas ignores replaces extra fun x => orPart x (some or)) : False := by
  have htable := h.table
  cases or <;> simp only [orPart_ignore, orPart_replace] at htable <;> omega

end Counts

lemma Balanced.cancel {keys pragmas ignores replaces : ℕ} {extra extra' added added' : Char → ℕ}
    (h : Balanced keys pragmas ignores replaces extra added)
    (hcancel : ∀ x, extra x + added' x = extra' x + added x) :
    Balanced keys pragmas ignores replaces extra' added' := by
  intro x hx
  have hbalance := h x hx
  have := hcancel x
  dsimp only at hbalance ⊢
  omega

end Balance

end DatabaseAdapter

end CtrlRecovery
