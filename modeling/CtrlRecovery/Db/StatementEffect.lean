import CtrlRecovery.Db.StatementLetters

/-!
# When a statement has the same effect on both engines

What an engine reads of its text is computed from the tokens of the statement (`read_sqlite`,
`read_postgreSQL`). The bodies and the clauses that both read are compared by the words and symbols,
which the rewriting leaves alone, and the row of the same key is compared on tables of one row.

Where a pattern matches elsewhere, the text has other letters than the statement, also if a clause is
written behind it (`not_touched_of_runsAlike`).
-/

namespace CtrlRecovery

open Core SqlText

namespace DatabaseAdapter

/-! ### Words and symbols -/

/-- A token without what a placeholder or a literal holds. -/
def mask : Token → Token
  | .word text => .word text
  | .symbol c  => .symbol c
  | _          => .question

section Masks

variable {k : ℕ} {ts ts' : List Token}

lemma map_mask_numberTokens : (numberTokens k ts).map mask = ts.map mask := by
  induction ts generalizing k with
  | nil => rfl
  | cons t ts ih => cases t <;> simp [numberTokens, Token.numberFrom, mask, ih]

lemma map_mask_inSequence : (inSequence k ts).map mask = ts.map mask := by
  induction ts generalizing k with
  | nil => rfl
  | cons t ts ih => cases t <;> simp [inSequence, mask, ih]

lemma map_fold_numberTokens : (numberTokens k ts).map fold = numberTokens k (ts.map fold) := by
  induction ts generalizing k with
  | nil => rfl
  | cons t ts ih => cases t <;> simp [numberTokens, Token.numberFrom, Token.marks, fold, ih]

lemma map_fold_inSequence : (inSequence k ts).map fold = inSequence k (ts.map fold) := by
  induction ts generalizing k with
  | nil => rfl
  | cons t ts ih => cases t <;> simp [inSequence, fold, ih]

lemma symbol_mem_of_map_mask {c : Char} (h : ts.map mask = ts'.map mask) (hc : .symbol c ∈ ts) :
    .symbol c ∈ ts' := by
  have hmem : mask (.symbol c) ∈ ts'.map mask := h ▸ List.mem_map_of_mem hc
  obtain ⟨t, ht, hmask⟩ := List.mem_map.mp hmem
  cases t with
  | symbol c' => rwa [← Token.symbol.inj hmask]
  | word | literal | question | numbered => cases hmask

lemma insertOr?_mask : insertOr? (ts.map mask) = insertOr? ts := by
  rcases ts with _ | ⟨t₁, _ | ⟨t₂, _ | ⟨t₃, _ | ⟨t₄, ts⟩⟩⟩⟩
  · rfl
  · cases t₁ <;> rfl
  · cases t₁ <;> cases t₂ <;> rfl
  · cases t₁ <;> try rfl
    cases t₂ <;> cases t₃ <;> rfl
  · cases t₁ <;> try rfl
    cases t₂ <;> try rfl
    cases t₃ <;> cases t₄ <;> rfl

lemma insertOr?_of_mask (h : ts.map mask = ts'.map mask) : insertOr? ts = insertOr? ts' := by
  rw [← insertOr?_mask, h, insertOr?_mask]

lemma mask_eq_word_iff {t : Token} {text : List Char} : mask t = .word text ↔ t = .word text := by
  cases t <;> simp [mask]

end Masks

/-! ### Statement and clause -/

section Clauses

variable {ts ts' : List Token}

lemma splitClause_append (ts : List Token) : (splitClause ts).1 ++ (splitClause ts).2 = ts := by
  induction ts with
  | nil => rfl
  | cons t ts ih =>
    rw [splitClause]
    split_ifs
    · rfl
    · rw [List.cons_append, ih]

lemma splitClause_eq_iff : splitClause ts = splitClause ts' ↔ ts = ts' := by
  refine ⟨fun h => ?_, fun h => by rw [h]⟩
  rw [← splitClause_append ts, h, splitClause_append]

lemma isOnConflict_eq_true_iff : isOnConflict ts = true ↔
    ∃ ys, ts = .word "ON".toList :: .word "CONFLICT".toList :: ys := by
  constructor
  · intro h
    rw [isOnConflict.eq_def] at h
    split at h
    · obtain ⟨rfl, rfl⟩ := of_decide_eq_true h
      exact ⟨_, rfl⟩
    · cases h
  · rintro ⟨ys, rfl⟩
    rfl

lemma splits_iff : (splitClause ts).1 = (splitClause ts').1 ∧
    (splitClause ts).2 = (splitClause ts').2 ↔ ts = ts' :=
  Prod.ext_iff.symm.trans splitClause_eq_iff

/-- A clause behind a statement without one is its clause. -/
lemma splitClause_of_clause (h : (splitClause ts).2 = []) (hclause : isOnConflict ts' = true) :
    splitClause (ts ++ ts') = (ts, ts') := by
  induction ts with
  | nil =>
    cases ts' with
    | nil => rfl
    | cons t ts' => rw [List.nil_append, splitClause, if_pos hclause]
  | cons t ts ih =>
    rw [splitClause] at h
    split_ifs at h with hstart
    have hnot : ¬ isOnConflict (t :: (ts ++ ts')) = true := by
      rw [isOnConflict_eq_true_iff]
      rintro ⟨ys, heq⟩
      obtain ⟨zs, rfl⟩ := isOnConflict_eq_true_iff.mp hclause
      cases ts with
      | nil => exact absurd (Token.word.inj (List.cons.inj (List.cons.inj heq).2).1) (by decide)
      | cons t' ts =>
        obtain ⟨ht, heq⟩ := List.cons.inj heq
        exact hstart (isOnConflict_eq_true_iff.mpr ⟨ts, by rw [ht, (List.cons.inj heq).1]⟩)
    rw [List.cons_append, splitClause, if_neg hnot, ih h]

def conflictWords : List Token := ["ON", "CONFLICT"].map fun text => .word text.toList

lemma isOnConflict_iff_starts : isOnConflict ts = true ↔ conflictWords <+: ts := by
  rw [isOnConflict_eq_true_iff]
  exact exists_congr fun ys => eq_comm

lemma clause_eq_nil_iff : (splitClause ts).2 = [] ↔ ¬ conflictWords <:+: ts := by
  induction ts with
  | nil => simp [splitClause, conflictWords]
  | cons t ts ih =>
    rw [splitClause, List.infix_cons_iff, ← isOnConflict_iff_starts, not_or]
    split_ifs with hstart
    · simp [hstart]
    · simp [hstart, ih]

end Clauses

/-! ### The statement without its `OR` -/

section DropOr

variable {k : ℕ} {ts : List Token}

lemma dropOr_inSequence : dropOr (inSequence 1 ts) = inSequence 1 (dropOr ts) := by
  have hor : insertOr? (inSequence 1 ts) = insertOr? ts := insertOr?_of_mask map_mask_inSequence
  rw [dropOr, dropOr, hor]
  cases h : insertOr? ts with
  | none => rfl
  | some or =>
    obtain ⟨rest, rfl⟩ := insertOr?_eq_some h
    rfl

lemma insertOr?_insertInto : insertOr? (insertInto ++ ts) = none := by
  rcases ts with _ | ⟨t, _ | ⟨t', ts⟩⟩
  · rfl
  · cases t <;> rfl
  · cases t <;> cases t' <;> rfl

lemma insertOr?_dropOr : insertOr? (dropOr ts) = none := by
  rw [dropOr]
  cases h : insertOr? ts with
  | none => exact h
  | some or => exact insertOr?_insertInto

/-- The words that tell an `INSERT OR` and a clause. -/
def clauseWords : List Token :=
  ["INSERT", "OR", "IGNORE", "REPLACE", "INTO", "ON", "CONFLICT"].map fun text => .word text.toList

lemma insertOr?_eq_some_iff {or : InsertOr} : insertOr? ts = some or ↔
    [.word "INSERT".toList, .word "OR".toList, .word or.word, .word "INTO".toList] <+: ts := by
  constructor
  · intro h
    obtain ⟨ts, rfl⟩ := insertOr?_eq_some h
    exact ⟨ts, rfl⟩
  · rintro ⟨ts, rfl⟩
    cases or <;> rfl

section Runs

variable {o n : Token} {os new : List Token} (hold : ∀ x ∈ o :: os, x ∉ clauseWords)
  (hnew : ∀ x ∈ n :: new, x ∉ clauseWords)
include hold hnew

/-- To write keys in other words changes no `INSERT OR`. -/
lemma insertOr?_replaceRun :
    insertOr? (replaceRun (o :: os) (n :: new) 0 ts) = insertOr? ts := by
  have hwords : ∀ or : InsertOr, ∀ x ∉ clauseWords, x ∉ ([.word "INSERT".toList, .word "OR".toList,
      .word or.word, .word "INTO".toList] : List Token) := by
    intro or x hx hmem
    have hsubset : ([.word "INSERT".toList, .word "OR".toList, .word or.word, .word "INTO".toList] :
        List Token) ⊆ clauseWords := by cases or <;> decide
    exact hx (hsubset hmem)
  refine Option.ext fun or => ?_
  rw [insertOr?_eq_some_iff, insertOr?_eq_some_iff]
  constructor
  · rintro ⟨zs, hzs⟩
    obtain ⟨ts', rfl, -⟩ := exists_of_replaceRun_eq_append (List.cons_ne_nil o os)
      (hwords or n (hnew n List.mem_cons_self)) hzs.symm
    exact List.prefix_append _ ts'
  · rintro ⟨zs, rfl⟩
    rw [replaceRun_append_left (hwords or o (hold o List.mem_cons_self))]
    exact List.prefix_append _ _

lemma dropOr_replaceRun :
    dropOr (replaceRun (o :: os) (n :: new) 0 ts) = replaceRun (o :: os) (n :: new) 0 (dropOr ts) := by
  have hwords : ∀ xs ⊆ clauseWords, o ∉ xs := fun xs hxs h =>
    hold o List.mem_cons_self (hxs h)
  rw [dropOr, dropOr, insertOr?_replaceRun hold hnew]
  cases hor : insertOr? ts with
  | none => rfl
  | some or =>
    obtain ⟨zs, rfl⟩ := insertOr?_eq_some_iff.mp hor
    rw [replaceRun_append_left (hwords _ (by cases or <;> decide)), Option.isSome_some, if_pos rfl,
      if_pos rfl]
    exact (replaceRun_append_left (hwords insertInto (by decide))).symm

lemma conflictWords_replaceRun :
    conflictWords <:+: replaceRun (o :: os) (n :: new) 0 ts ↔ conflictWords <:+: ts := by
  have hsubset : conflictWords ⊆ clauseWords := by decide
  have hwords : ∀ x ∉ clauseWords, x ∉ conflictWords := fun x hx hmem => hx (hsubset hmem)
  exact infix_replaceRun_iff (by decide) (fun x hx => hwords x (hold x hx))
    fun x hx => hwords x (hnew x hx)

end Runs

variable {st : Statement}

lemma tokens_withoutOr : st.withoutOr.tokens = st.insertPieces.map Piece.token := rfl

lemma map_fold_withoutOr : st.withoutOr.tokens.map fold = dropOr (st.tokens.map fold) := by
  rw [tokens_withoutOr, dropOr, ← Statement.insertOr]
  cases h : st.insertOr with
  | none =>
    rw [st.insertPieces_of_none h]
    rfl
  | some or =>
    obtain ⟨g₁, w₁, g₂, w₂, g₃, w₃, g₄, w₄, rest, hpieces, -⟩ := st.exists_head h
    rw [Statement.insertPieces, h, hpieces, Statement.tokens, hpieces]
    rfl

end DropOr

/-! ### What the engines read of a statement -/

section Reading

variable (st : Statement)

lemma terminator_notMem {ts : List Token} (h : ts.map mask = st.tokens.map mask) :
    .symbol ';' ∉ ts.map fold := by
  intro hmem
  obtain ⟨t, ht, hfold⟩ := List.mem_map.mp hmem
  cases t with
  | symbol c =>
    obtain rfl := Token.symbol.inj hfold
    obtain ⟨p, hp, htoken⟩ := List.mem_map.mp (symbol_mem_of_map_mask h ht)
    exact (st.valid p hp).2 htoken
  | word | literal | question | numbered => cases hfold

lemma dropTerminator_ending {ts : List Token} (h : ts.map mask = st.tokens.map mask) :
    dropTerminator ((ts ++ st.ending.map Piece.token).map fold) = ts.map fold := by
  rw [Statement.ending]
  cases st.terminator with
  | none =>
    have hlast : (ts.map fold).getLast? ≠ some (.symbol ';') := fun heq =>
      terminator_notMem st h (List.mem_of_getLast? heq)
    have hnone : (ts ++ ((none : Option (List Char)).toList.map fun gap =>
        (⟨gap, .symbol ';'⟩ : Piece)).map Piece.token).map fold = ts.map fold := by simp
    rw [hnone, dropTerminator, if_neg hlast]
  | some gap => simp [dropTerminator, fold]

lemma inSequence_ending {k : ℕ} (ts : List Token) :
    inSequence k (ts ++ st.ending.map Piece.token) = inSequence k ts ++ st.ending.map Piece.token := by
  induction ts generalizing k with
  | nil =>
    rw [Statement.ending]
    cases st.terminator <;> rfl
  | cons t ts ih => cases t <;> simp [inSequence, ih]

lemma numberTokens_append {ts' : List Token} (h : ∀ k, numberTokens k ts' = ts') (k : ℕ)
    (ts : List Token) : numberTokens k (ts ++ ts') = numberTokens k ts ++ ts' := by
  induction ts generalizing k with
  | nil => exact h k
  | cons t ts ih => rw [List.cons_append, numberTokens, numberTokens, ih, List.cons_append]

lemma numberTokens_ending {k : ℕ} (ts : List Token) :
    numberTokens k (ts ++ st.ending.map Piece.token) =
      numberTokens k ts ++ st.ending.map Piece.token := by
  refine numberTokens_append (fun k => ?_) k ts
  rw [Statement.ending]
  cases st.terminator <;> rfl

/-- SQLite reads the placeholders in the order of their places. -/
lemma read_sqlite : read .sqlite (normalizeSql .sqlite st.text) =
    some (Reading.of (markKeys .sqlite ((inSequence 1 st.tokens).map fold))) := by
  have htext : normalizeSql .sqlite st.text = spell (markPieces (st.pieces ++ st.ending)) ++ st.trail :=
    markNumbers_spell st.valid_ending st.separated_ending st.trail_spaces
  have hlex : lex (normalizeSql .sqlite st.text) =
      some (((st.pieces ++ st.ending).map Piece.token).map Token.mark) := by
    rw [htext, lex_spell (valid_of_forall₂ forall₂_markPieces st.valid_ending)
      (separated_of_forall₂ forall₂_markPieces st.separated_ending) st.trail_spaces,
      map_token_markPieces]
  have hbind : bind .sqlite (((st.pieces ++ st.ending).map Piece.token).map Token.mark) =
      some (inSequence 1 st.tokens ++ st.ending.map Piece.token) := by
    rw [bind, bindSqlite_mark, List.map_append, inSequence_ending]
    rfl
  rw [read, hlex, Option.bind_eq_bind, Option.bind_some, hbind, Option.bind_some]
  dsimp only
  rw [dropTerminator_ending st map_mask_inSequence, if_neg nofun]

/-- PostgreSQL reads the numbers of its text. -/
lemma read_postgreSQL
    (h : insertOr? (markKeys .postgreSQL ((numberTokens 1 st.tokens).map fold)) = none) :
    read .postgreSQL (numberFrom 1 st.text) =
      some (Reading.of (markKeys .postgreSQL ((numberTokens 1 st.tokens).map fold))) := by
  have htext : numberFrom 1 st.text = spell (numberPieces 1 (st.pieces ++ st.ending)) ++ st.trail :=
    numberFrom_spell st.valid_ending st.trail_spaces
  have hlex : lex (numberFrom 1 st.text) =
      some (numberTokens 1 st.tokens ++ st.ending.map Piece.token) := by
    rw [htext, lex_spell (valid_of_forall₂ forall₂_numberPieces st.valid_ending)
      (separated_of_forall₂ forall₂_numberPieces st.separated_ending) st.trail_spaces,
      map_token_numberPieces, List.map_append, numberTokens_ending]
    rfl
  have hbind : bind .postgreSQL (numberTokens 1 st.tokens ++ st.ending.map Piece.token) =
      some (numberTokens 1 st.tokens ++ st.ending.map Piece.token) := by
    rw [bind, ← numberTokens_ending, bindPg_numberTokens]
  rw [read, hlex, Option.bind_eq_bind, Option.bind_some, hbind, Option.bind_some]
  dsimp only
  rw [dropTerminator_ending st map_mask_numberTokens, Reading.of, h, if_neg (by simp)]

end Reading

/-! ### Numbered keys -/

section Keys

variable {k : ℕ} {ts ts' : List Token} {st : Statement}

def serialTokens (ts : List Token) : List Token :=
  replaceRun (numberedKey .sqlite) (numberedKey .postgreSQL) 0 ts

lemma mask_eq_iff_of_words {words : List String} :
    ∀ w ∈ words.map fun text => Token.word text.toList, ∀ t, mask t = w ↔ t = w := by
  intro w hw t
  obtain ⟨text, -, rfl⟩ := List.mem_map.mp hw
  exact mask_eq_word_iff

lemma mask_eq_iff_of_key {engine : Engine} :
    ∀ w ∈ numberedKey engine, ∀ t, mask t = w ↔ t = w := by
  cases engine <;> exact mask_eq_iff_of_words

lemma mask_eq_iff_of_conflict : ∀ w ∈ conflictWords, ∀ t, mask t = w ↔ t = w :=
  mask_eq_iff_of_words

lemma insertOr?_markKeys (engine : Engine) : insertOr? (markKeys engine ts) = insertOr? ts := by
  cases engine <;> exact insertOr?_replaceRun (by decide) (by decide)

lemma dropOr_markKeys (engine : Engine) :
    dropOr (markKeys engine ts) = markKeys engine (dropOr ts) := by
  cases engine <;> exact dropOr_replaceRun (by decide) (by decide)

lemma conflictWords_markKeys (engine : Engine) :
    conflictWords <:+: markKeys engine ts ↔ conflictWords <:+: ts := by
  cases engine <;> exact conflictWords_replaceRun (by decide) (by decide)

lemma dropOr_serialTokens : dropOr (serialTokens ts) = serialTokens (dropOr ts) :=
  dropOr_replaceRun (by decide) (by decide)

lemma conflictWords_serialTokens : conflictWords <:+: serialTokens ts ↔ conflictWords <:+: ts :=
  conflictWords_replaceRun (by decide) (by decide)

lemma infix_iff_of_mask {ws : List Token} (hws : ∀ w ∈ ws, ∀ t, mask t = w ↔ t = w)
    (h : ts.map mask = ts'.map mask) : ws <:+: ts ↔ ws <:+: ts' := by
  rw [← infix_map_iff hws, h, infix_map_iff hws]

lemma numberTokens_serialTokens :
    numberTokens k (serialTokens ts) = serialTokens (numberTokens k ts) := by
  refine @scan_replaceRun _ _ _ _ ts numberTokens (by decide) (fun _ => rfl) (fun _ _ => rfl)
    (fun _ _ => rfl) (fun k t => ⟨_, _, fun _ => rfl⟩) (fun k ts h => ?_) k
  rwa [← prefix_map_iff mask_eq_iff_of_key, ← @map_mask_numberTokens k,
    prefix_map_iff mask_eq_iff_of_key]

lemma inSequence_serialTokens :
    inSequence k (serialTokens ts) = serialTokens (inSequence k ts) := by
  refine @scan_replaceRun _ _ _ _ ts inSequence (by decide) (fun _ => rfl) (fun _ _ => rfl)
    (fun _ _ => rfl) (fun k t => ?_) (fun k ts h => ?_) k
  · cases t <;> exact ⟨_, _, fun _ => rfl⟩
  · rwa [← prefix_map_iff mask_eq_iff_of_key, ← @map_mask_inSequence k,
      prefix_map_iff mask_eq_iff_of_key]

lemma insertOr_serial : st.serial.insertOr = st.insertOr := by
  rw [Statement.insertOr, st.map_fold_serial]
  exact insertOr?_replaceRun (by decide) (by decide)

lemma markKeys_serialTokens :
    markKeys .postgreSQL (serialTokens ts) = markKeys .sqlite (markKeys .postgreSQL ts) :=
  replaceRun_replaceRun (by decide) (by decide) (by decide) (by decide)

lemma count_word_eq_of_mask {text : List Char} (h : ts.map mask = ts'.map mask) :
    ts.count (.word text) = ts'.count (.word text) := by
  have hcount : ∀ ts : List Token, (ts.map mask).count (.word text) = ts.count (.word text) := by
    intro ts
    rw [List.count_eq_countP, List.count_eq_countP, List.countP_map]
    exact List.countP_congr fun t _ => by simp [mask_eq_word_iff]
  rw [← hcount ts, h, hcount]

/-- The marks are the same exactly when the tokens are and no key was written for PostgreSQL. -/
lemma markKeys_eq_iff (h : ts.map mask = ts'.map mask) :
    markKeys .postgreSQL (serialTokens ts) = markKeys .sqlite ts' ↔
      ¬ numberedKey .postgreSQL <:+: ts' ∧ ts = ts' := by
  rw [markKeys_serialTokens]
  constructor
  · intro heq
    let serial : Token := .word "BIGSERIAL".toList
    have hcount : (markKeys .postgreSQL ts).count serial = ts.count serial :=
      calc (markKeys .postgreSQL ts).count serial
          = (markKeys .sqlite (markKeys .postgreSQL ts)).count serial :=
            (count_replaceRun (by decide) (by decide) (by decide)).symm
        _ = (markKeys .sqlite ts').count serial := by rw [heq]
        _ = ts'.count serial := count_replaceRun (by decide) (by decide) (by decide)
        _ = ts.count serial := (count_word_eq_of_mask h).symm
    have hnone : ¬ numberedKey .postgreSQL <:+: ts :=
      not_infix_of_count_replaceRun (by decide) (by decide) (by decide) hcount
    rw [markKeys, markKeys, replaceRun_of_no_run hnone] at heq
    refine ⟨fun hkey => hnone ((infix_iff_of_mask mask_eq_iff_of_key h).mpr hkey), ?_⟩
    refine eq_of_replaceRun_eq (by decide) (fun o ho t ht => ?_) h heq
    have hmask : mask o = o := (mask_eq_iff_of_key o ho o).mpr rfl
    exact (mask_eq_iff_of_key o ho t).mp (ht.trans hmask)
  · rintro ⟨hnone, rfl⟩
    have hts : markKeys .postgreSQL ts = ts := replaceRun_of_no_run hnone
    rw [hts]

end Keys

/-! ### The row of the same key -/

section Rows

variable {t : TableDef} {old new row : Row t} {resolution resolution' : Resolution}

lemma key_eq_iff : old.key = new.key ↔
    ∀ c (hc : c ∈ t.primaryKey), old ⟨c, t.key_subset hc⟩ = new ⟨c, t.key_subset hc⟩ := by
  simp [Row.key, List.map_inj_left]

lemma resolve_update {columns : List String} (h : columns ⊆ t.columns) :
    (Resolution.update columns).resolve old new =
      some fun c => if c.1 ∈ columns then new c else old c := if_pos h

lemma resolve_update_of_not {columns : List String} (h : ¬ columns ⊆ t.columns) :
    (Resolution.update columns).resolve old new = none := if_neg h

/-- The row keeps its key. -/
lemma key_of_resolve (hkey : old.key = new.key) (h : resolution.resolve old new = some row) :
    row.key = new.key := by
  cases resolution with
  | fail => cases h
  | keep =>
    cases h
    exact hkey
  | replace =>
    cases h
    rfl
  | update columns =>
    rw [Resolution.resolve] at h
    split_ifs at h
    cases h
    rw [key_eq_iff] at hkey ⊢
    intro c hc
    dsimp only
    split_ifs
    · rfl
    · exact hkey c hc

/-- Inserts are the same on all tables when they do the same to a row of the same key. -/
lemma insertRow_eq_iff :
    (∀ (table : Table (Row.key (t := t))) (new : Row t),
        insertRow resolution table new = insertRow resolution' table new) ↔
      ∀ old new : Row t, old.key = new.key → resolution.resolve old new = resolution'.resolve old new := by
  constructor
  · intro h old new hkey
    have hfind : (Table.empty.put old : Table (Row.key (t := t))).find? new.key = some old :=
      hkey ▸ Table.find?_put_self
    have hput := h (Table.empty.put old) new
    rw [insertRow, insertRow, hfind] at hput
    dsimp only at hput
    have hrow : ∀ row : Row t, row.key = new.key →
        ((Table.empty.put old : Table (Row.key (t := t))).put row).find? new.key = some row :=
      fun row hrow => hrow ▸ Table.find?_put_self
    cases hold : resolution.resolve old new with
    | none =>
      rw [hold] at hput
      exact (Option.map_eq_none_iff.mp hput.symm).symm
    | some row =>
      rw [hold] at hput
      obtain ⟨row', hold', hrows⟩ := Option.map_eq_some_iff.mp hput.symm
      rw [hold', ← hrow row (key_of_resolve hkey hold), ← hrow row' (key_of_resolve hkey hold'), hrows]
  · intro h table new
    rw [insertRow, insertRow]
    cases hfind : table.find? new.key with
    | none => rfl
    | some old => simp only [h old new (Table.key_of_find? hfind)]

/-- An update replaces the row exactly when it sets every column outside the key. -/
lemma update_eq_replace_iff {columns : List String} :
    (∀ old new : Row t, old.key = new.key →
        (Resolution.update columns).resolve old new = Resolution.replace.resolve old new) ↔
      columns ⊆ t.columns ∧ t.columns ⊆ t.primaryKey ++ columns := by
  constructor
  · intro h
    have hsubset : columns ⊆ t.columns := by
      have hsome := h (fun _ => "") (fun _ => "") rfl
      by_contra hnot
      rw [resolve_update_of_not hnot] at hsome
      cases hsome
    refine ⟨hsubset, fun c hc => ?_⟩
    by_contra hnot
    rw [List.mem_append, not_or] at hnot
    let old : Row t := fun _ => ""
    let new : Row t := fun c' => if c'.1 = c then "new" else ""
    have hkey : old.key = new.key := by
      rw [key_eq_iff]
      intro c' hc'
      have hne : c' ≠ c := by
        rintro rfl
        exact hnot.1 hc'
      exact (if_neg hne).symm
    have hrow := h old new hkey
    rw [resolve_update hsubset] at hrow
    have hvalue := congrFun (Option.some_inj.mp hrow) ⟨c, hc⟩
    simp [old, new, hnot.2] at hvalue
  · rintro ⟨hsubset, hcovers⟩ old new hkey
    rw [resolve_update hsubset]
    refine congrArg some (funext fun c => ?_)
    split_ifs with hc
    · rfl
    · have hmem := (List.mem_append.mp (hcovers c.2)).resolve_right hc
      exact key_eq_iff.mp hkey c.1 hmem

lemma not_same_of_fail (or : InsertOr) :
    ¬ ∀ (table : Table (Row.key (t := t))) (new : Row t),
      insertRow .fail table new = insertRow or.resolution table new := by
  rw [insertRow_eq_iff]
  intro h
  have hfail := h (fun _ => "") (fun _ => "") rfl
  cases or <;> cases hfail

end Rows

/-! ### Comparing the readings -/

section Compare

variable {t : TableDef} {st : Statement} {k : ℕ}

def pgClauseTokens (st : Statement) : List Token :=
  (((pgClause st).map Clause.pieces).getD []).map fun p => fold p.token

lemma pgClause_cases (st : Statement) : pgClause st = none ∨ pgClause st = some doNothingClause ∨
    pgClause st = some updateOtpClause ∨ pgClause st = some updateTenantClause := by
  rw [pgClause]
  cases st.insertOr with
  | none => exact .inl rfl
  | some or =>
    dsimp only
    by_cases hconflict : onConflict.test st.insertText = true
    · exact .inl (if_pos hconflict)
    · rw [if_neg hconflict]
      cases or with
      | ignore => exact .inr (.inl rfl)
      | replace =>
        dsimp only
        split_ifs
        · exact .inr (.inr (.inl rfl))
        · exact .inr (.inr (.inr rfl))
        · exact .inl rfl

/-- The clauses are words and symbols, start with their keywords and hold none of a key. -/
lemma pgClauseTokens_eq (st : Statement) : (∀ k, numberTokens k (pgClauseTokens st) = pgClauseTokens st) ∧
    (pgClauseTokens st = [] ∨ isOnConflict (pgClauseTokens st) = true) ∧
      ∀ t ∈ pgClauseTokens st, t ∉ numberedKey .postgreSQL := by
  rw [pgClauseTokens]
  obtain h | h | h | h := pgClause_cases st <;> rw [h]
  · exact ⟨fun _ => rfl, .inl rfl, by decide⟩
  · exact ⟨fun _ => rfl, .inr rfl, by decide⟩
  · exact ⟨fun _ => rfl, .inr rfl, by decide⟩
  · exact ⟨fun _ => rfl, .inr rfl, by decide⟩

lemma map_fold_pgStatement (st : Statement) : (pgStatement st).tokens.map fold =
    dropOr (st.tokens.map fold) ++ pgClauseTokens st := by
  rw [pgStatement, pgClauseTokens]
  cases pgClause st with
  | none =>
    rw [map_fold_withoutOr]
    exact (List.append_nil _).symm
  | some clause =>
    rw [Statement.tokens_append, List.map_append, map_fold_withoutOr, List.map_map]
    rfl

/-- The tokens without the `OR`, with the placeholders in the order of their places. -/
def sqliteTokens (st : Statement) : List Token :=
  markKeys .sqlite (inSequence 1 (dropOr (st.tokens.map fold)))

/-- The tokens without the `OR`, with the placeholders numbered. -/
def pgTokens (st : Statement) : List Token :=
  markKeys .postgreSQL (numberTokens 1 (dropOr (st.serial.tokens.map fold)))

lemma clause_eq : st.clause = (splitClause (sqliteTokens st)).2 := by
  rw [Statement.clause, Reading.of, map_fold_inSequence, dropOr_markKeys, dropOr_inSequence,
    sqliteTokens]

lemma read_sqlite_eq : read .sqlite (normalizeSql .sqlite st.text) =
    some ⟨st.insertOr, (splitClause (sqliteTokens st)).1, (splitClause (sqliteTokens st)).2⟩ := by
  have hor : insertOr? (inSequence 1 (st.tokens.map fold)) = st.insertOr :=
    insertOr?_of_mask map_mask_inSequence
  rw [read_sqlite, map_fold_inSequence, Reading.of, insertOr?_markKeys, dropOr_markKeys,
    dropOr_inSequence, hor, sqliteTokens]

lemma read_postgreSQL_eq (h : ¬ Touched st.serial) :
    read .postgreSQL (normalizeSql .postgreSQL st.text) =
      some ⟨none, (splitClause (pgTokens st ++ pgClauseTokens st.serial)).1,
        (splitClause (pgTokens st ++ pgClauseTokens st.serial)).2⟩ := by
  have htokens : markKeys .postgreSQL ((numberTokens 1 (pgStatement st.serial).tokens).map fold) =
      pgTokens st ++ pgClauseTokens st.serial := by
    rw [map_fold_numberTokens, map_fold_pgStatement,
      numberTokens_append (pgClauseTokens_eq st.serial).1, markKeys,
      replaceRun_append_of_notMem (by decide) (pgClauseTokens_eq st.serial).2.2, pgTokens, markKeys]
  have hor : insertOr? (pgTokens st ++ pgClauseTokens st.serial) = none := by
    cases hst : st.serial.insertOr with
    | none =>
      have hclause : pgClauseTokens st.serial = [] := by rw [pgClauseTokens, pgClause, hst]; rfl
      rw [hclause, List.append_nil, pgTokens, insertOr?_markKeys,
        insertOr?_of_mask map_mask_numberTokens, insertOr?_dropOr]
    | some or =>
      obtain ⟨rest, hrest⟩ := insertOr?_eq_some hst
      have hdrop : dropOr (st.serial.tokens.map fold) = insertInto ++ rest := by
        rw [dropOr, ← Statement.insertOr, hst, hrest]
        rfl
      have hnumber : numberTokens 1 (insertInto ++ rest) = insertInto ++ numberTokens 1 rest := rfl
      rw [pgTokens, hdrop, hnumber, markKeys, numberedKey, List.map_cons,
        replaceRun_append_left (by decide), List.append_assoc]
      exact insertOr?_insertInto
  rw [normalizeSql_serial, normalizeSql_postgreSQL h, read_postgreSQL _ (by rw [htokens, hor]),
    htokens, Reading.of, hor, dropOr, hor]
  rfl

lemma dropOr_serial : dropOr (st.serial.tokens.map fold) =
    serialTokens (dropOr (st.tokens.map fold)) := by
  rw [st.map_fold_serial]
  exact dropOr_serialTokens

lemma infix_dropOr_iff {ws : List Token} (hne : ws ≠ []) (hws : ∀ x ∈ clauseWords, x ∉ ws) :
    ws <:+: dropOr (st.tokens.map fold) ↔ ws <:+: st.tokens.map fold := by
  rw [dropOr]
  cases h : insertOr? (st.tokens.map fold) with
  | none => rfl
  | some or =>
    obtain ⟨rest, hrest⟩ := insertOr?_eq_some_iff.mp h
    have hinto : insertInto ⊆ clauseWords := by decide
    have hor : [.word "INSERT".toList, .word "OR".toList, .word or.word, .word "INTO".toList] ⊆
        clauseWords := by cases or <;> decide
    rw [← hrest, infix_append_iff (fun x hx => hws x (hor hx)) hne, Option.isSome_some, if_pos rfl]
    exact infix_append_iff (fun x hx => hws x (hinto hx)) hne

/-- The tokens are the same for both engines exactly when no key is written in PostgreSQL's words and
the placeholders are in order. -/
lemma pgTokens_eq_sqliteTokens_iff : pgTokens st = sqliteTokens st ↔
    ¬ numberedKey .postgreSQL <:+: st.tokens.map fold ∧
      (∀ token ∈ st.tokens, token.Clean) ∧ InOrder st.tokens := by
  have hfold : ∀ ts : List Token, placeholders (ts.map fold) = placeholders ts := by
    intro ts
    induction ts with
    | nil => rfl
    | cons t ts ih =>
      cases t with
      | question => exact congrArg (Token.question :: ·) ih
      | numbered n => exact congrArg (Token.numbered n :: ·) ih
      | word | literal | symbol => exact ih
  have hclean : ∀ token, (fold token).Clean ↔ token.Clean := by
    intro token
    cases token <;> rfl
  have hdrop : ∀ ts, ((∀ token ∈ dropOr ts, token.Clean) ↔ ∀ token ∈ ts, token.Clean) ∧
      placeholders (dropOr ts) = placeholders ts := by
    intro ts
    rw [dropOr]
    cases h : insertOr? ts with
    | none => exact ⟨Iff.rfl, rfl⟩
    | some or =>
      obtain ⟨rest, rfl⟩ := insertOr?_eq_some h
      refine ⟨?_, rfl⟩
      simp [insertInto, Token.Clean]
  have hmask : (numberTokens 1 (dropOr (st.tokens.map fold))).map mask =
      (inSequence 1 (dropOr (st.tokens.map fold))).map mask :=
    map_mask_numberTokens.trans map_mask_inSequence.symm
  rw [pgTokens, sqliteTokens, dropOr_serial, numberTokens_serialTokens, markKeys_eq_iff hmask,
    infix_iff_of_mask mask_eq_iff_of_key map_mask_inSequence,
    infix_dropOr_iff (by decide) (by decide), numberTokens_eq_inSequence_iff, (hdrop _).1, InOrder,
    (hdrop _).2, hfold, List.forall_mem_map]
  simp only [hclean]
  rfl

lemma clause_pgTokens_eq_nil_iff : (splitClause (pgTokens st)).2 = [] ↔ st.clause = [] := by
  rw [clause_eq, clause_eq_nil_iff, clause_eq_nil_iff, pgTokens, sqliteTokens, conflictWords_markKeys,
    conflictWords_markKeys, infix_iff_of_mask mask_eq_iff_of_conflict map_mask_numberTokens,
    infix_iff_of_mask mask_eq_iff_of_conflict map_mask_inSequence, dropOr_serial,
    conflictWords_serialTokens]

/-- A clause of the statement is seen in its text. -/
lemma onConflict_test_of_clause (h : st.clause ≠ []) :
    onConflict.test st.serial.insertText = true := by
  rw [ne_eq, ← clause_pgTokens_eq_nil_iff, clause_eq_nil_iff, not_not, pgTokens,
    conflictWords_markKeys, infix_iff_of_mask mask_eq_iff_of_conflict map_mask_numberTokens,
    ← map_fold_withoutOr] at h
  obtain ⟨xs, ys, hts⟩ := h
  rw [Statement.tokens, List.map_map, List.append_assoc, eq_comm] at hts
  obtain ⟨before, after, hpieces, -, hafter⟩ := List.map_eq_append_iff.mp hts
  obtain ⟨p, after, rfl, hp, hafter⟩ := List.map_eq_cons_iff.mp hafter
  obtain ⟨q, after, rfl, hq, -⟩ := List.map_eq_cons_iff.mp hafter
  obtain ⟨w, htp, hw⟩ := fold_eq_word hp
  obtain ⟨w', htq, hw'⟩ := fold_eq_word hq
  have hvalid : ∀ r ∈ before ++ p :: q :: after, r.Valid := by
    intro r hr
    exact (st.serial.withoutOr.valid r (hpieces ▸ hr)).1
  have hgap : q.gap ≠ [] := by
    have hseparated := st.serial.withoutOr.separated
    rw [hpieces, Separated, List.isChain_append_cons_cons] at hseparated
    exact hseparated.2.1 (by rw [htp]; rfl) (by rw [htq]; rfl)
  have hq := hvalid q (by simp)
  have htext : st.serial.insertText = (spell before ++ p.gap) ++
      (w ++ (q.gap ++ (w' ++ (spell (after ++ st.serial.ending) ++ st.serial.trail)))) := by
    rw [← st.serial.text_withoutOr, Statement.text, hpieces]
    simp [Statement.ending, Statement.withoutOr, spell, Piece.spell, htp, htq, Token.spell]
  rw [htext, Pattern.test_eq_true_iff]
  refine ⟨_, List.suffix_append _ _, ?_⟩
  have hrest : onConflict.rest? (w ++ (q.gap ++ (w' ++
      (spell (after ++ st.serial.ending) ++ st.serial.trail)))) =
        some (spell (after ++ st.serial.ending) ++ st.serial.trail) := by
    rw [onConflict, phrase_rest?]
    exact (matchPhrase_word hw hgap hq.1 (dropWhile_word (by rw [← htq]; exact hq.2))).trans
      (matchWord_map hw')
  rw [hrest]
  rfl

lemma splitClause_of_clause_eq_nil {ts : List Token} (h : (splitClause ts).2 = []) :
    splitClause ts = (ts, []) := by
  have happend := splitClause_append ts
  rw [h, List.append_nil] at happend
  exact Prod.ext happend h

/-- Without an `OR` the statements that the engines read are the same. -/
lemma sameEffect_of_none (h : st.insertOr = none) :
    SameEffect t ⟨st.insertOr, (splitClause (sqliteTokens st)).1, (splitClause (sqliteTokens st)).2⟩
        ⟨none, (splitClause (pgTokens st ++ pgClauseTokens st.serial)).1,
          (splitClause (pgTokens st ++ pgClauseTokens st.serial)).2⟩ ↔
      pgTokens st = sqliteTokens st := by
  have hclause : pgClauseTokens st.serial = [] := by
    rw [pgClauseTokens, pgClause, insertOr_serial, h]
    rfl
  rw [hclause, List.append_nil, h]
  exact splits_iff

/-- A clause of the statement is read by both engines, and has to be for the key. -/
lemma sameEffect_of_clause {or : InsertOr} (hor : st.insertOr = some or) (h : st.clause ≠ []) :
    SameEffect t ⟨st.insertOr, (splitClause (sqliteTokens st)).1, (splitClause (sqliteTokens st)).2⟩
        ⟨none, (splitClause (pgTokens st ++ pgClauseTokens st.serial)).1,
          (splitClause (pgTokens st ++ pgClauseTokens st.serial)).2⟩ ↔
      pgTokens st = sqliteTokens st ∧ HandlesKey t st.clause := by
  have hclause : pgClauseTokens st.serial = [] := by
    rw [pgClauseTokens, pgClause, insertOr_serial, hor]
    dsimp only
    rw [if_pos (onConflict_test_of_clause h)]
    rfl
  rw [hclause, List.append_nil, hor, SameEffect]
  dsimp only
  rw [← clause_eq, if_neg h, ← and_assoc, clause_eq, splits_iff]

/-- Without a clause of its own, PostgreSQL reads the one that the code writes. -/
lemma sameEffect_of_clause_eq_nil {or : InsertOr} (hor : st.insertOr = some or)
    (h : st.clause = []) :
    SameEffect t ⟨st.insertOr, (splitClause (sqliteTokens st)).1, (splitClause (sqliteTokens st)).2⟩
        ⟨none, (splitClause (pgTokens st ++ pgClauseTokens st.serial)).1,
          (splitClause (pgTokens st ++ pgClauseTokens st.serial)).2⟩ ↔
      pgTokens st = sqliteTokens st ∧
        ∃ resolution, clauseResolution t (pgClauseTokens st.serial) = some resolution ∧
          ∀ (table : Table (Row.key (t := t))) (new : Row t),
            insertRow resolution table new = insertRow or.resolution table new := by
  have hsqlite : splitClause (sqliteTokens st) = (sqliteTokens st, []) :=
    splitClause_of_clause_eq_nil (clause_eq.symm.trans h)
  have hpg : splitClause (pgTokens st ++ pgClauseTokens st.serial) =
      (pgTokens st, pgClauseTokens st.serial) := by
    have hnil := clause_pgTokens_eq_nil_iff.mpr h
    obtain hempty | hstart := (pgClauseTokens_eq st.serial).2.1
    · rw [hempty, List.append_nil]
      exact splitClause_of_clause_eq_nil hnil
    · exact splitClause_of_clause hnil hstart
  rw [hsqlite, hpg, hor, SameEffect]
  dsimp only
  rw [if_pos rfl]

/-! ### What the clauses of the code do -/

lemma clauseResolution_doNothing :
    clauseResolution t (doNothingClause.pieces.map fun p => fold p.token) = some .keep := by
  have htarget : splitTarget ((doNothingClause.pieces.map fun p => fold p.token).drop 2) =
      (none, [.word "DO".toList, .word "NOTHING".toList]) := by decide
  have hhandles : HandlesKey t (doNothingClause.pieces.map fun p => fold p.token) := by
    rw [HandlesKey, htarget]
    nofun
  rw [clauseResolution, if_neg (by decide), if_pos hhandles, htarget]
  rfl

/-- A clause that updates columns does so for conflicts of its key. -/
lemma exists_same_of_update {clause : List Token} {key : String} {columns : List String}
    (hne : clause ≠ []) (htarget : (splitTarget (clause.drop 2)).1 = some [key])
    (haction : action? (splitTarget (clause.drop 2)).2 = some (.update columns)) :
    (∃ resolution, clauseResolution t clause = some resolution ∧
        ∀ (table : Table (Row.key (t := t))) (new : Row t),
          insertRow resolution table new = insertRow InsertOr.replace.resolution table new) ↔
      Covers t [key] columns := by
  have hhandles : HandlesKey t clause ↔ [key] ⊆ t.primaryKey ∧ t.primaryKey ⊆ [key] := by
    rw [HandlesKey, htarget]
    simp only [Option.mem_some_iff, forall_eq']
  rw [clauseResolution, if_neg hne, haction, Covers]
  by_cases hkey : HandlesKey t clause
  · rw [if_pos hkey]
    simp only [Option.some.injEq, exists_eq_left', insertRow_eq_iff, InsertOr.resolution,
      update_eq_replace_iff, hhandles.mp hkey, true_and, and_self]
  · rw [if_neg hkey]
    refine iff_of_false ?_ fun h => hkey (hhandles.mpr h.1)
    rintro ⟨resolution, ⟨⟩, hsame⟩
    exact not_same_of_fail .replace hsame

/-- The clause of the code does what the `OR` says. -/
lemma exists_same_iff_resolves {or : InsertOr} (hor : st.insertOr = some or) (h : st.clause = []) :
    (∃ resolution, clauseResolution t (pgClauseTokens st.serial) = some resolution ∧
        ∀ (table : Table (Row.key (t := t))) (new : Row t),
          insertRow resolution table new = insertRow or.resolution table new) ↔ Resolves t st := by
  have hfail : ¬ ∃ resolution, clauseResolution t [] = some resolution ∧
      ∀ (table : Table (Row.key (t := t))) (new : Row t),
        insertRow resolution table new = insertRow or.resolution table new := by
    rintro ⟨resolution, ⟨⟩, hsame⟩
    exact not_same_of_fail or hsame
  rw [pgClauseTokens, pgClause, insertOr_serial, Resolves, hor]
  cases or with
  | ignore =>
    dsimp only
    rw [if_pos h]
    by_cases hconflict : onConflict.test st.serial.insertText = true
    · rw [if_pos hconflict]
      exact iff_of_false hfail (by simp [hconflict])
    · rw [if_neg hconflict]
      refine iff_of_true ⟨.keep, clauseResolution_doNothing, fun _ _ => rfl⟩ (by simpa using hconflict)
  | replace =>
    dsimp only
    rw [if_pos h]
    by_cases hconflict : onConflict.test st.serial.insertText = true
    · rw [if_pos hconflict]
      exact iff_of_false hfail (by simp [hconflict])
    · rw [if_neg hconflict]
      have hfalse : onConflict.test st.serial.insertText = false := by simpa using hconflict
      rw [and_iff_right hfalse]
      by_cases hotps : authOtps.test st.serial.insertText = true
      · rw [if_pos hotps, if_pos hotps]
        exact exists_same_of_update (by decide) (by decide) (by decide)
      · rw [if_neg hotps, if_neg hotps]
        by_cases htenants : tenants.test st.serial.insertText = true
        · rw [if_pos htenants, and_iff_right htenants]
          exact exists_same_of_update (by decide) (by decide) (by decide)
        · rw [if_neg htenants]
          exact iff_of_false hfail fun h => htenants h.1

end Compare

lemma runsAlike_iff {t : TableDef} {st : Statement} (h : ¬ Touched st.serial) :
    RunsAlike t st ↔ (¬ numberedKey .postgreSQL <:+: st.tokens.map fold ∧
      (∀ token ∈ st.tokens, token.Clean) ∧ InOrder st.tokens) ∧ Resolves t st := by
  rw [RunsAlike, read_sqlite_eq, read_postgreSQL_eq h, ← pgTokens_eq_sqliteTokens_iff]
  simp only [Option.some.injEq, exists_and_left, exists_eq_left']
  obtain hor | ⟨or, hor⟩ := Option.eq_none_or_eq_some st.insertOr
  · rw [sameEffect_of_none hor, Resolves, hor, and_true]
  · by_cases hclause : st.clause = []
    · rw [sameEffect_of_clause_eq_nil hor hclause, exists_same_iff_resolves hor hclause]
    · rw [sameEffect_of_clause hor hclause, Resolves, hor]
      cases or <;> simp only [if_neg hclause]

/-! ### Patterns that match elsewhere -/

section Exactness

variable {t : TableDef} {st : Statement} {x : Char} {sql before : List Char} {ts ts' : List Token}
  {clause : Clause} {pg : Reading}

lemma exists_clause_append (h : isOnConflict ts' = true) :
    ∃ extra, (splitClause (ts ++ ts')).2 = extra ++ ts' := by
  induction ts with
  | nil =>
    cases ts' with
    | nil => cases h
    | cons t ts' => exact ⟨[], by rw [List.nil_append, splitClause, if_pos h]⟩
  | cons t ts ih =>
    rw [List.cons_append, splitClause]
    split_ifs
    · exact ⟨t :: ts, rfl⟩
    · exact ih

/-- What PostgreSQL reads of a text in which the question marks were numbered. -/
lemma exists_of_read (h : read .postgreSQL (numberFrom 1 sql) = some pg) :
    ∃ ts, lex (numberFrom 1 sql) = some ts ∧
      splitClause (markKeys .postgreSQL (dropTerminator (ts.map fold))) = (pg.body, pg.clause) := by
  rw [read, Option.bind_eq_bind, Option.bind_eq_some_iff] at h
  obtain ⟨ts, hlex, hts⟩ := h
  rw [Option.bind_eq_some_iff] at hts
  obtain ⟨ts', hbind, hread⟩ := hts
  obtain rfl : ts = ts' := by
    rw [bind, bindPg] at hbind
    split_ifs at hbind
    exact Option.some_inj.mp hbind
  refine ⟨ts, hlex, ?_⟩
  dsimp only at hread
  split_ifs at hread with hor
  cases hread
  have hnone : ¬ (insertOr? (markKeys .postgreSQL (dropTerminator (ts.map fold)))).isSome = true :=
    fun hsome => hor ⟨rfl, hsome⟩
  rw [Reading.of, dropOr, if_neg hnone]

lemma letters_of_read (hx : x.isUpper = true) (h : read .postgreSQL (numberFrom 1 sql) = some pg) :
    lettersOf x pg.body + lettersOf x pg.clause = letters x sql := by
  obtain ⟨ts, hlex, hsplit⟩ := exists_of_read h
  have happend := splitClause_append (markKeys .postgreSQL (dropTerminator (ts.map fold)))
  rw [hsplit] at happend
  rw [← lettersOf_append, happend, lettersOf_markKeys_postgreSQL hx, lettersOf_dropTerminator hx,
    lettersOf_map_fold, lettersOf_lex hx hlex, letters_numberFrom hx]

/-- A clause that was written behind the text is read there. -/
lemma exists_clause_of_read {ignores replaces : ℕ}
    (happended : Appended ignores replaces sql (some clause))
    (h : read .postgreSQL (numberFrom 1 sql) = some pg) :
    ∃ extra, pg.clause = extra ++ clause.pieces.map fun p => fold p.token := by
  obtain ⟨ts, hlex, hsplit⟩ := exists_of_read h
  obtain ⟨before, rfl⟩ := happended.exists_text
  obtain ⟨hchars, hstart, hkey⟩ : (∀ c ∈ spell clause.pieces ++ [';'], c ≠ '\'' ∧ c ≠ '?') ∧
      isOnConflict (clause.pieces.map fun p => fold p.token) = true ∧
        ∀ t ∈ clause.pieces.map (fun p => fold p.token), t ∉ numberedKey .postgreSQL := by
    cases happended <;> decide +kernel
  have hquote : '\'' ∉ spell clause.pieces ++ [';'] := fun hmem => (hchars _ hmem).1 rfl
  have hmark : '?' ∉ spell clause.pieces ++ [';'] := fun hmem => (hchars _ hmem).2 rfl
  let pieces : List Piece := clause.pieces ++ [⟨[], .symbol ';'⟩]
  have hspell : spell pieces = spell clause.pieces ++ [';'] := spell_append _ _
  have hvalid : ∀ p ∈ pieces, p.Valid := by
    intro p hp
    obtain hp | hp := List.mem_append.mp hp
    · exact (clause.valid p hp).1
    · obtain rfl := List.mem_singleton.mp hp
      decide
  have hseparated : Separated pieces :=
    separated_append clause.separated (by decide) (by rintro q ⟨⟩ hsolid; cases hsolid)
  have hfirst : ∀ p ∈ pieces.head?, p.gap ≠ [] := by
    have hspace := clause.after_space
    cases hpieces : clause.pieces with
    | nil => rw [hpieces] at hstart; cases hstart
    | cons p ps =>
      intro q hq
      refine hspace q ?_
      simpa [pieces, hpieces] using hq
  rw [numberFrom_append, numberFrom_of_notMem hmark, ← hspell] at hlex
  obtain ⟨ts', rfl⟩ := exists_of_lex_append hvalid hseparated hfirst (hspell ▸ hquote) hlex
  have hdrop : dropTerminator ((ts' ++ pieces.map Piece.token).map fold) =
      ts'.map fold ++ clause.pieces.map fun p => fold p.token := by
    simp [pieces, dropTerminator, fold]
  rw [hdrop, markKeys, replaceRun_append_of_notMem (by decide) hkey] at hsplit
  have hclause : (splitClause _).2 = pg.clause := congrArg Prod.snd hsplit
  rw [← hclause]
  exact exists_clause_append hstart

/-- The letters that SQLite reads are those of the statement without its `OR`. -/
lemma lettersOf_sqliteTokens (hx : x.isUpper = true) :
    lettersOf x (sqliteTokens st) = letters x st.serial.insertText := by
  have hmark : ∀ ts, lettersOf x (markKeys .sqlite ts) = lettersOf x (serialTokens ts) := fun ts =>
    lettersOf_replaceRun (by decide) (lettersOf_keyMark hx)
  rw [sqliteTokens, hmark, ← inSequence_serialTokens, lettersOf_inSequence hx, ← dropOr_serial,
    ← map_fold_withoutOr, lettersOf_map_fold, letters_insertText hx, tokens_withoutOr]

/-- What PostgreSQL reads is balanced by what was rewritten. -/
lemma balanced_of_read {added : Option Clause}
    (hread : read .postgreSQL (numberFrom 1 (normalizeReplace (normalizeIgnore (pragmaText st)))) =
      some pg)
    (hbody : pg.body = (splitClause (sqliteTokens st)).1)
    (hletters : ∀ x, x.isUpper = true →
      letters x (normalizeReplace (normalizeIgnore (pragmaText st))) +
        insertOrIgnore.count (pragmaText st) * orLetters x .ignore +
          insertOrReplace.count (normalizeIgnore (pragmaText st)) * orLetters x .replace =
        letters x (pragmaText st) + lettersOf x (addedTokens added)) :
    Balanced (autoincrement.count st.serial.text) (pragma.count (keysText st))
      (insertOrIgnore.count (pragmaText st)) (insertOrReplace.count (normalizeIgnore (pragmaText st)))
      (fun x => lettersOf x pg.clause) fun x => lettersOf x (splitClause (sqliteTokens st)).2 +
        orPart x st.insertOr + lettersOf x (addedTokens added) := by
  intro x hx
  have hkeys : letters x (keysText st) + _ = _ := letters_autoincrement hx
  have hpragmas : letters x (pragmaText st) + _ ≤ _ := letters_pragma
  have hnone : pragma.count (keysText st) = 0 →
      letters x (pragmaText st) = letters x (keysText st) := by
    intro hcount
    rw [pragmaText, Pattern.replaceAll_of_not_test (Pattern.count_eq_zero_iff.mp hcount)]
  have hor : letters x st.serial.text = letters x st.serial.insertText + orPart x st.insertOr := by
    rw [← insertOr_serial]
    cases hor : st.serial.insertOr with
    | none => exact letters_text_of_none hx hor
    | some or => exact letters_text_of_or hx hor
  have hsqlite : lettersOf x (splitClause (sqliteTokens st)).1 +
      lettersOf x (splitClause (sqliteTokens st)).2 = letters x st.serial.insertText := by
    rw [← lettersOf_append, splitClause_append, lettersOf_sqliteTokens hx]
  have hpg := letters_of_read hx hread
  rw [hbody] at hpg
  have hrewritten := hletters x hx
  dsimp only
  constructor
  · omega
  · intro hcount
    have := hnone hcount
    omega

lemma clause_eq_nil_or (ts : List Token) :
    (splitClause ts).2 = [] ∨ isOnConflict (splitClause ts).2 = true := by
  induction ts with
  | nil => exact .inl rfl
  | cons t ts ih =>
    rw [splitClause]
    split_ifs with hstart
    · exact .inr hstart
    · exact ih

/-- Where only the `OR` of the statement is taken out, no pattern matches elsewhere. -/
lemma not_touched_of_onlyOr (h : OnlyOr st.insertOr (autoincrement.count st.serial.text)
    (pragma.count (keysText st)) (insertOrIgnore.count (pragmaText st))
    (insertOrReplace.count (normalizeIgnore (pragmaText st)))) : ¬ Touched st.serial := by
  obtain ⟨hkeys, hpragmas, hignores, hreplaces⟩ := h
  rw [Pattern.count_eq_zero_iff] at hkeys
  have hkeysText : keysText st = st.serial.text := Pattern.replaceAll_of_not_test hkeys
  rw [hkeysText, Pattern.count_eq_zero_iff] at hpragmas
  have hpragmaText : pragmaText st = st.serial.text := by
    rw [pragmaText, hkeysText, Pattern.replaceAll_of_not_test hpragmas]
  rw [hpragmaText] at hignores hreplaces
  simp only [Touched, not_or, Bool.not_eq_true, insertOr_serial]
  refine ⟨hkeys, hpragmas, ?_⟩
  have hnormalize : insertOrIgnore.test st.serial.text = false →
      normalizeIgnore st.serial.text = st.serial.text := fun htest => by
    rw [normalizeIgnore, if_neg (by simp [htest])]
  cases hor : st.insertOr with
  | none =>
    rw [hor, if_neg (by decide), Pattern.count_eq_zero_iff] at hignores
    rw [hnormalize hignores, hor, if_neg (by decide), Pattern.count_eq_zero_iff] at hreplaces
    rw [if_neg (by decide), Statement.insertText,
      Statement.insertPieces_of_none (insertOr_serial.trans hor)]
    exact ⟨hignores, hreplaces⟩
  | some or =>
    have hcount := count_text (insertOr_serial.trans hor)
    have hne := insertPieces_ne_nil (insertOr_serial.trans hor)
    cases or with
    | replace =>
      rw [hor, if_neg (by decide), Pattern.count_eq_zero_iff] at hignores
      rw [hnormalize hignores, hor, if_pos rfl] at hreplaces
      rw [if_neg (by decide)]
      refine ⟨hignores, Pattern.count_eq_zero_iff.mp ?_⟩
      rw [InsertOr.pattern] at hcount
      omega
    | ignore =>
      rw [hor, if_pos rfl] at hignores
      rw [hor, if_neg (by decide), Pattern.count_eq_zero_iff] at hreplaces
      have hinsert : insertOrIgnore.test st.serial.insertText = false := by
        rw [← Pattern.count_eq_zero_iff]
        rw [InsertOr.pattern] at hcount
        omega
      obtain ⟨htest, hreplaced⟩ := replaceAll_text (insertOr_serial.trans hor) hinsert
      rw [InsertOr.pattern] at htest hreplaced
      rw [if_pos rfl]
      refine ⟨hinsert, ?_⟩
      rw [normalizeIgnore, if_pos htest, hreplaced] at hreplaces
      dsimp only at hreplaces
      split_ifs at hreplaces
      · exact hreplaces
      · rw [← Statement.text_withoutOr, withClause_text hne (by decide) toList_doNothing] at hreplaces
        exact insertOrReplace_test_of_append hne hreplaces

/-- A text in which a pattern matches elsewhere is read otherwise, or not at all. -/
lemma not_touched_of_runsAlike (h : RunsAlike t st) : ¬ Touched st.serial := by
  obtain ⟨sqlite, pg, hsqlite, hpg, hbody, hclause⟩ := h
  rw [read_sqlite_eq] at hsqlite
  obtain rfl := Option.some_inj.mp hsqlite
  rw [normalizeSql_serial] at hpg
  dsimp only at hbody hclause
  have hread : read .postgreSQL (numberFrom 1 (normalizeReplace (normalizeIgnore (pragmaText st)))) =
    some pg := hpg
  obtain ⟨added, happended, hletters⟩ := exists_appended (pragmaText st)
  have hbalanced := balanced_of_read hread hbody hletters
  refine not_touched_of_onlyOr ?_
  have hsame : pg.clause = (splitClause (sqliteTokens st)).2 →
      OnlyOr st.insertOr _ _ _ _ := fun hclause =>
    onlyOr_of_same happended
      (fun hor => count_pos insertOrIgnore (insertOrIgnore_test_of_ignore (insertOr_serial.trans hor)))
      (hbalanced.cancel fun x => by rw [hclause]; omega)
  cases hor : st.insertOr with
  | none =>
    rw [hor] at hclause hsame
    exact hsame hclause
  | some or =>
    rw [hor] at hclause hsame hbalanced
    dsimp only at hclause
    split_ifs at hclause with hnil
    · rw [hnil] at hbalanced
      cases added with
      | some clause =>
        obtain ⟨extra, hextra⟩ := exists_clause_of_read happended hread
        have hcancel : ∀ x, lettersOf x pg.clause + orPart x (some or) = lettersOf x extra +
            (lettersOf x [] + orPart x (some or) + lettersOf x (addedTokens (some clause))) := by
          intro x
          have hfold : lettersOf x (clause.pieces.map fun p => fold p.token) =
              lettersOf x (addedTokens (some clause)) := by
            rw [← Function.comp_def, ← List.map_map, lettersOf_map_fold]
            rfl
          rw [hextra, lettersOf_append, hfold, lettersOf_nil]
          omega
        exact onlyOr_of_appended happended (hbalanced.cancel hcancel)
      | none =>
        obtain ⟨ts, -, hsplit⟩ := exists_of_read hread
        have hend : (splitClause _).2 = pg.clause := congrArg Prod.snd hsplit
        obtain ⟨resolution, hresolution, hinsert⟩ := hclause
        obtain hempty | hstart := clause_eq_nil_or
          (markKeys .postgreSQL (dropTerminator (ts.map fold)))
        · rw [← hend, hempty] at hresolution
          cases hresolution
          exact absurd hinsert (not_same_of_fail or)
        · obtain ⟨ys, hys⟩ := isOnConflict_eq_true_iff.mp hstart
          rw [hend] at hys
          have hleft : Balanced _ _ _ _ (fun x => lettersOf x pg.clause) fun x => orPart x (some or) :=
            hbalanced.cancel fun x => by simp [addedTokens]
          refine (not_balanced_of_clause ?_ hleft).elim
          have htwo : tokenLetters 'N' (.word "ON".toList) +
              tokenLetters 'N' (.word "CONFLICT".toList) = 2 := by decide
          rw [hys, lettersOf_cons, lettersOf_cons]
          omega
    · exact hsame hclause.1

end Exactness

/-- A statement has the same effect on both engines exactly when no pattern matches elsewhere, no key is
written in PostgreSQL's words, its literals are clean, its placeholders are in order, and its `OR` has a
clause that does the same. -/
theorem runsAlike_statement_iff {t : TableDef} {st : Statement} : RunsAlike t st ↔
    (¬ Touched st.serial ∧ ¬ numberedKey .postgreSQL <:+: st.tokens.map fold) ∧
      ((∀ token ∈ st.tokens, token.Clean) ∧ InOrder st.tokens) ∧ Resolves t st := by
  constructor
  · intro h
    have htouched := not_touched_of_runsAlike h
    obtain ⟨⟨hkey, hplaceholders⟩, hresolves⟩ := (runsAlike_iff htouched).mp h
    exact ⟨⟨htouched, hkey⟩, hplaceholders, hresolves⟩
  · rintro ⟨⟨htouched, hkey⟩, hplaceholders, hresolves⟩
    exact (runsAlike_iff htouched).mpr ⟨⟨hkey, hplaceholders⟩, hresolves⟩

instance (t : TableDef) (key columns : List String) : Decidable (Covers t key columns) := by
  unfold Covers
  infer_instance

/-! ### Statements of the program -/

def authOtpsTable : TableDef where
  columns := ["EMAIL", "OTP", "EXPIRES_AT", "CREATED_AT"]
  primaryKey := ["EMAIL"]
  key_subset := by decide

def usersTable : TableDef where
  columns := ["ID", "EMAIL", "NAME", "PASSWORD_HASH", "MFA_ENABLED", "MFA_SECRET", "CREATED_AT"]
  primaryKey := ["ID"]
  key_subset := by decide

/-- `CREATE TABLE authority_checks (id INTEGER PRIMARY KEY AUTOINCREMENT, check_name TEXT NOT NULL)`. -/
def createChecks : Statement where
  pieces := [keyword "CREATE", keyword "TABLE", keyword "authority_checks", ⟨[' '], .symbol '('⟩,
    ⟨[], .word "id".toList⟩, keyword "INTEGER", keyword "PRIMARY", keyword "KEY",
    keyword "AUTOINCREMENT", ⟨[], .symbol ','⟩, keyword "check_name", keyword "TEXT", keyword "NOT",
    keyword "NULL", ⟨[], .symbol ')'⟩]
  terminator := none
  trail := []
  valid := by decide
  separated := by decide
  terminator_spaces := nofun
  trail_spaces := spaces_nil

/-- A key that numbers its rows does so on both engines. -/
example (t : TableDef) : RunsAlike t createChecks :=
  (runsAlike_iff (by decide +kernel)).mpr ⟨⟨by decide, by decide, 0, 0, by decide⟩, trivial⟩

/-- `INSERT OR REPLACE INTO table (c, c') VALUES (?, ?);`. -/
def insertPair (table c c' : String) : List Piece :=
  [keyword "INSERT", keyword "OR", keyword "REPLACE", keyword "INTO", keyword table,
    ⟨[' '], .symbol '('⟩, ⟨[], .word c.toList⟩, ⟨[], .symbol ','⟩, keyword c', ⟨[], .symbol ')'⟩,
    keyword "VALUES", ⟨[' '], .symbol '('⟩, ⟨[], .question⟩, ⟨[], .symbol ','⟩, ⟨[' '], .question⟩,
    ⟨[], .symbol ')'⟩]

def insertOtp : Statement where
  pieces := insertPair "auth_otps" "email" "otp"
  terminator := some []
  trail := []
  valid := by decide
  separated := by decide
  terminator_spaces := spaces_empty
  trail_spaces := spaces_nil

def insertUser : Statement where
  pieces := insertPair "users" "id" "email"
  terminator := some []
  trail := []
  valid := by decide
  separated := by decide
  terminator_spaces := spaces_empty
  trail_spaces := spaces_nil

/-- `SELECT id FROM users WHERE name = 'Who?' AND email = ?`. -/
def selectByName : Statement where
  pieces := [keyword "SELECT", keyword "id", keyword "FROM", keyword "users", keyword "WHERE",
    keyword "name", ⟨[' '], .symbol '='⟩, ⟨[' '], .literal "Who?".toList⟩, keyword "AND",
    keyword "email", ⟨[' '], .symbol '='⟩, ⟨[' '], .question⟩]
  terminator := none
  trail := []
  valid := by decide
  separated := by decide
  terminator_spaces := nofun
  trail_spaces := spaces_nil

/-- `UPDATE users SET name = $2 WHERE id = $1`. -/
def renameUser : Statement where
  pieces := [keyword "UPDATE", keyword "users", keyword "SET", keyword "name", ⟨[' '], .symbol '='⟩,
    ⟨[' '], .numbered 2⟩, keyword "WHERE", keyword "id", ⟨[' '], .symbol '='⟩, ⟨[' '], .numbered 1⟩]
  terminator := none
  trail := []
  valid := by decide
  separated := by decide
  terminator_spaces := nofun
  trail_spaces := spaces_nil

/-- A user is not replaced, a literal is rewritten, and numbers out of order bind other parameters. -/
theorem statements_differ : ¬ RunsAlike usersTable insertUser ∧
    ¬ RunsAlike usersTable selectByName ∧ ¬ RunsAlike usersTable renameUser := by
  refine ⟨?_, ?_, ?_⟩
  · rw [runsAlike_iff (by decide +kernel)]
    have hor : insertUser.insertOr = some .replace := by decide
    have hclause : insertUser.clause = [] := by decide
    have hotps : ¬ authOtps.test insertUser.serial.insertText = true := by decide +kernel
    have htenants : ¬ tenants.test insertUser.serial.insertText = true := by decide +kernel
    rintro ⟨-, hresolves⟩
    rw [Resolves, hor] at hresolves
    dsimp only at hresolves
    rw [if_pos hclause, if_neg hotps] at hresolves
    exact htenants hresolves.2.1
  · rw [runsAlike_iff (by decide +kernel)]
    rintro ⟨⟨-, hclean, -⟩, -⟩
    exact (hclean (.literal "Who?".toList) (by decide)).1 (by decide)
  · rw [runsAlike_iff (by decide +kernel)]
    rintro ⟨⟨-, -, marks, numbers, horder⟩, -⟩
    have hplaceholders : placeholders renameUser.tokens = [.numbered 2, .numbered 1] := by decide
    rw [hplaceholders] at horder
    cases marks with
    | zero => cases numbers <;> simp [List.range'_succ] at horder
    | succ marks => simp [List.replicate_succ] at horder

theorem insertOtp_runsAlike : RunsAlike authOtpsTable insertOtp := by
  have hor : insertOtp.insertOr = some .replace := by decide
  have hclause : insertOtp.clause = [] := by decide
  have hconflict : onConflict.test insertOtp.serial.insertText = false := by decide +kernel
  have hotps : authOtps.test insertOtp.serial.insertText = true := by decide +kernel
  refine runsAlike_statement_iff.mpr
    ⟨⟨by decide +kernel, by decide⟩, ⟨by decide, 2, 0, by decide⟩, ?_⟩
  rw [Resolves, hor]
  dsimp only
  rw [if_pos hclause, if_pos hotps]
  exact ⟨hconflict, by decide⟩

end DatabaseAdapter

end CtrlRecovery
