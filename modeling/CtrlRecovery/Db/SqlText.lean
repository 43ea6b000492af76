import CtrlRecovery.Core.Rewriting
import Mathlib

/-!
# The text of a statement

A statement is made of words (keywords, identifiers and numbers), quoted literals, placeholders and
symbols, with white space between them. `lex` reads a text character by character, as an engine
does, and reads back the tokens of every statement that is written out (`lex_spell`).
-/

namespace CtrlRecovery

open Core

namespace SqlText

inductive Token
  | word (text : List Char)
  | literal (content : List Char)
  /-- `?` -/
  | question
  /-- `$n` -/
  | numbered (n : ℕ)
  | symbol (c : Char)
  deriving DecidableEq, Repr

/-! ### Characters -/

def isSpace (c : Char) : Bool := c ∈ [' ', '\t', '\n', '\r', '\x0C']

def isWordChar (c : Char) : Bool := c.isAlphanum || c == '_'

def symbols : List Char := ['(', ')', ',', '.', '=', '<', '>', '!', '*', '+', '|', '%', ';']

/-- The characters of the text are checked, not all that there are. -/
instance decidableForallMem (text : List Char) (P : Char → Prop) [DecidablePred P] :
    Decidable (∀ c ∈ text, P c) :=
  List.decidableBAll P text

/-! ### Writing -/

/-- A quote in a literal is written twice. -/
def escape : List Char → List Char
  | []      => []
  | c :: cs => if c = '\'' then '\'' :: '\'' :: escape cs else c :: escape cs

def Token.spell : Token → List Char
  | .word text       => text
  | .literal content => '\'' :: (escape content ++ ['\''])
  | .question        => ['?']
  | .numbered n      => '$' :: Nat.toDigits 10 n
  | .symbol c        => [c]

def Token.Valid : Token → Prop
  | .word text => text ≠ [] ∧ ∀ c ∈ text, isWordChar c
  | .symbol c  => c ∈ symbols
  | _          => True

instance (t : Token) : Decidable t.Valid :=
  match t with
  | .word text => inferInstanceAs (Decidable (text ≠ [] ∧ ∀ c ∈ text, isWordChar c))
  | .symbol c  => inferInstanceAs (Decidable (c ∈ symbols))
  | .literal _ => inferInstanceAs (Decidable True)
  | .question  => inferInstanceAs (Decidable True)
  | .numbered _ => inferInstanceAs (Decidable True)

/-- A token that runs into the next one if nothing stands between them. -/
def Token.isSolid : Token → Bool
  | .symbol _ => false
  | _         => true

/-- A token after the white space before it. -/
structure Piece where
  gap : List Char
  token : Token
  deriving DecidableEq, Repr

def Piece.Valid (p : Piece) : Prop := (∀ c ∈ p.gap, isSpace c) ∧ p.token.Valid

instance (p : Piece) : Decidable p.Valid :=
  inferInstanceAs (Decidable ((∀ c ∈ p.gap, isSpace c) ∧ p.token.Valid))

def Piece.spell (p : Piece) : List Char := p.gap ++ p.token.spell

def spell (pieces : List Piece) : List Char := pieces.flatMap Piece.spell

/-- White space stands between solid tokens. -/
def Separated (pieces : List Piece) : Prop :=
  pieces.IsChain fun p q => p.token.isSolid = true → q.token.isSolid = true → q.gap ≠ []

instance (pieces : List Piece) : Decidable (Separated pieces) :=
  inferInstanceAs (Decidable (List.IsChain _ pieces))

lemma separated_cons {p : Piece} {pieces : List Piece} :
    Separated (p :: pieces) ↔
      (∀ q ∈ pieces.head?, p.token.isSolid = true → q.token.isSolid = true → q.gap ≠ []) ∧
        Separated pieces := by
  cases pieces with
  | nil => simp [Separated]
  | cons q pieces => simp [Separated, List.isChain_cons_cons]

/-! ### Reading -/

inductive Mode
  | between
  | inWord (text : List Char)
  | inLiteral (content : List Char)
  /-- After a quote that ends the literal if no other follows. -/
  | atQuote (content : List Char)
  | inNumber (digits : List Char)
  deriving DecidableEq, Repr

structure Lexer where
  tokens : List Token
  mode : Mode
  deriving DecidableEq, Repr

namespace Lexer

def initial : Lexer := ⟨[], .between⟩

/-- The tokens read so far, with the one that ends here. -/
def flush (lexer : Lexer) : List Token :=
  match lexer.mode with
  | .inWord text     => lexer.tokens ++ [.word text]
  | .atQuote content => lexer.tokens ++ [.literal content]
  | .inNumber digits => lexer.tokens ++ [.numbered (Nat.ofDigitChars 10 digits 0)]
  | _                => lexer.tokens

/-- A character with which something new starts. -/
def start (tokens : List Token) (c : Char) : Lexer :=
  if isSpace c then ⟨tokens, .between⟩
  else if isWordChar c then ⟨tokens, .inWord [c]⟩
  else if c = '\'' then ⟨tokens, .inLiteral []⟩
  else if c = '?' then ⟨tokens ++ [.question], .between⟩
  else if c = '$' then ⟨tokens, .inNumber []⟩
  else ⟨tokens ++ [.symbol c], .between⟩

def step (lexer : Lexer) (c : Char) : Lexer :=
  match lexer.mode with
  | .between           => start lexer.flush c
  | .inWord text       =>
    if isWordChar c then ⟨lexer.tokens, .inWord (text ++ [c])⟩ else start lexer.flush c
  | .inLiteral content =>
    if c = '\'' then ⟨lexer.tokens, .atQuote content⟩
    else ⟨lexer.tokens, .inLiteral (content ++ [c])⟩
  | .atQuote content   =>
    if c = '\'' then ⟨lexer.tokens, .inLiteral (content ++ [c])⟩ else start lexer.flush c
  | .inNumber digits   =>
    if c.isDigit then ⟨lexer.tokens, .inNumber (digits ++ [c])⟩ else start lexer.flush c

def run (lexer : Lexer) (text : List Char) : Lexer := text.foldl step lexer

/-- What has been read at the end of the text; a literal has to be closed. -/
def finish (lexer : Lexer) : Option (List Token) :=
  match lexer.mode with
  | .inLiteral _ => none
  | _            => some lexer.flush

end Lexer

def lex (text : List Char) : Option (List Token) := (Lexer.initial.run text).finish

/-! ### Reading what was written -/

section RoundTrip

variable {lexer : Lexer} {tokens : List Token} {c : Char} {cs content digits : List Char}

lemma isWordChar_of_isDigit (h : c.isDigit = true) : isWordChar c = true := by
  simp [isWordChar, Char.isAlphanum, h]

lemma isSpace_of_isWordChar (h : isWordChar c = true) : isSpace c = false := by
  rw [Bool.eq_false_iff]
  intro hspace
  rw [isSpace, decide_eq_true_eq] at hspace
  simp only [List.mem_cons, List.not_mem_nil, or_false] at hspace
  obtain rfl | rfl | rfl | rfl | rfl := hspace <;> exact absurd h (by decide)

lemma symbol_chars (h : c ∈ symbols) :
    isSpace c = false ∧ isWordChar c = false ∧ c ≠ '\'' ∧ c ≠ '?' ∧ c ≠ '$' := by
  have hall : ∀ d ∈ symbols,
      isSpace d = false ∧ isWordChar d = false ∧ d ≠ '\'' ∧ d ≠ '?' ∧ d ≠ '$' := by decide
  exact hall c h

namespace Lexer

def Closed (lexer : Lexer) : Prop := ∀ content, lexer.mode ≠ .inLiteral content

/-- The character goes on with nothing that was read before it. -/
def Fresh (lexer : Lexer) (c : Char) : Prop :=
  lexer.mode = .between ∨ isWordChar c = false ∧ c ≠ '\''

lemma run_append (text text' : List Char) :
    lexer.run (text ++ text') = (lexer.run text).run text' := List.foldl_append

lemma run_cons : lexer.run (c :: cs) = (lexer.step c).run cs := rfl

lemma step_of_fresh (hclosed : lexer.Closed) (h : lexer.Fresh c) :
    lexer.step c = start lexer.flush c := by
  obtain ⟨tokens, mode⟩ := lexer
  cases mode with
  | between => rfl
  | inLiteral content => exact absurd rfl (hclosed content)
  | inWord text =>
    obtain hmode | ⟨hword, -⟩ := h
    · cases hmode
    · simp [step, hword]
  | atQuote content =>
    obtain hmode | ⟨-, hquote⟩ := h
    · cases hmode
    · simp [step, hquote]
  | inNumber digits =>
    obtain hmode | ⟨hword, -⟩ := h
    · cases hmode
    · have hdigit : c.isDigit = false := by
        rw [Bool.eq_false_iff]
        exact fun hdigit => absurd (isWordChar_of_isDigit hdigit) (by simp [hword])
      simp [step, hdigit]

/-- White space ends what was read. -/
lemma run_spaces (hclosed : lexer.Closed) (hne : cs ≠ []) (h : ∀ c ∈ cs, isSpace c = true) :
    lexer.run cs = ⟨lexer.flush, .between⟩ := by
  induction cs generalizing lexer with
  | nil => exact absurd rfl hne
  | cons c cs ih =>
    have hc := h c List.mem_cons_self
    have hword : isWordChar c = false := by
      rw [Bool.eq_false_iff]
      exact fun hword => absurd (isSpace_of_isWordChar hword) (by simp [hc])
    have hquote : c ≠ '\'' := by
      rintro rfl
      exact absurd hc (by decide)
    rw [run_cons, step_of_fresh hclosed (.inr ⟨hword, hquote⟩), start, if_pos hc]
    by_cases hcs : cs = []
    · rw [hcs]
      rfl
    · exact ih nofun hcs fun c hc => h c (List.mem_cons_of_mem _ hc)

lemma run_word {text : List Char} (h : ∀ c ∈ cs, isWordChar c = true) :
    run ⟨tokens, .inWord text⟩ cs = ⟨tokens, .inWord (text ++ cs)⟩ := by
  induction cs generalizing text with
  | nil => rw [List.append_nil]; rfl
  | cons c cs ih =>
    have hstep : step ⟨tokens, .inWord text⟩ c = ⟨tokens, .inWord (text ++ [c])⟩ :=
      if_pos (h c List.mem_cons_self)
    rw [run_cons, hstep, ih fun c hc => h c (List.mem_cons_of_mem _ hc), List.append_assoc]
    rfl

lemma run_number (h : ∀ c ∈ cs, c.isDigit = true) :
    run ⟨tokens, .inNumber digits⟩ cs = ⟨tokens, .inNumber (digits ++ cs)⟩ := by
  induction cs generalizing digits with
  | nil => rw [List.append_nil]; rfl
  | cons c cs ih =>
    have hstep : step ⟨tokens, .inNumber digits⟩ c = ⟨tokens, .inNumber (digits ++ [c])⟩ :=
      if_pos (h c List.mem_cons_self)
    rw [run_cons, hstep, ih fun c hc => h c (List.mem_cons_of_mem _ hc), List.append_assoc]
    rfl

lemma run_escape :
    run ⟨tokens, .inLiteral content⟩ (escape cs) = ⟨tokens, .inLiteral (content ++ cs)⟩ := by
  induction cs generalizing content with
  | nil => rw [List.append_nil]; rfl
  | cons c cs ih =>
    rw [escape]
    split_ifs with hquote
    · have hsteps : (step ⟨tokens, .inLiteral content⟩ '\'').step '\'' =
          ⟨tokens, .inLiteral (content ++ ['\''])⟩ := rfl
      rw [run_cons, run_cons, hsteps, ih, List.append_assoc, hquote]
      rfl
    · have hstep : step ⟨tokens, .inLiteral content⟩ c = ⟨tokens, .inLiteral (content ++ [c])⟩ :=
        if_neg hquote
      rw [run_cons, hstep, ih, List.append_assoc]
      rfl

/-- What is known of a lexer after a token. -/
structure Reads (lexer lexer' : Lexer) (t : Token) : Prop where
  flush : lexer'.flush = lexer.flush ++ [t]
  closed : lexer'.Closed
  between : t.isSolid = false → lexer'.mode = .between

/-- A token is read as it was written. -/
lemma reads_spell {t : Token} (hclosed : lexer.Closed) (ht : t.Valid)
    (hbetween : t.isSolid = true → lexer.mode = .between) :
    lexer.Reads (lexer.run t.spell) t := by
  cases t with
  | word text =>
    obtain ⟨hne, hword⟩ := ht
    obtain ⟨c, cs, rfl⟩ := List.exists_cons_of_ne_nil hne
    have hc := hword c List.mem_cons_self
    have hrun : lexer.run (Token.word (c :: cs)).spell = ⟨lexer.flush, .inWord (c :: cs)⟩ := by
      rw [Token.spell, run_cons, step_of_fresh hclosed (.inl (hbetween rfl)), start,
        if_neg (by simp [isSpace_of_isWordChar hc]), if_pos hc,
        run_word fun c hc => hword c (List.mem_cons_of_mem _ hc)]
      rfl
    rw [hrun]
    exact ⟨rfl, nofun, nofun⟩
  | literal content =>
    have hrun : lexer.run (Token.literal content).spell = ⟨lexer.flush, .atQuote content⟩ := by
      have hstart : start lexer.flush '\'' = ⟨lexer.flush, .inLiteral []⟩ := rfl
      rw [Token.spell, run_cons, step_of_fresh hclosed (.inl (hbetween rfl)), hstart, run_append,
        run_escape]
      rfl
    rw [hrun]
    exact ⟨rfl, nofun, nofun⟩
  | question =>
    have hrun : lexer.run Token.question.spell = ⟨lexer.flush ++ [.question], .between⟩ := by
      rw [Token.spell, run_cons, step_of_fresh hclosed (.inl (hbetween rfl))]
      rfl
    rw [hrun]
    exact ⟨rfl, nofun, fun _ => rfl⟩
  | numbered n =>
    have hrun : lexer.run (Token.numbered n).spell =
        ⟨lexer.flush, .inNumber (Nat.toDigits 10 n)⟩ := by
      have hstart : start lexer.flush '$' = ⟨lexer.flush, .inNumber []⟩ := rfl
      rw [Token.spell, run_cons, step_of_fresh hclosed (.inl (hbetween rfl)), hstart,
        run_number fun c hc => Nat.isDigit_of_mem_toDigits (by decide) (by decide) hc]
      rfl
    rw [hrun]
    refine ⟨?_, nofun, nofun⟩
    simp [Lexer.flush]
  | symbol c =>
    obtain ⟨hspace, hword, hquote, hquestion, hdollar⟩ := symbol_chars ht
    have hrun : lexer.run (Token.symbol c).spell = ⟨lexer.flush ++ [.symbol c], .between⟩ := by
      rw [Token.spell, run_cons, step_of_fresh hclosed (.inr ⟨hword, hquote⟩)]
      simp [start, hspace, hword, hquote, hquestion, hdollar, run]
    rw [hrun]
    exact ⟨rfl, nofun, fun _ => rfl⟩

lemma reads_piece {p : Piece} (hclosed : lexer.Closed) (hp : p.Valid)
    (hbetween : p.token.isSolid = true → p.gap ≠ [] ∨ lexer.mode = .between) :
    lexer.Reads (lexer.run p.spell) p.token := by
  rw [Piece.spell, run_append]
  by_cases hgap : p.gap = []
  · rw [hgap]
    exact reads_spell hclosed hp.2 fun hsolid => (hbetween hsolid).resolve_left (absurd hgap)
  · rw [run_spaces hclosed hgap hp.1]
    have hreads : Reads ⟨lexer.flush, .between⟩ (run ⟨lexer.flush, .between⟩ p.token.spell) p.token :=
      reads_spell nofun hp.2 fun _ => rfl
    exact ⟨hreads.flush, hreads.closed, hreads.between⟩

end Lexer

/-- The tokens of a text that is written out, and white space behind it. -/
lemma Lexer.Closed.run_spell {pieces : List Piece} (hclosed : lexer.Closed)
    (hvalid : ∀ p ∈ pieces, p.Valid) (hseparated : Separated pieces)
    (hfirst : ∀ p ∈ pieces.head?, p.token.isSolid = true → p.gap ≠ [] ∨ lexer.mode = .between) :
    (lexer.run (spell pieces)).Closed ∧
      (lexer.run (spell pieces)).flush = lexer.flush ++ pieces.map Piece.token := by
  induction pieces generalizing lexer with
  | nil => exact ⟨hclosed, (List.append_nil _).symm⟩
  | cons p pieces ih =>
    have hreads := reads_piece hclosed (hvalid p List.mem_cons_self) (hfirst p rfl)
    obtain ⟨hnext, hrest⟩ := separated_cons.mp hseparated
    have hfirst' : ∀ q ∈ pieces.head?, q.token.isSolid = true →
        q.gap ≠ [] ∨ (lexer.run p.spell).mode = .between := by
      intro q hq hsolid
      cases hp : p.token.isSolid with
      | true => exact .inl (hnext q hq hp hsolid)
      | false => exact .inr (hreads.between hp)
    obtain ⟨hclosed', hflush⟩ := ih hreads.closed
      (fun q hq => hvalid q (List.mem_cons_of_mem p hq)) hrest hfirst'
    rw [spell, List.flatMap_cons, run_append]
    refine ⟨hclosed', hflush.trans ?_⟩
    rw [hreads.flush, List.map_cons, List.append_assoc]
    rfl

/-- A statement is read as it was written. -/
theorem lex_spell {pieces : List Piece} {trail : List Char} (hvalid : ∀ p ∈ pieces, p.Valid)
    (hseparated : Separated pieces) (htrail : ∀ c ∈ trail, isSpace c = true) :
    lex (spell pieces ++ trail) = some (pieces.map Piece.token) := by
  have hinitial : Lexer.initial.Closed := nofun
  obtain ⟨hclosed, hflush⟩ := hinitial.run_spell hvalid hseparated fun _ _ _ => .inr rfl
  have hfinish : ∀ lexer : Lexer, lexer.Closed → lexer.finish = some lexer.flush := by
    rintro ⟨tokens, mode⟩ hclosed
    cases mode with
    | inLiteral content => exact absurd rfl (hclosed content)
    | between => rfl
    | inWord text => rfl
    | atQuote content => rfl
    | inNumber digits => rfl
  rw [lex, Lexer.run_append]
  by_cases hne : trail = []
  · rw [hne, Lexer.run, List.foldl_nil, hfinish _ hclosed, hflush]
    rfl
  · rw [Lexer.run_spaces hclosed hne htrail, hfinish ⟨_, .between⟩ nofun, Lexer.flush, hflush]
    rfl

end RoundTrip

end SqlText

end CtrlRecovery
