import Mathlib.Data.List.Infix

/-!
# Text patterns

The patterns of SQL's `LIKE`: `%` stands for any text and `_` for any character. A dialect says which
characters it does not tell apart, and which one takes the next character literally. A pattern is
first cut into tokens and then matched; plain characters followed by `%` match the texts that start
with them (`like_prefix_iff`).
-/

namespace Core.Like

structure Dialect where
  /-- Characters with the same fold are not told apart. -/
  fold : Char → Char
  /-- The character that takes the next one literally. -/
  escape : Option Char

inductive Token
  | anyText
  | anyChar
  | char (c : Char)
  deriving DecidableEq, Repr

def tokenOf (c : Char) : Token :=
  if c = '%' then .anyText else if c = '_' then .anyChar else .char c

def tokens (d : Dialect) : List Char → List Token
  | []           => []
  | [c]          => [tokenOf c]
  | c :: c' :: cs =>
    if d.escape = some c then .char c' :: tokens d cs else tokenOf c :: tokens d (c' :: cs)

def matchTokens (d : Dialect) : List Token → List Char → Bool
  | [], text                 => text.isEmpty
  | .anyText :: ts, text     => text.tails.any (matchTokens d ts)
  | .anyChar :: _, []        => false
  | .anyChar :: ts, _ :: cs  => matchTokens d ts cs
  | .char _ :: _, []         => false
  | .char c :: ts, c' :: cs  => d.fold c = d.fold c' && matchTokens d ts cs

def like (d : Dialect) (pattern text : List Char) : Bool := matchTokens d (tokens d pattern) text

variable {d : Dialect}

@[simp] lemma matchTokens_nil (text : List Char) : matchTokens d [] text = text.isEmpty := by
  cases text <;> rfl

@[simp] lemma matchTokens_anyText (ts : List Token) (text : List Char) :
    matchTokens d (.anyText :: ts) text = text.tails.any (matchTokens d ts) := by
  cases text <;> rfl

/-- A final `%` matches whatever is left. -/
lemma matchTokens_anyText_nil (text : List Char) : matchTokens d [.anyText] text = true := by
  rw [matchTokens_anyText, List.any_eq_true]
  exact ⟨[], (List.mem_tails [] text).mpr (List.nil_suffix), by simp⟩

/-- Characters with a final `%` match the texts that start with them. -/
lemma matchTokens_chars (cs text : List Char) :
    matchTokens d (cs.map .char ++ [.anyText]) text = true ↔
      cs.map d.fold <+: text.map d.fold := by
  induction cs generalizing text with
  | nil => exact iff_of_true (matchTokens_anyText_nil text) List.nil_prefix
  | cons c cs ih =>
    cases text with
    | nil => simp [matchTokens]
    | cons c' text => simp [matchTokens, ih, List.cons_prefix_cons]

lemma tokens_plain {cs : List Char}
    (h : ∀ c ∈ cs, c ≠ '%' ∧ c ≠ '_' ∧ d.escape ≠ some c) :
    tokens d (cs ++ ['%']) = cs.map .char ++ [.anyText] := by
  induction cs with
  | nil => rfl
  | cons c cs ih =>
    have htail : tokens d (cs ++ ['%']) = cs.map .char ++ [.anyText] :=
      ih fun c' hc' => h c' (List.mem_cons_of_mem c hc')
    obtain ⟨hpercent, hunderscore, hescape⟩ := h c List.mem_cons_self
    have htoken : tokenOf c = .char c := by rw [tokenOf, if_neg hpercent, if_neg hunderscore]
    cases cs with
    | nil => simp_all [tokens]
    | cons c' cs => simp_all [tokens]

theorem like_prefix_iff {cs text : List Char}
    (h : ∀ c ∈ cs, c ≠ '%' ∧ c ≠ '_' ∧ d.escape ≠ some c) :
    like d (cs ++ ['%']) text = true ↔ cs.map d.fold <+: text.map d.fold := by
  rw [like, tokens_plain h, matchTokens_chars]

end Core.Like
