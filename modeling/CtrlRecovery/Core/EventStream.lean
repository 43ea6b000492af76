import CtrlRecovery.Core.Json

/-!
# Event streams

The format `text/event-stream`. A stream is made of lines, ended by a line feed, a carriage return or
both. A line `data: value` adds to the event that is being read, a line that begins with a colon is a
comment, and an empty line ends the event.

A JSON text is on one line (`not_endsLine_of_mem_text`), so a client that reads what has been written
receives the texts of the messages, in order, whatever comments stand between them
(`receive_chunks`).
-/

namespace Core

/-- The characters that end a line. -/
def endsLine (c : Char) : Bool := c = '\n' || c = '\r'

lemma not_endsLine_of_all {cs : List Char} (h : cs.all (fun c => !endsLine c) = true) :
    ∀ c ∈ cs, endsLine c = false := fun c hc => by
  simpa using List.all_eq_true.mp h c hc

/-! ### JSON texts -/

namespace Json

lemma not_endsLine_hexDigit (n : ℕ) : endsLine (hexDigit n) = false := by
  have hmem : hexDigit n ∈ '0' :: "0123456789abcdef".toList := by
    rw [hexDigit, List.getD_eq_getElem?_getD]
    cases hget : "0123456789abcdef".toList[n]? with
    | none => exact List.mem_cons_self
    | some d => exact List.mem_cons_of_mem _ (List.mem_of_getElem? hget)
  exact not_endsLine_of_all (by decide) _ hmem

lemma not_endsLine_of_mem_quoteChar {c d : Char} (hd : d ∈ quoteChar c) : endsLine d = false := by
  have hspecial : ∀ e ∈ [quotationMark, backslash, 'b', 't', 'n', 'f', 'r', 'u', '0'],
      endsLine e = false := not_endsLine_of_all (by decide)
  rw [quoteChar] at hd
  split_ifs at hd with hc
  · rcases List.mem_pair.mp hd with rfl | rfl
    · exact hspecial _ (by simp)
    · rcases hc with rfl | rfl
      · exact hspecial _ (by simp)
      · exact hspecial _ (by simp)
  · split at hd
    iterate 5
      rcases List.mem_pair.mp hd with rfl | rfl
      · exact hspecial _ (by simp)
      · exact hspecial _ (by simp)
    split_ifs at hd with hsmall
    · simp only [List.mem_cons, List.not_mem_nil, or_false] at hd
      rcases hd with rfl | rfl | rfl | rfl | rfl | rfl
      · exact hspecial _ (by simp)
      · exact hspecial _ (by simp)
      · exact hspecial _ (by simp)
      · exact hspecial _ (by simp)
      · exact not_endsLine_hexDigit _
      · exact not_endsLine_hexDigit _
    · obtain rfl := List.mem_singleton.mp hd
      cases hends : endsLine d with
      | false => rfl
      | true =>
        rw [endsLine, Bool.or_eq_true, decide_eq_true_eq, decide_eq_true_eq] at hends
        rcases hends with rfl | rfl
        · exact absurd (by decide) hsmall
        · exact absurd (by decide) hsmall

lemma not_endsLine_of_mem_quote {s : String} {d : Char} (hd : d ∈ quote s) : endsLine d = false := by
  have hmark : endsLine quotationMark = false := by decide
  rw [quote, List.mem_cons, List.mem_append, List.mem_singleton, List.mem_flatMap] at hd
  rcases hd with rfl | ⟨c, -, hc⟩ | rfl
  · exact hmark
  · exact not_endsLine_of_mem_quoteChar hc
  · exact hmark

lemma not_endsLine_of_mem_separated {close : Char} (hclose : endsLine close = false)
    {ts : List (List Char)} (h : ∀ t ∈ ts, ∀ d ∈ t, endsLine d = false) :
    ∀ d ∈ separated close ts, endsLine d = false := by
  induction ts with
  | nil => exact fun d hd => List.mem_singleton.mp hd ▸ hclose
  | cons t ts ih =>
    intro d hd
    rw [separated, List.mem_cons, List.mem_append] at hd
    rcases hd with rfl | hd | hd
    · rfl
    · exact h t List.mem_cons_self d hd
    · exact ih (fun u hu => h u (List.mem_cons_of_mem _ hu)) d hd

lemma not_endsLine_of_mem_enclosed {close : Char} (hclose : endsLine close = false)
    {ts : List (List Char)} (h : ∀ t ∈ ts, ∀ d ∈ t, endsLine d = false) :
    ∀ d ∈ enclosed close ts, endsLine d = false := by
  cases ts with
  | nil => exact fun d hd => List.mem_singleton.mp hd ▸ hclose
  | cons t ts =>
    intro d hd
    rcases List.mem_append.mp hd with hd | hd
    · exact h t List.mem_cons_self d hd
    · exact not_endsLine_of_mem_separated hclose (fun u hu => h u (List.mem_cons_of_mem _ hu)) d hd

/-- A JSON text is on one line. -/
theorem not_endsLine_of_mem_text (v : Json) : ∀ d ∈ text v, endsLine d = false := by
  induction v with
  | null => exact (not_endsLine_of_all (by decide) : ∀ c ∈ "null".toList, endsLine c = false)
  | bool b =>
    cases b
    · exact (not_endsLine_of_all (by decide) : ∀ c ∈ "false".toList, endsLine c = false)
    · exact (not_endsLine_of_all (by decide) : ∀ c ∈ "true".toList, endsLine c = false)
  | number n =>
    rw [text_number]
    intro d hd
    have hnumber : isNumberChar d = true := n.isNumber d hd
    exact not_endsLine_of_all (by decide) d (List.contains_iff_mem.mp hnumber)
  | string s =>
    rw [text_string]
    exact fun d => not_endsLine_of_mem_quote
  | array elems ih =>
    rw [text, fold_array]
    intro d hd
    rcases List.mem_cons.mp hd with rfl | hd
    · rfl
    · refine not_endsLine_of_mem_enclosed rfl ?_ d hd
      rintro t ht
      obtain ⟨v, hv, rfl⟩ := List.mem_map.mp ht
      exact ih v hv
  | object fields ih =>
    have hbrace : endsLine openBrace = false ∧ endsLine closeBrace = false := by decide
    rw [text, fold_object]
    intro d hd
    rcases List.mem_cons.mp hd with rfl | hd
    · exact hbrace.1
    · refine not_endsLine_of_mem_enclosed hbrace.2 ?_ d hd
      intro t ht
      simp only [List.map_map, List.mem_map, Function.comp_apply] at ht
      obtain ⟨f, hf, rfl⟩ := ht
      intro e he
      rcases List.mem_append.mp he with he | he
      · exact not_endsLine_of_mem_quote he
      rcases List.mem_cons.mp he with rfl | he
      · rfl
      · exact ih f hf e he

end Json

namespace EventStream

/-! ### Writing a stream -/

/-- What is written to a stream at a time. -/
inductive Chunk
  | message (v : Json)
  | comment (text : String)

namespace Chunk

def text : Chunk → List Char
  | .message v => "data: ".toList ++ v.text ++ "\n\n".toList
  | .comment c => ':' :: c.toList ++ "\n\n".toList

def message? : Chunk → Option Json
  | .message v => some v
  | .comment _ => none

/-- A comment is on one line. -/
def OneLine : Chunk → Prop
  | .message _ => True
  | .comment c => ∀ d ∈ c.toList, endsLine d = false

lemma oneLine_message (v : Json) : (message v).OneLine := trivial

end Chunk

/-! ### Reading a stream -/

/-- The line that is being read, whether a carriage return has just ended one, the values of the event
that is being read, and the events received. -/
structure Client where
  line : List Char
  afterReturn : Bool
  values : List (List Char)
  received : List (List Char)

/-- The value of a line `data: value`. A space after the colon does not belong to the value. -/
def dataOf (line : List Char) : Option (List Char) :=
  let value := (line.dropWhile (· ≠ ':')).drop 1
  if line.takeWhile (· ≠ ':') = "data".toList then
    some (if value.head? = some ' ' then value.tail else value)
  else none

namespace Client

/-- A client that is reading nothing. -/
def idle (received : List (List Char)) : Client where
  line := []
  afterReturn := false
  values := []
  received := received

def endLine (c : Client) : Client :=
  if c.line ≠ [] then { c with line := [], values := c.values ++ (dataOf c.line).toList }
  else if c.values ≠ [] then
    { c with values := [], received := c.received ++ [['\n'].intercalate c.values] }
  else c

def read (c : Client) (d : Char) : Client :=
  if d = '\r' then { c.endLine with afterReturn := true }
  else if d = '\n' then
    if c.afterReturn then { c with afterReturn := false } else c.endLine
  else { c with line := c.line ++ [d], afterReturn := false }

end Client

/-- The events that a client receives from a stream. -/
def receive (stream : List Char) : List (List Char) :=
  (stream.foldl Client.read (.idle [])).received

/-! ### What is written is received -/

namespace Client

lemma read_feed {c : Client} (hc : c.afterReturn = false) : c.read '\n' = c.endLine := by
  simp [read, hc]

lemma foldl_read_line {line : List Char} (hline : ∀ d ∈ line, endsLine d = false)
    (before : List Char) (values received : List (List Char)) :
    line.foldl read ⟨before, false, values, received⟩ =
      ⟨before ++ line, false, values, received⟩ := by
  induction line generalizing before with
  | nil => rw [List.foldl_nil, List.append_nil]
  | cons d line ih =>
    obtain ⟨hfeed, hreturn⟩ : d ≠ '\n' ∧ d ≠ '\r' := by
      simpa [endsLine] using hline d List.mem_cons_self
    rw [List.foldl_cons, read, if_neg hreturn, if_neg hfeed,
      ih (fun e he => hline e (List.mem_cons_of_mem _ he)), List.append_assoc,
      List.singleton_append]

lemma endLine_line {line : List Char} (hne : line ≠ []) (received : List (List Char)) :
    endLine ⟨line, false, [], received⟩ = ⟨[], false, (dataOf line).toList, received⟩ := by
  rw [endLine, if_pos hne, List.nil_append]

lemma endLine_event (value : Option (List Char)) (received : List (List Char)) :
    endLine ⟨[], false, value.toList, received⟩ = idle (received ++ value.toList) := by
  cases value with
  | none => simp [endLine, idle]
  | some value => simp [endLine, idle, List.intercalate]

lemma foldl_read_lines {line : List Char} (hne : line ≠ []) (hline : ∀ d ∈ line, endsLine d = false)
    (received : List (List Char)) :
    (line ++ "\n\n".toList).foldl read (idle received) =
      idle (received ++ (dataOf line).toList) := by
  have htwo : "\n\n".toList = ['\n', '\n'] := rfl
  rw [List.foldl_append, idle, foldl_read_line hline, List.nil_append, htwo, List.foldl_cons,
    read_feed rfl, endLine_line hne, List.foldl_cons, List.foldl_nil, read_feed rfl, endLine_event]

lemma foldl_read_chunk {chunk : Chunk} (hchunk : chunk.OneLine) (received : List (List Char)) :
    chunk.text.foldl read (idle received) =
      idle (received ++ (chunk.message?.map Json.text).toList) := by
  cases chunk with
  | message v =>
    have hdata : dataOf ("data: ".toList ++ v.text) = some v.text := by
      simp [dataOf]
    have hname : ∀ d ∈ "data: ".toList, endsLine d = false := not_endsLine_of_all (by decide)
    have hline : ∀ d ∈ "data: ".toList ++ v.text, endsLine d = false := fun d hd =>
      (List.mem_append.mp hd).elim (hname d) (v.not_endsLine_of_mem_text d)
    refine (foldl_read_lines (by simp) hline received).trans ?_
    rw [hdata]
    rfl
  | comment text =>
    have hdata : dataOf (':' :: text.toList) = none := by
      simp [dataOf]
    have hline : ∀ d ∈ ':' :: text.toList, endsLine d = false := by
      intro d hd
      rcases List.mem_cons.mp hd with rfl | hd
      · rfl
      · exact hchunk d hd
    refine (foldl_read_lines (List.cons_ne_nil _ _) hline received).trans ?_
    rw [hdata]
    rfl

lemma foldl_read_chunks {chunks : List Chunk} (h : ∀ chunk ∈ chunks, chunk.OneLine)
    (received : List (List Char)) :
    (chunks.flatMap Chunk.text).foldl read (idle received) =
      idle (received ++ (chunks.filterMap Chunk.message?).map Json.text) := by
  induction chunks generalizing received with
  | nil => simp
  | cons chunk chunks ih =>
    obtain ⟨hchunk, hchunks⟩ := List.forall_mem_cons.mp h
    rw [List.flatMap_cons, List.foldl_append, foldl_read_chunk hchunk, ih hchunks,
      List.append_assoc]
    cases hm : chunk.message? with
    | none => rw [List.filterMap_cons_none hm]; rfl
    | some v => rw [List.filterMap_cons_some hm]; rfl

end Client

/-- A client receives the messages written to the stream, in order. -/
theorem receive_chunks {chunks : List Chunk} (h : ∀ chunk ∈ chunks, chunk.OneLine) :
    receive (chunks.flatMap Chunk.text) = (chunks.filterMap Chunk.message?).map Json.text := by
  exact congrArg Client.received (Client.foldl_read_chunks h [])

end EventStream

end Core
