import CtrlRecovery.Core.EventStream
import Mathlib.Algebra.GroupWithZero.Nat
import Mathlib.Data.List.DropRight
import Mathlib.Logic.Function.Basic

/-!
# Event hubs

A hub keeps its last events. A connection is written the ones among them that it asks for, and from then
on it listens on a channel to the events that are published, until it closes or breaks.

`Feed` is what a hub is for: the log of all events, and for each connection where in the log it came and
where it left. `Tracks` says that a hub has written to its connections what the log says, and every
operation keeps it. What a connection has been written, `Protocol.messages`, is a function of the log.
-/

namespace Core

open EventStream

/-- What the requests and the events of a hub mean: how many events it keeps, the channel on which a
request listens, the channels to which an event goes, and what they are written as. -/
structure Protocol (ρ κ ε : Type*) where
  size : ℕ
  channel : ρ → κ
  channels : ε → List κ
  opening : ρ → List ε → List Json
  message : ε → Json

/-- `listeners` are the connections that listen to the channels, in the order in which they came, and
`written` is what has been written to each connection. -/
@[ext]
structure Hub (κ ε : Type*) where
  recent : List ε
  listeners : List (κ × ℕ)
  beating : List ℕ
  broken : List ℕ
  connections : ℕ
  written : ℕ → List Chunk

/-- Keep the last events. -/
def pushBounded {ε : Type*} (size : ℕ) (recent : List ε) (e : ε) : List ε :=
  if (recent ++ [e]).length > size then (recent ++ [e]).tail else recent ++ [e]

lemma pushBounded_rtake {ε : Type*} (size : ℕ) (log : List ε) (e : ε) :
    pushBounded size (log.rtake size) e = (log ++ [e]).rtake size := by
  have hlength : (log.rtake size).length = min size log.length := by
    rw [List.rtake, List.length_drop]
    omega
  rw [pushBounded, List.length_append, hlength, List.length_singleton]
  by_cases hfull : size ≤ log.length
  · rw [if_pos (by omega), List.rtake, List.rtake, List.length_append, List.length_singleton,
      ← List.drop_append_of_le_length (Nat.sub_le _ _), List.tail_drop]
    congr 1
    omega
  · rw [if_neg (by omega), List.rtake, List.rtake, List.length_append, List.length_singleton,
      Nat.sub_eq_zero_of_le (by omega), Nat.sub_eq_zero_of_le (by omega), List.drop_zero,
      List.drop_zero]

lemma rtake_rtake {ε : Type*} {m n : ℕ} (h : n ≤ m) (log : List ε) :
    (log.rtake m).rtake n = log.rtake n := by
  rw [List.rtake, List.rtake, List.rtake, List.length_drop, List.drop_drop]
  congr 1
  omega

variable {ρ κ ε : Type*}

namespace Hub

def empty : Hub κ ε where
  recent := []
  listeners := []
  beating := []
  broken := []
  connections := 0
  written := fun _ => []

/-- A write to a broken connection throws, and the exception is caught. -/
def write (h : Hub κ ε) (c : ℕ) (chunk : Chunk) : Hub κ ε :=
  if c ∈ h.broken then h
  else { h with written := Function.update h.written c (h.written c ++ [chunk]) }

/-- The connection is a new one. -/
def subscribe (p : Protocol ρ κ ε) (h : Hub κ ε) (request : ρ) : Hub κ ε :=
  { h with
    listeners := h.listeners ++ [(p.channel request, h.connections)]
    beating := h.beating ++ [h.connections]
    connections := h.connections + 1
    written := Function.update h.written h.connections
      ((p.opening request h.recent).map .message) }

def close (h : Hub κ ε) (c : ℕ) : Hub κ ε :=
  { h with listeners := h.listeners.filter (·.2 ≠ c), beating := h.beating.filter (· ≠ c) }

def stopBeating (h : Hub κ ε) (c : ℕ) : Hub κ ε :=
  { h with beating := h.beating.filter (· ≠ c) }

/-- From now on a write to the connection throws. -/
def breakOff (h : Hub κ ε) (c : ℕ) : Hub κ ε := { h with broken := c :: h.broken }

def messages (h : Hub κ ε) (c : ℕ) : List Json := (h.written c).filterMap Chunk.message?

/-! ### What the operations write -/

/-- Write a chunk to each connection so many times, unless it is broken. -/
def writeTimes (h : Hub κ ε) (chunk : Chunk) (times : ℕ → ℕ) : Hub κ ε :=
  { h with
    written := fun c =>
      h.written c ++ if c ∈ h.broken then [] else List.replicate (times c) chunk }

lemma writeTimes_zero (h : Hub κ ε) (chunk : Chunk) : h.writeTimes chunk (fun _ => 0) = h := by
  simp [writeTimes]

lemma writeTimes_writeTimes (h : Hub κ ε) (chunk : Chunk) (m n : ℕ → ℕ) :
    (h.writeTimes chunk m).writeTimes chunk n = h.writeTimes chunk fun c => m c + n c := by
  refine Hub.ext rfl rfl rfl rfl rfl (funext fun c => ?_)
  by_cases hbroken : c ∈ h.broken
  · simp [writeTimes, hbroken]
  · simp [writeTimes, hbroken]

lemma write_eq (h : Hub κ ε) (c : ℕ) (chunk : Chunk) :
    h.write c chunk = h.writeTimes chunk fun d => [c].count d := by
  by_cases hbroken : c ∈ h.broken
  · rw [write, if_pos hbroken]
    refine Hub.ext rfl rfl rfl rfl rfl (funext fun d => ?_)
    by_cases hd : d = c
    · simp [writeTimes, hd, hbroken]
    · simp [writeTimes, List.count_singleton, Ne.symm hd]
  · rw [write, if_neg hbroken]
    refine Hub.ext rfl rfl rfl rfl rfl (funext fun d => ?_)
    by_cases hd : d = c
    · simp [writeTimes, hd, hbroken]
    · simp [writeTimes, List.count_singleton, Function.update_of_ne hd, Ne.symm hd]

lemma foldl_write (h : Hub κ ε) (cs : List ℕ) (chunk : Chunk) :
    cs.foldl (fun h c => h.write c chunk) h = h.writeTimes chunk fun d => cs.count d := by
  induction cs generalizing h with
  | nil => exact (h.writeTimes_zero chunk).symm
  | cons c cs ih =>
    rw [List.foldl_cons, ih, write_eq, writeTimes_writeTimes]
    congr 1
    funext d
    rw [← List.count_append, List.singleton_append]

lemma messages_writeTimes (h : Hub κ ε) (v : Json) (times : ℕ → ℕ) (c : ℕ) :
    (h.writeTimes (.message v) times).messages c =
      h.messages c ++ if c ∈ h.broken then [] else List.replicate (times c) v := by
  by_cases hbroken : c ∈ h.broken
  · simp [messages, writeTimes, hbroken]
  · simp [messages, writeTimes, hbroken, List.filterMap_replicate_of_some, Chunk.message?]

/-! ### Publishing -/

variable [DecidableEq κ]

def listening (h : Hub κ ε) (channel : κ) : List ℕ :=
  (h.listeners.filter (·.1 = channel)).map Prod.snd

def emit (h : Hub κ ε) (chunk : Chunk) (channel : κ) : Hub κ ε :=
  (h.listening channel).foldl (fun h c => h.write c chunk) h

def publish (p : Protocol ρ κ ε) (h : Hub κ ε) (e : ε) : Hub κ ε :=
  (p.channels e).foldl (fun h channel => h.emit (.message (p.message e)) channel)
    { h with recent := pushBounded p.size h.recent e }

lemma foldl_emit (h : Hub κ ε) (chunk : Chunk) (channels : List κ) :
    channels.foldl (fun h channel => h.emit chunk channel) h =
      h.writeTimes chunk fun d => (channels.map fun channel => (h.listening channel).count d).sum := by
  induction channels generalizing h with
  | nil => exact (h.writeTimes_zero chunk).symm
  | cons channel channels ih =>
    rw [List.foldl_cons, ih, emit, foldl_write, writeTimes_writeTimes]
    rfl

lemma count_listening {h : Hub κ ε} {c : ℕ} {channel : κ}
    (hc : h.listeners.filter (·.2 = c) = [(channel, c)]) (k : κ) :
    (h.listening k).count c = if k = channel then 1 else 0 := by
  have hcomm : (h.listeners.filter (·.1 = k)).filter (·.2 = c) =
      [(channel, c)].filter (·.1 = k) := by
    rw [List.filter_comm, hc]
  rw [listening, List.count, List.countP_map, List.countP_eq_length_filter]
  have hmem : ((h.listeners.filter (·.1 = k)).filter ((· == c) ∘ Prod.snd)).length =
      ([(channel, c)].filter (·.1 = k)).length := by
    rw [← hcomm]
    rfl
  rw [hmem]
  by_cases hk : k = channel
  · simp [hk]
  · simp [hk, Ne.symm hk]

lemma sum_count_listening {h : Hub κ ε} {c : ℕ} {channel : κ}
    (hc : h.listeners.filter (·.2 = c) = [(channel, c)]) (channels : List κ) :
    (channels.map fun k => (h.listening k).count c).sum = channels.count channel := by
  induction channels with
  | nil => rfl
  | cons k channels ih =>
    rw [List.map_cons, List.sum_cons, ih, count_listening hc, List.count_cons, Nat.add_comm]
    simp only [beq_iff_eq]

lemma sum_count_listening_of_left {h : Hub κ ε} {c : ℕ}
    (hc : h.listeners.filter (·.2 = c) = []) (channels : List κ) :
    (channels.map fun k => (h.listening k).count c).sum = 0 := by
  have hzero : ∀ k, (h.listening k).count c = 0 := fun k => by
    refine List.count_eq_zero.mpr fun hmem => ?_
    obtain ⟨l, hl, hlc⟩ := List.mem_map.mp hmem
    exact List.filter_eq_nil_iff.mp hc l (List.mem_of_mem_filter hl) (decide_eq_true hlc)
  induction channels with
  | nil => rfl
  | cons k channels ih => rw [List.map_cons, List.sum_cons, ih, hzero]

lemma publish_eq (p : Protocol ρ κ ε) (h : Hub κ ε) (e : ε) :
    h.publish p e = { h.writeTimes (.message (p.message e)) fun d =>
      ((p.channels e).map fun k => (h.listening k).count d).sum with
        recent := pushBounded p.size h.recent e } :=
  foldl_emit _ _ _

end Hub

/-! ### The log -/

/-- A connection, from where in the log it came to where it left. -/
structure Reader (ρ : Type*) where
  request : ρ
  start : ℕ
  stop : Option ℕ

/-- All events that have been published, and all connections that have come. -/
structure Feed (ρ ε : Type*) where
  log : List ε
  readers : List (Reader ρ)

namespace Feed

def empty : Feed ρ ε where
  log := []
  readers := []

def publish (f : Feed ρ ε) (e : ε) : Feed ρ ε := { f with log := f.log ++ [e] }

def subscribe (f : Feed ρ ε) (request : ρ) : Feed ρ ε :=
  { f with readers := f.readers ++ [⟨request, f.log.length, none⟩] }

/-- A connection that has left does not leave again. -/
def leave (f : Feed ρ ε) (c : ℕ) : Feed ρ ε :=
  { f with readers := f.readers.modify c fun r => { r with stop := r.stop.or (some f.log.length) } }

end Feed

namespace Reader

/-- The events since a reader came and until it left, and the last events before. -/
def window (r : Reader ρ) (before : ℕ) (log : List ε) : List ε :=
  (log.take (r.stop.getD log.length)).drop (r.start - before)

lemma window_eq {r : Reader ρ} {log : List ε} (hstart : r.start ≤ log.length)
    (hstop : ∀ n ∈ r.stop, r.start ≤ n) (before : ℕ) :
    r.window before log = (log.take r.start).drop (r.start - before) ++
      (log.take (r.stop.getD log.length)).drop r.start := by
  have hle : r.start ≤ r.stop.getD log.length := by
    cases hs : r.stop with
    | none => exact hstart
    | some n => exact hstop n hs
  have hsplit : log.take (r.stop.getD log.length) =
      log.take r.start ++ (log.take (r.stop.getD log.length)).drop r.start := by
    conv_lhs => rw [← List.take_append_drop r.start (log.take (r.stop.getD log.length)),
      List.take_take, min_eq_left hle]
  have hlength : r.start - before ≤ (log.take r.start).length := by
    rw [List.length_take_of_le hstart]
    omega
  rw [window, hsplit, List.drop_append_of_le_length hlength, ← hsplit]

end Reader

variable [DecidableEq κ]

namespace Protocol

/-- The events that a reader has been delivered: those since it came and until it left, as often as they
go to its channel. -/
def deliveries (p : Protocol ρ κ ε) (log : List ε) (r : Reader ρ) : List ε :=
  ((log.take (r.stop.getD log.length)).drop r.start).flatMap fun e =>
    List.replicate ((p.channels e).count (p.channel r.request)) e

def messages (p : Protocol ρ κ ε) (log : List ε) (r : Reader ρ) : List Json :=
  p.opening r.request ((log.take r.start).rtake p.size) ++ (p.deliveries log r).map p.message

variable {p : Protocol ρ κ ε} {log : List ε} {r : Reader ρ}

/-- A reader to whose channel each event goes once or never is delivered those that go there. -/
lemma deliveries_eq_filter {q : ε → Prop} [DecidablePred q]
    (hq : ∀ e ∈ log, (p.channels e).count (p.channel r.request) = if q e then 1 else 0) :
    p.deliveries log r = ((log.take (r.stop.getD log.length)).drop r.start).filter q := by
  have hall : ∀ e ∈ (log.take (r.stop.getD log.length)).drop r.start,
      (p.channels e).count (p.channel r.request) = if q e then 1 else 0 :=
    fun e he => hq e (List.mem_of_mem_take (List.mem_of_mem_drop he))
  rw [deliveries]
  generalize (log.take (r.stop.getD log.length)).drop r.start = events at hall ⊢
  induction events with
  | nil => rfl
  | cons e es ih =>
    rw [List.flatMap_cons, ih fun b hb => hall b (List.mem_cons_of_mem _ hb),
      hall e List.mem_cons_self, List.filter_cons]
    split_ifs <;> simp_all

lemma messages_concat (hstart : r.start ≤ log.length) (hstop : r.stop = none) (e : ε) :
    p.messages (log ++ [e]) r = p.messages log r ++
      List.replicate ((p.channels e).count (p.channel r.request)) (p.message e) := by
  have hdeliveries : p.deliveries (log ++ [e]) r = p.deliveries log r ++
      List.replicate ((p.channels e).count (p.channel r.request)) e := by
    rw [deliveries, deliveries, hstop, Option.getD_none, Option.getD_none, List.take_length,
      List.take_length, List.drop_append_of_le_length hstart, List.flatMap_append,
      List.flatMap_singleton]
  rw [messages, messages, List.take_append_of_le_length hstart, hdeliveries, List.map_append,
    List.map_replicate, List.append_assoc]

lemma messages_concat_of_left {n : ℕ} (hstart : r.start ≤ log.length) (hstop : r.stop = some n)
    (hn : n ≤ log.length) (e : ε) : p.messages (log ++ [e]) r = p.messages log r := by
  have hdeliveries : p.deliveries (log ++ [e]) r = p.deliveries log r := by
    simp [deliveries, hstop, List.take_append_of_le_length hn]
  rw [messages, messages, List.take_append_of_le_length hstart, hdeliveries]

lemma messages_leave : p.messages log { r with stop := r.stop.or (some log.length) } =
    p.messages log r := by
  cases hstop : r.stop with
  | none => simp [messages, deliveries, hstop]
  | some n => simp [messages, deliveries, hstop]

lemma messages_start (request : ρ) :
    p.messages log ⟨request, log.length, none⟩ = p.opening request (log.rtake p.size) := by
  simp [messages, deliveries]

end Protocol

/-- The hub has kept the last events, and to every connection it has written what the log says. A
connection that has not left listens on its channel, and one that has left is broken or has closed. -/
structure Tracks (p : Protocol ρ κ ε) (h : Hub κ ε) (f : Feed ρ ε) : Prop where
  recent : h.recent = f.log.rtake p.size
  connections : h.connections = f.readers.length
  listeners_lt : ∀ l ∈ h.listeners, l.2 < h.connections
  broken_lt : ∀ c ∈ h.broken, c < h.connections
  listens : ∀ c r, f.readers[c]? = some r → r.stop = none →
    c ∉ h.broken ∧ h.listeners.filter (·.2 = c) = [(p.channel r.request, c)]
  left : ∀ c r, f.readers[c]? = some r → r.stop ≠ none →
    c ∈ h.broken ∨ h.listeners.filter (·.2 = c) = []
  in_log : ∀ r ∈ f.readers, r.start ≤ f.log.length ∧ ∀ n ∈ r.stop, r.start ≤ n ∧ n ≤ f.log.length
  written : ∀ c r, f.readers[c]? = some r → h.messages c = p.messages f.log r
  oneLine : ∀ c, ∀ chunk ∈ h.written c, chunk.OneLine

namespace Tracks

open Hub

variable {p : Protocol ρ κ ε} {h : Hub κ ε} {f : Feed ρ ε}

lemma empty (p : Protocol ρ κ ε) : Tracks p Hub.empty Feed.empty where
  recent := (List.rtake_nil _).symm
  connections := rfl
  listeners_lt := fun _ hl => absurd hl List.not_mem_nil
  broken_lt := fun _ hc => absurd hc List.not_mem_nil
  listens := fun _ _ hr => by simp [Feed.empty] at hr
  left := fun _ _ hr => by simp [Feed.empty] at hr
  in_log := fun _ hr => absurd hr List.not_mem_nil
  written := fun _ _ hr => by simp [Feed.empty] at hr
  oneLine := fun _ _ hchunk => absurd hchunk List.not_mem_nil

lemma oneLine_writeTimes (ht : Tracks p h f) {chunk : Chunk} (hchunk : chunk.OneLine)
    (times : ℕ → ℕ) (c : ℕ) : ∀ b ∈ (h.writeTimes chunk times).written c, b.OneLine := by
  intro b hb
  rcases List.mem_append.mp hb with hb | hb
  · exact ht.oneLine c b hb
  · split_ifs at hb
    · exact absurd hb List.not_mem_nil
    · rwa [List.eq_of_mem_replicate hb]

lemma publish (ht : Tracks p h f) (e : ε) : Tracks p (h.publish p e) (f.publish e) := by
  rw [publish_eq]
  refine ⟨?_, ht.connections, ht.listeners_lt, ht.broken_lt, ht.listens, ht.left, ?_, ?_,
    ht.oneLine_writeTimes (Chunk.oneLine_message _) _⟩
  · change pushBounded p.size h.recent e = (f.log ++ [e]).rtake p.size
    rw [← pushBounded_rtake, ← ht.recent]
  · intro r hr
    obtain ⟨hstart, hstop⟩ := ht.in_log r hr
    have hlength : (f.publish e).log.length = f.log.length + 1 := List.length_append
    refine ⟨by omega, fun n hn => ⟨(hstop n hn).1, ?_⟩⟩
    have := (hstop n hn).2
    omega
  · intro c r hr
    obtain ⟨hstart, hin⟩ := ht.in_log r (List.mem_of_getElem? hr)
    have hmessages := messages_writeTimes h (p.message e)
      (fun d => ((p.channels e).map fun k => (h.listening k).count d).sum) c
    refine hmessages.trans ?_
    rw [ht.written c r hr]
    cases hstop : r.stop with
    | none =>
      obtain ⟨hbroken, hlistens⟩ := ht.listens c r hr hstop
      rw [if_neg hbroken, sum_count_listening hlistens]
      exact (Protocol.messages_concat hstart hstop e).symm
    | some n =>
      refine Eq.trans ?_ (Protocol.messages_concat_of_left hstart hstop (hin n hstop).2 e).symm
      rcases ht.left c r hr (by simp [hstop]) with hbroken | hnone
      · rw [if_pos hbroken, List.append_nil]
      · rw [sum_count_listening_of_left hnone, List.replicate_zero, ite_self, List.append_nil]

/-- The connection is written its opening and listens. -/
lemma subscribe (ht : Tracks p h f) (request : ρ) :
    Tracks p (h.subscribe p request) (f.subscribe request) := by
  have hnew : h.connections ∉ h.broken := fun hb => lt_irrefl _ (ht.broken_lt _ hb)
  have hread : ∀ c r, (f.subscribe request).readers[c]? = some r →
      (c < h.connections ∧ f.readers[c]? = some r) ∨
        (c = h.connections ∧ r = ⟨request, f.log.length, none⟩) := fun c r hr => by
    rw [ht.connections]
    rcases lt_trichotomy c f.readers.length with hc | rfl | hc
    · exact .inl ⟨hc, by rwa [Feed.subscribe, List.getElem?_append_left hc] at hr⟩
    · rw [Feed.subscribe, List.getElem?_concat_length] at hr
      exact .inr ⟨rfl, (Option.some.inj hr).symm⟩
    · rw [Feed.subscribe, List.getElem?_eq_none (by simp; omega)] at hr
      exact absurd hr (by simp)
  have hold : ∀ c < h.connections, (h.subscribe p request).listeners.filter (·.2 = c) =
      h.listeners.filter (·.2 = c) := fun c hc => by
    simp [Hub.subscribe, List.filter_append, hc.ne']
  refine ⟨ht.recent, ?_, ?_, ?_, ?_, ?_, ?_, ?_, ?_⟩
  · simp [Hub.subscribe, Feed.subscribe, ht.connections]
  · intro l hl
    rcases List.mem_append.mp hl with hl | hl
    · exact (ht.listeners_lt l hl).trans (Nat.lt_succ_self _)
    · rw [List.mem_singleton.mp hl]
      exact Nat.lt_succ_self _
  · exact fun c hc => (ht.broken_lt c hc).trans (Nat.lt_succ_self _)
  · intro c r hr hstop
    rcases hread c r hr with ⟨hc, hr⟩ | ⟨rfl, rfl⟩
    · rw [hold c hc]
      exact ht.listens c r hr hstop
    · refine ⟨hnew, ?_⟩
      have hnone : h.listeners.filter (·.2 = h.connections) = [] :=
        List.filter_eq_nil_iff.mpr fun l hl => by
          simpa using (ht.listeners_lt l hl).ne
      simp [Hub.subscribe, List.filter_append, hnone]
  · intro c r hr hstop
    rcases hread c r hr with ⟨hc, hr⟩ | ⟨rfl, rfl⟩
    · rw [hold c hc]
      exact ht.left c r hr hstop
    · exact absurd rfl hstop
  · intro r hr
    rcases List.mem_append.mp hr with hr | hr
    · exact ht.in_log r hr
    · rw [List.mem_singleton.mp hr]
      exact ⟨le_rfl, fun n hn => absurd hn (by simp)⟩
  · intro c r hr
    rcases hread c r hr with ⟨hc, hr⟩ | ⟨rfl, rfl⟩
    · rw [← show _ = p.messages (f.subscribe request).log r from ht.written c r hr]
      simp [Hub.messages, Hub.subscribe, Function.update_of_ne hc.ne]
    · refine Eq.trans ?_ (Protocol.messages_start request).symm
      rw [show (f.subscribe request).log = f.log from rfl, ← ht.recent]
      simp [Hub.messages, Hub.subscribe, List.filterMap_map, Function.comp_def, Chunk.message?]
  · intro c chunk hchunk
    by_cases hc : c = h.connections
    · have hopening : (h.subscribe p request).written c =
          (p.opening request h.recent).map .message := by
        rw [hc]
        exact Function.update_self ..
      obtain ⟨v, -, rfl⟩ := List.mem_map.mp (hopening ▸ hchunk)
      exact Chunk.oneLine_message v
    · have hsame : (h.subscribe p request).written c = h.written c := Function.update_of_ne hc ..
      exact ht.oneLine c chunk (hsame ▸ hchunk)

/-- What a connection that is closed or broken off has been written does not change, and it has left. -/
lemma leave (ht : Tracks p h f) (h' : Hub κ ε) (c : ℕ) (hrecent : h'.recent = h.recent)
    (hconnections : h'.connections = h.connections) (hwritten : h'.written = h.written)
    (hlisteners : h'.listeners.Sublist h.listeners)
    (hbroken : ∀ d ∈ h'.broken, d < h.connections)
    (hother : ∀ d ≠ c, (d ∈ h'.broken ↔ d ∈ h.broken) ∧
      h'.listeners.filter (·.2 = d) = h.listeners.filter (·.2 = d))
    (hleft : c ∈ h'.broken ∨ h'.listeners.filter (·.2 = c) = []) : Tracks p h' (f.leave c) := by
  have hread : ∀ d r, (f.leave c).readers[d]? = some r → ∃ q, f.readers[d]? = some q ∧
      r = if c = d then { q with stop := q.stop.or (some f.log.length) } else q := fun d r hr => by
    rw [Feed.leave, List.getElem?_modify] at hr
    obtain ⟨q, hq, rfl⟩ := Option.map_eq_some_iff.mp hr
    exact ⟨q, hq, rfl⟩
  refine ⟨hrecent.trans ht.recent, ?_, ?_, ?_, ?_, ?_, ?_, ?_, hwritten ▸ ht.oneLine⟩
  · rw [hconnections, ht.connections]
    exact (List.length_modify _ _ _).symm
  · exact fun l hl => hconnections ▸ ht.listeners_lt l (hlisteners.subset hl)
  · exact fun d hd => hconnections ▸ hbroken d hd
  · intro d r hr hstop
    obtain ⟨q, hq, rfl⟩ := hread d r hr
    split_ifs at hstop with hcd
    · cases hqs : q.stop <;> simp [hqs] at hstop
    · rw [if_neg hcd, (hother d (Ne.symm hcd)).1, (hother d (Ne.symm hcd)).2]
      exact ht.listens d q hq hstop
  · intro d r hr hstop
    obtain ⟨q, hq, rfl⟩ := hread d r hr
    by_cases hcd : c = d
    · exact hcd ▸ hleft
    · rw [if_neg hcd] at hstop
      rw [(hother d (Ne.symm hcd)).1, (hother d (Ne.symm hcd)).2]
      exact ht.left d q hq hstop
  · intro r hr
    obtain ⟨d, hd⟩ := List.getElem?_of_mem hr
    obtain ⟨q, hq, rfl⟩ := hread d r hd
    obtain ⟨hstart, hstop⟩ := ht.in_log q (List.mem_of_getElem? hq)
    split_ifs
    · refine ⟨hstart, fun n hn => ?_⟩
      cases hqs : q.stop with
      | none =>
        obtain rfl : f.log.length = n := by simpa [hqs] using hn
        exact ⟨hstart, le_rfl⟩
      | some m =>
        obtain rfl : m = n := by simpa [hqs] using hn
        exact hstop m hqs
    · exact ⟨hstart, hstop⟩
  · intro d r hr
    obtain ⟨q, hq, rfl⟩ := hread d r hr
    have hmessages : h'.messages d = h.messages d := by
      rw [Hub.messages, Hub.messages, hwritten]
    rw [hmessages, ht.written d q hq]
    split_ifs
    · exact Protocol.messages_leave.symm
    · rfl

lemma close (ht : Tracks p h f) (c : ℕ) : Tracks p (h.close c) (f.leave c) := by
  refine ht.leave _ c rfl rfl rfl List.filter_sublist ht.broken_lt ?_ (.inr ?_)
  · intro d hd
    refine ⟨Iff.rfl, ?_⟩
    rw [Hub.close, List.filter_filter]
    refine List.filter_congr fun l _ => ?_
    by_cases hl : l.2 = d
    · simp [hl, hd]
    · simp [hl]
  · simp [Hub.close]

lemma breakOff (ht : Tracks p h f) {c : ℕ} (hc : c < h.connections) :
    Tracks p (h.breakOff c) (f.leave c) := by
  refine ht.leave _ c rfl rfl rfl (List.Sublist.refl _) ?_ ?_ (.inl List.mem_cons_self)
  · exact List.forall_mem_cons.mpr ⟨hc, ht.broken_lt⟩
  · intro d hd
    exact ⟨by simp [Hub.breakOff, hd], rfl⟩

lemma comment (ht : Tracks p h f) (c : ℕ) {text : String} (htext : (Chunk.comment text).OneLine) :
    Tracks p (h.write c (.comment text)) f := by
  rw [write_eq]
  refine ⟨ht.recent, ht.connections, ht.listeners_lt, ht.broken_lt, ht.listens, ht.left, ht.in_log,
    fun d r hr => ?_, ht.oneLine_writeTimes htext _⟩
  rw [← ht.written d r hr]
  by_cases hbroken : d ∈ h.broken
  · simp [Hub.messages, writeTimes, hbroken]
  · simp [Hub.messages, writeTimes, hbroken, Chunk.message?]

lemma stopBeating (ht : Tracks p h f) (c : ℕ) : Tracks p (h.stopBeating c) f :=
  ⟨ht.recent, ht.connections, ht.listeners_lt, ht.broken_lt, ht.listens, ht.left, ht.in_log,
    ht.written, ht.oneLine⟩

/-- What a client receives on its connection. -/
theorem receive_written (ht : Tracks p h f) {c : ℕ} {r : Reader ρ} (hr : f.readers[c]? = some r) :
    receive ((h.written c).flatMap Chunk.text) = (p.messages f.log r).map Json.text := by
  rw [receive_chunks (ht.oneLine c), ← ht.written c r hr]
  rfl

end Tracks

end Core
