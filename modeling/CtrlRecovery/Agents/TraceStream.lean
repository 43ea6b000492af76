import CtrlRecovery.Core.EventHub
import CtrlRecovery.Core.Run
import CtrlRecovery.Platform

/-!
# Trace streams

`TraceStreamManager` streams the events of the agents' runs. It keeps the last hundred; a stream of one
run begins with those of the run, and a stream of all runs with the last twenty-five. After every run
of the manager a client has received the handshake and then a part of the log of all events without a
gap: those of its run, in order and each once, from the oldest that was kept when it came to the last
before it left (`receive_eq_window`).

The channel of all runs is called `trace:global`, as that of a run with the id `global` would be. The
events of such a run go to the streams of all runs twice, and its own streams get the events of all
runs; `receive_eq` covers these too.
-/

namespace CtrlRecovery

open Core EventStream

inductive TraceEventType
  | agentInitialized
  | agentStep
  | reasoningUpdate
  | toolExecutionStart
  | toolExecutionEnd
  | signalEmitted
  | decisionReached
  | missionCompleted
  | missionAborted
  deriving DecidableEq, Repr

def TraceEventType.text : TraceEventType → String
  | .agentInitialized   => "AGENT_INITIALIZED"
  | .agentStep          => "AGENT_STEP"
  | .reasoningUpdate    => "REASONING_UPDATE"
  | .toolExecutionStart => "TOOL_EXECUTION_START"
  | .toolExecutionEnd   => "TOOL_EXECUTION_END"
  | .signalEmitted      => "SIGNAL_EMITTED"
  | .decisionReached    => "DECISION_REACHED"
  | .missionCompleted   => "MISSION_COMPLETED"
  | .missionAborted     => "MISSION_ABORTED"

/-- What a caller broadcasts. -/
structure TraceEventInput where
  runId : String
  opportunityId : Option String
  eventType : TraceEventType
  payload : List (String × Json)

structure AgentTraceEvent extends TraceEventInput where
  eventId : String
  timestamp : String

/-- The id and the time come after the fields of the caller. -/
def AgentTraceEvent.toJson (e : AgentTraceEvent) : Json :=
  .object
    ([("run_id", .string e.runId)] ++
      (e.opportunityId.map fun id => ("opportunity_id", Json.string id)).toList ++
      [("event_type", .string e.eventType.text), ("payload", .object e.payload),
        ("event_id", .string e.eventId), ("timestamp", .string e.timestamp)])

namespace TraceStreamManager

/-- The run that is asked for; no run, an empty one and `ALL` ask for all runs. -/
def selectedRun (runId : Option String) : Option String :=
  runId.filter fun id => id ≠ "" ∧ id ≠ "ALL"

def Selects (runId : Option String) (e : AgentTraceEvent) : Prop :=
  ∀ id ∈ selectedRun runId, e.runId = id

instance (runId : Option String) : DecidablePred (Selects runId) := fun _ => by
  unfold Selects
  infer_instance

def channelOf (id : String) : String := "trace:" ++ id

def handshake (runId : Option String) : Json :=
  .object [("type", .string "CONNECTED"), ("message", .string "Trace stream connected"),
    ("run_id", .string ((runId.filter (· ≠ "")).getD "ALL"))]

/-- What is replayed to a new stream. -/
def matchingBuffered (runId : Option String) (recentEvents : List AgentTraceEvent) :
    List AgentTraceEvent :=
  match selectedRun runId with
  | some id => recentEvents.filter (·.runId = id)
  | none    => recentEvents.rtake 25

def traceProtocol : Protocol (Option String) String AgentTraceEvent where
  size := 100
  channel runId := (selectedRun runId).elim "trace:global" channelOf
  channels e := [channelOf e.runId, "trace:global"]
  opening runId recentEvents :=
    handshake runId :: (matchingBuffered runId recentEvents).map AgentTraceEvent.toJson
  message := AgentTraceEvent.toJson

abbrev Streams := Hub String AgentTraceEvent

section Steps

variable (isoString : Timestamp → String)

/-- The event that is broadcast; `suffix` is random. -/
def fullEvent (event : TraceEventInput) (now : Timestamp) (suffix : String) : AgentTraceEvent :=
  { event with eventId := s!"trc_{now}_{suffix}", timestamp := isoString now }

def broadcast (s : Streams) (event : TraceEventInput) (now : Timestamp) (suffix : String) : Streams :=
  s.publish traceProtocol (fullEvent isoString event now suffix)

def subscribe (s : Streams) (runId : Option String) : Streams := s.subscribe traceProtocol runId

/-- The interval of a stream ends itself when its connection has dropped. -/
def heartbeat (s : Streams) (c : ℕ) : Streams :=
  if c ∈ s.broken then s.stopBeating c else s.write c (.comment " heartbeat")

def getRecentEvents (s : Streams) (runId : Option String) : List AgentTraceEvent :=
  match selectedRun runId with
  | some id => s.recent.filter (·.runId = id)
  | none    => s.recent

/-- `cleanup` is run by the close event of a response or by whoever has subscribed it. After `drop` the
writes to a response throw. -/
inductive TraceAction
  | broadcast (event : TraceEventInput) (now : Timestamp) (suffix : String)
  | subscribe (runId : Option String)
  | cleanup (c : ℕ)
  | drop (c : ℕ)
  | heartbeat (c : ℕ)

def traceStep (s : Streams) : TraceAction → Option Streams
  | .broadcast event now suffix => some (broadcast isoString s event now suffix)
  | .subscribe runId            => some (subscribe s runId)
  | .cleanup c                  => if c < s.connections then some (s.close c) else none
  | .drop c                     => if c < s.connections then some (s.breakOff c) else none
  | .heartbeat c                => if c ∈ s.beating then some (heartbeat s c) else none

/-! ### The log -/

/-- What an action adds to the log. -/
def record (f : Feed (Option String) AgentTraceEvent) :
    TraceAction → Feed (Option String) AgentTraceEvent
  | .broadcast event now suffix => f.publish (fullEvent isoString event now suffix)
  | .subscribe runId            => f.subscribe runId
  | .cleanup c                  => f.leave c
  | .drop c                     => f.leave c
  | .heartbeat _                => f

def recorded (actions : List TraceAction) : Feed (Option String) AgentTraceEvent :=
  actions.foldl (record isoString) .empty

end Steps

variable {isoString : Timestamp → String} {s t : Streams} {actions : List TraceAction}
  {f : Feed (Option String) AgentTraceEvent} {a : TraceAction}

lemma tracks_step (ht : Tracks traceProtocol s f) (hs : traceStep isoString s a = some t) :
    Tracks traceProtocol t (record isoString f a) := by
  cases a with
  | broadcast event now suffix =>
    obtain rfl := Option.some.inj hs
    exact ht.publish _
  | subscribe runId =>
    obtain rfl := Option.some.inj hs
    exact ht.subscribe runId
  | cleanup c =>
    obtain ⟨-, ⟨rfl⟩⟩ := Option.ite_none_right_eq_some.mp hs
    exact ht.close c
  | drop c =>
    obtain ⟨hc, ⟨rfl⟩⟩ := Option.ite_none_right_eq_some.mp hs
    exact ht.breakOff hc
  | heartbeat c =>
    obtain ⟨-, ⟨rfl⟩⟩ := Option.ite_none_right_eq_some.mp hs
    rw [heartbeat]
    split_ifs
    · exact ht.stopBeating c
    · refine ht.comment c ?_
      exact (not_endsLine_of_all (by decide) : ∀ c ∈ " heartbeat".toList, endsLine c = false)

lemma tracks_run (ht : Tracks traceProtocol s f) (hrun : Run (traceStep isoString) s actions t) :
    Tracks traceProtocol t (actions.foldl (record isoString) f) := by
  induction hrun generalizing f with
  | nil => exact ht
  | cons hs _ ih => exact ih (tracks_step ht hs)

lemma tracks_recorded (hrun : Run (traceStep isoString) .empty actions s) :
    Tracks traceProtocol s (recorded isoString actions) :=
  tracks_run (Tracks.empty _) hrun

lemma getRecentEvents_eq (hrun : Run (traceStep isoString) .empty actions s)
    (runId : Option String) :
    getRecentEvents s runId =
      ((recorded isoString actions).log.rtake 100).filter (Selects runId) := by
  have hrecent : s.recent = (recorded isoString actions).log.rtake 100 :=
    (tracks_recorded hrun).recent
  rw [getRecentEvents, hrecent]
  cases hselected : selectedRun runId with
  | none => exact (List.filter_eq_self.mpr fun e _ => by simp [Selects, hselected]).symm
  | some id => exact List.filter_congr fun e _ => by simp [Selects, hselected]

/-! ### What a client receives -/

variable {log : List AgentTraceEvent} {r : Reader (Option String)} {c : ℕ}

/-- A client receives the handshake, the events replayed to it, and those delivered to it since. -/
lemma receive_eq (hrun : Run (traceStep isoString) .empty actions s)
    (hr : (recorded isoString actions).readers[c]? = some r) :
    receive ((s.written c).flatMap Chunk.text) =
      (handshake r.request :: (matchingBuffered r.request
        (((recorded isoString actions).log.take r.start).rtake 100) ++
          traceProtocol.deliveries (recorded isoString actions).log r).map
            AgentTraceEvent.toJson).map Json.text := by
  rw [(tracks_recorded hrun).receive_written hr]
  exact congrArg (fun events => (handshake r.request :: events).map Json.text)
    List.map_append.symm

/-- How many of the last events are replayed to a stream. -/
def kept (runId : Option String) : ℕ := (selectedRun runId).elim 25 fun _ => 100

lemma matchingBuffered_rtake (runId : Option String) (events : List AgentTraceEvent) :
    matchingBuffered runId (events.rtake 100) =
      (events.rtake (kept runId)).filter (Selects runId) := by
  rw [matchingBuffered, kept]
  cases hselected : selectedRun runId with
  | none =>
    have hall : ∀ e : AgentTraceEvent, Selects runId e := fun e id hid => by
      rw [hselected] at hid
      cases hid
    rw [List.filter_eq_self.mpr fun e _ => decide_eq_true (hall e)]
    exact rtake_rtake (by decide) events
  | some id => exact List.filter_congr fun e _ => by simp [Selects, hselected]

lemma channelOf_inj {id id' : String} : channelOf id = channelOf id' ↔ id = id' :=
  ⟨fun h => by simpa [channelOf, String.ext_iff] using h, fun h => h ▸ rfl⟩

/-- An event goes once to the streams that ask for it, and to no other. -/
lemma count_channels (e : AgentTraceEvent) (runId : Option String)
    (hname : selectedRun runId ≠ some "global")
    (hlog : selectedRun runId = none → e.runId ≠ "global") :
    (traceProtocol.channels e).count (traceProtocol.channel runId) =
      if Selects runId e then 1 else 0 := by
  have hglobal : "trace:global" = channelOf "global" := rfl
  change [channelOf e.runId, "trace:global"].count
    ((selectedRun runId).elim "trace:global" channelOf) = _
  rw [hglobal]
  cases hselected : selectedRun runId with
  | none =>
    have hne : channelOf e.runId ≠ channelOf "global" :=
      fun h => hlog hselected (channelOf_inj.mp h)
    simp [Selects, hselected, hne]
  | some id =>
    have hne : channelOf "global" ≠ channelOf id := fun h =>
      hname (by rw [hselected, channelOf_inj.mp h])
    simp [Selects, hselected, List.count_cons, hne, channelOf_inj]

lemma count_channels_global {e : AgentTraceEvent} (he : e.runId = "global") :
    (traceProtocol.channels e).count (traceProtocol.channel none) = 2 := by
  change [channelOf e.runId, "trace:global"].count "trace:global" = 2
  rw [he]
  decide

/-- A client receives the handshake and then, without a gap, in order and each once, the events of its
window of the log. -/
theorem receive_eq_window (hrun : Run (traceStep isoString) .empty actions s)
    (hr : (recorded isoString actions).readers[c]? = some r)
    (hname : selectedRun r.request ≠ some "global")
    (hlog : selectedRun r.request = none →
      ∀ e ∈ (recorded isoString actions).log, e.runId ≠ "global") :
    receive ((s.written c).flatMap Chunk.text) =
      (handshake r.request ::
        ((r.window (kept r.request) (recorded isoString actions).log).filter (Selects r.request)).map
          AgentTraceEvent.toJson).map Json.text := by
  rw [receive_eq hrun hr]
  obtain ⟨hstart, hstop⟩ := (tracks_recorded hrun).in_log r (List.mem_of_getElem? hr)
  generalize (recorded isoString actions).log = log at *
  have hbefore : (log.take r.start).length = r.start := List.length_take_of_le hstart
  have hdelivered : traceProtocol.deliveries log r =
      ((log.take (r.stop.getD log.length)).drop r.start).filter (Selects r.request) :=
    Protocol.deliveries_eq_filter fun e he => count_channels e r.request hname fun hall =>
      hlog hall e he
  rw [matchingBuffered_rtake, List.rtake, hbefore, hdelivered, ← List.filter_append,
    ← Reader.window_eq hstart fun n hn => (hstop n hn).1]

/-- The start of a run, the start of another run, and the end of the first. -/
def startEvent : TraceEventInput := ⟨"run_1", none, .agentInitialized, []⟩

def otherEvent : TraceEventInput := ⟨"run_2", none, .agentInitialized, []⟩

def endEvent : TraceEventInput := ⟨"run_1", some "opp_1", .missionCompleted, []⟩

/-- A stream of the first run, opened after its start. -/
def twoRuns : List TraceAction :=
  [.broadcast startEvent 1 "a", .subscribe (some "run_1"), .broadcast otherEvent 2 "b",
    .broadcast endEvent 3 "c"]

lemma window_twoRuns (isoString : Timestamp → String) :
    (Reader.window ⟨some "run_1", 1, none⟩ (kept (some "run_1"))
      (recorded isoString twoRuns).log).filter (Selects (some "run_1")) =
        [fullEvent isoString startEvent 1 "a", fullEvent isoString endEvent 3 "c"] := by
  have hselected : selectedRun (some "run_1") = some "run_1" := by decide
  simp [Reader.window, kept, Selects, hselected, recorded, twoRuns, record, Feed.publish,
    Feed.subscribe, Feed.empty, fullEvent, startEvent, otherEvent, endEvent]

theorem receives_own_run : ∃ s, Run (traceStep Platform.plain.isoString) .empty twoRuns s ∧
    receive ((s.written 0).flatMap Chunk.text) =
      (handshake (some "run_1") ::
        [fullEvent Platform.plain.isoString startEvent 1 "a",
          fullEvent Platform.plain.isoString endEvent 3 "c"].map
            AgentTraceEvent.toJson).map Json.text := by
  obtain ⟨s, hrun⟩ : ∃ s, Run (traceStep Platform.plain.isoString) .empty twoRuns s :=
    ⟨_, run_iff_execute.mpr rfl⟩
  have hselected : selectedRun (some "run_1") = some "run_1" := by decide
  refine ⟨s, hrun, ?_⟩
  rw [← window_twoRuns]
  exact receive_eq_window hrun (r := ⟨some "run_1", 1, none⟩) rfl (by simp [hselected])
    (by simp [hselected])

end TraceStreamManager

end CtrlRecovery
