import CtrlRecovery.Core.EventHub
import CtrlRecovery.Core.Run
import CtrlRecovery.Platform

/-!
# Deliberation streams

`DeliberationStreamHub` streams what the agents deliberate to the user interface. It keeps the last
fifty events and replays all of them to a new stream. After every run of the hub a client has received
a part of the log of all events without a gap, in order and each once: from the fiftieth before it came
to the last before it left (`receive_eq_backlog`).
-/

namespace CtrlRecovery

open Core EventStream

inductive DeliberationStage
  | perception
  | economic
  | market
  | authority
  | outreach
  | execution
  deriving DecidableEq, Repr

def DeliberationStage.text : DeliberationStage → String
  | .perception => "PERCEPTION"
  | .economic   => "ECONOMIC"
  | .market     => "MARKET"
  | .authority  => "AUTHORITY"
  | .outreach   => "OUTREACH"
  | .execution  => "EXECUTION"

inductive DeliberationStatus
  | started
  | deliberating
  | approved
  | vetoed
  | completed
  deriving DecidableEq, Repr

def DeliberationStatus.text : DeliberationStatus → String
  | .started      => "STARTED"
  | .deliberating => "DELIBERATING"
  | .approved     => "APPROVED"
  | .vetoed       => "VETOED"
  | .completed    => "COMPLETED"

/-- What a caller publishes. -/
structure DeliberationInput where
  stage : DeliberationStage
  agentName : String
  opportunityId : Option String
  status : DeliberationStatus
  thoughtSummary : String
  metrics : Option (List (String × Json))

structure DeliberationEvent extends DeliberationInput where
  eventId : String
  timestamp : String

/-- The id and the time come after the fields of the caller. -/
def DeliberationEvent.toJson (e : DeliberationEvent) : Json :=
  .object
    ([("stage", .string e.stage.text), ("agent_name", .string e.agentName)] ++
      (e.opportunityId.map fun id => ("opportunity_id", Json.string id)).toList ++
      [("status", .string e.status.text), ("thought_summary", .string e.thoughtSummary)] ++
      (e.metrics.map fun metrics => ("metrics", Json.object metrics)).toList ++
      [("event_id", .string e.eventId), ("timestamp", .string e.timestamp)])

namespace DeliberationStreamHub

/-- Every stream gets every event. -/
def deliberationProtocol : Protocol Unit String DeliberationEvent where
  size := 50
  channel _ := "deliberation"
  channels _ := ["deliberation"]
  opening _ recentEvents := recentEvents.map DeliberationEvent.toJson
  message := DeliberationEvent.toJson

abbrev Streams := Hub String DeliberationEvent

section Steps

variable (isoString : Timestamp → String)

/-- The event that is published; `suffix` is random. -/
def fullEvent (event : DeliberationInput) (now : Timestamp) (suffix : String) : DeliberationEvent :=
  { event with eventId := s!"evt_{now}_{suffix}", timestamp := isoString now }

def publish (s : Streams) (event : DeliberationInput) (now : Timestamp) (suffix : String) : Streams :=
  s.publish deliberationProtocol (fullEvent isoString event now suffix)

def getRecentEvents (s : Streams) : List DeliberationEvent := s.recent

def handleDeliberationStream (s : Streams) : Streams := s.subscribe deliberationProtocol ()

def heartbeat (s : Streams) (c : ℕ) (now : Timestamp) : Streams :=
  s.write c (.comment (" heartbeat " ++ isoString now))

/-- After `drop` the writes to a response throw. -/
inductive DeliberationAction
  | publish (event : DeliberationInput) (now : Timestamp) (suffix : String)
  | handleDeliberationStream
  | close (c : ℕ)
  | drop (c : ℕ)
  | heartbeat (c : ℕ) (now : Timestamp)

def deliberationStep (s : Streams) : DeliberationAction → Option Streams
  | .publish event now suffix => some (publish isoString s event now suffix)
  | .handleDeliberationStream => some (handleDeliberationStream s)
  | .close c                  => if c < s.connections then some (s.close c) else none
  | .drop c                   => if c < s.connections then some (s.breakOff c) else none
  | .heartbeat c now          => if c ∈ s.beating then some (heartbeat isoString s c now) else none

/-! ### The log -/

/-- What an action adds to the log. -/
def record (f : Feed Unit DeliberationEvent) : DeliberationAction → Feed Unit DeliberationEvent
  | .publish event now suffix => f.publish (fullEvent isoString event now suffix)
  | .handleDeliberationStream => f.subscribe ()
  | .close c                  => f.leave c
  | .drop c                   => f.leave c
  | .heartbeat _ _            => f

/-- All events of the actions and all streams. -/
def recorded (actions : List DeliberationAction) : Feed Unit DeliberationEvent :=
  actions.foldl (record isoString) .empty

end Steps

variable {isoString : Timestamp → String} {s t : Streams} {actions : List DeliberationAction}
  {f : Feed Unit DeliberationEvent} {a : DeliberationAction}

lemma tracks_step (hiso : ∀ now, ∀ d ∈ (isoString now).toList, endsLine d = false)
    (ht : Tracks deliberationProtocol s f) (hs : deliberationStep isoString s a = some t) :
    Tracks deliberationProtocol t (record isoString f a) := by
  cases a with
  | publish event now suffix =>
    obtain rfl := Option.some.inj hs
    exact ht.publish _
  | handleDeliberationStream =>
    obtain rfl := Option.some.inj hs
    exact ht.subscribe ()
  | close c =>
    obtain ⟨-, ⟨rfl⟩⟩ := Option.ite_none_right_eq_some.mp hs
    exact ht.close c
  | drop c =>
    obtain ⟨hc, ⟨rfl⟩⟩ := Option.ite_none_right_eq_some.mp hs
    exact ht.breakOff hc
  | heartbeat c now =>
    obtain ⟨-, ⟨rfl⟩⟩ := Option.ite_none_right_eq_some.mp hs
    refine ht.comment c fun d hd => ?_
    rw [String.toList_append] at hd
    rcases List.mem_append.mp hd with hd | hd
    · have hline : ∀ d ∈ " heartbeat ".toList, endsLine d = false :=
        not_endsLine_of_all (by decide)
      exact hline d hd
    · exact hiso now d hd

lemma tracks_run (hiso : ∀ now, ∀ d ∈ (isoString now).toList, endsLine d = false)
    (ht : Tracks deliberationProtocol s f)
    (hrun : Run (deliberationStep isoString) s actions t) :
    Tracks deliberationProtocol t (actions.foldl (record isoString) f) := by
  induction hrun generalizing f with
  | nil => exact ht
  | cons hs _ ih => exact ih (tracks_step hiso ht hs)

/-! ### What a client receives -/

/-- A client receives its window of the log, without a gap, in order and each event once. -/
theorem receive_eq_backlog (hiso : ∀ now, ∀ d ∈ (isoString now).toList, endsLine d = false)
    (hrun : Run (deliberationStep isoString) .empty actions s) {c : ℕ} {r : Reader Unit}
    (hr : (recorded isoString actions).readers[c]? = some r) :
    receive ((s.written c).flatMap Chunk.text) =
      ((r.window 50 (recorded isoString actions).log).map DeliberationEvent.toJson).map
        Json.text := by
  have ht : Tracks deliberationProtocol s (recorded isoString actions) :=
    tracks_run hiso (Tracks.empty _) hrun
  obtain ⟨hstart, hstop⟩ := ht.in_log r (List.mem_of_getElem? hr)
  rw [ht.receive_written hr]
  generalize (recorded isoString actions).log = log at *
  have hdelivered : deliberationProtocol.deliveries log r =
      (log.take (r.stop.getD log.length)).drop r.start := by
    rw [Protocol.deliveries_eq_filter (q := fun _ => True) fun e _ => by
      simp [deliberationProtocol]]
    exact List.filter_eq_self.mpr fun _ _ => rfl
  have hbacklog : (log.take r.start).rtake 50 = (log.take r.start).drop (r.start - 50) := by
    rw [List.rtake, List.length_take_of_le hstart]
  rw [Reader.window_eq hstart fun n hn => (hstop n hn).1, ← hbacklog, ← hdelivered, List.map_append]
  rfl

/-- A vetoed opportunity and one that is executed. -/
def vetoedEvent : DeliberationInput :=
  ⟨.authority, "AuthorityGate", some "opp_1", .vetoed, "Over budget", none⟩

def executedEvent : DeliberationInput :=
  ⟨.execution, "ExecutionAgent", some "opp_2", .completed, "Link sent", none⟩

/-- A stream that is opened between two events. -/
def betweenEvents : List DeliberationAction :=
  [.publish vetoedEvent 1 "a", .handleDeliberationStream, .heartbeat 0 2,
    .publish executedEvent 3 "b"]

/-- An ISO text, as far as it is printed here. -/
def printedTime (_ : Timestamp) : String := "2026-01-01T00:00:00.000Z"

theorem receives_both_events :
    ∃ s, Run (deliberationStep printedTime) .empty betweenEvents s ∧
      receive ((s.written 0).flatMap Chunk.text) =
        ([fullEvent printedTime vetoedEvent 1 "a", fullEvent printedTime executedEvent 3 "b"].map
          DeliberationEvent.toJson).map Json.text := by
  obtain ⟨s, hrun⟩ : ∃ s, Run (deliberationStep printedTime) .empty betweenEvents s :=
    ⟨_, run_iff_execute.mpr rfl⟩
  have hiso : ∀ now, ∀ d ∈ (printedTime now).toList, endsLine d = false := fun _ =>
    not_endsLine_of_all (by rw [printedTime]; decide)
  exact ⟨s, hrun, receive_eq_backlog hiso hrun (r := ⟨(), 1, none⟩) rfl⟩

end DeliberationStreamHub

end CtrlRecovery
