import EventRelay.Proofs.Dispatch.Markers

/-!
# Failures through nested posts

A listener body may post as well, on its own bus or on another one, and return the error of
that post as its own. Posts nest in this way, and a failure of the innermost body ends all of
them. On its way out it is told to the handler of every level, and every level adds its own
position and description to it. A panic is told in the same way, but goes out as it is.
-/

namespace EventRelay

namespace Host

variable {σ β : Type}

/-- The rest of a body that posts and returns the error of the post as its own; it goes on only
if the post succeeds. The event of the body may be the posted one or another: `keep` says what
it is in the end, given what has become of the posted one. -/
def forward (host : Host σ β) (phase? : Option Priority) (keep : Event → Event)
    (goOn : Handler σ) : Handler σ := fun posted =>
  match host.postTo phase? posted with
  | (.ok (), left) => goOn left
  | (.error stop, left, after) =>
      (.error (stop.map fun error => .ofThrown (.bus error)), keep left, after)

theorem forward_of_error
    {host : Host σ β}
    {phase? : Option Priority}
    {posted left : Event × σ}
    {stop : Stop BusError}
    (ended : host.postTo phase? posted = (.error stop, left))
    (keep : Event → Event)
    (goOn : Handler σ) :
    host.forward phase? keep goOn posted =
      (.error (stop.map fun error => .ofThrown (.bus error)), keep left.1, left.2) := by
  rw [forward, ended]

end Host

/-- A post one of whose listeners fails. -/
structure FailedPost (σ β : Type) where
  /-- The bus that is posted on. -/
  host : Host σ β
  /-- The priority that is posted to, if it is a single one. -/
  phase? : Option Priority
  /-- The dispatched array. -/
  listeners : List (Listener β)
  /-- The listeners in front of the one that fails. -/
  before : List (Listener β)
  /-- The listener that fails. -/
  entry : Listener β
  /-- The bodies that ran without failure. -/
  bodies : List β
  /-- The event as the failing listener left it. -/
  event : Event

namespace FailedPost

variable {σ β : Type}

/-- The post is dispatched and its listeners have their turns, up to the one that fails, which
is entered in the given state. -/
def ComesTo (level : FailedPost σ β) (start reached : Event × σ) : Prop :=
  level.host.Takes level.phase? start.2 ∧
    ∃ ready, level.host.offer level.phase? start.1.kind start.2 = (.ok level.listeners, ready) ∧
      (∃ after, level.listeners = level.before ++ level.entry :: after) ∧
      Host.Turns level.host.run level.before (start.1, ready) level.bodies reached ∧
      (level.entry.checksCancellation = false ∨ reached.1.isCanceled = false)

/-- The failure of the level with its cause. -/
def failure (level : FailedPost σ β) (source : ListenerError) : BusError :=
  .listenerFailed level.before.length level.entry.description source

/-- What the level tells its handler. -/
def incident (level : FailedPost σ β) (error : ListenerError) : Incident β :=
  ⟨level.event, level.listeners, level.before.length, error⟩

/-- Counts the dispatch and the failure, and tells the handler. -/
def tell (level : FailedPost σ β) (incident : Incident β) (state : σ) : σ :=
  (level.host.handle incident
    (level.host.modify Bus.recordFailure
      (level.host.modify (fun bus => bus.recordPost (level.bodies.length + 1)) state))).2

/-- The text that the level puts in front of the message of its cause. -/
def heading (level : FailedPost σ β) : String :=
  "Listener #" ++ toString level.before.length ++ " (" ++ level.entry.description ++ ") failed: "

/-- A post fails as its listener does, once the handler has been told and has returned. -/
theorem ComesTo.postTo_eq
    {level : FailedPost σ β}
    {start reached : Event × σ}
    {stop : Stop ListenerError}
    {after : σ}
    (comes : level.ComesTo start reached)
    (ended : level.host.run level.entry.body reached = (.error stop, level.event, after))
    (returns : ∀ incident state, (level.host.handle incident state).1 = .ok ()) :
    level.host.postTo level.phase? start =
      (.error (Host.resume level.before.length level.entry stop), level.event,
        level.tell (level.incident stop.listenerError) after) := by
  obtain ⟨takes, ready, offers, split, turns, called⟩ := comes
  have fails : Host.Fails level.host.run level.listeners (start.1, ready) level.before level.entry
      level.bodies stop (level.event, after) :=
    ⟨split, reached, turns, called, ended⟩
  have posted : level.host.postTo level.phase? start =
      level.host.dispatch level.listeners (start.1, ready) :=
    Host.postTo_of_offer takes offers level.host.run level.host.handle
  have returned (incident : Incident β) (state : σ) :
      level.host.handle incident state = (.ok (), (level.host.handle incident state).2) :=
    Prod.ext (returns incident state) rfl
  rw [posted, fails.dispatch_eq, returned]
  rfl

/-! ## Nests of posts -/

/-- The error that the outermost of some levels gets as the cause of its failure, the levels
being those inside it. It is the error of the innermost body, wrapped once by each level. -/
def cause (innermost : ListenerError) : List (FailedPost σ β) → ListenerError
  | [] => innermost
  | inner :: inside => .customBus (inner.failure (cause innermost inside))

/-- The error that a level tells its handler. -/
def reported : Stop Thrown → List (FailedPost σ β) → ListenerError
  | .raised thrown, inside => cause (.ofThrown thrown) inside
  | .panicked payload, _ => .ofPanic payload

/-- All that handlers are told, the innermost level first. -/
def reports (ending : Stop Thrown) : List (FailedPost σ β) → List (FailedPost σ β × Incident β)
  | [] => []
  | level :: inside =>
      reports ending inside ++ [(level, level.incident (reported ending inside))]

/-- The state once all handlers have been told, from the one that the innermost body leaves. -/
def told (ending : Stop Thrown) (levels : List (FailedPost σ β)) (left : σ) : σ :=
  (reports ending levels).foldl (fun state report => report.1.tell report.2 state) left

theorem told_cons
    (ending : Stop Thrown)
    (level : FailedPost σ β)
    (inside : List (FailedPost σ β))
    (left : σ) :
    told ending (level :: inside) left =
      level.tell (level.incident (reported ending inside)) (told ending inside left) := by
  rw [told, reports, List.foldl_append]
  rfl

/-- How the post of a level ends. -/
def surfaced (level : FailedPost σ β) (inside : List (FailedPost σ β)) : Stop Thrown → Stop BusError
  | .raised thrown => .raised (level.failure (cause (.ofThrown thrown) inside))
  | .panicked payload => .panicked payload

/-- The listener that fails at each level but the last one does so by posting, and returning the
error of that post, at the next level. The innermost body ends in the given way and leaves the
given state. -/
inductive Nested (ending : Stop Thrown) (left : σ) : List (FailedPost σ β) → Event × σ → Prop
  | innermost {level : FailedPost σ β} {start reached : Event × σ} :
      level.ComesTo start reached →
      level.host.run level.entry.body reached =
        (.error (ending.map .ofThrown), level.event, left) →
      Nested ending left [level] start
  | posts {level inner : FailedPost σ β} {inside : List (FailedPost σ β)}
      {start reached posted : Event × σ} {keep : Event → Event} {goOn : Handler σ} :
      level.ComesTo start reached →
      level.host.run level.entry.body reached =
        inner.host.forward inner.phase? keep goOn posted →
      keep inner.event = level.event →
      Nested ending left (inner :: inside) posted →
      Nested ending left (level :: inner :: inside) start

section Reports

variable (ending : Stop Thrown) (levels : List (FailedPost σ β))

/-- Every level tells its handler once of its own event, array and position. -/
theorem map_reports :
    ((reports ending levels).map fun (level, incident) =>
        (level, incident.event, incident.listeners, incident.index)) =
      levels.reverse.map fun level =>
        (level, level.event, level.listeners, level.before.length) := by
  induction levels with
  | nil => rfl
  | cons level inside inductionHypothesis =>
      rw [reports, List.map_append, inductionHypothesis, List.reverse_cons, List.map_append]
      rfl

theorem fst_reports : (reports ending levels).map Prod.fst = levels.reverse := by
  have first := congrArg (List.map Prod.fst) (map_reports ending levels)
  rw [List.map_map, List.map_map] at first
  exact first.trans (List.map_id _)

/-- A panic is reported by its text at every level, or as one that has no text. -/
theorem error_of_mem_reports
    {payload : Panic}
    {report : FailedPost σ β × Incident β}
    (isReport : report ∈ reports (.panicked payload) levels) :
    report.2.error = .panic (payload.text?.getD "non-string panic payload") := by
  induction levels with
  | nil => cases isReport
  | cons level inside inductionHypothesis =>
      rcases List.mem_append.mp isReport with isInner | isOwn
      · exact inductionHypothesis isInner
      · rw [List.mem_singleton.mp isOwn]
        rfl

end Reports

/-- A handler that writes down what it is told, and each metrics change leaves the record. -/
theorem record_foldl_tell
    {α : Type}
    (record : σ → List α)
    (line : FailedPost σ β → Incident β → α)
    (told : List (FailedPost σ β × Incident β))
    (writes : ∀ level ∈ told.map Prod.fst, ∀ incident state,
      record (level.host.handle incident state).2 = record state ++ [line level incident])
    (still : ∀ level ∈ told.map Prod.fst, ∀ bus state,
      record (level.host.withBus bus state) = record state)
    (state : σ) :
    record (told.foldl (fun state report => report.1.tell report.2 state) state) =
      record state ++ told.map fun report => line report.1 report.2 := by
  induction told generalizing state with
  | nil => rw [List.foldl_nil, List.map_nil, List.append_nil]
  | cons report rest inductionHypothesis =>
      have isFirst : report.1 ∈ (report :: rest).map Prod.fst := List.mem_cons_self
      have first : record (report.1.tell report.2 state) =
          record state ++ [line report.1 report.2] := by
        rw [tell, writes _ isFirst, Host.modify, still _ isFirst, Host.modify, still _ isFirst]
      rw [List.foldl_cons, inductionHypothesis
          (fun level isLevel => writes level (List.mem_cons_of_mem _ isLevel))
          (fun level isLevel => still level (List.mem_cons_of_mem _ isLevel)),
        first, List.append_assoc]
      rfl

@[simp] theorem message_failure
    (level : FailedPost σ β)
    (source : ListenerError) :
    (level.failure source).message = level.heading ++ source.message := rfl

theorem message_customBus (error : BusError) :
    (ListenerError.customBus error).message = error.message := rfl

/-- Each level puts its heading in front. -/
theorem message_cause
    (innermost : ListenerError)
    (inside : List (FailedPost σ β)) :
    (cause innermost inside).message =
      String.join (inside.map heading) ++ innermost.message := by
  induction inside with
  | nil => rw [cause, List.map_nil, String.join_nil, String.empty_append]
  | cons inner inside inductionHypothesis =>
      rw [cause, message_customBus, message_failure, inductionHypothesis, List.map_cons,
        String.join_cons, String.append_assoc]

/-- A level whose listener forwards the end of the next level ends like one whose listener
fails by itself, with one more layer around the cause. -/
theorem resume_forwarded
    (level inner : FailedPost σ β)
    (inside : List (FailedPost σ β))
    (ending : Stop Thrown) :
    Host.resume level.before.length level.entry
        ((inner.surfaced inside ending).map fun error => .ofThrown (.bus error)) =
      level.surfaced (inner :: inside) ending := by
  cases ending <;> rfl

theorem listenerError_forwarded
    (inner : FailedPost σ β)
    (inside : List (FailedPost σ β))
    (ending : Stop Thrown) :
    ((inner.surfaced inside ending).map fun error => .ofThrown (.bus error)).listenerError =
      reported ending (inner :: inside) := by
  cases ending <;> rfl

/-- A nest of posts ends with the failure of its innermost body at the outside. -/
theorem Nested.postTo_eq
    {ending : Stop Thrown}
    {left : σ}
    {level : FailedPost σ β}
    {inside : List (FailedPost σ β)}
    {start : Event × σ}
    (nested : Nested ending left (level :: inside) start)
    (returns : ∀ other ∈ level :: inside, ∀ incident state,
      (other.host.handle incident state).1 = .ok ()) :
    level.host.postTo level.phase? start =
      (.error (level.surfaced inside ending), level.event,
        told ending (level :: inside) left) := by
  induction inside generalizing level start with
  | nil =>
      cases nested with
      | innermost comes ended =>
          rw [comes.postTo_eq ended (returns level List.mem_cons_self)]
          cases ending <;> rfl
  | cons inner inside inductionHypothesis =>
      cases nested with
      | posts comes ended kept innerNest =>
          have innerEnd := inductionHypothesis innerNest fun other isInside =>
            returns other (List.mem_cons_of_mem _ isInside)
          rw [Host.forward_of_error innerEnd, kept] at ended
          rw [comes.postTo_eq ended (returns level List.mem_cons_self), resume_forwarded,
            listenerError_forwarded, told_cons ending level]

/-- A failure of the innermost body leaves all posts that it is nested in, if the handlers
return. Each level's handler is told once, the innermost first, and nothing else is told. An
error of the body, which is its own listener error or one `Custom` around any other error, is
wrapped once by each level, so that the message starts with the headings of all levels. A panic
stays what it is, and the handlers are told its text, if it has one. -/
theorem Nested.fails_level_by_level
    {ending : Stop Thrown}
    {left : σ}
    {level : FailedPost σ β}
    {inside : List (FailedPost σ β)}
    {start : Event × σ}
    (nested : Nested ending left (level :: inside) start)
    (returns : ∀ other ∈ level :: inside, ∀ incident state,
      (other.host.handle incident state).1 = .ok ()) :
    level.host.postTo level.phase? start =
        (.error (level.surfaced inside ending), level.event,
          told ending (level :: inside) left) ∧
      ((reports ending (level :: inside)).map fun (other, incident) =>
          (other, incident.event, incident.listeners, incident.index)) =
        (level :: inside).reverse.map (fun other =>
          (other, other.event, other.listeners, other.before.length)) ∧
      (∀ {α : Type} (record : σ → List α) (line : FailedPost σ β → Incident β → α),
        (∀ other ∈ level :: inside, ∀ incident state,
          record (other.host.handle incident state).2 = record state ++ [line other incident]) →
        (∀ other ∈ level :: inside, ∀ bus state,
          record (other.host.withBus bus state) = record state) →
        record (told ending (level :: inside) left) =
          record left ++ (reports ending (level :: inside)).map fun (other, incident) =>
            line other incident) ∧
      (∀ thrown, ending = .raised thrown →
        ∃ innermost error, level.surfaced inside ending = .raised error ∧
          error = level.failure (cause innermost inside) ∧
          error.message = String.join ((level :: inside).map heading) ++ innermost.message ∧
          (thrown = .listener innermost ∨
            (∃ text, thrown = .text text ∧ innermost = .customText text) ∨
            ∃ other, thrown = .bus other ∧ innermost = .customBus other)) ∧
      ∀ payload, ending = .panicked payload →
        level.surfaced inside ending = .panicked payload ∧
          ∀ report ∈ reports ending (level :: inside),
            report.2.error = .panic (payload.text?.getD "non-string panic payload") := by
  refine ⟨nested.postTo_eq returns, map_reports ending _, ?_, ?_, ?_⟩
  · intro α record line writes still
    have isLevel {other : FailedPost σ β}
        (isTold : other ∈ (reports ending (level :: inside)).map Prod.fst) :
        other ∈ level :: inside := by
      rwa [fst_reports, List.mem_reverse] at isTold
    exact record_foldl_tell record line _ (fun other isTold => writes other (isLevel isTold))
      (fun other isTold => still other (isLevel isTold)) left
  · rintro thrown rfl
    refine ⟨.ofThrown thrown, _, rfl, rfl, ?_, ?_⟩
    · rw [message_failure, message_cause, List.map_cons, String.join_cons, String.append_assoc]
    · cases thrown with
      | text message => exact .inr (.inl ⟨message, rfl, rfl⟩)
      | bus error => exact .inr (.inr ⟨error, rfl, rfl⟩)
      | listener error => exact .inl rfl
  · rintro payload rfl
    exact ⟨rfl, fun report isReport => error_of_mem_reports _ isReport⟩

/-! ### An alarm that is passed to another bus and comes back as a signal -/

open Index.Reachable (alarm)
open Index (signal)

/-- Two buses and the number of issued identities. -/
abbrev Pair := Bus (Option Kind) × Bus (Option Kind) × Nat

/-- The second or the first bus of a pair. -/
def paired (second : Bool) : Host Pair (Option Kind) where
  bus state := if second then state.2.1 else state.1
  withBus bus state := if second then (state.1, bus, state.2.2) else (bus, state.2)
  issued state := state.2.2
  withIssued count state := (state.1, state.2.1, count)
  note _ state := state
  checker := .acceptAll
  run _ start := (.error (.raised (.customText "no answer")), start)
  handle _ state := (.ok (), state)

/-- Each body posts an event on the other bus, down to some depth; there bodies fail. -/
def crossing (second : Bool) : Nat → Host Pair (Option Kind)
  | 0 => paired second
  | depth + 1 => (paired second).withCode
      (fun body (event, state) =>
        match body with
        | none => (.error (.raised (.customText "no answer")), event, state)
        | some kind =>
            (crossing (!second) depth).forward none (fun _ => event)
              (fun left => (.ok (), event, left.2)) (.last ⟨kind, 0, none⟩, state))
      (paired second).handle

/-- A post of one of these buses that fails at its only listener. -/
def crossingPost (second : Bool) (depth : Nat) (entry : Listener (Option Kind)) :
    FailedPost Pair (Option Kind) :=
  ⟨crossing second depth, none, [entry], [], entry, [], .last ⟨entry.kind, 0, none⟩⟩

theorem comesTo_crossingPost
    {second : Bool}
    {entry : Listener (Option Kind)}
    {state : Pair}
    (running : ((paired second).bus state).isShutdown = false)
    (offers : ((paired second).offer none entry.kind state).1.toOption = some [entry])
    (wantsAll : entry.checksCancellation = false)
    (depth : Nat) :
    (crossingPost second depth entry).ComesTo (.last ⟨entry.kind, 0, none⟩, state)
      (.last ⟨entry.kind, 0, none⟩, ((paired second).offer none entry.kind state).2) := by
  refine ⟨⟨?_, nofun⟩, ((paired second).offer none entry.kind state).2, ?_, ⟨[], rfl⟩,
    .done _, .inl wantsAll⟩
  · cases depth <;> exact running
  · cases depth <;> exact Action.eq_ok_of_toOption offers

/-- Passes alarms to the second bus. -/
def passing : Listener (Option Kind) := .create ⟨1⟩ alarm .normal true "pass" (some alarm)

/-- Answers alarms with a signal on the first bus. -/
def answering : Listener (Option Kind) := .create ⟨2⟩ alarm .normal true "answer" (some signal)

/-- Fails at signals. -/
def failing : Listener (Option Kind) := .create ⟨3⟩ signal .normal true "fail" none

/-- The listeners for alarms of both buses, and the one for signals on the first. -/
def crossed : Pair :=
  let new := (Bus.create {} false none, Bus.create {} false none, 0)
  let first := ((paired false).addListener alarm .normal true "pass" (some alarm) new).2
  let second := ((paired true).addListener alarm .normal true "answer" (some signal) first).2
  ((paired false).addListener signal .normal true "fail" none second).2

/-- The three posts, the outermost first. -/
def crossingPosts : List (FailedPost Pair (Option Kind)) :=
  [crossingPost false 2 passing, crossingPost true 1 answering, crossingPost false 0 failing]

/-- The failure comes out of all of them. -/
theorem Nested.fails_level_by_level_crossed :
    ∃ left, Nested (.raised (.text "no answer")) left crossingPosts
        (.last ⟨alarm, 0, none⟩, crossed) ∧
      (∀ level ∈ crossingPosts, ∀ incident state,
        (level.host.handle incident state).1 = .ok ()) ∧
      ∃ error after,
        (crossing false 2).post (.last ⟨alarm, 0, none⟩, crossed) =
          (.error (.raised error), after) ∧
        error.message = String.join
          ["Listener #0 (pass) failed: ", "Listener #0 (answer) failed: ",
            "Listener #0 (fail) failed: "] ++ "no answer" := by
  have nested : Nested (.raised (.text "no answer")) _ crossingPosts
      (.last ⟨alarm, 0, none⟩, crossed) :=
    .posts (comesTo_crossingPost (by decide +kernel) (by decide +kernel) rfl 2) rfl rfl
      (.posts (comesTo_crossingPost (by decide +kernel) (by decide +kernel) rfl 1) rfl rfl
        (.innermost (comesTo_crossingPost (by decide +kernel) (by decide +kernel) rfl 0) rfl))
  have returns : ∀ level ∈ crossingPosts, ∀ incident state,
      (level.host.handle incident state).1 = .ok () := by
    simp only [crossingPosts, List.forall_mem_cons]
    exact ⟨fun _ _ => rfl, fun _ _ => rfl, fun _ _ => rfl, List.forall_mem_nil _⟩
  obtain ⟨ended, -, -, raised, -⟩ := nested.fails_level_by_level returns
  obtain ⟨innermost, error, surfaced, -, message, isListener | ⟨text, isText, rfl⟩ | isBus⟩ :=
    raised _ rfl
  · cases isListener
  · cases isText
    rw [surfaced] at ended
    exact ⟨_, nested, returns, error, _, ended, message⟩
  · obtain ⟨_, isBus, -⟩ := isBus
    cases isBus

end FailedPost
end EventRelay
