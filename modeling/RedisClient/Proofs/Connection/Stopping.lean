import RedisClient.Client.Scripted
import RedisClient.Proofs.Connection.Calls
import RedisClient.Proofs.Connection.Pipeline

/-!
# Stopping the server

A server that is told to stop may do so without an answer, and then the stream
ends. Asked at once, this counts as success (`stopped`). While a pipeline is open
the same rule is held against whether the command could be queued, and the reply
that comes when the pipeline is closed is read as any other
(`Connection.shutdown_direct_and_waiting`): the two readings agree exactly if the
reply is not the end of the stream. What waits keeps its place until the
pipeline is closed (`Act.phase_foldl_after`), and an entry goes by its own reply
alone (`zipWith_set_left`).
-/

namespace RedisClient

variable {C E : Type}

/-- Setting an element on the left of a zip sets one element of the result. -/
theorem zipWith_set_left {α β γ : Type} {f : α → β → γ} {left : List α} {right : List β}
    {i : Nat} {b : β} (h : right[i]? = some b) (a : α) :
    (left.set i a).zipWith f right = (left.zipWith f right).set i (f a b) := by
  induction left generalizing right i with
  | nil => rfl
  | cons first rest ih =>
    cases right with
    | nil => simp at h
    | cons other others =>
      cases i with
      | zero =>
        obtain rfl : other = b := by simpa using h
        rfl
      | succ i => simp only [List.set_cons_succ, List.zipWith_cons_cons, ih (by simpa using h)]

/-! ## What waits keeps its place -/

/-- Whether an act takes everything that waits away. -/
def Act.endsPipeline : Act → Bool
  | .closePipeline | .close => true
  | .request _ | .shutdown _ | .openPipeline | .scan _ _ _ | .openSentinel => false

namespace Connection

variable [Client C E] {c : Connection C} {env : E} {waiting : List ReplyKind}

/-- **A command that is dispatched** to an open pipeline can only add to what
waits. -/
theorem phase_dispatch_of_pipelined (hphase : c.phase = .pipelined waiting) (env : E)
    (operation : Operation) (command : Command) (kind : ReplyKind) :
    ∃ more, (Step.left (dispatch operation command kind) (c, env)).1.phase =
      .pipelined (waiting ++ more) := by
  simp only [Step.left, Step.outcome, dispatch_apply, hphase]
  by_cases hsupport : operation.support = .unsupported
  · simp only [if_pos hsupport]
    exact ⟨[], by simpa using hphase⟩
  · simp only [if_neg hsupport]
    cases Client.queue command (c.client, env) with
    | ok _ s => exact ⟨[kind], rfl⟩
    | error error s => exact ⟨[], by simp⟩

/-- So can a request. -/
theorem phase_run_of_pipelined (hphase : c.phase = .pipelined waiting) (request : Request) :
    ∃ more, (Step.left (run request) (c, env)).1.phase = .pipelined (waiting ++ more) := by
  have hdispatch := phase_dispatch_of_pipelined hphase env request.operation request.command
    request.kind
  simp only [Step.left, Step.outcome, run_apply] at hdispatch ⊢
  cases request.check with
  | ok _ => exact hdispatch
  | error error => exact ⟨[], by simpa using hphase⟩

/-- So can stopping the server. -/
theorem phase_shutdown_of_pipelined (hphase : c.phase = .pipelined waiting)
    (option : Option SaveOption) :
    ∃ more, (Step.left (shutdown option) (c, env)).1.phase = .pipelined (waiting ++ more) := by
  have hdispatch := phase_dispatch_of_pipelined hphase env (shutdownOperation option)
    (shutdownCommand option) .status
  simp only [Step.left, Step.outcome, shutdown_apply] at hdispatch ⊢
  cases hresult : dispatch (shutdownOperation option) (shutdownCommand option) .status (c, env) with
  | ok reply s => simpa only [hresult] using hdispatch
  | error error s =>
    simp only [hresult] at hdispatch ⊢
    cases endsStream error <;> exact hdispatch

end Connection

namespace Act

variable [Client C E] {s : Connection C × E} {waiting : List ReplyKind}

/-- **An act** in an open pipeline can only add to what waits, unless it takes
everything away. -/
theorem phase_after (act : Act) (hact : act.endsPipeline = false)
    (hphase : s.1.phase = .pipelined waiting) :
    ∃ more, (act.after s).1.phase = .pipelined (waiting ++ more) := by
  obtain ⟨c, env⟩ := s
  change c.phase = .pipelined waiting at hphase
  have hsame : ∃ more, Phase.pipelined waiting = .pipelined (waiting ++ more) := ⟨[], by simp⟩
  cases act with
  | request request => exact Connection.phase_run_of_pipelined hphase request
  | shutdown option => exact Connection.phase_shutdown_of_pipelined hphase option
  | openPipeline =>
    simp only [after, Step.left, Step.outcome, Connection.openPipeline_apply, hphase]
    exact hsame
  | openSentinel =>
    simp only [after, Connection.left_openSentinel, hphase]
    exact hsame
  | scan kind options uses =>
    simp only [after, Connection.scan_apply, hphase]
    exact hsame
  | closePipeline | close => exact absurd hact (by decide)

/-- **What waits keeps its place** through any such acts. -/
theorem phase_foldl_after (acts : List Act) (hacts : ∀ act ∈ acts, act.endsPipeline = false)
    (hphase : s.1.phase = .pipelined waiting) :
    ∃ more, (acts.foldl after s).1.phase = .pipelined (waiting ++ more) := by
  induction acts generalizing s waiting with
  | nil => exact ⟨[], by simpa using hphase⟩
  | cons act rest ih =>
    obtain ⟨hact, hrest⟩ := List.forall_mem_cons.1 hacts
    obtain ⟨more, hafter⟩ := act.phase_after hact hphase
    obtain ⟨others, hlast⟩ := ih hrest hafter
    exact ⟨more ++ others, by rw [← List.append_assoc]; exact hlast⟩

end Act

/-! ## What stopping comes to -/

namespace Connection

/-- What a reply to the command that stops the server is worth: the end of the
stream is as good as a status. -/
def stopped : Except Error Frame → Except Error Unit
  | .ok frame => frame.readStatus
  | .error error => if endsStream error then .ok () else .error error

/-- **A reply that waited is read as any status is**, which comes to the same
exactly if it is not the end of the stream. -/
theorem readEntry_status_eq_stopped_iff (reply : Except Error Frame) :
    readEntry reply .status = (stopped reply).map (fun _ => Value.ok) ↔
      ∀ error, reply = .error error → endsStream error = false := by
  cases reply with
  | ok frame =>
    refine ⟨fun _ error h => (nomatch h), fun _ => rfl⟩
  | error error =>
    have hentry : readEntry (.error error) .status = .error error := rfl
    rw [hentry, stopped]
    cases hends : endsStream error with
    | true =>
      refine ⟨fun h => ?_, fun h => absurd (h error rfl) (by simp [hends])⟩
      nomatch h
    | false =>
      refine ⟨fun _ other hother => ?_, fun _ => rfl⟩
      obtain rfl := Except.error.inj hother
      exact hends

variable [Client C E] {c : Connection C} {env env' : E} {client : C}

/-- **Stopping the server at once.** -/
theorem outcome_shutdown_direct {reply : Except Error Frame} (hphase : c.phase = .direct)
    (hreply : (Client.execute (shutdownCommand none)).outcome (c.client, env) =
      (reply, (client, env'))) :
    (shutdown none).outcome (c, env) =
      ((stopped reply).map .value, ({ c with client }, env')) := by
  simp only [Step.outcome, shutdown_apply, dispatch_apply, hphase] at hreply ⊢
  cases hexecute : Client.execute (shutdownCommand none) (c.client, env) with
  | error error s =>
    simp only [hexecute, Prod.mk.injEq] at hreply
    obtain ⟨rfl, rfl⟩ := hreply
    dsimp only [stopped]
    cases endsStream error <;> rfl
  | ok frame s =>
    simp only [hexecute, Prod.mk.injEq] at hreply
    obtain ⟨rfl, rfl⟩ := hreply
    -- an error line is a server error, and so not the end of the stream
    cases frame <;> rfl

/-- **Stopping the server while a pipeline is open** waits, if the client keeps
the command back. -/
theorem shutdown_of_queue_ok {waiting : List ReplyKind} (hphase : c.phase = .pipelined waiting)
    (hqueue : Client.queue (shutdownCommand none) (c.client, env) = .ok () (client, env')) :
    shutdown none (c, env) = .ok (.queued waiting.length)
      ({ c with client, phase := .pipelined (waiting ++ [.status]) }, env') := by
  have hsupport : ¬ (shutdownOperation none).support = .unsupported := by decide
  rw [shutdown_apply, dispatch_apply, hphase]
  simp only [if_neg hsupport, hqueue]

/-- Where it does not, that is the failure, unless it is the end of the stream. -/
theorem shutdown_of_queue_error {waiting : List ReplyKind} {error : Error}
    (hphase : c.phase = .pipelined waiting)
    (hqueue : Client.queue (shutdownCommand none) (c.client, env) = .error error (client, env')) :
    shutdown none (c, env) =
      if endsStream error then .ok (.value ()) ({ c with client }, env')
      else .error error ({ c with client }, env') := by
  have hsupport : ¬ (shutdownOperation none).support = .unsupported := by decide
  rw [shutdown_apply, dispatch_apply, hphase]
  simp only [if_neg hsupport, hqueue]

/-- A command to stop the server that waits stands behind those that waited. -/
theorem of_shutdown_queued {waiting : List ReplyKind} {place : Nat} {s : Connection C × E}
    (hphase : c.phase = .pipelined waiting)
    (h : shutdown none (c, env) = .ok (.queued place) s) :
    place = waiting.length ∧ s.1.phase = .pipelined (waiting ++ [.status]) := by
  cases hqueue : Client.queue (shutdownCommand none) (c.client, env) with
  | ok _ t =>
    rw [shutdown_of_queue_ok hphase hqueue] at h
    obtain ⟨hplace, rfl⟩ := EStateM.Result.ok.inj h
    exact ⟨(Reply.queued.inj hplace).symm, rfl⟩
  | error error t =>
    rw [shutdown_of_queue_error hphase hqueue] at h
    cases hends : endsStream error <;> simp [hends] at h

/-- What closing the pipeline makes of a command to stop the server that waits
at a place, however the round of commands goes. -/
structure StopWaitsAt (place : Nat) (s : Connection C × E) : Prop where
  /-- If the round fails, that is the failure, the end of the stream too. -/
  of_sync_error : ∀ error t, (Client.sync : Step (C × E) _) (s.1.client, s.2) = .error error t →
    closePipeline s = .error error ({ s.1 with client := t.1, phase := .direct }, t.2)
  /-- If every command has its reply, the command's entry is its reply read as
  a status, and the others are what they are with any other reply in its place. -/
  of_sync_ok : ∀ replies t, (Client.sync : Step (C × E) _) (s.1.client, s.2) = .ok replies t →
    replies.length = s.1.pending.length →
      ∃ reply values closed, replies[place]? = some reply ∧
        closePipeline s = .ok values closed ∧ values.length = replies.length ∧
        values[place]? = some (readEntry reply .status) ∧
        ∀ other, (replies.set place other).zipWith readEntry s.1.pending =
          values.set place (readEntry other .status)

/-- **A status that waits** is read as one when the pipeline is closed. -/
theorem stopWaitsAt_of_pipelined {before after : List ReplyKind} {s : Connection C × E}
    (hphase : s.1.phase = .pipelined (before ++ .status :: after)) :
    StopWaitsAt before.length s := by
  obtain ⟨c, env⟩ := s
  change c.phase = _ at hphase
  have hne : before ++ ReplyKind.status :: after ≠ [] := by simp
  have hpending : c.pending = before ++ .status :: after := by rw [pending, hphase]
  have hkind : c.pending[before.length]? = some .status := by simp [hpending]
  refine ⟨fun error t hsync => ?_, fun replies t hsync hlength => ?_⟩
  · simp only [closePipeline_apply, hphase, if_neg hne, hsync]
  · have hplace : before.length < replies.length := by simp [hlength, hpending]
    have hreply := List.getElem?_eq_getElem hplace
    refine ⟨replies[before.length], replies.zipWith readEntry c.pending,
      ({ c with client := t.1, phase := .direct }, t.2), hreply, ?_, by simp [hlength], ?_,
      zipWith_set_left hkind⟩
    · rw [hpending] at hlength ⊢
      simp only [closePipeline_apply, hphase, if_neg hne, hsync, if_pos hlength]
    · rw [List.getElem?_zipWith, hreply, hkind]

/-- **Stopping the server, at once and in a pipeline.** At once, the end of the
stream is a success, and other failures and error lines are failures. While a
pipeline is open the command waits exactly if the client keeps it back; a failure
to do so is the failure, except that the end of the stream is taken for success
though nothing waits. Once it waits at a place, it does so through whatever is
done until the pipeline is closed, and then its entry is its reply read as a
status. That is what the reply is worth at once exactly if it is not the end of
the stream, which is a failure there. -/
theorem shutdown_direct_and_waiting (c : Connection C) (env : E) :
    (c.phase = .direct → ∀ reply client env',
      (Client.execute (shutdownCommand none)).outcome (c.client, env) = (reply, (client, env')) →
        (shutdown none).outcome (c, env) =
          ((stopped reply).map .value, ({ c with client }, env'))) ∧
    (∀ waiting, c.phase = .pipelined waiting →
      shutdown none (c, env) =
        (match Client.queue (shutdownCommand none) (c.client, env) with
        | .ok _ (client, env') => .ok (.queued waiting.length)
            ({ c with client, phase := .pipelined (waiting ++ [.status]) }, env')
        | .error error (client, env') =>
            if endsStream error then .ok (.value ()) ({ c with client }, env')
            else .error error ({ c with client }, env')) ∧
      ∀ (place : Nat) (s : Connection C × E) (acts : List Act),
        shutdown none (c, env) = .ok (.queued place) s →
          (∀ act ∈ acts, act.endsPipeline = false) → StopWaitsAt place (acts.foldl Act.after s)) ∧
    ∀ reply, readEntry reply .status = (stopped reply).map (fun _ => Value.ok) ↔
      ∀ error, reply = .error error → endsStream error = false := by
  refine ⟨fun hphase reply client env' => outcome_shutdown_direct hphase,
    fun waiting hphase => ⟨?_, fun place s acts hshutdown hacts => ?_⟩,
    readEntry_status_eq_stopped_iff⟩
  · cases hqueue : Client.queue (shutdownCommand none) (c.client, env) with
    | ok _ t => exact shutdown_of_queue_ok hphase hqueue
    | error error t => exact shutdown_of_queue_error hphase hqueue
  · obtain ⟨rfl, hqueued⟩ := of_shutdown_queued hphase hshutdown
    -- whatever has been done since, the command still waits at its place
    obtain ⟨more, hlast⟩ := Act.phase_foldl_after acts hacts hqueued
    rw [List.append_assoc] at hlast
    exact stopWaitsAt_of_pipelined hlast

/-- A server that stops without an answer. Asked at once, that is a success;
asked between two other commands of a pipeline, it is a failure in their midst;
and where the stream ends before the command can be kept back, it is a success
though nothing waits. -/
theorem shutdown_direct_and_waiting_stream_end :
    let gone : Error := .io ⟨.unexpectedEnd, some "connection closed by server"⟩
    let server : Connection ScriptedClient :=
      { client := { script := { replies := [("SHUTDOWN", [.error gone])] } } }
    let waiting := [Act.openPipeline, .request (.set [107] [49])].foldl Act.after (server, ())
    let broken : Connection ScriptedClient :=
      { client := { script := { queue := [some gone] } }, phase := .pipelined [] }
    (shutdown none).outcome (server, ()) = (.ok (.value ()), ({ client := { script :=
        { replies := [("SHUTDOWN", [])] } } }, ())) ∧
      (∃ asked values closed, shutdown none waiting = .ok (.queued 1) asked ∧
        closePipeline (Act.after asked (.request (.set [107] [50]))) = .ok values closed ∧
        values.length = 3 ∧ values[1]? = some (.error gone)) ∧
      shutdown none (broken, ()) = .ok (.value ())
        ({ client := {}, phase := .pipelined [] }, ()) := by
  intro gone server waiting broken
  obtain ⟨hdirect, -, -⟩ := shutdown_direct_and_waiting server ()
  obtain ⟨-, hpipelined, -⟩ := shutdown_direct_and_waiting waiting.1 ()
  obtain ⟨-, hbroken, -⟩ := shutdown_direct_and_waiting broken ()
  obtain ⟨hqueued, hwaits⟩ := hpipelined [.status] rfl
  obtain ⟨reply, values, closed, hreply, hclose, hlength, hentry, -⟩ :=
    (hwaits 1 _ [.request (.set [107] [50])] hqueued (by decide)).of_sync_ok _ _ rfl rfl
  obtain rfl : .error gone = reply := Option.some.inj hreply
  exact ⟨hdirect rfl _ _ _ rfl, ⟨_, values, closed, hqueued, hclose, hlength, hentry⟩,
    (hbroken [] rfl).1⟩

end Connection

end RedisClient
