import RedisClient.Client.Journal
import RedisClient.Client.Scripted
import RedisClient.Proofs.Connection.Transition

/-!
# Pipelines and direct runs

A request means the same whether it runs at once or waits in a pipeline. The
two runs are put side by side over any client: one that answers the commands
one by one (`Answers`), and one that keeps them back (`Accepts`) and gives the
same replies when the pipeline is closed. Both clients keep a journal, so that
what they are asked can be compared as well.
-/

namespace RedisClient

variable {C E : Type}

/-- The command that a client is handed with a call, if it is handed one. -/
def Call.command? : Call → Option Command
  | .execute command | .queue command => some command
  | .opened _ | .sync _ | .quit | .openSentinel _ => none

/-- The commands that were handed over, in order. -/
def Journal.commands (journal : Journal E) : List Command :=
  journal.entries.filterMap fun entry => entry.call.command?

/-- The commands can be read off a journal that holds one call for each of some
requests. -/
theorem Journal.commands_of_entries {journal : Journal E} {requests : List Request}
    {entry : Request → JournalEntry} (h : journal.entries = requests.map entry)
    (hcommand : ∀ request, (entry request).call.command? = some request.command) :
    journal.commands = requests.map Request.command := by
  have hread : (fun request => (entry request).call.command?) = some ∘ Request.command :=
    funext hcommand
  rw [commands, h, List.filterMap_map, ← List.filterMap_eq_map, ← hread]
  rfl

variable [Client C E]

/-- A client that answers commands with replies, the i-th with the i-th. -/
inductive Answers : List Command → List (Except Error Frame) → C × E → Prop
  /-- Nothing is asked. -/
  | nil {s : C × E} : Answers [] [] s
  /-- It answers the first, and then the others. -/
  | cons {command : Command} {reply : Except Error Frame} {commands : List Command}
      {replies : List (Except Error Frame)} {s s' : C × E} :
      (Client.execute command).outcome s = (reply, s') → Answers commands replies s' →
      Answers (command :: commands) (reply :: replies) s

/-- A client that keeps every one of some commands back, and how it is left. -/
inductive Accepts : List Command → C × E → C × E → Prop
  /-- Nothing is handed over. -/
  | nil {s : C × E} : Accepts [] s s
  /-- It keeps the first, and then the others. -/
  | cons {command : Command} {commands : List Command} {s s' t : C × E} :
      Client.queue command s = .ok () s' → Accepts commands s' t →
      Accepts (command :: commands) s t

/-- As many commands are answered as there are replies. -/
theorem Answers.length_eq {commands : List Command} {replies : List (Except Error Frame)}
    {s : C × E} (h : Answers commands replies s) : replies.length = commands.length := by
  induction h with
  | nil => rfl
  | cons _ _ ih => simp [ih]

namespace Connection

/-- Runs requests one after the other, whatever each of them comes to, and
gives their results as values. -/
def runEach : List Request → Step (Connection C × E) (List (Except Error (Reply Value)))
  | [] => return []
  | request :: rest => do
    let first ← Step.attempt (Reply.map request.kind.toValue <$> run request)
    return first :: (← runEach rest)

/-! ## One request -/

section

variable {request : Request} {c : Connection C} {env env' : E} {client : C}

/-- **A request that runs at once** hands its command to the client and reads
the reply. -/
theorem attempt_run_direct {reply : Except Error Frame} (hcheck : request.check = .ok ())
    (hphase : c.phase = .direct)
    (hreply : (Client.execute request.command).outcome (c.client, env) = (reply, (client, env'))) :
    Step.attempt (Reply.map request.kind.toValue <$> run request) (c, env) =
      .ok ((readEntry reply request.kind).map .value) ({ c with client }, env') := by
  cases hexecute : Client.execute request.command (c.client, env) with
  | error error s =>
    simp only [Step.outcome, hexecute, Prod.mk.injEq] at hreply
    obtain ⟨rfl, rfl⟩ := hreply
    simp only [Step.attempt_apply, Step.map_apply, run_apply, hcheck, dispatch_apply, hphase,
      hexecute]
    rfl
  | ok frame s =>
    simp only [Step.outcome, hexecute, Prod.mk.injEq] at hreply
    obtain ⟨rfl, rfl⟩ := hreply
    simp only [Step.attempt_apply, Step.map_apply, run_apply, hcheck, dispatch_apply, hphase,
      hexecute]
    cases hread : request.kind.read frame <;>
      simp only [readEntry_ok, ReplyKind.readValue, hread] <;> rfl

/-- **A request that waits** hands its command to the client to keep back, and
stands behind those that wait already. -/
theorem attempt_run_pipelined {pending : List ReplyKind} (hcheck : request.check = .ok ())
    (hsupport : request.operation.support = .queued) (hphase : c.phase = .pipelined pending)
    (hqueue : Client.queue request.command (c.client, env) = .ok () (client, env')) :
    Step.attempt (Reply.map request.kind.toValue <$> run request) (c, env) =
      .ok (.ok (.queued pending.length))
        ({ c with client, phase := .pipelined (pending ++ [request.kind]) }, env') := by
  simp only [Step.attempt_apply, Step.map_apply, run_apply, hcheck, dispatch_apply, hphase,
    hsupport, reduceCtorEq, if_false, hqueue]
  rfl

end

/-! ## Runs over a client that keeps a journal -/

section

variable {requests : List Request}

/-- **The direct run.** The client executes the commands in order, each once,
and the results are read from the replies. -/
theorem runEach_direct (c : Connection (Journaled C)) (journal : Journal E)
    {replies : List (Except Error Frame)} (hphase : c.phase = .direct)
    (hcheck : ∀ request ∈ requests, request.check = .ok ())
    (hanswers : Answers (requests.map Request.command) replies (c.client.client, journal.env)) :
    ∃ last, runEach requests (c, journal) =
        .ok ((replies.zipWith readEntry (requests.map Request.kind)).map (Except.map .value)) last ∧
      last.2.entries = journal.entries ++
        requests.map fun request => ⟨c.client.owner, .execute request.command⟩ := by
  induction requests generalizing c journal replies with
  | nil => exact ⟨(c, journal), by simp [runEach], by simp⟩
  | cons request rest ih =>
    cases hanswers with
    | @cons _ reply _ others _ s hreply hrest =>
      obtain ⟨client, env⟩ := s
      let c' : Connection (Journaled C) := { c with client := { c.client with client } }
      let journal' := { journal.enter c.client.owner (.execute request.command) with env }
      -- the journal takes note of the call and passes it on
      have hexecute : (Client.execute request.command).outcome (c.client, journal) =
          (reply, (c'.client, journal')) := by
        cases hinner : Client.execute request.command (c.client.client, journal.env) <;>
          simp only [Step.outcome, hinner, Prod.mk.injEq] at hreply <;>
          obtain ⟨rfl, rfl⟩ := hreply <;>
          simp only [Step.outcome, Client.execute, Journal.noting, Journal.enter, hinner] <;> rfl
      have hfirst := attempt_run_direct (hcheck request (by simp)) hphase hexecute
      obtain ⟨last, hlast, hentries⟩ := ih c' journal' hphase
        (fun r hr => hcheck r (List.mem_cons_of_mem _ hr)) hrest
      refine ⟨last, ?_, ?_⟩
      · simp only [runEach, Step.bind_apply, Step.pure_apply, hfirst]
        rw [hlast]
        rfl
      · rw [hentries]
        simp [journal', c', Journal.enter]

/-- **The pipelined run.** The client is handed the same commands to keep back,
in the same order and each once; the i-th request is told the place i, and what
waits is how the replies are to be read. -/
theorem runEach_pipelined (c : Connection (Journaled C)) (journal : Journal E)
    {pending : List ReplyKind} {t : C × E} (hphase : c.phase = .pipelined pending)
    (hcheck : ∀ request ∈ requests, request.check = .ok ())
    (hsupport : ∀ request ∈ requests, request.operation.support = .queued)
    (haccepts : Accepts (requests.map Request.command) (c.client.client, journal.env) t) :
    ∃ last, runEach requests (c, journal) =
        .ok ((List.range' pending.length requests.length).map fun i => .ok (.queued i)) last ∧
      last.1.phase = .pipelined (pending ++ requests.map Request.kind) ∧
      (last.1.client.client, last.2.env) = t ∧
      last.2.entries = journal.entries ++
        requests.map fun request => ⟨c.client.owner, .queue request.command⟩ := by
  induction requests generalizing c journal pending with
  | nil =>
    cases haccepts
    exact ⟨(c, journal), by simp [runEach], by simpa using hphase, rfl, by simp⟩
  | cons request rest ih =>
    cases haccepts with
    | @cons _ _ _ s _ hqueue hrest =>
      obtain ⟨client, env⟩ := s
      let c' : Connection (Journaled C) :=
        { c with
          client := { c.client with client }
          phase := .pipelined (pending ++ [request.kind]) }
      let journal' := { journal.enter c.client.owner (.queue request.command) with env }
      have hkeep : Client.queue request.command (c.client, journal) =
          .ok () (c'.client, journal') := by
        simp only [Client.queue, Journal.noting, Journal.enter, hqueue]
        rfl
      have hfirst := attempt_run_pipelined (hcheck request (by simp)) (hsupport request (by simp))
        hphase hkeep
      obtain ⟨last, hlast, hwaits, hclient, hentries⟩ := ih c' journal' rfl
        (fun r hr => hcheck r (List.mem_cons_of_mem _ hr))
        (fun r hr => hsupport r (List.mem_cons_of_mem _ hr)) hrest
      refine ⟨last, ?_, ?_, hclient, ?_⟩
      · simp only [runEach, Step.bind_apply, Step.pure_apply, hfirst]
        rw [hlast]
        simp [List.range'_succ]
      · rw [hwaits]
        simp
      · rw [hentries]
        simp [journal', c', Journal.enter]

/-- **The pipeline closed.** The client is asked for the replies to what
waits, which is handed no further command. -/
theorem closePipeline_journaled (c : Connection (Journaled C)) (journal : Journal E)
    {pending : List ReplyKind} {returned : List (Except Error Frame)} {u : C × E}
    (hphase : c.phase = .pipelined pending)
    (hsync : (Client.sync : Step (C × E) (List (Except Error Frame)))
      (c.client.client, journal.env) = .ok returned u) :
    ∃ closed : Connection (Journaled C) × Journal E,
      closed.1.phase = .direct ∧ closed.2.commands = journal.commands ∧
      closePipeline (c, journal) =
        if pending = [] ∨ returned.length = pending.length then
          .ok (if pending = [] then [] else returned.zipWith readEntry pending) closed
        else .error (.protocol (.replyCount returned.length pending.length)) closed := by
  obtain ⟨client, env⟩ := u
  by_cases hempty : pending = []
  · -- where nothing waits the client is not asked at all
    refine ⟨({ c with phase := .direct }, journal), rfl, rfl, ?_⟩
    simp only [closePipeline_apply, hphase, hempty, if_true, true_or]
  · have hsync' : (Client.sync : Step (Journaled C × Journal E) (List (Except Error Frame)))
        (c.client, journal) =
          .ok returned ({ c.client with client },
            { journal.enter c.client.owner (.sync (Client.queued c.client.client)) with env }) := by
      change Journal.noting _ _ _ = _
      simp only [Journal.noting, Journal.enter, hsync]
    refine ⟨({ c with client := { c.client with client }, phase := .direct },
      { journal.enter c.client.owner (.sync (Client.queued c.client.client)) with env }),
      rfl, ?_, ?_⟩
    · simp [Journal.commands, Journal.enter, Call.command?]
    · simp only [closePipeline_apply, hphase, hsync', hempty, false_or, if_false]

end

/-! ## Both runs together -/

/-- A new connection on a client, which keeps a journal from here on. -/
def journaled (client : C) (env : E) : Connection (Journaled C) × Journal E :=
  ({ client := { client } }, { env })

/-- **A pipeline agrees with a direct run.** Requests that pass their checks
and may wait are run directly on a client that answers them with `replies`, and
in a pipeline on a client that keeps them all back and gives `returned` when
the pipeline is closed. Both clients are handed the same commands in the same
order, each once, and the i-th request of the pipeline is told the place i. If
`returned` are the same replies, closing the pipeline gives one entry for each
request: the value of what the direct request gave, or its error. If `returned`
has any other length, closing fails with a protocol error. -/
theorem closePipeline_agrees_with_direct {requests : List Request}
    {replies returned : List (Except Error Frame)} {a b : C} {e f : E} {t u : C × E}
    (hcheck : ∀ request ∈ requests, request.check = .ok ())
    (hsupport : ∀ request ∈ requests, request.operation.support = .queued)
    (hanswers : Answers (requests.map Request.command) replies (a, e))
    (haccepts : Accepts (requests.map Request.command) (b, f) t)
    (hsync : (Client.sync : Step (C × E) (List (Except Error Frame))) t = .ok returned u) :
    ∃ results direct pipelined,
      runEach requests (journaled a e) = .ok results direct ∧
      (openPipeline >>= fun _ => runEach requests) (journaled b f) =
        .ok ((List.range requests.length).map fun i => .ok (.queued i)) pipelined ∧
      direct.2.entries = requests.map (fun request => ⟨none, .execute request.command⟩) ∧
      pipelined.2.entries = requests.map (fun request => ⟨none, .queue request.command⟩) ∧
      (returned = replies →
        ∃ values closed, closePipeline pipelined = .ok values closed ∧
          values.length = requests.length ∧ results = values.map (Except.map .value) ∧
          closed.2.commands = direct.2.commands ∧ closed.1.phase = .direct) ∧
      (requests ≠ [] → returned.length ≠ requests.length →
        ∃ closed, closePipeline pipelined =
            .error (.protocol (.replyCount returned.length requests.length)) closed ∧
          closed.2.commands = direct.2.commands ∧ closed.1.phase = .direct) := by
  obtain ⟨direct, hdirect, hexecuted⟩ := runEach_direct (journaled a e).1 (journaled a e).2
    rfl hcheck hanswers
  obtain ⟨pipelined, hpipelined, hwaits, hclient, hqueued⟩ := runEach_pipelined
    { (journaled b f).1 with phase := .pipelined [] } (journaled b f).2 rfl hcheck hsupport
    haccepts
  obtain ⟨closed, hphase, hcommands, hclose⟩ := closePipeline_journaled pipelined.1 pipelined.2
    hwaits (hclient ▸ hsync)
  -- each journal holds one call for each request, with its command
  have hsame : closed.2.commands = direct.2.commands := by
    rw [hcommands, Journal.commands_of_entries hexecuted fun _ => rfl,
      Journal.commands_of_entries hqueued fun _ => rfl]
  refine ⟨_, direct, pipelined, hdirect, ?_, hexecuted, hqueued, ?_, ?_⟩
  · rw [Step.bind_apply, journaled, openPipeline_apply, List.range_eq_range']
    exact hpipelined
  · rintro rfl
    have hlength := hanswers.length_eq
    simp only [List.length_map] at hlength
    refine ⟨returned.zipWith readEntry (requests.map Request.kind), closed, ?_, ?_, rfl, hsame,
      hphase⟩
    · rw [hclose, if_pos (Or.inr (by simp [hlength]))]
      cases requests <;> simp_all
    · simp [hlength]
  · intro hne hlength
    refine ⟨closed, ?_, hsame, hphase⟩
    rw [hclose, if_neg (by simp [hne, hlength])]
    simp

/-- A value and an error reply, by either way. -/
theorem closePipeline_agrees_with_direct_mixed :
    let requests : List Request := [.get [97], .incr [98]]
    let replies : List (Except Error Frame) := [.ok (.bulk [120]), .ok (.error [69])]
    let client : ScriptedClient :=
      { script := { replies := [("GET", replies.take 1), ("INCR", replies.drop 1)] } }
    ∃ results direct pipelined values closed,
      runEach requests (journaled client ()) = .ok results direct ∧
      (openPipeline >>= fun _ => runEach requests) (journaled client ()) =
        .ok [.ok (.queued 0), .ok (.queued 1)] pipelined ∧
      closePipeline pipelined = .ok values closed ∧
      results = values.map (Except.map .value) ∧ closed.2.commands = direct.2.commands := by
  intro requests replies client
  have hanswers : Answers (requests.map Request.command) replies (client, ()) :=
    .cons rfl (.cons rfl .nil)
  have haccepts : Accepts (requests.map Request.command) (client, ())
      ({ client with stored := requests.map Request.command }, ()) :=
    .cons rfl (.cons rfl .nil)
  have hsync : (Client.sync : Step (ScriptedClient × Unit) (List (Except Error Frame)))
      ({ client with stored := requests.map Request.command }, ()) =
        .ok replies ({ script := { replies := [("GET", []), ("INCR", [])] } }, ()) := rfl
  obtain ⟨results, direct, pipelined, hdirect, hpipelined, -, -, hagree, -⟩ :=
    closePipeline_agrees_with_direct (by simp [requests, Request.check])
      (by simp [requests, Request.operation, Operation.support]) hanswers haccepts hsync
  obtain ⟨values, closed, hclose, -, hsame, hcommands, -⟩ := hagree rfl
  exact ⟨results, direct, pipelined, values, closed, hdirect, hpipelined, hclose, hsame,
    hcommands⟩

end Connection

end RedisClient
