import RedisClient.Proofs.Connection.Pipeline
import RedisClient.Proofs.Connection.Reach
import RedisClient.Proofs.Wire.Transition

/-!
# Two queues in step

What waits is kept in two places: the connection keeps what the replies will
mean, and its client keeps the commands. A client counts if its operations do
with the number of these commands what they should (`Client.Counts`), which a
wire client does wherever it stands. Over such a client the two queues are of
one length in every state, also in those that a connection goes through while a
cursor has it (`Connection.Visited`). Closing a pipeline empties both however
it ends, so that the next pipeline starts over
(`Connection.balanced_and_restarts`).
-/

namespace RedisClient

variable {C E : Type}

/-! ## Clients that count -/

/-- **A client counts** the commands that it keeps back: each that it accepts
once, none that it refuses, and none any more after a sync or after giving its
stream back, whatever these come to. Running a command keeps none back. -/
structure Client.Counts (C E : Type) [Client C E] : Prop where
  /-- Where none is kept back, none is after a command has run. -/
  execute : ∀ {client : C} (command : Command) (env : E), queued client = 0 →
    queued (Step.left (Client.execute command) (client, env)).1 = 0
  /-- A command that is accepted is one more. -/
  queue_ok : ∀ {client client' : C} {command : Command} {env env' : E},
    Client.queue command (client, env) = .ok () (client', env') →
      queued client' = queued client + 1
  /-- One that is refused is not. -/
  queue_error : ∀ {client client' : C} {command : Command} {env env' : E} {error : Error},
    Client.queue command (client, env) = .error error (client', env') →
      queued client' = queued client
  /-- After a sync none is left. -/
  sync : ∀ (client : C) (env : E),
    queued (Step.left (Client.sync : Step (C × E) _) (client, env)).1 = 0
  /-- Nor is one after the stream has been given back. -/
  quit : ∀ (client : C) (env : E),
    queued (Step.left (Client.quit : Step (C × E) Unit) (client, env)).1 = 0

/-- A client keeps as many commands back as there are of these. -/
def Client.Holds [Client C E] (kept : List Command) (client : C) : Prop :=
  queued client = kept.length

/-- To count is to keep track of how many are held back. -/
theorem Client.Counts.keeping [Client C E] (counts : Client.Counts C E) :
    Client.Keeping (E := E) Holds (Holds [] : C → Prop) where
  execute command env h := counts.execute command env h
  queue_ok h hqueue := by
    rw [Holds, counts.queue_ok hqueue, h, List.length_append, List.length_singleton]
  queue_error h hqueue := (counts.queue_error hqueue).trans h
  sync env _ := counts.sync _ env
  quit env _ := counts.quit _ env

namespace WireClient

variable {S N : Type} [ByteStream S] [Network S N]

/-- A wire client keeps back what its standing says. -/
theorem queued_eq (client : WireClient S) :
    Client.queued client =
      match client.standing with
      | .usable count => count
      | .broken | .released _ => 0 := rfl

/-- A client that has lost its place keeps nothing back, nor does one that has
sent it all. -/
theorem queued_ite (client : WireClient S) (lost : Prop) [Decidable lost] :
    Client.queued
      { client with standing := if lost then Standing.broken else .usable 0 } = 0 := by
  by_cases h : lost <;> simp [queued_eq, h]

/-- **A wire client counts**, broken and released ones included. -/
theorem counts : Client.Counts (WireClient S) N where
  execute {client} command net h := by
    rw [queued_eq] at h
    simp only [Step.left, Step.outcome, execute_apply]
    cases hstanding : client.standing with
    | usable count =>
      obtain rfl : count = 0 := by simpa [hstanding] using h
      cases Channel.exchange command.words client.channel with
      | error error channel => exact queued_ite { client with channel } (losesPlace error = true)
      | ok frame channel =>
        dsimp only
        cases frame.toResult <;> simp only [queued_eq]
    | broken | released _ => simp only [queued_eq, hstanding]
  queue_ok {client _ command net _} h := by
    rw [queue_apply] at h
    cases hstanding : client.standing with
    | usable count =>
      simp only [hstanding, EStateM.Result.ok.injEq, Prod.mk.injEq] at h
      obtain ⟨-, rfl, -⟩ := h
      simp only [queued_eq, hstanding]
    | broken | released _ => simp [hstanding] at h
  queue_error {client _ command net _ error} h := by
    rw [queue_apply] at h
    cases hstanding : client.standing with
    | usable count => simp [hstanding] at h
    | broken | released _ =>
      simp only [hstanding, EStateM.Result.error.injEq, Prod.mk.injEq] at h
      obtain ⟨-, rfl, -⟩ := h
      rfl
  sync client net := by
    simp only [Step.left, Step.outcome, sync_apply]
    cases hstanding : client.standing with
    | usable count =>
      dsimp only
      cases Channel.collect count client.channel with
      | error error channel => exact queued_ite { client with channel } (losesPlace error = true)
      | ok frames channel => rfl
    | broken | released _ => simp only [queued_eq, hstanding]
  quit client net := by
    simp only [Step.left, Step.outcome, quit_apply]
    cases hstanding : client.standing with
    | usable count =>
      dsimp only
      cases Channel.farewell client.channel with
      | error error channel => rfl
      | ok reply channel =>
        dsimp only
        cases reply >>= Frame.toResult <;> rfl
    | broken => rfl
    | released _ => simp only [queued_eq, hstanding]

/-- A client that has just been opened keeps nothing back. -/
theorem queued_of_connect {config : Config} {net net' : N} {client : WireClient S}
    (h : connect config net = (.ok client, net')) : Client.queued client = 0 := by
  simp only [connect] at h
  split at h
  · simp at h
  · split at h
    · simp at h
    · split at h
      · simp only [Prod.mk.injEq, Except.ok.injEq] at h
        obtain ⟨rfl, -⟩ := h
        rfl
      · simp at h

end WireClient

namespace ScriptedClient

/-- Replying keeps nothing back and lets nothing go. -/
theorem stored_replyAll (client : ScriptedClient) (commands : List Command) :
    (client.replyAll commands).2.stored = client.stored := by
  induction commands generalizing client with
  | nil => rfl
  | cons command rest ih => exact ih (client.reply command).2

/-- **A scripted client counts**, whatever is laid down for it. -/
theorem counts : Client.Counts ScriptedClient Unit where
  execute {client} command env h := by
    have hleft : (Step.left (Client.execute command) (client, env)).1 =
        (client.reply command).2 := by
      simp only [Step.left, Step.outcome, Client.execute]
      rcases client.reply command with ⟨_ | _, _⟩ <;> rfl
    rw [hleft]
    exact h
  queue_ok {client _ command env _} h := by
    cases hturn : client.script.queue.head?.join with
    | none =>
      simp only [Client.queue, hturn, EStateM.Result.ok.injEq, Prod.mk.injEq] at h
      obtain ⟨-, rfl, -⟩ := h
      exact List.length_append
    | some error => simp [Client.queue, hturn] at h
  queue_error {client _ command env _ _} h := by
    cases hturn : client.script.queue.head?.join with
    | none => simp [Client.queue, hturn] at h
    | some error =>
      simp only [Client.queue, hturn, EStateM.Result.error.injEq, Prod.mk.injEq] at h
      obtain ⟨-, rfl, -⟩ := h
      rfl
  sync client env := by
    simp only [Step.left, Step.outcome, Client.sync]
    cases client.script.sync.head?.getD (.ok .full) with
    | error error => rfl
    | ok round => exact congrArg List.length (stored_replyAll _ client.stored)
  quit client env := by
    simp only [Step.left, Step.outcome, Client.quit, proceed]
    cases client.script.quit.head?.join <;> rfl

end ScriptedClient

/-! ## Every state -/

namespace Cursor

variable [Client C E] {scan : Scan}

/-- Uses a cursor again and again, whatever comes of it. -/
def useEach : List CursorUse → Step (Cursor C scan × E) Unit
  | [] => return
  | first :: rest => do
    let _ ← Step.attempt (use first)
    useEach rest

/-- **Using a cursor** again and again preserves what using it once does. -/
theorem Lends.useEach {Q : Connection C → Prop} (lends : Lends E Q) (uses : List CursorUse) :
    Step.Preserves (OfConnection Q : Cursor C scan × E → Prop) (useEach uses) := by
  induction uses with
  | nil => exact .of_pure _
  | cons first rest ih => exact .bind (lends.use first).attempt fun _ => ih

end Cursor

namespace Connection

/-- **The states that a connection goes through**: those that it reaches by
acts, and those in which a cursor has it. -/
inductive Visited [Client C E] (client : C) : Connection C → Prop
  /-- It is between two acts. -/
  | reached {c : Connection C} {kept : List Command} : Reached (E := E) client c kept →
      Visited client c
  /-- A cursor has been used, and is not let go of yet. -/
  | traversing {c : Connection C} {kept : List Command} {scan : Scan} {options : ScanOptions}
      {cursor : Cursor C scan} {env : E} {s : Connection C × E} (uses : List CursorUse) :
      Reached (E := E) client c kept → Connection.scan scan options (c, env) = .ok cursor s →
      Visited client (Step.left (Cursor.useEach uses) (cursor, s.2)).1.connection

/-- **Balanced.** Nothing waits in the direct mode, a closed connection is in
the direct mode, and as many readings wait as the client keeps commands back. -/
structure Balanced [Client C E] (c : Connection C) : Prop where
  /-- Nothing waits in the direct mode. -/
  pending_eq : c.mode = .direct → c.pending = []
  /-- A closed connection is in the direct mode. -/
  mode_eq : c.isClosed = true → c.mode = .direct
  /-- There is one reading for each command that the client keeps back. -/
  length_pending : c.pending.length = Client.queued c.client

/-- The place that an answer tells a request, if the request is to wait. -/
def place? {α : Type} : Except Error (Reply α) → Option Nat
  | .ok (.queued place) => some place
  | .ok (.value _) | .error _ => none

/-- What the replies will mean to those requests that are to wait. -/
def waitingKinds (requests : List Request) (answers : List (Except Error (Reply Value))) :
    List ReplyKind :=
  (requests.zip answers).filterMap fun (request, answer) =>
    (place? answer).map fun _ => request.kind

/-- **In every state** the connection is settled with its client. -/
theorem Visited.settled_of_keeping [Client C E] {held : List Command → C → Prop}
    {gone : C → Prop} (keeping : Client.Keeping (E := E) held gone) {c : Connection C} {client : C}
    (hnew : held [] client) (h : Visited client c) : ∃ kept, c.Settled held gone kept := by
  cases h with
  | @reached _ kept h => exact ⟨kept, h.settled keeping hnew⟩
  | @traversing c kept scan options cursor env s uses h hscan =>
    have hsettled := h.settled keeping hnew
    rw [scan_apply] at hscan
    cases hphase : c.phase with
    | direct =>
      simp only [hphase, EStateM.Result.ok.injEq] at hscan
      obtain ⟨rfl, rfl⟩ := hscan
      have hrest : c.Resting held gone :=
        (resting_direct hphase).2 ((settled_direct hphase).1 hsettled).1
      exact ⟨[], ((Cursor.lends_resting keeping).useEach uses ({ connection := c, options }, env)
        hrest).settled⟩
    | pipelined _ | closed => simp [hphase] at hscan

section

variable [Client C E] (counts : Client.Counts C E) {c : Connection C} {client : C}
include counts

/-- So it is with a client that counts. -/
theorem Visited.settled (hnew : Client.queued client = 0) (h : Visited client c) :
    ∃ kept, c.Settled Client.Holds (Client.Holds []) kept :=
  h.settled_of_keeping counts.keeping hnew

omit counts in
/-- A settled connection is balanced. -/
theorem Settled.balanced {kept : List Command}
    (h : c.Settled Client.Holds (Client.Holds []) kept) : c.Balanced := by
  cases hphase : c.phase with
  | direct =>
    obtain ⟨hqueued, rfl⟩ := (settled_direct hphase).1 h
    exact ⟨fun _ => by simp [pending, hphase], fun _ => by simp [mode, hphase],
      by simpa [pending, hphase, Client.Holds] using hqueued.symm⟩
  | pipelined waiting =>
    obtain ⟨hqueued, hlength⟩ := (settled_pipelined hphase).1 h
    exact ⟨fun hmode => by simp [mode, hphase] at hmode,
      fun hclosed => by simp [isClosed, hphase] at hclosed,
      by simpa [pending, hphase, hlength, Client.Holds] using hqueued.symm⟩
  | closed =>
    obtain ⟨hqueued, rfl⟩ := (settled_closed hphase).1 h
    exact ⟨fun _ => by simp [pending, hphase], fun _ => by simp [mode, hphase],
      by simpa [pending, hphase, Client.Holds] using hqueued.symm⟩

/-- **One request in a pipeline** is told the place behind those that wait and
waits there itself, or it is refused and nothing about what waits changes. -/
theorem run_pipelined (request : Request) (env : E) {waiting : List ReplyKind}
    (hphase : c.phase = .pipelined waiting) :
    (∃ c' env', run request (c, env) = .ok (.queued waiting.length) (c', env') ∧
      c'.phase = .pipelined (waiting ++ [request.kind]) ∧
      Client.queued c'.client = Client.queued c.client + 1) ∨
    ∃ error c' env', run request (c, env) = .error error (c', env') ∧
      c'.phase = .pipelined waiting ∧ Client.queued c'.client = Client.queued c.client := by
  rw [run_apply]
  cases hcheck : request.check with
  | error error => exact .inr ⟨error, c, env, rfl, hphase, rfl⟩
  | ok _ =>
    simp only [dispatch_apply, hphase]
    by_cases hsupport : request.operation.support = .unsupported
    · rw [if_pos hsupport]
      exact .inr ⟨_, c, env, rfl, hphase, rfl⟩
    · rw [if_neg hsupport]
      cases hqueue : Client.queue request.command (c.client, env) with
      | error error s => exact .inr ⟨error, _, s.2, rfl, rfl, counts.queue_error hqueue⟩
      | ok _ s => exact .inl ⟨_, s.2, rfl, rfl, counts.queue_ok hqueue⟩

/-- **The requests of a pipeline** are told one place after the other, and what
waits is what the replies to these requests will mean. -/
theorem runEach_places (requests : List Request) (env : E) {waiting : List ReplyKind}
    (hphase : c.phase = .pipelined waiting) (hqueued : Client.queued c.client = waiting.length) :
    ∃ answers c' env', runEach requests (c, env) = .ok answers (c', env') ∧
      c'.phase = .pipelined (waiting ++ waitingKinds requests answers) ∧
      Client.queued c'.client = (waiting ++ waitingKinds requests answers).length ∧
      answers.filterMap place? =
        List.range' waiting.length (waitingKinds requests answers).length := by
  induction requests generalizing c env waiting with
  | nil => exact ⟨[], c, env, rfl, by simpa [waitingKinds] using hphase,
      by simpa [waitingKinds] using hqueued, rfl⟩
  | cons request rest ih =>
    rcases run_pipelined counts request env hphase with
      ⟨c₁, env₁, hrun, hphase₁, hcount⟩ | ⟨error, c₁, env₁, hrun, hphase₁, hcount⟩
    · have hqueued₁ : Client.queued c₁.client = (waiting ++ [request.kind]).length := by
        rw [hcount, hqueued, List.length_append, List.length_singleton]
      obtain ⟨answers, c₂, env₂, hrest, hphase₂, hqueued₂, hplaces⟩ := ih env₁ hphase₁ hqueued₁
      have hkinds : waitingKinds (request :: rest) (.ok (.queued waiting.length) :: answers) =
          request.kind :: waitingKinds rest answers := rfl
      refine ⟨.ok (.queued waiting.length) :: answers, c₂, env₂, ?_, ?_, ?_, ?_⟩
      · simp only [runEach, Step.bind_apply, Step.attempt_apply, Step.map_apply, hrun, hrest]
        rfl
      · rw [hphase₂, hkinds, List.append_assoc, List.singleton_append]
      · rw [hqueued₂, hkinds, List.append_assoc, List.singleton_append]
      · change waiting.length :: answers.filterMap place? = _
        rw [hkinds, hplaces, List.length_cons, List.range'_succ, List.length_append,
          List.length_singleton]
    · obtain ⟨answers, c₂, env₂, hrest, hphase₂, hqueued₂, hplaces⟩ :=
        ih env₁ hphase₁ (hcount.trans hqueued)
      refine ⟨.error error :: answers, c₂, env₂, ?_, hphase₂, hqueued₂, hplaces⟩
      simp only [runEach, Step.bind_apply, Step.attempt_apply, Step.map_apply, hrun, hrest]
      rfl

omit counts in
/-- **Closing the pipeline** of an open connection leaves the direct mode,
however it ends. -/
theorem phase_closePipeline (env : E) :
    (Step.left closePipeline (c, env)).1.phase =
      if c.isClosed then Phase.closed else .direct := by
  simp only [Step.left, Step.outcome, closePipeline_apply]
  cases hphase : c.phase with
  | direct | closed => simp [isClosed, hphase]
  | pipelined waiting =>
    have hopen : c.isClosed = false := by simp [isClosed, hphase]
    simp only [hopen, Bool.false_eq_true, if_false]
    by_cases hempty : waiting = []
    · simp only [if_pos hempty]
    · simp only [if_neg hempty]
      cases (Client.sync : Step (C × E) (List (Except Error Frame))) (c.client, env) with
      | error error s => rfl
      | ok replies s =>
        dsimp only
        by_cases hcount : replies.length = waiting.length
        · simp only [if_pos hcount]
        · simp only [if_neg hcount]

omit counts in
/-- **What closing the pipeline gives** is read from the replies of one sync. -/
theorem sync_of_closePipeline {env : E} {waiting : List ReplyKind} {s : Connection C × E}
    {values : List (Except Error Value)} (hphase : c.phase = .pipelined waiting)
    (hne : waiting ≠ []) (h : closePipeline (c, env) = .ok values s) :
    ∃ replies s', (Client.sync : Step (C × E) _) (c.client, env) = .ok replies s' ∧
      replies.length = waiting.length ∧ values = replies.zipWith readEntry waiting := by
  simp only [closePipeline_apply, hphase, if_neg hne] at h
  cases hsync : (Client.sync : Step (C × E) (List (Except Error Frame))) (c.client, env) with
  | error error s' => simp [hsync] at h
  | ok replies s' =>
    by_cases hcount : replies.length = waiting.length
    · simp only [hsync, if_pos hcount, EStateM.Result.ok.injEq] at h
      exact ⟨replies, s', rfl, hcount, h.1.symm⟩
    · simp [hsync, hcount] at h

end

/-- **The two queues are in step.** Over a client that counts and keeps nothing
back to begin with, every state of a connection is balanced. Closing the
pipeline then leaves the direct mode and nothing that waits, here or there,
whatever it comes to; so the next pipeline starts over: its requests are told
the places from 0 on, what waits is what the replies to these requests will
mean, the client keeps as many commands back, and what closing it gives is read
from the replies of its own sync in that way. A wire client counts, wherever it
stands, and keeps nothing back when it is opened. -/
theorem balanced_and_restarts [Client C E] (counts : Client.Counts C E) {client : C}
    (hnew : Client.queued client = 0) {c : Connection C} (h : Visited client c) :
    c.Balanced ∧
    (∀ env : E,
      let after := (Step.left closePipeline (c, env)).1
      after.mode = .direct ∧ after.pending = [] ∧ Client.queued after.client = 0 ∧
      (c.isClosed = false → ∀ (requests : List Request) (env : E),
        ∃ answers c' env',
          (openPipeline >>= fun _ => runEach requests) (after, env) = .ok answers (c', env') ∧
          answers.filterMap place? = List.range c'.pending.length ∧
          c'.pending = waitingKinds requests answers ∧
          Client.queued c'.client = c'.pending.length ∧
          ∀ (env : E) values s, closePipeline (c', env) = .ok values s → c'.pending ≠ [] →
            ∃ replies s', (Client.sync : Step (C × E) _) (c'.client, env) = .ok replies s' ∧
              replies.length = c'.pending.length ∧
              values = replies.zipWith readEntry c'.pending)) ∧
    ∀ (S N : Type) [ByteStream S] [Network S N], Client.Counts (WireClient S) N ∧
      ∀ (config : Config) (net net' : N) (client : WireClient S),
        WireClient.connect config net = (.ok client, net') → Client.queued client = 0 := by
  obtain ⟨kept, hsettled⟩ := h.settled counts hnew
  have hbalanced := hsettled.balanced
  refine ⟨hbalanced, fun env => ?_, fun S N _ _ =>
    ⟨WireClient.counts, fun _ _ _ _ => WireClient.queued_of_connect⟩⟩
  have hafter := (hsettled.closePipeline counts.keeping env).balanced
  have hphase := phase_closePipeline (c := c) env
  generalize (Step.left closePipeline (c, env)).1 = after at hafter hphase
  have hmode : after.mode = .direct := by
    cases hclosed : c.isClosed <;> simp [mode, hphase, hclosed]
  have hnone := hafter.pending_eq hmode
  have hqueued : Client.queued after.client = 0 := by
    rw [← hafter.length_pending, hnone, List.length_nil]
  refine ⟨hmode, hnone, hqueued, fun hopen requests env => ?_⟩
  have hbegin : openPipeline (after, env) =
      .ok () ({ after with phase := .pipelined [] }, env) := by
    rw [openPipeline_apply, hphase, hopen]
    rfl
  obtain ⟨answers, c', env', hrun, hwaiting, hqueued', hplaces⟩ :=
    runEach_places counts (c := { after with phase := .pipelined [] }) requests env rfl hqueued
  have hpending : c'.pending = waitingKinds requests answers := by
    rw [pending, hwaiting]
    rfl
  refine ⟨answers, c', env', ?_⟩
  rw [hpending]
  refine ⟨?_, ?_, rfl, hqueued', fun env values s hclose hne => ?_⟩
  · rw [Step.bind_apply, hbegin]
    exact hrun
  · rw [hplaces, List.range_eq_range']
    rfl
  · exact sync_of_closePipeline hwaiting hne hclose

/-- A pipeline that is closed with a reply missing, and the next one, in which
the first request is refused. -/
theorem balanced_and_restarts_short :
    let client : ScriptedClient :=
      { script := { queue := [none, some .auth], sync := [.ok (.short 1)] } }
    let c := Act.perform (Act.perform { client } () .openPipeline) () (.request (.get [97]))
    let after := (Step.left closePipeline (c, ())).1
    (Client.queued client = 0 ∧ Visited client c ∧ c.isClosed = false) ∧
      (Step.outcome closePipeline (c, ())).1 = .error (.protocol (.replyCount 0 1)) ∧
      after.pending = [] ∧ Client.queued after.client = 0 ∧
      ∃ answers c' env',
        (openPipeline >>= fun _ => runEach [.get [97], .incr [98]]) (after, ()) =
          .ok answers (c', env') ∧
        answers.filterMap place? = [0] ∧ c'.pending = [.integer] ∧ Client.queued c'.client = 1 := by
  intro client c after
  have hvisited : Visited client c :=
    .reached (.act (.request (.get [97])) () (.act .openPipeline () (.opened none)))
  obtain ⟨-, hclosing, -⟩ := balanced_and_restarts ScriptedClient.counts rfl hvisited
  obtain ⟨-, hpending, hqueued, hnext⟩ := hclosing ()
  obtain ⟨answers, c', env', hrun, hplaces, hkinds, hcount, -⟩ :=
    hnext rfl [.get [97], .incr [98]] ()
  refine ⟨⟨rfl, hvisited, rfl⟩, rfl, hpending, hqueued, answers, c', env', hrun, ?_⟩
  obtain rfl : [.error .auth, .ok (.queued 0)] = answers := (EStateM.Result.ok.inj hrun).1
  have hinteger : c'.pending = [.integer] := hkinds
  rw [hinteger] at hplaces hcount
  exact ⟨hplaces, hinteger, hcount⟩

end Connection

end RedisClient
