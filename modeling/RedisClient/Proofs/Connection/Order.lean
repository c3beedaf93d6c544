import RedisClient.Client.Scripted
import RedisClient.Proofs.Connection.Calls
import RedisClient.Proofs.Wire.Alignment

/-!
# Nothing out of order

While a pipeline is open, nothing overtakes the commands that wait: no command is
run, a command is kept back only for an act that may wait and whose arguments
pass, the commands are sent only by closing the pipeline, and the client is given
back only by closing the connection (`Connection.Orderly`). For a command on the
direct route it is the permit alone that sees to this: one that might wait would
overtake those that do (`Connection.direct_overtakes`), and the two routes agree
for no others than those that may not wait
(`Connection.direct_eq_dispatch_iff`). So a wire client,
which refuses to run a command while it keeps others back, never has to say so:
of all that its connection ever runs on it, nothing is answered with that refusal
(`Connection.pipelined_orderly`). The answers are read off a client that
remembers them (`Remembering`).
-/

namespace RedisClient

open WireClient (losesPlace)

/-! ## While a pipeline is open -/

namespace Connection

variable {C E : Type}

/-- What an act may have kept back: the command of a request whose arguments
pass and which may wait, or the one that stops the server, if that may. -/
def Queues (command : Command) : Act → Prop
  | .request r => r.check = .ok () ∧ r.operation.support = .queued ∧ command = r.command
  | .shutdown option =>
    (shutdownOperation option).support = .queued ∧ command = shutdownCommand option
  | .openPipeline | .closePipeline | .close | .scan _ _ _ | .openSentinel => False

/-- **Orderly calls** of an act that is done while a pipeline is open. A call to
the client, if there is one, is the only one. -/
structure Orderly [Client C E] (c : Connection C) (act : Act) (calls : List Call) : Prop where
  /-- No command is run. -/
  execute : ∀ command, .execute command ∉ calls
  /-- A command is kept back for an act that may have it kept back. -/
  queue : ∀ command, .queue command ∈ calls ↔ Queues command act
  /-- It is the only call. -/
  queue_only : ∀ command, .queue command ∈ calls → calls = [.queue command]
  /-- The commands are sent by closing the pipeline, if any wait. -/
  sync : ∀ count, .sync count ∈ calls ↔
    act = .closePipeline ∧ c.pending ≠ [] ∧ count = Client.queued c.client
  /-- That is the only call. -/
  sync_only : ∀ count, .sync count ∈ calls → calls = [.sync count]
  /-- The client is given back by closing the connection. -/
  quit : .quit ∈ calls ↔ act = .close
  /-- That is the only call. -/
  quit_only : .quit ∈ calls → calls = [.quit]

variable [Client C E] {c : Connection C} {calls : List Call} {act : Act}

/-- A pipeline is open in the pipelined mode. -/
theorem phase_of_mode (hmode : c.mode = .pipelined) : c.phase = .pipelined c.pending := by
  cases hphase : c.phase <;> simp_all [mode, pending]

/-- No call at all is orderly, if nothing is to be kept back, sent or given
back. -/
theorem Orderly.nil (hqueues : ∀ command, ¬ Queues command act)
    (hsync : act = .closePipeline → c.pending = []) (hquit : act ≠ .close) :
    c.Orderly act [] := by
  constructor <;> simp_all

/-- **A command that is dispatched** is kept back if it may wait. -/
theorem orderly_dispatch {operation : Operation} {command : Command} {waiting : List ReplyKind}
    (hqueues : ∀ other, Queues other act ↔ operation.support = .queued ∧ other = command)
    (hsync : act ≠ .closePipeline) (hquit : act ≠ .close) :
    c.Orderly act (operation.calls command (.pipelined waiting)) := by
  cases hsupport : operation.support with
  | unsupported =>
    simp only [Operation.calls, hsupport, if_true]
    refine .nil (fun other hother => ?_) (fun hact => absurd hact hsync) hquit
    have hqueued := ((hqueues other).1 hother).1
    rw [hsupport] at hqueued
    cases hqueued
  | queued =>
    have hcalls : operation.calls command (.pipelined waiting) = [.queue command] := by
      simp [Operation.calls, hsupport]
    have hwaits : ∀ other, Queues other act ↔ other = command := by simpa [hsupport] using hqueues
    rw [hcalls]
    constructor <;> simp [hwaits, hsync, hquit]

/-- **What an act asks for while a pipeline is open** is orderly. -/
theorem orderly_of_asks (hmode : c.mode = .pipelined) (h : act.Asks c calls) :
    c.Orderly act calls := by
  have hphase := phase_of_mode hmode
  have hopen : c.isClosed = false := by rw [isClosed, hphase]; rfl
  cases act with
  | request request =>
    rw [Act.Asks, Request.calls, hphase] at h
    obtain rfl := h
    cases hcheck : request.check with
    | ok _ => exact orderly_dispatch (by simp [Queues, hcheck]) (by simp) (by simp)
    | error error => exact .nil (by simp [Queues, hcheck]) (by simp) (by simp)
  | shutdown option =>
    rw [Act.Asks, hphase] at h
    obtain rfl := h
    exact orderly_dispatch (fun _ => Iff.rfl) (by simp) (by simp)
  | openPipeline =>
    obtain rfl := h
    exact .nil (by simp [Queues]) (by simp) (by simp)
  | closePipeline =>
    obtain rfl := h
    by_cases hpending : c.pending = []
    · rw [if_pos hpending]
      exact .nil (by simp [Queues]) (fun _ => hpending) (by simp)
    · rw [if_neg hpending]
      constructor <;> simp [Queues, hpending]
  | close =>
    obtain rfl := h
    rw [hopen]
    constructor <;> simp [Queues]
  | scan kind options uses =>
    simp only [Act.Asks, hphase] at h
    obtain rfl := h
    exact .nil (by simp [Queues]) (by simp) (by simp)
  | openSentinel =>
    obtain ⟨tried, -, rfl⟩ := h
    constructor <;> simp [Queues]

/-! ## The two routes -/

/-- **A command that might wait overtakes** if it is run directly while a pipeline
is open: it is run at once, and what waits goes on waiting. -/
theorem direct_overtakes {c : Connection (Journaled C)} {journal : Journal E}
    {calls : List Call} (h : Asked false calls (c, journal)) (hmode : c.mode = .pipelined)
    {operation : Operation} (hsupport : operation.support = .queued) (command : Command)
    (kind : ReplyKind) :
    Asked false (calls ++ [.execute command])
        (Step.left (direct operation command kind) (c, journal)) ∧
      (Step.left (direct operation command kind) (c, journal)).1.phase = c.phase := by
  have hopen : (c.phase == .closed) = false := h.closed_eq rfl
  have hmay : operation.support ≠ .unsupported := by simp [hsupport]
  have hdirect : direct operation command kind (c, journal) =
      onClient (Client.ask command kind.read) (c, journal) := by
    rw [direct_apply, phase_of_mode hmode]
    exact if_neg hmay
  rw [← hopen]
  simp only [Step.left, Step.outcome, hdirect, ask_apply]
  cases hresult : Client.execute command (c.client, journal) with
  | error error s => exact ⟨h.ask rfl (Step.left_of_error hresult) c.phase, rfl⟩
  | ok frame s =>
    have hasked := h.ask rfl (Step.left_of_ok hresult) c.phase
    dsimp only
    cases kind.read frame <;> exact ⟨hasked, rfl⟩

/-- **The routes come to the same exactly for the operations that may not wait**:
any other is kept back on the one and answered on the other while a pipeline is
open. -/
theorem direct_eq_dispatch_iff {operation : Operation} :
    (∀ (C E : Type) [Client C E] (c : Connection C) (env : E) (command : Command)
      (kind : ReplyKind), (Reply.value <$> direct operation command kind) (c, env) =
        dispatch operation command kind (c, env)) ↔
      operation.support = .unsupported := by
  constructor
  · intro hagree
    by_contra hmay
    have hopen := hagree ScriptedClient Unit { client := {}, phase := .pipelined [] } () .ping
      .value
    simp only [Step.map_apply, direct_apply, dispatch_apply, if_neg hmay] at hopen
    cases hopen
  · intro hsupport C E _ c env command kind
    exact direct_eq_dispatch c env hsupport command kind

end Connection

/-! ## What a wire client answers -/

namespace Channel

variable {S α β : Type} {step : Step (Channel S) α}

/-- A step that fails only where the channel loses its place. -/
def Strict (step : Step (Channel S) α) : Prop :=
  ∀ ⦃c c' : Channel S⦄ ⦃error : Error⦄, step c = .error error c' → losesPlace error = true

/-- One strict step after the other is strict. -/
theorem Strict.bind {next : α → Step (Channel S) β} (h : Strict step)
    (hnext : ∀ a, Strict (next a)) : Strict (step >>= next) := by
  intro c c' error hfail
  rw [Step.bind_apply] at hfail
  cases hstep : step c with
  | ok a c₁ =>
    rw [hstep] at hfail
    exact hnext a hfail
  | error error₁ c₁ =>
    rw [hstep] at hfail
    obtain ⟨rfl, -⟩ := EStateM.Result.error.inj hfail
    exact h hstep

variable [ByteStream S]

/-- Flushing is strict. -/
theorem strict_flush : Strict (flush : Step (Channel S) Unit) := by
  intro c c' error hfail
  rw [flush_apply] at hfail
  split at hfail
  · simp at hfail
  · split at hfail
    · obtain ⟨rfl, -⟩ := EStateM.Result.error.inj hfail
      exact losesPlace_toError c.writeTimeout _
    · split at hfail
      · obtain ⟨rfl, -⟩ := EStateM.Result.error.inj hfail
        exact losesPlace_toError c.writeTimeout _
      · simp at hfail

/-- Receiving is strict. -/
theorem strict_receive : Strict (receive : Step (Channel S) Frame) := by
  intro c
  induction hmeasure : c.decoder.limit + 1 - c.decoder.buffer.length using Nat.strongRecOn
    generalizing c with
  | ind measure ih =>
    intro c' error hfail
    rcases hdecode : c.decoder.decode with ⟨fault | _ | frame, d⟩
    · rw [receive_of_fault hdecode] at hfail
      obtain ⟨rfl, -⟩ := EStateM.Result.error.inj hfail
      rfl
    · -- more bytes are needed: either none come, or there are fewer still to come
      cases hread : ByteStream.read c.readTimeout readSize c.stream with
      | error fault stream =>
        rw [receive_of_read_fault hdecode hread] at hfail
        obtain ⟨rfl, -⟩ := EStateM.Result.error.inj hfail
        exact losesPlace_toError c.readTimeout fault
      | ok bytes stream =>
        cases bytes with
        | nil =>
          rw [receive_of_end hdecode hread] at hfail
          obtain ⟨rfl, -⟩ := EStateM.Result.error.inj hfail
          rfl
        | cons first more =>
          obtain ⟨hlimit, hbuffer, hroom⟩ := Decoder.keeps_of_decode_none hdecode
          rw [receive_of_read hdecode hread] at hfail
          refine ih _ ?_ rfl hfail
          rw [← hmeasure]
          simp only [Decoder.append, hlimit, hbuffer, List.length_append, List.length_cons]
          omega
    · rw [receive_of_frame hdecode] at hfail
      simp at hfail

/-- So is exchanging a command for a frame. -/
theorem strict_exchange (words : List Bytes) :
    Strict (exchange words : Step (Channel S) Frame) := by
  have hbuffer : Strict (buffer words : Step (Channel S) Unit) := by
    intro c c' error hfail
    rw [buffer, Step.modify_apply] at hfail
    cases hfail
  exact (hbuffer.bind fun _ => strict_flush).bind fun _ => strict_receive

end Channel

/-- **A wire client that keeps nothing back** never refuses to run a command for
keeping others back. -/
theorem WireClient.not_refused {S N : Type} [ByteStream S] [Network S N] {client : WireClient S}
    (hnone : Client.queued client = 0) {command : Command} {net : N} {error : Error}
    {s : WireClient S × N} (h : Client.execute command (client, net) = .error error s)
    (count : Nat) : error ≠ .misuse (.commandsQueued count) := by
  rw [queued_eq] at hnone
  rw [execute_apply] at h
  cases hstanding : client.standing with
  | usable queued =>
    obtain rfl : queued = 0 := by simpa [hstanding] using hnone
    simp only [hstanding] at h
    cases hexchange : Channel.exchange command.words client.channel with
    | error error' channel =>
      simp only [hexchange] at h
      obtain ⟨rfl, -⟩ := EStateM.Result.error.inj h
      rintro rfl
      exact Bool.false_ne_true (Channel.strict_exchange command.words hexchange)
    | ok frame channel =>
      simp only [hexchange] at h
      cases frame with
      | error text =>
        obtain ⟨rfl, -⟩ := EStateM.Result.error.inj h
        simp [Error.ofLine]
      | _ => simp [Frame.toResult] at h
  | broken | released _ =>
    simp only [hstanding] at h
    obtain ⟨rfl, -⟩ := EStateM.Result.error.inj h
    simp

/-! ## A client that remembers -/

/-- A client that remembers what its commands have come to. -/
structure Remembering (C : Type) where
  /-- The client. -/
  client : C
  /-- What the commands that have been run on it have come to. -/
  answers : List (Except Error Frame) := []

namespace Remembering

variable {C E α : Type}

/-- Runs a step of the client. -/
def onClient (step : Step (C × E) α) : Step (Remembering C × E) α :=
  step.focus client fun client c => { c with client }

/-- Remembers an answer. -/
def remember (answer : Except Error Frame) : Step (Remembering C × E) Unit :=
  modify fun (c, env) => ({ c with answers := c.answers ++ [answer] }, env)

instance [Client C E] : Client (Remembering C) E where
  queued c := Client.queued c.client
  execute command := do
    let answer ← Step.attempt (onClient (Client.execute command))
    remember answer
    ofExcept answer
  queue command := onClient (Client.queue command)
  sync := onClient Client.sync
  quit := onClient Client.quit
  openSentinel c node env :=
    let (client, env) := Client.openSentinel c.client node env
    (client.map fun client => { client }, env)

/-- None of the commands has been refused because others were kept back. -/
def Unrefused (c : Remembering C) : Prop :=
  ∀ answer ∈ c.answers, ∀ count, answer ≠ .error (.misuse (.commandsQueued count))

/-- The client keeps as many commands back as there are of these, and has not
refused any because of them. -/
def Holds [Client C E] (kept : List Command) (c : Remembering C) : Prop :=
  Client.Holds kept c.client ∧ c.Unrefused

/-- A step of the client leaves what is remembered as it is. -/
theorem onClient_apply (step : Step (C × E) α) (c : Remembering C) (env : E) :
    onClient step (c, env) =
      match step (c.client, env) with
      | .ok a (client, env) => .ok a ({ c with client }, env)
      | .error e (client, env) => .error e ({ c with client }, env) := rfl

/-- The client that is left by a step of the client. -/
theorem left_onClient (step : Step (C × E) α) (c : Remembering C) (env : E) :
    (Step.left (onClient step) (c, env)).1 =
      { c with client := (Step.left step (c.client, env)).1 } := by
  simp only [Step.left, Step.outcome, onClient_apply]
  cases step (c.client, env) <;> rfl

/-- Running a command remembers what it comes to, and comes to nothing else. -/
theorem execute_apply [Client C E] (command : Command) (c : Remembering C) (env : E) :
    Client.execute command (c, env) =
      match Client.execute command (c.client, env) with
      | .ok frame (client, env) => .ok frame ({ client, answers := c.answers ++ [.ok frame] }, env)
      | .error e (client, env) =>
        .error e ({ client, answers := c.answers ++ [.error e] }, env) := by
  simp only [Client.execute, Step.bind_apply, Step.attempt_apply, onClient_apply]
  cases Client.execute command (c.client, env) <;> rfl

/-- One more answer that is not a refusal. -/
theorem Unrefused.remember {c : Remembering C} (h : c.Unrefused) {answer : Except Error Frame}
    (hanswer : ∀ count, answer ≠ .error (.misuse (.commandsQueued count))) (client : C) :
    Unrefused { client, answers := c.answers ++ [answer] } := by
  intro other hother
  rcases List.mem_append.1 hother with hold | hnew
  · exact h other hold
  · obtain rfl := List.mem_singleton.1 hnew
    exact hanswer

variable {S N : Type} [ByteStream S] [Network S N]

/-- **A wire client that remembers** keeps count, and refuses nothing that it is
rightly asked. -/
theorem keeping : Client.Keeping (E := N)
    (Holds : List Command → Remembering (WireClient S) → Prop) (Holds []) where
  execute {c} command net h := by
    obtain ⟨hholds, hunrefused⟩ := h
    have hcount := WireClient.counts.keeping.execute command net hholds
    simp only [Step.left, Step.outcome, execute_apply] at hcount ⊢
    cases hresult : Client.execute command (c.client, net) with
    | ok frame s =>
      rw [hresult] at hcount
      exact ⟨hcount, hunrefused.remember (by simp) s.1⟩
    | error error s =>
      rw [hresult] at hcount
      refine ⟨hcount, hunrefused.remember (fun count heq => ?_) s.1⟩
      exact WireClient.not_refused hholds hresult count (Except.error.inj heq)
  queue_ok {kept c c' command net net'} h hqueue := by
    change onClient (Client.queue command) (c, net) = _ at hqueue
    rw [onClient_apply] at hqueue
    cases hresult : Client.queue command (c.client, net) with
    | ok _ s =>
      rw [hresult] at hqueue
      obtain ⟨-, hstate⟩ := EStateM.Result.ok.inj hqueue
      obtain ⟨rfl, -⟩ := Prod.mk.inj hstate
      exact ⟨WireClient.counts.keeping.queue_ok h.1 hresult, h.2⟩
    | error error s =>
      rw [hresult] at hqueue
      cases hqueue
  queue_error {kept c c' command net net' error} h hqueue := by
    change onClient (Client.queue command) (c, net) = _ at hqueue
    rw [onClient_apply] at hqueue
    cases hresult : Client.queue command (c.client, net) with
    | ok _ s =>
      rw [hresult] at hqueue
      cases hqueue
    | error error' s =>
      rw [hresult] at hqueue
      obtain ⟨-, hstate⟩ := EStateM.Result.error.inj hqueue
      obtain ⟨rfl, -⟩ := Prod.mk.inj hstate
      exact ⟨WireClient.counts.keeping.queue_error h.1 hresult, h.2⟩
  sync {kept c} net h := by
    change Holds [] (Step.left (onClient Client.sync) (c, net)).1
    rw [left_onClient]
    exact ⟨WireClient.counts.keeping.sync net h.1, h.2⟩
  quit {kept c} net h := by
    change Holds [] (Step.left (onClient Client.quit) (c, net)).1
    rw [left_onClient]
    exact ⟨WireClient.counts.keeping.quit net h.1, h.2⟩

end Remembering

/-! ## Every run -/

namespace Connection

/-- **Nothing is out of order while a pipeline is open.** On every run of a
connection and for every act that is done while its pipeline is open, what is
asked of its client is orderly. And on every run of a connection whose wire
client keeps nothing back to begin with, no command that is run on the client is
refused because others are kept back. -/
theorem pipelined_orderly :
    (∀ (C E : Type) [Client C E] (client : C) (c : Connection (Journaled C)) (journal : Journal E),
      Recorded client (c, journal) → c.mode = .pipelined →
        c.isClosed = false ∧ ∀ act : Act, ∃ calls,
          (act.after (c, journal)).2.own = journal.own ++ calls ∧ c.Orderly act calls) ∧
    ∀ (S N : Type) [ByteStream S] [Network S N] (client : WireClient S),
      Client.queued client = 0 → ∀ c : Connection (Remembering (WireClient S)),
        Visited (E := N) { client } c →
          ∀ answer ∈ c.client.answers, ∀ count,
            answer ≠ .error (.misuse (.commandsQueued count)) := by
  constructor
  · intro C E _ client c journal h hmode
    refine ⟨by rw [isClosed, phase_of_mode hmode]; rfl, fun act => ?_⟩
    obtain ⟨calls, hasks, hafter⟩ := h.asked.act act
    exact ⟨calls, hafter.own_eq, orderly_of_asks hmode hasks⟩
  · intro S N _ _ client hnone c hvisited
    have hnew : Remembering.Holds [] ({ client } : Remembering (WireClient S)) :=
      ⟨hnone, fun answer hmem => absurd hmem List.not_mem_nil⟩
    obtain ⟨kept, hsettled⟩ := hvisited.settled_of_keeping Remembering.keeping hnew
    cases hphase : c.phase with
    | direct => exact ((settled_direct hphase).1 hsettled).1.2
    | pipelined waiting => exact ((settled_pipelined hphase).1 hsettled).1.2
    | closed => exact ((settled_closed hphase).1 hsettled).1.2

/-- A pipeline with one request, which is then closed, and a wire client on which
the same request is run behind such a pipeline. -/
theorem pipelined_orderly_get :
    let client : ScriptedClient := {}
    let s := Act.after (Act.after (({ client := { client } } : Connection (Journaled _)),
      ({ env := () } : Journal Unit)) .openPipeline) (.request (.get [97]))
    let answer : List (List Bytes) → Frame := fun _ => .simple [79, 75]
    let get := (Request.get [97]).command
    let stream : Rehearsed answer :=
      { commands := [get.words, get.words], reads := [.ok 100, .ok 100] }
    let wire : WireClient (Rehearsed answer) :=
      { config := { node := ⟨"localhost", 6379⟩ }, channel := { stream } }
    let new : Connection (Remembering (WireClient (Rehearsed answer))) :=
      { client := { client := wire } }
    let queued := Act.perform (Act.perform new stream .openPipeline) stream (.request (.get [97]))
    let c := Act.perform (Act.perform queued stream .closePipeline) stream (.request (.get [97]))
    (Recorded client s ∧ s.1.mode = .pipelined ∧ Client.queued wire = 0 ∧
        Visited (E := Rehearsed answer) new.client c) ∧
      (∃ calls, (Act.after s .closePipeline).2.own = s.2.own ++ calls ∧
        s.1.Orderly .closePipeline calls ∧ calls = [.sync 1]) ∧
      c.client.answers.length = 1 ∧
      ∀ reply ∈ c.client.answers, ∀ count, reply ≠ .error (.misuse (.commandsQueued count)) := by
  intro client s answer get stream wire new queued c
  have hrun : Recorded client s := .act _ (.act _ (.opened ()))
  have hvisited : Visited (E := Rehearsed answer) new.client c :=
    .reached (.act (.request (.get [97])) stream (.act .closePipeline stream
      (.act (.request (.get [97])) stream (.act .openPipeline stream (.opened none)))))
  obtain ⟨hordered, hunrefused⟩ := pipelined_orderly
  obtain ⟨calls, hown, horderly⟩ := (hordered _ _ client s.1 s.2 hrun rfl).2 .closePipeline
  change s.2.own ++ [.sync 1] = s.2.own ++ calls at hown
  have hsync : [.sync 1] = calls := List.append_cancel_left hown
  exact ⟨⟨hrun, rfl, rfl, hvisited⟩, ⟨calls, hown, horderly, hsync.symm⟩, by decide +kernel,
    hunrefused _ _ wire rfl c hvisited⟩

end Connection

end RedisClient
