import RedisClient.Proofs.Wire.InStep

/-!
# Replies and their commands

No reply is handed to the wrong command. A client is used by any sequence of
`execute`, `queue` and `sync`; its trace is what came of each call and how it
left the client (`WireClient.trace`), and `Orderly` says of a trace that every
reply in it is the reply to the command it is given for, and that nothing
touches the stream any more once the place in it is lost. That the traces of an
opened client are orderly rests on one invariant, `WireClient.Aligned`: the
channel is in step with the server, and what waits in its encoder is the
commands that the client counts as kept back.
-/

namespace RedisClient

variable {S N : Type}

/-- A call of a client that carries commands. -/
inductive Use where
  /-- A command is run. -/
  | execute (command : Command)
  /-- A command is kept back. -/
  | queue (command : Command)
  /-- The commands that are kept back are sent. -/
  | sync

/-- What a call gives. -/
abbrev Use.Result : Use → Type
  | execute _ => Frame
  | queue _ => Unit
  | sync => List (Except Error Frame)

/-- A call, what came of it, and the client and its surroundings after it. -/
structure Event (S N : Type) where
  /-- The call. -/
  use : Use
  /-- What came of it. -/
  outcome : Except Error use.Result
  /-- How it left the client. -/
  after : WireClient S × N

/-- The call made on a client. -/
def Use.step [ByteStream S] [Network S N] : (use : Use) → Step (WireClient S × N) use.Result
  | execute command => Client.execute command
  | queue command => Client.queue command
  | sync => Client.sync

/-- What comes of calls made one after the other. -/
def WireClient.trace [ByteStream S] [Network S N] : List Use → WireClient S × N → List (Event S N)
  | [], _ => []
  | use :: rest, s =>
    ⟨use, (use.step.outcome s).1, (use.step.outcome s).2⟩ ::
      trace rest (use.step.outcome s).2

/-- **An orderly trace.** The server has answered the commands in `sent`, those
in `kept` were kept back since the last sync, and `before` is the client. -/
inductive Orderly (answer : List (List Bytes) → Frame) :
    List (List Bytes) → List (List Bytes) → WireClient S × N → List (Event S N) → Prop
  /-- Nothing more is asked. -/
  | done {sent kept : List (List Bytes)} {before : WireClient S × N} :
      Orderly answer sent kept before []
  /-- A command that runs is given the reply to itself, be it an error reply,
  and the client stays usable. -/
  | executed {sent : List (List Bytes)} {command : Command} {before after : WireClient S × N}
      {rest : List (Event S N)} :
      after.1.standing = .usable 0 → Orderly answer (sent ++ [command.words]) [] after rest →
      Orderly answer sent [] before
        (⟨.execute command, (answer (sent ++ [command.words])).toResult, after⟩ :: rest)
  /-- While commands are kept back none is run, and nothing changes. -/
  | refused {sent kept : List (List Bytes)} {command : Command} {before : WireClient S × N}
      {rest : List (Event S N)} :
      kept ≠ [] → Orderly answer sent kept before rest →
      Orderly answer sent kept before
        (⟨.execute command, .error (.misuse (.commandsQueued kept.length)), before⟩ :: rest)
  /-- A command is kept back behind the others. -/
  | queued {sent kept : List (List Bytes)} {command : Command} {before after : WireClient S × N}
      {rest : List (Event S N)} :
      after.1.standing = .usable (kept.length + 1) →
      Orderly answer sent (kept ++ [command.words]) after rest →
      Orderly answer sent kept before (⟨.queue command, .ok (), after⟩ :: rest)
  /-- Every command that was kept back is given the reply to itself, in order
  and nothing else, and the client stays usable. -/
  | synced {sent kept : List (List Bytes)} {before after : WireClient S × N}
      {rest : List (Event S N)} :
      after.1.standing = .usable 0 → Orderly answer (sent ++ kept) [] after rest →
      Orderly answer sent kept before
        (⟨.sync, .ok ((answers answer sent kept).map Frame.toResult), after⟩ :: rest)
  /-- The place in the stream is lost. From here on the client is broken and
  holds nothing back; every call is refused and changes nothing, neither the
  stream nor anything else. -/
  | lost {sent kept : List (List Bytes)} {use : Use} {error : Error}
      {before after : WireClient S × N} {rest : List (Event S N)} :
      WireClient.losesPlace error = true → after.1.standing = .broken → after.1.queued = 0 →
      (∀ event ∈ rest, event.outcome = .error (.misuse (.broken after.1.config.node)) ∧
        event.after = after) →
      Orderly answer sent kept before (⟨use, .error error, after⟩ :: rest)

namespace WireClient

variable [ByteStream S] [Network S N]

/-! ## Once the place is lost -/

/-- A broken client refuses every call and is left as it is. -/
theorem outcome_of_broken {client : WireClient S} (h : client.standing = .broken) (net : N)
    (use : Use) :
    use.step.outcome (client, net) =
      (.error (.misuse (.broken client.config.node)), (client, net)) := by
  cases use with
  | execute command => simp only [Use.step, Step.outcome, execute_apply, h]
  | queue command => simp only [Use.step, Step.outcome, queue_apply, h]
  | sync => simp only [Use.step, Step.outcome, sync_apply, h]

/-- So does it in every trace. -/
theorem trace_of_broken {client : WireClient S} (h : client.standing = .broken) (net : N)
    (uses : List Use) :
    ∀ event ∈ trace uses (client, net),
      event.outcome = .error (.misuse (.broken client.config.node)) ∧
        event.after = (client, net) := by
  induction uses with
  | nil => simp [trace]
  | cons use rest ih =>
    intro event hevent
    rw [trace, outcome_of_broken h net use] at hevent
    rcases List.mem_cons.1 hevent with rfl | hrest
    · exact ⟨rfl, rfl⟩
    · exact ih event hrest

/-- A call that loses the place is the last that does anything. -/
theorem orderly_of_lost {answer : List (List Bytes) → Frame} {sent kept : List (List Bytes)}
    {before : WireClient S × N} {use : Use} {uses : List Use} {error : Error}
    {client : WireClient S} {net : N} (hloses : losesPlace error = true)
    (hbroken : client.standing = .broken)
    (houtcome : use.step.outcome before = (.error error, (client, net))) :
    Orderly answer sent kept before (trace (use :: uses) before) := by
  rw [trace, houtcome]
  exact .lost hloses hbroken (by rw [queued, hbroken]) (trace_of_broken hbroken net uses)

/-! ## While the client is aligned -/

/-- **Aligned.** The client can be used, the server has answered the commands
in `sent`, and those in `kept` wait in the encoder. -/
structure Aligned (peer : Peer S) (sent kept : List (List Bytes)) (client : WireClient S) :
    Prop where
  /-- The client counts what it keeps back. -/
  standing_eq : client.standing = .usable kept.length
  /-- The encoder holds it. -/
  waiting_eq : client.channel.encoder.waiting = kept.flatMap Frame.encodeWords
  /-- No reply is outstanding. -/
  inStep : client.channel.InStep peer sent sent

namespace Aligned

variable {peer : Peer S} {sent kept : List (List Bytes)} {client : WireClient S}

/-- While commands are kept back none is run. -/
theorem execute_refused (h : Aligned peer sent kept client) (hkept : kept ≠ []) (net : N)
    (command : Command) :
    (Use.execute command).step.outcome (client, net) =
      (.error (.misuse (.commandsQueued kept.length)), (client, net)) := by
  obtain ⟨words, rest, rfl⟩ := List.exists_cons_of_ne_nil hkept
  simp only [Use.step, Step.outcome, execute_apply, h.standing_eq, List.length_cons]

/-- Otherwise a command that is run gets its reply, or the place is lost. -/
theorem execute (h : Aligned peer sent [] client) (net : N) (command : Command) :
    (∃ error client', (Use.execute command).step.outcome (client, net) =
        (.error error, (client', net)) ∧ losesPlace error = true ∧ client'.standing = .broken) ∨
      ∃ client', (Use.execute command).step.outcome (client, net) =
          ((peer.answer (sent ++ [command.words])).toResult, (client', net)) ∧
        Aligned peer (sent ++ [command.words]) [] client' := by
  have hstanding : client.standing = .usable 0 := h.standing_eq
  simp only [Use.step, Step.outcome, execute_apply, hstanding]
  rcases h.inStep.exchange h.waiting_eq command.words with
    ⟨error, c, hfail, hloses⟩ | ⟨c, hok, hstep, hnone⟩
  · refine .inl ⟨error, { client with channel := c, standing := .broken }, ?_, hloses, rfl⟩
    simp only [hfail, hloses, if_true]
  · refine .inr ⟨{ client with channel := c }, ?_, ⟨hstanding, hnone, hstep⟩⟩
    rw [hok]
    dsimp only
    cases (peer.answer (sent ++ [command.words])).toResult <;> simp only [hstanding]

/-- A command is kept back behind the others. -/
theorem queue (h : Aligned peer sent kept client) (net : N) (command : Command) :
    ∃ client', (Use.queue command).step.outcome (client, net) = (.ok (), (client', net)) ∧
      Aligned peer sent (kept ++ [command.words]) client' := by
  refine ⟨{ client with
    channel := { client.channel with encoder := client.channel.encoder.addWords command.words }
    standing := .usable (kept.length + 1) }, ?_, ?_, ?_, ?_⟩
  · simp only [Use.step, Step.outcome, queue_apply, h.standing_eq]
  · simp
  · simp [Encoder.addWords, h.waiting_eq]
  · exact h.inStep.congr rfl rfl

/-- What is kept back gets its replies, or the place is lost. -/
theorem sync (h : Aligned peer sent kept client) (net : N) :
    (∃ error client', Use.sync.step.outcome (client, net) = (.error error, (client', net)) ∧
        losesPlace error = true ∧ client'.standing = .broken) ∨
      ∃ client', Use.sync.step.outcome (client, net) =
          (.ok ((answers peer.answer sent kept).map Frame.toResult), (client', net)) ∧
        Aligned peer (sent ++ kept) [] client' := by
  simp only [Use.step, Step.outcome, sync_apply, h.standing_eq]
  rcases h.inStep.collect h.waiting_eq with ⟨error, c, hfail, hloses⟩ | ⟨c, hok, hstep, hnone⟩
  · refine .inl ⟨error, { client with channel := c, standing := .broken }, ?_, hloses, rfl⟩
    simp only [hfail, hloses, if_true]
  · refine .inr ⟨{ client with channel := c, standing := .usable 0 }, ?_, ⟨rfl, hnone, hstep⟩⟩
    simp only [hok]

/-- **The traces of an aligned client are orderly.** -/
theorem trace_orderly (h : Aligned peer sent kept client) (net : N) (uses : List Use) :
    Orderly peer.answer sent kept (client, net) (trace uses (client, net)) := by
  induction uses generalizing sent kept client net with
  | nil => exact .done
  | cons use rest ih =>
    cases use with
    | execute command =>
      by_cases hkept : kept = []
      · subst hkept
        rcases h.execute net command with ⟨error, client', hout, hloses, hbroken⟩ |
          ⟨client', hout, h'⟩
        · exact orderly_of_lost hloses hbroken hout
        · rw [trace, hout]
          exact .executed h'.standing_eq (ih h' net)
      · -- the client is as it was, so the same commands still wait
        rw [trace, h.execute_refused hkept]
        exact .refused hkept (ih h net)
    | queue command =>
      obtain ⟨client', hout, h'⟩ := h.queue net command
      rw [trace, hout]
      refine .queued ?_ (ih h' net)
      rw [h'.standing_eq, List.length_append]
      rfl
    | sync =>
      rcases h.sync net with ⟨error, client', hout, hloses, hbroken⟩ | ⟨client', hout, h'⟩
      · exact orderly_of_lost hloses hbroken hout
      · rw [trace, hout]
        exact .synced h'.standing_eq (ih h' net)

end Aligned

/-! ## Opened clients -/

/-- Greetings that are answered leave a channel in step. -/
theorem inStep_of_greet {peer : Peer S} {sent : List (List Bytes)} {c c' : Channel S}
    {greetings : List Greeting} (h : c.InStep peer sent sent)
    (hwaiting : c.encoder.waiting = []) (hgreet : Channel.greet greetings c = .ok () c') :
    let heard := sent ++ greetings.map fun greeting => greeting.command.words
    c'.InStep peer heard heard ∧ c'.encoder.waiting = [] := by
  induction greetings generalizing sent c with
  | nil =>
    obtain rfl : c = c' := (EStateM.Result.ok.inj hgreet).2
    simpa using ⟨h, hwaiting⟩
  | cons greeting rest ih =>
    simp only [Channel.greet, Step.bind_apply] at hgreet
    rcases h.exchange hwaiting greeting.command.words with
      ⟨error, c₁, hfail, -⟩ | ⟨c₁, hok, h₁, hwaiting₁⟩
    · simp [hfail] at hgreet
    · rw [hok] at hgreet
      dsimp only at hgreet
      cases haccept : greeting.accept (peer.answer (sent ++ [greeting.command.words])) with
      | error error => simp [haccept] at hgreet
      | ok _ =>
        rw [haccept, Step.ofExcept_ok_apply] at hgreet
        have hrest := ih h₁ hwaiting₁ hgreet
        simpa using hrest

/-- **An opened client is aligned.** The server has answered the greetings. -/
theorem aligned_of_connect {peer : Peer S} {config : Config} {net dialled opened : N} {stream : S}
    {client : WireClient S}
    (hdial : Network.dial config.node config.connectTimeout net = (.ok stream, dialled))
    (hheard : peer.heard stream = []) (htold : peer.told stream = [])
    (hconnect : connect config net = (.ok client, opened)) :
    Aligned peer (config.greetings.map fun greeting => greeting.command.words) [] client := by
  simp only [connect, hdial] at hconnect
  split at hconnect
  · simp at hconnect
  · split at hconnect
    · rename_i channel hgreet
      obtain ⟨hstep, hwaiting⟩ := inStep_of_greet (.fresh hheard htold _ _) rfl hgreet
      simp only [Prod.mk.injEq, Except.ok.injEq] at hconnect
      obtain ⟨rfl, -⟩ := hconnect
      exact ⟨rfl, hwaiting, by simpa using hstep⟩
    · simp at hconnect

/-- **No reply is handed to the wrong command.** A client is opened over a
stream that leads to a server, and used by any calls. Whatever the stream makes
of its reads and writes, the trace is orderly: every command that is run, and
every command that was kept back when a sync succeeds, is given the reply to
itself, an error reply leaves the client usable, and the first call that loses
the place in the stream leaves it broken and is the last that touches the
stream. -/
theorem connect_trace_orderly (peer : Peer S) {config : Config} {net dialled opened : N}
    {stream : S} {client : WireClient S}
    (hdial : Network.dial config.node config.connectTimeout net = (.ok stream, dialled))
    (hheard : peer.heard stream = []) (htold : peer.told stream = [])
    (hconnect : connect config net = (.ok client, opened)) (uses : List Use) :
    Orderly peer.answer (config.greetings.map fun greeting => greeting.command.words) []
      (client, opened) (trace uses (client, opened)) :=
  (aligned_of_connect hdial hheard htold hconnect).trace_orderly opened uses

/-- A server that counts, over a stream that cuts its replies and is late in the
end. -/
theorem connect_trace_orderly_counting :
    let answer : List (List Bytes) → Frame := fun commands => .integer (.ofNat commands.length)
    let ping := Command.ping
    let stream : Rehearsed answer :=
      { commands := List.replicate 4 ping.words
        reads := [.ok 2, .ok 9, .ok 5, .ok 9, .error .late]
        writes := [.ok 3] }
    let config : Config := { node := ⟨"localhost", 6379⟩ }
    let uses : List Use :=
      [.execute ping, .queue ping, .execute ping, .queue ping, .sync, .execute ping, .sync]
    let client : WireClient (Rehearsed answer) :=
      { config, channel := { stream, readTimeout := config.readTimeout } }
    connect config stream = (.ok client, stream) ∧
      Orderly answer [] [] (client, stream) (trace uses (client, stream)) := by
  intro answer ping stream config uses client
  have hconnect : connect config stream = (.ok client, stream) := rfl
  have hsafe : ∀ commands, (answer commands).LineSafe := fun _ => trivial
  exact ⟨hconnect, connect_trace_orderly (Rehearsed.peer hsafe) rfl rfl rfl hconnect uses⟩

end WireClient

end RedisClient
