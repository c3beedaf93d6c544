import RedisClient.Proofs.Connection.Reach
import RedisClient.Proofs.Wire.Alignment

/-!
# Closing a connection

A connection that is closed forgets what waits on it, but its wire client does
not: the commands are in the encoder, and the goodbye is written behind them.
So the server hears the commands that were to be discarded, and the first reply
to come, by which the outcome of closing is decided, is the reply to the first
of them (`Connection.close_sends_waiting`). Only where nothing waits is the
goodbye all that is written.
-/

namespace RedisClient

open WireClient (losesPlace)

variable {S N : Type} [ByteStream S]

/-- The command that says goodbye. -/
def Command.goodbye : Command := .named "QUIT"

/-- The wire forms of commands are those of their words. -/
theorem Command.flatMap_encode (commands : List Command) :
    commands.flatMap encode = (commands.map words).flatMap Frame.encodeWords := by
  rw [List.flatMap_map]
  rfl

/-! ## What a channel sends -/

namespace Channel

variable (peer : Peer S)

/-- Receiving sends nothing. -/
theorem heard_receive (c : Channel S) :
    peer.heard (Step.left receive c).stream = peer.heard c.stream := by
  induction hmeasure : c.decoder.limit + 1 - c.decoder.buffer.length using Nat.strongRecOn
    generalizing c with
  | ind measure ih =>
    rcases hdecode : c.decoder.decode with ⟨fault | _ | frame, d⟩
    · rw [Step.left_of_error (receive_of_fault hdecode)]
    · -- more bytes are needed, and reading them is all that the stream is asked
      cases hread : ByteStream.read c.readTimeout readSize c.stream with
      | error fault stream =>
        rw [Step.left_of_error (receive_of_read_fault hdecode hread)]
        exact peer.read_error hread
      | ok bytes stream =>
        have hheard := (peer.read_ok hread).1
        cases bytes with
        | nil =>
          rw [Step.left_of_error (receive_of_end hdecode hread)]
          exact hheard
        | cons first more =>
          obtain ⟨hlimit, hbuffer, hroom⟩ := Decoder.keeps_of_decode_none hdecode
          have hrest := ih _ (by
            rw [← hmeasure]
            simp only [Decoder.append, hlimit, hbuffer, List.length_append, List.length_cons]
            omega) { c with stream, decoder := d.append (first :: more) } rfl
          simp only [Step.left, Step.outcome, receive_of_read hdecode hread] at hrest ⊢
          rw [hrest]
          exact hheard
    · rw [Step.left_of_ok (receive_of_frame hdecode)]

/-- Flushing sends what waits, or a beginning of it. -/
theorem heard_flush (c : Channel S) :
    ∃ written, written <+: c.encoder.waiting ∧
      peer.heard (Step.left flush c).stream = peer.heard c.stream ++ written := by
  have hflush := flush_apply c
  by_cases hempty : c.encoder.waiting.isEmpty = true
  · rw [if_pos hempty] at hflush
    rw [Step.left_of_ok hflush]
    exact ⟨[], List.nil_prefix, (List.append_nil _).symm⟩
  · rw [if_neg hempty] at hflush
    cases hwrite : ByteStream.writeAll c.writeTimeout c.encoder.waiting c.stream with
    | error fault stream =>
      rw [hwrite] at hflush
      rw [Step.left_of_error hflush]
      exact peer.writeAll_error _ _ hwrite
    | ok _ stream =>
      obtain ⟨hheard, -⟩ := peer.writeAll_ok _ _ hwrite
      refine ⟨c.encoder.waiting, List.prefix_refl _, ?_⟩
      rw [← hheard]
      cases hsent : ByteStream.flush c.writeTimeout stream with
      | error fault stream' =>
        simp only [hwrite, hsent] at hflush
        rw [Step.left_of_error hflush]
        exact peer.flush_error hsent
      | ok _ stream' =>
        simp only [hwrite, hsent] at hflush
        rw [Step.left_of_ok hflush]
        exact (peer.flush_ok hsent).1

/-- Ending writing sends nothing. -/
theorem heard_shutdown (c : Channel S) :
    peer.heard (Step.left shutdown c).stream = peer.heard c.stream := by
  simp only [Step.left, Step.outcome, shutdown]
  cases hshutdown : (ByteStream.shutdown : EStateM IoFailure S Unit) c.stream with
  | error failure stream => exact peer.shutdown_error hshutdown
  | ok _ stream => exact peer.shutdown_ok hshutdown

/-- A stream that does not end writing has failed. -/
theorem losesPlace_of_shutdown {c c' : Channel S} {error : Error}
    (h : shutdown c = .error error c') : losesPlace error = true := by
  unfold shutdown at h
  split at h
  · simp at h
  · obtain ⟨rfl, -⟩ := EStateM.Result.error.inj h
    rfl

/-- Sending a command sends it behind what waits, or a beginning of that. -/
theorem heard_send (words : List Bytes) (c : Channel S) :
    ∃ written, written <+: c.encoder.waiting ++ Frame.encodeWords words ∧
      peer.heard (Step.left (send words) c).stream = peer.heard c.stream ++ written :=
  heard_flush peer { c with encoder := c.encoder.addWords words }

/-- **Saying goodbye** sends the goodbye behind what waits, or a beginning of
that, whatever goes wrong. -/
theorem heard_farewell (c : Channel S) :
    ∃ written, written <+: c.encoder.waiting ++ Command.goodbye.encode ∧
      peer.heard (Step.left farewell c).stream = peer.heard c.stream ++ written := by
  obtain ⟨written, hpre, hheard⟩ := heard_send peer Command.goodbye.words c
  refine ⟨written, hpre, ?_⟩
  rw [← hheard]
  cases hsend : send Command.goodbye.words c with
  | error error c₁ =>
    have hleft : farewell c = .error error c₁ := by
      change (send Command.goodbye.words >>= _) c = _
      rw [Step.bind_apply, hsend]
    rw [Step.left_of_error hleft, Step.left_of_error hsend]
  | ok _ c₁ =>
    have hgone : Step.left farewell c = Step.left shutdown (Step.left receive c₁) := by
      change Step.left (send Command.goodbye.words >>= _) c = _
      simp only [Step.left, Step.outcome, Step.bind_apply, hsend, Step.attempt_apply]
      cases receive c₁ with
      | error error c₂ => dsimp only; cases shutdown c₂ <;> rfl
      | ok frame c₂ => dsimp only; cases shutdown c₂ <;> rfl
    rw [hgone, Step.left_of_ok hsend, heard_shutdown, heard_receive]

/-- **In step, the first reply to come** is the reply to the first command that
is sent, be it one of those that wait or the goodbye. -/
theorem InStep.farewell {peer : Peer S} {sent waiting : List (List Bytes)} {c : Channel S}
    (h : InStep peer sent sent c)
    (hwaiting : c.encoder.waiting = waiting.flatMap Frame.encodeWords) :
    (∃ error c', Channel.farewell c = .error error c' ∧ losesPlace error = true) ∨
      (∃ error c', Channel.farewell c = .ok (.error error) c' ∧ losesPlace error = true) ∨
      ∃ c', Channel.farewell c =
          .ok (.ok (peer.answer (sent ++ [waiting.headD Command.goodbye.words]))) c' ∧
        peer.heard c'.stream =
          peer.heard c.stream ++
            (waiting ++ [Command.goodbye.words]).flatMap Frame.encodeWords := by
  have hline : (c.encoder.addWords Command.goodbye.words).waiting =
      (waiting ++ [Command.goodbye.words]).flatMap Frame.encodeWords := by
    simp [Encoder.addWords, hwaiting]
  have h₀ : InStep peer sent sent { c with encoder := c.encoder.addWords Command.goodbye.words } :=
    h.congr rfl rfl
  have hfarewell : Channel.farewell c =
      (Channel.flush >>= fun _ => Step.attempt Channel.receive >>= fun reply =>
        Channel.shutdown >>= fun _ => pure reply)
        { c with encoder := c.encoder.addWords Command.goodbye.words } := rfl
  have hfirst : sent ++ [waiting.headD Command.goodbye.words] <+:
      sent ++ (waiting ++ [Command.goodbye.words]) := by
    rw [List.prefix_append_right_inj]
    cases waiting <;> simp
  rw [hfarewell, Step.bind_apply]
  rcases h₀.flush hline with ⟨error, c₁, hfail, hloses⟩ | ⟨c₁, hok, h₁, -⟩
  · exact .inl ⟨error, c₁, by rw [hfail], hloses⟩
  · rw [hok]
    simp only [Step.bind_apply, Step.attempt_apply]
    rcases h₁.receive hfirst with ⟨error, c₂, hfail, hloses⟩ | ⟨c₂, hok₂, h₂, -⟩
    · rw [hfail]
      dsimp only
      cases hshutdown : Channel.shutdown c₂ with
      | error error c₃ => exact .inl ⟨error, c₃, rfl, losesPlace_of_shutdown hshutdown⟩
      | ok _ c₃ => exact .inr (.inl ⟨error, c₃, rfl, hloses⟩)
    · rw [hok₂]
      dsimp only
      cases hshutdown : Channel.shutdown c₂ with
      | error error c₃ => exact .inl ⟨error, c₃, rfl, losesPlace_of_shutdown hshutdown⟩
      | ok _ c₃ =>
        refine .inr (.inr ⟨c₃, rfl, ?_⟩)
        have hheard := heard_shutdown peer c₂
        rw [Step.left_of_ok hshutdown] at hheard
        rw [hheard, h₂.heard_eq, h.heard_eq, List.flatMap_append]

end Channel

/-! ## What a wire client keeps back -/

namespace WireClient

variable [Network S N] {peer : Peer S} {kept : List Command} {client : WireClient S}

/-- **In use.** A client that has not been given back either is aligned with the
server and keeps the commands back, or is broken. -/
def InUse (peer : Peer S) (kept : List Command) (client : WireClient S) : Prop :=
  (∃ sent, Aligned peer sent (kept.map Command.words) client) ∨ client.standing = .broken

/-- A client in use that is not broken is aligned. -/
theorem InUse.aligned (h : InUse peer kept client) (hworks : client.isBroken = false) :
    ∃ sent, Aligned peer sent (kept.map Command.words) client := by
  refine h.resolve_right fun hbroken => ?_
  simp [isBroken, hbroken] at hworks

/-- Running a command changes nothing about what is kept back. -/
theorem InUse.execute (h : InUse peer kept client) (net : N) (command : Command) :
    InUse peer kept ((Use.execute command).step.outcome (client, net)).2.1 := by
  rcases h with ⟨sent, h⟩ | hbroken
  · by_cases hkept : kept = []
    · subst hkept
      rcases h.execute net command with ⟨error, client', hout, -, hbroken⟩ | ⟨client', hout, h'⟩
      · rw [hout]
        exact .inr hbroken
      · rw [hout]
        exact .inl ⟨_, h'⟩
    · rw [h.execute_refused (by simpa using hkept)]
      exact .inl ⟨sent, h⟩
  · rw [outcome_of_broken hbroken]
    exact .inr hbroken

/-- A command is kept back if it is accepted. -/
theorem InUse.queue (h : InUse peer kept client) (net : N) (command : Command) :
    match (Use.queue command).step.outcome (client, net) with
    | (.ok _, client', _) => InUse peer (kept ++ [command]) client'
    | (.error _, client', _) => InUse peer kept client' := by
  rcases h with ⟨sent, h⟩ | hbroken
  · obtain ⟨client', hout, h'⟩ := h.queue net command
    rw [hout]
    exact .inl ⟨sent, by simpa using h'⟩
  · rw [outcome_of_broken hbroken]
    exact .inr hbroken

/-- After a sync nothing is. -/
theorem InUse.sync (h : InUse peer kept client) (net : N) :
    InUse peer [] (Use.sync.step.outcome (client, net)).2.1 := by
  rcases h with ⟨sent, h⟩ | hbroken
  · rcases h.sync net with ⟨error, client', hout, -, hbroken⟩ | ⟨client', hout, h'⟩
    · rw [hout]
      exact .inr hbroken
    · rw [hout]
      exact .inl ⟨_, h'⟩
  · rw [outcome_of_broken hbroken]
    exact .inr hbroken

/-- **A wire client keeps count** of what it keeps back, as long as it is in
use. -/
theorem keeping (peer : Peer S) :
    Client.Keeping (C := WireClient S) (E := N) (InUse peer) fun _ => True where
  execute command net h := h.execute net command
  queue_ok {_ _ _ command net _} h hqueue := by
    have hkept := h.queue net command
    have hout : (Use.queue command).step.outcome _ = _ := Step.outcome_of_ok hqueue
    rwa [hout] at hkept
  queue_error {_ _ _ command net _ _} h hqueue := by
    have hkept := h.queue net command
    have hout : (Use.queue command).step.outcome _ = _ := Step.outcome_of_error hqueue
    rwa [hout] at hkept
  sync net h := h.sync net
  quit _ _ := trivial

end WireClient

/-! ## Closing -/

namespace Connection

variable [Network S N]

/-- A settled connection that is not closed has its client hold back what
waits. -/
theorem Settled.held {C : Type} {held : List Command → C → Prop} {gone : C → Prop}
    {c : Connection C} {kept : List Command} (h : c.Settled held gone kept)
    (hopen : c.isClosed = false) : held kept c.client ∧ c.phase ≠ .closed := by
  cases hphase : c.phase with
  | direct =>
    obtain ⟨hheld, rfl⟩ := (settled_direct hphase).1 h
    exact ⟨hheld, by simp⟩
  | pipelined pending => exact ⟨((settled_pipelined hphase).1 h).1, by simp⟩
  | closed => simp [isClosed, hphase] at hopen

/-- **Closing says goodbye** if the client can be used, and goes by the first
reply to come. -/
theorem outcome_close {c : Connection (WireClient S)} {count : Nat} (hphase : c.phase ≠ .closed)
    (hstanding : c.client.standing = .usable count) (env : N) :
    Step.outcome close (c, env) =
      (((Step.outcome Channel.farewell c.client.channel).1 >>= (· >>= Frame.toResult)).map
          fun _ => (),
        ({ c with
          client := { c.client with
            channel := Step.left Channel.farewell c.client.channel
            standing := .released false }
          phase := .closed }, env)) := by
  simp only [Step.outcome, Step.left, close_apply, WireClient.quit_apply, hstanding]
  cases hc : c.phase with
  | closed => exact absurd hc hphase
  | direct | pipelined _ =>
    cases Channel.farewell c.client.channel with
    | error error channel => rfl
    | ok reply channel =>
      cases reply with
      | error error => rfl
      | ok frame =>
        dsimp only
        cases hresult : frame.toResult <;> simp [bind, Except.bind, Except.map, hresult]

/-- **What closing a connection sends.** A client is opened over a stream that
leads to a server, and a connection on it has come to any state in which it is
open and its client not broken. Closing writes the commands that wait and the
goodbye behind them, or a beginning of that where the stream fails. Unless the
stream fails, it is the goodbye alone exactly if nothing waits, and the outcome
is decided by the reply to the first command that was written. -/
theorem close_sends_waiting (peer : Peer S) {config : Config} {net dialled opened : N} {stream : S}
    {client : WireClient S}
    (hdial : Network.dial config.node config.connectTimeout net = (.ok stream, dialled))
    (hheard : peer.heard stream = []) (htold : peer.told stream = [])
    (hconnect : WireClient.connect config net = (.ok client, opened))
    {c : Connection (WireClient S)} {kept : List Command}
    (hreached : Reached (E := N) client c kept)
    (hopen : c.isClosed = false) (hworks : c.client.isBroken = false) (env : N) :
    ∃ sent outcome after written,
      Step.outcome close (c, env) = (outcome, (after, env)) ∧
      peer.heard c.client.channel.stream = sent.flatMap Frame.encodeWords ∧
      peer.heard after.client.channel.stream = peer.heard c.client.channel.stream ++ written ∧
      written <+: (kept ++ [Command.goodbye]).flatMap Command.encode ∧
      ((∃ error, outcome = .error error ∧ losesPlace error = true) ∨
        written = (kept ++ [Command.goodbye]).flatMap Command.encode ∧
          (written = Command.goodbye.encode ↔ kept = []) ∧
          outcome = (peer.answer (sent ++ [(kept.headD .goodbye).words])).toResult.map
            fun _ => ()) := by
  -- what waits on the connection is what its client holds back, and that is in the encoder
  have haligned := WireClient.aligned_of_connect hdial hheard htold hconnect
  obtain ⟨hheld, hphase⟩ := (hreached.settled (WireClient.keeping peer)
    (.inl ⟨_, haligned⟩)).held hopen
  obtain ⟨sent, h⟩ := hheld.aligned hworks
  obtain ⟨written, hpre, hwritten⟩ := Channel.heard_farewell peer c.client.channel
  have hwords : (kept.map Command.words ++ [Command.goodbye.words]).flatMap Frame.encodeWords =
      (kept ++ [Command.goodbye]).flatMap Command.encode := by
    rw [Command.flatMap_encode, List.map_append]
    rfl
  have hline : c.client.channel.encoder.waiting ++ Command.goodbye.encode =
      (kept ++ [Command.goodbye]).flatMap Command.encode := by
    rw [h.waiting_eq, ← hwords, List.flatMap_append]
    simp [Command.encode]
  have hfirst : (kept.map Command.words).headD Command.goodbye.words =
      (kept.headD .goodbye).words := by
    cases kept <;> rfl
  rw [hline] at hpre
  refine ⟨sent, _, _, written, outcome_close hphase h.standing_eq env, h.inStep.heard_eq, hwritten,
    hpre, ?_⟩
  rcases h.inStep.farewell h.waiting_eq with ⟨error, c', hfail, hloses⟩ |
    ⟨error, c', hfail, hloses⟩ | ⟨c', hok, hall⟩
  · rw [Step.outcome_of_error hfail]
    exact .inl ⟨error, rfl, hloses⟩
  · rw [Step.outcome_of_ok hfail]
    exact .inl ⟨error, rfl, hloses⟩
  · rw [Step.left_of_ok hok, hall, hwords] at hwritten
    have hwhole := List.append_cancel_left hwritten
    refine .inr ⟨hwhole.symm, ?_, ?_⟩
    · rw [← hwhole]
      constructor
      -- every command takes up bytes, so none stands before the goodbye
      · intro halone
        rw [List.flatMap_append, List.flatMap_singleton, List.append_left_eq_self,
          List.flatMap_eq_nil_iff] at halone
        exact List.eq_nil_iff_forall_not_mem.2 fun command hmem =>
          Frame.encodeWords_ne_nil command.words (halone command hmem)
      · rintro rfl
        simp
    · rw [Step.outcome_of_ok hok, hfirst]
      rfl

/-- A command that waits as the connection is closed is heard before the
goodbye, and the error that the server replies to it is the outcome. -/
theorem close_sends_waiting_set :
    let answer : List (List Bytes) → Frame := fun commands =>
      if commands.length = 1 then .error [69] else .simple [79, 75]
    let set := Request.set [97] [49]
    let stream : Rehearsed answer :=
      { commands := [set.command.words, Command.goodbye.words], reads := [.ok 100] }
    let config : Config := { node := ⟨"localhost", 6379⟩ }
    let client : WireClient (Rehearsed answer) :=
      { config, channel := { stream, readTimeout := config.readTimeout } }
    let c := Act.perform (Act.perform { client } stream .openPipeline) stream (.request set)
    (WireClient.connect config stream = (.ok client, stream) ∧
        Reached (E := Rehearsed answer) client c [set.command] ∧
        c.isClosed = false ∧ c.client.isBroken = false) ∧
      ∃ after,
        Step.outcome close (c, stream) = (.error (.ofLine [69]), (after, stream)) ∧
        c.client.channel.stream.heard = [] ∧
        after.client.channel.stream.heard = set.command.encode ++ Command.goodbye.encode := by
  intro answer set stream config client c
  have hconnect : WireClient.connect config stream = (.ok client, stream) := rfl
  have hreached : Reached (E := Rehearsed answer) client c [set.command] :=
    .act (.request set) stream (.act .openPipeline stream (.opened none))
  have hsafe : ∀ commands, (answer commands).LineSafe := by
    intro commands
    by_cases h : commands.length = 1
    · simp only [answer, if_pos h]
      change ¬ lineEnd <:+: [69]
      decide
    · simp only [answer, if_neg h]
      change ¬ lineEnd <:+: [79, 75]
      decide
  refine ⟨⟨hconnect, hreached, rfl, rfl⟩, ?_⟩
  obtain ⟨sent, outcome, after, written, hclose, hheard, hafter, -, hends⟩ :=
    close_sends_waiting (Rehearsed.peer hsafe) rfl rfl rfl hconnect hreached rfl rfl stream
  -- the outcome is computed: it is no error that the stream has failed with
  have hplace : ¬ ∃ error, outcome = .error error ∧ losesPlace error = true := by
    have hcaught : ((Step.outcome close (c, stream)).1.tryCatch fun error =>
        if losesPlace error then throw error else pure ()).toBool = true := by
      decide +kernel
    rintro ⟨error, rfl, hloses⟩
    rw [hclose] at hcaught
    change (if losesPlace error then throw error else pure () : Except Error Unit).toBool = true
      at hcaught
    rw [if_pos hloses] at hcaught
    exact Bool.false_ne_true hcaught
  obtain ⟨hwritten, -, houtcome⟩ := hends.resolve_left hplace
  have hnone : sent = [] := by
    cases sent with
    | nil => rfl
    | cons words rest =>
      rw [List.flatMap_cons] at hheard
      exact absurd (List.append_eq_nil_iff.1 hheard.symm).1 (Frame.encodeWords_ne_nil words)
  subst hnone
  refine ⟨after, ?_, hheard, ?_⟩
  · rw [hclose, houtcome]
    rfl
  · rw [hwritten] at hafter
    exact hafter

end Connection

end RedisClient
