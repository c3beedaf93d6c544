import RedisClient.Client.Wire
import RedisClient.Proofs.Step

/-!
# What a wire client does

Each operation of a wire client as one equation, by where the client stands:
what its channel is asked to do and what becomes of the client. A broken or
released client refuses everything and is left as it is.
-/

namespace RedisClient

/-- Sends what waits and reads as many replies. -/
def Channel.collect {S : Type} [ByteStream S] (count : Nat) : Step (Channel S) (List Frame) := do
  flush
  receiveMany count

/-- Says goodbye behind what waits, reads a reply, whatever comes of that, and
ends writing. -/
def Channel.farewell {S : Type} [ByteStream S] : Step (Channel S) (Except Error Frame) := do
  send (Command.named "QUIT").words
  let reply ← Step.attempt receive
  shutdown
  return reply

namespace WireClient

variable {S N α : Type}

/-- A client that cannot be used says why. -/
theorem ensureUsable_apply (client : WireClient S) (net : N) :
    ensureUsable (client, net) =
      match client.standing with
      | .usable count => .ok count (client, net)
      | .broken => .error (.misuse (.broken client.config.node)) (client, net)
      | .released _ => .error (.misuse (.released client.config.node)) (client, net) := by
  simp only [ensureUsable, Step.bind_apply, Step.get_apply]
  cases client.standing <;> rfl

/-- A guarded step that loses its place leaves the client broken. -/
theorem guarded_apply (step : Step (Channel S) α) (client : WireClient S) (net : N) :
    guarded step (client, net) =
      match step client.channel with
      | .ok a channel => .ok a ({ client with channel }, net)
      | .error error channel =>
        .error error ({ client with
          channel
          standing := if losesPlace error then .broken else client.standing }, net) := by
  simp only [guarded, Step.bind_apply, Step.attempt, onChannel]
  cases step client.channel with
  | ok a channel => rfl
  | error error channel =>
    cases hloses : losesPlace error <;> simp only [hloses] <;> rfl

variable [ByteStream S] [Network S N]

/-- A command runs if none is kept back, and an error reply is its failure. -/
theorem execute_apply (command : Command) (client : WireClient S) (net : N) :
    Client.execute command (client, net) =
      match client.standing with
      | .usable 0 =>
        match Channel.exchange command.words client.channel with
        | .ok frame channel =>
          match frame.toResult with
          | .ok frame => .ok frame ({ client with channel }, net)
          | .error error => .error error ({ client with channel }, net)
        | .error error channel =>
          .error error ({ client with
            channel
            standing := if losesPlace error then .broken else .usable 0 }, net)
      | .usable (count + 1) => .error (.misuse (.commandsQueued (count + 1))) (client, net)
      | .broken => .error (.misuse (.broken client.config.node)) (client, net)
      | .released _ => .error (.misuse (.released client.config.node)) (client, net) := by
  simp only [Client.execute, Step.bind_apply, ensureUsable_apply]
  cases hstanding : client.standing with
  | usable count =>
    cases count with
    | zero =>
      simp only [ne_eq, not_true, if_false, Step.bind_apply, guarded_apply]
      cases Channel.exchange command.words client.channel with
      | ok frame channel =>
        dsimp only
        cases frame.toResult <;> simp only [Step.ofExcept_ok_apply, Step.ofExcept_error_apply,
          hstanding]
      | error error channel => simp only [hstanding]
    | succ count => rfl
  | broken => rfl
  | released broken => rfl

/-- A command is kept back behind the others. -/
theorem queue_apply (command : Command) (client : WireClient S) (net : N) :
    Client.queue command (client, net) =
      match client.standing with
      | .usable count =>
        .ok () ({ client with
          channel := { client.channel with
            encoder := client.channel.encoder.addWords command.words }
          standing := .usable (count + 1) }, net)
      | .broken => .error (.misuse (.broken client.config.node)) (client, net)
      | .released _ => .error (.misuse (.released client.config.node)) (client, net) := by
  simp only [Client.queue, Step.bind_apply, ensureUsable_apply]
  cases client.standing <;> rfl

/-- What is kept back is sent, and as many replies are read. -/
theorem sync_apply (client : WireClient S) (net : N) :
    (Client.sync : Step (WireClient S × N) (List (Except Error Frame))) (client, net) =
      match client.standing with
      | .usable count =>
        match Channel.collect count client.channel with
        | .ok frames channel =>
          .ok (frames.map Frame.toResult) ({ client with channel, standing := .usable 0 }, net)
        | .error error channel =>
          .error error ({ client with
            channel
            standing := if losesPlace error then .broken else .usable 0 }, net)
      | .broken => .error (.misuse (.broken client.config.node)) (client, net)
      | .released _ => .error (.misuse (.released client.config.node)) (client, net) := by
  simp only [Client.sync, Step.bind_apply, ensureUsable_apply]
  cases client.standing with
  | usable count =>
    have hcollect : (do Channel.flush; Channel.receiveMany count : Step (Channel S) _) =
        Channel.collect count := rfl
    simp only [stand, Step.modify_apply, guarded_apply, hcollect]
    cases Channel.collect count client.channel <;> rfl
  | broken => rfl
  | released broken => rfl

/-- **Giving the stream back.** A client that can be used says goodbye first,
behind whatever it keeps back, and the first reply to come is what it goes by. -/
theorem quit_apply (client : WireClient S) (net : N) :
    (Client.quit : Step (WireClient S × N) Unit) (client, net) =
      match client.standing with
      | .usable _ =>
        match Channel.farewell client.channel with
        | .ok reply channel =>
          match reply >>= Frame.toResult with
          | .ok _ => .ok () ({ client with channel, standing := .released false }, net)
          | .error error =>
            .error error ({ client with channel, standing := .released false }, net)
        | .error error channel =>
          .error error ({ client with channel, standing := .released false }, net)
      | .broken =>
        .ok () ({ client with
          channel := Step.left Channel.shutdown client.channel
          standing := .released true }, net)
      | .released _ => .ok () (client, net) := by
  simp only [Client.quit, Step.bind_apply, Step.get_apply]
  cases client.standing with
  | usable count =>
    have hfarewell : (do
        Channel.send (Command.named "QUIT").words
        let reply ← Step.attempt Channel.receive
        Channel.shutdown
        return reply : Step (Channel S) (Except Error Frame)) = Channel.farewell := rfl
    simp only [stand, Step.bind_apply, Step.modify_apply, onChannel, hfarewell]
    cases Channel.farewell client.channel with
    | error error channel => rfl
    | ok reply channel =>
      dsimp only
      cases reply >>= Frame.toResult <;> rfl
  | broken =>
    simp only [stand, Step.bind_apply, Step.modify_apply, Step.attempt_apply, onChannel, Step.left,
      Step.outcome]
    cases Channel.shutdown client.channel <;> rfl
  | released broken => rfl

end WireClient

end RedisClient
