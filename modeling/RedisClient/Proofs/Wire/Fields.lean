import RedisClient.Proofs.Connection.Fields
import RedisClient.Proofs.Wire.Transition

/-!
# A wire client as its fields

Where a wire client stands says in one word how many commands it keeps back,
whether it is broken and whether it has been released. Here these are fields of
their own (`WireClient.Fields`), and the operations set each of them by itself.
They make a client too, and every one of them is a mirror of the operation of a
wire client. So a client that is broken or released keeps nothing back because
of what the operations do, and the fields of a connection over the fields of a
wire client agree in every state (`WireClient.Fields.agreeing`).
-/

namespace RedisClient

variable {S N α : Type}

namespace WireClient

/-- **A wire client as its fields**, of which none says anything about another. -/
structure Fields (S : Type) where
  /-- What it was opened with. -/
  config : Config
  /-- The channel over the stream. -/
  channel : Channel S
  /-- How many commands are kept back. -/
  queued : Nat := 0
  /-- Whether it has given its stream back. -/
  released : Bool := false
  /-- Whether it has lost its place in the stream. -/
  broken : Bool := false

/-- The fields of a wire client. -/
def fields (client : WireClient S) : Fields S where
  config := client.config
  channel := client.channel
  queued := client.queued
  released := client.isReleased
  broken := client.isBroken

/-- The fields of a wire client, in the same surroundings. -/
def view (s : WireClient S × N) : Fields S × N := (s.1.fields, s.2)

/-! ## Operations -/

namespace Fields

/-- The fields. -/
def look : Step (Fields S × N) (Fields S) := do return (← get).1

/-- Sets fields. -/
def assign (f : Fields S → Fields S) : Step (Fields S × N) Unit :=
  modify fun (client, net) => (f client, net)

/-- Runs a step of the channel. -/
def onChannel (step : Step (Channel S) α) : Step (Fields S × N) α := fun (client, net) =>
  match step client.channel with
  | .ok a channel => .ok a ({ client with channel }, net)
  | .error error channel => .error error ({ client with channel }, net)

/-- Refuses a client that is released or broken. -/
def ensureUsable : Step (Fields S × N) Unit := do
  let client ← look
  if client.released then throw (.misuse (.released client.config.node))
  if client.broken then throw (.misuse (.broken client.config.node))

/-- Runs a step of the channel. A client that loses its place is broken and keeps
nothing back. -/
def guarded (step : Step (Channel S) α) : Step (Fields S × N) α := do
  match ← Step.attempt (onChannel step) with
  | .ok a => return a
  | .error error =>
    if losesPlace error then assign fun client => { client with broken := true, queued := 0 }
    throw error

variable [ByteStream S] [Network S N]

instance : Client (Fields S) N where
  queued := queued
  execute command := do
    ensureUsable
    let count := (← look).queued
    if 0 < count then throw (.misuse (.commandsQueued count))
    let frame ← guarded (Channel.exchange command.words)
    ofExcept frame.toResult
  queue command := do
    ensureUsable
    onChannel (Channel.buffer command.words)
    assign fun client => { client with queued := client.queued + 1 }
  sync := do
    ensureUsable
    let count := (← look).queued
    assign fun client => { client with queued := 0 }
    let frames ← guarded (Channel.collect count)
    return frames.map Frame.toResult
  quit := do
    if (← look).released then return
    assign fun client => { client with released := true }
    assign fun client => { client with queued := 0 }
    if (← look).broken then
      let _ ← Step.attempt (onChannel Channel.shutdown)
    else
      let reply ← onChannel Channel.farewell
      let _ ← ofExcept (reply >>= Frame.toResult)
  openSentinel client node net :=
    let (opened, net) := connect (client.config.forSentinel node) net
    (opened.map fields, net)

end Fields

/-! ## What they mirror -/

/-- A step of the channel is mirrored by itself. -/
theorem mirrors_onChannel (step : Step (Channel S) α) :
    Step.Mirrors (view : WireClient S × N → Fields S × N) (onChannel step)
      (Fields.onChannel step) := by
  rintro ⟨client, net⟩
  simp only [view, onChannel, Fields.onChannel, fields]
  cases step client.channel <;> rfl

/-- A guarded step that loses its place sets two fields. -/
theorem Fields.guarded_apply (step : Step (Channel S) α) (client : Fields S) (net : N) :
    guarded step (client, net) =
      match step client.channel with
      | .ok a channel => .ok a ({ client with channel }, net)
      | .error error channel =>
        if losesPlace error then
          .error error ({ client with channel, queued := 0, broken := true }, net)
        else .error error ({ client with channel }, net) := by
  simp only [guarded, Step.bind_apply, Step.attempt, onChannel]
  cases step client.channel with
  | ok a channel => rfl
  | error error channel =>
    cases hloses : losesPlace error <;> simp only [hloses] <;> rfl

/-- **A guarded step of a client that can be used.** -/
theorem view_guarded (step : Step (Channel S) α) (config : Config) (channel : Channel S)
    (count : Nat) (net : N) :
    Fields.guarded step (view (⟨config, channel, .usable count⟩, net)) =
      Step.viewed view (guarded step (⟨config, channel, .usable count⟩, net)) := by
  rw [view, Fields.guarded_apply, guarded_apply]
  change (match step channel with | .ok a channel => _ | .error error channel => _) = _
  cases step channel with
  | ok a channel => rfl
  | error error channel => cases hloses : losesPlace error <;> simp only [hloses] <;> rfl

variable [ByteStream S] [Network S N]

/-- **Running a command.** -/
theorem mirrors_execute (command : Command) :
    Step.Mirrors (view : WireClient S × N → Fields S × N) (Client.execute command)
      (Client.execute command) := by
  rintro ⟨⟨config, channel, standing⟩, net⟩
  cases standing with
  | usable count =>
    cases count with
    | succ count => rfl
    | zero =>
      change (Fields.guarded (Channel.exchange command.words) >>= fun frame =>
          ofExcept frame.toResult) (view (⟨config, channel, .usable 0⟩, net)) =
        Step.viewed view ((guarded (Channel.exchange command.words) >>= fun frame =>
          ofExcept frame.toResult) (⟨config, channel, .usable 0⟩, net))
      rw [Step.bind_apply, Step.bind_apply, view_guarded]
      cases guarded (Channel.exchange command.words) (⟨config, channel, .usable 0⟩, net) with
      | error error s => rfl
      | ok frame s => exact Step.Mirrors.of_except frame.toResult s
  | broken | released _ => rfl

/-- **Keeping a command back.** -/
theorem mirrors_queue (command : Command) :
    Step.Mirrors (view : WireClient S × N → Fields S × N) (Client.queue command)
      (Client.queue command) := by
  rintro ⟨⟨config, channel, standing⟩, net⟩
  cases standing <;> rfl

/-- **Sending what is kept back.** -/
theorem mirrors_sync :
    Step.Mirrors (view : WireClient S × N → Fields S × N) Client.sync Client.sync := by
  rintro ⟨⟨config, channel, standing⟩, net⟩
  cases standing with
  | usable count =>
    change (List.map Frame.toResult <$> Fields.guarded (Channel.collect count))
        (view (⟨config, channel, .usable 0⟩, net)) =
      Step.viewed view ((List.map Frame.toResult <$> guarded (Channel.collect count))
        (⟨config, channel, .usable 0⟩, net))
    rw [Step.map_apply, Step.map_apply, view_guarded]
    cases guarded (Channel.collect count) (⟨config, channel, .usable 0⟩, net) <;> rfl
  | broken | released _ => rfl

/-- **Giving the stream back.** -/
theorem mirrors_quit :
    Step.Mirrors (view : WireClient S × N → Fields S × N) Client.quit Client.quit := by
  -- what is done once the fields say that the client is released
  have hfarewell : Step.Mirrors (view : WireClient S × N → Fields S × N)
      (do
        let reply ← onChannel Channel.farewell
        let _ ← ofExcept (reply >>= Frame.toResult))
      (do
        let reply ← Fields.onChannel Channel.farewell
        let _ ← ofExcept (reply >>= Frame.toResult)) :=
    .bind (mirrors_onChannel _) fun _ => .bind (.of_except _) fun _ => .of_pure _
  have hshutdown : Step.Mirrors (view : WireClient S × N → Fields S × N)
      (do let _ ← Step.attempt (onChannel Channel.shutdown))
      (do let _ ← Step.attempt (Fields.onChannel Channel.shutdown)) :=
    .bind (mirrors_onChannel _).attempt fun _ => .of_pure _
  rintro ⟨⟨config, channel, standing⟩, net⟩
  cases standing with
  | usable count => exact hfarewell (⟨config, channel, .released false⟩, net)
  | broken => exact hshutdown (⟨config, channel, .released true⟩, net)
  | released _ => rfl

omit [ByteStream S] [Network S N] in
/-- Fields of which a client that is broken or released keeps nothing back are those
of a wire client, and no others are. -/
theorem exists_fields_eq {client : Fields S} :
    (∃ original : WireClient S, original.fields = client) ↔
      (client.broken = true ∨ client.released = true → client.queued = 0) := by
  constructor
  · rintro ⟨⟨config, channel, standing⟩, rfl⟩
    cases standing <;> simp [fields, queued, isBroken, isReleased]
  · obtain ⟨config, channel, count, released, broken⟩ := client
    intro hnone
    cases released with
    | true =>
      obtain rfl : count = 0 := hnone (.inr rfl)
      exact ⟨⟨config, channel, .released broken⟩, rfl⟩
    | false =>
      cases broken with
      | true =>
        obtain rfl : count = 0 := hnone (.inl rfl)
        exact ⟨⟨config, channel, .broken⟩, rfl⟩
      | false => exact ⟨⟨config, channel, .usable count⟩, rfl⟩

/-! ## Every state -/

namespace Fields

/-- The client keeps as many commands back as there are of these, which are none
if it is broken or released. -/
def Holds (kept : List Command) (client : Fields S) : Prop :=
  client.queued = kept.length ∧
    (client.broken = true ∨ client.released = true → client.queued = 0)

omit [ByteStream S] [Network S N] in
/-- The same said of a wire client with these fields. -/
theorem holds_iff {kept : List Command} {client : Fields S} :
    Holds kept client ↔
      ∃ original : WireClient S, original.fields = client ∧ original.queued = kept.length := by
  rw [Holds, ← exists_fields_eq]
  constructor
  · rintro ⟨hcount, original, rfl⟩
    exact ⟨original, rfl, hcount⟩
  · rintro ⟨original, rfl, hcount⟩
    exact ⟨hcount, original, rfl⟩

/-- What a mirror leaves holds as much as what the step leaves. -/
theorem holds_left {step : Step (WireClient S × N) α} {mirror : Step (Fields S × N) α}
    (h : Step.Mirrors view step mirror) {kept : List Command} {original : WireClient S} {net : N}
    (hcount : Client.Holds kept (Step.left step (original, net)).1) :
    Holds kept (Step.left mirror (original.fields, net)).1 :=
  holds_iff.2 ⟨_, (congrArg Prod.fst (h.left (original, net))).symm, hcount⟩

/-- **The fields keep count**, and none are kept back by a client that is broken or
released. -/
theorem keeping :
    Client.Keeping (E := N) (Holds : List Command → Fields S → Prop) (Holds []) where
  execute command net h := by
    obtain ⟨original, rfl, hcount⟩ := holds_iff.1 h
    exact holds_left (mirrors_execute command) (counts.keeping.execute command net hcount)
  queue_ok {_ _ _ command net _} h hqueue := by
    obtain ⟨original, rfl, hcount⟩ := holds_iff.1 h
    obtain ⟨⟨client, net⟩, hok, hview⟩ :=
      (mirrors_queue command).ok_of_mirror (original, net) hqueue
    obtain ⟨rfl, -⟩ := Prod.mk.inj hview
    exact holds_iff.2 ⟨client, rfl, counts.keeping.queue_ok hcount hok⟩
  queue_error {_ _ _ command net _ _} h hqueue := by
    obtain ⟨original, rfl, hcount⟩ := holds_iff.1 h
    obtain ⟨⟨client, net⟩, herror, hview⟩ :=
      (mirrors_queue command).error_of_mirror (original, net) hqueue
    obtain ⟨rfl, -⟩ := Prod.mk.inj hview
    exact holds_iff.2 ⟨client, rfl, counts.keeping.queue_error hcount herror⟩
  sync net h := by
    obtain ⟨original, rfl, hcount⟩ := holds_iff.1 h
    exact holds_left mirrors_sync (counts.keeping.sync net hcount)
  quit net h := by
    obtain ⟨original, rfl, hcount⟩ := holds_iff.1 h
    exact holds_left mirrors_quit (counts.keeping.quit net hcount)

/-- **Both kinds of fields agree in every state.** Whatever is done with a
connection over a wire client that keeps nothing back to begin with, nothing
waits in the direct mode, a closed connection is in the direct mode, as many
readings wait as the client keeps commands back, and a client that is broken or
released keeps none back. -/
theorem agreeing {client : Fields S} (hnew : Holds [] client) {c : Connection.Fields (Fields S)}
    (h : Connection.Fields.Reached (E := N) client c) :
    (c.mode = .direct → c.pending = []) ∧ (c.closed = true → c.mode = .direct) ∧
      c.pending.length = c.client.queued ∧
      (c.client.broken = true ∨ c.client.released = true → c.client.queued = 0) := by
  obtain ⟨hpending, hmode, kept, ⟨hcount, hnone⟩, hlength⟩ := h.agreeing_of_keeping keeping hnew
  exact ⟨hpending, hmode, hlength.trans hcount.symm, hnone⟩

end Fields

end WireClient

end RedisClient
