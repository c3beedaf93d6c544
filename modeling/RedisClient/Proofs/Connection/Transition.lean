import RedisClient.Connection
import RedisClient.Proofs.Step

/-!
# What a connection's steps do

Every step of a connection as one equation: for each phase the client call that
is made, if any, the answer, and the connection that is left. Whatever is said
of runs of connections is derived from these, and nothing else unfolds a step.
-/

namespace RedisClient

/-- **What runs directly may not wait**, by the table of the operations; what is
dispatched may. -/
theorem Request.route_eq_direct_iff (request : Request) :
    request.route = .direct ↔ request.operation.support = .unsupported := by
  cases request <;> simp [route, operation, Operation.support]

namespace Connection

variable {C E α : Type} (c : Connection C) (env : E)

/-- Looking at the phase changes nothing. -/
@[simp] theorem getPhase_apply :
    (getPhase : Step (Connection C × E) Phase) (c, env) = .ok c.phase (c, env) := rfl

/-- Going over to a phase changes the phase. -/
@[simp] theorem enter_apply (phase : Phase) :
    (enter phase : Step (Connection C × E) Unit) (c, env) = .ok () ({ c with phase }, env) := rfl

/-- A step of the client leaves the phase and the sentinels as they are. -/
@[simp] theorem onClient_apply (step : Step (C × E) α) :
    onClient step (c, env) =
      match step (c.client, env) with
      | .ok a (client, env) => .ok a ({ c with client }, env)
      | .error e (client, env) => .error e ({ c with client }, env) := rfl

/-- Only a closed connection is refused for not being open. -/
theorem ensureOpen_apply :
    (ensureOpen : Step (Connection C × E) Unit) (c, env) =
      match c.phase with
      | .direct | .pipelined _ => .ok () (c, env)
      | .closed => .error (.misuse .connectionClosed) (c, env) := by
  simp only [ensureOpen, Step.bind_apply, getPhase_apply]
  cases c.phase <;> rfl

/-- A permit depends on the phase and, while a pipeline is open, on the
operation. -/
theorem permit_apply (operation : Operation) :
    (permit operation : Step (Connection C × E) Unit) (c, env) =
      match c.phase with
      | .direct => .ok () (c, env)
      | .pipelined _ =>
        if operation.support = .unsupported then .error (.unsupported operation) (c, env)
        else .ok () (c, env)
      | .closed => .error (.misuse .connectionClosed) (c, env) := by
  simp only [permit, Step.bind_apply, getPhase_apply]
  cases c.phase with
  | direct => rfl
  | pipelined pending =>
    dsimp only
    split <;> rfl
  | closed => rfl

/-- A permit is not refused by the end of the stream. -/
theorem endsStream_of_permit_error {operation : Operation} {error : Error} {s : Connection C × E}
    (h : permit operation (c, env) = .error error s) : endsStream error = false := by
  rw [permit_apply] at h
  split at h
  · cases h
  · split at h
    · obtain ⟨rfl, -⟩ := EStateM.Result.error.inj h
      rfl
    · cases h
  · obtain ⟨rfl, -⟩ := EStateM.Result.error.inj h
    rfl

/-- Opening a pipeline where one is open does nothing. -/
theorem openPipeline_apply :
    (openPipeline : Step (Connection C × E) Unit) (c, env) =
      match c.phase with
      | .direct => .ok () ({ c with phase := .pipelined [] }, env)
      | .pipelined _ => .ok () (c, env)
      | .closed => .error (.misuse .connectionClosed) (c, env) := by
  simp only [openPipeline, Step.bind_apply, getPhase_apply]
  cases c.phase <;> rfl

/-- A frame is read as its kind says. -/
@[simp] theorem readEntry_ok (frame : Frame) (kind : ReplyKind) :
    readEntry (.ok frame) kind = kind.readValue frame := rfl

variable [Client C E]

/-- A command that is run on the client is one call. -/
theorem ask_apply {α : Type} (command : Command) (read : Frame → Except Error α) :
    onClient (Client.ask command read) (c, env) =
      match Client.execute command (c.client, env) with
      | .ok frame (client, env) =>
        match read frame with
        | .ok a => .ok a ({ c with client }, env)
        | .error e => .error e ({ c with client }, env)
      | .error e (client, env) => .error e ({ c with client }, env) := by
  simp only [onClient_apply, Client.ask, Step.bind_apply]
  cases Client.execute command (c.client, env) with
  | error e s => rfl
  | ok frame s =>
    dsimp only
    cases read frame <;> rfl

/-- **Dispatching a command.** At most one call reaches the client: `execute`
in the direct phase, and `queue` while a pipeline is open, for an operation
that may wait. Only an accepted `queue` adds to what waits. -/
theorem dispatch_apply (operation : Operation) (command : Command) (kind : ReplyKind) :
    dispatch operation command kind (c, env) =
      match c.phase with
      | .direct =>
        match Client.execute command (c.client, env) with
        | .ok frame (client, env) =>
          match kind.read frame with
          | .ok a => .ok (.value a) ({ c with client }, env)
          | .error e => .error e ({ c with client }, env)
        | .error e (client, env) => .error e ({ c with client }, env)
      | .pipelined pending =>
        if operation.support = .unsupported then .error (.unsupported operation) (c, env)
        else
          match Client.queue command (c.client, env) with
          | .ok _ (client, env) =>
            .ok (.queued pending.length)
              ({ c with client, phase := .pipelined (pending ++ [kind]) }, env)
          | .error e (client, env) => .error e ({ c with client }, env)
      | .closed => .error (.misuse .connectionClosed) (c, env) := by
  simp only [dispatch, Step.bind_apply, permit_apply]
  cases hphase : c.phase with
  | direct =>
    simp only [getPhase_apply, hphase, Step.bind_apply, ask_apply]
    cases Client.execute command (c.client, env) with
    | error e s => rfl
    | ok frame s =>
      dsimp only
      cases kind.read frame <;> rfl
  | pipelined pending =>
    dsimp only
    by_cases hsupport : operation.support = .unsupported
    · simp only [hsupport, if_true]
    · simp only [if_neg hsupport, getPhase_apply, hphase, Step.bind_apply, onClient_apply]
      cases Client.queue command (c.client, env) <;> rfl
  | closed => rfl

/-- **Running a command directly.** The call that reaches the client is `execute`
in every phase: while a pipeline is open, only the permit can keep it away. -/
theorem direct_apply (operation : Operation) (command : Command) (kind : ReplyKind) :
    direct operation command kind (c, env) =
      match c.phase with
      | .direct => onClient (Client.ask command kind.read) (c, env)
      | .pipelined _ =>
        if operation.support = .unsupported then .error (.unsupported operation) (c, env)
        else onClient (Client.ask command kind.read) (c, env)
      | .closed => .error (.misuse .connectionClosed) (c, env) := by
  simp only [direct, Step.bind_apply, permit_apply]
  cases c.phase with
  | direct | closed => rfl
  | pipelined pending =>
    by_cases hsupport : operation.support = .unsupported
    · simp only [if_pos hsupport]
    · simp only [if_neg hsupport]

/-- **The two routes of an operation that may not wait** come to the same: where
they differ, while a pipeline is open, neither is permitted. -/
theorem direct_eq_dispatch {operation : Operation} (hsupport : operation.support = .unsupported)
    (command : Command) (kind : ReplyKind) :
    (Reply.value <$> direct operation command kind) (c, env) =
      dispatch operation command kind (c, env) := by
  simp only [Step.map_apply, direct_apply, dispatch_apply, ask_apply]
  cases c.phase with
  | direct =>
    cases Client.execute command (c.client, env) with
    | error e s => rfl
    | ok frame s =>
      dsimp only
      cases kind.read frame <;> rfl
  | pipelined pending => simp only [if_pos hsupport]
  | closed => rfl

/-- A request whose arguments fail their check goes no further. Of the others,
those that run directly may not wait, so all of them are as good as
dispatched. -/
theorem run_apply (request : Request) :
    run request (c, env) =
      match request.check with
      | .ok _ => dispatch request.operation request.command request.kind (c, env)
      | .error e => .error e (c, env) := by
  simp only [run, Step.bind_apply]
  cases request.check with
  | error e => rfl
  | ok _ =>
    dsimp only [Step.ofExcept_ok_apply]
    cases hroute : request.route with
    | dispatched => rfl
    | direct =>
      have hsupport := request.route_eq_direct_iff.1 hroute
      rw [← direct_eq_dispatch c env hsupport]
      rfl

/-- **Closing a pipeline.** The connection is direct afterwards, whatever the
client does; the client is called once, and only where something waits. -/
theorem closePipeline_apply :
    (closePipeline : Step (Connection C × E) (List (Except Error Value))) (c, env) =
      match c.phase with
      | .direct | .closed => .ok [] (c, env)
      | .pipelined pending =>
        if pending = [] then .ok [] ({ c with phase := .direct }, env)
        else
          match (Client.sync : Step (C × E) (List (Except Error Frame))) (c.client, env) with
          | .ok replies (client, env) =>
            if replies.length = pending.length then
              .ok (replies.zipWith readEntry pending) ({ c with client, phase := .direct }, env)
            else
              .error (.protocol (.replyCount replies.length pending.length))
                ({ c with client, phase := .direct }, env)
          | .error e (client, env) => .error e ({ c with client, phase := .direct }, env) := by
  simp only [closePipeline, Step.bind_apply, getPhase_apply]
  cases c.phase with
  | direct => rfl
  | pipelined pending =>
    cases pending with
    | nil => rfl
    | cons kind rest =>
      simp only [Step.bind_apply, enter_apply, List.isEmpty_cons, Bool.false_eq_true, if_false,
        reduceCtorEq, onClient_apply]
      cases (Client.sync : Step (C × E) (List (Except Error Frame))) (c.client, env) with
      | error e s => rfl
      | ok replies s =>
        dsimp only
        by_cases hlength : replies.length = (kind :: rest).length
        · simp only [hlength, ne_eq, not_true_eq_false, if_false, if_true, Step.pure_apply]
        · simp only [hlength, ne_eq, not_false_eq_true, if_false, if_true, Step.bind_apply,
            Step.throw_apply]
  | closed => rfl

/-- **Closing a connection.** It is closed before the client is given back, and
the outcome is that of giving it back. -/
theorem close_apply :
    (close : Step (Connection C × E) Unit) (c, env) =
      match c.phase with
      | .closed => .ok () (c, env)
      | .direct | .pipelined _ =>
        match (Client.quit : Step (C × E) Unit) (c.client, env) with
        | .ok _ (client, env) => .ok () ({ c with client, phase := .closed }, env)
        | .error e (client, env) => .error e ({ c with client, phase := .closed }, env) := by
  simp only [close, Step.bind_apply, getPhase_apply]
  cases c.phase with
  | closed => rfl
  | direct | pipelined _ =>
    simp only [Step.bind_apply, enter_apply, onClient_apply]
    cases (Client.quit : Step (C × E) Unit) (c.client, env) <;> rfl

/-- The operation that stops the server. -/
def shutdownOperation : Option SaveOption → Operation
  | none => .shutdown
  | some _ => .shutdownScripted

/-- The command that stops the server. -/
def shutdownCommand : Option SaveOption → Command
  | none => .named "SHUTDOWN"
  | some option => .eval (Command.shutdownScript option) [] []

/-- **Stopping the server** is as good as dispatching one command; the server
ending the stream counts as an answer. -/
theorem shutdown_apply (option : Option SaveOption) :
    shutdown option (c, env) =
      match dispatch (shutdownOperation option) (shutdownCommand option) .status (c, env) with
      | .ok reply s => .ok reply s
      | .error e s => if endsStream e then .ok (.value ()) s else .error e s := by
  cases option with
  | none =>
    simp only [shutdown, shutdownOperation, shutdownCommand, Step.bind_apply, Step.attempt_apply]
    generalize dispatch _ _ .status (c, env) = result
    cases result with
    | ok reply s => rfl
    | error e s =>
      dsimp only [closedByServer]
      cases endsStream e <;> rfl
  | some option =>
    have hsupport : (shutdownOperation (some option)).support = .unsupported := rfl
    rw [← direct_eq_dispatch c env hsupport]
    simp only [shutdown, shutdownOperation, shutdownCommand, direct, Step.bind_apply,
      Step.map_apply, Step.attempt_apply, ReplyKind.read]
    cases hpermit : permit .shutdownScripted (c, env) with
    | ok _ s =>
      dsimp only
      cases onClient (Client.ask _ Frame.readStatus) s with
      | ok _ s => rfl
      | error e s =>
        dsimp only [closedByServer, Except.map]
        cases endsStream e <;> rfl
    | error e s => simp [endsStream_of_permit_error c env hpermit]

end Connection

end RedisClient
