import RedisClient.Proofs.Connection.Count

/-!
# A connection as its fields

The phase of a connection says in one word whether its requests wait, what waits
and whether it is closed. Here these are fields of their own
(`Connection.Fields`), each set by itself, and nothing but the order in which an
operation sets them keeps them in agreement. Every operation on the fields is a
mirror of the operation on the connection: it makes the same calls, gives the
same answer and leaves the fields of the connection that the other leaves. So a
connection goes through no states but those that its fields reach
(`Connection.Visited.fields`), and in all of these the fields agree
(`Connection.Fields.Reached.agreeing`).
-/

namespace RedisClient

variable {C E α : Type}

namespace Connection

/-- **A connection as its fields**, of which none says anything about another. -/
structure Fields (C : Type) where
  /-- The client. -/
  client : C
  /-- Whether requests run at once or wait. -/
  mode : Mode := .direct
  /-- What the replies to the requests that wait will mean. -/
  pending : List ReplyKind := []
  /-- The sentinels that watch the server. -/
  sentinel : Option SentinelGroup := none
  /-- Whether the client has been given back. -/
  closed : Bool := false

/-- The fields of a connection. -/
def fields (c : Connection C) : Fields C where
  client := c.client
  mode := c.mode
  pending := c.pending
  sentinel := c.sentinel
  closed := c.isClosed

/-- The fields of a connection, in the same surroundings. -/
def view (s : Connection C × E) : Fields C × E := (s.1.fields, s.2)

/-! ## Operations -/

namespace Fields

/-- The fields. -/
def look : Step (Fields C × E) (Fields C) := do return (← get).1

/-- Sets fields. -/
def assign (f : Fields C → Fields C) : Step (Fields C × E) Unit :=
  modify fun (c, env) => (f c, env)

/-- Runs a step of the client. -/
def onClient (step : Step (C × E) α) : Step (Fields C × E) α :=
  step.focus client fun client c => { c with client }

/-- Refuses a closed connection. -/
def ensureOpen : Step (Fields C × E) Unit := do
  if (← look).closed then throw (.misuse .connectionClosed)

/-- Refuses a closed connection, and in the pipelined mode an operation that may
not wait. -/
def checkMode (operation : Operation) : Step (Fields C × E) Unit := do
  ensureOpen
  if (← look).mode = .pipelined ∧ operation.support = .unsupported then
    throw (.unsupported operation)

/-- Runs a step of the client of an open connection. -/
def native (step : Step (C × E) α) : Step (Fields C × E) α := do
  ensureOpen
  onClient step

/-- Goes over to the pipelined mode. -/
def openPipeline : Step (Fields C × E) Unit := do
  ensureOpen
  if (← look).mode = .direct then assign fun c => { c with mode := .pipelined }

section

variable [Client C E]

/-- Runs a command at once or queues it, by the mode. -/
def dispatch (operation : Operation) (command : Command) (kind : ReplyKind) :
    Step (Fields C × E) (Reply kind.Result) := do
  checkMode operation
  match (← look).mode with
  | .direct => return .value (← native (Client.ask command kind.read))
  | .pipelined =>
    native (Client.queue command)
    let place := (← look).pending.length
    assign fun c => { c with pending := c.pending ++ [kind] }
    return .queued place

/-- Runs a command at once. -/
def direct (operation : Operation) (command : Command) (kind : ReplyKind) :
    Step (Fields C × E) kind.Result := do
  checkMode operation
  native (Client.ask command kind.read)

/-- Runs a request, by its route, if its arguments pass. -/
def run (request : Request) : Step (Fields C × E) (Reply request.kind.Result) := do
  ofExcept request.check
  match request.route with
  | .dispatched => dispatch request.operation request.command request.kind
  | .direct => return .value (← direct request.operation request.command request.kind)

/-- Goes back to the direct mode, takes what waits and reads the replies. -/
def closePipeline : Step (Fields C × E) (List (Except Error Value)) := do
  if (← look).mode = .direct then return []
  assign fun c => { c with mode := .direct }
  let pending := (← look).pending
  assign fun c => { c with pending := [] }
  if pending.isEmpty then return []
  let replies ← native Client.sync
  if replies.length ≠ pending.length then
    throw (.protocol (.replyCount replies.length pending.length))
  return replies.zipWith readEntry pending

/-- Closes the connection, forgets what waits, goes back to the direct mode and
gives the client back. -/
def close : Step (Fields C × E) Unit := do
  if (← look).closed then return
  assign fun c => { c with closed := true }
  if !(← look).pending.isEmpty then assign fun c => { c with pending := [] }
  assign fun c => { c with mode := .direct }
  onClient Client.quit

/-- Stops the server. -/
def shutdown (option : Option SaveOption) : Step (Fields C × E) (Reply Unit) := do
  match option with
  | none =>
    let outcome ← Step.attempt (dispatch .shutdown (.named "SHUTDOWN") .status)
    ofExcept (closedByServer outcome)
  | some option =>
    checkMode .shutdownScripted
    ensureOpen
    let script := Command.eval (Command.shutdownScript option) [] []
    let outcome ← Step.attempt (onClient (Client.ask script Frame.readStatus))
    ofExcept (closedByServer (outcome.map .value))

end

/-! ## What the parts of an operation do -/

variable (c : Fields C) (env : E)

/-- Looking at the fields changes nothing. -/
@[simp] theorem look_apply :
    (look : Step (Fields C × E) (Fields C)) (c, env) = .ok c (c, env) := rfl

/-- Setting fields sets them. -/
@[simp] theorem assign_apply (f : Fields C → Fields C) :
    (assign f : Step (Fields C × E) Unit) (c, env) = .ok () (f c, env) := rfl

/-- A step of the client leaves the other fields as they are. -/
@[simp] theorem onClient_apply (step : Step (C × E) α) :
    onClient step (c, env) =
      match step (c.client, env) with
      | .ok a (client, env) => .ok a ({ c with client }, env)
      | .error e (client, env) => .error e ({ c with client }, env) := rfl

/-- Only a closed connection is refused for not being open. -/
@[simp] theorem ensureOpen_apply :
    (ensureOpen : Step (Fields C × E) Unit) (c, env) =
      if c.closed then .error (.misuse .connectionClosed) (c, env) else .ok () (c, env) := by
  cases hclosed : c.closed <;> simp [ensureOpen, hclosed]

/-- The client of an open connection can be had. -/
@[simp] theorem native_apply (step : Step (C × E) α) :
    native step (c, env) =
      if c.closed then .error (.misuse .connectionClosed) (c, env)
      else onClient step (c, env) := by
  cases hclosed : c.closed <;> simp [native, hclosed]

/-- Closing a connection sets three fields, and then the client is given back. -/
theorem close_apply [Client C E] :
    (close : Step (Fields C × E) Unit) (c, env) =
      if c.closed then .ok () (c, env)
      else
        onClient Client.quit ({ c with mode := .direct, pending := [], closed := true }, env) := by
  cases hclosed : c.closed with
  | true => simp only [close, Step.bind_apply, look_apply, hclosed, if_true, Step.pure_apply]
  | false =>
    simp only [close, Step.bind_apply, look_apply, hclosed, Bool.false_eq_true, if_false,
      assign_apply]
    cases hpending : c.pending <;> rfl

end Fields

/-! ## What they mirror -/

section

variable (client : C) (waiting : List ReplyKind) (sentinel : Option SentinelGroup) (env : E)

/-- The fields in the direct phase. -/
theorem view_direct :
    view (⟨client, .direct, sentinel⟩, env) = (⟨client, .direct, [], sentinel, false⟩, env) := rfl

/-- The fields while a pipeline is open. -/
theorem view_pipelined :
    view (⟨client, .pipelined waiting, sentinel⟩, env) =
      (⟨client, .pipelined, waiting, sentinel, false⟩, env) := rfl

end

/-- A step of the client is mirrored by itself. -/
theorem mirrors_onClient (step : Step (C × E) α) :
    Step.Mirrors view (onClient step) (Fields.onClient step) := by
  rintro ⟨c, env⟩
  simp only [view, onClient_apply, Fields.onClient_apply, fields]
  cases step (c.client, env) <;> rfl

/-- The check that a connection is open. -/
theorem mirrors_ensureOpen :
    Step.Mirrors view (ensureOpen : Step (Connection C × E) Unit) Fields.ensureOpen := by
  rintro ⟨⟨client, phase, sentinel⟩, env⟩
  cases phase <;> rfl

/-- The check that an operation may run. -/
theorem mirrors_permit (operation : Operation) :
    Step.Mirrors view (permit operation : Step (Connection C × E) Unit)
      (Fields.checkMode operation) := by
  rintro ⟨⟨client, phase, sentinel⟩, env⟩
  rw [permit_apply]
  cases phase with
  | direct | closed => rfl
  | pipelined waiting => cases hsupport : operation.support <;>
      simp [view_pipelined, Fields.checkMode, hsupport, Step.viewed]

/-- Opening a pipeline. -/
theorem mirrors_openPipeline :
    Step.Mirrors view (openPipeline : Step (Connection C × E) Unit) Fields.openPipeline := by
  rintro ⟨⟨client, phase, sentinel⟩, env⟩
  cases phase <;> rfl

variable [Client C E]

/-- **Dispatching a command.** -/
theorem mirrors_dispatch (operation : Operation) (command : Command) (kind : ReplyKind) :
    Step.Mirrors (view : Connection C × E → Fields C × E) (dispatch operation command kind)
      (Fields.dispatch operation command kind) := by
  rintro ⟨⟨client, phase, sentinel⟩, env⟩
  simp only [Fields.dispatch, Step.bind_apply, mirrors_permit operation _, permit_apply,
    dispatch_apply]
  cases phase with
  | closed => rfl
  | direct =>
    simp only [Step.viewed, view_direct, Fields.look_apply, Step.bind_apply, Fields.native_apply,
      Bool.false_eq_true, if_false, Fields.onClient_apply, Client.ask]
    cases Client.execute command (client, env) with
    | error e s => rfl
    | ok frame s =>
      dsimp only
      cases kind.read frame <;> rfl
  | pipelined waiting =>
    by_cases hsupport : operation.support = .unsupported
    · simp only [if_pos hsupport, Step.viewed]
    · simp only [if_neg hsupport, Step.viewed, view_pipelined, Fields.look_apply, Step.bind_apply,
        Fields.native_apply, Bool.false_eq_true, if_false, Fields.onClient_apply]
      cases Client.queue command (client, env) <;> rfl

/-- **Running a command directly.** -/
theorem mirrors_direct (operation : Operation) (command : Command) (kind : ReplyKind) :
    Step.Mirrors (view : Connection C × E → Fields C × E) (direct operation command kind)
      (Fields.direct operation command kind) := by
  rintro ⟨⟨client, phase, sentinel⟩, env⟩
  have hask := mirrors_onClient (E := E) (Client.ask command kind.read)
    (⟨client, phase, sentinel⟩, env)
  simp only [Fields.direct, Step.bind_apply, mirrors_permit operation _, permit_apply,
    direct_apply]
  cases phase with
  | closed => rfl
  | direct => exact hask
  | pipelined waiting =>
    by_cases hsupport : operation.support = .unsupported
    · simp only [if_pos hsupport, Step.viewed]
    · simp only [if_neg hsupport]
      exact hask

/-- **Running a request**, by either route. -/
theorem mirrors_run (request : Request) :
    Step.Mirrors (view : Connection C × E → Fields C × E) (run request) (Fields.run request) := by
  refine .bind (.of_except _) fun _ => ?_
  cases request.route with
  | dispatched => exact mirrors_dispatch _ _ _
  | direct => exact .bind (mirrors_direct _ _ _) fun _ => .of_pure _

/-- **Closing the pipeline.** -/
theorem mirrors_closePipeline :
    Step.Mirrors view (closePipeline : Step (Connection C × E) _) Fields.closePipeline := by
  rintro ⟨⟨client, phase, sentinel⟩, env⟩
  rw [closePipeline_apply]
  cases phase with
  | direct | closed => rfl
  | pipelined waiting =>
    cases waiting with
    | nil => rfl
    | cons kind rest =>
      simp only [view_pipelined, Fields.closePipeline, Step.bind_apply, Fields.look_apply,
        reduceCtorEq, if_false, Fields.assign_apply, List.isEmpty_cons, Bool.false_eq_true,
        Fields.native_apply, Fields.onClient_apply]
      cases (Client.sync : Step (C × E) (List (Except Error Frame))) (client, env) with
      | error e s => rfl
      | ok replies s =>
        by_cases hlength : replies.length = (kind :: rest).length
        · simp only [hlength, ne_eq, not_true_eq_false, if_false, if_true]
          rfl
        · simp only [hlength, ne_eq, not_false_eq_true, if_false, if_true]
          rfl

/-- **Closing the connection.** -/
theorem mirrors_close :
    Step.Mirrors view (close : Step (Connection C × E) Unit) Fields.close := by
  rintro ⟨⟨client, phase, sentinel⟩, env⟩
  rw [close_apply]
  cases phase with
  | closed => rfl
  | direct =>
    simp only [view_direct, Fields.close_apply, Bool.false_eq_true, if_false, Fields.onClient_apply]
    cases (Client.quit : Step (C × E) Unit) (client, env) <;> rfl
  | pipelined waiting =>
    simp only [view_pipelined, Fields.close_apply, Bool.false_eq_true, if_false,
      Fields.onClient_apply]
    cases (Client.quit : Step (C × E) Unit) (client, env) <;> rfl

/-- **Stopping the server.** -/
theorem mirrors_shutdown (option : Option SaveOption) :
    Step.Mirrors (view : Connection C × E → Fields C × E) (shutdown option)
      (Fields.shutdown option) := by
  cases option with
  | none => exact .bind (mirrors_dispatch _ _ _).attempt fun _ => .of_except _
  | some option =>
    have hrun (script : Command) : Step.Mirrors (view : Connection C × E → Fields C × E)
        (do
          let outcome ← Step.attempt (onClient (Client.ask script Frame.readStatus))
          ofExcept (closedByServer (outcome.map .value)))
        (do
          let outcome ← Step.attempt (Fields.onClient (Client.ask script Frame.readStatus))
          ofExcept (closedByServer (outcome.map .value))) :=
      .bind (mirrors_onClient _).attempt fun _ => .of_except _
    rintro ⟨⟨client, phase, sentinel⟩, env⟩
    cases phase with
    | direct => exact hrun _ (⟨client, .direct, sentinel⟩, env)
    | pipelined _ | closed => rfl

/-- **Asking for a page**, as a cursor does. -/
theorem mirrors_page (scan : Scan) (token : String) (options : ScanOptions) :
    Step.Mirrors (view : Connection C × E → Fields C × E)
      (do
        ensureOpen
        onClient (Client.ask (scan.command token options) scan.readPage))
      (Fields.native (Client.ask (scan.command token options) scan.readPage)) :=
  .bind mirrors_ensureOpen fun _ => mirrors_onClient _

/-! ## Every state -/

namespace Fields

/-- What is asked of a connection at one time. Opening a connection to a sentinel
only looks at it. -/
inductive Entry where
  /-- A request is run. -/
  | request (request : Request)
  /-- The server is stopped. -/
  | shutdown (option : Option SaveOption)
  /-- A pipeline is opened. -/
  | openPipeline
  /-- The pipeline is closed. -/
  | closePipeline
  /-- The connection is closed. -/
  | close
  /-- A cursor asks for a page. -/
  | page (scan : Scan) (token : String) (options : ScanOptions)

/-- The fields afterwards. -/
def Entry.perform (c : Fields C) (env : E) : Entry → Fields C
  | .request r => (Step.left (run r) (c, env)).1
  | .shutdown option => (Step.left (Fields.shutdown option) (c, env)).1
  | .openPipeline => (Step.left Fields.openPipeline (c, env)).1
  | .closePipeline => (Step.left Fields.closePipeline (c, env)).1
  | .close => (Step.left Fields.close (c, env)).1
  | .page scan token options =>
    (Step.left (native (Client.ask (scan.command token options) scan.readPage)) (c, env)).1

/-- A cursor asks for pages only in the direct mode, in which it was opened. -/
def Entry.Fits (c : Fields C) : Entry → Prop
  | .page _ _ _ => c.mode = .direct
  | .request _ | .shutdown _ | .openPipeline | .closePipeline | .close => True

/-- **The states that the fields reach** from a client. Every entry may find the
surroundings changed. -/
inductive Reached (client : C) : Fields C → Prop
  /-- The fields of a new connection. -/
  | opened (sentinel : Option SentinelGroup) : Reached client { client, sentinel }
  /-- One more entry. -/
  | entry {c : Fields C} (entry : Entry) (env : E) :
      Reached client c → entry.Fits c → Reached client (entry.perform c env)

end Fields

omit [Client C E] in
/-- The fields that a mirror leaves. -/
theorem fields_left {step : Step (Connection C × E) α} {mirror : Step (Fields C × E) α}
    (h : Step.Mirrors view step mirror) (c : Connection C) (env : E) :
    (Step.left mirror (c.fields, env)).1 = (Step.left step (c, env)).1.fields :=
  congrArg Prod.fst (h.left (c, env))

variable {client : C} {c : Connection C} {kept : List Command}

omit [Client C E] in
/-- A connection in the direct mode stays in it if a command is run. -/
theorem mode_page (hmode : c.mode = .direct) (step : Step (C × E) α) (env : E) :
    (Step.left (do ensureOpen; onClient step) (c, env)).1.mode = .direct := by
  simp only [Step.left, Step.outcome, Step.bind_apply, ensureOpen_apply]
  cases hphase : c.phase with
  | closed => exact hmode
  | direct | pipelined _ =>
    dsimp only
    rw [onClient_apply]
    cases step (c.client, env) <;> exact hmode

/-- A connection that is closed is in the direct mode. -/
theorem mode_close (hmode : c.mode = .direct) (env : E) :
    (Step.left close (c, env)).1.mode = .direct := by
  simp only [Step.left, Step.outcome, close_apply]
  cases hphase : c.phase with
  | closed => exact hmode
  | direct | pipelined _ =>
    dsimp only
    cases (Client.quit : Step (C × E) Unit) (c.client, env) <;> rfl

/-- **Fields that are reached while a cursor has the connection.** -/
theorem lends_fields : Cursor.Lends E fun c : Connection C =>
    Fields.Reached (E := E) client c.fields ∧ c.mode = .direct where
  page scan token options := by
    rintro ⟨c, env⟩ ⟨hreached, hmode⟩
    refine ⟨?_, mode_page hmode _ env⟩
    rw [← fields_left (mirrors_page scan token options)]
    exact hreached.entry (.page scan token options) env hmode
  close := by
    rintro ⟨c, env⟩ ⟨hreached, hmode⟩
    refine ⟨?_, mode_close hmode env⟩
    rw [← fields_left mirrors_close]
    exact hreached.entry .close env trivial

/-- **The fields of a connection that is reached** are reached. -/
theorem Reached.fields (h : Reached (E := E) client c kept) :
    Fields.Reached (E := E) client c.fields := by
  induction h with
  | opened sentinel => exact .opened sentinel
  | @act c kept act env _ ih =>
    cases act with
    | request request =>
      rw [Act.perform, ← fields_left (mirrors_run request)]
      exact ih.entry (.request request) env trivial
    | shutdown option =>
      rw [Act.perform, ← fields_left (mirrors_shutdown option)]
      exact ih.entry (.shutdown option) env trivial
    | openPipeline =>
      rw [Act.perform, ← fields_left mirrors_openPipeline]
      exact ih.entry .openPipeline env trivial
    | closePipeline =>
      rw [Act.perform, ← fields_left mirrors_closePipeline]
      exact ih.entry .closePipeline env trivial
    | close =>
      rw [Act.perform, ← fields_left mirrors_close]
      exact ih.entry .close env trivial
    | openSentinel =>
      rw [Act.perform, left_openSentinel]
      exact ih
    | scan kind options uses =>
      rw [Act.perform, scan_apply]
      cases hphase : c.phase with
      | direct =>
        have hmode : c.mode = .direct := by rw [mode, hphase]
        exact (lends_fields.useAll uses ({ connection := c, options }, env) ⟨ih, hmode⟩).1
      | pipelined waiting => exact ih
      | closed => exact ih

/-- **So are those of a connection at any time**, also while a cursor has it. -/
theorem Visited.fields (h : Visited (E := E) client c) :
    Fields.Reached (E := E) client c.fields := by
  cases h with
  | reached h => exact h.fields
  | @traversing c kept scan options cursor env s uses h hscan =>
    rw [scan_apply] at hscan
    cases hphase : c.phase with
    | direct =>
      have hmode : c.mode = .direct := by rw [mode, hphase]
      simp only [hphase, EStateM.Result.ok.injEq] at hscan
      obtain ⟨rfl, rfl⟩ := hscan
      exact (lends_fields.useEach uses ({ connection := c, options }, env) ⟨h.fields, hmode⟩).1
    | pipelined _ | closed => simp [hphase] at hscan

omit [Client C E] in
/-- A settled connection in the direct mode is at rest. -/
theorem Settled.resting {held : List Command → C → Prop} {gone : C → Prop}
    (h : c.Settled held gone kept) (hmode : c.mode = .direct) : c.Resting held gone := by
  cases hphase : c.phase with
  | direct => exact (resting_direct hphase).2 ((settled_direct hphase).1 h).1
  | pipelined waiting => simp [mode, hphase] at hmode
  | closed =>
    rw [Resting, hphase]
    exact ((settled_closed hphase).1 h).1

namespace Fields

variable {held : List Command → C → Prop} {gone : C → Prop} {c : Fields C}

/-- **Fields that are reached are those of a connection** that is settled with its
client. -/
theorem Reached.settled (keeping : Client.Keeping (E := E) held gone) (hnew : held [] client)
    (h : Reached (E := E) client c) :
    ∃ connection : Connection C, ∃ kept, connection.fields = c ∧
      connection.Settled held gone kept := by
  induction h with
  | opened sentinel =>
    exact ⟨⟨client, .direct, sentinel⟩, [], rfl, (settled_direct rfl).2 ⟨hnew, rfl⟩⟩
  | entry entry env _ hfits ih =>
    obtain ⟨c, kept, rfl, hsettled⟩ := ih
    cases entry with
    | request request =>
      exact ⟨_, _, (fields_left (mirrors_run request) c env).symm, hsettled.run keeping env request⟩
    | shutdown option =>
      exact ⟨_, _, (fields_left (mirrors_shutdown option) c env).symm,
        hsettled.shutdown keeping env option⟩
    | openPipeline =>
      exact ⟨_, _, (fields_left mirrors_openPipeline c env).symm, hsettled.openPipeline env⟩
    | closePipeline =>
      exact ⟨_, _, (fields_left mirrors_closePipeline c env).symm,
        hsettled.closePipeline keeping env⟩
    | close =>
      exact ⟨_, _, (fields_left mirrors_close c env).symm, (hsettled.close keeping env).settled⟩
    | page scan token options =>
      have hpage := (Cursor.lends_resting keeping).page scan token options (c, env)
        (hsettled.resting hfits)
      exact ⟨_, [], (fields_left (mirrors_page scan token options) c env).symm, hpage.settled⟩

/-- **The fields agree in every state**, and with the client: nothing waits in the
direct mode, a closed connection is in the direct mode, and there is one reading
for each command that the client holds back. -/
theorem Reached.agreeing_of_keeping (keeping : Client.Keeping (E := E) held (held []))
    (hnew : held [] client) (h : Reached (E := E) client c) :
    (c.mode = .direct → c.pending = []) ∧ (c.closed = true → c.mode = .direct) ∧
      ∃ kept, held kept c.client ∧ c.pending.length = kept.length := by
  obtain ⟨⟨client, phase, sentinel⟩, kept, rfl, hsettled⟩ := h.settled keeping hnew
  cases phase with
  | direct | closed =>
    obtain ⟨hheld, rfl⟩ := hsettled
    exact ⟨fun _ => rfl, fun _ => rfl, [], hheld, rfl⟩
  | pipelined waiting =>
    exact ⟨fun hmode => (nomatch hmode), fun hclosed => (nomatch hclosed), kept, hsettled⟩

/-- So they do over a client that counts and keeps nothing back to begin with. -/
theorem Reached.agreeing (counts : Client.Counts C E) (hnew : Client.queued client = 0)
    (h : Reached (E := E) client c) :
    (c.mode = .direct → c.pending = []) ∧ (c.closed = true → c.mode = .direct) ∧
      c.pending.length = Client.queued c.client := by
  obtain ⟨hpending, hmode, kept, hholds, hlength⟩ := h.agreeing_of_keeping counts.keeping hnew
  exact ⟨hpending, hmode, hlength.trans hholds.symm⟩

end Fields

end Connection

end RedisClient
