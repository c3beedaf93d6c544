import RedisClient.Proofs.Connection.Transition
import RedisClient.Scan.Cursor
import RedisClient.Sentinel

/-!
# The life of a connection

Everything that can be done with a connection is an `Act`; a connection is
`Reached` from a client by acts in any order, and whatever else happens in the
surroundings between them. Along the way the commands that wait are those whose
calls have answered that they are queued, and whose replies no closing of the
pipeline has collected.

A client keeps its part of the count if each of its operations does
(`Client.Keeping`). Then the connection and its client agree in every state
that is reached (`Connection.Reached.settled`).
-/

namespace RedisClient

variable {C E : Type}

/-- What is done with a cursor. -/
inductive CursorUse where
  /-- It is asked whether there is another item. -/
  | hasNext (pages : Nat)
  /-- It is asked for the next item. -/
  | next (pages : Nat)
  /-- It is closed. -/
  | close

/-- What is done with a connection. -/
inductive Act where
  /-- A request is run. -/
  | request (request : Request)
  /-- The server is stopped. -/
  | shutdown (option : Option SaveOption)
  /-- A pipeline is opened. -/
  | openPipeline
  /-- The pipeline is closed. -/
  | closePipeline
  /-- The connection is closed. -/
  | close
  /-- A scan is traversed by a cursor, which is let go of in the end. -/
  | scan (scan : Scan) (options : ScanOptions) (uses : List CursorUse)
  /-- A connection to a sentinel is opened. -/
  | openSentinel

namespace Cursor

variable [Client C E] {scan : Scan}

/-- Uses a cursor once. -/
def use : CursorUse → Step (Cursor C scan × E) Unit
  | .hasNext pages => do let _ ← hasNext pages
  | .next pages => do let _ ← next pages
  | .close => close

/-- Uses a cursor again and again, whatever comes of it, and lets go of it. -/
def useAll : List CursorUse → Step (Cursor C scan × E) (Connection C)
  | [] => release
  | first :: rest => do
    let _ ← Step.attempt (use first)
    useAll rest

end Cursor

/-- What waits once a command has been handed over, where `kept` waited before. -/
def Command.waiting {α : Type} (command : Command) (outcome : Except Error (Reply α))
    (kept : List Command) : List Command :=
  match outcome with
  | .ok (.queued _) => kept ++ [command]
  | .ok (.value _) | .error _ => kept

namespace Act

variable [Client C E]

/-- The connection after an act. -/
def perform (c : Connection C) (env : E) : Act → Connection C
  | .request r => (Step.left (Connection.run r) (c, env)).1
  | .shutdown option => (Step.left (Connection.shutdown option) (c, env)).1
  | .openPipeline => (Step.left Connection.openPipeline (c, env)).1
  | .closePipeline => (Step.left Connection.closePipeline (c, env)).1
  | .close => (Step.left Connection.close (c, env)).1
  | .openSentinel => (Step.left Connection.openSentinel (c, env)).1
  | .scan kind options uses =>
    match Connection.scan kind options (c, env) with
    | .error _ (c, _) => c
    | .ok cursor (_, env) => (Step.left (Cursor.useAll uses) (cursor, env)).1.connection

/-- What waits after an act, where `kept` waited before. -/
def waiting (c : Connection C) (env : E) (kept : List Command) : Act → List Command
  | .request r => r.command.waiting (Step.outcome (Connection.run r) (c, env)).1 kept
  | .shutdown option =>
    (Connection.shutdownCommand option).waiting
      (Step.outcome (Connection.shutdown option) (c, env)).1 kept
  | .closePipeline | .close => []
  | .openPipeline | .openSentinel | .scan _ _ _ => kept

end Act

/-- **The states that a connection reaches** from a client, and the commands
that wait in them. Every act may find the surroundings changed. -/
inductive Connection.Reached [Client C E] (client : C) : Connection C → List Command → Prop
  /-- A new connection. -/
  | opened (sentinel : Option SentinelGroup) : Reached client { client, sentinel } []
  /-- One more act. -/
  | act {c : Connection C} {kept : List Command} (act : Act) (env : E) :
      Reached client c kept → Reached client (act.perform c env) (act.waiting c env kept)

/-! ## Clients that keep count -/

/-- Operations of a client that keep count of what it holds back: `held` of a
client in use and some commands, and `gone` of one that has given its stream
back. -/
structure Client.Keeping [Client C E] (held : List Command → C → Prop) (gone : C → Prop) :
    Prop where
  /-- Where nothing is held back, nothing is after a command has run. -/
  execute : ∀ {client : C} (command : Command) (env : E),
    held [] client → held [] (Step.left (Client.execute command) (client, env)).1
  /-- A command that is accepted is held back behind the others. -/
  queue_ok : ∀ {kept : List Command} {client client' : C} {command : Command} {env env' : E},
    held kept client → Client.queue command (client, env) = .ok () (client', env') →
      held (kept ++ [command]) client'
  /-- One that is refused is not. -/
  queue_error : ∀ {kept : List Command} {client client' : C} {command : Command} {env env' : E}
    {error : Error}, held kept client →
      Client.queue command (client, env) = .error error (client', env') → held kept client'
  /-- After a sync nothing is held back, whether or not it succeeds. -/
  sync : ∀ {kept : List Command} {client : C} (env : E), held kept client →
    held [] (Step.left (Client.sync : Step (C × E) _) (client, env)).1
  /-- Giving the stream back ends it. -/
  quit : ∀ {kept : List Command} {client : C} (env : E), held kept client →
    gone (Step.left (Client.quit : Step (C × E) Unit) (client, env)).1

namespace Connection

variable (held : List Command → C → Prop) (gone : C → Prop)

/-- **Settled.** The client holds back what waits on the connection, and there
is one reading for each of the commands. Only an open pipeline has any. -/
def Settled (c : Connection C) (kept : List Command) : Prop :=
  match c.phase with
  | .direct => held [] c.client ∧ kept = []
  | .pipelined pending => held kept c.client ∧ pending.length = kept.length
  | .closed => gone c.client ∧ kept = []

/-- Settled, with no pipeline open. -/
def Resting (c : Connection C) : Prop :=
  match c.phase with
  | .direct => held [] c.client
  | .pipelined _ => False
  | .closed => gone c.client

variable {held gone} {c : Connection C} {kept : List Command}

/-- Settled in the direct phase. -/
theorem settled_direct (hphase : c.phase = .direct) :
    c.Settled held gone kept ↔ held [] c.client ∧ kept = [] := by
  rw [Settled, hphase]

/-- Settled while a pipeline is open. -/
theorem settled_pipelined {pending : List ReplyKind} (hphase : c.phase = .pipelined pending) :
    c.Settled held gone kept ↔ held kept c.client ∧ pending.length = kept.length := by
  rw [Settled, hphase]

/-- Settled once the connection is closed. -/
theorem settled_closed (hphase : c.phase = .closed) :
    c.Settled held gone kept ↔ gone c.client ∧ kept = [] := by
  rw [Settled, hphase]

/-- At rest in the direct phase. -/
theorem resting_direct (hphase : c.phase = .direct) :
    c.Resting held gone ↔ held [] c.client := by
  rw [Resting, hphase]

/-- A connection at rest has nothing that waits. -/
theorem Resting.settled (h : c.Resting held gone) : c.Settled held gone [] := by
  unfold Resting at h
  unfold Settled
  cases hphase : c.phase <;> simp_all

variable [Client C E]

section

variable (keeping : Client.Keeping (E := E) held gone) (env : E)
include keeping

/-- **Dispatching a command** leaves the connection settled. -/
theorem Settled.dispatch (h : c.Settled held gone kept) (operation : Operation)
    (command : Command) (kind : ReplyKind) :
    (Step.left (Connection.dispatch operation command kind) (c, env)).1.Settled held gone
      (command.waiting (Step.outcome (Connection.dispatch operation command kind) (c, env)).1
        kept) := by
  simp only [Step.left, Step.outcome, dispatch_apply]
  cases hphase : c.phase with
  | direct =>
    obtain ⟨hheld, rfl⟩ := (settled_direct hphase).1 h
    have hexecute := keeping.execute command env hheld
    cases hresult : Client.execute command (c.client, env) with
    | error error s =>
      obtain ⟨client, env'⟩ := s
      rw [Step.left_of_error hresult] at hexecute
      exact (settled_direct rfl).2 ⟨hexecute, rfl⟩
    | ok frame s =>
      obtain ⟨client, env'⟩ := s
      rw [Step.left_of_ok hresult] at hexecute
      dsimp only
      cases kind.read frame <;>
        exact (settled_direct rfl).2 ⟨hexecute, rfl⟩
  | pipelined pending =>
    obtain ⟨hheld, hlength⟩ := (settled_pipelined hphase).1 h
    by_cases hsupport : operation.support = .unsupported
    · simp only [if_pos hsupport]
      exact h
    · simp only [if_neg hsupport]
      cases hresult : Client.queue command (c.client, env) with
      | error error s =>
        obtain ⟨client, env'⟩ := s
        exact (settled_pipelined rfl).2 ⟨keeping.queue_error hheld hresult, hlength⟩
      | ok _ s =>
        obtain ⟨client, env'⟩ := s
        have hcount : (pending ++ [kind]).length = (kept ++ [command]).length := by simp [hlength]
        exact (settled_pipelined rfl).2 ⟨keeping.queue_ok hheld hresult, hcount⟩
  | closed => exact h

/-- **Running a request** does, whether or not its arguments pass. -/
theorem Settled.run (h : c.Settled held gone kept) (request : Request) :
    (Step.left (Connection.run request) (c, env)).1.Settled held gone
      (request.command.waiting (Step.outcome (Connection.run request) (c, env)).1 kept) := by
  cases hcheck : request.check with
  | ok _ =>
    have hdispatch := h.dispatch keeping env request.operation request.command request.kind
    simpa only [Step.left, Step.outcome, run_apply, hcheck] using hdispatch
  | error error =>
    simp only [Step.left, Step.outcome, run_apply, hcheck]
    exact h

/-- **Stopping the server** does, whether or not it answers. -/
theorem Settled.shutdown (h : c.Settled held gone kept) (option : Option SaveOption) :
    (Step.left (Connection.shutdown option) (c, env)).1.Settled held gone
      ((shutdownCommand option).waiting (Step.outcome (Connection.shutdown option) (c, env)).1
        kept) := by
  have hdispatch := h.dispatch keeping env (shutdownOperation option) (shutdownCommand option)
    .status
  simp only [Step.left, Step.outcome, shutdown_apply] at hdispatch ⊢
  cases hresult : Connection.dispatch (shutdownOperation option) (shutdownCommand option) .status
    (c, env) with
  | ok reply s => simpa only [hresult] using hdispatch
  | error error s =>
    simp only [hresult, Command.waiting] at hdispatch ⊢
    cases endsStream error <;> exact hdispatch

omit [Client C E] keeping in
/-- **Opening a pipeline** does: nothing waits yet. -/
theorem Settled.openPipeline (h : c.Settled held gone kept) :
    (Step.left Connection.openPipeline (c, env)).1.Settled held gone kept := by
  simp only [Step.left, Step.outcome, openPipeline_apply]
  cases hphase : c.phase with
  | direct =>
    obtain ⟨hheld, rfl⟩ := (settled_direct hphase).1 h
    exact (settled_pipelined rfl).2 ⟨hheld, rfl⟩
  | pipelined pending => exact h
  | closed => exact h

/-- **Closing the pipeline** does: nothing waits any more, however it ends. -/
theorem Settled.closePipeline (h : c.Settled held gone kept) :
    (Step.left Connection.closePipeline (c, env)).1.Settled held gone [] := by
  simp only [Step.left, Step.outcome, closePipeline_apply]
  cases hphase : c.phase with
  | direct =>
    obtain ⟨hheld, rfl⟩ := (settled_direct hphase).1 h
    exact h
  | pipelined pending =>
    obtain ⟨hheld, hlength⟩ := (settled_pipelined hphase).1 h
    by_cases hempty : pending = []
    · subst hempty
      obtain rfl : kept = [] := List.length_eq_zero_iff.1 hlength.symm
      exact (settled_direct rfl).2 ⟨hheld, rfl⟩
    · -- the sync empties the client even where its replies cannot be used
      have hsync := keeping.sync env hheld
      simp only [if_neg hempty]
      cases hresult : (Client.sync : Step (C × E) (List (Except Error Frame))) (c.client, env) with
      | error error s =>
        obtain ⟨client, env'⟩ := s
        rw [Step.left_of_error hresult] at hsync
        exact (settled_direct rfl).2 ⟨hsync, rfl⟩
      | ok replies s =>
        obtain ⟨client, env'⟩ := s
        rw [Step.left_of_ok hresult] at hsync
        by_cases hcount : replies.length = pending.length
        · simp only [if_pos hcount]
          exact (settled_direct rfl).2 ⟨hsync, rfl⟩
        · simp only [if_neg hcount]
          exact (settled_direct rfl).2 ⟨hsync, rfl⟩
  | closed =>
    obtain ⟨hgone, rfl⟩ := (settled_closed hphase).1 h
    exact h

/-- **Closing the connection** does, and it is closed afterwards. -/
theorem Settled.close (h : c.Settled held gone kept) :
    (Step.left Connection.close (c, env)).1.Resting held gone := by
  -- in both phases of an open connection the client is told to give its stream back
  have hquit : ∀ {kept : List Command}, held kept c.client → c.phase ≠ .closed →
      (Step.left Connection.close (c, env)).1.Resting held gone := by
    intro kept hheld hopen
    have hgone := keeping.quit env hheld
    have hclose := close_apply c env
    simp only [Step.left, Step.outcome, hclose]
    cases hphase : c.phase with
    | closed => exact absurd hphase hopen
    | direct | pipelined _ =>
      cases hresult : (Client.quit : Step (C × E) Unit) (c.client, env) with
      | error error s =>
        rw [Step.left_of_error hresult] at hgone
        exact hgone
      | ok _ s =>
        rw [Step.left_of_ok hresult] at hgone
        exact hgone
  cases hphase : c.phase with
  | direct => exact hquit ((settled_direct hphase).1 h).1 (by simp [hphase])
  | pipelined pending => exact hquit ((settled_pipelined hphase).1 h).1 (by simp [hphase])
  | closed =>
    obtain ⟨hgone, -⟩ := (settled_closed hphase).1 h
    simp only [Step.left, Step.outcome, close_apply, hphase]
    rw [Resting, hphase]
    exact hgone

end

/-- Opening a connection to a sentinel leaves this one as it is. -/
theorem left_openSentinel (env : E) : (Step.left openSentinel (c, env)).1 = c := by
  simp only [Step.left, Step.outcome, openSentinel, Step.bind_apply, Step.get_apply]
  cases c.sentinel with
  | none => rfl
  | some group =>
    simp only [Step.bind_apply, ensureOpen_apply]
    cases c.phase with
    | closed => rfl
    | direct | pipelined _ =>
      simp only [Step.modifyGet_apply]
      cases (Sentinel.firstReached? c.client group.nodes env).1 <;> rfl

omit [Client C E] in
/-- A scan starts in the direct phase only, and takes the connection over as it
is. -/
theorem scan_apply (kind : Scan) (options : ScanOptions) (env : E) :
    Connection.scan kind options (c, env) =
      match c.phase with
      | .direct => .ok { connection := c, options } (c, env)
      | .pipelined _ => .error (.unsupported kind.operation) (c, env)
      | .closed => .error (.misuse .connectionClosed) (c, env) := by
  have hsupport : kind.operation.support = .unsupported := by cases kind <;> rfl
  simp only [Connection.scan, Step.bind_apply, permit_apply]
  cases c.phase with
  | direct => rfl
  | pipelined pending => simp only [hsupport, if_true]
  | closed => rfl

end Connection

/-! ## Cursors -/

namespace Cursor

/-- A change of a cursor that concerns neither its connection nor whether it is
closed. -/
def Inner {C : Type} {scan : Scan} (f : Cursor C scan → Cursor C scan) : Prop :=
  ∀ cursor, (f cursor).connection = cursor.connection ∧ (f cursor).closed = cursor.closed

variable [Client C E] {scan : Scan}

/-- **What looking for items preserves**: a predicate that goes by the
connection and by whether the cursor is closed, and that asking for a page
preserves. -/
structure Looking (P : Cursor C scan × E → Prop) : Prop where
  /-- It goes by nothing else. -/
  modifyCursor : ∀ {f : Cursor C scan → Cursor C scan}, Inner f → Step.Preserves P (modifyCursor f)
  /-- Asking for a page preserves it. -/
  requestPage : Step.Preserves P requestPage

omit [Client C E] in
/-- Looking at the cursor changes nothing. -/
theorem preserves_getCursor {P : Cursor C scan × E → Prop} : Step.Preserves P getCursor :=
  fun _ h => h

namespace Looking

variable {P : Cursor C scan × E → Prop} (looking : Looking P)
include looking

/-- **Taking a page in** changes the cursor besides. -/
theorem fetchPage : Step.Preserves P fetchPage := by
  refine .bind looking.requestPage.attempt fun outcome => ?_
  cases outcome with
  | ok page => exact looking.modifyCursor fun _ => ⟨rfl, rfl⟩
  | error error =>
    exact .bind (looking.modifyCursor fun _ => ⟨rfl, rfl⟩) fun _ => .of_throw error

/-- Taking in as many pages as are needed. -/
theorem fill (pages : Nat) : Step.Preserves P (fill pages) := by
  induction pages with
  | zero => exact .bind preserves_getCursor fun _ => .of_pure _
  | succ pages ih =>
    refine .bind preserves_getCursor fun cursor => ?_
    split
    · exact .of_pure _
    · exact .bind looking.fetchPage fun _ => ih

/-- Looking for an item. -/
theorem peek (pages : Nat) : Step.Preserves P (peek pages) := by
  refine .bind preserves_getCursor fun cursor => ?_
  dsimp only
  split
  · exact .of_throw_bind _ _
  · split
    · exact .of_pure _
    · refine .bind (looking.fill pages) fun found => ?_
      split
      · refine .bind preserves_getCursor fun cursor => ?_
        split <;> exact .of_pure _
      · exact .of_pure _

/-- Asking whether there is another item. -/
theorem hasNext (pages : Nat) : Step.Preserves P (hasNext pages) := by
  refine .bind (looking.peek pages) fun finding => ?_
  cases finding <;> exact .of_pure _

/-- Asking for the next item. -/
theorem next (pages : Nat) : Step.Preserves P (next pages) := by
  refine .bind (looking.peek pages) fun finding => ?_
  cases finding with
  | item a => exact .bind (looking.modifyCursor fun _ => ⟨rfl, rfl⟩) fun _ => .of_pure _
  | finished | undecided => exact .of_pure _

end Looking

/-- **What using a cursor preserves** of the connection that it has taken over: a
predicate that asking for a page preserves, and closing the connection. -/
structure Lends (E : Type) [Client C E] (Q : Connection C → Prop) : Prop where
  /-- Asking for a page preserves it. -/
  page : ∀ (scan : Scan) (token : String) (options : ScanOptions),
    Step.Preserves (fun s : Connection C × E => Q s.1) (do
      Connection.ensureOpen
      Connection.onClient (Client.ask (scan.command token options) scan.readPage))
  /-- Closing the connection preserves it. -/
  close : Step.Preserves (fun s : Connection C × E => Q s.1) Connection.close

/-- What holds of the connection that a cursor has taken over. -/
def OfConnection (Q : Connection C → Prop) (s : Cursor C scan × E) : Prop := Q s.1.connection

variable {Q : Connection C → Prop}

omit [Client C E] in
/-- A step of the connection preserves what it preserves of it. -/
theorem preserves_onConnection {α : Type} {step : Step (Connection C × E) α}
    (h : Step.Preserves (fun s => Q s.1) step) :
    Step.Preserves (OfConnection Q : Cursor C scan × E → Prop) (onConnection step) := by
  rintro ⟨cursor, env⟩ hconnection
  have hleft := h (cursor.connection, env) hconnection
  simp only [Step.left, Step.outcome, onConnection, Step.focus_apply] at hleft ⊢
  cases hstep : step (cursor.connection, env) <;> simpa only [OfConnection, hstep] using hleft

omit [Client C E] in
/-- A change of the cursor that leaves the connection alone. -/
theorem preserves_modifyCursor {f : Cursor C scan → Cursor C scan}
    (h : ∀ cursor, (f cursor).connection = cursor.connection) :
    Step.Preserves (OfConnection Q : Cursor C scan × E → Prop) (modifyCursor f) := by
  rintro ⟨cursor, env⟩ hconnection
  change Q (f cursor).connection
  rw [h]
  exact hconnection

namespace Lends

variable (lends : Lends E Q)
include lends

/-- Looking for items. -/
theorem looking : Looking (OfConnection Q : Cursor C scan × E → Prop) where
  modifyCursor h := preserves_modifyCursor fun cursor => (h cursor).1
  requestPage := .bind preserves_getCursor fun _ => preserves_onConnection (lends.page _ _ _)

/-- Closing the cursor. -/
theorem close_cursor : Step.Preserves (OfConnection Q : Cursor C scan × E → Prop) Cursor.close := by
  refine .bind preserves_getCursor fun cursor => ?_
  split
  · exact .of_pure _
  · exact .bind (preserves_modifyCursor fun _ => rfl) fun _ => preserves_onConnection lends.close

/-- **Using a cursor** in any way. -/
theorem use (use : CursorUse) :
    Step.Preserves (OfConnection Q : Cursor C scan × E → Prop) (Cursor.use use) := by
  cases use with
  | hasNext pages => exact .bind (lends.looking.hasNext pages) fun _ => .of_pure _
  | next pages => exact .bind (lends.looking.next pages) fun _ => .of_pure _
  | close => exact lends.close_cursor

/-- **Using a cursor** again and again, and letting go of it. -/
theorem useAll (uses : List CursorUse) :
    Step.Preserves (OfConnection Q : Cursor C scan × E → Prop) (Cursor.useAll uses) := by
  induction uses with
  | nil => exact .bind lends.close_cursor.attempt fun _ =>
      .bind preserves_getCursor fun _ => .of_pure _
  | cons first rest ih => exact .bind (lends.use first).attempt fun _ => ih

end Lends

/-- **A connection at rest** stays at rest while a cursor has it. -/
theorem lends_resting {held : List Command → C → Prop} {gone : C → Prop}
    (keeping : Client.Keeping (E := E) held gone) :
    Lends E (Connection.Resting held gone) where
  page scan token options := by
    rintro ⟨c, env⟩ hrest
    simp only [Step.left, Step.outcome, Step.bind_apply, Connection.ensureOpen_apply]
    cases hphase : c.phase with
    | closed => exact hrest
    | pipelined pending => simp [Connection.Resting, hphase] at hrest
    | direct =>
      have hheld := (Connection.resting_direct hphase).1 hrest
      have hexecute := keeping.execute (scan.command token options) env hheld
      dsimp only
      rw [Connection.ask_apply]
      cases hresult : Client.execute (scan.command token options) (c.client, env) with
      | error error s =>
        rw [Step.left_of_error hresult] at hexecute
        refine (Connection.resting_direct ?_).2 hexecute
        exact hphase
      | ok frame s =>
        rw [Step.left_of_ok hresult] at hexecute
        dsimp only
        cases scan.readPage frame <;>
          · refine (Connection.resting_direct ?_).2 hexecute
            exact hphase
  close s hrest := hrest.settled.close keeping s.2

end Cursor

/-! ## Every state that is reached -/

namespace Connection

variable [Client C E] {held : List Command → C → Prop} {gone : C → Prop} {c : Connection C}
  {kept : List Command}

/-- **One act** leaves a settled connection settled. -/
theorem Settled.perform (keeping : Client.Keeping (E := E) held gone)
    (h : c.Settled held gone kept) (act : Act) (env : E) :
    (act.perform c env).Settled held gone (act.waiting c env kept) := by
  cases act with
  | request request => exact h.run keeping env request
  | shutdown option => exact h.shutdown keeping env option
  | openPipeline => exact h.openPipeline env
  | closePipeline => exact h.closePipeline keeping env
  | close => exact (h.close keeping env).settled
  | openSentinel =>
    simp only [Act.perform, Act.waiting, left_openSentinel]
    exact h
  | scan kind options uses =>
    simp only [Act.perform, Act.waiting, scan_apply]
    cases hphase : c.phase with
    | direct =>
      obtain ⟨hheld, rfl⟩ := (settled_direct hphase).1 h
      have hrest : c.Resting held gone := (resting_direct hphase).2 hheld
      exact ((Cursor.lends_resting keeping).useAll uses
        ({ connection := c, options }, env) hrest).settled
    | pipelined pending => exact h
    | closed => exact h

/-- **In every state that is reached** the connection and its client agree on
what waits. -/
theorem Reached.settled {client : C} (keeping : Client.Keeping (E := E) held gone)
    (hnew : held [] client) (h : Reached (E := E) client c kept) : c.Settled held gone kept := by
  induction h with
  | opened sentinel => exact (settled_direct rfl).2 ⟨hnew, rfl⟩
  | act act env _ ih => exact ih.perform keeping act env

end Connection

end RedisClient
