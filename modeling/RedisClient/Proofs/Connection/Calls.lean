import RedisClient.Client.Journal
import RedisClient.Proofs.Connection.Count
import RedisClient.Proofs.Scan.Transition

/-!
# What a connection asks of its client

A journal holds the calls of every client; those that the connection's own
client has received are read off it (`Journal.own`). Every step of a connection
and of a cursor is described by two things: the calls that it adds to these, and
whether the connection is closed afterwards (`Connection.Asked`,
`Cursor.Asked`). What one act asks for, by the phase in which it is done, is
said once (`Act.Asks`); whatever is said of the calls of a run is derived from
it (`Connection.Asked.act`).
-/

namespace RedisClient

variable {C E α : Type}

/-! ## The calls of one client -/

namespace Journal

/-- The calls that the connection's own client has received. -/
def own (journal : Journal E) : List Call :=
  (journal.entries.filter fun entry => entry.owner = none).map JournalEntry.call

/-- A call is the client's own if it belongs to no sentinel. -/
theorem own_enter (journal : Journal E) (owner : Option Node) (call : Call) :
    (journal.enter owner call).own = journal.own ++ if owner = none then [call] else [] := by
  rw [own, enter, List.filter_append, List.map_append]
  cases owner <;> rfl

/-- **A journaled client receives the call that it makes**, whatever comes of
it, and stays whose it is. -/
theorem own_noting (call : C → Call) (step : Step (C × E) α) (client : Journaled C)
    (journal : Journal E) :
    (Step.left (noting call step) (client, journal)).1.owner = client.owner ∧
      (Step.left (noting call step) (client, journal)).2.own =
        journal.own ++ if client.owner = none then [call client.client] else [] := by
  rw [← own_enter]
  simp only [Step.left, Step.outcome, noting]
  cases step (client.client, (journal.enter client.owner (call client.client)).env) <;>
    exact ⟨rfl, rfl⟩

end Journal

/-! ## What a connection asks -/

/-- What a command that is dispatched asks for, by the phase. -/
def Operation.calls (operation : Operation) (command : Command) : Phase → List Call
  | .direct => [.execute command]
  | .pipelined _ => if operation.support = .unsupported then [] else [.queue command]
  | .closed => []

/-- What a request asks for: nothing if its arguments do not pass. -/
def Request.calls (request : Request) (phase : Phase) : List Call :=
  match request.check with
  | .ok _ => request.operation.calls request.command phase
  | .error _ => []

namespace Connection

/-- **What has been asked.** The client is the connection's own and has received
these calls, and the connection is closed or not. -/
structure Asked (closed : Bool) (calls : List Call) (s : Connection (Journaled C) × Journal E) :
    Prop where
  /-- The client is not a sentinel's. -/
  owner_eq : s.1.client.owner = none
  /-- Whether the connection is closed. -/
  isClosed_eq : s.1.isClosed = closed
  /-- What the client has received. -/
  own_eq : s.2.own = calls

namespace Asked

variable {closed : Bool} {calls : List Call} {c : Connection (Journaled C)} {journal : Journal E}

/-- The phase says whether the connection is closed. -/
theorem closed_eq (h : Asked closed calls (c, journal)) {phase : Phase} (hphase : c.phase = phase) :
    (phase == .closed) = closed :=
  hphase ▸ h.isClosed_eq

/-- One operation of the client is one call, and the phase may be set besides. -/
theorem ask (h : Asked closed calls (c, journal)) {call : C → Call} {step : Step (C × E) α}
    {operation : Step (Journaled C × Journal E) α} (hcall : operation = Journal.noting call step)
    {client : Journaled C} {after : Journal E}
    (hleft : Step.left operation (c.client, journal) = (client, after)) (phase : Phase) :
    Asked (phase == .closed) (calls ++ [call c.client.client])
      ({ c with client, phase }, after) := by
  obtain ⟨howner, hown⟩ := Journal.own_noting call step c.client journal
  rw [← hcall, hleft] at howner hown
  have hclient : c.client.owner = none := h.owner_eq
  refine ⟨howner.trans hclient, rfl, hown.trans ?_⟩
  rw [if_pos hclient]
  exact congrArg (· ++ _) h.own_eq

variable [Client C E]

/-- **Dispatching a command** asks for one call at most. -/
theorem dispatch (h : Asked closed calls (c, journal)) (operation : Operation) (command : Command)
    (kind : ReplyKind) :
    Asked closed (calls ++ operation.calls command c.phase)
      (Step.left (Connection.dispatch operation command kind) (c, journal)) := by
  simp only [Step.left, Step.outcome, dispatch_apply]
  cases hphase : c.phase with
  | direct =>
    obtain rfl := h.closed_eq hphase
    cases hresult : Client.execute command (c.client, journal) with
    | error error s => exact h.ask rfl (Step.left_of_error hresult) .direct
    | ok frame s =>
      dsimp only
      cases kind.read frame <;> exact h.ask rfl (Step.left_of_ok hresult) .direct
  | pipelined pending =>
    by_cases hsupport : operation.support = .unsupported
    · simp only [Operation.calls, if_pos hsupport, List.append_nil]
      exact h
    · obtain rfl := h.closed_eq hphase
      simp only [Operation.calls, if_neg hsupport]
      cases hresult : Client.queue command (c.client, journal) with
      | error error s => exact h.ask rfl (Step.left_of_error hresult) (.pipelined pending)
      | ok _ s => exact h.ask rfl (Step.left_of_ok hresult) (.pipelined (pending ++ [kind]))
  | closed =>
    simp only [Operation.calls, List.append_nil]
    exact h

/-- **Running a request** does, if its arguments pass. -/
theorem run (h : Asked closed calls (c, journal)) (request : Request) :
    Asked closed (calls ++ request.calls c.phase)
      (Step.left (Connection.run request) (c, journal)) := by
  have hdispatch := h.dispatch request.operation request.command request.kind
  simp only [Step.left, Step.outcome, run_apply, Request.calls] at hdispatch ⊢
  cases request.check with
  | ok _ => exact hdispatch
  | error error =>
    rw [List.append_nil]
    exact h

/-- **Stopping the server** does. -/
theorem shutdown (h : Asked closed calls (c, journal)) (option : Option SaveOption) :
    Asked closed (calls ++ (shutdownOperation option).calls (shutdownCommand option) c.phase)
      (Step.left (Connection.shutdown option) (c, journal)) := by
  have hdispatch := h.dispatch (shutdownOperation option) (shutdownCommand option) .status
  simp only [Step.left, Step.outcome, shutdown_apply] at hdispatch ⊢
  cases hresult : Connection.dispatch (shutdownOperation option) (shutdownCommand option) .status
    (c, journal) with
  | ok reply s => simpa only [hresult] using hdispatch
  | error error s =>
    simp only [hresult] at hdispatch ⊢
    cases endsStream error <;> exact hdispatch

omit [Client C E] in
/-- **Opening a pipeline** asks for nothing. -/
theorem openPipeline (h : Asked closed calls (c, journal)) :
    Asked closed calls (Step.left Connection.openPipeline (c, journal)) := by
  simp only [Step.left, Step.outcome, openPipeline_apply]
  cases hphase : c.phase with
  | direct =>
    obtain rfl := h.closed_eq hphase
    exact ⟨h.owner_eq, rfl, h.own_eq⟩
  | pipelined pending => exact h
  | closed => exact h

/-- **Closing the pipeline** asks for one sync, if anything waits. -/
theorem closePipeline (h : Asked closed calls (c, journal)) :
    Asked closed
      (calls ++ if c.pending = [] then [] else [.sync (Client.queued c.client.client)])
      (Step.left Connection.closePipeline (c, journal)) := by
  simp only [Step.left, Step.outcome, closePipeline_apply]
  cases hphase : c.phase with
  | direct | closed =>
    have hpending : c.pending = [] := by rw [pending, hphase]
    rw [if_pos hpending, List.append_nil]
    exact h
  | pipelined waiting =>
    obtain rfl := h.closed_eq hphase
    have hpending : c.pending = waiting := by rw [pending, hphase]
    rw [hpending]
    by_cases hempty : waiting = []
    · simp only [if_pos hempty, List.append_nil]
      exact ⟨h.owner_eq, rfl, h.own_eq⟩
    · simp only [if_neg hempty]
      cases hresult : (Client.sync : Step (Journaled C × Journal E) (List (Except Error Frame)))
        (c.client, journal) with
      | error error s => exact h.ask rfl (Step.left_of_error hresult) .direct
      | ok replies s =>
        have hcall := h.ask rfl (Step.left_of_ok hresult) .direct
        by_cases hcount : replies.length = waiting.length
        · simp only [if_pos hcount]
          exact hcall
        · simp only [if_neg hcount]
          exact hcall

/-- **Closing the connection** asks for the client to be given back, once. -/
theorem close (h : Asked closed calls (c, journal)) :
    Asked true (calls ++ if closed then [] else [.quit])
      (Step.left Connection.close (c, journal)) := by
  simp only [Step.left, Step.outcome, close_apply]
  cases hphase : c.phase with
  | closed =>
    obtain rfl := h.closed_eq hphase
    have hnone : (if (Phase.closed == .closed) = true then [] else [Call.quit]) = [] := rfl
    rw [hnone, List.append_nil]
    exact h
  | direct | pipelined _ =>
    obtain rfl := h.closed_eq hphase
    cases hresult : (Client.quit : Step (Journaled C × Journal E) Unit) (c.client, journal) with
    | error error s => exact h.ask rfl (Step.left_of_error hresult) .closed
    | ok _ s => exact h.ask rfl (Step.left_of_ok hresult) .closed

end Asked

end Connection

/-! ## Sentinels -/

namespace Sentinel

variable [Client C E]

/-- Opening a client for a sentinel is one call to the client that is asked. -/
theorem own_openSentinel {opener : Journaled C} (howner : opener.owner = none) (node : Node)
    (journal : Journal E) :
    (Client.openSentinel opener node journal).2.own = journal.own ++ [.openSentinel node] := by
  change (journal.enter opener.owner (.openSentinel node)).own = _
  rw [Journal.own_enter, if_pos howner]

/-- The client that is opened is the sentinel's. -/
theorem owner_of_openSentinel {opener client : Journaled C} {node : Node}
    {journal after : Journal E}
    (h : Client.openSentinel opener node journal = (.ok client, after)) :
    client.owner = some node := by
  have hfirst := congrArg Prod.fst h
  change (Client.openSentinel opener.client node journal.env).1.map
    (fun client => ({ owner := some node, client } : Journaled C)) = .ok client at hfirst
  cases hopened : (Client.openSentinel opener.client node journal.env).1 with
  | error error => simp [hopened, Except.map] at hfirst
  | ok opened =>
    simp only [hopened, Except.map, Except.ok.injEq] at hfirst
    rw [← hfirst]

omit [Client C E] in
/-- What a sentinel's client is asked is none of the connection's calls. -/
theorem own_of_owner {call : C → Call} {step : Step (C × E) α}
    {operation : Step (Journaled C × Journal E) α} (hcall : operation = Journal.noting call step)
    {client : Journaled C} {node : Node} (howner : client.owner = some node) (journal : Journal E) :
    (Step.left operation (client, journal)).1.owner = some node ∧
      (Step.left operation (client, journal)).2.own = journal.own := by
  obtain ⟨howner', hown⟩ := Journal.own_noting call step client journal
  rw [← hcall, howner] at howner'
  rw [← hcall, howner, if_neg (by simp), List.append_nil] at hown
  exact ⟨howner', hown⟩

/-- Trying a sentinel is one call to the client that opens its client. -/
theorem own_reached? {opener : Journaled C} (howner : opener.owner = none) (node : Node)
    (journal : Journal E) :
    (reached? opener node journal).2.own = journal.own ++ [.openSentinel node] := by
  have hopened := own_openSentinel howner node journal
  rw [reached?]
  rcases hopen : Client.openSentinel opener node journal with ⟨error | client, after⟩
  · rw [hopen] at hopened
    exact hopened
  · rw [hopen] at hopened
    have hclient := owner_of_openSentinel hopen
    have hping : (Step.left (Client.execute .ping) (client, after)).1.owner = some node ∧
        (Step.left (Client.execute .ping) (client, after)).2.own = after.own :=
      own_of_owner rfl hclient after
    dsimp only
    cases hresult : Client.execute .ping (client, after) with
    | ok frame s =>
      rw [Step.left_of_ok hresult] at hping
      exact hping.2.trans hopened
    | error error s =>
      rw [Step.left_of_error hresult] at hping
      have hquit : (Step.left Client.quit (s.1, s.2)).2.own = s.2.own :=
        (own_of_owner rfl hping.1 s.2).2
      exact hquit.trans (hping.2.trans hopened)

/-- Looking for a sentinel that answers is one such call for each that is
tried. -/
theorem own_firstReached? {opener : Journaled C} (howner : opener.owner = none)
    (nodes : List Node) (journal : Journal E) :
    ∃ tried : List Node, tried <+: nodes ∧
      (firstReached? opener nodes journal).2.own = journal.own ++ tried.map .openSentinel := by
  induction nodes generalizing journal with
  | nil => exact ⟨[], List.nil_prefix, (List.append_nil _).symm⟩
  | cons node rest ih =>
    have hreached := own_reached? howner node journal
    rw [firstReached?]
    rcases hresult : reached? opener node journal with ⟨_ | sentinel, after⟩ <;>
      rw [hresult] at hreached
    · obtain ⟨tried, hpre, hown⟩ := ih after
      refine ⟨node :: tried, List.cons_prefix_cons.2 ⟨rfl, hpre⟩, hown.trans ?_⟩
      rw [hreached, List.append_assoc]
      rfl
    · exact ⟨[node], List.cons_prefix_cons.2 ⟨rfl, List.nil_prefix⟩, hreached⟩

end Sentinel

/-- **Opening a connection to a sentinel** asks for clients of some of the
sentinels, and a closed connection asks for none. -/
theorem Connection.Asked.openSentinel [Client C E] {closed : Bool} {calls : List Call}
    {c : Connection (Journaled C)} {journal : Journal E} (h : Asked closed calls (c, journal)) :
    ∃ tried : List Node, (closed = true → tried = []) ∧
      Asked closed (calls ++ tried.map .openSentinel)
        (Step.left Connection.openSentinel (c, journal)) := by
  have hsame := left_openSentinel (c := c) journal
  have hown : ∃ tried : List Node, (closed = true → tried = []) ∧
      (Step.left Connection.openSentinel (c, journal)).2.own =
        journal.own ++ tried.map .openSentinel := by
    simp only [Step.left, Step.outcome, Connection.openSentinel, Step.bind_apply, Step.get_apply]
    cases c.sentinel with
    | none => exact ⟨[], fun _ => rfl, (List.append_nil _).symm⟩
    | some group =>
      simp only [Step.bind_apply, ensureOpen_apply]
      cases hphase : c.phase with
      | closed => exact ⟨[], fun _ => rfl, (List.append_nil _).symm⟩
      | direct | pipelined _ =>
        obtain rfl := h.closed_eq hphase
        obtain ⟨tried, -, hown⟩ := Sentinel.own_firstReached? h.owner_eq group.nodes journal
        refine ⟨tried, fun hclosed => absurd hclosed Bool.false_ne_true, ?_⟩
        simp only [Step.modifyGet_apply]
        cases (Sentinel.firstReached? c.client group.nodes journal).1 <;> exact hown
  obtain ⟨tried, hnone, hown⟩ := hown
  -- the connection itself is left as it was, and only the journal has grown
  refine ⟨tried, hnone, ?_, ?_, ?_⟩
  · rw [hsame]
    exact h.owner_eq
  · rw [hsame]
    exact h.isClosed_eq
  · rw [hown]
    exact congrArg (· ++ _) h.own_eq

/-! ## What a cursor asks -/

namespace Cursor

variable {scan : Scan} {closed : Bool} {calls : List Call}

/-- **What has been asked**, and that the cursor and the connection that it has
taken over are both open or both closed. -/
structure Asked (closed : Bool) (calls : List Call) (s : Cursor (Journaled C) scan × Journal E) :
    Prop where
  /-- Whether the cursor is closed. -/
  closed_eq : s.1.closed = closed
  /-- What its connection has asked. -/
  connection : Connection.Asked closed calls (s.1.connection, s.2)

/-- Besides these calls, some pages have been asked for, and by a closed cursor
none. -/
def Paged (closed : Bool) (calls : List Call) (s : Cursor (Journaled C) scan × Journal E) : Prop :=
  ∃ pages : List Command, (closed = true → pages = []) ∧
    Asked closed (calls ++ pages.map .execute) s

namespace Asked

variable {s : Cursor (Journaled C) scan × Journal E}

/-- No page has been asked for yet. -/
theorem paged (h : Asked closed calls s) : Paged closed calls s :=
  ⟨[], fun _ => rfl, by simpa using h⟩

variable [Client C E]

/-- **Asking for a page** asks for one command, if the connection is open. -/
theorem requestPage (h : Asked closed calls s) :
    Paged closed calls (Step.left Cursor.requestPage s) := by
  obtain ⟨cursor, journal⟩ := s
  simp only [Step.left, Step.outcome, requestPage_apply]
  cases hphase : cursor.connection.phase with
  | closed => exact h.paged
  | direct | pipelined _ =>
    have hopen := h.connection.closed_eq hphase
    refine ⟨[scan.request cursor.token cursor.options],
      fun hclosed => absurd (hopen.trans hclosed) Bool.false_ne_true, ?_⟩
    cases hresult : Client.execute (scan.request cursor.token cursor.options)
      (cursor.connection.client, journal) with
    | error error s =>
      have hcall := h.connection.ask rfl (Step.left_of_error hresult) cursor.connection.phase
      rw [h.connection.closed_eq rfl] at hcall
      exact ⟨h.closed_eq, hcall⟩
    | ok frame s =>
      have hcall := h.connection.ask rfl (Step.left_of_ok hresult) cursor.connection.phase
      rw [h.connection.closed_eq rfl] at hcall
      dsimp only
      cases scan.readPage frame <;> exact ⟨h.closed_eq, hcall⟩

/-- **Closing the cursor** gives the client back, once. -/
theorem close (h : Asked closed calls s) :
    Asked true (calls ++ if closed then [] else [.quit]) (Step.left Cursor.close s) := by
  obtain ⟨cursor, journal⟩ := s
  have hclose := h.connection.close
  simp only [Step.left, Step.outcome, close_apply] at hclose ⊢
  obtain rfl : cursor.closed = closed := h.closed_eq
  cases hclosed : cursor.closed with
  | true =>
    simp only [if_true, List.append_nil]
    rw [hclosed] at h
    exact h
  | false =>
    simp only [hclosed, Bool.false_eq_true, if_false] at hclose ⊢
    cases hresult : (Connection.close : Step (Connection (Journaled C) × Journal E) Unit)
      (cursor.connection, journal) with
    | ok _ s =>
      rw [hresult] at hclose
      exact ⟨rfl, hclose⟩
    | error error s =>
      rw [hresult] at hclose
      exact ⟨rfl, hclose⟩

/-- **Letting go of it** does the same. -/
theorem release (h : Asked closed calls s) :
    Asked true (calls ++ if closed then [] else [.quit]) (Step.left Cursor.release s) := by
  rw [Step.left_of_ok (release_apply s.1 s.2)]
  exact h.close

end Asked

variable [Client C E]

/-- **Looking for items** asks for pages and for nothing else. -/
theorem looking_paged :
    Looking (Paged closed calls : Cursor (Journaled C) scan × Journal E → Prop) where
  modifyCursor {f} hinner := by
    rintro ⟨cursor, journal⟩ ⟨pages, hnone, h⟩
    obtain ⟨hconnection, hclosed⟩ := hinner cursor
    refine ⟨pages, hnone, hclosed.trans h.closed_eq, ?_⟩
    change Connection.Asked _ _ ((f cursor).connection, journal)
    rw [hconnection]
    exact h.connection
  requestPage := by
    rintro s ⟨before, hbefore, h⟩
    obtain ⟨pages, hnone, hasked⟩ := h.requestPage
    refine ⟨before ++ pages, fun hclosed => ?_, ?_⟩
    · rw [hbefore hclosed, hnone hclosed, List.append_nil]
    · rw [List.map_append, ← List.append_assoc]
      exact hasked

/-- **Using a cursor again and again** asks for pages, and for the client to be
given back where the cursor is closed. A closed cursor asks for nothing. -/
theorem Asked.useEach {s : Cursor (Journaled C) scan × Journal E} (h : Asked closed calls s)
    (uses : List CursorUse) :
    ∃ (pages : List Command) (after : Bool), (closed = true → pages = []) ∧
      (after = true ↔ closed = true ∨ CursorUse.close ∈ uses) ∧
      Asked after (calls ++ pages.map .execute ++ if after && !closed then [.quit] else [])
        (Step.left (Cursor.useEach uses) s) := by
  -- what has been asked so far moves on with the cursor, so the rest is from where it has led
  induction uses generalizing closed calls s with
  | nil =>
    refine ⟨[], closed, fun _ => rfl, by simp, ?_⟩
    rw [Bool.and_not_self, if_neg Bool.false_ne_true, List.map_nil, List.append_nil,
      List.append_nil]
    exact h
  | cons first rest ih =>
    -- looking asks for pages, which come before all that is asked later
    have hlook : CursorUse.close ∉ [first] → Paged closed calls
        (Step.left (Cursor.use first) s) →
        ∃ (pages : List Command) (after : Bool), (closed = true → pages = []) ∧
          (after = true ↔ closed = true ∨ CursorUse.close ∈ first :: rest) ∧
          Asked after (calls ++ pages.map .execute ++ if after && !closed then [.quit] else [])
            (Step.left (Cursor.useEach (first :: rest)) s) := by
      rintro hfirst ⟨pages, hnone, hasked⟩
      obtain ⟨others, after, hothers, hafter, hrest⟩ := ih hasked
      refine ⟨pages ++ others, after, fun hclosed => ?_, ?_, ?_⟩
      · rw [hnone hclosed, hothers hclosed, List.append_nil]
      · rw [hafter, List.mem_cons, or_iff_right fun heq => hfirst (List.mem_singleton.2 heq)]
      · rw [Cursor.useEach, Step.left_attempt_bind, List.map_append, ← List.append_assoc calls]
        exact hrest
    cases first with
    | hasNext pages =>
      refine hlook (by simp) ?_
      exact (Step.Preserves.bind (looking_paged.hasNext pages) fun _ => .of_pure _) _ h.paged
    | next pages =>
      refine hlook (by simp) ?_
      exact (Step.Preserves.bind (looking_paged.next pages) fun _ => .of_pure _) _ h.paged
    | close =>
      obtain ⟨pages, after, hnone, hafter, hrest⟩ := ih h.close
      obtain rfl : after = true := hafter.2 (.inl rfl)
      obtain rfl := hnone rfl
      refine ⟨[], true, fun _ => rfl, by simp, ?_⟩
      rw [Cursor.useEach, Step.left_attempt_bind]
      change Asked true _ (Step.left (Cursor.useEach rest) (Step.left Cursor.close s))
      cases closed <;> simpa using hrest

/-- Using a cursor and letting go of it is to let go of it where its use has
led. -/
theorem left_useAll (uses : List CursorUse) (s : Cursor C scan × E) :
    Step.left (useAll uses) s = Step.left release (Step.left (Cursor.useEach uses) s) := by
  induction uses generalizing s with
  | nil => rfl
  | cons first rest ih =>
    rw [useAll, Cursor.useEach, Step.left_attempt_bind, Step.left_attempt_bind, ih]

end Cursor

/-! ## What an act asks -/

namespace Act

variable [Client C E]

/-- What an act asks for, by the connection that it is done with. -/
def Asks (c : Connection C) (calls : List Call) : Act → Prop
  | .request r => calls = r.calls c.phase
  | .shutdown option =>
    calls =
      (Connection.shutdownOperation option).calls (Connection.shutdownCommand option) c.phase
  | .openPipeline => calls = []
  | .closePipeline => calls = if c.pending = [] then [] else [.sync (Client.queued c.client)]
  | .close => calls = if c.isClosed then [] else [.quit]
  | .scan _ _ _ =>
    match c.phase with
    | .direct => ∃ pages : List Command, calls = pages.map .execute ++ [.quit]
    | .pipelined _ | .closed => calls = []
  | .openSentinel => ∃ tried : List Node, (c.isClosed = true → tried = []) ∧
      calls = tried.map .openSentinel

/-- The connection and its surroundings after an act. -/
def after (s : Connection C × E) : Act → Connection C × E
  | .request r => Step.left (Connection.run r) s
  | .shutdown option => Step.left (Connection.shutdown option) s
  | .openPipeline => Step.left Connection.openPipeline s
  | .closePipeline => Step.left Connection.closePipeline s
  | .close => Step.left Connection.close s
  | .openSentinel => Step.left Connection.openSentinel s
  | .scan kind options uses =>
    match Connection.scan kind options s with
    | .error _ s => s
    | .ok cursor s =>
      let t := Step.left (Cursor.useAll uses) (cursor, s.2)
      (t.1.connection, t.2)

end Act

/-- A command that is dispatched does not ask for the client to be given back. -/
theorem Operation.quit_notMem_calls (operation : Operation) (command : Command) (phase : Phase) :
    .quit ∉ operation.calls command phase := by
  cases phase with
  | pipelined pending =>
    rw [Operation.calls]
    split <;> simp
  | direct | closed => simp [Operation.calls]

/-- Nor does a request. -/
theorem Request.quit_notMem_calls (request : Request) (phase : Phase) :
    .quit ∉ request.calls phase := by
  rw [Request.calls]
  cases request.check with
  | ok _ => exact request.operation.quit_notMem_calls request.command phase
  | error _ => exact List.not_mem_nil

namespace Connection.Asked

variable [Client C E] {closed : Bool} {calls : List Call} {c : Connection (Journaled C)}
  {journal : Journal E}

omit [Client C E] in
/-- Where the client is not asked to give its stream back, the connection is as
open as before. -/
theorem of_notMem {more : List Call} {s : Connection (Journaled C) × Journal E}
    (h : Asked closed (calls ++ more) s) (hquit : .quit ∉ more) :
    Asked (closed || decide (.quit ∈ more)) (calls ++ more) s := by
  rw [decide_eq_false hquit, Bool.or_false]
  exact h

/-- **A scan** asks for pages, and then for the client to be given back. It is
refused while a pipeline is open and once the connection is closed. -/
theorem scan (h : Asked closed calls (c, journal)) (kind : Scan) (options : ScanOptions)
    (uses : List CursorUse) :
    ∃ more, (Act.scan kind options uses).Asks c more ∧
      Asked (closed || decide (.quit ∈ more)) (calls ++ more)
        ((Act.scan kind options uses).after (c, journal)) := by
  simp only [Act.after, scan_apply, Act.Asks]
  cases hphase : c.phase with
  | pipelined _ | closed => exact ⟨[], rfl, of_notMem (by simpa using h) (by simp)⟩
  | direct =>
    obtain rfl := h.closed_eq hphase
    have hcursor : Cursor.Asked false calls
        (({ connection := c, options } : Cursor (Journaled C) kind), journal) := ⟨rfl, h⟩
    obtain ⟨pages, after, -, -, heach⟩ := hcursor.useEach uses
    have hrelease := heach.release
    refine ⟨pages.map .execute ++ [.quit], ⟨pages, rfl⟩, ?_⟩
    have hquit : (Phase.direct == .closed || decide (Call.quit ∈ pages.map .execute ++ [.quit])) =
        true := by simp
    rw [hquit]
    dsimp only
    rw [Cursor.left_useAll]
    -- the client is given back by closing the cursor, or else by letting go of it
    cases after <;> simpa using hrelease.connection

/-- **What an act does**, as far as the client's calls are concerned: it asks
for what it asks for in this phase, and the connection is closed afterwards if
it was before or the client has been asked to give its stream back. -/
theorem act (h : Asked closed calls (c, journal)) (act : Act) :
    ∃ more, act.Asks c more ∧
      Asked (closed || decide (.quit ∈ more)) (calls ++ more) (act.after (c, journal)) := by
  cases act with
  | request request =>
    exact ⟨_, rfl, (h.run request).of_notMem (request.quit_notMem_calls c.phase)⟩
  | shutdown option =>
    exact ⟨_, rfl, (h.shutdown option).of_notMem (Operation.quit_notMem_calls _ _ c.phase)⟩
  | openPipeline =>
    refine ⟨[], rfl, of_notMem ?_ List.not_mem_nil⟩
    rw [List.append_nil]
    exact h.openPipeline
  | closePipeline =>
    refine ⟨_, rfl, h.closePipeline.of_notMem ?_⟩
    split <;> simp
  | close =>
    have hclosed : c.isClosed = closed := h.isClosed_eq
    have hclose : Asked true _ (Act.after (c, journal) .close) := h.close
    refine ⟨_, rfl, ?_⟩
    rw [hclosed]
    cases closed <;> simpa using hclose
  | scan kind options uses => exact h.scan kind options uses
  | openSentinel =>
    obtain ⟨tried, hnone, hasked⟩ := h.openSentinel
    have huntried : c.isClosed = true → tried = [] := fun hclosed =>
      hnone (h.isClosed_eq.symm.trans hclosed)
    exact ⟨_, ⟨tried, huntried, rfl⟩, hasked.of_notMem (by simp)⟩

end Connection.Asked

/-! ## The calls of a run -/

namespace Connection

/-- **The runs of a connection whose client keeps a journal**, from its making
on: acts in any order, and between them whatever else happens in the
surroundings, as long as nobody else calls its client. -/
inductive Recorded [Client C E] (client : C) : Connection (Journaled C) × Journal E → Prop
  /-- A new connection, of whose client nothing has been asked. -/
  | opened (env : E) : Recorded client ({ client := { client } }, { env })
  /-- It is told the sentinels that watch the server. -/
  | watched {c : Connection (Journaled C)} {journal : Journal E} (group : SentinelGroup) :
      Recorded client (c, journal) → Recorded client ({ c with sentinel := some group }, journal)
  /-- One more act. -/
  | act {s : Connection (Journaled C) × Journal E} (act : Act) :
      Recorded client s → Recorded client (act.after s)
  /-- Something else happens. -/
  | elsewhere {c : Connection (Journaled C)} {journal : Journal E} (journal' : Journal E) :
      Recorded client (c, journal) → journal'.own = journal.own → Recorded client (c, journal')

/-- The client of a run is the connection's own. -/
theorem Recorded.asked [Client C E] {client : C} {s : Connection (Journaled C) × Journal E}
    (h : Recorded client s) : Asked s.1.isClosed s.2.own s := by
  refine ⟨?_, rfl, rfl⟩
  -- the calls and the phase are the state's own; only whose the client is has to be carried
  induction h with
  | opened env => rfl
  | watched group _ ih => exact ih
  | @act s act _ ih =>
    have hasked : Asked s.1.isClosed s.2.own (s.1, s.2) := ⟨ih, rfl, rfl⟩
    obtain ⟨more, -, hafter⟩ := hasked.act act
    exact hafter.owner_eq
  | elsewhere journal' _ _ ih => exact ih

end Connection

end RedisClient
