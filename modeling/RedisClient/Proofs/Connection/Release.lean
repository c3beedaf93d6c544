import RedisClient.Client.Scripted
import RedisClient.Proofs.Connection.Calls

/-!
# Giving the client back

A connection may be closed, a cursor on it may be closed, and a cursor may be
let go of, each of them at any time and more than once, and giving the client
back may fail. Along every run the client is asked to give its stream back at
most once, has been asked exactly if the connection is closed, and is asked
nothing more afterwards (`ReleasedOnce`); the connection answers for itself from
then on (`Connection.Silent`). What carries this through a run is what a single
act asks for: nothing on a closed connection, and never anything behind the
request to give the stream back (`EndsWithQuit`).
-/

namespace RedisClient

variable {C E : Type}

/-! ## Calls that end -/

/-- Nothing is asked once the client has been asked to give its stream back. -/
def EndsWithQuit (calls : List Call) : Prop :=
  ∀ before after, calls = before ++ .quit :: after → after = []

namespace EndsWithQuit

variable {calls more : List Call}

/-- Calls without that request. -/
theorem of_notMem (h : .quit ∉ calls) : EndsWithQuit calls := by
  rintro before after rfl
  exact absurd (List.mem_append_right before List.mem_cons_self) h

/-- That request alone. -/
theorem quit : EndsWithQuit [.quit] := by
  intro before after heq
  have hlength := congrArg List.length heq
  simp only [List.length_append, List.length_cons, List.length_nil] at hlength
  exact List.length_eq_zero_iff.1 (by omega)

/-- Calls without that request, and then some that end with it. -/
theorem append (h : .quit ∉ calls) (hmore : EndsWithQuit more) : EndsWithQuit (calls ++ more) := by
  intro before after heq
  rcases List.append_eq_append_iff.1 heq with ⟨rest, rfl, hrest⟩ | ⟨rest, rfl, hrest⟩
  · exact hmore rest after hrest
  · cases rest with
    | nil => exact hmore [] after hrest.symm
    | cons call rest =>
      obtain ⟨rfl, -⟩ := List.cons_eq_cons.1 hrest
      exact absurd (List.mem_append_right before List.mem_cons_self) h

/-- So it is made at most once. -/
theorem count_le (h : EndsWithQuit calls) : calls.count .quit ≤ 1 := by
  by_cases hmem : Call.quit ∈ calls
  · obtain ⟨before, after, rfl, hbefore⟩ := List.eq_append_cons_of_mem hmem
    obtain rfl := h before after rfl
    rw [List.count_append, List.count_eq_zero_of_not_mem hbefore]
    simp
  · rw [List.count_eq_zero_of_not_mem hmem]
    exact Nat.zero_le 1

end EndsWithQuit

/-- **Given back once.** The client has been asked to give its stream back at
most once, exactly if the connection is closed, and nothing after that. -/
structure ReleasedOnce (closed : Bool) (calls : List Call) : Prop where
  /-- It has been asked at most once. -/
  count_le : calls.count .quit ≤ 1
  /-- It has been asked exactly if the connection is closed. -/
  mem_iff : .quit ∈ calls ↔ closed = true
  /-- It has been asked nothing since. -/
  ends : EndsWithQuit calls

namespace ReleasedOnce

variable {closed : Bool} {calls more : List Call}

/-- It has not been given back. -/
theorem of_notMem (h : .quit ∉ calls) : ReleasedOnce false calls := by
  have hends := EndsWithQuit.of_notMem h
  exact ⟨hends.count_le, by simpa using h, hends⟩

/-- It has just been given back. -/
theorem of_quit (h : .quit ∉ calls) : ReleasedOnce true (calls ++ [.quit]) := by
  have hends := EndsWithQuit.append h .quit
  exact ⟨hends.count_le, by simp, hends⟩

/-- **One more step**: a closed connection asks for nothing, and an open one for
nothing behind the request to give the stream back. -/
theorem append (h : ReleasedOnce closed calls) (hnone : closed = true → more = [])
    (hends : EndsWithQuit more) :
    ReleasedOnce (closed || decide (.quit ∈ more)) (calls ++ more) := by
  cases closed with
  | true =>
    rw [hnone rfl, List.append_nil]
    exact h
  | false =>
    have hopen : .quit ∉ calls := fun hmem => Bool.false_ne_true (h.mem_iff.1 hmem)
    have hboth := EndsWithQuit.append hopen hends
    refine ⟨hboth.count_le, ?_, hboth⟩
    rw [List.mem_append, or_iff_right hopen, Bool.false_or, decide_eq_true_iff]

end ReleasedOnce

namespace Act

variable [Client C E] {c : Connection C} {calls : List Call} {act : Act}

/-- On a closed connection an act asks for nothing. -/
theorem Asks.eq_nil (h : act.Asks c calls) (hclosed : c.isClosed = true) : calls = [] := by
  have hphase : c.phase = .closed := beq_iff_eq.1 hclosed
  cases act with
  | request request =>
    rw [Asks, Request.calls, hphase] at h
    rw [h]
    cases request.check <;> rfl
  | shutdown option =>
    rw [Asks, hphase] at h
    exact h
  | openPipeline => exact h
  | closePipeline =>
    have hnone : c.pending = [] := by rw [Connection.pending, hphase]
    rw [Asks, if_pos hnone] at h
    exact h
  | close =>
    rw [Asks, if_pos hclosed] at h
    exact h
  | scan kind options uses =>
    simp only [Asks, hphase] at h
    exact h
  | openSentinel =>
    obtain ⟨tried, hnone, rfl⟩ := h
    rw [hnone hclosed, List.map_nil]

/-- No act asks for anything behind the request to give the stream back. -/
theorem Asks.endsWithQuit (h : act.Asks c calls) : EndsWithQuit calls := by
  cases act with
  | request request =>
    obtain rfl := h
    exact .of_notMem (request.quit_notMem_calls c.phase)
  | shutdown option =>
    obtain rfl := h
    exact .of_notMem (Operation.quit_notMem_calls _ _ c.phase)
  | openPipeline =>
    obtain rfl := h
    exact .of_notMem List.not_mem_nil
  | closePipeline =>
    obtain rfl := h
    refine .of_notMem ?_
    split <;> simp
  | close =>
    obtain rfl := h
    split
    · exact .of_notMem List.not_mem_nil
    · exact .quit
  | scan kind options uses =>
    simp only [Asks] at h
    cases hphase : c.phase with
    | direct =>
      rw [hphase] at h
      obtain ⟨pages, rfl⟩ := h
      exact .append (by simp) .quit
    | pipelined _ | closed =>
      rw [hphase] at h
      obtain rfl := h
      exact .of_notMem List.not_mem_nil
  | openSentinel =>
    obtain ⟨tried, -, rfl⟩ := h
    exact .of_notMem (by simp)

end Act

/-! ## A closed connection -/

namespace Connection

variable [Client C E]

/-- **A silent connection** answers for itself: closing it or its pipeline comes
to nothing, and everything else is refused. Nothing changes. -/
structure Silent (c : Connection C) : Prop where
  /-- Closing it succeeds. -/
  close : ∀ env : E, Connection.close (c, env) = .ok () (c, env)
  /-- Closing a pipeline succeeds and gives nothing. -/
  closePipeline : ∀ env : E, Connection.closePipeline (c, env) = .ok [] (c, env)
  /-- A request with arguments that pass is refused. -/
  run : ∀ (request : Request) (env : E), request.check = .ok () →
    Connection.run request (c, env) = .error (.misuse .connectionClosed) (c, env)
  /-- So is stopping the server. -/
  shutdown : ∀ (option : Option SaveOption) (env : E),
    Connection.shutdown option (c, env) = .error (.misuse .connectionClosed) (c, env)
  /-- So is opening a pipeline. -/
  openPipeline : ∀ env : E,
    Connection.openPipeline (c, env) = .error (.misuse .connectionClosed) (c, env)
  /-- So is a scan. -/
  scan : ∀ (kind : Scan) (options : ScanOptions) (env : E),
    Connection.scan kind options (c, env) = .error (.misuse .connectionClosed) (c, env)
  /-- A connection to a sentinel is refused where there are sentinels. -/
  openSentinel : ∀ (group : SentinelGroup) (env : E), c.sentinel = some group →
    Connection.openSentinel (c, env) = .error (.misuse .connectionClosed) (c, env)
  /-- Where there are none, it is for want of them. -/
  openSentinel_none : ∀ env : E, c.sentinel = none →
    Connection.openSentinel (c, env) = .error (.resourceUsage .noSentinels) (c, env)

/-- **A closed connection is silent.** -/
theorem silent_of_isClosed {c : Connection C} (hclosed : c.isClosed = true) :
    Silent (E := E) c := by
  have hphase : c.phase = .closed := beq_iff_eq.1 hclosed
  have hdispatch : ∀ (operation : Operation) (command : Command) (kind : ReplyKind) (env : E),
      dispatch operation command kind (c, env) = .error (.misuse .connectionClosed) (c, env) := by
    intro operation command kind env
    rw [dispatch_apply, hphase]
  refine ⟨fun env => ?_, fun env => ?_, fun request env hcheck => ?_, fun option env => ?_,
    fun env => ?_, fun kind options env => ?_, fun group env hgroup => ?_, fun env hnone => ?_⟩
  · rw [close_apply, hphase]
  · rw [closePipeline_apply, hphase]
  · rw [run_apply, hcheck]
    exact hdispatch request.operation request.command request.kind env
  · rw [shutdown_apply, hdispatch]
    rfl
  · rw [openPipeline_apply, hphase]
  · rw [scan_apply, hphase]
  · simp only [Connection.openSentinel, Step.bind_apply, Step.get_apply, hgroup, ensureOpen_apply,
      hphase]
  · simp only [Connection.openSentinel, Step.bind_apply, Step.get_apply, hnone]
    rfl

end Connection

/-- **A silent cursor** refuses to look for items, and closing it comes to
nothing. -/
structure Cursor.Silent [Client C E] {scan : Scan} (cursor : Cursor C scan) : Prop where
  /-- Asking whether there is another item is refused. -/
  hasNext : ∀ (pages : Nat) (env : E),
    Cursor.hasNext pages (cursor, env) = .error (.misuse .cursorClosed) (cursor, env)
  /-- So is asking for the next item. -/
  next : ∀ (pages : Nat) (env : E),
    Cursor.next pages (cursor, env) = .error (.misuse .cursorClosed) (cursor, env)
  /-- Closing it succeeds. -/
  close : ∀ env : E, Cursor.close (cursor, env) = .ok () (cursor, env)

/-- **A closed cursor is silent.** -/
theorem Cursor.silent_of_closed [Client C E] {scan : Scan} {cursor : Cursor C scan}
    (hclosed : cursor.closed = true) : Silent (E := E) cursor := by
  have hpeek : ∀ (pages : Nat) (env : E),
      peek pages (cursor, env) = .error (.misuse .cursorClosed) (cursor, env) := by
    intro pages env
    rw [peek_apply, if_pos hclosed]
  refine ⟨fun pages env => ?_, fun pages env => ?_, fun env => ?_⟩
  · rw [hasNext_apply, hpeek]
  · rw [next_apply, hpeek]
  · rw [close_apply, if_pos hclosed]

/-! ## Every run -/

namespace Connection

variable [Client C E] {client : C} {c : Connection (Journaled C)} {journal : Journal E}

/-- Along every run the client is given back once. -/
theorem Recorded.releasedOnce {s : Connection (Journaled C) × Journal E}
    (h : Recorded client s) : ReleasedOnce s.1.isClosed s.2.own := by
  -- an act adds what it asks for, which is nothing once the connection is closed
  induction h with
  | opened env => exact .of_notMem List.not_mem_nil
  | watched group _ ih => exact ih
  | @act s act hrun ih =>
    obtain ⟨c, journal⟩ := s
    obtain ⟨more, hasks, hafter⟩ := hrun.asked.act act
    have hmore := ih.append hasks.eq_nil hasks.endsWithQuit
    rw [← hafter.isClosed_eq, ← hafter.own_eq] at hmore
    exact hmore
  | elsewhere journal' _ hown ih =>
    rw [← hown] at ih
    exact ih

/-- **What a cursor adds to a run.** While it is used, pages are asked for, and
behind them the client to be given back, if and only if the cursor is closed.
Letting go of a cursor closes it if it is open. -/
structure Traversed {scan : Scan} (calls : List Call) (uses : List CursorUse)
    (t : Cursor (Journaled C) scan × Journal E) : Prop where
  /-- The cursor is closed exactly if it has been closed. -/
  closed_iff : t.1.closed = true ↔ CursorUse.close ∈ uses
  /-- Its connection is closed with it. -/
  isClosed_eq : t.1.connection.isClosed = t.1.closed
  /-- Pages have been asked for, and where it is closed the client to be given
  back. -/
  own_eq : ∃ pages : List Command,
    t.2.own = calls ++ pages.map .execute ++ if t.1.closed then [.quit] else []
  /-- The client has been given back once. -/
  releasedOnce : ReleasedOnce t.1.closed t.2.own
  /-- Letting go of the cursor closes the connection. -/
  isClosed_release : (Step.left Cursor.release t).1.connection.isClosed = true
  /-- It asks for the client to be given back, unless that has been asked. -/
  own_release : (Step.left Cursor.release t).2.own =
    t.2.own ++ if t.1.closed then [] else [.quit]
  /-- Then it has been given back once, too. -/
  releasedOnce_release : ReleasedOnce true (Step.left Cursor.release t).2.own
  /-- A closed cursor is silent. -/
  silent : t.1.closed = true → Cursor.Silent (E := Journal E) t.1

/-- A cursor on a connection that has not been given back yet. -/
theorem Traversed.of_asked {scan : Scan} {calls : List Call}
    {s : Cursor (Journaled C) scan × Journal E} (h : Cursor.Asked false calls s)
    (hnone : ReleasedOnce false calls) (uses : List CursorUse) :
    Traversed calls uses (Step.left (Cursor.useEach uses) s) := by
  obtain ⟨pages, after, -, hafter, heach⟩ := h.useEach uses
  have hrelease := heach.release
  generalize Step.left (Cursor.useEach uses) s = t at heach hrelease
  obtain rfl : t.1.closed = after := heach.closed_eq
  rw [Bool.not_false, Bool.and_true] at heach hrelease
  have hown : t.2.own = calls ++ pages.map .execute ++ if t.1.closed then [.quit] else [] :=
    heach.connection.own_eq
  -- up to the pages nothing has asked for the client to be given back
  have hopen : .quit ∉ calls ++ pages.map .execute := by
    intro hmem
    rcases List.mem_append.1 hmem with hmem | hmem
    · exact Bool.false_ne_true (hnone.mem_iff.1 hmem)
    · simp at hmem
  have hgiven : (Step.left Cursor.release t).2.own =
      t.2.own ++ if t.1.closed then [] else [.quit] :=
    hown ▸ hrelease.connection.own_eq
  refine
    { closed_iff := by simpa using hafter
      isClosed_eq := heach.connection.isClosed_eq
      own_eq := ⟨pages, hown⟩
      releasedOnce := ?_
      isClosed_release := hrelease.connection.isClosed_eq
      own_release := hgiven
      releasedOnce_release := ?_
      silent := Cursor.silent_of_closed }
  · rw [hown]
    cases t.1.closed with
    | true => exact .of_quit hopen
    | false =>
      rw [if_neg Bool.false_ne_true, List.append_nil]
      exact .of_notMem hopen
  · rw [hgiven, hown]
    cases t.1.closed <;> simpa using ReleasedOnce.of_quit hopen

/-- **The client is given back exactly once, and then there is silence.** Along
every run the client is asked to give its stream back at most once, has been
asked exactly if the connection is closed, and is asked nothing afterwards; a
closed connection answers for itself. The same holds while a cursor has the
connection, however often it is used and closed; only closing it or letting go
of it gives the client back. -/
theorem released_once_and_silent (h : Recorded client (c, journal)) :
    ReleasedOnce c.isClosed journal.own ∧
      (c.isClosed = true → Silent (E := Journal E) c) ∧
      ∀ (kind : Scan) (options : ScanOptions) (cursor : Cursor (Journaled C) kind)
        (s : Connection (Journaled C) × Journal E) (uses : List CursorUse),
        Connection.scan kind options (c, journal) = .ok cursor s →
          Traversed journal.own uses (Step.left (Cursor.useEach uses) (cursor, s.2)) := by
  have hreleased := h.releasedOnce
  refine ⟨hreleased, silent_of_isClosed, fun kind options cursor s uses hscan => ?_⟩
  rw [scan_apply] at hscan
  cases hphase : c.phase with
  | direct =>
    simp only [hphase, EStateM.Result.ok.injEq] at hscan
    obtain ⟨rfl, rfl⟩ := hscan
    have hopen : c.isClosed = false := by rw [isClosed, hphase]; rfl
    have hasked : Asked c.isClosed journal.own (c, journal) := h.asked
    rw [hopen] at hasked hreleased
    exact .of_asked ⟨rfl, hasked⟩ hreleased uses
  | pipelined _ | closed => simp [hphase] at hscan

/-- A connection on which a cursor has been used and closed, whose client cannot
be given back in peace, and the same connection closed without a cursor. -/
theorem released_once_and_silent_failing :
    let client : ScriptedClient := { script := { quit := [some .auth] } }
    let new : Connection (Journaled ScriptedClient) × Journal Unit :=
      ({ client := { client } }, { env := () })
    let closed := Act.after new .close
    let traversed := Step.left (Cursor.useEach [.hasNext 1, .close, .next 1])
      (({ connection := new.1, options := {} } : Cursor (Journaled ScriptedClient) .keys), new.2)
    (Recorded client new ∧ Recorded client closed ∧ closed.1.isClosed = true ∧
        Connection.scan .keys {} new = .ok { connection := new.1, options := {} } new) ∧
      (Step.outcome Connection.close new).1 = .error .auth ∧
      ReleasedOnce true closed.2.own ∧ Connection.close closed = .ok () closed ∧
      Connection.run (.get [97]) closed = .error (.misuse .connectionClosed) closed ∧
      traversed.2.own = [.execute (Scan.command "0" {} .keys), .quit] ∧
      (Step.left Cursor.release traversed).2.own = traversed.2.own := by
  intro client new closed traversed
  have hnew : Recorded client new := .opened ()
  have hclosed : Recorded client closed := .act .close hnew
  have hscan : Connection.scan .keys {} new = .ok { connection := new.1, options := {} } new := rfl
  obtain ⟨hreleased, hsilent, -⟩ := released_once_and_silent hclosed
  have silent := hsilent rfl
  obtain ⟨-, -, htraversed⟩ := released_once_and_silent hnew
  have hcursor := htraversed .keys {} _ new [.hasNext 1, .close, .next 1] hscan
  have hend : traversed.1.closed = true := hcursor.closed_iff.2 (by simp)
  have hrelease := hcursor.own_release
  change _ = _ ++ (if traversed.1.closed = true then [] else [.quit]) at hrelease
  rw [if_pos hend, List.append_nil] at hrelease
  exact ⟨⟨hnew, hclosed, rfl, hscan⟩, rfl, hreleased, silent.close closed.2,
    silent.run (.get [97]) closed.2 rfl, by decide +kernel, hrelease⟩

end Connection

end RedisClient
