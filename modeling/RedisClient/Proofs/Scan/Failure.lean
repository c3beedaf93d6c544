import RedisClient.Proofs.Connection.Release
import RedisClient.Proofs.Scan.Traversal

/-!
# Traversals that break off

A server gives some pages, and then a request for the next one fails: the call
itself, or the reading of its reply (`BreaksOff`). Whichever question needs that
page comes to the error, and the traversal is over. Before, a cursor delivers
what the pages hold, as if nothing were wrong (`Cursor.Toward`); afterwards it
answers every question by itself, and all that it still has to do is to give
the client back (`Cursor.Failed`). One question leads from the first to the
first or to the second, and the second is never left; from this comes what a
whole run shows (`Cursor.fails_once_and_rests`).
-/

namespace RedisClient

variable {C E α : Type}

/-! ## What a server gives before it fails -/

/-- **A client that breaks off.** It answers with one page after the other, none
of them the last, and then the request for the next one comes to an error. -/
inductive BreaksOff [Client C E] (scan : Scan) (options : ScanOptions) (error : Error) :
    String → List (Page scan.Item) → C × E → Prop
  /-- The call fails. -/
  | refused {token : String} {s s' : C × E} :
      Client.execute (scan.request token options) s = .error error s' →
      BreaksOff scan options error token [] s
  /-- The reply is not a page. -/
  | malformed {token : String} {frame : Frame} {s s' : C × E} :
      Client.execute (scan.request token options) s = .ok frame s' →
      scan.readPage frame = .error error → BreaksOff scan options error token [] s
  /-- One page, which is not the last, and then the others. -/
  | page {token : String} {page : Page scan.Item} {rest : List (Page scan.Item)} {frame : Frame}
      {s s' : C × E} :
      Client.execute (scan.request token options) s = .ok frame s' →
      scan.readPage frame = .ok page → page.isLast = false →
      BreaksOff scan options error page.token rest s' →
      BreaksOff scan options error token (page :: rest) s

/-- The token that asks for the page behind some pages, where this one asks for
the first of them. -/
def Page.tokenBehind : String → List (Page α) → String
  | token, [] => token
  | _, page :: rest => tokenBehind page.token rest

/-- A call that fails is entered all the same. -/
theorem Journal.execute_error [Client C E] {command : Command} {client client' : C} {env env' : E}
    {error : Error} (h : Client.execute command (client, env) = .error error (client', env'))
    (owner : Option Node) (entries : List JournalEntry) :
    Client.execute command
        (({ owner, client } : Journaled C), ({ env, entries } : Journal E)) =
      .error error ({ owner, client := client' },
        { env := env', entries := entries ++ [⟨owner, .execute command⟩] }) := by
  simp only [Client.execute, Journal.noting, Journal.enter, h]

/-- Giving the stream back is entered, whatever it comes to, and nothing else
is. -/
theorem Journal.quit_apply [Client C E] (client : Journaled C) (journal : Journal E) :
    ∃ client' env', Step.outcome Client.quit (client, journal) =
      ((Step.outcome Client.quit (client.client, journal.env)).1,
        ({ client with client := client' } : Journaled C),
        { env := env', entries := journal.entries ++ [⟨client.owner, .quit⟩] }) := by
  simp only [Step.outcome, Client.quit, Journal.noting, Journal.enter]
  rcases (Client.quit : Step (C × E) Unit) (client.client, journal.env) with
    ⟨_, client', env'⟩ | ⟨e, client', env'⟩
  · exact ⟨client', env', rfl⟩
  · exact ⟨client', env', rfl⟩

namespace Cursor

open Happening (items)

variable [Client C E] {scan : Scan} {options : ScanOptions} {owner : Option Node} {error : Error}
  {pages rest : List (Page scan.Item)} {log : List (Happening scan.Item)}
  {cursor : Cursor (Journaled C) scan} {journal : Journal E}

/-- **The full course of a traversal that breaks off**: the pages, each behind
its request, and the request that fails. -/
def brokenCourse (options : ScanOptions) (owner : Option Node) (pages : List (Page scan.Item)) :
    List (Happening scan.Item) :=
  course options owner Page.endToken pages ++
    [.called ⟨owner, .execute (scan.request (Page.tokenBehind Page.endToken pages) options)⟩]

/-- The errors that a cursor comes to when it is asked again and again. -/
def errors : List Probe → Cursor (Journaled C) scan × Journal E → List Error
  | [], _ => []
  | first :: rest, s =>
    match (probe first).outcome s with
    | (.ok _, s') => errors rest s'
    | (.error error, s') => error :: errors rest s'

omit [Client C E] in
/-- All items of all pages are delivered in the full course. -/
theorem items_brokenCourse (options : ScanOptions) (owner : Option Node)
    (pages : List (Page scan.Item)) :
    items (brokenCourse options owner pages) = pages.flatMap Page.items := by
  have hrequest : items
      [(.called ⟨owner, .execute (scan.request (Page.tokenBehind Page.endToken pages) options)⟩ :
        Happening scan.Item)] = [] := rfl
  rw [brokenCourse, Happening.items_append, Happening.items_course, hrequest, List.append_nil]

/-- **On the way to the failure.** The cursor is open, the pages in `rest` are
still to come before the failure, and with them and what has come and is not
delivered the log makes up the full course of all pages. -/
structure Toward (options : ScanOptions) (owner : Option Node) (error : Error)
    (pages : List (Page scan.Item)) (log : List (Happening scan.Item))
    (rest : List (Page scan.Item)) (cursor : Cursor (Journaled C) scan) (journal : Journal E) :
    Prop where
  /-- Nobody has closed the cursor. -/
  closed_eq : cursor.closed = false
  /-- No page has failed yet. -/
  failed_eq : cursor.failed = false
  /-- The connection is open. -/
  phase_eq : cursor.connection.phase = .direct
  /-- The hints are those that the traversal began with. -/
  options_eq : cursor.options = options
  /-- So is the client. -/
  owner_eq : cursor.connection.client.owner = owner
  /-- The pages that are still to come are the last ones of all. -/
  suffix : rest <:+ pages
  /-- The server has them, and fails behind them. -/
  breaksOff : BreaksOff scan options error cursor.token rest
    (cursor.connection.client.client, journal.env)
  /-- No page so far was the last one. -/
  exhausted_eq : cursor.isExhausted = false
  /-- Nothing is lost or repeated. -/
  course_eq : log ++ (cursor.buffer.map .delivered ++ course options owner cursor.token rest) =
    course options owner Page.endToken pages
  /-- The request that fails carries the token of the last page of all. -/
  token_eq : Page.tokenBehind cursor.token rest = Page.tokenBehind Page.endToken pages
  /-- The position is the number of items delivered. -/
  position_eq : cursor.position = (items log).length

/-- **Behind the failure.** Everything that can happen has happened, and the
cursor is still open and on an open connection. -/
structure Failed (options : ScanOptions) (owner : Option Node) (pages : List (Page scan.Item))
    (log : List (Happening scan.Item)) (cursor : Cursor (Journaled C) scan) : Prop where
  /-- Nobody has closed the cursor. -/
  closed_eq : cursor.closed = false
  /-- A page has failed. -/
  failed_eq : cursor.failed = true
  /-- The connection is open. -/
  phase_eq : cursor.connection.phase = .direct
  /-- The client is the one that the traversal began with. -/
  owner_eq : cursor.connection.client.owner = owner
  /-- All items have been delivered, and then the last request has failed. -/
  log_eq : log = brokenCourse options owner pages
  /-- The token is that of the last page. -/
  token_eq : cursor.token = Page.tokenBehind Page.endToken pages
  /-- The position is the number of items delivered. -/
  position_eq : cursor.position = (items log).length

/-! ## Up to the failure -/

namespace Toward

/-- A cursor that has just been opened is on the way. -/
theorem opened {c : Connection (Journaled C)} (hphase : c.phase = .direct)
    (hbreaks : BreaksOff scan options error Page.endToken pages (c.client.client, journal.env)) :
    Toward options c.client.owner error pages [] pages { connection := c, options } journal where
  closed_eq := rfl
  failed_eq := rfl
  phase_eq := hphase
  options_eq := rfl
  owner_eq := rfl
  suffix := List.suffix_refl pages
  breaksOff := hbreaks
  exhausted_eq := rfl
  course_eq := rfl
  token_eq := rfl
  position_eq := rfl

/-- What has been delivered, what has come, and what is still to come are the
items of all pages. -/
theorem items_eq (h : Toward options owner error pages log rest cursor journal) :
    items log ++ (cursor.buffer ++ rest.flatMap Page.items) = pages.flatMap Page.items := by
  rw [← Happening.items_course options owner Page.endToken pages, ← h.course_eq,
    Happening.items_append, Happening.items_append, Happening.items_delivered,
    Happening.items_course]

/-- What has happened is a beginning of what will happen. -/
theorem log_prefix (h : Toward options owner error pages log rest cursor journal) :
    log <+: brokenCourse options owner pages :=
  (List.prefix_iff_eq_append.2 (by rw [← h.course_eq, List.drop_left])).trans
    (List.prefix_append ..)

/-- The item in front is the one that is due. -/
theorem due_eq {item : scan.Item} (h : Toward options owner error pages log rest cursor journal)
    (hfront : cursor.buffer.head? = some item) :
    (pages.flatMap Page.items)[(items log).length]? = some item := by
  obtain ⟨others, hbuffer⟩ := List.head?_eq_some_iff.1 hfront
  rw [← h.items_eq, hbuffer]
  simp

/-- **A good page is taken in** when one is asked for. -/
theorem fetchPage_page {page : Page scan.Item}
    (h : Toward options owner error pages log (page :: rest) cursor journal)
    (hbuffer : cursor.buffer = []) :
    ∃ entry cursor' journal', Cursor.fetchPage (cursor, journal) = .ok () (cursor', journal') ∧
      journal'.entries = journal.entries ++ [entry] ∧
      Toward options owner error pages (log ++ [.called entry]) rest cursor' journal' := by
  cases h.breaksOff with
  | @page _ _ _ frame _ s' hexecute hread hlast hrest =>
    obtain ⟨client, env⟩ := s'
    have hcall := Journal.execute_ok hexecute cursor.connection.client.owner journal.entries
    rw [← h.options_eq] at hcall
    let entry : JournalEntry :=
      ⟨cursor.connection.client.owner, .execute (scan.request cursor.token cursor.options)⟩
    refine ⟨entry, addPage page (cursor.withClient { cursor.connection.client with client }),
      { env, entries := journal.entries ++ [entry] }, ?_, rfl, ?_⟩
    · simp only [fetchPage_apply, requestPage_apply, h.phase_eq, hcall, hread, entry]
    · exact {
        closed_eq := h.closed_eq
        failed_eq := h.failed_eq
        phase_eq := h.phase_eq
        options_eq := h.options_eq
        owner_eq := h.owner_eq
        suffix := (List.suffix_cons page rest).trans h.suffix
        breaksOff := hrest
        exhausted_eq := hlast
        course_eq := by
          have hcourse := h.course_eq
          rw [hbuffer] at hcourse
          simpa [addPage, withClient, hbuffer, course, h.options_eq, h.owner_eq, entry]
            using hcourse
        token_eq := h.token_eq
        position_eq := by
          rw [Happening.items_append]
          exact h.position_eq.trans (by simp [Happening.items]) }

/-- **Behind the good pages** asking for one comes to the error, whether it is
the call that fails or the reading. -/
theorem fetchPage_nil (h : Toward options owner error pages log [] cursor journal)
    (hbuffer : cursor.buffer = []) :
    ∃ entry cursor' journal',
      Cursor.fetchPage (cursor, journal) = .error error (cursor', journal') ∧
      journal'.entries = journal.entries ++ [entry] ∧
      Failed options owner pages (log ++ [.called entry]) cursor' := by
  let entry : JournalEntry :=
    ⟨cursor.connection.client.owner, .execute (scan.request cursor.token cursor.options)⟩
  -- either way the client is another one afterwards, and the failure is marked
  have hrequest : ∃ client env,
      (requestPage : Step (Cursor (Journaled C) scan × Journal E) (Page scan.Item))
          (cursor, journal) =
        .error error (cursor.withClient { cursor.connection.client with client },
          { env, entries := journal.entries ++ [entry] }) := by
    cases h.breaksOff with
    | @refused _ _ s' hexecute =>
      obtain ⟨client, env⟩ := s'
      have hcall := Journal.execute_error hexecute cursor.connection.client.owner journal.entries
      rw [← h.options_eq] at hcall
      exact ⟨client, env, by simp only [requestPage_apply, h.phase_eq, hcall, entry]⟩
    | @malformed _ frame _ s' hexecute hread =>
      obtain ⟨client, env⟩ := s'
      have hcall := Journal.execute_ok hexecute cursor.connection.client.owner journal.entries
      rw [← h.options_eq] at hcall
      exact ⟨client, env, by simp only [requestPage_apply, h.phase_eq, hcall, hread, entry]⟩
  obtain ⟨client, env, hrequest⟩ := hrequest
  refine ⟨entry, { cursor.withClient { cursor.connection.client with client } with failed := true },
    { env, entries := journal.entries ++ [entry] }, ?_, rfl, ?_⟩
  · rw [fetchPage_apply, hrequest]
  · have htoken : cursor.token = Page.tokenBehind Page.endToken pages := h.token_eq
    exact {
      closed_eq := h.closed_eq
      failed_eq := rfl
      phase_eq := h.phase_eq
      owner_eq := h.owner_eq
      log_eq := by
        have hcourse := h.course_eq
        rw [hbuffer] at hcourse
        rw [brokenCourse, ← hcourse, ← htoken]
        simp [course, h.options_eq, h.owner_eq, entry]
      token_eq := htoken
      position_eq := by
        rw [Happening.items_append]
        exact h.position_eq.trans (by simp [Happening.items]) }

/-- **Pages are taken in** until there is an item, or until the one that fails
is needed; one of the two is reached if more pages may be taken in than are to
come. -/
theorem fill (h : Toward options owner error pages log rest cursor journal) (budget : Nat) :
    ∃ calls cursor' journal', journal'.entries = journal.entries ++ calls ∧
      ((∃ found rest', Cursor.fill budget (cursor, journal) = .ok found (cursor', journal') ∧
          Toward options owner error pages (log ++ calls.map .called) rest' cursor' journal' ∧
          (found = true → cursor'.buffer ≠ []) ∧ (rest.length < budget → found = true)) ∨
        Cursor.fill budget (cursor, journal) = .error error (cursor', journal') ∧
          Failed options owner pages (log ++ calls.map .called) cursor') := by
  induction budget generalizing rest log cursor journal with
  | zero =>
    refine ⟨[], cursor, journal, (List.append_nil _).symm,
      .inl ⟨!cursor.buffer.isEmpty || cursor.isExhausted, rest, rfl, by simpa using h, ?_, ?_⟩⟩
    · intro hfound
      simpa [h.exhausted_eq] using hfound
    · exact fun hrest => absurd hrest (Nat.not_lt_zero _)
  | succ budget ih =>
    cases hready : !cursor.buffer.isEmpty || cursor.isExhausted with
    | true =>
      refine ⟨[], cursor, journal, (List.append_nil _).symm, .inl ⟨true, rest,
        fill_apply_of_ready cursor journal (budget + 1) hready, by simpa using h, ?_,
        fun _ => rfl⟩⟩
      intro _
      simpa [h.exhausted_eq] using hready
    | false =>
      have hbuffer : cursor.buffer = [] := by simpa [h.exhausted_eq] using hready
      cases rest with
      | nil =>
        obtain ⟨entry, cursor', journal', hfetch, hentry, hfailed⟩ := h.fetchPage_nil hbuffer
        refine ⟨[entry], cursor', journal', hentry, .inr ⟨?_, hfailed⟩⟩
        rw [fill_succ_apply cursor journal budget hready, hfetch]
      | cons page rest =>
        obtain ⟨entry, cursor₁, journal₁, hfetch, hentry, h₁⟩ := h.fetchPage_page hbuffer
        have hfill : Cursor.fill (budget + 1) (cursor, journal) =
            Cursor.fill budget (cursor₁, journal₁) := by
          rw [fill_succ_apply cursor journal budget hready, hfetch]
        obtain ⟨calls, cursor', journal', hcalls, hresult⟩ := ih h₁
        refine ⟨entry :: calls, cursor', journal', ?_, ?_⟩
        · rw [hcalls, hentry, List.append_assoc]
          rfl
        · rw [hfill]
          rcases hresult with ⟨found, rest', hok, h', hfound, henough⟩ | ⟨herror, hfailed⟩
          · exact .inl ⟨found, rest', hok, by simpa using h', hfound,
              fun hbudget => henough (Nat.lt_of_succ_lt_succ hbudget)⟩
          · exact .inr ⟨herror, by simpa using hfailed⟩

/-- **Looking for an item** finds the one that is due, or comes to the error if
none is. -/
theorem peek (h : Toward options owner error pages log rest cursor journal) (budget : Nat) :
    ∃ calls cursor' journal', journal'.entries = journal.entries ++ calls ∧
      ((∃ finding rest', Cursor.peek budget (cursor, journal) = .ok finding (cursor', journal') ∧
          Toward options owner error pages (log ++ calls.map .called) rest' cursor' journal' ∧
          (finding = .undecided ∧ budget ≤ rest.length ∨
            ∃ item, finding = .item item ∧ cursor'.buffer.head? = some item)) ∨
        Cursor.peek budget (cursor, journal) = .error error (cursor', journal') ∧
          Failed options owner pages (log ++ calls.map .called) cursor') := by
  obtain ⟨calls, cursor', journal', hcalls, hresult⟩ := h.fill budget
  refine ⟨calls, cursor', journal', hcalls, ?_⟩
  simp only [peek_apply, h.closed_eq, h.failed_eq, Bool.false_eq_true, if_false]
  rcases hresult with ⟨found, rest', hok, h', hfound, henough⟩ | ⟨herror, hfailed⟩
  · rw [hok]
    cases found with
    | false =>
      have hbudget : budget ≤ rest.length :=
        Nat.le_of_not_lt fun hlt => Bool.false_ne_true (henough hlt)
      exact .inl ⟨.undecided, rest', rfl, h', .inl ⟨rfl, hbudget⟩⟩
    | true =>
      obtain ⟨item, others, hbuffer⟩ := List.exists_cons_of_ne_nil (hfound rfl)
      have hfront : cursor'.buffer.head? = some item := by rw [hbuffer, List.head?_cons]
      refine .inl ⟨.item item, rest', ?_, h', .inr ⟨item, rfl, hfront⟩⟩
      simp only [front, hfront, Finding.ofOption]
  · rw [herror]
    exact .inr ⟨rfl, hfailed⟩

/-- **Asking whether there is another item** says so if one is due, and comes to
the error otherwise. -/
theorem hasNext (h : Toward options owner error pages log rest cursor journal) (budget : Nat) :
    ∃ calls cursor' journal', journal'.entries = journal.entries ++ calls ∧
      ((∃ answer rest', Cursor.hasNext budget (cursor, journal) = .ok answer (cursor', journal') ∧
          Toward options owner error pages (log ++ calls.map .called) rest' cursor' journal' ∧
          (answer = none ∧ budget ≤ rest.length ∨
            answer = some true ∧ (items log).length < (pages.flatMap Page.items).length)) ∨
        Cursor.hasNext budget (cursor, journal) = .error error (cursor', journal') ∧
          Failed options owner pages (log ++ calls.map .called) cursor') := by
  obtain ⟨calls, cursor', journal', hcalls, hresult⟩ := h.peek budget
  refine ⟨calls, cursor', journal', hcalls, ?_⟩
  rw [hasNext_apply]
  rcases hresult with ⟨finding, rest', hok, h', hfinding⟩ | ⟨herror, hfailed⟩
  · rw [hok]
    rcases hfinding with ⟨rfl, hbudget⟩ | ⟨item, rfl, hfront⟩
    · exact .inl ⟨none, rest', rfl, h', .inl ⟨rfl, hbudget⟩⟩
    · have hdue := h'.due_eq hfront
      rw [Happening.items_append, Happening.items_called, List.append_nil] at hdue
      have hmore := (List.getElem?_eq_some_iff.1 hdue).1
      exact .inl ⟨some true, rest', rfl, h', .inr ⟨rfl, hmore⟩⟩
  · rw [herror]
    exact .inr ⟨rfl, hfailed⟩

/-- **Asking for the next item** delivers the one that is due, and comes to the
error if none is. -/
theorem next (h : Toward options owner error pages log rest cursor journal) (budget : Nat) :
    ∃ calls cursor' journal', journal'.entries = journal.entries ++ calls ∧
      ((∃ finding rest', Cursor.next budget (cursor, journal) = .ok finding (cursor', journal') ∧
          Toward options owner error pages
            (log ++ (calls.map .called ++ finding.toOption.toList.map .delivered))
            rest' cursor' journal' ∧
          (finding = .undecided ∧ budget ≤ rest.length ∨
            ∃ item, finding = .item item ∧
              (pages.flatMap Page.items)[(items log).length]? = some item)) ∨
        Cursor.next budget (cursor, journal) = .error error (cursor', journal') ∧
          Failed options owner pages (log ++ calls.map .called) cursor') := by
  obtain ⟨calls, cursor', journal', hcalls, hresult⟩ := h.peek budget
  rw [next_apply]
  rcases hresult with ⟨finding, rest', hok, h', hfinding⟩ | ⟨herror, hfailed⟩
  · rw [hok]
    rcases hfinding with ⟨rfl, hbudget⟩ | ⟨item, rfl, hfront⟩
    · exact ⟨calls, cursor', journal', hcalls, .inl ⟨.undecided, rest', rfl,
        by simpa [Finding.toOption] using h', .inl ⟨rfl, hbudget⟩⟩⟩
    · have hdue := h'.due_eq hfront
      rw [Happening.items_append, Happening.items_called, List.append_nil] at hdue
      obtain ⟨others, hbuffer⟩ := List.head?_eq_some_iff.1 hfront
      refine ⟨calls, { cursor' with position := cursor'.position + 1, buffer := others }, journal',
        hcalls, .inl ⟨.item item, rest', ?_, ?_, .inr ⟨item, rfl, hdue⟩⟩⟩
      · simp only [hbuffer, List.tail_cons]
      · exact { h' with
          course_eq := by simpa [hbuffer, Finding.toOption] using h'.course_eq
          position_eq := by
            rw [← List.append_assoc, Happening.items_append, Happening.items_delivered,
              List.length_append]
            exact congrArg (· + 1) h'.position_eq }
  · rw [herror]
    exact ⟨calls, cursor', journal', hcalls, .inr ⟨rfl, hfailed⟩⟩

/-- **A cursor that is asked** stays on the way, or it comes to the error and
has failed. -/
theorem probe (h : Toward options owner error pages log rest cursor journal) (probe : Probe) :
    ∃ calls cursor' journal', journal'.entries = journal.entries ++ calls ∧
      ((∃ delivered rest', Cursor.probe probe (cursor, journal) =
            .ok delivered (cursor', journal') ∧
          Toward options owner error pages
            (log ++ (calls.map .called ++ delivered.toList.map .delivered))
            rest' cursor' journal') ∨
        Cursor.probe probe (cursor, journal) = .error error (cursor', journal') ∧
          Failed options owner pages (log ++ calls.map .called) cursor') := by
  cases probe with
  | hasNext budget =>
    obtain ⟨calls, cursor', journal', hcalls, hresult⟩ := h.hasNext budget
    refine ⟨calls, cursor', journal', hcalls, ?_⟩
    simp only [Cursor.probe, Step.bind_apply]
    rcases hresult with ⟨answer, rest', hok, h', -⟩ | ⟨herror, hfailed⟩
    · rw [hok]
      exact .inl ⟨none, rest', rfl, by simpa using h'⟩
    · rw [herror]
      exact .inr ⟨rfl, hfailed⟩
  | next budget =>
    obtain ⟨calls, cursor', journal', hcalls, hresult⟩ := h.next budget
    refine ⟨calls, cursor', journal', hcalls, ?_⟩
    simp only [Cursor.probe, Step.bind_apply]
    rcases hresult with ⟨finding, rest', hok, h', -⟩ | ⟨herror, hfailed⟩
    · rw [hok]
      exact .inl ⟨finding.toOption, rest', rfl, h'⟩
    · rw [herror]
      exact .inr ⟨rfl, hfailed⟩

end Toward

/-! ## Behind the failure -/

/-- **A cursor at rest** says to every question that there is nothing more, and
says it by itself. Only closing it still reaches the client, once, to give it
back; then the cursor is silent. -/
structure AtRest (cursor : Cursor (Journaled C) scan) (journal : Journal E) : Prop where
  /-- There is no other item. -/
  hasNext : ∀ budget : Nat,
    Cursor.hasNext budget (cursor, journal) = .ok (some false) (cursor, journal)
  /-- None is delivered. -/
  next : ∀ budget : Nat, Cursor.next budget (cursor, journal) = .ok .finished (cursor, journal)
  /-- However often it is asked, nothing happens. -/
  log : ∀ probes : List Probe, Cursor.log probes (cursor, journal) = ([], cursor, journal)
  /-- No error is met again. -/
  errors : ∀ probes : List Probe, Cursor.errors probes (cursor, journal) = []
  /-- Closing it makes one call, which gives the client back. -/
  entries_close : (Step.left Cursor.close (cursor, journal)).2.entries =
    journal.entries ++ [⟨cursor.connection.client.owner, .quit⟩]
  /-- It comes to what giving the client back comes to. -/
  close : (Step.outcome Cursor.close (cursor, journal)).1 =
    (Step.outcome Client.quit (cursor.connection.client, journal)).1
  /-- The token is still there afterwards. -/
  token_close : (Step.left Cursor.close (cursor, journal)).1.token = cursor.token
  /-- So is the position. -/
  position_close : (Step.left Cursor.close (cursor, journal)).1.position = cursor.position
  /-- Nothing is looked for any more. -/
  silent : Cursor.Silent (E := Journal E) (Step.left Cursor.close (cursor, journal)).1

namespace Failed

/-- All items of all pages have been delivered. -/
theorem items_eq (h : Failed options owner pages log cursor) :
    items log = pages.flatMap Page.items := by
  rw [h.log_eq, items_brokenCourse]

/-- So none was due when the last request was made. -/
theorem not_due {calls : List JournalEntry}
    (h : Failed options owner pages (log ++ calls.map .called) cursor) :
    ¬ (items log).length < (pages.flatMap Page.items).length := by
  have hall := h.items_eq
  rw [Happening.items_append, Happening.items_called, List.append_nil] at hall
  rw [hall]
  exact Nat.lt_irrefl _

/-- Looking for an item finds the end. -/
theorem peek (h : Failed options owner pages log cursor) (budget : Nat) (journal : Journal E) :
    Cursor.peek budget (cursor, journal) = .ok .finished (cursor, journal) := by
  rw [peek_apply, h.closed_eq, h.failed_eq, if_neg Bool.false_ne_true, if_pos rfl]

/-- A cursor that is asked delivers nothing and stays as it is. -/
theorem probe (h : Failed options owner pages log cursor) (probe : Probe) (journal : Journal E) :
    Cursor.probe probe (cursor, journal) = .ok none (cursor, journal) := by
  cases probe with
  | hasNext budget =>
    simp only [Cursor.probe, Step.bind_apply, hasNext_apply, h.peek, Step.pure_apply]
  | next budget =>
    simp only [Cursor.probe, Step.bind_apply, next_apply, h.peek, Step.pure_apply,
      Finding.toOption]

/-- A whole run shows nothing, and meets no error. -/
theorem run (h : Failed options owner pages log cursor) (probes : List Probe)
    (journal : Journal E) :
    Cursor.log probes (cursor, journal) = ([], cursor, journal) ∧
      errors probes (cursor, journal) = [] := by
  induction probes with
  | nil => exact ⟨rfl, rfl⟩
  | cons first others ih =>
    have hprobe := Step.outcome_of_ok (h.probe first journal)
    simp only [Cursor.log, errors, hprobe, ih.1, ih.2, List.drop_length]
    exact ⟨rfl, trivial⟩

/-- Closing the cursor makes the one call that gives the client back. -/
theorem close_eq (h : Failed options owner pages log cursor) (journal : Journal E) :
    ∃ client env, Step.outcome Cursor.close (cursor, journal) =
      ((Step.outcome Client.quit (cursor.connection.client, journal)).1,
        { cursor with
          connection := { cursor.connection with
            client := { cursor.connection.client with client }
            phase := .closed }
          closed := true
          buffer := [] },
        { env, entries := journal.entries ++ [⟨cursor.connection.client.owner, .quit⟩] }) := by
  obtain ⟨client, env, hquit⟩ := Journal.quit_apply cursor.connection.client journal
  refine ⟨client, env, ?_⟩
  simp only [Step.outcome] at hquit ⊢
  rw [close_apply, h.closed_eq, if_neg Bool.false_ne_true, Connection.close_apply, h.phase_eq]
  cases hcall : (Client.quit : Step (Journaled C × Journal E) Unit)
      (cursor.connection.client, journal) with
  | ok _ s =>
    rw [hcall] at hquit
    obtain ⟨-, rfl⟩ := Prod.ext_iff.1 hquit
    rfl
  | error e s =>
    rw [hcall] at hquit
    obtain ⟨-, rfl⟩ := Prod.ext_iff.1 hquit
    rfl

/-- **A cursor that has failed is at rest.** -/
theorem atRest (h : Failed options owner pages log cursor) (journal : Journal E) :
    AtRest cursor journal := by
  obtain ⟨client, env, hclose⟩ := h.close_eq journal
  have hleft := congrArg Prod.snd hclose
  change Step.left Cursor.close (cursor, journal) = _ at hleft
  exact {
    hasNext := fun budget => by rw [hasNext_apply, h.peek]
    next := fun budget => by rw [next_apply, h.peek]
    log := fun probes => (h.run probes journal).1
    errors := fun probes => (h.run probes journal).2
    entries_close := by rw [hleft]
    close := congrArg Prod.fst hclose
    token_close := by rw [hleft]
    position_close := by rw [hleft]
    silent := by
      rw [hleft]
      exact silent_of_closed rfl }

end Failed

/-! ## Whole runs -/

/-- **A run** stays on the way and meets no error, or it meets the error once
and leaves the cursor failed. -/
theorem Toward.run (h : Toward options owner error pages log rest cursor journal)
    (probes : List Probe) :
    ∃ more cursor' journal', Cursor.log probes (cursor, journal) = (more, cursor', journal') ∧
      (errors probes (cursor, journal) = [] ∧
          (∃ rest', Toward options owner error pages (log ++ more) rest' cursor' journal') ∨
        errors probes (cursor, journal) = [error] ∧
          Failed options owner pages (log ++ more) cursor') := by
  induction probes generalizing log rest cursor journal with
  | nil => exact ⟨[], cursor, journal, rfl, .inl ⟨rfl, rest, by simpa using h⟩⟩
  | cons first others ih =>
    obtain ⟨calls, cursor₁, journal₁, hcalls, hresult⟩ := h.probe first
    have hdrop : journal₁.entries.drop journal.entries.length = calls := by
      rw [hcalls, List.drop_left]
    rcases hresult with ⟨delivered, rest₁, hok, h₁⟩ | ⟨herror, hfailed⟩
    · have hprobe := Step.outcome_of_ok hok
      obtain ⟨more, cursor', journal', hlog, hrun⟩ := ih h₁
      refine ⟨calls.map .called ++ delivered.toList.map .delivered ++ more, cursor', journal',
        ?_, ?_⟩
      · simp only [Cursor.log, hprobe, hdrop, hlog]
        rfl
      · have hall : log ++ (calls.map .called ++ delivered.toList.map .delivered ++ more) =
            log ++ (calls.map .called ++ delivered.toList.map .delivered) ++ more :=
          (List.append_assoc ..).symm
        simp only [errors, hprobe]
        rw [hall]
        exact hrun
    · have hprobe := Step.outcome_of_error herror
      obtain ⟨hlog, herrors⟩ := hfailed.run others journal₁
      refine ⟨calls.map .called, cursor₁, journal₁, ?_, .inr ⟨?_, hfailed⟩⟩
      · simp only [Cursor.log, hprobe, hdrop, hlog]
        simp [Except.toOption]
      · simp only [errors, hprobe, herrors]

/-- Asked with enough pages to spare, a cursor on the way says that there is
another item as long as one is due, and comes to the error after that. -/
theorem Toward.outcome_hasNext (h : Toward options owner error pages log rest cursor journal)
    {budget : Nat} (hbudget : rest.length < budget) :
    ((Cursor.hasNext budget).outcome (cursor, journal)).1 =
      if (items log).length < (pages.flatMap Page.items).length then .ok (some true)
      else .error error := by
  obtain ⟨calls, cursor', journal', -, hresult⟩ := h.hasNext budget
  rcases hresult with ⟨answer, rest', hok, -, hsays⟩ | ⟨herror, hfailed⟩
  · rw [Step.outcome_of_ok hok]
    rcases hsays with ⟨rfl, hfew⟩ | ⟨rfl, hmore⟩
    · exact absurd hfew (Nat.not_le_of_lt hbudget)
    · rw [if_pos hmore]
  · rw [Step.outcome_of_error herror, if_neg hfailed.not_due]

/-- It delivers the item that is due, and comes to the error after that. -/
theorem Toward.outcome_next (h : Toward options owner error pages log rest cursor journal)
    {budget : Nat} (hbudget : rest.length < budget) :
    ((Cursor.next budget).outcome (cursor, journal)).1 =
      match (pages.flatMap Page.items)[(items log).length]? with
      | some item => .ok (.item item)
      | none => .error error := by
  obtain ⟨calls, cursor', journal', -, hresult⟩ := h.next budget
  rcases hresult with ⟨finding, rest', hok, -, hfinds⟩ | ⟨herror, hfailed⟩
  · rw [Step.outcome_of_ok hok]
    rcases hfinds with ⟨rfl, hfew⟩ | ⟨item, rfl, hdue⟩
    · exact absurd hfew (Nat.not_le_of_lt hbudget)
    · rw [hdue]
  · rw [Step.outcome_of_error herror,
      List.getElem?_eq_none (Nat.le_of_not_lt hfailed.not_due)]

/-- **A failed page ends a traversal without damage.** Where a server gives some
pages, none of them the last, and fails behind them, a cursor that has just been
opened and is asked for items, and whether there are any, in any order, shows a
beginning of the full course, which ends with the request that fails, and its
position counts the items. Until that request it meets no error. Then asking
whether there is another item says so as long as one is due, and asking for the
next one delivers it; and when all items have been delivered, either question
comes to the error, if it may take in more pages than the server gives. After
that request the error has been met exactly once, exactly the items of all pages
have been delivered, the token is that of the last page, and the cursor is at
rest. -/
theorem fails_once_and_rests (scan : Scan) (options : ScanOptions) (error : Error)
    (c : Connection (Journaled C)) (journal : Journal E) (pages : List (Page scan.Item))
    (probes : List Probe) (hphase : c.phase = .direct)
    (hbreaks : BreaksOff scan options error Page.endToken pages (c.client.client, journal.env)) :
    ∃ opened, Connection.scan scan options (c, journal) = .ok opened (c, journal) ∧
      let all := pages.flatMap Page.items
      let met := errors probes (opened, journal)
      let (log, cursor, journal) := Cursor.log probes (opened, journal)
      log <+: brokenCourse options c.client.owner pages ∧ items log <+: all ∧
      cursor.position = (items log).length ∧
      (met = [] ∧ (∀ budget > pages.length,
          ((hasNext budget).outcome (cursor, journal)).1 =
            (if (items log).length < all.length then .ok (some true) else .error error) ∧
          ((next budget).outcome (cursor, journal)).1 =
            match all[(items log).length]? with
            | some item => .ok (.item item)
            | none => .error error) ∨
        met = [error] ∧ log = brokenCourse options c.client.owner pages ∧ items log = all ∧
          cursor.token = Page.tokenBehind Page.endToken pages ∧ AtRest cursor journal) := by
  have hopen : Connection.scan scan options (c, journal) =
      .ok { connection := c, options } (c, journal) := by
    rw [Connection.scan_apply, hphase]
  obtain ⟨log, cursor, journal', hlog, hrun⟩ := (Toward.opened hphase hbreaks).run probes
  rw [List.nil_append] at hrun
  refine ⟨_, hopen, ?_⟩
  simp only [hlog]
  rcases hrun with ⟨hnone, rest, h⟩ | ⟨honce, h⟩
  · refine ⟨h.log_prefix, ⟨_, h.items_eq⟩, h.position_eq, .inl ⟨hnone, fun budget hbudget => ?_⟩⟩
    have hrest : rest.length < budget := Nat.lt_of_le_of_lt h.suffix.length_le hbudget
    exact ⟨h.outcome_hasNext hrest, h.outcome_next hrest⟩
  · have hall := h.items_eq
    exact ⟨h.log_eq ▸ List.prefix_rfl, hall ▸ List.prefix_rfl, h.position_eq,
      .inr ⟨honce, h.log_eq, hall, h.token_eq, h.atRest journal'⟩⟩

/-- Two pages of a set, the second one empty, and then a reply that is no page:
the question that needs it meets the error, and the ones behind it do not. -/
theorem fails_once_and_rests_malformed_page :
    let reply (token : UInt8) (items : List Frame) : Except Error Frame :=
      .ok (.array [.bulk [token], .array items])
    let client : ScriptedClient :=
      { script := { replies := [("SSCAN",
        [reply 55 [.bulk [97], .bulk [98]], reply 57 [], .ok (.array [.bulk [48]])])] } }
    let c : Connection (Journaled ScriptedClient) := { client := { client } }
    let opened : Cursor (Journaled ScriptedClient) (.set [107]) :=
      { connection := c, options := {} }
    let probes : List Probe := [.next 1, .hasNext 0, .next 0, .hasNext 3, .next 3, .hasNext 1]
    Connection.scan (.set [107]) {} (c, ({ env := () } : Journal Unit)) =
        .ok opened (c, { env := () }) ∧
      errors probes (opened, ({ env := () } : Journal Unit)) = [.protocol .pageLength] ∧
      let (log, cursor, journal) := Cursor.log probes (opened, ({ env := () } : Journal Unit))
      items log = [[97], [98]] ∧ cursor.token = "9" ∧ cursor.position = 2 ∧
        AtRest cursor journal := by
  intro reply client c opened probes
  have hbreaks : BreaksOff (.set [107]) {} (.protocol .pageLength) Page.endToken
      [⟨"7", [[97], [98]]⟩, ⟨"9", []⟩] (client, ()) :=
    .page rfl rfl rfl (.page rfl rfl rfl (.malformed rfl rfl))
  obtain ⟨opened', hopened, hrun⟩ := fails_once_and_rests (.set [107]) {} (.protocol .pageLength) c
    { env := () } [⟨"7", [[97], [98]]⟩, ⟨"9", []⟩] probes rfl hbreaks
  obtain rfl : opened = opened' := (EStateM.Result.ok.inj hopened).1
  have hmet : errors probes (opened, ({ env := () } : Journal Unit)) = [.protocol .pageLength] :=
    rfl
  rcases hlog : Cursor.log probes (opened, ({ env := () } : Journal Unit)) with
    ⟨log, cursor, journal⟩
  rw [hlog] at hrun
  obtain ⟨-, -, hposition, ⟨hnone, -⟩ | ⟨-, -, hitems, htoken, hrest⟩⟩ := hrun
  · exact absurd (hmet.symm.trans hnone) (List.cons_ne_nil _ _)
  · exact ⟨hopened, hmet, hitems, htoken, hposition.trans (congrArg List.length hitems), hrest⟩

end Cursor

end RedisClient
