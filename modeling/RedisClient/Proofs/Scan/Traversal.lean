import RedisClient.Client.Journal
import RedisClient.Client.Scripted
import RedisClient.Proofs.Scan.Pages
import RedisClient.Proofs.Scan.Transition

/-!
# Traversals

A server holds pages back and gives them one by one (`Serves`): each request is
the one spelled out for the scan (`Scan.request`), and each reply shows its page
(`Scan.Shows`). A cursor over it is asked for items, and whether there are any,
in any order. What can be seen from outside is the log of such a run: the calls
that reach the client and the items that are delivered, as they happen. The full
course of a traversal puts every request before the items of its page
(`Cursor.course`), and the log
of any run is a beginning of it (`Cursor.log_prefix_course`): nothing is
requested early or twice, and nothing is lost. What carries this through a run
is `Cursor.Under`: the log so far, what has come and is not delivered, and the
course of the pages still to come make up the full course.
-/

namespace RedisClient

variable {C E α : Type}

/-! ## What a server gives -/

/-- **A client that serves pages.** It answers the request that carries the
token with the first page, the one that carries that page's token with the next
page, and so on. Nothing is said of any other command. -/
inductive Serves [Client C E] (scan : Scan) (options : ScanOptions) :
    String → List (Page scan.Item) → C × E → Prop
  /-- Nothing more is served. -/
  | done {token : String} {s : C × E} : Serves scan options token [] s
  /-- One page, and then the others. -/
  | page {token : String} {page : Page scan.Item} {rest : List (Page scan.Item)} {frame : Frame}
      {s s' : C × E} :
      Client.execute (scan.request token options) s = .ok frame s' →
      scan.Shows page frame → Serves scan options page.token rest s' →
      Serves scan options token (page :: rest) s

/-- A page is the last one exactly if no page follows it. -/
def Page.Ending : List (Page α) → Prop
  | [] => True
  | page :: rest => page.isLast = rest.isEmpty ∧ Ending rest

/-- Pages of which only the last one says so. -/
theorem Page.ending_append {init : List (Page α)} {last : Page α}
    (hinit : ∀ page ∈ init, page.isLast = false) (hlast : last.isLast = true) :
    Ending (init ++ [last]) := by
  induction init with
  | nil => exact ⟨hlast, trivial⟩
  | cons page rest ih =>
    refine ⟨?_, ih fun other hother => hinit other (List.mem_cons_of_mem page hother)⟩
    rw [hinit page List.mem_cons_self]
    simp

/-- A call that succeeds is entered and then made. -/
theorem Journal.execute_ok [Client C E] {command : Command} {client client' : C} {env env' : E}
    {frame : Frame} (h : Client.execute command (client, env) = .ok frame (client', env'))
    (owner : Option Node) (entries : List JournalEntry) :
    Client.execute command
        (({ owner, client } : Journaled C), ({ env, entries } : Journal E)) =
      .ok frame ({ owner, client := client' },
        { env := env', entries := entries ++ [⟨owner, .execute command⟩] }) := by
  simp only [Client.execute, Journal.noting, Journal.enter, h]

/-! ## What a run shows -/

/-- What can be seen of a traversal. -/
inductive Happening (α : Type) where
  /-- The client is called. -/
  | called (entry : JournalEntry)
  /-- An item is delivered. -/
  | delivered (item : α)

/-- The items among what happened. -/
def Happening.items (log : List (Happening α)) : List α :=
  log.filterMap fun
    | called _ => none
    | delivered item => some item

/-- What a cursor is asked, and how many pages it may take in for it. -/
inductive Probe where
  /-- Whether there is another item. -/
  | hasNext (budget : Nat)
  /-- For the next item. -/
  | next (budget : Nat)

namespace Cursor

variable {scan : Scan}

/-- Asks a cursor, and gives the item that it delivers. -/
def probe [Client C E] : Probe → Step (Cursor C scan × E) (Option scan.Item)
  | .hasNext budget => do
    let _ ← hasNext budget
    return none
  | .next budget => return (← next budget).toOption

/-- **The log of a run** in which a cursor is asked again and again, and the
cursor at the end. -/
def log [Client C E] :
    List Probe → Cursor (Journaled C) scan × Journal E →
      List (Happening scan.Item) × (Cursor (Journaled C) scan × Journal E)
  | [], s => ([], s)
  | first :: rest, s =>
    let (outcome, s') := (probe first).outcome s
    let calls := s'.2.entries.drop s.2.entries.length
    let (later, last) := log rest s'
    (calls.map .called ++ outcome.toOption.join.toList.map .delivered ++ later, last)

/-- **The full course of a traversal**: each page is requested with the token
of the page before it, and then its items are delivered. -/
def course (options : ScanOptions) (owner : Option Node) :
    String → List (Page scan.Item) → List (Happening scan.Item)
  | _, [] => []
  | token, page :: rest =>
    .called ⟨owner, .execute (scan.request token options)⟩ ::
      (page.items.map .delivered ++ course options owner page.token rest)

end Cursor

namespace Happening

/-- One after the other. -/
theorem items_append (log more : List (Happening α)) :
    items (log ++ more) = items log ++ items more :=
  List.filterMap_append ..

/-- Calls deliver nothing. -/
theorem items_called (entries : List JournalEntry) :
    items (entries.map called : List (Happening α)) = [] := by
  simp [items]

/-- Items are delivered as they are. -/
theorem items_delivered (items : List α) : Happening.items (items.map delivered) = items := by
  rw [Happening.items, List.filterMap_map]
  exact List.filterMap_some

/-- The full course delivers all items of all pages in order. -/
theorem items_course {scan : Scan} (options : ScanOptions) (owner : Option Node) (token : String)
    (pages : List (Page scan.Item)) :
    items (Cursor.course options owner token pages) = pages.flatMap Page.items := by
  induction pages generalizing token with
  | nil => rfl
  | cons page rest ih =>
    have hpage : items (Cursor.course options owner token (page :: rest)) =
        items (page.items.map delivered ++ Cursor.course options owner page.token rest) := rfl
    rw [hpage, items_append, items_delivered, ih, List.flatMap_cons]

end Happening

namespace Cursor

open Happening (items)

variable [Client C E] {scan : Scan} {options : ScanOptions} {owner : Option Node}
  {pages rest : List (Page scan.Item)} {log : List (Happening scan.Item)}
  {cursor : Cursor (Journaled C) scan} {journal : Journal E}

/-- **Under way.** The cursor is open, the pages in `rest` are still to come,
and with them and what has come and is not delivered the log makes up the full
course of all pages. -/
structure Under (options : ScanOptions) (owner : Option Node) (pages : List (Page scan.Item))
    (log : List (Happening scan.Item)) (rest : List (Page scan.Item))
    (cursor : Cursor (Journaled C) scan) (journal : Journal E) : Prop where
  /-- Nobody has closed the cursor. -/
  closed_eq : cursor.closed = false
  /-- No page has failed. -/
  failed_eq : cursor.failed = false
  /-- The connection is open. -/
  phase_eq : cursor.connection.phase = .direct
  /-- The hints are those that the traversal began with. -/
  options_eq : cursor.options = options
  /-- So is the client. -/
  owner_eq : cursor.connection.client.owner = owner
  /-- The pages that are still to come are the last ones of all. -/
  suffix : rest <:+ pages
  /-- The server has them. -/
  serves : Serves scan options cursor.token rest (cursor.connection.client.client, journal.env)
  /-- Only the last of them says so. -/
  ending : Page.Ending rest
  /-- The cursor knows whether any is to come. -/
  exhausted_eq : cursor.isExhausted = rest.isEmpty
  /-- Nothing is lost or repeated. -/
  course_eq : log ++ (cursor.buffer.map .delivered ++ course options owner cursor.token rest) =
    course options owner Page.endToken pages
  /-- The position is the number of items delivered. -/
  position_eq : cursor.position = (items log).length

namespace Under

/-- A cursor that has just been opened is under way. -/
theorem opened {c : Connection (Journaled C)} (hphase : c.phase = .direct)
    (hending : Page.Ending pages) (hne : pages ≠ [])
    (hserves : Serves scan options Page.endToken pages (c.client.client, journal.env)) :
    Under options c.client.owner pages [] pages { connection := c, options } journal where
  closed_eq := rfl
  failed_eq := rfl
  phase_eq := hphase
  options_eq := rfl
  owner_eq := rfl
  suffix := List.suffix_refl pages
  serves := hserves
  ending := hending
  exhausted_eq := by simpa [isExhausted] using hne
  course_eq := rfl
  position_eq := rfl

/-- What has been delivered, what has come, and what is still to come are the
items of all pages. -/
theorem items_eq (h : Under options owner pages log rest cursor journal) :
    items log ++ (cursor.buffer ++ rest.flatMap Page.items) = pages.flatMap Page.items := by
  rw [← Happening.items_course options owner Page.endToken pages, ← h.course_eq,
    Happening.items_append, Happening.items_append, Happening.items_delivered,
    Happening.items_course]

/-- The item that is due is the first one that has come, if none is missing. -/
theorem due_eq (h : Under options owner pages log rest cursor journal)
    (hrest : cursor.buffer = [] → rest = []) :
    (pages.flatMap Page.items)[(items log).length]? = cursor.buffer.head? := by
  rw [← h.items_eq]
  cases hbuffer : cursor.buffer with
  | nil => simp [hrest hbuffer]
  | cons item buffer => simp

/-- **A page is taken in** when one is asked for: one request is made, with the
token of the page before. -/
theorem fetchPage {page : Page scan.Item}
    (h : Under options owner pages log (page :: rest) cursor journal)
    (hbuffer : cursor.buffer = []) :
    ∃ entry cursor' journal', Cursor.fetchPage (cursor, journal) = .ok () (cursor', journal') ∧
      journal'.entries = journal.entries ++ [entry] ∧
      Under options owner pages (log ++ [.called entry]) rest cursor' journal' := by
  cases h.serves with
  | @page _ _ _ frame _ s' hexecute hshows hrest =>
    obtain ⟨client, env⟩ := s'
    have hread := (Scan.readPage_eq_ok_iff scan).2 hshows
    have hcall := Journal.execute_ok hexecute cursor.connection.client.owner journal.entries
    rw [← h.options_eq] at hcall
    let entry : JournalEntry :=
      ⟨cursor.connection.client.owner, .execute (scan.request cursor.token cursor.options)⟩
    refine ⟨entry, addPage page (cursor.withClient { cursor.connection.client with client }),
      { env, entries := journal.entries ++ [entry] }, ?_, rfl, ?_⟩
    · simp only [fetchPage_apply, requestPage_apply, h.phase_eq, hcall, hread, entry]
    · exact {
        closed_eq := h.closed_eq
        failed_eq := h.failed_eq
        phase_eq := h.phase_eq
        options_eq := h.options_eq
        owner_eq := h.owner_eq
        suffix := (List.suffix_cons page rest).trans h.suffix
        serves := hrest
        ending := h.ending.2
        exhausted_eq := h.ending.1
        course_eq := by
          have hcourse := h.course_eq
          rw [hbuffer] at hcourse
          simpa [addPage, withClient, hbuffer, course, h.options_eq, h.owner_eq, entry]
            using hcourse
        position_eq := by
          rw [Happening.items_append]
          exact h.position_eq.trans (by simp [Happening.items]) }

/-- **Pages are taken in** until there is an item or none is to come; that is
found out if there may be as many as are to come. -/
theorem fill (h : Under options owner pages log rest cursor journal) (budget : Nat) :
    ∃ found calls rest' cursor' journal',
      Cursor.fill budget (cursor, journal) = .ok found (cursor', journal') ∧
      journal'.entries = journal.entries ++ calls ∧
      Under options owner pages (log ++ calls.map .called) rest' cursor' journal' ∧
      (found = true → cursor'.buffer = [] → rest' = []) ∧
      (rest.length ≤ budget → found = true) := by
  induction budget generalizing rest log cursor journal with
  | zero =>
    refine ⟨!cursor.buffer.isEmpty || cursor.isExhausted, [], rest, cursor, journal, rfl,
      (List.append_nil _).symm, by simpa using h, ?_, ?_⟩
    · intro hfound hbuffer
      simpa [hbuffer, h.exhausted_eq] using hfound
    · intro hrest
      simp [h.exhausted_eq, List.length_eq_zero_iff.1 (Nat.le_zero.1 hrest)]
  | succ budget ih =>
    cases hready : !cursor.buffer.isEmpty || cursor.isExhausted with
    | true =>
      refine ⟨true, [], rest, cursor, journal,
        fill_apply_of_ready cursor journal (budget + 1) hready, (List.append_nil _).symm,
        by simpa using h, ?_, fun _ => rfl⟩
      intro _ hbuffer
      simpa [hbuffer, h.exhausted_eq] using hready
    | false =>
      obtain ⟨hbuffer, hrest⟩ : cursor.buffer = [] ∧ rest ≠ [] := by
        simpa [h.exhausted_eq] using hready
      obtain ⟨page, rest, rfl⟩ := List.exists_cons_of_ne_nil hrest
      obtain ⟨entry, cursor₁, journal₁, hfetch, hentry, h₁⟩ := h.fetchPage hbuffer
      obtain ⟨found, calls, rest', cursor₂, journal₂, hfill, hcalls, h₂, hend, henough⟩ := ih h₁
      refine ⟨found, entry :: calls, rest', cursor₂, journal₂, ?_, ?_, by simpa using h₂, hend,
        fun hbudget => henough (Nat.le_of_succ_le_succ hbudget)⟩
      · rw [fill_succ_apply cursor journal budget hready, hfetch]
        exact hfill
      · rw [hcalls, hentry, List.append_assoc]
        rfl

/-- **Looking for an item** finds the one that is due, or the end if none is. -/
theorem peek (h : Under options owner pages log rest cursor journal) (budget : Nat) :
    ∃ finding calls rest' cursor' journal',
      Cursor.peek budget (cursor, journal) = .ok finding (cursor', journal') ∧
      journal'.entries = journal.entries ++ calls ∧
      Under options owner pages (log ++ calls.map .called) rest' cursor' journal' ∧
      (finding = .undecided ∨ finding = cursor'.front ∧
        cursor'.buffer.head? = (pages.flatMap Page.items)[(items log).length]?) ∧
      (rest.length ≤ budget → finding ≠ .undecided) := by
  obtain ⟨found, calls, rest', cursor', journal', hfill, hcalls, h', hend, henough⟩ := h.fill budget
  cases found with
  | false =>
    refine ⟨.undecided, calls, rest', cursor', journal', ?_, hcalls, h', .inl rfl,
      fun hbudget => absurd (henough hbudget) Bool.false_ne_true⟩
    simp only [peek_apply, h.closed_eq, h.failed_eq, hfill, Bool.false_eq_true, if_false]
  | true =>
    have hdue := h'.due_eq (hend rfl)
    rw [Happening.items_append, Happening.items_called, List.append_nil] at hdue
    refine ⟨cursor'.front, calls, rest', cursor', journal', ?_, hcalls, h', .inr ⟨rfl, hdue.symm⟩,
      fun _ => Finding.ofOption_ne_undecided _⟩
    simp only [peek_apply, h.closed_eq, h.failed_eq, hfill, Bool.false_eq_true, if_false]

/-- **Asking whether there is another item** says whether one is due. -/
theorem hasNext (h : Under options owner pages log rest cursor journal) (budget : Nat) :
    ∃ answer calls rest' cursor' journal',
      Cursor.hasNext budget (cursor, journal) = .ok answer (cursor', journal') ∧
      journal'.entries = journal.entries ++ calls ∧
      Under options owner pages (log ++ calls.map .called) rest' cursor' journal' ∧
      (rest.length ≤ budget → answer =
        some (decide ((items log).length < (pages.flatMap Page.items).length))) := by
  obtain ⟨finding, calls, rest', cursor', journal', hpeek, hcalls, h', hfinding, henough⟩ :=
    h.peek budget
  rw [hasNext_apply, hpeek]
  rcases hfinding with rfl | ⟨rfl, hdue⟩
  · exact ⟨none, calls, rest', cursor', journal', rfl, hcalls, h',
      fun hbudget => absurd rfl (henough hbudget)⟩
  · rw [front, hdue]
    by_cases hmore : (items log).length < (pages.flatMap Page.items).length
    · rw [List.getElem?_eq_getElem hmore, decide_eq_true hmore]
      exact ⟨some true, calls, rest', cursor', journal', rfl, hcalls, h', fun _ => rfl⟩
    · rw [List.getElem?_eq_none (Nat.le_of_not_lt hmore), decide_eq_false hmore]
      exact ⟨some false, calls, rest', cursor', journal', rfl, hcalls, h', fun _ => rfl⟩

/-- **Asking for the next item** delivers the one that is due. -/
theorem next (h : Under options owner pages log rest cursor journal) (budget : Nat) :
    ∃ finding calls rest' cursor' journal',
      Cursor.next budget (cursor, journal) = .ok finding (cursor', journal') ∧
      journal'.entries = journal.entries ++ calls ∧
      Under options owner pages
        (log ++ (calls.map .called ++ finding.toOption.toList.map .delivered))
        rest' cursor' journal' ∧
      (rest.length ≤ budget →
        finding = .ofOption (pages.flatMap Page.items)[(items log).length]?) := by
  obtain ⟨finding, calls, rest', cursor', journal', hpeek, hcalls, h', hfinding, henough⟩ :=
    h.peek budget
  rw [next_apply, hpeek]
  rcases hfinding with rfl | ⟨rfl, hdue⟩
  · exact ⟨.undecided, calls, rest', cursor', journal', rfl, hcalls,
      by simpa [Finding.toOption] using h', fun hbudget => absurd rfl (henough hbudget)⟩
  · rw [← hdue, front]
    cases hbuffer : cursor'.buffer with
    | nil =>
      exact ⟨.finished, calls, rest', cursor', journal', rfl, hcalls,
        by simpa [Finding.toOption] using h', fun _ => rfl⟩
    | cons item buffer =>
      refine ⟨.item item, calls, rest',
        { cursor' with position := cursor'.position + 1, buffer }, journal', ?_, hcalls, ?_,
        fun _ => rfl⟩
      · simp only [List.head?_cons, Finding.ofOption, hbuffer, List.tail_cons]
      · exact { h' with
          course_eq := by simpa [hbuffer, Finding.toOption] using h'.course_eq
          position_eq := by
            rw [← List.append_assoc, Happening.items_append, Happening.items_delivered,
              List.length_append]
            exact congrArg (· + 1) h'.position_eq }

/-- **A cursor that is asked** stays under way, and the log goes on by what
happened. -/
theorem probe (h : Under options owner pages log rest cursor journal) (probe : Probe) :
    ∃ delivered calls rest' cursor' journal',
      Cursor.probe probe (cursor, journal) = .ok delivered (cursor', journal') ∧
      journal'.entries = journal.entries ++ calls ∧
      Under options owner pages
        (log ++ (calls.map .called ++ delivered.toList.map .delivered)) rest' cursor' journal' := by
  cases probe with
  | hasNext budget =>
    obtain ⟨answer, calls, rest', cursor', journal', hanswer, hcalls, h', -⟩ := h.hasNext budget
    refine ⟨none, calls, rest', cursor', journal', ?_, hcalls, by simpa using h'⟩
    simp only [Cursor.probe, Step.bind_apply, hanswer, Step.pure_apply]
  | next budget =>
    obtain ⟨finding, calls, rest', cursor', journal', hfinding, hcalls, h', -⟩ := h.next budget
    refine ⟨finding.toOption, calls, rest', cursor', journal', ?_, hcalls, h'⟩
    simp only [Cursor.probe, Step.bind_apply, hfinding, Step.pure_apply]

/-- **A run** leaves the cursor under way, and its log follows the one before. -/
theorem run (h : Under options owner pages log rest cursor journal) (probes : List Probe) :
    ∃ more rest' cursor' journal', Cursor.log probes (cursor, journal) = (more, cursor', journal') ∧
      Under options owner pages (log ++ more) rest' cursor' journal' := by
  induction probes generalizing log rest cursor journal with
  | nil => exact ⟨[], rest, cursor, journal, rfl, by simpa using h⟩
  | cons first others ih =>
    obtain ⟨delivered, calls, rest₁, cursor₁, journal₁, hprobe, hcalls, h₁⟩ := h.probe first
    obtain ⟨more, rest₂, cursor₂, journal₂, hlog, h₂⟩ := ih h₁
    refine ⟨calls.map .called ++ delivered.toList.map .delivered ++ more, rest₂, cursor₂, journal₂,
      ?_, by simpa using h₂⟩
    have hdrop : journal₁.entries.drop journal.entries.length = calls := by
      rw [hcalls, List.drop_left]
    simp only [Cursor.log, Step.outcome_of_ok hprobe, hdrop, hlog]
    rfl

end Under

/-- **A traversal is complete, in order and minimal.** Where a server serves
pages of which only the last one says so, a cursor that has just been opened
and is asked for items, and whether there are any, in any order, shows a
beginning of the full course: the requests of the pages, in order and each with
the token of the page before, none before all items of the pages before it have
been delivered and none after the last page; and between them the items, each
once and in order. Its position counts the items. Asked whether there is
another item, a cursor that may take in as many pages as the server has says
whether one is due, and asked for the next item it delivers the one that is
due; it says that there is none exactly after all of them. -/
theorem log_prefix_course (scan : Scan) (options : ScanOptions) (c : Connection (Journaled C))
    (journal : Journal E) (init : List (Page scan.Item)) (last : Page scan.Item)
    (probes : List Probe) (hphase : c.phase = .direct)
    (hinit : ∀ page ∈ init, page.token ≠ "0") (hlast : last.token = "0")
    (hserves : Serves scan options "0" (init ++ [last]) (c.client.client, journal.env)) :
    ∃ opened, Connection.scan scan options (c, journal) = .ok opened (c, journal) ∧
      let pages := init ++ [last]
      let all := pages.flatMap Page.items
      let (log, cursor, journal) := Cursor.log probes (opened, journal)
      log <+: course options c.client.owner "0" pages ∧
      items log <+: all ∧
      cursor.position = (items log).length ∧
      ∀ budget ≥ pages.length,
        ((hasNext budget).outcome (cursor, journal)).1 =
          .ok (some (decide ((items log).length < all.length))) ∧
        ((next budget).outcome (cursor, journal)).1 = .ok (.ofOption all[(items log).length]?) ∧
        (((next budget).outcome (cursor, journal)).1 = .ok .finished ↔ items log = all) := by
  have hopen : Connection.scan scan options (c, journal) =
      .ok { connection := c, options } (c, journal) := by
    simp only [Connection.scan, Step.bind_apply, Connection.permit_apply, hphase]
    rfl
  have hopened : Under options c.client.owner (init ++ [last]) [] (init ++ [last])
      { connection := c, options } journal :=
    .opened hphase
      (Page.ending_append (fun page hpage => beq_false_of_ne (hinit page hpage))
        (beq_iff_eq.2 hlast))
      (by simp) hserves
  obtain ⟨log, rest, cursor, journal', hlog, h⟩ := hopened.run probes
  rw [List.nil_append] at h
  have hbegin : items log <+: (init ++ [last]).flatMap Page.items := ⟨_, h.items_eq⟩
  refine ⟨_, hopen, ?_⟩
  simp only [hlog]
  refine ⟨⟨_, h.course_eq⟩, hbegin, h.position_eq, fun budget hbudget => ?_⟩
  have hrest : rest.length ≤ budget := Nat.le_trans h.suffix.length_le hbudget
  obtain ⟨answer, -, -, cursor₁, journal₁, hanswer, -, -, hsays⟩ := h.hasNext budget
  obtain ⟨finding, -, -, cursor₂, journal₂, hfinding, -, -, hfinds⟩ := h.next budget
  rw [Step.outcome_of_ok hanswer, Step.outcome_of_ok hfinding, hsays hrest, hfinds hrest]
  refine ⟨rfl, rfl, ?_⟩
  rw [Except.ok.injEq, Finding.ofOption_eq_finished, List.getElem?_eq_none_iff]
  exact ⟨hbegin.eq_of_length_le, fun hall => Nat.le_of_eq (congrArg List.length hall.symm)⟩

/-- Three pages of a set, the second one empty, and a cursor that is asked more
often than there are items. -/
theorem log_prefix_course_empty_page :
    let reply (token : UInt8) (items : List Frame) : Except Error Frame :=
      .ok (.array [.bulk [token], .array items])
    let client : ScriptedClient :=
      { script := { replies := [("SSCAN",
        [reply 55 [.bulk [97], .bulk [98]], reply 57 [], reply 48 [.bulk [99]]])] } }
    let c : Connection (Journaled ScriptedClient) := { client := { client } }
    let opened : Cursor (Journaled ScriptedClient) (.set [107]) :=
      { connection := c, options := {} }
    let probes : List Probe := [.next 1, .hasNext 1, .next 0, .next 0, .next 2, .hasNext 3]
    Connection.scan (.set [107]) {} (c, ({ env := () } : Journal Unit)) =
        .ok opened (c, { env := () }) ∧
      let (log, s) := Cursor.log probes (opened, ({ env := () } : Journal Unit))
      items log = [[97], [98], [99]] ∧ ((next 3).outcome s).1 = .ok .finished := by
  intro reply client c opened probes
  have hshows {page : Page Bytes} {frame : Frame}
      (hread : (Scan.set [107]).readPage frame = .ok page) : (Scan.set [107]).Shows page frame :=
    (Scan.readPage_eq_ok_iff _).1 hread
  have hserves : Serves (.set [107]) {} "0"
      [⟨"7", [[97], [98]]⟩, ⟨"9", []⟩, ⟨"0", [[99]]⟩] (client, ()) :=
    .page rfl (hshows rfl) (.page rfl (hshows rfl) (.page rfl (hshows rfl) .done))
  obtain ⟨opened', hopened, hrun⟩ := log_prefix_course (.set [107]) {} c { env := () }
    [⟨"7", [[97], [98]]⟩, ⟨"9", []⟩] ⟨"0", [[99]]⟩ probes rfl (by decide) rfl hserves
  obtain rfl : opened = opened' := (EStateM.Result.ok.inj hopened).1
  have hitems : items (Cursor.log probes (opened, ({ env := () } : Journal Unit))).1 =
      [[97], [98], [99]] := by decide +kernel
  rcases hlog : Cursor.log probes (opened, ({ env := () } : Journal Unit)) with
    ⟨log, cursor, journal⟩
  rw [hlog] at hrun hitems
  obtain ⟨-, -, -, hask⟩ := hrun
  exact ⟨hopened, hitems, (hask 3 (Nat.le_refl 3)).2.2.2 hitems⟩

end Cursor

end RedisClient
