import RedisClient.Proofs.Connection.Transition
import RedisClient.Scan.Cursor

/-!
# What a cursor's steps do

Every step of a cursor as one equation: what is asked of the client, what comes
of it, and the cursor that is left. Whatever is said of traversals is derived
from these, and nothing else unfolds a step. What is asked for is spelled out
word by word (`Scan.request`).
-/

namespace RedisClient

/-! ## Requests -/

/-- **The words of the hints**: the pattern and then the count, each behind its
keyword. -/
def ScanOptions.hints (options : ScanOptions) : List Bytes :=
  match options.pattern, options.count with
  | none, none => []
  | some pattern, none => [Utf8.encode "MATCH", pattern]
  | none, some count => [Utf8.encode "COUNT", Utf8.encode (Decimal.natText count.toNat)]
  | some pattern, some count =>
    [Utf8.encode "MATCH", pattern, Utf8.encode "COUNT", Utf8.encode (Decimal.natText count.toNat)]

/-- **The request for a page**, spelled out: the command and the key, if there is
one, the token and the hints. -/
def Scan.request (token : String) (options : ScanOptions) : Scan → Command
  | keys => ⟨Utf8.encode "SCAN", Utf8.encode token :: options.hints⟩
  | set key => ⟨Utf8.encode "SSCAN", key :: Utf8.encode token :: options.hints⟩
  | hash key => ⟨Utf8.encode "HSCAN", key :: Utf8.encode token :: options.hints⟩
  | sortedSet key => ⟨Utf8.encode "ZSCAN", key :: Utf8.encode token :: options.hints⟩

/-- The hints are written as they are spelled. -/
theorem ScanOptions.words_eq_hints (options : ScanOptions) : options.words = options.hints := by
  rcases options with ⟨_ | pattern, _ | count⟩ <;> rfl

/-- **A page is asked for with the request that is spelled out.** -/
theorem Scan.command_eq_request (scan : Scan) (token : String) (options : ScanOptions) :
    scan.command token options = scan.request token options := by
  cases scan <;> rw [request, ← options.words_eq_hints] <;> rfl

namespace Finding

variable {α : Type}

/-- The item, or the end if there is none. -/
def ofOption : Option α → Finding α
  | some a => .item a
  | none => .finished

/-- The item, if one is found. -/
def toOption : Finding α → Option α
  | item a => some a
  | finished | undecided => none

/-- The end is found where there is no item. -/
theorem ofOption_eq_finished {a : Option α} : ofOption a = .finished ↔ a = none := by
  cases a <;> simp [ofOption]

/-- Either way something is found. -/
theorem ofOption_ne_undecided (a : Option α) : ofOption a ≠ .undecided := by
  cases a <;> simp [ofOption]

end Finding

namespace Cursor

variable {C E α : Type} {scan : Scan}

/-- The cursor on a client that has been asked. -/
def withClient (cursor : Cursor C scan) (client : C) : Cursor C scan :=
  { cursor with connection := { cursor.connection with client } }

variable (cursor : Cursor C scan) (env : E)

/-- Looking at the cursor changes nothing. -/
@[simp] theorem getCursor_apply :
    (getCursor : Step (Cursor C scan × E) (Cursor C scan)) (cursor, env) =
      .ok cursor (cursor, env) := rfl

/-- A change of the cursor leaves the surroundings as they are. -/
@[simp] theorem modifyCursor_apply (f : Cursor C scan → Cursor C scan) :
    (modifyCursor f : Step (Cursor C scan × E) Unit) (cursor, env) =
      .ok () (f cursor, env) := rfl

/-- A step of the connection leaves the rest of the cursor as it is. -/
@[simp] theorem onConnection_apply (step : Step (Connection C × E) α) :
    onConnection step (cursor, env) =
      match step (cursor.connection, env) with
      | .ok a (connection, env) => .ok a ({ cursor with connection }, env)
      | .error e (connection, env) => .error e ({ cursor with connection }, env) := by
  rw [onConnection, Step.focus_apply]
  cases step (cursor.connection, env) <;> rfl

variable [Client C E]

/-- **Asking for a page.** One command reaches the client of an open connection,
with the token and the hints that the cursor holds, and its reply is read. -/
theorem requestPage_apply :
    (requestPage : Step (Cursor C scan × E) (Page scan.Item)) (cursor, env) =
      match cursor.connection.phase with
      | .closed => .error (.misuse .connectionClosed) (cursor, env)
      | .direct | .pipelined _ =>
        match Client.execute (scan.request cursor.token cursor.options)
          (cursor.connection.client, env) with
        | .error e (client, env) => .error e (cursor.withClient client, env)
        | .ok frame (client, env) =>
          match scan.readPage frame with
          | .ok page => .ok page (cursor.withClient client, env)
          | .error e => .error e (cursor.withClient client, env) := by
  simp only [requestPage, Step.bind_apply, getCursor_apply, onConnection_apply,
    Connection.ensureOpen_apply]
  cases cursor.connection.phase with
  | closed => rfl
  | direct | pipelined _ =>
    simp only [Connection.onClient_apply, Client.ask, Step.bind_apply, Scan.command_eq_request]
    cases Client.execute (scan.request cursor.token cursor.options)
      (cursor.connection.client, env) with
    | error e s => rfl
    | ok frame s =>
      dsimp only
      cases scan.readPage frame <;> rfl

/-- **Taking a page in.** A page is added behind what is there; a failure is
remembered, and passed on. -/
theorem fetchPage_apply :
    (fetchPage : Step (Cursor C scan × E) Unit) (cursor, env) =
      match (requestPage : Step (Cursor C scan × E) (Page scan.Item)) (cursor, env) with
      | .ok page (cursor, env) => .ok () (addPage page cursor, env)
      | .error e (cursor, env) => .error e ({ cursor with failed := true }, env) := by
  simp only [fetchPage, Step.bind_apply, Step.attempt_apply]
  cases (requestPage : Step (Cursor C scan × E) (Page scan.Item)) (cursor, env) <;> rfl

/-- No page is asked for while there is an item, nor after the last page. -/
theorem fill_apply_of_ready (pages : Nat)
    (h : (!cursor.buffer.isEmpty || cursor.isExhausted) = true) :
    (fill pages : Step (Cursor C scan × E) Bool) (cursor, env) = .ok true (cursor, env) := by
  cases pages with
  | zero => simp only [fill, Step.bind_apply, getCursor_apply, Step.pure_apply, h]
  | succ pages =>
    simp only [fill, Step.bind_apply, getCursor_apply, h, if_true]
    rfl

/-- Otherwise one is, if there may be one, and looking goes on behind it. -/
theorem fill_succ_apply (pages : Nat)
    (h : (!cursor.buffer.isEmpty || cursor.isExhausted) = false) :
    (fill (pages + 1) : Step (Cursor C scan × E) Bool) (cursor, env) =
      match (fetchPage : Step (Cursor C scan × E) Unit) (cursor, env) with
      | .ok _ s => fill pages s
      | .error e s => .error e s := by
  rw [fill]
  simp only [Step.bind_apply, getCursor_apply, h, Bool.false_eq_true, if_false]
  cases (fetchPage : Step (Cursor C scan × E) Unit) (cursor, env) <;> rfl

/-- What a search that has come to its end finds. -/
def front (cursor : Cursor C scan) : Finding scan.Item := .ofOption cursor.buffer.head?

/-- **Looking for an item.** A closed cursor refuses, and one that has failed
has come to its end; any other one takes pages in until it has an item. -/
theorem peek_apply (pages : Nat) :
    (peek pages : Step (Cursor C scan × E) (Finding scan.Item)) (cursor, env) =
      if cursor.closed then .error (.misuse .cursorClosed) (cursor, env)
      else if cursor.failed then .ok .finished (cursor, env)
      else
        match (fill pages : Step (Cursor C scan × E) Bool) (cursor, env) with
        | .ok true (cursor, env) => .ok cursor.front (cursor, env)
        | .ok false s => .ok .undecided s
        | .error e s => .error e s := by
  simp only [peek, Step.bind_apply, getCursor_apply]
  by_cases hclosed : cursor.closed = true
  · simp only [hclosed, if_true, Step.bind_apply, Step.throw_apply]
  · by_cases hfailed : cursor.failed = true
    · simp only [hclosed, hfailed, if_true]
      rfl
    · simp only [hclosed, hfailed]
      cases hfill : (fill pages : Step (Cursor C scan × E) Bool) (cursor, env) with
      | error e s => simp [hfill]
      | ok found s =>
        obtain ⟨after, env'⟩ := s
        cases found with
        | false => simp [hfill]
        | true =>
          simp only [front, Finding.ofOption]
          cases hbuffer : after.buffer <;> simp [hfill, hbuffer]

/-- **Asking whether there is another item** looks for one. -/
theorem hasNext_apply (pages : Nat) :
    (hasNext pages : Step (Cursor C scan × E) (Option Bool)) (cursor, env) =
      match (peek pages : Step (Cursor C scan × E) (Finding scan.Item)) (cursor, env) with
      | .ok (.item _) s => .ok (some true) s
      | .ok .finished s => .ok (some false) s
      | .ok .undecided s => .ok none s
      | .error e s => .error e s := by
  simp only [hasNext, Step.bind_apply]
  rcases (peek pages : Step (Cursor C scan × E) (Finding scan.Item)) (cursor, env) with
    ⟨_ | _ | _, s⟩ | ⟨e, s⟩ <;> rfl

/-- **Asking for the next item** looks for one and delivers it. -/
theorem next_apply (pages : Nat) :
    (next pages : Step (Cursor C scan × E) (Finding scan.Item)) (cursor, env) =
      match (peek pages : Step (Cursor C scan × E) (Finding scan.Item)) (cursor, env) with
      | .ok (.item item) (cursor, env) =>
        .ok (.item item)
          ({ cursor with position := cursor.position + 1, buffer := cursor.buffer.tail }, env)
      | .ok .finished s => .ok .finished s
      | .ok .undecided s => .ok .undecided s
      | .error e s => .error e s := by
  simp only [next, Step.bind_apply]
  rcases (peek pages : Step (Cursor C scan × E) (Finding scan.Item)) (cursor, env) with
    ⟨_ | _ | _, s⟩ | ⟨e, s⟩ <;> rfl

/-- **Closing a cursor** closes its connection, once, and what is not yet
delivered is forgotten before that. -/
theorem close_apply :
    (close : Step (Cursor C scan × E) Unit) (cursor, env) =
      if cursor.closed then .ok () (cursor, env)
      else
        match (Connection.close : Step (Connection C × E) Unit) (cursor.connection, env) with
        | .ok _ (connection, env) =>
          .ok () ({ cursor with connection, closed := true, buffer := [] }, env)
        | .error e (connection, env) =>
          .error e ({ cursor with connection, closed := true, buffer := [] }, env) := by
  simp only [close, Step.bind_apply, getCursor_apply]
  cases cursor.closed with
  | true => rfl
  | false =>
    simp only [Bool.false_eq_true, if_false, Step.bind_apply, modifyCursor_apply,
      onConnection_apply]
    cases (Connection.close : Step (Connection C × E) Unit) (cursor.connection, env) <;> rfl

/-- **Letting go of a cursor** closes it and gives the connection back, whatever
the closing comes to. -/
theorem release_apply :
    (release : Step (Cursor C scan × E) (Connection C)) (cursor, env) =
      .ok (Step.left close (cursor, env)).1.connection (Step.left close (cursor, env)) := by
  simp only [release, Step.bind_apply, Step.attempt_apply, Step.left, Step.outcome]
  cases (close : Step (Cursor C scan × E) Unit) (cursor, env) <;> rfl

end Cursor

end RedisClient
