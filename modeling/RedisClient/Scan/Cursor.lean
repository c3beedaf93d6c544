import RedisClient.Connection
import RedisClient.Scan

/-!
# Cursors

A cursor delivers the items of a scan one by one and asks for the next page when
the page before is used up. It takes its connection over: closing the cursor,
or letting go of it while it is open, closes the connection. A page that fails
is reported once and ends the traversal.

A server may answer with empty pages without end, so looking for an item takes
the number of pages that may be asked for on the way. Where that number is
reached before an item or the end is, the search is undecided and can be taken
up again.
-/

namespace RedisClient

/-- A traversal under way, with the connection that it runs on. -/
structure Cursor (C : Type) (scan : Scan) where
  /-- The connection. -/
  connection : Connection C
  /-- The hints that go with every request for a page. -/
  options : ScanOptions
  /-- The token of the next page. -/
  token : String := Page.endToken
  /-- Whether a page has come. -/
  fetched : Bool := false
  /-- The items that have come and are not yet delivered. -/
  buffer : List scan.Item := []
  /-- How many items have been delivered. -/
  position : Nat := 0
  /-- Whether the cursor is closed. -/
  closed : Bool := false
  /-- Whether a page has failed. -/
  failed : Bool := false

/-- What a search for an item finds. -/
inductive Finding (α : Type) where
  /-- An item. -/
  | item (a : α)
  /-- The end of the traversal. -/
  | finished
  /-- Only empty pages so far. -/
  | undecided
  deriving DecidableEq, Repr

namespace Cursor

variable {C E : Type} {scan : Scan} {α : Type}

/-- Whether the last page has come. -/
def isExhausted (cursor : Cursor C scan) : Bool :=
  cursor.fetched && cursor.token == Page.endToken

/-- The inspection text of a cursor. -/
def inspect (cursor : Cursor C scan) : String :=
  Inspect.record "ScanCursor"
    [("cursor_id", Inspect.text cursor.token), ("position", Inspect.nat cursor.position),
      ("buffered", Inspect.nat cursor.buffer.length),
      ("state", if cursor.closed then "Closed" else "Open")]

/-- Runs a step of the connection. -/
def onConnection (step : Step (Connection C × E) α) : Step (Cursor C scan × E) α :=
  step.focus connection fun connection cursor => { cursor with connection }

/-- The cursor. -/
def getCursor : Step (Cursor C scan × E) (Cursor C scan) := do return (← get).1

/-- Changes the cursor. -/
def modifyCursor (f : Cursor C scan → Cursor C scan) : Step (Cursor C scan × E) Unit :=
  modify fun (cursor, env) => (f cursor, env)

/-- The cursor after a page. -/
def addPage (page : Page scan.Item) (cursor : Cursor C scan) : Cursor C scan :=
  { cursor with token := page.token, buffer := cursor.buffer ++ page.items, fetched := true }

variable [Client C E]

/-- Asks for the next page. -/
def requestPage : Step (Cursor C scan × E) (Page scan.Item) := do
  let cursor ← getCursor
  onConnection do
    Connection.ensureOpen
    Connection.onClient (Client.ask (scan.command cursor.token cursor.options) scan.readPage)

/-- Takes the next page in. -/
def fetchPage : Step (Cursor C scan × E) Unit := do
  match ← Step.attempt requestPage with
  | .ok page => modifyCursor (addPage page)
  | .error error =>
    modifyCursor fun cursor => { cursor with failed := true }
    throw error

/-- Asks for pages until there is an item or the last page has come, though for
no more than a number of them. Says whether it got that far. -/
def fill : Nat → Step (Cursor C scan × E) Bool
  | 0 => do
    let cursor ← getCursor
    return !cursor.buffer.isEmpty || cursor.isExhausted
  | pages + 1 => do
    let cursor ← getCursor
    if !cursor.buffer.isEmpty || cursor.isExhausted then return true
    fetchPage
    fill pages

/-- Looks for an item without delivering it. -/
def peek (pages : Nat) : Step (Cursor C scan × E) (Finding scan.Item) := do
  let cursor ← getCursor
  if cursor.closed then throw (.misuse .cursorClosed)
  if cursor.failed then return .finished
  if ← fill pages then
    match (← getCursor).buffer with
    | [] => return .finished
    | item :: _ => return .item item
  else return .undecided

/-- Whether there is another item, unless that stays undecided. -/
def hasNext (pages : Nat) : Step (Cursor C scan × E) (Option Bool) := do
  match ← peek pages with
  | .item _ => return some true
  | .finished => return some false
  | .undecided => return none

/-- Delivers the next item. -/
def next (pages : Nat) : Step (Cursor C scan × E) (Finding scan.Item) := do
  let finding ← peek pages
  if let .item _ := finding then
    modifyCursor fun cursor =>
      { cursor with position := cursor.position + 1, buffer := cursor.buffer.tail }
  return finding

/-- Closes the connection and forgets what is not yet delivered. A closed
cursor is left as it is. -/
def close : Step (Cursor C scan × E) Unit := do
  if (← getCursor).closed then return
  modifyCursor fun cursor => { cursor with closed := true, buffer := [] }
  onConnection Connection.close

/-- Closes the cursor and gives its connection back, whatever the closing
itself comes to. -/
def release : Step (Cursor C scan × E) (Connection C) := do
  let _ ← Step.attempt close
  return (← getCursor).connection

end Cursor

/-- A cursor for a scan on this connection. Nothing is sent yet. -/
def Connection.scan {C E : Type} (scan : Scan) (options : ScanOptions) :
    Step (Connection C × E) (Cursor C scan) := do
  permit scan.operation
  return { connection := (← get).1, options }

end RedisClient
