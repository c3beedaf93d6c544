import RedisClient.Network.Scripted
import RedisClient.Proofs.Connection.Order
import RedisClient.Proofs.Frame.Header
import RedisClient.Proofs.Number.Spelling
import RedisClient.Proofs.Reply.Blame

/-!
# Refusals in order

An operation may be refused before the client hears of it: because an argument
fails its check, because the connection is closed, or because it may not wait
and a pipeline is open, and of several reasons the first in this order is given.
What each request checks is a list of checks (`Request.checks`), which are made
one after the other (`Request.check_eq`). A refusal leaves everything as it is,
and where nothing is refused nothing that follows looks like a refusal, neither
the call that reaches the client nor the reading of its reply
(`Connection.refusals_in_order`). A number that has passed its check is sent in
decimal, and nothing else in its place (`Request.args_of_number`).
-/

namespace RedisClient

variable {C E : Type}

/-! ## Checks -/

/-- A check of one argument. -/
inductive Check where
  /-- A list must have items; the command needs at least one. -/
  | items (command item : String) (count : Nat)
  /-- A number must be a 32-bit integer. It goes to this place among what is
  sent. -/
  | number (name : String) (value : Int64) (place : Nat)
  /-- A text must have more than white space. -/
  | text (name content : String)
  deriving DecidableEq, Repr

namespace Check

/-- What makes a check fail. -/
def Fails : Check → Prop
  | items _ _ count => count = 0
  | number _ value _ => value.toInt < -0x80000000 ∨ 0x7FFFFFFF < value.toInt
  | text _ content => ∀ c ∈ content.toList, Blank.isBlank c = true

instance : DecidablePred Fails
  | items _ _ count => inferInstanceAs (Decidable (count = 0))
  | number _ value _ =>
    inferInstanceAs (Decidable (value.toInt < -0x80000000 ∨ 0x7FFFFFFF < value.toInt))
  | text _ content =>
    inferInstanceAs (Decidable (∀ c ∈ content.toList, Blank.isBlank c = true))

/-- What is said where it does. -/
def fault : Check → ArgumentFault
  | items command item _ => .missing command item
  | number name value _ => .outOfRange name value
  | text name _ => .blank name

/-- What making a check comes to. -/
def outcome (check : Check) : Except Error Unit :=
  if check.Fails then .error (.invalidArgument check.fault) else .ok ()

/-- One check is made by itself. -/
theorem forM_one (check : Check) : [check].forM outcome = check.outcome := by
  rw [List.forM_eq_forM, List.forM_cons, List.forM_nil]
  exact bind_pure _

/-- The second of two checks is made if the first one passes. -/
theorem forM_two (first second : Check) :
    [first, second].forM outcome = (first.outcome >>= fun _ => second.outcome) := by
  rw [List.forM_eq_forM, List.forM_cons, ← List.forM_eq_forM, forM_one]

/-- **Checks that are made one after the other** come to the fault of the first
one that fails. -/
theorem forM_outcome (checks : List Check) :
    checks.forM outcome =
      match checks.find? fun check => check.Fails with
      | some check => .error (.invalidArgument check.fault)
      | none => .ok () := by
  induction checks with
  | nil => rfl
  | cons check rest ih =>
    rw [List.forM_eq_forM, List.forM_cons, outcome]
    by_cases hfails : check.Fails
    · rw [if_pos hfails, List.find?_cons_of_pos (by simpa using hfails)]
      rfl
    · rw [if_neg hfails, List.find?_cons_of_neg (by simpa using hfails)]
      exact ih

end Check

namespace Validation

/-- A list of items is checked for having some. -/
theorem notEmpty_eq {α : Type} (command item : String) (items : List α) :
    notEmpty command item items = (Check.items command item items.length).outcome := by
  cases items <;> rfl

/-- A number is checked for its range. -/
theorem int32_bind {β : Type} (name : String) (value : Int64) (place : Nat)
    (next : Except Error β) :
    (int32 name value >>= fun _ => next) =
      ((Check.number name value place).outcome >>= fun _ => next) := by
  have hrange : (-0x80000000 ≤ value.toInt ∧ value.toInt ≤ 0x7FFFFFFF) ↔
      ¬ (Check.number name value place).Fails := by
    simp only [Check.Fails]
    omega
  unfold int32 Check.outcome
  by_cases hfails : (Check.number name value place).Fails
  · rw [if_neg (fun h => hrange.1 h hfails), if_pos hfails]
    rfl
  · rw [if_pos (hrange.2 hfails), if_neg hfails]
    rfl

/-- A text is checked for more than white space. -/
theorem notBlank_bind {β : Type} (name text : String) (next : Except Error β) :
    (notBlank name text >>= fun _ => next) =
      ((Check.text name text).outcome >>= fun _ => next) := by
  have hblank : Blank.isBlankText text = true ↔ (Check.text name text).Fails :=
    List.all_eq_true
  unfold notBlank Check.outcome
  by_cases hfails : (Check.text name text).Fails
  · rw [if_pos (hblank.2 hfails), if_pos hfails]
    rfl
  · rw [if_neg (fun h => hfails (hblank.1 h)), if_neg hfails]
    rfl

end Validation

namespace Request

/-- What a request checks, in order. -/
def checks : Request → List Check
  | del keys => [.items "DEL" "key" keys.length]
  | sAdd _ members => [.items "SADD" "member" members.length]
  | sRem _ members => [.items "SREM" "member" members.length]
  | zRem _ members => [.items "ZREM" "member" members.length]
  | hDel _ fields => [.items "HDEL" "field" fields.length]
  | restore _ millis _ => [.number "ttl" millis 1]
  | setEx _ seconds _ => [.number "seconds" seconds 1]
  | sRandMembers _ count => [.number "count" count 1]
  | getRange _ start stop => [.number "start" start 1, .number "end" stop 2]
  | zRangeByScore _ _ _ (some (offset, count)) =>
    [.number "offset" offset 4, .number "count" count 5]
  | setClientName name => [.text "client name" name]
  | killClient host _ | slaveOf host _ => [.text "host" host]
  | custom name _ => [.text "command name" name]
  | _ => []

/-- **A request is checked** by making its checks one after the other. -/
theorem check_eq (request : Request) : request.check = request.checks.forM Check.outcome := by
  cases request with
  | del keys | sAdd _ keys | sRem _ keys | zRem _ keys | hDel _ keys =>
    rw [check, Validation.notEmpty_eq, checks, Check.forM_one]
  | restore _ n _ | setEx _ n _ | sRandMembers _ n =>
    rw [check, Validation.int32_bind _ _ 1, checks, Check.forM_one]
    exact bind_pure _
  | getRange _ start stop =>
    rw [check, Validation.int32_bind _ _ 1, Validation.int32_bind _ _ 2, checks, Check.forM_two]
    exact congrArg _ (funext fun _ => bind_pure _)
  | zRangeByScore _ _ _ limit =>
    cases limit with
    | none => rfl
    | some limit =>
      obtain ⟨offset, count⟩ := limit
      rw [check, Validation.int32_bind _ _ 4, Validation.int32_bind _ _ 5, checks, Check.forM_two]
      exact congrArg _ (funext fun _ => bind_pure _)
  | setClientName name | killClient name _ | slaveOf name _ | custom name _ =>
    rw [check, Validation.notBlank_bind, checks, Check.forM_one]
    exact bind_pure _
  | _ => rfl

/-- So a request is refused for the first of its checks that fails. -/
theorem check_eq_find (request : Request) :
    request.check =
      match request.checks.find? fun check => check.Fails with
      | some check => .error (.invalidArgument check.fault)
      | none => .ok () := by
  rw [check_eq, Check.forM_outcome]

/-- **A number that is checked is sent in decimal**, in its place. -/
theorem args_of_number {request : Request} {name : String} {value : Int64} {place : Nat}
    (h : .number name value place ∈ request.checks) :
    request.command.args[place]? = some (Utf8.encode (Decimal.intText value.toInt)) := by
  cases request with
  | restore _ n _ | setEx _ n _ | sRandMembers _ n =>
    obtain ⟨rfl, rfl, rfl⟩ := Check.number.inj (List.mem_singleton.1 h)
    rfl
  | getRange _ start stop =>
    rcases List.mem_cons.1 h with h | h
    · obtain ⟨rfl, rfl, rfl⟩ := Check.number.inj h
      rfl
    · obtain ⟨rfl, rfl, rfl⟩ := Check.number.inj (List.mem_singleton.1 h)
      rfl
  | zRangeByScore _ _ _ limit =>
    cases limit with
    | none => exact absurd h List.not_mem_nil
    | some limit =>
      obtain ⟨offset, count⟩ := limit
      rcases List.mem_cons.1 h with h | h
      · obtain ⟨rfl, rfl, rfl⟩ := Check.number.inj h
        rfl
      · obtain ⟨rfl, rfl, rfl⟩ := Check.number.inj (List.mem_singleton.1 h)
        rfl
  | _ => simp [checks] at h

end Request

/-- What is sent for a number is read back as the number. -/
theorem Frame.intOfBytes_intText (n : Int64) :
    intOfBytes (Utf8.encode (Decimal.intText n.toInt)) = .ok n := by
  have hread : Decimal.readInt64 (Decimal.ofInt n.toInt) = .ok n :=
    Decimal.readInt64_eq_ok_iff.2 (Decimal.spells_ofInt n.toInt)
  rw [intOfBytes, Decimal.decode_intText]
  simp only [Except.toOption, Option.bind_some, hread]

/-! ## Clients that leave refusing to others -/

/-- An error that refuses an argument, or an operation that may not wait. -/
def Error.IsRefusal : Error → Prop
  | invalidArgument _ | unsupported _ => True
  | io _ | protocol _ | server _ | auth | timeout _ | resourceUsage _ | misuse _ => False

/-- No error of the exchange with a server does. -/
theorem Error.not_isRefusal_of_kind {error : Error} (h : error.kind = .dataAccess) :
    ¬ error.IsRefusal := by
  cases error with
  | invalidArgument _ | unsupported _ => cases h
  | _ => exact not_false

/-- **An obliging client.** Where it is asked to run a command or to keep one
back it does not refuse an argument or an operation. -/
structure Client.Obliging [Client C E] (client : C) (env : E) : Prop where
  /-- It does not when a command is to be run. -/
  execute : ∀ ⦃command : Command⦄ ⦃error : Error⦄ ⦃s : C × E⦄,
    Client.execute command (client, env) = .error error s → ¬ error.IsRefusal
  /-- It does not when a command is to be kept back. -/
  queue : ∀ ⦃command : Command⦄ ⦃error : Error⦄ ⦃s : C × E⦄,
    Client.queue command (client, env) = .error error s → ¬ error.IsRefusal

/-- Keeping a journal makes no client less obliging. -/
theorem Client.Obliging.journaled [Client C E] {client : Journaled C} {journal : Journal E}
    (h : Client.Obliging client.client journal.env) : Client.Obliging client journal where
  execute command error s hfail := by
    simp only [Client.execute, Journal.noting, Journal.enter] at hfail
    cases hresult : Client.execute command (client.client, journal.env) with
    | ok frame s' => simp [hresult] at hfail
    | error error' s' =>
      simp only [hresult] at hfail
      obtain ⟨rfl, -⟩ := EStateM.Result.error.inj hfail
      exact h.execute hresult
  queue command error s hfail := by
    simp only [Client.queue, Journal.noting, Journal.enter] at hfail
    cases hresult : Client.queue command (client.client, journal.env) with
    | ok _ s' => simp [hresult] at hfail
    | error error' s' =>
      simp only [hresult] at hfail
      obtain ⟨rfl, -⟩ := EStateM.Result.error.inj hfail
      exact h.queue hresult

/-- **A wire client is obliging**: it fails with its server's errors, with those
of the exchange, or because it cannot be used. -/
theorem WireClient.obliging {S N : Type} [ByteStream S] [Network S N] (client : WireClient S)
    (net : N) : Client.Obliging client net where
  execute command error s hfail := by
    rw [execute_apply] at hfail
    split at hfail
    · split at hfail
      · rename_i frame channel hexchange
        split at hfail
        · simp at hfail
        · rename_i error' hresult
          obtain ⟨rfl, -⟩ := EStateM.Result.error.inj hfail
          exact Error.not_isRefusal_of_kind (frame.toResult_blamesServer hresult)
      · rename_i error' channel hexchange
        obtain ⟨rfl, -⟩ := EStateM.Result.error.inj hfail
        have hplace := Channel.strict_exchange command.words hexchange
        cases error' <;> simp_all [losesPlace, Error.IsRefusal]
    all_goals
      obtain ⟨rfl, -⟩ := EStateM.Result.error.inj hfail
      exact not_false
  queue command error s hfail := by
    rw [queue_apply] at hfail
    split at hfail
    · simp at hfail
    all_goals
      obtain ⟨rfl, -⟩ := EStateM.Result.error.inj hfail
      exact not_false

/-! ## What the connection says -/

namespace Connection

/-- What a connection has against an operation, if anything: that it is closed,
or else that a pipeline is open in which the operation may not wait. -/
def objection? (c : Connection C) (operation : Operation) : Option Error :=
  if c.isClosed then some (.misuse .connectionClosed)
  else if c.isPipelined ∧ operation.support = .unsupported then some (.unsupported operation)
  else none

variable {c : Connection C} {env : E} {error : Error} {operation : Operation} {command : Command}
  {kind : ReplyKind}

/-- A permit is given exactly if there is nothing against it. -/
theorem permit_eq (c : Connection C) (env : E) (operation : Operation) :
    (permit operation : Step (Connection C × E) Unit) (c, env) =
      match c.objection? operation with
      | some error => .error error (c, env)
      | none => .ok () (c, env) := by
  rw [permit_apply, objection?, isClosed, isPipelined, mode]
  cases c.phase with
  | direct => rfl
  | pipelined pending => by_cases h : operation.support = .unsupported <;> simp [h]
  | closed => rfl

/-- It never speaks of arguments. -/
theorem objection?_ne_invalidArgument (fault : ArgumentFault) :
    c.objection? operation ≠ some (.invalidArgument fault) := by
  unfold objection?
  split_ifs <;> simp

/-- It refuses an operation exactly if a pipeline is open and the operation may
not wait. -/
theorem objection?_eq_unsupported :
    (∃ other, c.objection? operation = some (.unsupported other)) ↔
      c.isPipelined = true ∧ operation.support = .unsupported := by
  -- a pipeline is open on an open connection only
  have hopen : c.isPipelined = true → c.isClosed = false := by
    unfold isPipelined isClosed mode
    cases c.phase <;> simp
  unfold objection?
  constructor
  · rintro ⟨other, h⟩
    split_ifs at h with hclosed hwaits
    · cases h
    · exact hwaits
  · rintro ⟨hpipelined, hsupport⟩
    refine ⟨operation, ?_⟩
    rw [hopen hpipelined, if_neg Bool.false_ne_true, if_pos ⟨hpipelined, hsupport⟩]

/-- What is dispatched with nothing against it asks for one call. -/
theorem calls_of_objection_none (command : Command) (h : c.objection? operation = none) :
    operation.calls command c.phase =
      [if c.isPipelined then .queue command else .execute command] := by
  rw [objection?, isClosed, isPipelined, mode] at h
  rw [isPipelined, mode]
  generalize c.phase = phase at h
  cases phase with
  | direct => rfl
  | pipelined pending =>
    have hsupport : operation.support ≠ .unsupported := by
      intro hunsupported
      simp [hunsupported] at h
    exact if_neg hsupport
  | closed => simp at h

variable [Client C E]

/-- Without a permit nothing is dispatched. -/
theorem dispatch_of_permit_error (h : permit operation (c, env) = .error error (c, env)) :
    dispatch operation command kind (c, env) = .error error (c, env) := by
  simp only [dispatch, Step.bind_apply, h]

/-- With a permit, what is dispatched to an obliging client is not refused. -/
theorem not_isRefusal_of_dispatch {s : Connection C × E}
    (hpermit : permit operation (c, env) = .ok () (c, env))
    (hobliging : Client.Obliging c.client env)
    (h : dispatch operation command kind (c, env) = .error error s) : ¬ error.IsRefusal := by
  rw [dispatch_apply] at h
  rw [permit_apply] at hpermit
  cases hphase : c.phase with
  | direct =>
    simp only [hphase] at h
    cases hexecute : Client.execute command (c.client, env) with
    | ok frame s' =>
      simp only [hexecute] at h
      cases hread : kind.read frame with
      | ok a => simp [hread] at h
      | error error' =>
        simp only [hread] at h
        obtain ⟨rfl, -⟩ := EStateM.Result.error.inj h
        exact Error.not_isRefusal_of_kind (kind.read_blamesServer frame hread)
    | error error' s' =>
      simp only [hexecute] at h
      obtain ⟨rfl, -⟩ := EStateM.Result.error.inj h
      exact hobliging.execute hexecute
  | pipelined pending =>
    simp only [hphase] at h hpermit
    by_cases hsupport : operation.support = .unsupported
    · simp [hsupport] at hpermit
    · rw [if_neg hsupport] at h
      cases hqueue : Client.queue command (c.client, env) with
      | ok _ s' => simp [hqueue] at h
      | error error' s' =>
        simp only [hqueue] at h
        obtain ⟨rfl, -⟩ := EStateM.Result.error.inj h
        exact hobliging.queue hqueue
  | closed => simp [hphase] at hpermit

end Connection

/-! ## Invocations -/

/-- An operation of a connection with its arguments. -/
inductive Invocation where
  /-- A request. -/
  | request (r : Request)
  /-- Stopping the server. -/
  | shutdown (option : Option SaveOption)
  /-- A scan. -/
  | scan (kind : Scan) (options : ScanOptions)

namespace Invocation

/-- The operation. -/
def operation : Invocation → Operation
  | request r => r.operation
  | shutdown option => Connection.shutdownOperation option
  | scan kind _ => kind.operation

/-- What is checked about its arguments, in order. -/
def checks : Invocation → List Check
  | request r => r.checks
  | shutdown _ | scan _ _ => []

/-- Has a connection do it. -/
def issue [Client C E] : Invocation → Step (Connection C × E) Unit
  | request r => do let _ ← Connection.run r
  | shutdown option => do let _ ← Connection.shutdown option
  | scan kind options => do let _ ← Connection.scan kind options

/-- **Why an invocation is refused**, if it is: for the first of its checks that
fails, or else for what the connection has against the operation. -/
def refusal? (invocation : Invocation) (c : Connection C) : Option Error :=
  match invocation.checks.find? fun check => check.Fails with
  | some check => some (.invalidArgument check.fault)
  | none => c.objection? invocation.operation

variable {invocation : Invocation} {c : Connection C}

/-- It is refused for an argument exactly if a check fails. -/
theorem refusal?_eq_invalidArgument :
    (∃ fault, invocation.refusal? c = some (.invalidArgument fault)) ↔
      ∃ check ∈ invocation.checks, check.Fails := by
  unfold refusal?
  cases hfind : invocation.checks.find? fun check => check.Fails with
  | some check =>
    have hfails : check.Fails := by simpa using List.find?_some hfind
    exact ⟨fun _ => ⟨check, List.mem_of_find?_eq_some hfind, hfails⟩, fun _ => ⟨check.fault, rfl⟩⟩
  | none =>
    have hpass : ∀ check ∈ invocation.checks, ¬ check.Fails := by
      simpa using List.find?_eq_none.1 hfind
    constructor
    · rintro ⟨fault, h⟩
      exact absurd h (Connection.objection?_ne_invalidArgument fault)
    · rintro ⟨check, hmem, hfails⟩
      exact absurd hfails (hpass check hmem)

/-- It is refused for its operation exactly if no check fails, a pipeline is open
and the operation may not wait. -/
theorem refusal?_eq_unsupported :
    (∃ operation, invocation.refusal? c = some (.unsupported operation)) ↔
      (∀ check ∈ invocation.checks, ¬ check.Fails) ∧ c.isPipelined = true ∧
        invocation.operation.support = .unsupported := by
  unfold refusal?
  cases hfind : invocation.checks.find? fun check => check.Fails with
  | some check =>
    have hfails : check.Fails := by simpa using List.find?_some hfind
    constructor
    · rintro ⟨operation, h⟩
      cases h
    · exact fun h => absurd hfails (h.1 check (List.mem_of_find?_eq_some hfind))
  | none =>
    have hpass : ∀ check ∈ invocation.checks, ¬ check.Fails := by
      simpa using List.find?_eq_none.1 hfind
    exact Connection.objection?_eq_unsupported.trans ⟨fun h => ⟨hpass, h⟩, And.right⟩

/-- A request that is not refused asks for one call with its command. -/
theorem calls_of_refusal_none {r : Request} (h : (request r).refusal? c = none) :
    r.calls c.phase = [if c.isPipelined then .queue r.command else .execute r.command] := by
  unfold refusal? at h
  rw [checks, operation] at h
  cases hfind : r.checks.find? fun check => check.Fails with
  | some check =>
    rw [hfind] at h
    cases h
  | none =>
    have hcheck : r.check = .ok () := by rw [Request.check_eq_find, hfind]
    rw [hfind] at h
    rw [Request.calls, hcheck]
    exact Connection.calls_of_objection_none r.command h

variable [Client C E] {env : E} {error : Error}

/-- What a request is issued as is running it. -/
theorem left_issue_request (r : Request) (s : Connection C × E) :
    Step.left (request r).issue s = Step.left (Connection.run r) s := by
  simp only [Step.left, Step.outcome, issue, Step.bind_apply]
  cases Connection.run r s <;> rfl

/-- A check that fails comes first, and nothing has happened. -/
theorem issue_of_fails {check : Check}
    (hfind : (invocation.checks.find? fun check => check.Fails) = some check) :
    invocation.issue (c, env) = .error (.invalidArgument check.fault) (c, env) := by
  cases invocation with
  | request r =>
    rw [checks] at hfind
    have hcheck : r.check = .error (.invalidArgument check.fault) := by
      rw [Request.check_eq_find, hfind]
    simp only [issue, Step.bind_apply, Connection.run_apply, hcheck]
  | shutdown _ | scan _ _ => exact nomatch hfind

/-- A permit that is not given comes next, and nothing has happened. -/
theorem issue_of_permit_error
    (hfind : (invocation.checks.find? fun check => check.Fails) = none)
    (hpermit : Connection.permit invocation.operation (c, env) = .error error (c, env)) :
    invocation.issue (c, env) = .error error (c, env) := by
  cases invocation with
  | request r =>
    rw [checks] at hfind
    rw [operation] at hpermit
    have hcheck : r.check = .ok () := by rw [Request.check_eq_find, hfind]
    simp only [issue, Step.bind_apply, Connection.run_apply, hcheck,
      Connection.dispatch_of_permit_error hpermit]
  | shutdown option =>
    rw [operation] at hpermit
    have hstream := Connection.endsStream_of_permit_error c env hpermit
    simp only [issue, Step.bind_apply, Connection.shutdown_apply,
      Connection.dispatch_of_permit_error hpermit, hstream, Bool.false_eq_true, if_false]
  | scan kind options =>
    rw [operation] at hpermit
    simp only [issue, Connection.scan, Step.bind_apply, hpermit]

/-- With a permit, what an obliging client is asked is not refused. -/
theorem not_isRefusal_of_permit {s : Connection C × E}
    (hfind : (invocation.checks.find? fun check => check.Fails) = none)
    (hpermit : Connection.permit invocation.operation (c, env) = .ok () (c, env))
    (hobliging : Client.Obliging c.client env)
    (h : invocation.issue (c, env) = .error error s) : ¬ error.IsRefusal := by
  cases invocation with
  | request r =>
    rw [checks] at hfind
    rw [operation] at hpermit
    have hcheck : r.check = .ok () := by rw [Request.check_eq_find, hfind]
    simp only [issue, Step.bind_apply, Connection.run_apply, hcheck] at h
    cases hdispatch : Connection.dispatch r.operation r.command r.kind (c, env) with
    | ok reply s' => simp [hdispatch] at h
    | error error' s' =>
      simp only [hdispatch] at h
      obtain ⟨rfl, -⟩ := EStateM.Result.error.inj h
      exact Connection.not_isRefusal_of_dispatch hpermit hobliging hdispatch
  | shutdown option =>
    rw [operation] at hpermit
    simp only [issue, Step.bind_apply, Connection.shutdown_apply] at h
    cases hdispatch : Connection.dispatch (Connection.shutdownOperation option)
        (Connection.shutdownCommand option) .status (c, env) with
    | ok reply s' => simp [hdispatch] at h
    | error error' s' =>
      simp only [hdispatch] at h
      cases hstream : Connection.endsStream error' with
      | true => simp [hstream] at h
      | false =>
        simp only [hstream, Bool.false_eq_true, if_false] at h
        obtain ⟨rfl, -⟩ := EStateM.Result.error.inj h
        exact Connection.not_isRefusal_of_dispatch hpermit hobliging hdispatch
  | scan kind options =>
    rw [operation] at hpermit
    simp [issue, Connection.scan, hpermit] at h

/-- **A refusal is final, and nothing has happened.** -/
theorem issue_of_refusal (h : invocation.refusal? c = some error) :
    invocation.issue (c, env) = .error error (c, env) := by
  unfold refusal? at h
  cases hfind : invocation.checks.find? fun check => check.Fails with
  | some check =>
    rw [hfind] at h
    obtain rfl := Option.some.inj h
    exact issue_of_fails hfind
  | none =>
    rw [hfind] at h
    have hobjection : c.objection? invocation.operation = some error := h
    have hpermit := Connection.permit_eq c env invocation.operation
    rw [hobjection] at hpermit
    exact issue_of_permit_error hfind hpermit

/-- **Where nothing is refused**, nothing that follows looks like a refusal. -/
theorem not_isRefusal_of_issue {s : Connection C × E} (hnone : invocation.refusal? c = none)
    (hobliging : Client.Obliging c.client env)
    (h : invocation.issue (c, env) = .error error s) : ¬ error.IsRefusal := by
  unfold refusal? at hnone
  cases hfind : invocation.checks.find? fun check => check.Fails with
  | some check =>
    rw [hfind] at hnone
    cases hnone
  | none =>
    rw [hfind] at hnone
    have hobjection : c.objection? invocation.operation = none := hnone
    have hpermit := Connection.permit_eq c env invocation.operation
    rw [hobjection] at hpermit
    exact not_isRefusal_of_permit hfind hpermit hobliging h

/-- So an error that looks like a refusal is what the invocation is refused
for. -/
theorem outcome_eq_refusal_iff (hobliging : Client.Obliging c.client env)
    (hrefusal : error.IsRefusal) :
    (invocation.issue.outcome (c, env)).1 = .error error ↔ invocation.refusal? c = some error := by
  constructor
  · intro h
    cases hreason : invocation.refusal? c with
    | none =>
      cases hissue : invocation.issue (c, env) with
      | ok _ s =>
        rw [Step.outcome_of_ok hissue] at h
        cases h
      | error error' s =>
        rw [Step.outcome_of_error hissue] at h
        obtain rfl := Except.error.inj h
        exact absurd hrefusal (not_isRefusal_of_issue hreason hobliging hissue)
    | some reason =>
      rw [Step.outcome_of_error (issue_of_refusal hreason)] at h
      obtain rfl := Except.error.inj h
      rfl
  · intro h
    rw [Step.outcome_of_error (issue_of_refusal h)]

end Invocation

/-! ## Every run -/

namespace Connection

open Invocation (issue)

variable [Client C E] {client : C} {c : Connection (Journaled C)} {journal : Journal E}

/-- **Refusals come in a fixed order and have no effect.** On every run, over a
client that is obliging where the run has come to, an invocation for which there
is a reason to refuse it comes to that reason: the first of its checks that
fails, in every phase; or else that the connection is closed; or else that a
pipeline is open and the operation may not wait. The client is not called, and
the connection is left as it was. It is refused for an argument exactly if a
check fails, and for its operation exactly if none does, a pipeline is open and
the operation may not wait. A request that is not refused makes one call, with
its command, and the numbers that have been checked stand in it in decimal, as
which they are read back. -/
theorem refusals_in_order (h : Recorded client (c, journal))
    (hobliging : Client.Obliging c.client.client journal.env) (invocation : Invocation) :
    (∀ reason, invocation.refusal? c = some reason →
        invocation.issue.outcome (c, journal) = (.error reason, c, journal)) ∧
      ((∃ fault, (invocation.issue.outcome (c, journal)).1 = .error (.invalidArgument fault)) ↔
        ∃ check ∈ invocation.checks, check.Fails) ∧
      ((∃ operation, (invocation.issue.outcome (c, journal)).1 = .error (.unsupported operation)) ↔
        (∀ check ∈ invocation.checks, ¬ check.Fails) ∧ c.isPipelined = true ∧
          invocation.operation.support = .unsupported) ∧
      ∀ r, invocation = .request r → invocation.refusal? c = none →
        (invocation.issue.outcome (c, journal)).2.2.own = journal.own ++
            [if c.isPipelined then .queue r.command else .execute r.command] ∧
          ∀ name value place, .number name value place ∈ r.checks →
            ∃ word, r.command.args[place]? = some word ∧
              word = Utf8.encode (Decimal.intText value.toInt) ∧
              Frame.intOfBytes word = .ok value := by
  have hclient : Client.Obliging c.client journal := hobliging.journaled
  refine ⟨fun reason hreason => ?_, ?_, ?_, ?_⟩
  · exact Step.outcome_of_error (Invocation.issue_of_refusal hreason)
  · rw [← Invocation.refusal?_eq_invalidArgument (c := c)]
    exact exists_congr fun fault => Invocation.outcome_eq_refusal_iff hclient trivial
  · rw [← Invocation.refusal?_eq_unsupported (c := c)]
    exact exists_congr fun operation => Invocation.outcome_eq_refusal_iff hclient trivial
  · rintro r rfl hnone
    have hasked := (h.asked.run r).own_eq
    rw [Invocation.calls_of_refusal_none hnone, ← Invocation.left_issue_request] at hasked
    exact ⟨hasked, fun name value place hmem =>
      ⟨_, Request.args_of_number hmem, rfl, Frame.intOfBytes_intText value⟩⟩

/-- A range with an end that is too large and one with the largest end, on a
closed connection and while a pipeline is open, and an operation that may not
wait. -/
theorem refusals_in_order_range :
    let wire : WireClient ScriptedStream :=
      { config := { node := ⟨"localhost", 6379⟩ }, channel := { stream := {} } }
    let new : Connection (Journaled (WireClient ScriptedStream)) × Journal ScriptedNetwork :=
      ({ client := { client := wire } }, { env := {} })
    let waiting := Act.after new .openPipeline
    let closed := Act.after waiting .close
    let range (stop : Int64) : Invocation := .request (.getRange [107] 0 stop)
    let select : Invocation := .request (.select 3)
    (Recorded wire waiting ∧ Recorded wire closed ∧
        Client.Obliging waiting.1.client.client waiting.2.env ∧
        Client.Obliging closed.1.client.client closed.2.env) ∧
      (range 2147483648).issue.outcome closed =
        (.error (.invalidArgument (.outOfRange "end" 2147483648)), closed) ∧
      (range 2147483647).issue.outcome closed = (.error (.misuse .connectionClosed), closed) ∧
      select.issue.outcome waiting = (.error (.unsupported .select), waiting) ∧
      ((range 2147483647).issue.outcome waiting).2.2.own =
        [.queue ⟨Utf8.encode "GETRANGE", [[107], Utf8.encode "0", Utf8.encode "2147483647"]⟩] := by
  intro wire new waiting closed range select
  have hwaiting : Recorded wire waiting := .act .openPipeline (.opened _)
  have hclosed : Recorded wire closed := .act .close hwaiting
  have hobliging₁ := WireClient.obliging waiting.1.client.client waiting.2.env
  have hobliging₂ := WireClient.obliging closed.1.client.client closed.2.env
  have hend : closed.1.isClosed = true := hwaiting.asked.close.isClosed_eq
  have hreason : (range 2147483647).refusal? closed.1 = some (.misuse .connectionClosed) :=
    if_pos hend
  refine ⟨⟨hwaiting, hclosed, hobliging₁, hobliging₂⟩, ?_, ?_, ?_, ?_⟩
  · exact (refusals_in_order hclosed hobliging₂ (range 2147483648)).1 _ rfl
  · exact (refusals_in_order hclosed hobliging₂ (range 2147483647)).1 _ hreason
  · exact (refusals_in_order hwaiting hobliging₁ select).1 _ rfl
  · exact ((refusals_in_order hwaiting hobliging₁ (range 2147483647)).2.2.2 _ rfl rfl).1

end Connection

end RedisClient
