import RedisClient.Proofs.Scan.Failure
import RedisClient.Proofs.Sentinel.Transition

/-!
# The first sentinel that answers

A sentinel may be out of reach, it may be reached and not answer, or it answers.
Looking for one goes through the sentinels in their order and passes over those
of the first two kinds (`Sentinel.AllMissed`); a client that was opened for one
of the second kind is given back before the next one is tried
(`Sentinel.Miss.entries`). One sentinel is described once
(`Sentinel.reached?_missed_or_answers`), and by induction on the list it is the
first that answers at which the search ends
(`Sentinel.firstReached?_missed_or_answers`).
-/

namespace RedisClient

variable {C E α : Type}

/-- **A journaled client leaves what its client leaves**, and its call in the
journal. -/
theorem Journal.left_noting (call : C → Call) (step : Step (C × E) α) (owner : Option Node)
    (client : C) (env : E) (entries : List JournalEntry) :
    Step.left (noting call step) (({ owner, client } : Journaled C), (⟨env, entries⟩ : Journal E)) =
      let (after, env) := Step.left step (client, env)
      ({ owner, client := after }, ⟨env, entries ++ [⟨owner, call client⟩]⟩) := by
  simp only [Step.left, Step.outcome, noting, enter]
  cases step (client, env) <;> rfl

/-- **Opening a client for a sentinel** is entered, and the client is the
sentinel's. -/
theorem Journal.openSentinel_apply [Client C E] {opener : Journaled C}
    (howner : opener.owner = none) (node : Node) (env : E) (entries : List JournalEntry) :
    Client.openSentinel opener node (⟨env, entries⟩ : Journal E) =
      let (client, env) := Client.openSentinel opener.client node env
      (client.map fun client => { owner := some node, client },
        ⟨env, entries ++ [⟨none, .openSentinel node⟩]⟩) := by
  rw [← howner]
  rfl

namespace Sentinel

/-- Why a sentinel is passed over. -/
inductive Miss where
  /-- No client can be opened for it. -/
  | unreachable
  /-- It does not answer. -/
  | silent
  deriving DecidableEq, Repr

/-- The calls that are made for a sentinel that is passed over. -/
def Miss.entries (node : Node) : Miss → List JournalEntry
  | unreachable => [⟨none, .openSentinel node⟩]
  | silent => [⟨none, .openSentinel node⟩, ⟨some node, .execute .ping⟩, ⟨some node, .quit⟩]

/-- The calls for sentinels that are passed over, in order. -/
def missEntries (misses : List (Node × Miss)) : List JournalEntry :=
  misses.flatMap fun (node, miss) => miss.entries node

/-- The calls that are made for one that answers. -/
def answerEntries (node : Node) : List JournalEntry :=
  [⟨none, .openSentinel node⟩, ⟨some node, .execute .ping⟩]

/-- Of the calls for a sentinel that is passed over, one is the connection's. -/
theorem own_missEntries (env : E) (entries : List JournalEntry) (misses : List (Node × Miss)) :
    Journal.own ⟨env, entries ++ missEntries misses⟩ =
      Journal.own ⟨env, entries⟩ ++ (misses.map Prod.fst).map .openSentinel := by
  induction misses generalizing entries with
  | nil => simp [missEntries]
  | cons first rest ih =>
    obtain ⟨node, miss⟩ := first
    have hrest := ih (entries ++ miss.entries node)
    rw [List.append_assoc] at hrest
    refine hrest.trans ?_
    cases miss <;> simp [Journal.own, Miss.entries]

/-- So it is of those for one that answers. -/
theorem own_answerEntries (env : E) (entries : List JournalEntry) (node : Node) :
    Journal.own ⟨env, entries ++ answerEntries node⟩ =
      Journal.own ⟨env, entries⟩ ++ [.openSentinel node] := by
  simp [Journal.own, answerEntries]

section Outcomes

variable [Client C E]

/-- **A sentinel is missed**, which leaves these surroundings. -/
inductive Missed (opener : C) (node : Node) (env : E) : Miss → E → Prop
  /-- No client can be opened for it. -/
  | unreachable {error : Error} {env' : E} :
      Client.openSentinel opener node env = (.error error, env') →
      Missed opener node env .unreachable env'
  /-- Its client comes to an error, and is given back. -/
  | silent {client : C} {env' : E} {error : Error} {s : C × E} :
      Client.openSentinel opener node env = (.ok client, env') →
      Client.execute .ping (client, env') = .error error s →
      Missed opener node env .silent (Step.left Client.quit s).2

/-- Sentinels are missed one after the other. -/
inductive AllMissed (opener : C) : E → List (Node × Miss) → E → Prop
  /-- None so far. -/
  | nil {env : E} : AllMissed opener env [] env
  /-- One, and then the others. -/
  | cons {env env' env'' : E} {node : Node} {miss : Miss} {rest : List (Node × Miss)} :
      Missed opener node env miss env' → AllMissed opener env' rest env'' →
      AllMissed opener env ((node, miss) :: rest) env''

/-- **A sentinel answers**, and has this client. -/
inductive Answers (opener : C) (node : Node) (env : E) : C × E → Prop
  /-- A client can be opened for it, and gets an answer. -/
  | intro {client : C} {env' : E} {frame : Frame} {s : C × E} :
      Client.openSentinel opener node env = (.ok client, env') →
      Client.execute .ping (client, env') = .ok frame s → Answers opener node env s

end Outcomes

variable [Client C E] {opener : Journaled C}

/-- **One sentinel.** Either it is missed, or it answers; the journal says which. -/
theorem reached?_missed_or_answers (howner : opener.owner = none) (node : Node) (env : E)
    (entries : List JournalEntry) :
    (∃ miss env', Missed opener.client node env miss env' ∧
      reached? opener node (⟨env, entries⟩ : Journal E) =
        (none, ⟨env', entries ++ miss.entries node⟩)) ∨
    ∃ client env', Answers opener.client node env (client, env') ∧
      reached? opener node (⟨env, entries⟩ : Journal E) =
        (some { client := { owner := some node, client }, node },
          ⟨env', entries ++ answerEntries node⟩) := by
  rw [reached?, Journal.openSentinel_apply howner]
  rcases hopen : Client.openSentinel opener.client node env with ⟨error | client, env'⟩
  · exact .inl ⟨.unreachable, env', .unreachable hopen, rfl⟩
  · simp only [Except.map]
    cases hping : Client.execute .ping (client, env') with
    | ok frame s =>
      rw [Journal.execute_ok hping, List.append_assoc]
      exact .inr ⟨s.1, s.2, .intro hopen hping, rfl⟩
    | error error s =>
      rw [Journal.execute_error hping]
      refine .inl ⟨.silent, _, .silent hopen hping, ?_⟩
      -- the client is given back, and the journal says so whatever comes of it
      have hentries : entries ++ Miss.silent.entries node =
          entries ++ [⟨none, .openSentinel node⟩] ++ [⟨some node, .execute .ping⟩] ++
            [⟨some node, .quit⟩] := by simp [Miss.entries]
      rw [hentries]
      exact congrArg (fun s => (none, s.2)) (Journal.left_noting (fun _ => .quit)
        (Client.quit : Step (C × E) Unit) (some node) s.1 s.2 _)

/-- **The sentinels in their order.** Some are missed, and either these are all,
or the one behind them answers and no other is tried. -/
theorem firstReached?_missed_or_answers (howner : opener.owner = none) (nodes : List Node) (env : E)
    (entries : List JournalEntry) :
    ∃ misses env', AllMissed opener.client env misses env' ∧
      ((nodes = misses.map Prod.fst ∧
        firstReached? opener nodes (⟨env, entries⟩ : Journal E) =
          (none, ⟨env', entries ++ missEntries misses⟩)) ∨
      ∃ node untried client env'', nodes = misses.map Prod.fst ++ node :: untried ∧
        Answers opener.client node env' (client, env'') ∧
        firstReached? opener nodes (⟨env, entries⟩ : Journal E) =
          (some { client := { owner := some node, client }, node },
            ⟨env'', entries ++ missEntries misses ++ answerEntries node⟩)) := by
  induction nodes generalizing env entries with
  | nil => exact ⟨[], env, .nil, .inl ⟨rfl, by simp [firstReached?, missEntries]⟩⟩
  | cons node rest ih =>
    rw [firstReached?]
    rcases reached?_missed_or_answers howner node env entries with
      ⟨miss, env', hmissed, hreached⟩ | ⟨client, env', hanswers, hreached⟩
    · obtain ⟨misses, last, hmisses, hend⟩ := ih env' (entries ++ miss.entries node)
      refine ⟨(node, miss) :: misses, last, .cons hmissed hmisses, ?_⟩
      simp only [hreached, List.map_cons, missEntries, List.flatMap_cons, ← List.append_assoc]
      rcases hend with ⟨rfl, hnone⟩ | ⟨found, untried, client, env'', rfl, hanswers, hfound⟩
      · exact .inl ⟨rfl, hnone⟩
      · exact .inr ⟨found, untried, client, env'', rfl, hanswers, hfound⟩
    · refine ⟨[], env, .nil, .inr ⟨node, rest, client, env', rfl, hanswers, ?_⟩⟩
      simp only [hreached, missEntries, List.flatMap_nil, List.append_nil]

end Sentinel

/-- **Opening a connection to a sentinel** is to look for one, on an open
connection, which stays as it is. -/
theorem Connection.openSentinel_apply [Client C E] {c : Connection C} {group : SentinelGroup}
    (hopen : c.isClosed = false) (hgroup : c.sentinel = some group) (env : E) :
    Connection.openSentinel (c, env) =
      match Sentinel.firstReached? c.client group.nodes env with
      | (some sentinel, env) => .ok sentinel (c, env)
      | (none, env) => .error (.resourceUsage (.noneReachable group.master)) (c, env) := by
  simp only [Connection.openSentinel, Step.bind_apply, Step.get_apply, hgroup, ensureOpen_apply]
  cases hphase : c.phase with
  | closed => simp [isClosed, hphase] at hopen
  | direct | pipelined _ =>
    simp only [Step.modifyGet_apply]
    rcases Sentinel.firstReached? c.client group.nodes env with ⟨_ | sentinel, env'⟩ <;> rfl

end RedisClient
