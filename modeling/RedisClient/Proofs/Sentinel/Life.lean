import RedisClient.Client.Scripted
import RedisClient.Proofs.Connection.Release
import RedisClient.Proofs.Sentinel.Selection

/-!
# The life of a connection to a sentinel

A connection to a sentinel is used for administrative calls, may be closed at
any time and more than once, and is let go of in the end. Its client has then
run one command for each call with valid arguments that was made before it was
closed, and after these it has been asked to give its stream back, once
(`Sentinel.Held.release_foldl_after`). Together with the search for the first
sentinel that answers, this accounts for every client that a connection opens
(`Connection.openSentinel_selects_and_releases`).
-/

namespace RedisClient

variable {C E : Type}

/-- What may be done with a connection to a sentinel. -/
inductive SentinelUse where
  /-- An administrative call is made. -/
  | administer (administration : Administration)
  /-- It is closed. -/
  | close

namespace SentinelUse

/-- The connection to the sentinel and its surroundings after a use. -/
def after [Client C E] (s : Sentinel C × E) : SentinelUse → Sentinel C × E
  | administer administration => Step.left administration.run s
  | close => Step.left Sentinel.close s

/-- What is asked of the client of an open connection that is used so and then
let go of. -/
def calls : List SentinelUse → List Call
  | [] => [.quit]
  | close :: _ => [.quit]
  | administer administration :: rest =>
    if administration.valid then .execute administration.command :: calls rest else calls rest

/-- It is asked to give its stream back once, in the end. -/
theorem calls_eq (uses : List SentinelUse) :
    ∃ commands : List Command, calls uses = commands.map .execute ++ [.quit] := by
  induction uses with
  | nil => exact ⟨[], rfl⟩
  | cons use rest ih =>
    cases use with
    | close => exact ⟨[], rfl⟩
    | administer administration =>
      obtain ⟨commands, hcommands⟩ := ih
      rw [calls, hcommands]
      cases administration.valid with
      | true => exact ⟨administration.command :: commands, rfl⟩
      | false => exact ⟨commands, rfl⟩

end SentinelUse

namespace Sentinel

/-- **A connection to a sentinel**, closed or not, and a journal that holds these
calls. -/
inductive Held (node : Node) (closed : Bool) (entries : List JournalEntry) :
    Sentinel (Journaled C) × Journal E → Prop
  /-- Its client is the sentinel's. -/
  | intro (client : C) (env : E) :
      Held node closed entries
        ({ client := { owner := some node, client }, node, closed }, ⟨env, entries⟩)

namespace Held

variable [Client C E] {node : Node} {closed : Bool} {entries : List JournalEntry}
  {s : Sentinel (Journaled C) × Journal E}

omit [Client C E] in
/-- What the journal holds. -/
theorem entries_eq (h : Held node closed entries s) : s.2.entries = entries := by
  obtain ⟨client, env⟩ := h
  rfl

/-- **An administrative call** is one command, if its arguments pass. -/
theorem run (h : Held node false entries s) (administration : Administration) :
    Held node false
      (entries ++ if administration.valid then [⟨some node, .execute administration.command⟩]
        else [])
      (Step.left administration.run s) := by
  obtain ⟨client, env⟩ := h
  rw [administration.left_run]
  cases administration.valid with
  | false =>
    simp only [Bool.false_and, Bool.false_eq_true, if_false, List.append_nil]
    exact .intro client env
  | true =>
    have hcall := Journal.left_noting (fun _ => .execute administration.command)
      (Client.execute administration.command : Step (C × E) _) (some node) client env entries
    change Step.left (Client.execute administration.command) _ = _ at hcall
    simp only [Bool.not_false, Bool.and_self, if_true, hcall]
    exact .intro _ _

/-- **Closing the connection** gives the client back. -/
theorem close (h : Held node false entries s) :
    Held node true (entries ++ [⟨some node, .quit⟩]) (Step.left Sentinel.close s) := by
  obtain ⟨client, env⟩ := h
  have hcall := Journal.left_noting (fun _ => .quit) (Client.quit : Step (C × E) Unit) (some node)
    client env entries
  change Step.left Client.quit _ = _ at hcall
  rw [left_close, hcall]
  exact .intro _ _

/-- A closed connection stays as it is. -/
theorem after_of_closed (h : Held node true entries s) (use : SentinelUse) : use.after s = s := by
  obtain ⟨client, env⟩ := h
  cases use with
  | administer administration => simp [SentinelUse.after, administration.left_run]
  | close => simp [SentinelUse.after, left_close]

/-- However it is used. -/
theorem foldl_after_of_closed (h : Held node true entries s) (uses : List SentinelUse) :
    uses.foldl SentinelUse.after s = s := by
  induction uses with
  | nil => rfl
  | cons use rest ih => rw [List.foldl_cons, h.after_of_closed use, ih]

/-- And letting go of it does nothing. -/
theorem release_of_closed (h : Held node true entries s) : Step.left release s = s := by
  obtain ⟨client, env⟩ := h
  rw [left_release, left_close, if_pos rfl]

/-- **A connection that is used and let go of** is closed, and the calls that are
made are its client's, as many as the uses ask for. -/
theorem release_foldl_after (h : Held node false entries s) (uses : List SentinelUse) :
    Held node true (entries ++ (SentinelUse.calls uses).map (⟨some node, ·⟩))
      (Step.left release (uses.foldl SentinelUse.after s)) := by
  induction uses generalizing entries s with
  | nil =>
    have hrelease := left_release s.1 s.2
    exact hrelease ▸ h.close
  | cons use rest ih =>
    rw [List.foldl_cons]
    cases use with
    | close =>
      have hclosed : Held node true _ (SentinelUse.close.after s) := h.close
      rw [hclosed.foldl_after_of_closed, hclosed.release_of_closed]
      exact hclosed
    | administer administration =>
      have hrest := ih (h.run administration)
      rw [List.append_assoc] at hrest
      rw [SentinelUse.calls]
      cases hvalid : administration.valid with
      | true | false =>
        rw [hvalid] at hrest
        exact hrest

/-- A connection that has been closed is closed. -/
theorem exists_of_close_mem (h : Held node false entries s) {uses : List SentinelUse}
    (hclose : .close ∈ uses) :
    ∃ after, Held node true after (uses.foldl SentinelUse.after s) := by
  induction uses generalizing entries s with
  | nil => exact absurd hclose List.not_mem_nil
  | cons use rest ih =>
    cases use with
    | close =>
      have hclosed : Held node true _ (SentinelUse.close.after s) := h.close
      rw [List.foldl_cons, hclosed.foldl_after_of_closed]
      exact ⟨_, hclosed⟩
    | administer administration =>
      exact ih (h.run administration) ((List.mem_cons.1 hclose).resolve_left (by simp))

end Held

/-- **A connection to a sentinel that gives its client back.** -/
structure GivesBack [Client C E] (s : Sentinel (Journaled C) × Journal E) : Prop where
  /-- However it is used and then let go of, these are the calls that are made. -/
  entries_eq : ∀ uses : List SentinelUse,
    (Step.left release (uses.foldl SentinelUse.after s)).2.entries =
      s.2.entries ++ (SentinelUse.calls uses).map (⟨some s.1.node, ·⟩)
  /-- Besides the question whether the sentinel answers, its client is asked to
  give its stream back once, and nothing after that. -/
  releasedOnce : ∀ uses, ReleasedOnce true (.execute .ping :: SentinelUse.calls uses)
  /-- The connection to the server has no part in any of it. -/
  own_eq : ∀ uses : List SentinelUse,
    (Step.left release (uses.foldl SentinelUse.after s)).2.own = s.2.own
  /-- Once it has been closed, calls with valid arguments are refused. -/
  refuses : ∀ (uses : List SentinelUse) (administration : Administration), .close ∈ uses →
    administration.valid = true →
      administration.run (uses.foldl SentinelUse.after s) =
        .error (.misuse (.sentinelClosed s.1.node)) (uses.foldl SentinelUse.after s)

/-- **Every connection to a sentinel does.** -/
theorem Held.givesBack [Client C E] {node : Node} {entries : List JournalEntry}
    {s : Sentinel (Journaled C) × Journal E} (h : Held node false entries s) : GivesBack s := by
  have hnode : s.1.node = node := by
    obtain ⟨client, env⟩ := h
    rfl
  have hentries : ∀ uses : List SentinelUse,
      (Step.left release (uses.foldl SentinelUse.after s)).2.entries =
        s.2.entries ++ (SentinelUse.calls uses).map (⟨some s.1.node, ·⟩) := by
    intro uses
    rw [(h.release_foldl_after uses).entries_eq, h.entries_eq, hnode]
  refine ⟨hentries, fun uses => ?_, fun uses => ?_, fun uses administration hclose hvalid => ?_⟩
  · obtain ⟨commands, hcalls⟩ := SentinelUse.calls_eq uses
    rw [hcalls, ← List.cons_append]
    exact .of_quit (by simp)
  · rw [Journal.own, hentries, List.filter_append, List.map_append, ← Journal.own]
    simp
  · obtain ⟨after, hclosed⟩ := h.exists_of_close_mem hclose
    rw [hnode]
    generalize uses.foldl SentinelUse.after s = t at hclosed ⊢
    obtain ⟨client, env⟩ := hclosed
    exact Administration.run_of_closed hvalid rfl _

end Sentinel

namespace Connection

variable [Client C E]

/-- **Selection and release.** An open connection looks for a sentinel in their
order. Those before the one that is found are missed, each leaving its calls, so
that a client whose sentinel did not answer has been given back; the one that is
found answers, none behind it is tried, and its client is given back once,
however the connection to it is used. If all are missed, that is the failure. The
connection itself stays as it is, and its client has only been asked to open
clients. -/
theorem openSentinel_selects_and_releases {c : Connection (Journaled C)} {group : SentinelGroup}
    (howner : c.client.owner = none) (hopen : c.isClosed = false)
    (hgroup : c.sentinel = some group) (journal : Journal E) :
    ∃ (misses : List (Node × Sentinel.Miss)) (env : E),
      Sentinel.AllMissed c.client.client journal.env misses env ∧
      ((∃ after : Journal E, group.nodes = misses.map Prod.fst ∧
          openSentinel (c, journal) =
            .error (.resourceUsage (.noneReachable group.master)) (c, after) ∧
          after.entries = journal.entries ++ Sentinel.missEntries misses ∧
          after.own = journal.own ++ (misses.map Prod.fst).map .openSentinel) ∨
        ∃ (node : Node) (untried : List Node) (client : C) (after : Journal E),
          group.nodes = misses.map Prod.fst ++ node :: untried ∧
          Sentinel.Answers c.client.client node env (client, after.env) ∧
          let sentinel : Sentinel (Journaled C) :=
            { client := { owner := some node, client }, node }
          openSentinel (c, journal) = .ok sentinel (c, after) ∧
          after.entries =
            journal.entries ++ Sentinel.missEntries misses ++ Sentinel.answerEntries node ∧
          after.own = journal.own ++ (misses.map Prod.fst ++ [node]).map .openSentinel ∧
          Sentinel.GivesBack (sentinel, after)) := by
  obtain ⟨env₀, entries⟩ := journal
  obtain ⟨misses, env, hmisses, hend⟩ :=
    Sentinel.firstReached?_missed_or_answers howner group.nodes env₀ entries
  refine ⟨misses, env, hmisses, ?_⟩
  have hown := Sentinel.own_missEntries env₀ entries misses
  rcases hend with ⟨hnodes, hfound⟩ | ⟨node, untried, client, env', hnodes, hanswers, hfound⟩
  · refine .inl ⟨⟨env, entries ++ Sentinel.missEntries misses⟩, hnodes, ?_, rfl, hown⟩
    rw [openSentinel_apply hopen hgroup, hfound]
  · refine .inr ⟨node, untried, client,
      ⟨env', entries ++ Sentinel.missEntries misses ++ Sentinel.answerEntries node⟩, hnodes,
      hanswers, ?_, rfl, ?_, (Sentinel.Held.intro client env').givesBack⟩
    · rw [openSentinel_apply hopen hgroup, hfound]
    · refine (Sentinel.own_answerEntries env₀ _ node).trans ?_
      rw [hown, List.map_append, List.append_assoc]
      rfl

/-- Of four sentinels the first is out of reach, the second does not answer and
the third does; the connection to it is closed twice, with calls before, between
and after. -/
theorem openSentinel_selects_and_releases_third :
    let gone : Error := .io ⟨.unexpectedEnd, none⟩
    let second : Node := ⟨"b", 2⟩
    let third : Node := ⟨"c", 3⟩
    let client : ScriptedClient :=
      { script := { sentinels :=
          [("a:1", .error gone), ("b:2", .ok { replies := [("PING", [.error gone])] })] } }
    let c : Connection (Journaled ScriptedClient) :=
      { client := { client }, sentinel := some ⟨"m", [⟨"a", 1⟩, second, third, ⟨"d", 4⟩]⟩ }
    let sentinel : Sentinel (Journaled ScriptedClient) :=
      { client := { owner := some third, client := {} }, node := third }
    let reached : Journal Unit :=
      ⟨(), [⟨none, .openSentinel ⟨"a", 1⟩⟩, ⟨none, .openSentinel second⟩,
        ⟨some second, .execute .ping⟩, ⟨some second, .quit⟩, ⟨none, .openSentinel third⟩,
        ⟨some third, .execute .ping⟩]⟩
    let uses : List SentinelUse :=
      [.administer (.failover "m"), .administer (.remove " "), .close, .administer .masters, .close]
    let closed := uses.foldl SentinelUse.after (sentinel, reached)
    openSentinel (c, ({ env := () } : Journal Unit)) = .ok sentinel (c, reached) ∧
      (Step.left Sentinel.release closed).2.entries = reached.entries ++
        [⟨some third, .execute (Sentinel.command ["FAILOVER", "m"])⟩, ⟨some third, .quit⟩] ∧
      (Administration.replicas "m").run closed =
        .error (.misuse (.sentinelClosed third)) closed := by
  intro gone second third client c sentinel reached uses closed
  have hopen : openSentinel (c, ({ env := () } : Journal Unit)) = .ok sentinel (c, reached) := by
    with_unfolding_all rfl
  obtain ⟨misses, env, -, ⟨after, -, hfailed, -⟩ |
      ⟨node, untried, found, after, -, -, hfound, -, -, hgives⟩⟩ :=
    openSentinel_selects_and_releases (c := c) rfl rfl rfl ({ env := () } : Journal Unit)
  · rw [hopen] at hfailed
    exact nomatch hfailed
  · rw [hopen] at hfound
    obtain ⟨hsentinel, hafter⟩ := EStateM.Result.ok.inj hfound
    rw [← hsentinel, ← (Prod.mk.inj hafter).2] at hgives
    exact ⟨hopen, hgives.entries_eq uses,
      hgives.refuses uses (.replicas "m") (by simp [uses]) (by decide +kernel)⟩

end Connection

end RedisClient
