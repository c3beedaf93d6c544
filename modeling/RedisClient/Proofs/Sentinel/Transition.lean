import RedisClient.Proofs.Step
import RedisClient.Sentinel

/-!
# What a connection to a sentinel does

The administrative calls are one family (`Administration`): each checks its
arguments, is refused on a closed connection, and otherwise runs one command
(`Administration.run_of_valid`). Closing the connection and letting go of it
give the client back once. Nothing else unfolds a step of a sentinel.
-/

namespace RedisClient

variable {C E α : Type}

/-- What a sentinel can be asked. -/
inductive Administration where
  /-- To make a replica of a master the new master. -/
  | failover (master : String)
  /-- For the masters that it watches. -/
  | masters
  /-- For the replicas of a master. -/
  | replicas (master : String)
  /-- To end watching a master. -/
  | remove (master : String)
  /-- To start watching a master. -/
  | monitor (server : Server)

namespace Sentinel

variable [Client C E] (sentinel : Sentinel C) (env : E)

/-- The command that the words of an administrative call make. -/
def command (words : List String) : Command := words.foldl Command.text (.named "SENTINEL")

/-- **An administrative command** is refused on a closed connection, and
otherwise it is one command of the client. -/
theorem administer_apply (words : List String) (read : Frame → Except Error α) :
    administer words read (sentinel, env) =
      if sentinel.closed then .error (.misuse (.sentinelClosed sentinel.node)) (sentinel, env)
      else
        match Client.execute (command words) (sentinel.client, env) with
        | .ok frame (client, env) =>
          match read frame with
          | .ok a => .ok a ({ sentinel with client }, env)
          | .error error => .error error ({ sentinel with client }, env)
        | .error error (client, env) => .error error ({ sentinel with client }, env) := by
  cases hclosed : sentinel.closed with
  | true => simp [administer, hclosed]
  | false =>
    simp only [administer, onClient, Client.ask, Step.bind_apply, Step.get_apply, hclosed,
      Bool.false_eq_true, if_false, Step.focus_apply, command]
    cases Client.execute (words.foldl Command.text (.named "SENTINEL")) (sentinel.client, env) with
    | error error s => rfl
    | ok frame s =>
      dsimp only
      cases read frame <;> rfl

/-- A command whose result is left aside is read for its errors alone. -/
theorem administer_bind (words : List String) (read : Frame → Except Error α) (s : Sentinel C × E) :
    (administer words read >>= fun _ => (pure () : Step (Sentinel C × E) Unit)) s =
      administer words (fun frame => (read frame).map fun _ => ()) s := by
  obtain ⟨sentinel, env⟩ := s
  simp only [Step.bind_apply, administer_apply]
  cases sentinel.closed with
  | true => rfl
  | false =>
    simp only [Bool.false_eq_true, if_false]
    cases Client.execute (command words) (sentinel.client, env) with
    | error error s => rfl
    | ok frame s =>
      dsimp only
      cases read frame <;> rfl

/-- **Closing the connection** gives the client back, unless it has been given
back. -/
theorem close_apply :
    (close : Step (Sentinel C × E) Unit) (sentinel, env) =
      if sentinel.closed then .ok () (sentinel, env)
      else
        match (Client.quit : Step (C × E) Unit) (sentinel.client, env) with
        | .ok _ (client, env) => .ok () ({ sentinel with client, closed := true }, env)
        | .error error (client, env) => .error error ({ sentinel with client, closed := true }, env)
    := by
  cases hclosed : sentinel.closed with
  | true => simp [close, hclosed]
  | false =>
    simp only [close, onClient, Step.bind_apply, Step.get_apply, hclosed, Bool.false_eq_true,
      if_false, Step.modify_apply, Step.focus_apply]
    cases (Client.quit : Step (C × E) Unit) (sentinel.client, env) <;> rfl

/-- What closing it leaves: a client that has given its stream back. -/
theorem left_close : Step.left close (sentinel, env) =
    if sentinel.closed then (sentinel, env)
    else
      let (client, env) := Step.left Client.quit (sentinel.client, env)
      ({ sentinel with client, closed := true }, env) := by
  simp only [Step.left, Step.outcome, close_apply]
  cases sentinel.closed with
  | true => rfl
  | false =>
    simp only [Bool.false_eq_true, if_false]
    cases (Client.quit : Step (C × E) Unit) (sentinel.client, env) <;> rfl

/-- **Letting go of it** leaves what closing it leaves. -/
theorem left_release : Step.left release (sentinel, env) = Step.left close (sentinel, env) := by
  simp only [Step.left, Step.outcome, release, Step.bind_apply, Step.attempt_apply]
  cases close (sentinel, env) <;> rfl

end Sentinel

namespace Administration

/-- Whether the arguments pass: names are not blank, and to watch a master takes
a quorum. -/
def valid : Administration → Bool
  | .masters => true
  | .failover master | .replicas master | .remove master => !Blank.isBlankText master
  | .monitor server =>
    !Blank.isBlankText server.name && !Blank.isBlankText server.node.host && server.quorum.isSome

/-- The words of the call. -/
def words : Administration → List String
  | .failover master => ["FAILOVER", master]
  | .masters => ["MASTERS"]
  | .replicas master => ["SLAVES", master]
  | .remove master => ["REMOVE", master]
  | .monitor server =>
    ["MONITOR", server.name, server.node.host, Decimal.natText server.node.port.toNat,
      Decimal.natText (server.quorum.getD 0).toNat]

/-- The command that it runs. -/
def command (administration : Administration) : Command := Sentinel.command administration.words

/-- What its reply has to be. -/
def read : Administration → Frame → Except Error Unit
  | .failover _ | .remove _ | .monitor _ => Frame.readStatus
  | .masters | .replicas _ => fun frame => (Server.listOfFrame frame).map fun _ => ()

variable [Client C E]

/-- Makes the call, and leaves what it gives aside. -/
def run : Administration → Step (Sentinel C × E) Unit
  | .failover master => Sentinel.failover master
  | .masters => do let _ ← Sentinel.masters
  | .replicas master => do let _ ← Sentinel.replicas master
  | .remove master => Sentinel.remove master
  | .monitor server => Sentinel.monitor server

omit [Client C E] in
/-- A check of a name either lets it through or refuses it. -/
theorem ofExcept_notBlank (name text : String) (s : Sentinel C × E) :
    (ofExcept (Validation.notBlank name text) : Step (Sentinel C × E) String) s =
      if Blank.isBlankText text then .error (.invalidArgument (.blank name)) s else .ok text s := by
  rw [Validation.notBlank]
  cases Blank.isBlankText text <;> rfl

/-- **A call with valid arguments** comes to its command. -/
theorem run_of_valid {administration : Administration} (h : administration.valid = true)
    (s : Sentinel C × E) :
    administration.run s = Sentinel.administer administration.words administration.read s := by
  cases administration with
  | masters => exact Sentinel.administer_bind _ _ s
  | failover master | remove master =>
    have hname : Blank.isBlankText master = false := by simpa [valid] using h
    simp [run, Sentinel.failover, Sentinel.remove, ofExcept_notBlank, hname, words, read]
  | replicas master =>
    have hname : Blank.isBlankText master = false := by simpa [valid] using h
    refine Eq.trans ?_ (Sentinel.administer_bind ["SLAVES", master] Server.listOfFrame s)
    simp [run, Sentinel.replicas, ofExcept_notBlank, hname]
  | monitor server =>
    simp only [valid, Bool.and_eq_true, Bool.not_eq_true'] at h
    obtain ⟨⟨hname, hhost⟩, hquorum⟩ := h
    obtain ⟨quorum, hquorum⟩ := Option.isSome_iff_exists.1 hquorum
    simp [run, Sentinel.monitor, ofExcept_notBlank, hname, hhost, hquorum, words, read]

/-- **Arguments that do not pass** leave everything as it is. -/
theorem run_of_not_valid {administration : Administration} (h : administration.valid = false)
    (s : Sentinel C × E) : ∃ fault, administration.run s = .error (.invalidArgument fault) s := by
  cases administration with
  | masters => exact absurd h (by decide)
  | failover master | replicas master | remove master =>
    have hname : Blank.isBlankText master = true := by simpa [valid] using h
    exact ⟨.blank "master name", by
      simp [run, Sentinel.failover, Sentinel.replicas, Sentinel.remove, ofExcept_notBlank, hname]⟩
  | monitor server =>
    cases hname : Blank.isBlankText server.name with
    | true =>
      exact ⟨.blank "master name", by simp [run, Sentinel.monitor, ofExcept_notBlank, hname]⟩
    | false =>
      cases hhost : Blank.isBlankText server.node.host with
      | true =>
        exact ⟨.blank "host", by simp [run, Sentinel.monitor, ofExcept_notBlank, hname, hhost]⟩
      | false =>
        have hquorum : server.quorum = none := by simpa [valid, hname, hhost] using h
        exact ⟨.quorumMissing, by
          simp [run, Sentinel.monitor, ofExcept_notBlank, hname, hhost, hquorum]⟩

/-- **A closed connection** refuses a call with valid arguments. -/
theorem run_of_closed {administration : Administration} (h : administration.valid = true)
    {sentinel : Sentinel C} (hclosed : sentinel.closed = true) (env : E) :
    administration.run (sentinel, env) =
      .error (.misuse (.sentinelClosed sentinel.node)) (sentinel, env) := by
  rw [run_of_valid h, Sentinel.administer_apply, if_pos hclosed]

/-- **What a call leaves**: its client has run its command, if its arguments pass
and the connection is open. -/
theorem left_run (administration : Administration) (sentinel : Sentinel C) (env : E) :
    Step.left administration.run (sentinel, env) =
      if administration.valid && !sentinel.closed then
        let (client, env) :=
          Step.left (Client.execute administration.command) (sentinel.client, env)
        ({ sentinel with client }, env)
      else (sentinel, env) := by
  cases hvalid : administration.valid with
  | false =>
    obtain ⟨fault, hrun⟩ := run_of_not_valid hvalid (sentinel, env)
    exact Step.left_of_error hrun
  | true =>
    simp only [Step.left, Step.outcome, run_of_valid hvalid, Sentinel.administer_apply]
    cases sentinel.closed with
    | true => rfl
    | false =>
      simp only [Bool.false_eq_true, if_false, Bool.not_false, Bool.and_self, if_true, command]
      cases Client.execute (Sentinel.command administration.words) (sentinel.client, env) with
      | error error s => rfl
      | ok frame s =>
        dsimp only
        cases administration.read frame <;> rfl

end Administration

end RedisClient
