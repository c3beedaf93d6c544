import RedisClient.Proofs.Wire.Transcript

/-!
# Handshakes and their transcripts

A handshake exchanges its greetings one after the other, each for its reply, and
goes on as long as these are no errors (`Greets`). So it has succeeded exactly if
all greetings have such a reply, and what has been written ends with the greeting
that the first error answers (`Greets.ok_iff`, `Greets.of_error_mem`).
-/

namespace RedisClient

open StreamEvent

namespace Greeting

/-- The error of a greeting that is refused. Why credentials are refused is not
told. -/
def refusal : Greeting → Bytes → Error
  | login _ _, _ => .auth
  | select _, text | register _, text => .server (Utf8.decodeLossy text)

/-- **A greeting is accepted** by every reply but an error line. -/
theorem accept_cases (greeting : Greeting) (reply : Frame) :
    (reply.isError = false ∧ greeting.accept reply = .ok ()) ∨
      ∃ text, reply = .error text ∧ greeting.accept reply = .error (greeting.refusal text) := by
  cases reply with
  | error text => exact .inr ⟨text, rfl, by cases greeting <;> rfl⟩
  | simple _ | integer _ | bulk _ | nullBulk | nullArray | array _ =>
    exact .inl ⟨rfl, by cases greeting <;> rfl⟩

end Greeting

/-- **What a configuration has the server sent**: a login if there is a password,
behind the user if there is one, then the database if there is one, and then the
name if there is one. -/
theorem Config.words_greetings (config : Config) :
    config.greetings.map (·.command.words) =
      (config.password.map fun password =>
        Utf8.encode "AUTH" ::
          ((config.username.map Utf8.encode).toList ++ [Utf8.encode password])).toList ++
      (config.database.map fun database =>
        [Utf8.encode "SELECT", Utf8.encode (Decimal.natText database.toNat)]).toList ++
      (config.clientName.map fun name =>
        [Utf8.encode "CLIENT", Utf8.encode "SETNAME", Utf8.encode name]).toList := by
  rw [Config.greetings, List.map_append, List.map_append]
  congr 1
  · congr 1
    · cases config.password with
      | none => rfl
      | some password => cases config.username <;> rfl
    · cases config.database <;> rfl
  · cases config.clientName <;> rfl

/-- The bytes of greetings, one after the other. -/
def greetingBytes (greetings : List Greeting) : Bytes :=
  greetings.flatMap fun greeting => Frame.encodeWords greeting.command.words

/-- **A handshake** under time limits for reading and for writing: what happens on
the stream, which replies are read, and what it comes to. Some bytes may have been
read already. -/
inductive Greets (readLimit writeLimit : Option Nat) :
    Bytes → List Greeting → List StreamEvent → List Frame → Except Error Unit → Prop
  /-- Without greetings nothing happens. -/
  | done {unread : Bytes} : Greets readLimit writeLimit unread [] [] [] (.ok ())
  /-- A greeting is accepted, and the next ones follow. -/
  | accepted {unread left : Bytes} {greeting : Greeting} {rest : List Greeting}
      {log more : List StreamEvent} {reply : Frame} {replies : List Frame}
      {outcome : Except Error Unit} :
      Exchanges readLimit writeLimit unread greeting.command.words log (.ok (reply, left)) →
        reply.isError = false → Greets readLimit writeLimit left rest more replies outcome →
          Greets readLimit writeLimit unread (greeting :: rest) (log ++ more) (reply :: replies)
            outcome
  /-- A greeting is refused, and nothing more happens. -/
  | refused {unread left : Bytes} {greeting : Greeting} {rest : List Greeting}
      {log : List StreamEvent} {text : Bytes} :
      Exchanges readLimit writeLimit unread greeting.command.words log (.ok (.error text, left)) →
        Greets readLimit writeLimit unread (greeting :: rest) log [.error text]
          (.error (greeting.refusal text))
  /-- A greeting is not exchanged for a reply, and nothing more happens. -/
  | failed {unread : Bytes} {greeting : Greeting} {rest : List Greeting}
      {log : List StreamEvent} {e : Error} :
      Exchanges readLimit writeLimit unread greeting.command.words log (.error e) →
        Greets readLimit writeLimit unread (greeting :: rest) log [] (.error e)

namespace Greets

variable {readLimit writeLimit : Option Nat} {unread : Bytes} {greetings : List Greeting}
  {log : List StreamEvent} {replies : List Frame} {outcome : Except Error Unit}

/-- **It succeeds** exactly if every greeting has a reply that is no error. -/
theorem ok_iff (h : Greets readLimit writeLimit unread greetings log replies outcome) :
    outcome = .ok () ↔
      replies.length = greetings.length ∧ ∀ reply ∈ replies, reply.isError = false := by
  induction h with
  | done => simp
  | accepted _ hreply _ ih => simp [ih, hreply]
  | refused _ => simp [Frame.isError]
  | failed _ => simp

/-- **What is written**: all of the greetings that have a reply, and of the next one
its first bytes, unless the last reply is an error. -/
theorem written_eq (h : Greets readLimit writeLimit unread greetings log replies outcome) :
    ∃ begun, written log = greetingBytes (greetings.take replies.length) ++ begun ∧
      begun <+: greetingBytes (greetings[replies.length]?.toList) ∧
      ((∃ reply ∈ replies, reply.isError = true) → begun = []) := by
  induction h with
  | done => exact ⟨[], rfl, List.nil_prefix, fun _ => rfl⟩
  | @accepted unread left greeting rest log more reply replies outcome hexchange hreply hrest ih =>
    obtain ⟨begun, hwritten, hbegins, hnone⟩ := ih
    have hfirst := hexchange.written_prefix.2 _ rfl
    refine ⟨begun, ?_, by simpa using hbegins, fun ⟨other, hmem, herror⟩ => hnone ?_⟩
    · rw [written_append, hfirst, hwritten, ← List.append_assoc]
      rfl
    · rcases List.mem_cons.1 hmem with rfl | hmem
      · exact absurd (hreply.symm.trans herror) Bool.noConfusion
      · exact ⟨other, hmem, herror⟩
  | @refused unread left greeting rest log text hexchange =>
    have hfirst := hexchange.written_prefix.2 _ rfl
    refine ⟨[], ?_, List.nil_prefix, fun _ => rfl⟩
    rw [hfirst]
    simp [greetingBytes]
  | @failed unread greeting rest log e hexchange =>
    refine ⟨written log, rfl, ?_, by simp⟩
    simpa [greetingBytes] using hexchange.written_prefix.1

/-- **The first error is the last reply**, and what it comes to is that the greeting
in its place has been refused. -/
theorem of_error_mem (h : Greets readLimit writeLimit unread greetings log replies outcome)
    {text : Bytes} (hmem : Frame.error text ∈ replies) :
    ∃ front greeting, replies = front ++ [.error text] ∧
      (∀ reply ∈ front, reply.isError = false) ∧ greetings[front.length]? = some greeting ∧
      outcome = .error (greeting.refusal text) := by
  induction h with
  | done => nomatch hmem
  | @accepted unread left greeting rest log more reply replies outcome hexchange hreply hrest ih =>
    rcases List.mem_cons.1 hmem with rfl | hmem
    · nomatch hreply
    · obtain ⟨front, refused, rfl, hfront, hgreeting, houtcome⟩ := ih hmem
      exact ⟨reply :: front, refused, rfl, List.forall_mem_cons.2 ⟨hreply, hfront⟩,
        by simpa using hgreeting, houtcome⟩
  | @refused unread left greeting rest log other hexchange =>
    obtain rfl : text = other := by simpa using hmem
    exact ⟨[], greeting, rfl, by simp, rfl, rfl⟩
  | failed _ => nomatch hmem

end Greets

namespace Channel

variable {S : Type} [ByteStream S] {readLimit writeLimit : Option Nat}

/-- **Greeting over a channel** that is ready leaves the transcript of a
handshake. -/
theorem Ready.greet (greetings : List Greeting) {c : Channel (Transcribed S)}
    (h : Ready readLimit writeLimit c) :
    Adds (·.stream.log) c.stream.log
      (fun more _ _ => ∃ replies,
        Greets readLimit writeLimit c.decoder.buffer greetings more replies (.ok ()))
      (fun more e => ∃ replies,
        Greets readLimit writeLimit c.decoder.buffer greetings more replies (.error e))
      (Channel.greet greetings c) := by
  induction greetings generalizing c with
  | nil => exact ⟨[], (List.append_nil _).symm, [], .done⟩
  | cons greeting rest ih =>
    refine (h.exchange greeting.command.words).bind ?_ fun _ _ hexchanges =>
      ⟨[], .failed hexchanges⟩
    rintro first reply after ⟨hexchanges, hready⟩
    rcases greeting.accept_cases reply with ⟨hnone, haccept⟩ | ⟨text, rfl, haccept⟩
    · simp only [haccept, Step.bind_apply, Step.ofExcept_ok_apply]
      refine (ih hready).mono ?_ ?_
      · rintro _ _ _ ⟨replies, hgreets⟩
        exact ⟨reply :: replies, .accepted hexchanges hnone hgreets⟩
      · rintro _ _ ⟨replies, hgreets⟩
        exact ⟨reply :: replies, .accepted hexchanges hnone hgreets⟩
    · simp only [haccept, Step.bind_apply, Step.ofExcept_error_apply]
      refine ⟨[], (List.append_nil _).symm, [.error text], ?_⟩
      rw [List.append_nil]
      exact .refused hexchanges

/-- **The handshake.** A new channel over any stream is greeted for any
configuration. The greetings are a login exactly if a password is set, with the
user before it if one is set, then the selection of the database if one is set,
and then the registration of the name if one is set. What happens on the stream is
the transcript of a handshake with them: each is written when the one before has a
reply that is no error, and nothing happens behind the first error reply or the
first failure, which is the outcome. So it succeeds exactly if all of the greetings
have a reply that is no error. An error reply is the last one, and the outcome says
that credentials were refused if it answers the login, and gives its text
otherwise. What has been written are the greetings that have a reply, and the
first bytes of the next one if there is no error among these. -/
theorem handshake_transcript (config : Config) (stream : S) :
    let new : Channel (Transcribed S) :=
      { stream := { stream }
        readTimeout := config.readTimeout
        writeTimeout := config.writeTimeout }
    let outcome := (Step.outcome (greet config.greetings) new).1
    let log := (Step.left (greet config.greetings) new).stream.log
    config.greetings.map (·.command.words) =
      (config.password.map fun password =>
        Utf8.encode "AUTH" ::
          ((config.username.map Utf8.encode).toList ++ [Utf8.encode password])).toList ++
      (config.database.map fun database =>
        [Utf8.encode "SELECT", Utf8.encode (Decimal.natText database.toNat)]).toList ++
      (config.clientName.map fun name =>
        [Utf8.encode "CLIENT", Utf8.encode "SETNAME", Utf8.encode name]).toList ∧
    ∃ replies,
      Greets config.readTimeout config.writeTimeout [] config.greetings log replies outcome ∧
      (outcome = .ok () ↔ replies.length = config.greetings.length ∧
        ∀ reply ∈ replies, reply.isError = false) ∧
      (∀ text, Frame.error text ∈ replies → ∃ front greeting,
        replies = front ++ [.error text] ∧ (∀ reply ∈ front, reply.isError = false) ∧
        config.greetings[front.length]? = some greeting ∧
        outcome = .error (greeting.refusal text)) ∧
      ∃ begun, written log =
          greetingBytes (config.greetings.take replies.length) ++ begun ∧
        begun <+: greetingBytes (config.greetings[replies.length]?.toList) ∧
        ((∃ reply ∈ replies, reply.isError = true) → begun = []) := by
  intro new outcome log
  have hready : Ready config.readTimeout config.writeTimeout new :=
    ⟨rfl, .fresh defaultLimit, rfl, rfl, rfl⟩
  have hgreet : ∃ replies,
      Greets config.readTimeout config.writeTimeout [] config.greetings log replies outcome := by
    have hadds := hready.greet config.greetings
    cases hresult : greet config.greetings new with
    | ok _ after =>
      rw [hresult] at hadds
      obtain ⟨more, hlog, replies, hgreets⟩ := hadds
      obtain rfl : log = more := (congrArg (·.stream.log) (Step.left_of_ok hresult)).trans hlog
      have houtcome : outcome = .ok () := congrArg Prod.fst (Step.outcome_of_ok hresult)
      exact ⟨replies, houtcome ▸ hgreets⟩
    | error e after =>
      rw [hresult] at hadds
      obtain ⟨more, hlog, replies, hgreets⟩ := hadds
      obtain rfl : log = more := (congrArg (·.stream.log) (Step.left_of_error hresult)).trans hlog
      have houtcome : outcome = .error e := congrArg Prod.fst (Step.outcome_of_error hresult)
      exact ⟨replies, houtcome ▸ hgreets⟩
  obtain ⟨replies, hgreets⟩ := hgreet
  exact ⟨config.words_greetings, replies, hgreets, hgreets.ok_iff, fun text => hgreets.of_error_mem,
    hgreets.written_eq⟩

/-- Behind a login that is refused the database is not selected. -/
example :
    let config : Config := { password := some "p", database := some 1 }
    let stream : ScriptedStream := { reads := [.ok [45, 78], .ok [79, 13, 10]] }
    let new : Channel (Transcribed ScriptedStream) := { stream := { stream } }
    written (Step.left (greet config.greetings) new).stream.log =
      greetingBytes [.login none "p"] := by
  decide +kernel

end Channel

end RedisClient
