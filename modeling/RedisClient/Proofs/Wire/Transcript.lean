import RedisClient.Proofs.Wire.Delivery

/-!
# Transcripts of a stream

A stream with a transcript (`Transcribed`) keeps all that happens on it, in order.
Which transcripts there are is a grammar: sending some bytes (`Sends`), receiving
a frame behind bytes that are there already (`Receives`), and exchanging a command
for a frame (`Exchanges`), each with what it comes to. A channel that is ready, so
that nothing waits in it, writes no other transcripts
(`Channel.Ready.exchange`).
-/

namespace RedisClient

variable {S : Type}

/-! ## Streams with a transcript -/

/-- What happens on a stream. -/
inductive StreamEvent where
  /-- Bytes are to be written; so many of them are, or the stream fails. -/
  | write (data : Bytes) (outcome : Except StreamFault Nat)
  /-- What has been written is to be sent on. -/
  | flush (outcome : Except StreamFault Unit)
  /-- The stream is read, which brings some bytes, the end, or a fault. -/
  | read (outcome : Except StreamFault Bytes)
  /-- Writing is to end. -/
  | shutdown (outcome : Except IoFailure Unit)

namespace StreamEvent

/-- The bytes that the stream has taken. -/
def written (log : List StreamEvent) : Bytes :=
  log.flatMap fun
    | .write data (.ok count) => data.take count
    | .write _ (.error _) | .flush _ | .read _ | .shutdown _ => []

/-- They are taken in order. -/
@[simp] theorem written_append (log more : List StreamEvent) :
    written (log ++ more) = written log ++ written more := List.flatMap_append

end StreamEvent

/-- A stream with a transcript. -/
structure Transcribed (S : Type) where
  /-- The stream. -/
  stream : S
  /-- What has happened, the earliest first. -/
  log : List StreamEvent := []

namespace Transcribed

variable {α F : Type}

/-- Runs a step of the stream and writes down what it comes to. -/
def note (event : Except F α → StreamEvent) (step : EStateM F S α) :
    EStateM F (Transcribed S) α := fun t =>
  match step t.stream with
  | .ok a stream => .ok a { stream, log := t.log ++ [event (.ok a)] }
  | .error fault stream => .error fault { stream, log := t.log ++ [event (.error fault)] }

instance [ByteStream S] : ByteStream (Transcribed S) where
  read limit size := note .read (ByteStream.read limit size)
  write limit data := note (.write data) (ByteStream.write limit data)
  flush limit := note .flush (ByteStream.flush limit)
  shutdown := note .shutdown ByteStream.shutdown

end Transcribed

/-! ## Steps that add to a transcript -/

section

variable {σ α β F : Type} {logOf : σ → List StreamEvent} {log first : List StreamEvent}

/-- **What a step adds to a transcript.** `Given` says what it adds if it gives a
result, along with the result and the state it leaves, and `Failed` what it adds
if it fails. -/
def Adds (logOf : σ → List StreamEvent) (log : List StreamEvent)
    (Given : List StreamEvent → α → σ → Prop) (Failed : List StreamEvent → F → Prop) :
    EStateM.Result F σ α → Prop
  | .ok a s => ∃ more, logOf s = log ++ more ∧ Given more a s
  | .error fault s => ∃ more, logOf s = log ++ more ∧ Failed more fault

variable {Given Given' : List StreamEvent → α → σ → Prop}
  {Failed Failed' : List StreamEvent → F → Prop} {Next : List StreamEvent → β → σ → Prop}
  {result : EStateM.Result F σ α}

/-- Less may be said of what is added. -/
theorem Adds.mono (h : Adds logOf log Given Failed result)
    (hgiven : ∀ more a s, Given more a s → Given' more a s)
    (hfailed : ∀ more fault, Failed more fault → Failed' more fault) :
    Adds logOf log Given' Failed' result := by
  cases result with
  | ok a s =>
    obtain ⟨more, hlog, hmore⟩ := h
    exact ⟨more, hlog, hgiven more a s hmore⟩
  | error fault s =>
    obtain ⟨more, hlog, hmore⟩ := h
    exact ⟨more, hlog, hfailed more fault hmore⟩

/-- What is added behind something is added with it. -/
theorem Adds.behind (h : Adds logOf (log ++ first) Given Failed result)
    (hgiven : ∀ more a s, Given more a s → Given' (first ++ more) a s)
    (hfailed : ∀ more fault, Failed more fault → Failed' (first ++ more) fault) :
    Adds logOf log Given' Failed' result := by
  cases result with
  | ok a s =>
    obtain ⟨more, hlog, hmore⟩ := h
    exact ⟨first ++ more, by rw [hlog, List.append_assoc], hgiven more a s hmore⟩
  | error fault s =>
    obtain ⟨more, hlog, hmore⟩ := h
    exact ⟨first ++ more, by rw [hlog, List.append_assoc], hfailed more fault hmore⟩

/-- **One step and the next** add what both do. -/
theorem Adds.bind {step : EStateM F σ α} {next : α → EStateM F σ β} {s : σ}
    (h : Adds logOf log Given Failed (step s))
    (hnext : ∀ first a s', Given first a s' →
      Adds logOf (logOf s') (fun more => Next (first ++ more)) (fun more => Failed' (first ++ more))
        (next a s'))
    (hfailed : ∀ more fault, Failed more fault → Failed' more fault) :
    Adds logOf log Next Failed' ((step >>= next) s) := by
  change Adds logOf log Next Failed' (EStateM.bind step next s)
  rw [EStateM.bind]
  cases hstep : step s with
  | ok a s' =>
    rw [hstep] at h
    obtain ⟨first, hlog, hgiven⟩ := h
    have hrest := hnext first a s' hgiven
    rw [hlog] at hrest
    exact hrest.behind (fun _ _ _ h => h) fun _ _ h => h
  | error fault s' =>
    rw [hstep] at h
    obtain ⟨more, hlog, hmore⟩ := h
    exact ⟨more, hlog, hfailed more fault hmore⟩

/-- A step that is written down adds one event. -/
theorem Transcribed.note_adds (event : Except F α → StreamEvent) (step : EStateM F S α)
    (t : Transcribed S) :
    Adds Transcribed.log t.log (fun more a _ => more = [event (.ok a)])
      (fun more fault => more = [event (.error fault)]) (Transcribed.note event step t) := by
  rw [Transcribed.note]
  cases step t.stream with
  | ok a stream => exact ⟨_, rfl, rfl⟩
  | error fault stream => exact ⟨_, rfl, rfl⟩

end

/-! ## Transcripts -/

/-- **Writing some bytes**, piece by piece, and what it comes to. -/
inductive Writes : Bytes → List StreamEvent → Except StreamFault Unit → Prop
  /-- Nothing is left to be written. -/
  | nothing : Writes [] [] (.ok ())
  /-- The stream takes a piece. -/
  | piece {data : Bytes} {count : Nat} {log : List StreamEvent}
      {outcome : Except StreamFault Unit} :
      data ≠ [] → 0 < count → Writes (data.drop count) log outcome →
        Writes data (.write data (.ok count) :: log) outcome
  /-- It takes nothing, which is a failure. -/
  | refused {data : Bytes} : data ≠ [] →
      Writes data [.write data (.ok 0)]
        (.error (.failed ⟨.writeZero, some IoKind.writeZero.description⟩))
  /-- It fails. -/
  | failed {data : Bytes} {fault : StreamFault} : data ≠ [] →
      Writes data [.write data (.error fault)] (.error fault)

/-- **Sending some bytes** under a time limit. -/
inductive Sends (limit : Option Nat) (data : Bytes) : List StreamEvent → Except Error Unit → Prop
  /-- They are written and sent on. -/
  | sent {log : List StreamEvent} : Writes data log (.ok ()) →
      Sends limit data (log ++ [.flush (.ok ())]) (.ok ())
  /-- They are written and not sent on. -/
  | unflushed {log : List StreamEvent} {fault : StreamFault} : Writes data log (.ok ()) →
      Sends limit data (log ++ [.flush (.error fault)]) (.error (fault.toError limit))
  /-- They are not written. -/
  | unwritten {log : List StreamEvent} {fault : StreamFault} : Writes data log (.error fault) →
      Sends limit data log (.error (fault.toError limit))

/-- **Receiving a frame** under a time limit, where some bytes have been read
already. With the frame go the bytes behind it. -/
inductive Receives (limit : Option Nat) :
    Bytes → List StreamEvent → Except Error (Frame × Bytes) → Prop
  /-- A frame is there. -/
  | frame {unread left : Bytes} {frame : Frame} :
      Decoder.readFront defaultLimit unread = .ok (some (frame, left)) →
        Receives limit unread [] (.ok (frame, left))
  /-- What is there is no frame, and will be none. -/
  | malformed {unread : Bytes} {fault : DecodeFault} :
      Decoder.readFront defaultLimit unread = .error fault →
        Receives limit unread [] (.error (.protocol (.malformed fault)))
  /-- More bytes are needed and come. -/
  | more {unread data : Bytes} {log : List StreamEvent} {outcome : Except Error (Frame × Bytes)} :
      Decoder.readFront defaultLimit unread = .ok none → data ≠ [] →
        Receives limit (unread ++ data) log outcome →
          Receives limit unread (.read (.ok data) :: log) outcome
  /-- More are needed and the stream ends. -/
  | ended {unread : Bytes} : Decoder.readFront defaultLimit unread = .ok none →
      Receives limit unread [.read (.ok [])]
        (.error (.io ⟨.unexpectedEnd, some "connection closed by server"⟩))
  /-- More are needed and the stream fails. -/
  | failed {unread : Bytes} {fault : StreamFault} :
      Decoder.readFront defaultLimit unread = .ok none →
        Receives limit unread [.read (.error fault)] (.error (fault.toError limit))

/-- **Exchanging a command for a frame**, under time limits for reading and for
writing. Reading begins when all of the command has been sent. -/
inductive Exchanges (readLimit writeLimit : Option Nat) (unread : Bytes) (words : List Bytes) :
    List StreamEvent → Except Error (Frame × Bytes) → Prop
  /-- The command is sent, and a frame is received or not. -/
  | sent {sent received : List StreamEvent} {outcome : Except Error (Frame × Bytes)} :
      Sends writeLimit (Frame.encodeWords words) sent (.ok ()) →
        Receives readLimit unread received outcome →
          Exchanges readLimit writeLimit unread words (sent ++ received) outcome
  /-- The command is not sent, and nothing is read. -/
  | unsent {sent : List StreamEvent} {e : Error} :
      Sends writeLimit (Frame.encodeWords words) sent (.error e) →
        Exchanges readLimit writeLimit unread words sent (.error e)

/-! ## What they write -/

section

variable {readLimit writeLimit limit : Option Nat} {data unread : Bytes} {words : List Bytes}
  {log : List StreamEvent}

open StreamEvent

/-- **What has been written** are the first of the bytes, and all of them if it
succeeded. -/
theorem Writes.written_prefix {outcome : Except StreamFault Unit} (h : Writes data log outcome) :
    written log <+: data ∧ (outcome = .ok () → written log = data) := by
  induction h with
  | nothing => exact ⟨List.prefix_refl _, fun _ => rfl⟩
  | @piece data count log outcome hne hpos hrest ih =>
    obtain ⟨hbegins, hall⟩ := ih
    have hwritten : written (.write data (.ok count) :: log) = data.take count ++ written log := rfl
    have hdata : data.take count ++ data.drop count = data := List.take_append_drop count data
    refine ⟨?_, fun hok => ?_⟩
    · obtain ⟨unwritten, hunwritten⟩ := hbegins
      exact ⟨unwritten, by rw [hwritten, List.append_assoc, hunwritten, hdata]⟩
    · rw [hwritten, hall hok, hdata]
  | refused hne => exact ⟨List.nil_prefix, fun h => (nomatch h)⟩
  | failed hne => exact ⟨List.nil_prefix, fun h => (nomatch h)⟩

/-- So it is where they are sent. -/
theorem Sends.written_prefix {outcome : Except Error Unit} (h : Sends limit data log outcome) :
    written log <+: data ∧ (outcome = .ok () → written log = data) := by
  cases h with
  | @sent log hwrites =>
    have hall := hwrites.written_prefix.2 rfl
    have hwritten : written (log ++ [.flush (.ok ())]) = data := by
      rw [written_append, hall]
      exact List.append_nil data
    exact ⟨hwritten ▸ List.prefix_refl _, fun _ => hwritten⟩
  | @unflushed log fault hwrites =>
    have hall := hwrites.written_prefix.2 rfl
    have hwritten : written (log ++ [.flush (.error fault)]) = data := by
      rw [written_append, hall]
      exact List.append_nil data
    exact ⟨hwritten ▸ List.prefix_refl _, fun h => (nomatch h)⟩
  | unwritten hwrites => exact ⟨hwrites.written_prefix.1, fun h => (nomatch h)⟩

/-- Receiving writes nothing. -/
theorem Receives.written_eq {outcome : Except Error (Frame × Bytes)}
    (h : Receives limit unread log outcome) : written log = [] := by
  induction h with
  | frame _ | malformed _ | ended _ | failed _ => rfl
  | more _ _ _ ih => exact ih

/-- **An exchange** writes the first bytes of the command, and all of them if it
brings a frame. -/
theorem Exchanges.written_prefix {outcome : Except Error (Frame × Bytes)}
    (h : Exchanges readLimit writeLimit unread words log outcome) :
    written log <+: Frame.encodeWords words ∧
      ∀ reply, outcome = .ok reply → written log = Frame.encodeWords words := by
  cases h with
  | @sent sent received outcome hsends hreceives =>
    have hwritten : written (sent ++ received) = Frame.encodeWords words := by
      rw [written_append, hreceives.written_eq, List.append_nil]
      exact hsends.written_prefix.2 rfl
    exact ⟨hwritten ▸ List.prefix_refl _, fun _ _ => hwritten⟩
  | unsent hsends => exact ⟨hsends.written_prefix.1, fun _ h => (nomatch h)⟩

end

/-! ## Channels -/

variable [ByteStream S]

/-- **All that writing does is in the transcript.** -/
theorem Transcribed.writeAll_adds (limit : Option Nat) (data : Bytes) (t : Transcribed S) :
    Adds Transcribed.log t.log (fun more _ _ => Writes data more (.ok ()))
      (fun more fault => Writes data more (.error fault)) (ByteStream.writeAll limit data t) := by
  -- a piece that is taken is not empty, so fewer bytes are left
  induction hlength : data.length using Nat.strongRecOn generalizing data t with
  | ind length ih =>
    cases data with
    | nil =>
      rw [ByteStream.writeAll]
      exact ⟨[], (List.append_nil _).symm, .nothing⟩
    | cons first rest =>
      have hne : first :: rest ≠ [] := List.cons_ne_nil first rest
      rw [ByteStream.writeAll]
      have hwrite := note_adds (.write (first :: rest)) (ByteStream.write limit (first :: rest)) t
      refine hwrite.bind ?_ ?_
      · rintro _ count after rfl
        by_cases hzero : count = 0
        · rw [dif_pos hzero, hzero]
          exact ⟨[], (List.append_nil _).symm, .refused hne⟩
        · rw [dif_neg hzero]
          have hrest := ih ((first :: rest).drop count).length (by
            rw [← hlength, List.length_drop, List.length_cons]
            omega) ((first :: rest).drop count) after rfl
          have hpos : 0 < count := Nat.pos_of_ne_zero hzero
          exact hrest.mono (fun _ _ _ h => .piece hne hpos h) fun _ _ h => .piece hne hpos h
      · rintro _ fault rfl
        exact .failed hne

namespace Channel

/-- **A channel that is ready**: nothing waits to be written, and the decoder
answers with the front of its buffer. -/
structure Ready (readLimit writeLimit : Option Nat) (c : Channel (Transcribed S)) : Prop where
  /-- Nothing waits. -/
  waiting : c.encoder.waiting = []
  /-- The decoder answers with the front of its buffer. -/
  faithful : c.decoder.Faithful
  /-- It holds as much as it may unless told otherwise. -/
  limit_eq : c.decoder.limit = defaultLimit
  /-- How long a frame may take. -/
  read_eq : c.readTimeout = readLimit
  /-- How long a flush may take. -/
  write_eq : c.writeTimeout = writeLimit

variable {readLimit writeLimit : Option Nat} {c : Channel (Transcribed S)}

/-- **Sending a command** writes it, and leaves the channel ready and the decoder
as it is. -/
theorem Ready.send (h : Ready readLimit writeLimit c) (words : List Bytes) :
    Adds (·.stream.log) c.stream.log
      (fun more _ after => Sends writeLimit (Frame.encodeWords words) more (.ok ()) ∧
        Ready readLimit writeLimit after ∧ after.decoder.buffer = c.decoder.buffer)
      (fun more e => Sends writeLimit (Frame.encodeWords words) more (.error e))
      (Channel.send words c) := by
  have hsend : Channel.send words c =
      flush { c with encoder := ⟨Frame.encodeWords words⟩ } := by
    simp only [Channel.send, Step.bind_apply, buffer, Step.modify_apply, Encoder.addWords,
      h.waiting, List.nil_append]
  have hne : (Frame.encodeWords words).isEmpty = false := by
    simpa using Frame.encodeWords_ne_nil words
  rw [hsend, flush_apply]
  simp only [hne, Bool.false_eq_true, if_false, h.write_eq]
  have hwrites := Transcribed.writeAll_adds writeLimit (Frame.encodeWords words) c.stream
  cases hall : ByteStream.writeAll writeLimit (Frame.encodeWords words) c.stream with
  | error fault after =>
    rw [hall] at hwrites
    obtain ⟨log, hlog, hwrites⟩ := hwrites
    exact ⟨log, hlog, .unwritten hwrites⟩
  | ok _ after =>
    rw [hall] at hwrites
    obtain ⟨log, hlog, hwrites⟩ := hwrites
    have hsent := Transcribed.note_adds .flush (ByteStream.flush writeLimit) after
    have hflush : (ByteStream.flush writeLimit : EStateM StreamFault (Transcribed S) Unit) after =
        Transcribed.note .flush (ByteStream.flush writeLimit) after := rfl
    dsimp only
    rw [hflush]
    cases hlast : Transcribed.note .flush (ByteStream.flush writeLimit) after with
    | error fault last =>
      rw [hlast] at hsent
      obtain ⟨_, hmore, rfl⟩ := hsent
      rw [hlog, List.append_assoc] at hmore
      exact ⟨log ++ [.flush (.error fault)], hmore, .unflushed hwrites⟩
    | ok _ last =>
      rw [hlast] at hsent
      obtain ⟨_, hmore, rfl⟩ := hsent
      rw [hlog, List.append_assoc] at hmore
      exact ⟨log ++ [.flush (.ok ())], hmore, .sent hwrites,
        ⟨rfl, h.faithful, h.limit_eq, h.read_eq, rfl⟩, rfl⟩

/-- **Receiving a frame** reads as long as more bytes are needed, and leaves the
channel ready. -/
theorem Ready.receive (h : Ready readLimit writeLimit c) :
    Adds (·.stream.log) c.stream.log
      (fun more frame after =>
        Receives readLimit c.decoder.buffer more (.ok (frame, after.decoder.buffer)) ∧
          Ready readLimit writeLimit after)
      (fun more e => Receives readLimit c.decoder.buffer more (.error e))
      (Channel.receive c) := by
  -- every read adds to the buffer, which the decoder's limit bounds
  induction hroom : c.decoder.limit + 1 - c.decoder.buffer.length using Nat.strongRecOn
    generalizing c with
  | ind room ih =>
    rcases hdecode : c.decoder.decode with ⟨fault | _ | frame, d⟩
    · obtain ⟨hfront, -⟩ := h.faithful.of_decode_fault hdecode
      rw [h.limit_eq] at hfront
      rw [receive_of_fault hdecode]
      exact ⟨[], (List.append_nil _).symm, .malformed hfront⟩
    · obtain ⟨hfront, hfaithful, hlimit, hbuffer⟩ := h.faithful.of_decode_none hdecode
      rw [h.limit_eq] at hfront
      have hread : Adds Transcribed.log c.stream.log (fun more data _ => more = [.read (.ok data)])
          (fun more fault => more = [.read (.error fault)])
          (ByteStream.read c.readTimeout readSize c.stream) :=
        Transcribed.note_adds .read (ByteStream.read c.readTimeout readSize) c.stream
      cases hresult : ByteStream.read c.readTimeout readSize c.stream with
      | error fault stream =>
        rw [hresult] at hread
        obtain ⟨_, hlog, rfl⟩ := hread
        rw [receive_of_read_fault hdecode hresult, h.read_eq]
        exact ⟨[.read (.error fault)], hlog, .failed hfront⟩
      | ok data stream =>
        rw [hresult] at hread
        obtain ⟨_, hlog, rfl⟩ := hread
        cases data with
        | nil =>
          rw [receive_of_end hdecode hresult]
          exact ⟨[.read (.ok [])], hlog, .ended hfront⟩
        | cons first rest =>
          have hready : Ready readLimit writeLimit
              { c with stream, decoder := d.append (first :: rest) } :=
            ⟨h.waiting, hfaithful.append _, hlimit.trans h.limit_eq, h.read_eq, h.write_eq⟩
          have hunread : (d.append (first :: rest)).buffer = c.decoder.buffer ++ first :: rest :=
            congrArg (· ++ first :: rest) hbuffer
          have hne : first :: rest ≠ [] := List.cons_ne_nil first rest
          obtain ⟨-, -, hle⟩ := Decoder.keeps_of_decode_none hdecode
          have hrest := ih _ (by
            simp only [Decoder.append, hlimit, hbuffer, List.length_append, List.length_cons]
            omega) hready rfl
          simp only [hlog, hunread] at hrest
          rw [receive_of_read hdecode hresult]
          exact hrest.behind (fun _ _ _ h => ⟨.more hfront hne h.1, h.2⟩)
            fun _ _ h => .more hfront hne h
    · obtain ⟨hfront, hfaithful, hlimit⟩ := h.faithful.of_decode_frame hdecode
      rw [h.limit_eq] at hfront
      rw [receive_of_frame hdecode]
      exact ⟨[], (List.append_nil _).symm, .frame hfront,
        h.waiting, hfaithful, hlimit.trans h.limit_eq, h.read_eq, h.write_eq⟩

/-- **Exchanging a command for a frame** leaves a transcript of that, and the
channel ready if it succeeds. -/
theorem Ready.exchange (h : Ready readLimit writeLimit c) (words : List Bytes) :
    Adds (·.stream.log) c.stream.log
      (fun more frame after =>
        Exchanges readLimit writeLimit c.decoder.buffer words more
          (.ok (frame, after.decoder.buffer)) ∧ Ready readLimit writeLimit after)
      (fun more e => Exchanges readLimit writeLimit c.decoder.buffer words more (.error e))
      (Channel.exchange words c) := by
  refine (h.send words).bind ?_ fun _ _ hsends => .unsent hsends
  rintro sent _ after ⟨hsends, hready, hbuffer⟩
  have hreceive := hready.receive
  rw [hbuffer] at hreceive
  exact hreceive.mono (fun _ _ _ h => ⟨.sent hsends h.1, h.2⟩) fun _ _ h => .sent hsends h

end Channel

end RedisClient
