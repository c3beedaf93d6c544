import RedisClient.Proofs.Wire.Submission

/-!
# What arrives

Frames are taken off a channel one at a time, from reads that are cut as the
stream likes, while commands are sent in between. A stream that is listened to
(`Overheard`) keeps a log of its reads and of the frames that were handed over,
in order, and every entry of such a log follows from those before it
(`ReadEvent.Follows`): a read happens only if all complete frames have been
handed over and no fault stands behind them, a frame that is handed over is the
next one in the bytes, and a failure is a fault in the bytes or the end of the
stream. What carries this along is that the bytes that were delivered are worth
the frames that were handed over and those in the buffer (`Channel.Level`).
-/

namespace RedisClient

variable {S : Type}

/-! ## Streams that are listened to -/

/-- What happens where frames are read. -/
inductive ReadEvent where
  /-- The stream is read, which brings some bytes, the end, or a fault. -/
  | read (outcome : Except StreamFault Bytes)
  /-- A call for the next frame comes back. -/
  | received (outcome : Except Error Frame)

/-- A stream with a log. -/
structure Overheard (S : Type) where
  /-- The stream. -/
  stream : S
  /-- What has happened, the earliest first. -/
  log : List ReadEvent := []

namespace Overheard

variable {α F : Type}

/-- Runs a step of the stream. -/
def onStream (step : EStateM F S α) : EStateM F (Overheard S) α := fun o =>
  match step o.stream with
  | .ok a stream => .ok a { o with stream }
  | .error fault stream => .error fault { o with stream }

instance [ByteStream S] : ByteStream (Overheard S) where
  read limit size := fun o =>
    match ByteStream.read limit size o.stream with
    | .ok data stream => .ok data { stream, log := o.log ++ [.read (.ok data)] }
    | .error fault stream => .error fault { stream, log := o.log ++ [.read (.error fault)] }
  write limit data := onStream (ByteStream.write limit data)
  flush limit := onStream (ByteStream.flush limit)
  shutdown := onStream ByteStream.shutdown

/-- A read is logged, whatever it comes to. -/
theorem read_cases [ByteStream S] (limit : Option Nat) (size : Nat) (o : Overheard S) :
    match ByteStream.read limit size o with
    | .ok data after => after.log = o.log ++ [.read (.ok data)]
    | .error fault after => after.log = o.log ++ [.read (.error fault)] := by
  have hread : ByteStream.read limit size o =
      match ByteStream.read limit size o.stream with
      | .ok data stream => .ok data { stream, log := o.log ++ [.read (.ok data)] }
      | .error fault stream =>
        .error fault { stream, log := o.log ++ [.read (.error fault)] } := rfl
  rw [hread]
  cases ByteStream.read limit size o.stream <;> rfl

/-- What the stream does otherwise is not. -/
theorem onStream_cases (step : EStateM F S α) (o : Overheard S) :
    match onStream step o with
    | .ok _ after => after.log = o.log
    | .error _ after => after.log = o.log := by
  rw [onStream]
  cases step o.stream <;> rfl

/-- So sending on what has been written is not. -/
theorem flush_cases [ByteStream S] (limit : Option Nat) (o : Overheard S) :
    match (ByteStream.flush limit : EStateM StreamFault (Overheard S) Unit) o with
    | .ok _ after => after.log = o.log
    | .error _ after => after.log = o.log := by
  have hflush : (ByteStream.flush limit : EStateM StreamFault (Overheard S) Unit) o =
      onStream (ByteStream.flush limit) o := rfl
  rw [hflush, onStream]
  cases (ByteStream.flush limit : EStateM StreamFault S Unit) o.stream <;> rfl

/-- And writing is not. -/
theorem writeAll_cases [ByteStream S] (limit : Option Nat) (data : Bytes) (o : Overheard S) :
    match ByteStream.writeAll limit data o with
    | .ok _ after => after.log = o.log
    | .error _ after => after.log = o.log := by
  induction hlength : data.length using Nat.strongRecOn generalizing data o with
  | ind length ih =>
    cases data with
    | nil =>
      rw [ByteStream.writeAll]
      rfl
    | cons first rest =>
      rw [ByteStream.writeAll]
      simp only [bind, EStateM.bind]
      have hwrite : ByteStream.write limit (first :: rest) o =
          onStream (ByteStream.write limit (first :: rest)) o := rfl
      have hcases := onStream_cases (ByteStream.write limit (first :: rest)) o
      rw [hwrite]
      cases honce : onStream (ByteStream.write limit (first :: rest)) o with
      | error fault after =>
        rw [honce] at hcases
        exact hcases
      | ok count after =>
        rw [honce] at hcases
        dsimp only at hcases ⊢
        rw [← hcases]
        by_cases hzero : count = 0
        · rw [dif_pos hzero]
          rfl
        · rw [dif_neg hzero]
          exact ih _ (by
            rw [← hlength, List.length_drop, List.length_cons]
            omega) _ after rfl

end Overheard

/-! ## What a log says -/

namespace ReadEvent

/-- The bytes that a log's reads delivered. -/
def delivered (log : List ReadEvent) : Bytes :=
  log.flatMap fun
    | .read (.ok data) => data
    | .read (.error _) | .received _ => []

/-- What the calls for frames came to. -/
def outcomes (log : List ReadEvent) : List (Except Error Frame) :=
  log.filterMap fun
    | .received outcome => some outcome
    | .read _ => none

/-- The frames that were handed over. -/
def frames (log : List ReadEvent) : List Frame :=
  log.filterMap fun
    | .received (.ok frame) => some frame
    | .received (.error _) | .read _ => none

/-- Bytes are delivered in order. -/
@[simp] theorem delivered_append (log more : List ReadEvent) :
    delivered (log ++ more) = delivered log ++ delivered more := List.flatMap_append

/-- A read delivers what it brings. -/
@[simp] theorem delivered_read (data : Bytes) : delivered [.read (.ok data)] = data :=
  List.append_nil data

/-- A call delivers nothing. -/
@[simp] theorem delivered_received (outcome : Except Error Frame) :
    delivered [.received outcome] = [] := rfl

/-- Frames are handed over in order. -/
@[simp] theorem frames_append (log more : List ReadEvent) :
    frames (log ++ more) = frames log ++ frames more := List.filterMap_append

/-- A call that comes back with a frame hands it over. -/
@[simp] theorem frames_received (frame : Frame) : frames [.received (.ok frame)] = [frame] := rfl

/-- One that fails does not. -/
@[simp] theorem frames_failed (error : Error) : frames [.received (.error error)] = [] := rfl

/-- Nor does a read. -/
@[simp] theorem frames_read (outcome : Except StreamFault Bytes) :
    frames [.read outcome] = [] := rfl

/-- The frames in some bytes that a new decoder is given at once, and how they
end. -/
def decoded (bytes : Bytes) : List Frame × Decoder.Ending :=
  (({} : Decoder).append bytes).drain.1

/-- They are the frames at the front of the bytes. -/
theorem decoded_eq (bytes : Bytes) : decoded bytes = Decoder.readAll defaultLimit bytes :=
  ((Decoder.Faithful.fresh defaultLimit).append bytes).drain_eq_readAll

/-- **An event that follows** from those before it, under a time limit for
reading. Where bytes are still to come, they are any that fit. -/
def Follows (limit : Option Nat) (before : List ReadEvent) : ReadEvent → Prop
  -- all complete frames have been handed over, and no fault stands behind them
  | .read _ => decoded (delivered before) = (frames before, .more)
  -- the frame is the next one, whatever comes behind it
  | .received (.ok frame) =>
    ∀ later, (delivered before ++ later).length ≤ defaultLimit →
      frames before ++ [frame] <+: (decoded (delivered before ++ later)).1
  | .received (.error error) =>
    -- all frames have been handed over and a fault stands behind them, whatever comes
    (∃ fault, error = .protocol (.malformed fault) ∧
      ∀ later, (delivered before ++ later).length ≤ defaultLimit →
        decoded (delivered before ++ later) = (frames before, .fault fault)) ∨
    -- or more bytes are needed, and the stream has just ended or failed
    decoded (delivered before) = (frames before, .more) ∧
      ((before.getLast? = some (.read (.ok [])) ∧
          error = .io ⟨.unexpectedEnd, some "connection closed by server"⟩) ∨
        ∃ fault, before.getLast? = some (.read (.error fault)) ∧ error = fault.toError limit)

/-- A log in which every event follows. -/
def Sound (limit : Option Nat) (log : List ReadEvent) : Prop :=
  ∀ before event after, log = before ++ event :: after → Follows limit before event

/-- One more event that does. -/
theorem Sound.snoc {limit : Option Nat} {log : List ReadEvent} {event : ReadEvent}
    (h : Sound limit log) (hevent : Follows limit log event) : Sound limit (log ++ [event]) := by
  intro before other after heq
  rcases List.append_eq_append_iff.1 heq with ⟨rest, rfl, hrest⟩ | ⟨rest, rfl, hrest⟩
  · cases rest with
    | nil =>
      obtain ⟨rfl, -⟩ := List.cons_eq_cons.1 hrest
      simpa using hevent
    | cons first rest => simp at hrest
  · cases rest with
    | nil =>
      obtain ⟨rfl, -⟩ := List.cons_eq_cons.1 hrest
      simpa using hevent
    | cons first rest =>
      obtain ⟨rfl, -⟩ := List.cons_eq_cons.1 hrest
      exact h before other rest rfl

end ReadEvent

/-! ## What a call of the decoder tells -/

namespace Decoder.Faithful

variable {d d' : Decoder} {frame : Frame} {fault : DecodeFault}

/-- A call that needs more bytes leaves the decoder worth what it was. -/
theorem of_decode_none (h : d.Faithful) (hdecode : d.decode = (.ok none, d')) :
    readFront d.limit d.buffer = .ok none ∧ d'.Faithful ∧ d'.limit = d.limit ∧
      d'.buffer = d.buffer := by
  obtain ⟨after, hafter, hfaithful, hlimit, hbuffer⟩ := h.decode_eq
  obtain ⟨houtcome, rfl⟩ := Prod.mk.inj (hafter.symm.trans hdecode)
  rcases hfront : readFront d.limit d.buffer with _ | _ | cut
  · simp [hfront, Except.map] at houtcome
  · exact ⟨rfl, hfaithful, hlimit, by simpa [hfront] using hbuffer⟩
  · simp [hfront, Except.map] at houtcome

/-- So does one that meets a fault. -/
theorem of_decode_fault (h : d.Faithful) (hdecode : d.decode = (.error fault, d')) :
    readFront d.limit d.buffer = .error fault ∧ d'.Faithful ∧ d'.limit = d.limit ∧
      d'.buffer = d.buffer := by
  obtain ⟨after, hafter, hfaithful, hlimit, hbuffer⟩ := h.decode_eq
  obtain ⟨houtcome, rfl⟩ := Prod.mk.inj (hafter.symm.trans hdecode)
  rcases hfront : readFront d.limit d.buffer with other | _ | cut
  · obtain rfl : other = fault := by simpa [hfront, Except.map] using houtcome
    exact ⟨rfl, hfaithful, hlimit, by simpa [hfront] using hbuffer⟩
  · simp [hfront, Except.map] at houtcome
  · simp [hfront, Except.map] at houtcome

/-- One that gives a frame takes it off. -/
theorem of_decode_frame (h : d.Faithful) (hdecode : d.decode = (.ok (some frame), d')) :
    readFront d.limit d.buffer = .ok (some (frame, d'.buffer)) ∧ d'.Faithful ∧
      d'.limit = d.limit := by
  obtain ⟨after, hafter, hfaithful, hlimit, hbuffer⟩ := h.decode_eq
  obtain ⟨houtcome, rfl⟩ := Prod.mk.inj (hafter.symm.trans hdecode)
  rcases hfront : readFront d.limit d.buffer with _ | _ | ⟨found, rest⟩
  · simp [hfront, Except.map] at houtcome
  · simp [hfront, Except.map] at houtcome
  · obtain rfl : found = frame := by simpa [hfront, Except.map] using houtcome
    obtain rfl : after.buffer = rest := by simpa [hfront] using hbuffer
    exact ⟨rfl, hfaithful, hlimit⟩

end Decoder.Faithful

/-! ## Channels that are level -/

namespace Channel

open ReadEvent Decoder

/-- **A channel is level with its log**: the bytes that were delivered are worth
the frames that were handed over and what the buffer is worth, whatever comes
behind them. -/
structure Level (c : Channel (Overheard S)) : Prop where
  /-- The decoder answers with the front of its buffer. -/
  faithful : c.decoder.Faithful
  /-- It holds as much as it may unless told otherwise. -/
  limit_eq : c.decoder.limit = defaultLimit
  /-- The buffer is the end of what was delivered. -/
  buffer_suffix : c.decoder.buffer <:+ delivered c.stream.log
  /-- The frames of all bytes are those that were handed over and those to come. -/
  readAll_eq : ∀ later, (delivered c.stream.log ++ later).length ≤ defaultLimit →
    readAll defaultLimit (delivered c.stream.log ++ later) =
      (frames c.stream.log ++ (readAll defaultLimit (c.decoder.buffer ++ later)).1,
        (readAll defaultLimit (c.decoder.buffer ++ later)).2)

/-- **A channel whose log is sound**, as long as no more has been delivered than a
decoder holds. -/
def Sound (c : Channel (Overheard S)) : Prop :=
  (delivered c.stream.log).length ≤ defaultLimit →
    Level c ∧ ReadEvent.Sound c.readTimeout c.stream.log

namespace Level

variable {c c' : Channel (Overheard S)} {d : Decoder} {frame : Frame} {fault : DecodeFault}

/-- As long as the bytes, the buffer and the frames are the same, so is the rest. -/
theorem same (h : Level c) (hfaithful : c'.decoder.Faithful)
    (hlimit : c'.decoder.limit = c.decoder.limit) (hbuffer : c'.decoder.buffer = c.decoder.buffer)
    (hdelivered : delivered c'.stream.log = delivered c.stream.log)
    (hframes : frames c'.stream.log = frames c.stream.log) : Level c' where
  faithful := hfaithful
  limit_eq := hlimit.trans h.limit_eq
  buffer_suffix := by
    rw [hbuffer, hdelivered]
    exact h.buffer_suffix
  readAll_eq := by
    rw [hbuffer, hdelivered, hframes]
    exact h.readAll_eq

/-- The buffer and what comes behind it are no longer than all bytes. -/
theorem fits (h : Level c) {later : Bytes}
    (hfit : (delivered c.stream.log ++ later).length ≤ defaultLimit) :
    (c.decoder.buffer ++ later).length ≤ defaultLimit := by
  have hlength := h.buffer_suffix.length_le
  simp only [List.length_append] at hfit ⊢
  omega

/-- **Where the decoder needs more bytes**, all complete frames have been handed
over. -/
theorem decoded_of_none (h : Level c) (hfit : (delivered c.stream.log).length ≤ defaultLimit)
    (hfront : readFront defaultLimit c.decoder.buffer = .ok none) :
    decoded (delivered c.stream.log) = (frames c.stream.log, .more) := by
  have hall := h.readAll_eq [] (by simpa using hfit)
  rw [List.append_nil, List.append_nil, readAll_of_none hfront, List.append_nil] at hall
  rw [decoded_eq, hall]

/-- More of them keep the channel level. -/
theorem append (h : Level c) (data : Bytes) (hfaithful : d.Faithful)
    (hlimit : d.limit = c.decoder.limit) (hbuffer : d.buffer = c.decoder.buffer)
    (hdecoder : c'.decoder = d.append data)
    (hlog : c'.stream.log = c.stream.log ++ [.read (.ok data)]) : Level c' where
  faithful := hdecoder ▸ hfaithful.append data
  limit_eq := by
    rw [hdecoder]
    exact hlimit.trans h.limit_eq
  buffer_suffix := by
    obtain ⟨taken, htaken⟩ := h.buffer_suffix
    refine ⟨taken, ?_⟩
    rw [hdecoder, hlog, delivered_append, delivered_read, ← htaken, List.append_assoc, ← hbuffer]
    rfl
  readAll_eq later hfit := by
    rw [hlog, delivered_append, delivered_read, List.append_assoc] at hfit ⊢
    rw [h.readAll_eq (data ++ later) hfit, frames_append, frames_read, List.append_nil, hdecoder,
      ← hbuffer, ← List.append_assoc]
    rfl

/-- **Where it has a frame**, that is the next one. -/
theorem readAll_of_frame {rest : Bytes} (h : Level c)
    (hfront : readFront defaultLimit c.decoder.buffer = .ok (some (frame, rest))) {later : Bytes}
    (hfit : (delivered c.stream.log ++ later).length ≤ defaultLimit) :
    readAll defaultLimit (delivered c.stream.log ++ later) =
      (frames c.stream.log ++ [frame] ++ (readAll defaultLimit (rest ++ later)).1,
        (readAll defaultLimit (rest ++ later)).2) := by
  rw [h.readAll_eq later hfit, readAll_append_of_frame (h.fits hfit) hfront, List.append_assoc]
  rfl

/-- Taking it off keeps the channel level. -/
theorem took {rest : Bytes} (h : Level c)
    (hfront : readFront defaultLimit c.decoder.buffer = .ok (some (frame, rest)))
    (hfaithful : c'.decoder.Faithful) (hlimit : c'.decoder.limit = c.decoder.limit)
    (hbuffer : c'.decoder.buffer = rest)
    (hlog : c'.stream.log = c.stream.log ++ [.received (.ok frame)]) : Level c' where
  faithful := hfaithful
  limit_eq := hlimit.trans h.limit_eq
  buffer_suffix := by
    have hrest : rest <:+ c.decoder.buffer :=
      suffix_of_advance_complete (advance_of_readFront hfront)
    rw [hbuffer, hlog, delivered_append, delivered_received, List.append_nil]
    exact hrest.trans h.buffer_suffix
  readAll_eq later hfit := by
    rw [hlog, delivered_append, delivered_received, List.append_nil] at hfit ⊢
    rw [h.readAll_of_frame hfront hfit, hbuffer, frames_append, frames_received]

/-- **Where it meets a fault**, that stands behind the frames that were handed
over. -/
theorem decoded_of_fault (h : Level c)
    (hfront : readFront defaultLimit c.decoder.buffer = .error fault) {later : Bytes}
    (hfit : (delivered c.stream.log ++ later).length ≤ defaultLimit) :
    decoded (delivered c.stream.log ++ later) = (frames c.stream.log, .fault fault) := by
  rw [decoded_eq, h.readAll_eq later hfit,
    readAll_of_fault (readFront_append_of_fault (h.fits hfit) hfront), List.append_nil]

end Level

/-- A call that ends with the stream, or with its fault, is sound. -/
theorem Sound.ended {c c' : Channel (Overheard S)} {d : Decoder}
    {outcome : Except StreamFault Bytes} {error : Error} (h : Sound c)
    (hdecode : c.decoder.decode = (.ok none, d)) (hdecoder : c'.decoder = d)
    (htimeout : c'.readTimeout = c.readTimeout)
    (hlog : c'.stream.log = c.stream.log ++ [.read outcome] ++ [.received (.error error)])
    (hend : (outcome = .ok [] ∧
        error = .io ⟨.unexpectedEnd, some "connection closed by server"⟩) ∨
      ∃ fault, outcome = .error fault ∧ error = fault.toError c.readTimeout) :
    Sound c' := by
  have hnothing : delivered [.read outcome] = [] := by
    rcases hend with ⟨rfl, -⟩ | ⟨fault, rfl, -⟩ <;> rfl
  have hdelivered : delivered c'.stream.log = delivered c.stream.log := by
    rw [hlog, delivered_append, delivered_append, hnothing, delivered_received, List.append_nil,
      List.append_nil]
  intro hfit
  rw [hdelivered] at hfit
  obtain ⟨hlevel, hsound⟩ := h hfit
  obtain ⟨hfront, hfaithful, hlimit, hbuffer⟩ := hlevel.faithful.of_decode_none hdecode
  rw [hlevel.limit_eq] at hfront
  subst hdecoder
  have hnone := hlevel.decoded_of_none hfit hfront
  have hframes : frames c'.stream.log = frames c.stream.log := by
    rw [hlog, frames_append, frames_append, frames_read, frames_failed, List.append_nil,
      List.append_nil]
  refine ⟨hlevel.same hfaithful hlimit hbuffer hdelivered hframes, ?_⟩
  rw [hlog, htimeout]
  have hread : Follows c.readTimeout c.stream.log (.read outcome) := hnone
  refine (hsound.snoc hread).snoc (.inr ⟨?_, ?_⟩)
  · rw [delivered_append, hnothing, frames_append, frames_read, List.append_nil, List.append_nil]
    exact hnone
  · rcases hend with ⟨rfl, rfl⟩ | ⟨fault, rfl, rfl⟩
    · exact .inl ⟨List.getLast?_concat, rfl⟩
    · exact .inr ⟨fault, List.getLast?_concat, rfl⟩

/-- So is a read that brings bytes. -/
theorem Sound.read {c c' : Channel (Overheard S)} {d : Decoder} {data : Bytes} (h : Sound c)
    (hdecode : c.decoder.decode = (.ok none, d)) (hdecoder : c'.decoder = d.append data)
    (htimeout : c'.readTimeout = c.readTimeout)
    (hlog : c'.stream.log = c.stream.log ++ [.read (.ok data)]) : Sound c' := by
  intro hfit
  rw [hlog, delivered_append] at hfit
  have hbefore : (delivered c.stream.log).length ≤ defaultLimit := by
    rw [List.length_append] at hfit
    omega
  obtain ⟨hlevel, hsound⟩ := h hbefore
  obtain ⟨hfront, hfaithful, hlimit, hbuffer⟩ := hlevel.faithful.of_decode_none hdecode
  rw [hlevel.limit_eq] at hfront
  have hread : Follows c.readTimeout c.stream.log (.read (.ok data)) :=
    hlevel.decoded_of_none hbefore hfront
  refine ⟨hlevel.append data hfaithful hlimit hbuffer hdecoder hlog, ?_⟩
  rw [hlog, htimeout]
  exact hsound.snoc hread

/-! ## Reading -/

section Reading

variable [ByteStream S]

/-- Asks for the next frame, and logs what comes of it. -/
def hear (c : Channel (Overheard S)) : Channel (Overheard S) :=
  let (outcome, c) := Step.outcome receive c
  { c with stream := { c.stream with log := c.stream.log ++ [.received outcome] } }

/-- A call that gives a frame is logged as one. -/
theorem hear_of_ok {c c' : Channel (Overheard S)} {frame : Frame} (h : receive c = .ok frame c') :
    hear c =
      { c' with stream := { c'.stream with log := c'.stream.log ++ [.received (.ok frame)] } } := by
  rw [hear, Step.outcome_of_ok h]

/-- So is one that fails. -/
theorem hear_of_error {c c' : Channel (Overheard S)} {error : Error}
    (h : receive c = .error error c') :
    hear c =
      { c' with
        stream := { c'.stream with log := c'.stream.log ++ [.received (.error error)] } } := by
  rw [hear, Step.outcome_of_error h]

/-- Calls that come to the same are logged as the same. -/
theorem hear_of_receive {c c' : Channel (Overheard S)} (h : receive c = receive c') :
    hear c = hear c' := by
  simp only [hear, Step.outcome, h]

/-- **Asking for a frame keeps the log sound.** -/
theorem Sound.hear {c : Channel (Overheard S)} (h : Sound c) : Sound (hear c) := by
  -- every read adds to the buffer, which the decoder's limit bounds
  induction hroom : c.decoder.limit + 1 - c.decoder.buffer.length using Nat.strongRecOn
    generalizing c with
  | ind room ih =>
    rcases hdecode : c.decoder.decode with ⟨fault | _ | frame, d⟩
    · rw [hear_of_error (receive_of_fault hdecode)]
      intro hfit
      simp only [delivered_append, delivered_received, List.append_nil] at hfit
      obtain ⟨hlevel, hsound⟩ := h hfit
      obtain ⟨hfront, hfaithful, hlimit, hbuffer⟩ := hlevel.faithful.of_decode_fault hdecode
      rw [hlevel.limit_eq] at hfront
      exact ⟨hlevel.same hfaithful hlimit hbuffer (by simp) (by simp),
        hsound.snoc (.inl ⟨fault, rfl, fun later => hlevel.decoded_of_fault hfront⟩)⟩
    · have hread := Overheard.read_cases c.readTimeout readSize c.stream
      cases hresult : ByteStream.read c.readTimeout readSize c.stream with
      | error fault stream =>
        rw [hresult] at hread
        rw [hear_of_error (receive_of_read_fault hdecode hresult)]
        exact h.ended hdecode rfl rfl (congrArg (· ++ _) hread) (.inr ⟨fault, rfl, rfl⟩)
      | ok data stream =>
        rw [hresult] at hread
        cases data with
        | nil =>
          rw [hear_of_error (receive_of_end hdecode hresult)]
          exact h.ended hdecode rfl rfl (congrArg (· ++ _) hread) (.inl ⟨rfl, rfl⟩)
        | cons first rest =>
          rw [hear_of_receive (receive_of_read hdecode hresult)]
          refine ih _ ?_ (h.read hdecode rfl rfl hread) rfl
          obtain ⟨hlimit, hbuffer, hle⟩ := keeps_of_decode_none hdecode
          simp only [Decoder.append, hlimit, hbuffer, List.length_append, List.length_cons]
          omega
    · rw [hear_of_ok (receive_of_frame hdecode)]
      intro hfit
      simp only [delivered_append, delivered_received, List.append_nil] at hfit
      obtain ⟨hlevel, hsound⟩ := h hfit
      obtain ⟨hfront, hfaithful, hlimit⟩ := hlevel.faithful.of_decode_frame hdecode
      rw [hlevel.limit_eq] at hfront
      refine ⟨hlevel.took hfront hfaithful hlimit rfl rfl, hsound.snoc fun later hlater => ?_⟩
      rw [decoded_eq, hlevel.readAll_of_frame hfront hlater]
      exact List.prefix_append _ _

/-- A call logs the reads that it makes and nothing else. -/
theorem left_receive (c : Channel (Overheard S)) :
    (∃ reads : List (Except StreamFault Bytes),
      (Step.left receive c).stream.log = c.stream.log ++ reads.map .read) ∧
      (Step.left receive c).readTimeout = c.readTimeout := by
  induction hroom : c.decoder.limit + 1 - c.decoder.buffer.length using Nat.strongRecOn
    generalizing c with
  | ind room ih =>
    rcases hdecode : c.decoder.decode with ⟨fault | _ | frame, d⟩
    · rw [Step.left_of_error (receive_of_fault hdecode)]
      exact ⟨⟨[], (List.append_nil _).symm⟩, rfl⟩
    · have hread := Overheard.read_cases c.readTimeout readSize c.stream
      cases hresult : ByteStream.read c.readTimeout readSize c.stream with
      | error fault stream =>
        rw [hresult] at hread
        rw [Step.left_of_error (receive_of_read_fault hdecode hresult)]
        exact ⟨⟨[.error fault], hread⟩, rfl⟩
      | ok data stream =>
        rw [hresult] at hread
        cases data with
        | nil =>
          rw [Step.left_of_error (receive_of_end hdecode hresult)]
          exact ⟨⟨[.ok []], hread⟩, rfl⟩
        | cons first rest =>
          obtain ⟨hlimit, hbuffer, hle⟩ := keeps_of_decode_none hdecode
          obtain ⟨⟨reads, hreads⟩, htimeout⟩ := ih _ (by
            simp only [Decoder.append, hlimit, hbuffer, List.length_append, List.length_cons]
            omega) { c with stream, decoder := d.append (first :: rest) } rfl
          rw [Step.left, Step.outcome, receive_of_read hdecode hresult]
          refine ⟨⟨.ok (first :: rest) :: reads, hreads.trans ?_⟩, htimeout⟩
          change stream.log ++ _ = _
          rw [hread, List.append_assoc]
          rfl
    · rw [Step.left_of_ok (receive_of_frame hdecode)]
      exact ⟨⟨[], (List.append_nil _).symm⟩, rfl⟩

/-- So a call for a frame has one outcome. -/
theorem length_outcomes_hear (c : Channel (Overheard S)) :
    (outcomes (hear c).stream.log).length = (outcomes c.stream.log).length + 1 := by
  obtain ⟨⟨reads, hreads⟩, -⟩ := left_receive c
  have hlog : (hear c).stream.log =
      (Step.left receive c).stream.log ++ [.received (Step.outcome receive c).1] := rfl
  have hnone : outcomes (reads.map .read) = [] := by
    simp [outcomes]
  rw [hlog, hreads]
  simp [outcomes] at hnone ⊢

end Reading

/-! ## Sending in between -/

/-- **Flushing** touches neither the log nor the decoder. -/
theorem left_flush [ByteStream S] (c : Channel (Overheard S)) :
    (Step.left flush c).stream.log = c.stream.log ∧ (Step.left flush c).decoder = c.decoder ∧
      (Step.left flush c).readTimeout = c.readTimeout := by
  have hflush := flush_apply c
  by_cases hempty : c.encoder.waiting.isEmpty = true
  · rw [if_pos hempty] at hflush
    rw [Step.left_of_ok hflush]
    exact ⟨rfl, rfl, rfl⟩
  · rw [if_neg hempty] at hflush
    have hwrite := Overheard.writeAll_cases c.writeTimeout c.encoder.waiting c.stream
    cases hresult : ByteStream.writeAll c.writeTimeout c.encoder.waiting c.stream with
    | error fault stream =>
      rw [hresult] at hflush hwrite
      rw [Step.left_of_error hflush]
      exact ⟨hwrite, rfl, rfl⟩
    | ok _ stream =>
      rw [hresult] at hflush hwrite
      have hsent := Overheard.flush_cases c.writeTimeout stream
      dsimp only at hflush hwrite
      cases hlast : (ByteStream.flush c.writeTimeout : EStateM StreamFault (Overheard S) Unit)
        stream with
      | ok _ after =>
        rw [hlast] at hflush hsent
        rw [Step.left_of_ok hflush]
        exact ⟨hsent.trans hwrite, rfl, rfl⟩
      | error fault after =>
        rw [hlast] at hflush hsent
        rw [Step.left_of_error hflush]
        exact ⟨hsent.trans hwrite, rfl, rfl⟩

end Channel

/-- **Nor does handing over a command.** -/
theorem Submission.left_perform [ByteStream S] (submission : Submission)
    (c : Channel (Overheard S)) :
    (Step.left submission.perform c).stream.log = c.stream.log ∧
      (Step.left submission.perform c).decoder = c.decoder ∧
      (Step.left submission.perform c).readTimeout = c.readTimeout := by
  cases submission with
  | buffer words => exact ⟨rfl, rfl, rfl⟩
  | send words =>
    obtain ⟨hlog, hdecoder, htimeout⟩ := Channel.left_flush (Step.left (Channel.buffer words) c)
    rw [← Channel.left_send] at hlog hdecoder htimeout
    exact ⟨hlog, hdecoder, htimeout⟩
  | flush => exact Channel.left_flush c

/-- What may be done with a channel. -/
inductive ChannelUse where
  /-- The next frame is asked for. -/
  | receive
  /-- A command is handed over, or what was handed over is flushed. -/
  | submit (submission : Submission)
  deriving DecidableEq

/-- The channel after a use. -/
def ChannelUse.after [ByteStream S] (c : Channel (Overheard S)) : ChannelUse → Channel (Overheard S)
  | receive => c.hear
  | submit submission => Step.left submission.perform c

namespace Channel

open ReadEvent

/-- A new channel has a sound log. -/
theorem Sound.new (stream : S) (readTimeout writeTimeout : Option Nat) :
    Sound { stream := ({ stream } : Overheard S), readTimeout, writeTimeout } := by
  intro _
  refine ⟨⟨.fresh defaultLimit, rfl, List.suffix_refl _, fun later _ => rfl⟩, ?_⟩
  intro before event after heq
  simp at heq

variable [ByteStream S]

/-- **Every use keeps the log sound**, and adds one outcome if a frame is asked
for. -/
theorem Sound.after {c : Channel (Overheard S)} (h : Sound c) (use : ChannelUse) :
    Sound (use.after c) ∧ (use.after c).readTimeout = c.readTimeout ∧
      (outcomes (use.after c).stream.log).length =
        (outcomes c.stream.log).length + [use].count .receive := by
  cases use with
  | receive => exact ⟨h.hear, (left_receive c).2, length_outcomes_hear c⟩
  | submit submission =>
    obtain ⟨hlog, hdecoder, htimeout⟩ := submission.left_perform c
    refine ⟨fun hfit => ?_, htimeout, congrArg (fun log => (outcomes log).length) hlog⟩
    change (delivered (Step.left submission.perform c).stream.log).length ≤ _ at hfit
    rw [hlog] at hfit
    obtain ⟨hlevel, hsound⟩ := h hfit
    have hfaithful : (Step.left submission.perform c).decoder.Faithful :=
      hdecoder ▸ hlevel.faithful
    refine ⟨hlevel.same hfaithful (congrArg Decoder.limit hdecoder)
      (congrArg Decoder.buffer hdecoder) (congrArg delivered hlog) (congrArg frames hlog), ?_⟩
    change ReadEvent.Sound (Step.left submission.perform c).readTimeout
      (Step.left submission.perform c).stream.log
    rw [htimeout, hlog]
    exact hsound

/-- **So does any run.** -/
theorem Sound.foldl_after {c : Channel (Overheard S)} (h : Sound c) (uses : List ChannelUse) :
    Sound (uses.foldl ChannelUse.after c) ∧
      (uses.foldl ChannelUse.after c).readTimeout = c.readTimeout ∧
      (outcomes (uses.foldl ChannelUse.after c).stream.log).length =
        (outcomes c.stream.log).length + uses.count .receive := by
  induction uses generalizing c with
  | nil => exact ⟨h, rfl, rfl⟩
  | cons use rest ih =>
    obtain ⟨hsound, htimeout, hcount⟩ := h.after use
    obtain ⟨hlast, htimeout', hcount'⟩ := ih hsound
    refine ⟨hlast, htimeout'.trans htimeout, ?_⟩
    rw [List.foldl_cons, hcount', hcount, Nat.add_assoc, ← List.count_append]
    rfl

/-- **Reading loses and invents nothing.** A new channel over any stream is asked
for frames, any number of times, and commands are sent in between, whether or not
that succeeds. Every call has its outcome in the log, and as long as no more than
512 MiB are delivered every event of the log follows from those before it: the
stream is read only if all complete frames have been handed over and no fault
stands behind them; a frame that is handed over is the next one of those that a
decoder finds in all bytes at once, also in those still to come; and a call that
fails has met the fault behind the last of them, or else the end of the stream or
its failure, with all complete frames handed over. -/
theorem receive_follows (stream : S) (readTimeout writeTimeout : Option Nat)
    (uses : List ChannelUse) :
    let new : Channel (Overheard S) := { stream := { stream }, readTimeout, writeTimeout }
    let log := (uses.foldl ChannelUse.after new).stream.log
    (outcomes log).length = uses.count .receive ∧
      ((delivered log).length ≤ 512 * 1024 * 1024 →
        ∀ before event after, log = before ++ event :: after →
          event.Follows readTimeout before) := by
  intro new log
  obtain ⟨hsound, htimeout, hcount⟩ := (Sound.new stream readTimeout writeTimeout).foldl_after uses
  refine ⟨hcount.trans (Nat.zero_add _), fun hfit => ?_⟩
  have hlog := (hsound hfit).2
  rw [htimeout] at hlog
  exact hlog

/-- A line, a number cut in two, and a third frame in the midst of which the stream
ends; a command is sent in between. -/
theorem receive_follows_cut :
    let stream : ScriptedStream :=
      { reads := [.ok [43, 65, 13, 10, 58, 55], .ok [13, 10, 36, 49, 13, 10]] }
    let uses : List ChannelUse := [.receive, .submit (.send [[80]]), .receive, .receive]
    let new : Channel (Overheard ScriptedStream) := { stream := { stream } }
    let log := (uses.foldl ChannelUse.after new).stream.log
    let before : List ReadEvent :=
      [.read (.ok [43, 65, 13, 10, 58, 55]), .received (.ok (.simple [65])),
        .read (.ok [13, 10, 36, 49, 13, 10]), .received (.ok (.integer 7)), .read (.ok [])]
    let ended : Error := .io ⟨.unexpectedEnd, some "connection closed by server"⟩
    (log = before ++ [.received (.error ended)] ∧
        (delivered log).length ≤ 512 * 1024 * 1024) ∧
      (outcomes log).length = 3 ∧
      decoded (delivered before) = ([.simple [65], .integer 7], .more) := by
  intro stream uses new log before ended
  have hlog : log = before ++ [.received (.error ended)] := by
    subst log before new uses stream ended
    with_unfolding_all rfl
  have hfit : (delivered log).length ≤ 512 * 1024 * 1024 := by
    rw [hlog]
    decide
  obtain ⟨hcount, hfollows⟩ := receive_follows stream none none uses
  have hcalls : uses.count .receive = 3 := by decide
  refine ⟨⟨hlog, hfit⟩, hcount.trans hcalls, ?_⟩
  rcases hfollows hfit before _ [] hlog with ⟨fault, hfault, -⟩ | ⟨hdecoded, -⟩
  · exact nomatch hfault
  · exact hdecoded

end Channel

end RedisClient
