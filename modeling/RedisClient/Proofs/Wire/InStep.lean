import RedisClient.Proofs.Frame.Streaming
import RedisClient.Proofs.Wire.Peer
import RedisClient.Proofs.Wire.Transition

/-!
# Channels in step

A channel is in step with the server at the other end (`Channel.InStep`) if the
server has heard exactly the commands that were sent, and what has come back is
the replies that were taken off and the bytes that the decoder still holds. A
frame that is read in step is the reply to the first command that has none yet
(`Channel.InStep.receive`), so whatever a channel does that does not fail keeps
it in step; whatever fails is an error after which a client is broken.
-/

namespace RedisClient

open WireClient (losesPlace)

variable {S : Type} [ByteStream S]

/-- Every fault of a stream makes a client lose its place. -/
theorem losesPlace_toError (limit : Option Nat) (fault : StreamFault) :
    losesPlace (fault.toError limit) = true := by
  cases fault <;> rfl

namespace Channel

/-! ## What a channel does -/

/-- A stream that cannot be read fails the channel. -/
theorem receive_of_read_fault {c : Channel S} {d : Decoder} {fault : StreamFault} {stream : S}
    (h : c.decoder.decode = (.ok none, d))
    (hread : ByteStream.read c.readTimeout readSize c.stream = .error fault stream) :
    receive c = .error (fault.toError c.readTimeout) { c with stream, decoder := d } := by
  rw [receive]
  split <;> simp_all

/-- So does the end of the stream. -/
theorem receive_of_end {c : Channel S} {d : Decoder} {stream : S}
    (h : c.decoder.decode = (.ok none, d))
    (hread : ByteStream.read c.readTimeout readSize c.stream = .ok [] stream) :
    receive c = .error (.io ⟨.unexpectedEnd, some "connection closed by server"⟩)
      { c with stream, decoder := d } := by
  rw [receive]
  split <;> simp_all

/-- A flush takes what waits and writes it, if there is anything. -/
theorem flush_apply (c : Channel S) :
    flush c =
      if c.encoder.waiting.isEmpty then .ok () { c with encoder := {} }
      else
        match ByteStream.writeAll c.writeTimeout c.encoder.waiting c.stream with
        | .error fault stream =>
          .error (fault.toError c.writeTimeout) { c with stream, encoder := {} }
        | .ok () stream =>
          match ByteStream.flush c.writeTimeout stream with
          | .error fault stream =>
            .error (fault.toError c.writeTimeout) { c with stream, encoder := {} }
          | .ok () stream => .ok () { c with stream, encoder := {} } := by
  have htake : (takeBuffered : Step (Channel S) Bytes) c =
      .ok c.encoder.waiting { c with encoder := {} } := rfl
  simp only [flush, Step.bind_apply, htake]
  split
  · rfl
  · change onStream c.writeTimeout (do
        ByteStream.writeAll c.writeTimeout c.encoder.waiting
        ByteStream.flush c.writeTimeout) { c with encoder := {} } = _
    simp only [onStream, bind, EStateM.bind]
    cases ByteStream.writeAll c.writeTimeout c.encoder.waiting c.stream with
    | error fault stream => rfl
    | ok _ stream =>
      dsimp only
      cases ByteStream.flush c.writeTimeout stream <;> rfl

/-! ## In step -/

/-- **In step.** `sent` are the commands that the server has heard, of which
those in `done` have been answered and their replies taken off. -/
structure InStep (peer : Peer S) (sent done : List (List Bytes)) (c : Channel S) : Prop where
  /-- The decoder holds what its buffer is worth. -/
  faithful : c.decoder.Faithful
  /-- It holds as much as it may unless told otherwise. -/
  limit_eq : c.decoder.limit = defaultLimit
  /-- The server has heard the commands and nothing else. -/
  heard_eq : peer.heard c.stream = sent.flatMap Frame.encodeWords
  /-- What has come back is the replies that were taken off and the buffer. -/
  told_eq : peer.told c.stream = replies peer.answer done ++ c.decoder.buffer
  /-- Nothing has come back that was not due. -/
  due : Due peer.answer (peer.heard c.stream) (peer.told c.stream)
  /-- The replies that were taken off can be read. -/
  readable : ∀ commands words, commands ++ [words] <+: done →
    Decoder.advance defaultLimit [] (peer.answer (commands ++ [words])).encode =
      .complete (peer.answer (commands ++ [words])) []

namespace InStep

variable {peer : Peer S} {sent done : List (List Bytes)} {words : List Bytes} {c : Channel S}

/-- A channel over a stream that has carried nothing is in step. -/
theorem fresh {stream : S} (hheard : peer.heard stream = []) (htold : peer.told stream = [])
    (readTimeout writeTimeout : Option Nat) :
    InStep peer [] [] { stream, readTimeout, writeTimeout } where
  faithful := .fresh _
  limit_eq := rfl
  heard_eq := hheard
  told_eq := htold
  due := ⟨[], [], List.nil_prefix, noise_nil, htold ▸ List.nil_prefix⟩
  readable commands words h := by simp at h

/-- Only the stream and the decoder matter. -/
theorem congr {c' : Channel S} (h : InStep peer sent done c) (hstream : c'.stream = c.stream)
    (hdecoder : c'.decoder = c.decoder) : InStep peer sent done c' where
  faithful := hdecoder ▸ h.faithful
  limit_eq := hdecoder ▸ h.limit_eq
  heard_eq := hstream ▸ h.heard_eq
  told_eq := by rw [hstream, hdecoder]; exact h.told_eq
  due := hstream ▸ h.due
  readable := h.readable

/-! ## Reading -/

/-- The replies that are due are to commands that were sent. -/
theorem due_sent (h : InStep peer sent done c) :
    ∃ commands noise, commands <+: sent ∧ Noise noise ∧
      replies peer.answer done ++ c.decoder.buffer <+: replies peer.answer commands ++ noise := by
  obtain ⟨commands, noise, hheard, hnoise, htold⟩ := h.due
  rw [h.heard_eq] at hheard
  rw [h.told_eq] at htold
  exact ⟨commands, noise, Frame.prefix_of_encodeWords_prefix hheard, hnoise, htold⟩

/-- **A frame at the front of the buffer is the next reply.** -/
theorem front {frame : Frame} {rest : Bytes} (h : InStep peer sent done c)
    (hnext : done ++ [words] <+: sent)
    (hfront : Decoder.advance defaultLimit [] c.decoder.buffer = .complete frame rest) :
    frame = peer.answer (done ++ [words]) ∧ c.decoder.buffer = frame.encode ++ rest ∧
      Decoder.advance defaultLimit [] frame.encode = .complete frame [] := by
  obtain ⟨commands, noise, hsent, hnoise, hpre⟩ := h.due_sent
  rcases Nat.lt_or_ge done.length commands.length with hlater | hearlier
  · -- the next command is among those whose replies are due
    obtain ⟨others, rfl⟩ : done ++ [words] <+: commands :=
      List.prefix_of_prefix_length_le hnext hsent (by rw [List.length_append]; exact hlater)
    rw [replies_append, replies_append, List.append_assoc, List.append_assoc,
      List.prefix_append_right_inj] at hpre
    simp only [answers, List.flatMap_cons, List.flatMap_nil, List.append_nil] at hpre
    obtain ⟨more, hmore⟩ := hpre
    have hwhole := Decoder.advance_append defaultLimit [] c.decoder.buffer more
    rw [hfront, hmore] at hwhole
    have hsafe := peer.lineSafe (done ++ [words])
    obtain ⟨rfl, hrest⟩ : peer.answer (done ++ [words]) = frame ∧ _ = rest ++ more := by
      rcases Decoder.advance_encode_front defaultLimit hsafe _ with ⟨fault, hfault⟩ | hread
      · rw [hfault] at hwhole
        exact absurd hwhole (by simp [Decoder.Progress.andThen])
      · rw [hread] at hwhole
        simpa [Decoder.Progress.andThen] using hwhole
    refine ⟨rfl, ?_, ?_⟩
    -- the bytes up to the frame's end are its wire form
    · rw [hrest, ← List.append_assoc] at hmore
      exact List.append_cancel_right hmore
    · have halone := Decoder.advance_encode_front defaultLimit hsafe []
      rw [List.append_nil] at halone
      refine halone.resolve_left ?_
      rintro ⟨fault, hfault⟩
      have hread := Decoder.advance_append defaultLimit []
        (peer.answer (done ++ [words])).encode (rest ++ more)
      rw [hfault, ← hrest, hwhole] at hread
      exact absurd hread (by simp [Decoder.Progress.andThen])
  · -- all replies that are due have been taken off, and only noise can follow
    exfalso
    have hdone : commands <+: done :=
      List.prefix_of_prefix_length_le hsent ((List.prefix_append done [words]).trans hnext) hearlier
    obtain ⟨others, rfl⟩ := hdone
    rw [replies_append, List.append_assoc, List.prefix_append_right_inj] at hpre
    cases others with
    | nil => exact hnoise _ _ _ hpre hfront
    | cons other others =>
      -- nor can noise begin with a reply that was taken off already
      simp only [answers, List.flatMap_cons, List.append_assoc] at hpre
      exact hnoise _ _ _ ((List.prefix_append _ _).trans hpre)
        (h.readable commands other ⟨others, by simp⟩)

/-- Bytes that the stream brings keep the channel in step. -/
theorem read {bytes : Bytes} {limit : Option Nat} {size : Nat} {stream : S} {d : Decoder}
    (h : InStep peer sent done c) (hfaithful : d.Faithful) (hlimit : d.limit = c.decoder.limit)
    (hbuffer : d.buffer = c.decoder.buffer) (hbytes : bytes ≠ [])
    (hread : ByteStream.read limit size c.stream = .ok bytes stream) :
    InStep peer sent done { c with stream, decoder := d.append bytes } := by
  obtain ⟨hheard, htold, hdue⟩ := peer.read_ok hread
  refine ⟨hfaithful.append bytes, hlimit.trans h.limit_eq, hheard.trans h.heard_eq, ?_,
    hdue hbytes, h.readable⟩
  rw [htold, h.told_eq, List.append_assoc, ← hbuffer]
  rfl

/-- The next reply taken off keeps it in step. -/
theorem took {rest : Bytes} {d : Decoder} (h : InStep peer sent done c)
    (hfaithful : d.Faithful) (hlimit : d.limit = c.decoder.limit) (hrest : d.buffer = rest)
    (hbuffer : c.decoder.buffer = (peer.answer (done ++ [words])).encode ++ rest)
    (hread : Decoder.advance defaultLimit [] (peer.answer (done ++ [words])).encode =
      .complete (peer.answer (done ++ [words])) []) :
    InStep peer sent (done ++ [words]) { c with decoder := d } where
  faithful := hfaithful
  limit_eq := hlimit.trans h.limit_eq
  heard_eq := h.heard_eq
  told_eq := by
    rw [h.told_eq, hbuffer, replies_append, hrest]
    simp [answers]
  due := h.due
  readable commands other hpre := by
    rw [List.prefix_concat_iff] at hpre
    rcases hpre with hlast | hbefore
    · obtain ⟨rfl, -⟩ := List.append_inj' hlast rfl
      rw [hlast]
      exact hread
    · exact h.readable commands other hbefore

/-- **A frame that is received is the next reply.** Unless reading fails, the
channel gives the reply to the first command that has none yet, and stays in
step; what waits to be sent stays as it is. -/
theorem receive (h : InStep peer sent done c) (hnext : done ++ [words] <+: sent) :
    (∃ error c', Channel.receive c = .error error c' ∧ losesPlace error = true) ∨
      ∃ c', Channel.receive c = .ok (peer.answer (done ++ [words])) c' ∧
        InStep peer sent (done ++ [words]) c' ∧ c'.encoder = c.encoder := by
  induction hmeasure : c.decoder.limit + 1 - c.decoder.buffer.length using Nat.strongRecOn
    generalizing c with
  | ind measure ih =>
    obtain ⟨d, hdecode, hfaithful, hlimit, hbuffer⟩ := h.faithful.decode_eq
    cases hfront : Decoder.readFront c.decoder.limit c.decoder.buffer with
    | error fault =>
      rw [hfront] at hdecode
      exact .inl ⟨_, _, receive_of_fault hdecode, rfl⟩
    | ok found =>
      cases found with
      | some cut =>
        obtain ⟨frame, rest⟩ := cut
        rw [hfront] at hdecode hbuffer
        change d.buffer = rest at hbuffer
        have hadvance := Decoder.advance_of_readFront hfront
        rw [h.limit_eq] at hadvance
        obtain ⟨rfl, hcut, hread⟩ := h.front hnext hadvance
        exact .inr ⟨_, receive_of_frame hdecode, h.took hfaithful hlimit hbuffer hcut hread, rfl⟩
      | none =>
        -- what is read makes the buffer longer, and its limit bounds how often
        rw [hfront] at hdecode hbuffer
        change d.buffer = c.decoder.buffer at hbuffer
        cases hread : ByteStream.read c.readTimeout readSize c.stream with
        | error fault stream =>
          exact .inl ⟨_, _, receive_of_read_fault hdecode hread, losesPlace_toError _ _⟩
        | ok bytes stream =>
          cases bytes with
          | nil => exact .inl ⟨_, _, receive_of_end hdecode hread, rfl⟩
          | cons first more =>
            have hstep := h.read hfaithful hlimit hbuffer (List.cons_ne_nil first more) hread
            have hroom := (Decoder.keeps_of_decode_none hdecode).2.2
            rw [receive_of_read hdecode hread]
            exact ih _ (by
              rw [← hmeasure]
              simp only [Decoder.append, hlimit, hbuffer, List.length_append, List.length_cons]
              omega) hstep rfl

/-- **Frames that are received are the next replies**, in order. -/
theorem receiveMany {waiting : List (List Bytes)} (h : InStep peer (done ++ waiting) done c) :
    (∃ error c', Channel.receiveMany waiting.length c = .error error c' ∧
        losesPlace error = true) ∨
      ∃ c', Channel.receiveMany waiting.length c = .ok (answers peer.answer done waiting) c' ∧
        InStep peer (done ++ waiting) (done ++ waiting) c' ∧ c'.encoder = c.encoder := by
  induction waiting generalizing done c with
  | nil =>
    rw [List.append_nil] at h ⊢
    exact .inr ⟨c, rfl, h, rfl⟩
  | cons words rest ih =>
    have happend : done ++ words :: rest = (done ++ [words]) ++ rest := by simp
    rw [happend] at h ⊢
    simp only [List.length_cons, Channel.receiveMany, Step.bind_apply, Step.pure_apply, answers]
    rcases h.receive (List.prefix_append _ _) with ⟨error, c', hfail, hloses⟩ | ⟨c', hok, h', he⟩
    · exact .inl ⟨error, c', by rw [hfail], hloses⟩
    · rw [hok]
      dsimp only
      rcases ih h' with ⟨error, c₂, hfail, hloses⟩ | ⟨c₂, hok₂, h₂, he₂⟩
      · exact .inl ⟨error, c₂, by rw [hfail], hloses⟩
      · exact .inr ⟨c₂, by rw [hok₂], h₂, he₂.trans he⟩

/-! ## Writing -/

/-- **What waits is sent.** Unless writing fails, the server has heard the
commands that were waiting behind those it had heard before. -/
theorem flush {waiting : List (List Bytes)} (h : InStep peer sent done c)
    (hwaiting : c.encoder.waiting = waiting.flatMap Frame.encodeWords) :
    (∃ error c', Channel.flush c = .error error c' ∧ losesPlace error = true) ∨
      ∃ c', Channel.flush c = .ok () c' ∧ InStep peer (sent ++ waiting) done c' ∧
        c'.encoder.waiting = [] := by
  rw [flush_apply]
  split
  · rename_i hempty
    have hnone : waiting.flatMap Frame.encodeWords = [] := by
      rw [← hwaiting]
      exact List.isEmpty_iff.1 hempty
    refine .inr ⟨_, rfl, ?_, rfl⟩
    refine ⟨h.faithful, h.limit_eq, ?_, h.told_eq, h.due, h.readable⟩
    rw [List.flatMap_append, hnone, List.append_nil]
    exact h.heard_eq
  · cases hwrite : ByteStream.writeAll c.writeTimeout c.encoder.waiting c.stream with
    | error fault stream => exact .inl ⟨_, _, rfl, losesPlace_toError _ _⟩
    | ok _ stream =>
      obtain ⟨hheard, htold⟩ := peer.writeAll_ok _ _ hwrite
      dsimp only
      cases hflush : ByteStream.flush c.writeTimeout stream with
      | error fault stream' => exact .inl ⟨_, _, rfl, losesPlace_toError _ _⟩
      | ok _ stream' =>
        obtain ⟨hheard', htold'⟩ := peer.flush_ok hflush
        refine .inr ⟨_, rfl, ?_, rfl⟩
        obtain ⟨commands, noise, hcommands, hnoise, htold₀⟩ := h.due
        refine ⟨h.faithful, h.limit_eq, ?_, ?_, ?_, h.readable⟩
        · rw [hheard', hheard, h.heard_eq, hwaiting, List.flatMap_append]
        · rw [htold', htold]
          exact h.told_eq
        · refine ⟨commands, noise, ?_, hnoise, ?_⟩
          · rw [hheard', hheard]
            exact hcommands.trans (List.prefix_append _ _)
          · rw [htold', htold]
            exact htold₀

/-- **What waits is exchanged for its replies**, in order. -/
theorem collect {waiting : List (List Bytes)} (h : InStep peer sent sent c)
    (hwaiting : c.encoder.waiting = waiting.flatMap Frame.encodeWords) :
    (∃ error c', Channel.collect waiting.length c = .error error c' ∧ losesPlace error = true) ∨
      ∃ c', Channel.collect waiting.length c = .ok (answers peer.answer sent waiting) c' ∧
        InStep peer (sent ++ waiting) (sent ++ waiting) c' ∧ c'.encoder.waiting = [] := by
  simp only [Channel.collect, Step.bind_apply]
  rcases h.flush hwaiting with ⟨error, c₁, hfail, hloses⟩ | ⟨c₁, hok, h₁, he₁⟩
  · exact .inl ⟨error, c₁, by rw [hfail], hloses⟩
  · rw [hok]
    dsimp only
    rcases h₁.receiveMany with ⟨error, c₂, hfail, hloses⟩ | ⟨c₂, hok₂, h₂, he₂⟩
    · exact .inl ⟨error, c₂, hfail, hloses⟩
    · exact .inr ⟨c₂, hok₂, h₂, by rw [he₂, he₁]⟩

/-- **A command is exchanged for its reply.** -/
theorem exchange (h : InStep peer sent sent c) (hwaiting : c.encoder.waiting = [])
    (words : List Bytes) :
    (∃ error c', Channel.exchange words c = .error error c' ∧ losesPlace error = true) ∨
      ∃ c', Channel.exchange words c = .ok (peer.answer (sent ++ [words])) c' ∧
        InStep peer (sent ++ [words]) (sent ++ [words]) c' ∧ c'.encoder.waiting = [] := by
  have hbuffered : (buffer words : Step (Channel S) Unit) c =
      .ok () { c with encoder := c.encoder.addWords words } := rfl
  have hone : (c.encoder.addWords words).waiting = [words].flatMap Frame.encodeWords := by
    simp [Encoder.addWords, hwaiting]
  simp only [Channel.exchange, send, Step.bind_apply, hbuffered]
  have h' : InStep peer sent sent { c with encoder := c.encoder.addWords words } := h.congr rfl rfl
  rcases h'.flush hone with ⟨error, c₁, hfail, hloses⟩ | ⟨c₁, hok, h₁, he₁⟩
  · exact .inl ⟨error, c₁, by rw [hfail], hloses⟩
  · rw [hok]
    dsimp only
    rcases h₁.receive (List.prefix_refl _) with ⟨error, c₂, hfail, hloses⟩ | ⟨c₂, hok₂, h₂, he₂⟩
    · exact .inl ⟨error, c₂, hfail, hloses⟩
    · exact .inr ⟨c₂, hok₂, h₂, by rw [he₂, he₁]⟩

end InStep

end Channel

end RedisClient
