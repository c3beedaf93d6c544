import RedisClient.Proofs.Frame.Commands
import RedisClient.Proofs.Wire.InStep
import RedisClient.Stream.Scripted

/-!
# Submitting commands

Commands are handed to a channel to be collected, or to be sent with all that
has been collected, and the channel may be flushed in between. However that is
mixed, as long as no write fails what has been written and what is still to be
written are the wire forms of the commands in the order in which they were
handed over (`Channel.Carries`), and a decoder at the other end gives the same
commands back (`Channel.submissions_arrive`). What has been written is read off a
stream that records it (`Recording`).
-/

namespace RedisClient

/-! ## A stream that records -/

/-- A stream that records what has been written, and whether a write failed. -/
structure Recording (S : Type) where
  /-- The stream. -/
  stream : S
  /-- The bytes that it has taken, in order. -/
  written : Bytes := []
  /-- Whether it has failed to take any. -/
  failed : Bool := false

namespace Recording

variable {S α F : Type}

/-- Runs a step of the stream. -/
def onStream (step : EStateM F S α) : EStateM F (Recording S) α := fun r =>
  match step r.stream with
  | .ok a stream => .ok a { r with stream }
  | .error fault stream => .error fault { r with stream }

instance [ByteStream S] : ByteStream (Recording S) where
  read limit size := onStream (ByteStream.read limit size)
  write limit data := fun r =>
    match ByteStream.write limit data r.stream with
    | .ok count stream =>
      .ok count
        { stream, written := r.written ++ data.take count, failed := r.failed || count == 0 }
    | .error fault stream => .error fault { r with stream, failed := true }
  flush limit := onStream (ByteStream.flush limit)
  shutdown := onStream ByteStream.shutdown

variable [ByteStream S]

/-- Sending on what has been written leaves the record as it is. -/
theorem flush_cases (limit : Option Nat) (r : Recording S) :
    match (ByteStream.flush limit : EStateM StreamFault (Recording S) Unit) r with
    | .ok _ after => after.written = r.written ∧ after.failed = r.failed
    | .error _ after => after.written = r.written ∧ after.failed = r.failed := by
  have hflush : (ByteStream.flush limit : EStateM StreamFault (Recording S) Unit) r =
      onStream (ByteStream.flush limit) r := rfl
  rw [hflush, onStream]
  cases (ByteStream.flush limit : EStateM StreamFault S Unit) r.stream <;> exact ⟨rfl, rfl⟩

/-- **Writing all of some bytes** records them, or records that it failed. -/
theorem writeAll_cases (limit : Option Nat) (data : Bytes) (r : Recording S) :
    match ByteStream.writeAll limit data r with
    | .ok _ after => after.written = r.written ++ data ∧ after.failed = r.failed
    | .error _ after => after.failed = true := by
  induction hlength : data.length using Nat.strongRecOn generalizing data r with
  | ind length ih =>
    cases data with
    | nil =>
      rw [ByteStream.writeAll]
      exact ⟨(List.append_nil _).symm, rfl⟩
    | cons first rest =>
      rw [ByteStream.writeAll]
      simp only [bind, EStateM.bind]
      have hwrite : ByteStream.write limit (first :: rest) r =
          match ByteStream.write limit (first :: rest) r.stream with
          | .ok count stream =>
            .ok count
              { stream
                written := r.written ++ (first :: rest).take count
                failed := r.failed || count == 0 }
          | .error fault stream => .error fault { r with stream, failed := true } := rfl
      rw [hwrite]
      cases ByteStream.write limit (first :: rest) r.stream with
      | error fault stream => rfl
      | ok count stream =>
        dsimp only
        by_cases hzero : count = 0
        · rw [dif_pos hzero]
          change (r.failed || count == 0) = true
          simp [hzero]
        · -- what this write has left over is written by the ones that follow
          rw [dif_neg hzero]
          have hrest := ih ((first :: rest).drop count).length (by
            rw [← hlength, List.length_drop, List.length_cons]
            omega) ((first :: rest).drop count)
            { stream
              written := r.written ++ (first :: rest).take count
              failed := r.failed || count == 0 } rfl
          cases hresult : ByteStream.writeAll limit ((first :: rest).drop count)
            ({ stream
               written := r.written ++ (first :: rest).take count
               failed := r.failed || count == 0 } : Recording S) with
          | ok _ after =>
            rw [hresult] at hrest
            obtain ⟨hwritten, hfailed⟩ := hrest
            refine ⟨?_, ?_⟩
            · rw [hwritten, List.append_assoc, List.take_append_drop]
            · rw [hfailed]
              simp [hzero]
          | error fault after =>
            rw [hresult] at hrest
            exact hrest

end Recording

/-! ## What a channel carries -/

namespace Channel

variable {S : Type}

/-- **These bytes are carried.** Unless a write has failed, they are what has
been written and what is still to be written. -/
def Carries (bytes : Bytes) (c : Channel (Recording S)) : Prop :=
  c.stream.failed = false → c.stream.written ++ c.encoder.waiting = bytes

/-- A command that is collected is carried behind the others. -/
theorem Carries.buffer {bytes : Bytes} {c : Channel (Recording S)} (h : Carries bytes c)
    (words : List Bytes) :
    Carries (bytes ++ Frame.encodeWords words) (Step.left (buffer words) c) := by
  intro hworks
  have hbytes := h hworks
  change c.stream.written ++ (c.encoder.waiting ++ Frame.encodeWords words) = _
  rw [← List.append_assoc, hbytes]

variable [ByteStream S]

/-- **Flushing** moves bytes from those that wait to those that are written. -/
theorem Carries.flush {bytes : Bytes} {c : Channel (Recording S)} (h : Carries bytes c) :
    Carries bytes (Step.left flush c) := by
  have hflush := flush_apply c
  by_cases hempty : c.encoder.waiting.isEmpty = true
  · rw [if_pos hempty] at hflush
    rw [Step.left_of_ok hflush]
    intro hworks
    have hbytes := h hworks
    rw [List.isEmpty_iff.1 hempty] at hbytes
    exact hbytes
  · rw [if_neg hempty] at hflush
    have hwrite := Recording.writeAll_cases c.writeTimeout c.encoder.waiting c.stream
    cases hresult : ByteStream.writeAll c.writeTimeout c.encoder.waiting c.stream with
    | error fault stream =>
      rw [hresult] at hflush hwrite
      rw [Step.left_of_error hflush]
      intro hworks
      exact absurd (hwrite.symm.trans hworks) Bool.noConfusion
    | ok _ stream =>
      rw [hresult] at hflush hwrite
      obtain ⟨hwritten, hfailed⟩ := hwrite
      have hsent := Recording.flush_cases c.writeTimeout stream
      have hall : ∀ after : Recording S,
          after.written = stream.written ∧ after.failed = stream.failed →
            Carries bytes { c with stream := after, encoder := {} } := by
        rintro after ⟨hsame, hstill⟩ hworks
        have hbytes := h (by rw [← hfailed, ← hstill]; exact hworks)
        change after.written ++ [] = bytes
        rw [List.append_nil, hsame, hwritten, hbytes]
      dsimp only at hflush
      cases hlast : (ByteStream.flush c.writeTimeout : EStateM StreamFault (Recording S) Unit)
        stream with
      | ok _ after =>
        rw [hlast] at hflush hsent
        rw [Step.left_of_ok hflush]
        exact hall after hsent
      | error fault after =>
        rw [hlast] at hflush hsent
        rw [Step.left_of_error hflush]
        exact hall after hsent

/-- Sending a command is to collect it and to flush. -/
theorem left_send (words : List Bytes) (c : Channel S) :
    Step.left (send words) c = Step.left flush (Step.left (buffer words) c) := by
  have hbuffer : buffer words c = .ok () (Step.left (buffer words) c) := rfl
  simp only [send, Step.left, Step.outcome, Step.bind_apply] at hbuffer ⊢
  rw [hbuffer]

end Channel

/-! ## Submissions -/

/-- A way of handing commands, given as their words, to a channel. -/
inductive Submission where
  /-- A command is collected. -/
  | buffer (words : List Bytes)
  /-- A command is sent behind what has been collected. -/
  | send (words : List Bytes)
  /-- What has been collected is sent. -/
  | flush
  deriving DecidableEq, Repr

namespace Submission

/-- The command that is handed over, if one is. -/
def command? : Submission → Option (List Bytes)
  | buffer words | send words => some words
  | flush => none

variable {S : Type} [ByteStream S]

/-- What the channel does. -/
def perform : Submission → Step (Channel S) Unit
  | buffer words => Channel.buffer words
  | send words => Channel.send words
  | flush => Channel.flush

/-- The channel after some submissions, whatever comes of each. -/
def performAll : List Submission → Channel S → Channel S
  | [], c => c
  | first :: rest, c => performAll rest (Step.left first.perform c)

/-- **One submission** carries its command behind the others. -/
theorem carries_perform (submission : Submission) {bytes : Bytes} {c : Channel (Recording S)}
    (h : c.Carries bytes) :
    (Step.left submission.perform c).Carries
      (bytes ++ submission.command?.toList.flatMap Frame.encodeWords) := by
  cases submission with
  | buffer words => simpa [command?, perform] using h.buffer words
  | send words =>
    have hsend := (h.buffer words).flush
    rw [← Channel.left_send] at hsend
    simpa [command?, perform] using hsend
  | flush => simpa [command?, perform] using h.flush

/-- **Any submissions** carry their commands, in order and each once. -/
theorem carries_performAll (submissions : List Submission) {bytes : Bytes}
    {c : Channel (Recording S)} (h : c.Carries bytes) :
    (performAll submissions c).Carries
      (bytes ++ (submissions.filterMap command?).flatMap Frame.encodeWords) := by
  induction submissions generalizing bytes c with
  | nil => simpa [performAll] using h
  | cons first rest ih =>
    have hrest := ih (first.carries_perform h)
    have hcommands : (first :: rest).filterMap command? =
        first.command?.toList ++ rest.filterMap command? := by
      cases hfirst : first.command? <;> simp [hfirst]
    rw [hcommands, List.flatMap_append, ← List.append_assoc]
    exact hrest

end Submission

namespace Channel

/-- **Commands survive the wire.** Commands are submitted to a new channel in any
mix, over any stream that never fails to take bytes. What has been written and
what waits in the encoder are the wire forms of the commands in the order of
their submission, each once, and such a wire form is also that of the command's
frame. If no command has more than `2 ^ 25` words and all of it is no longer than
512 MiB, a new decoder that is fed these bytes, in any pieces and asked any
number of times between them, meets no fault, gives every command once and in
order, as the array of its words, and keeps nothing. -/
theorem submissions_arrive {S : Type} [ByteStream S] (stream : S)
    (readTimeout writeTimeout : Option Nat) (submissions : List Submission) :
    let new : Channel (Recording S) := { stream := { stream }, readTimeout, writeTimeout }
    let c := Submission.performAll submissions new
    let commands := submissions.filterMap Submission.command?
    let wire := c.stream.written ++ c.encoder.waiting
    c.stream.failed = false →
      wire = commands.flatMap Frame.encodeWords ∧
      (∀ (encoder : Encoder) (command : Command),
        encoder.addWords command.words = encoder.addFrame command.toFrame) ∧
      ((∀ words ∈ commands, words.length ≤ 32 * 1024 * 1024) → wire.length ≤ 512 * 1024 * 1024 →
        ∀ calls, Decoder.appended calls = wire →
          let answers := (Decoder.run calls {}).1
          let last := (Decoder.run calls {}).2.drain
          (∀ answer ∈ answers, ∃ found, answer = .ok found) ∧
            Decoder.emitted answers ++ last.1.1 = commands.map Frame.ofWords ∧
            last.1.2 = .more ∧ last.2.buffer = []) := by
  intro new c commands wire hworks
  have hnew : new.Carries [] := fun _ => rfl
  have hwire : wire = commands.flatMap Frame.encodeWords :=
    Submission.carries_performAll submissions hnew hworks
  refine ⟨hwire, fun encoder command => ?_, fun hcounts hsize calls hcalls => ?_⟩
  · rw [Encoder.addWords, Encoder.addFrame, Command.toFrame, Frame.encode_ofWords]
  · have hfresh := Decoder.Faithful.fresh defaultLimit
    have hfit : (([] : Bytes) ++ Decoder.appended calls).length ≤ defaultLimit := by
      rw [List.nil_append, hcalls]
      exact hsize
    have hcommands : ∀ words ∈ commands, Frame.Holdable defaultLimit words := by
      intro words hmem
      have hlength : (Frame.encodeWords words).length ≤ wire.length := by
        obtain ⟨before, after, hsplit⟩ := List.append_of_mem hmem
        rw [hwire, hsplit, List.flatMap_append, List.flatMap_cons]
        simp only [List.length_append]
        omega
      have hlimit : defaultLimit = 512 * 1024 * 1024 := rfl
      have hcount : defaultLimit / elementSize = 32 * 1024 * 1024 := rfl
      exact ⟨by rw [hcount]; exact hcounts words hmem, by omega, by omega⟩
    exact hfresh.run_words calls hcommands (by rw [← hwire, ← hcalls]; rfl)
      (hfresh.askedWithin calls hfit)

/-- Three commands, the first with a line end, a header and a zero byte in its
last word, over a stream that takes three bytes at first; the third still waits. -/
theorem submissions_arrive_cut :
    let first : List Bytes := [[83, 69, 84], [107], [13, 10, 36, 49, 13, 10, 0]]
    let submissions : List Submission := [.buffer first, .send [[80]], .flush, .buffer [[81], []]]
    let stream : ScriptedStream := { writes := [.ok (some 3)] }
    let c := Submission.performAll submissions
      ({ stream := { stream } } : Channel (Recording ScriptedStream))
    let wire := c.stream.written ++ c.encoder.waiting
    let calls : List Decoder.Call :=
      [.append (wire.take 9), .decode, .append (wire.drop 9), .decode]
    let answers := (Decoder.run calls {}).1
    let last := (Decoder.run calls {}).2.drain
    (c.stream.failed = false ∧ wire.length ≤ 512 * 1024 * 1024 ∧ Decoder.appended calls = wire) ∧
      wire = [first, [[80]], [[81], []]].flatMap Frame.encodeWords ∧
      c.encoder.waiting = Frame.encodeWords [[81], []] ∧
      Decoder.emitted answers ++ last.1.1 = [.ofWords first, .ofWords [[80]], .ofWords [[81], []]] ∧
      last.2.buffer = [] := by
  intro first submissions stream c wire calls answers last
  have hworks : c.stream.failed = false := by decide +kernel
  have hwaiting : c.encoder.waiting = Frame.encodeWords [[81], []] := by decide +kernel
  have hcalls : Decoder.appended calls = wire := by
    change wire.take 9 ++ (wire.drop 9 ++ []) = wire
    rw [List.append_nil, List.take_append_drop]
  obtain ⟨hwire, -, hdecoded⟩ := submissions_arrive stream none none submissions hworks
  have hlength : wire.length = 61 := by
    change wire = _ at hwire
    rw [hwire]
    decide +kernel
  have hfits : wire.length ≤ 512 * 1024 * 1024 := by omega
  obtain ⟨-, hcommands, -, hnothing⟩ := hdecoded (by decide) hfits calls hcalls
  exact ⟨⟨hworks, hfits, hcalls⟩, hwire, hwaiting, hcommands, hnothing⟩

end Channel

end RedisClient
