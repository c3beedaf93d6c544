import RedisClient.Proofs.Frame.Resumption

/-!
# Decoding a stream

How a stream is cut and when the decoder is asked makes no difference to the
frames in it. A run of a decoder is any sequence of `append` and `decode`
(`Decoder.run`); what the bytes of the run hold is said without it, by
`Decoder.readAll`, which takes frames off the front as long as there are any. A
drained decoder gives exactly these (`Faithful.drain_eq_readAll`), each call
takes its frame off the same list (`readAll_append_of_frame`), and a fault that
has been met stands in front of everything that arrives later
(`Faithful.run_of_fault`).
-/

namespace RedisClient

namespace Decoder

/-! ## Runs -/

/-- What is done with a decoder. -/
inductive Call where
  /-- Bytes arrive. -/
  | append (data : Bytes)
  /-- It is asked for a frame. -/
  | decode
  deriving DecidableEq, Repr

/-- The bytes that arrive in a run. -/
def appended : List Call → Bytes
  | [] => []
  | .append data :: rest => data ++ appended rest
  | .decode :: rest => appended rest

/-- A run: what each `decode` answers, and the decoder at the end. -/
def run : List Call → Decoder → List (Except DecodeFault (Option Frame)) × Decoder
  | [], d => ([], d)
  | .append data :: rest, d => run rest (d.append data)
  | .decode :: rest, d =>
    let (outcomes, last) := run rest d.decode.2
    (d.decode.1 :: outcomes, last)

/-- The frames among the answers, up to the first fault. -/
def emitted : List (Except DecodeFault (Option Frame)) → List Frame
  | [] => []
  | .ok none :: rest => emitted rest
  | .ok (some frame) :: rest => frame :: emitted rest
  | .error _ :: _ => []

/-! ## All frames of a byte string -/

/-- The frames at the front of some bytes, one after the other, and what came
instead of one more. -/
def readAll (limit : Nat) (bytes : Bytes) : List Frame × Ending :=
  match _hfront : readFront limit bytes with
  | .ok (some (frame, rest)) =>
    let (frames, ending) := readAll limit rest
    (frame :: frames, ending)
  | .ok none => ([], .more)
  | .error fault => ([], .fault fault)
termination_by bytes.length
decreasing_by exact length_lt_of_readFront _hfront

section

variable {limit : Nat} {bytes rest : Bytes} {frame : Frame} {fault : DecodeFault}

/-- A frame at the front is the first of them. -/
theorem readAll_of_frame (h : readFront limit bytes = .ok (some (frame, rest))) :
    readAll limit bytes = (frame :: (readAll limit rest).1, (readAll limit rest).2) := by
  rw [readAll]
  split <;> simp_all

/-- Where more bytes are needed there are none. -/
theorem readAll_of_none (h : readFront limit bytes = .ok none) :
    readAll limit bytes = ([], .more) := by
  rw [readAll]
  split <;> simp_all

/-- A fault ends them. -/
theorem readAll_of_fault (h : readFront limit bytes = .error fault) :
    readAll limit bytes = ([], .fault fault) := by
  rw [readAll]
  split <;> simp_all

/-- A frame at the front is the first, whatever follows. -/
theorem readAll_append_of_frame {more : Bytes} (hfit : (bytes ++ more).length ≤ limit)
    (h : readFront limit bytes = .ok (some (frame, rest))) :
    readAll limit (bytes ++ more) =
      (frame :: (readAll limit (rest ++ more)).1, (readAll limit (rest ++ more)).2) := by
  apply readAll_of_frame
  rw [readFront_append hfit (by simp [h]), h]
  rfl

/-- A fault at the front ends them, whatever follows. -/
theorem readFront_append_of_fault {more : Bytes} (hfit : (bytes ++ more).length ≤ limit)
    (h : readFront limit bytes = .error fault) :
    readFront limit (bytes ++ more) = .error fault := by
  rw [readFront_append hfit (by simp [h]), h]
  rfl

end

/-- A drain that meets a frame goes on behind it. -/
theorem drain_of_frame {d d' : Decoder} {frame : Frame} (h : d.decode = (.ok (some frame), d')) :
    d.drain = ((frame :: d'.drain.1.1, d'.drain.1.2), d'.drain.2) := by
  rw [drain]
  split <;> simp_all

/-- One that meets none ends there. -/
theorem drain_of_none {d d' : Decoder} (h : d.decode = (.ok none, d')) :
    d.drain = (([], .more), d') := by
  rw [drain]
  split <;> simp_all

/-- So does one that meets a fault. -/
theorem drain_of_fault {d d' : Decoder} {fault : DecodeFault}
    (h : d.decode = (.error fault, d')) : d.drain = (([], .fault fault), d') := by
  rw [drain]
  split <;> simp_all

namespace Faithful

/-- **A drained decoder gives the frames of its buffer**, in order, and ends as
they do. -/
theorem drain_eq_readAll {d : Decoder} (h : d.Faithful) :
    d.drain.1 = readAll d.limit d.buffer := by
  obtain ⟨d', hdecode, hfaithful, hlimit, hbuffer⟩ := h.decode_eq
  cases hfront : readFront d.limit d.buffer with
  | error fault =>
    rw [hfront] at hdecode
    rw [drain_of_fault hdecode, readAll_of_fault hfront]
  | ok found =>
    cases found with
    | none =>
      rw [hfront] at hdecode
      rw [drain_of_none hdecode, readAll_of_none hfront]
    | some cut =>
      obtain ⟨frame, rest⟩ := cut
      rw [hfront] at hdecode hbuffer
      change d'.buffer = rest at hbuffer
      have hshorter := length_lt_of_readFront hfront
      have hrest : d'.drain.1 = readAll d.limit rest := by
        rw [← hlimit, ← hbuffer]
        exact drain_eq_readAll hfaithful
      rw [drain_of_frame hdecode, readAll_of_frame hfront, hrest]
termination_by d.buffer.length
decreasing_by
  rw [hbuffer]
  exact hshorter

/-- **A fault is not got rid of.** A run on a decoder whose buffer opens with
one keeps all bytes, whatever is appended below the limit and however often it
is asked. -/
theorem run_of_fault {d : Decoder} {fault : DecodeFault} (h : d.Faithful) (calls : List Call)
    (hfit : (d.buffer ++ appended calls).length ≤ d.limit)
    (hfront : readFront d.limit d.buffer = .error fault) :
    (run calls d).2.Faithful ∧ (run calls d).2.limit = d.limit ∧
      (run calls d).2.buffer = d.buffer ++ appended calls := by
  induction calls generalizing d with
  | nil => exact ⟨h, rfl, (List.append_nil _).symm⟩
  | cons call rest ih =>
    cases call with
    | append data =>
      have hdata : (d.buffer ++ data).length ≤ d.limit := by
        simp only [appended, List.length_append] at hfit ⊢
        omega
      have hfront' := readFront_append_of_fault hdata hfront
      obtain ⟨hfaithful, hlimit, hbuffer⟩ := ih (d := d.append data) (h.append data)
        (by simpa [Decoder.append, appended] using hfit) hfront'
      exact ⟨hfaithful, hlimit, hbuffer.trans (List.append_assoc _ _ _)⟩
    | decode =>
      -- a call that answers with a fault takes nothing off the buffer
      obtain ⟨d', hdecode, hfaithful, hlimit, hbuffer⟩ := h.decode_eq
      rw [hfront] at hbuffer
      change d'.buffer = d.buffer at hbuffer
      have hlast := ih (d := d') hfaithful (by rw [hbuffer, hlimit]; exact hfit)
        (by rw [hbuffer, hlimit]; exact hfront)
      rw [hlimit, hbuffer] at hlast
      simpa [run, appended, hdecode] using hlast

end Faithful

/-! ## Cutting a stream -/

/-- **What a run emits, and what a drain then gives, are the frames of all
bytes**: those that were in the buffer and those that arrived. -/
theorem Faithful.emitted_run {d : Decoder} (h : d.Faithful) (calls : List Call)
    (hfit : (d.buffer ++ appended calls).length ≤ d.limit) :
    (emitted (run calls d).1 ++ (run calls d).2.drain.1.1, (run calls d).2.drain.1.2) =
      readAll d.limit (d.buffer ++ appended calls) := by
  induction calls generalizing d with
  | nil => simp [run, emitted, appended, h.drain_eq_readAll]
  | cons call rest ih =>
    cases call with
    | append data =>
      have hlater := ih (d := d.append data) (h.append data)
        (by simpa [Decoder.append, appended] using hfit)
      simpa [run, appended, Decoder.append] using hlater
    | decode =>
      obtain ⟨d', hdecode, hfaithful, hlimit, hbuffer⟩ := h.decode_eq
      simp only [run, appended] at hfit ⊢
      rw [hdecode]
      cases hfront : readFront d.limit d.buffer with
      | error fault =>
        -- nothing is emitted from here on, and the drain at the end meets the same fault
        rw [hfront] at hbuffer
        change d'.buffer = d.buffer at hbuffer
        obtain ⟨hlast, hlimit', hbuffer'⟩ := hfaithful.run_of_fault rest
          (by rw [hbuffer, hlimit]; exact hfit) (by rw [hbuffer, hlimit]; exact hfront)
        have hfront' := readFront_append_of_fault hfit hfront
        rw [hlast.drain_eq_readAll, hlimit', hbuffer', hlimit, hbuffer,
          readAll_of_fault hfront']
        rfl
      | ok found =>
        cases found with
        | none =>
          rw [hfront] at hbuffer
          change d'.buffer = d.buffer at hbuffer
          have hlater := ih hfaithful (by rw [hbuffer, hlimit]; exact hfit)
          rw [hlimit, hbuffer] at hlater
          exact hlater
        | some cut =>
          -- the frame is the first of all, and the rest of the run goes on behind it
          obtain ⟨frame, left⟩ := cut
          rw [hfront] at hbuffer
          change d'.buffer = left at hbuffer
          have hshorter := length_lt_of_readFront hfront
          have hlater := ih hfaithful (by
            rw [hbuffer, hlimit]
            simp only [List.length_append] at hfit ⊢
            omega)
          rw [hlimit, hbuffer] at hlater
          rw [readAll_append_of_frame hfit hfront, ← hlater]
          rfl

/-- **The cut makes no difference.** A new decoder is fed some bytes in any
pieces, and asked any number of times between them. Up to its first fault it
emits a prefix of the frames that it gives when the bytes are appended at once
and it is drained; and if it is drained after the last piece, it has given the
same frames in the same order and ends the same way. -/
theorem run_drain_eq_append_drain (limit : Nat) (bytes : Bytes) (hfit : bytes.length ≤ limit)
    (calls : List Call) (hcut : appended calls = bytes) :
    let whole := (({ limit } : Decoder).append bytes).drain.1
    let pieces := run calls { limit }
    emitted pieces.1 <+: whole.1 ∧ emitted pieces.1 ++ pieces.2.drain.1.1 = whole.1 ∧
      pieces.2.drain.1.2 = whole.2 := by
  intro whole pieces
  have hwhole : whole = readAll limit bytes :=
    ((Faithful.fresh limit).append bytes).drain_eq_readAll
  have hpieces : (emitted pieces.1 ++ pieces.2.drain.1.1, pieces.2.drain.1.2) =
      readAll limit bytes := by
    rw [← hcut] at hfit ⊢
    exact (Faithful.fresh limit).emitted_run calls hfit
  obtain ⟨hframes, hending⟩ := Prod.ext_iff.1 (hpieces.trans hwhole.symm)
  exact ⟨⟨_, hframes⟩, hframes, hending⟩

/-- An array cut inside its header and inside its element, and a line that is
no frame behind it. -/
theorem run_drain_eq_append_drain_cut :
    let bytes : Bytes := [42, 49, 13, 10, 58, 55, 13, 10, 63, 13, 10]
    let calls : List Call :=
      [.append [42, 49, 13], .decode, .append [], .decode, .append [10, 58, 55], .decode,
        .append [13, 10, 63, 13], .decode, .decode, .append [10], .decode]
    let whole := (({ limit := 16 } : Decoder).append bytes).drain.1
    let pieces := run calls { limit := 16 }
    (bytes.length ≤ 16 ∧ appended calls = bytes) ∧
      emitted pieces.1 <+: whole.1 ∧ emitted pieces.1 ++ pieces.2.drain.1.1 = whole.1 ∧
        pieces.2.drain.1.2 = whole.2 :=
  ⟨by decide, run_drain_eq_append_drain 16 _ (by decide) _ (by decide)⟩

end Decoder

end RedisClient
