import RedisClient.Proofs.Frame.RoundTrip

/-!
# Commands on the wire

A command is an array of bulk strings, and nothing in its words can be taken
for anything else: a decoder that is fed the wire forms of some commands, cut
anywhere and asked any number of times, gives each command back once, in order,
and keeps nothing (`Decoder.Faithful.run_words`). All that is asked of a command
is that a decoder can hold it; all that is asked of the run is that the decoder
is not asked while it holds more than its limit (`Decoder.AskedWithin`).
-/

namespace RedisClient

namespace Frame

/-- **A command that a decoder can hold**, given as its words. That it is
shorter than `2 ^ 63` holds of every byte string in memory. -/
structure Holdable (limit : Nat) (words : List Bytes) : Prop where
  /-- The limit could hold its words. -/
  count : words.length ≤ limit / elementSize
  /-- It holds its wire form. -/
  wire : (encodeWords words).length ≤ limit
  /-- The wire form is a byte string. -/
  size : (encodeWords words).length < 0x8000000000000000

/-- Such a command keeps to the limits of a decoder. -/
theorem Holdable.fits {limit : Nat} {words : List Bytes} (h : Holdable limit words) :
    (ofWords words).Fits limit maxDepth := by
  refine ⟨⟨?_, ?_⟩, ?_, ?_⟩
  · rw [List.length_map]
    exact h.count
  · refine arraysWithinAll_iff.2 fun item hitem => ?_
    obtain ⟨word, -, rfl⟩ := List.mem_map.1 hitem
    trivial
  · have hinside : depthAll (words.map bulk) ≤ 0 := by
      refine depthAll_le_iff.2 fun item hitem => ?_
      obtain ⟨word, -, rfl⟩ := List.mem_map.1 hitem
      exact Nat.le_refl 0
    rw [ofWords, depth]
    split
    · exact Nat.zero_le _
    · have hone : 1 ≤ maxDepth := by decide
      omega
  · refine lineSafeAll_iff.2 fun item hitem => ?_
    obtain ⟨word, -, rfl⟩ := List.mem_map.1 hitem
    trivial

end Frame

namespace Decoder

variable {limit : Nat} {words : List Bytes}

/-! ## One command at the front -/

/-- A command at the front is found there, whatever follows. -/
theorem readFront_words (h : Frame.Holdable limit words) {rest : Bytes}
    (hfit : (Frame.encodeWords words ++ rest).length ≤ limit) :
    readFront limit (Frame.encodeWords words ++ rest) = .ok (some (.ofWords words, rest)) := by
  have hfits := h.fits
  obtain ⟨-, hwire, hsize⟩ := h
  rw [← Frame.encode_ofWords] at hwire hsize hfit ⊢
  rw [readFront_eq_frame hfit]
  exact Descent.frame_encode hfits hwire hsize rest

/-- A part of a command is no frame yet. -/
theorem readFront_part (h : Frame.Holdable limit words) {part more : Bytes} (hmore : more ≠ [])
    (hcut : Frame.encodeWords words = part ++ more) : readFront limit part = .ok none := by
  have hwire := h.wire
  have hwhole : readFront limit (Frame.encodeWords words ++ []) = _ :=
    readFront_words h (by rw [List.append_nil]; exact hwire)
  rw [List.append_nil] at hwhole
  rw [hcut] at hwire hwhole
  -- what the part gives, the whole gives as well, with bytes behind it
  refine Classical.byContradiction fun hsome => hmore ?_
  rw [readFront_append hwire hsome] at hwhole
  rcases hfound : readFront limit part with fault | _ | ⟨found, rest⟩
  · simp [hfound, Except.map] at hwhole
  · exact absurd hfound hsome
  · simp only [hfound, Except.map, Option.map_some, Prod.map_apply, Except.ok.injEq,
      Option.some.injEq, Prod.mk.injEq, List.append_eq_nil_iff] at hwhole
    exact hwhole.2.2

/-- A part of the wire forms of some commands either is no frame yet, or opens
with the first of them. -/
theorem readFront_cases {commands : List (List Bytes)} {bytes more : Bytes}
    (hcommands : ∀ words ∈ commands, Frame.Holdable limit words)
    (hwire : bytes ++ more = commands.flatMap Frame.encodeWords) (hfit : bytes.length ≤ limit) :
    readFront limit bytes = .ok none ∨
      ∃ words others left, commands = words :: others ∧
        readFront limit bytes = .ok (some (.ofWords words, left)) ∧
        left ++ more = others.flatMap Frame.encodeWords := by
  cases commands with
  | nil =>
    obtain ⟨rfl, -⟩ := List.append_eq_nil_iff.1 hwire
    refine .inl ?_
    rw [readFront, if_neg (by simp), advance_nil]
  | cons words others =>
    have hwords := hcommands words List.mem_cons_self
    rw [List.flatMap_cons] at hwire
    rcases List.append_eq_append_iff.1 hwire with ⟨part, hcut, hmore⟩ | ⟨left, rfl, hleft⟩
    · by_cases hpart : part = []
      · -- the command ends where the bytes do
        rw [hpart, List.append_nil] at hcut
        refine .inr ⟨words, others, [], rfl, ?_, ?_⟩
        · have hfound : readFront limit (Frame.encodeWords words ++ []) = _ :=
            readFront_words hwords (by simpa [hcut] using hfit)
          rwa [List.append_nil, hcut] at hfound
        · rw [hmore, hpart]
          rfl
      · exact .inl (readFront_part hwords hpart hcut)
    · exact .inr ⟨words, others, left, rfl, readFront_words hwords hfit, hleft.symm⟩

/-! ## Runs within the limit -/

/-- The decoder is asked only while it holds no more than its limit, and holds
no more at the end. -/
def AskedWithin : List Call → Decoder → Prop
  | [], d => d.buffer.length ≤ d.limit
  | .append data :: rest, d => AskedWithin rest (d.append data)
  | .decode :: rest, d => d.buffer.length ≤ d.limit ∧ AskedWithin rest d.decode.2

/-- So it is if all bytes of the run fit under the limit. -/
theorem Faithful.askedWithin {d : Decoder} (h : d.Faithful) (calls : List Call)
    (hfit : (d.buffer ++ appended calls).length ≤ d.limit) : AskedWithin calls d := by
  induction calls generalizing d with
  | nil => simpa [appended, AskedWithin] using hfit
  | cons call rest ih =>
    cases call with
    | append data =>
      exact ih (h.append data) (by simpa [Decoder.append, appended] using hfit)
    | decode =>
      obtain ⟨d', hdecode, hfaithful, hlimit, hbuffer⟩ := h.decode_eq
      rw [appended, List.length_append] at hfit
      refine ⟨by omega, ?_⟩
      rw [hdecode]
      change AskedWithin rest d'
      -- answering takes bytes off the buffer, if anything
      have hshorter : d'.buffer.length ≤ d.buffer.length := by
        rw [hbuffer]
        rcases hfront : readFront d.limit d.buffer with fault | _ | ⟨frame, left⟩
        · exact Nat.le_refl _
        · exact Nat.le_refl _
        · exact Nat.le_of_lt (length_lt_of_readFront hfront)
      exact ih hfaithful (by rw [List.length_append, hlimit]; omega)

/-! ## Many commands -/

variable {commands : List (List Bytes)}

/-- A decoder with nothing in it answers that there is nothing. -/
theorem decode_of_empty {d : Decoder} (hempty : d.buffer = []) : d.decode = (.ok none, d) := by
  rw [decode, if_pos (by rw [hempty]; rfl)]

/-- **A decoder that holds commands** gives them all when it is drained, and
keeps nothing. -/
theorem Faithful.drain_words {d : Decoder} (h : d.Faithful)
    (hcommands : ∀ words ∈ commands, Frame.Holdable d.limit words)
    (hbuffer : d.buffer = commands.flatMap Frame.encodeWords) (hfit : d.buffer.length ≤ d.limit) :
    d.drain.1 = (commands.map .ofWords, .more) ∧ d.drain.2.buffer = [] := by
  induction commands generalizing d with
  | nil =>
    rw [drain_of_none (decode_of_empty hbuffer)]
    exact ⟨rfl, hbuffer⟩
  | cons words others ih =>
    obtain ⟨hwords, hothers⟩ := List.forall_mem_cons.1 hcommands
    rw [List.flatMap_cons] at hbuffer
    have hfront : readFront d.limit d.buffer =
        .ok (some (.ofWords words, others.flatMap Frame.encodeWords)) := by
      rw [hbuffer] at hfit ⊢
      exact readFront_words hwords hfit
    obtain ⟨d', hdecode, hfaithful, hlimit, hrest⟩ := h.decode_eq
    have hshorter := length_lt_of_readFront hfront
    rw [hfront] at hdecode hrest
    change d'.buffer = others.flatMap Frame.encodeWords at hrest
    obtain ⟨hframes, hnothing⟩ := ih hfaithful (by rw [hlimit]; exact hothers) hrest
      (by rw [hrest, hlimit]; omega)
    rw [drain_of_frame hdecode, hframes]
    exact ⟨rfl, hnothing⟩

/-- **Commands come through.** A decoder holds a part of the wire forms of some
commands and is fed the rest, in any pieces and asked any number of times
between them, though never with more than its limit. No answer is a fault; what
it has given, with what it gives when it is drained, is the commands in order,
each once; and it keeps nothing. -/
theorem Faithful.run_words {d : Decoder} (h : d.Faithful) (calls : List Call)
    (hcommands : ∀ words ∈ commands, Frame.Holdable d.limit words)
    (hwire : d.buffer ++ appended calls = commands.flatMap Frame.encodeWords)
    (hasked : AskedWithin calls d) :
    (∀ answer ∈ (Decoder.run calls d).1, ∃ found, answer = .ok found) ∧
      emitted (Decoder.run calls d).1 ++ (Decoder.run calls d).2.drain.1.1 =
        commands.map .ofWords ∧
      (Decoder.run calls d).2.drain.1.2 = .more ∧ (Decoder.run calls d).2.drain.2.buffer = [] := by
  induction calls generalizing d commands with
  | nil =>
    rw [appended, List.append_nil] at hwire
    obtain ⟨hframes, hnothing⟩ := h.drain_words hcommands hwire hasked
    have hdrain : (Decoder.run [] d).2.drain = d.drain := rfl
    rw [hdrain, hframes]
    exact ⟨fun answer hmem => absurd hmem List.not_mem_nil, rfl, rfl, hnothing⟩
  | cons call rest ih =>
    cases call with
    | append data =>
      have hlater : (d.append data).buffer ++ appended rest =
          commands.flatMap Frame.encodeWords := by
        rw [← hwire]
        exact List.append_assoc d.buffer data (appended rest)
      exact ih (h.append data) hcommands hlater hasked
    | decode =>
      obtain ⟨hfit, hasked⟩ := hasked
      obtain ⟨d', hdecode, hfaithful, hlimit, hbuffer⟩ := h.decode_eq
      rw [appended] at hwire
      rw [hdecode] at hasked
      have hcases := readFront_cases hcommands hwire hfit
      have hrun : Decoder.run (.decode :: rest) d =
          (d.decode.1 :: (Decoder.run rest d').1, (Decoder.run rest d').2) := by
        rw [Decoder.run, hdecode]
      rw [hrun, hdecode]
      rw [← hlimit] at hcommands
      rcases hcases with hnone | ⟨words, others, left, rfl, hfound, hleft⟩
      · rw [hnone] at hbuffer ⊢
        obtain ⟨hanswers, hframes, hend⟩ := ih hfaithful hcommands (by rw [hbuffer, hwire]) hasked
        exact ⟨List.forall_mem_cons.2 ⟨⟨none, rfl⟩, hanswers⟩, hframes, hend⟩
      · rw [hfound] at hbuffer ⊢
        obtain ⟨-, hothers⟩ := List.forall_mem_cons.1 hcommands
        obtain ⟨hanswers, hframes, hend⟩ := ih hfaithful hothers (by rw [hbuffer, hleft]) hasked
        refine ⟨List.forall_mem_cons.2 ⟨⟨some (.ofWords words), rfl⟩, hanswers⟩, ?_, hend⟩
        exact congrArg (Frame.ofWords words :: ·) hframes

end Decoder

end RedisClient
