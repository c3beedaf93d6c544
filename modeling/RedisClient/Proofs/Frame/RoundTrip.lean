import RedisClient.Proofs.Frame.Spelling

/-!
# The round trip

Which frames come back from their wire form, and from nothing less. What is
found in any bytes keeps to the limits of a decoder (`Descent.fits_of_frame`);
a frame that does, and whose wire form is not too long, is found in it, since
the wire form is one of its spellings (`Descent.frame_encode`). So the round
trip has exactly this domain (`Decoder.decode_encode_iff`).
-/

namespace RedisClient

/-- **A frame that fits is found in its wire form**, whatever follows. -/
theorem Descent.frame_encode {limit room : Nat} {found : Frame} (hfits : found.Fits limit room)
    (hlimit : found.encode.length ≤ limit) (hsize : found.encode.length < 0x8000000000000000)
    (rest : Bytes) : frame limit room (found.encode ++ rest) = .ok (some (found, rest)) := by
  have hclosing : LineEndSized lineEnd := rfl
  exact frame_of_spelled hfits (Frame.spelled_encode hclosing found hsize) hlimit rest

/-! ## The domain of the round trip -/

namespace Decoder

/-- **The round trip and its domain.** A frame is encoded, and its wire form is
appended to a new decoder. The decoder gives the frame back and keeps nothing,
exactly if the wire form is not longer than its limit, no array anywhere in the
frame has more elements than the limit can hold, arrays with elements are not
nested deeper than `maxDepth`, and no status or error line holds a line end.
For such a frame it asks for more bytes as long as it has been given only a
part of the wire form. That the wire form is shorter than `2 ^ 63` holds of
every byte string in memory. -/
theorem decode_encode_iff (limit : Nat) {frame : Frame}
    (hsize : frame.encode.length < 0x8000000000000000) :
    let wire := (({} : Encoder).addFrame frame).take.1
    let fed (bytes : Bytes) : Decoder := ({ limit } : Decoder).append bytes
    let domain := wire.length ≤ limit ∧ frame.ArraysWithin (limit / elementSize) ∧
      frame.depth ≤ maxDepth ∧ frame.LineSafe
    ((fed wire).decode.1 = .ok (some frame) ∧ (fed wire).decode.2.buffer = [] ↔ domain) ∧
      (domain → ∀ part, part <+: wire → part ≠ wire → (fed part).decode.1 = .ok none) := by
  intro wire fed domain
  have hwire : wire = frame.encode := rfl
  have hfaithful : ∀ bytes, (fed bytes).Faithful := fun bytes =>
    (Faithful.fresh limit).append bytes
  have houtcome : ∀ bytes, (fed bytes).decode.1 =
      (readFront limit bytes).map (Option.map Prod.fst) := fun bytes =>
    (hfaithful bytes).decode_outcome
  -- a frame of the domain stands at the front of its wire form, and nothing behind it
  have hfront : domain → readFront limit wire = .ok (some (frame, [])) := by
    rintro ⟨hlimit, harrays, hdepth, hlines⟩
    rw [readFront_eq_frame hlimit, hwire, ← List.append_nil frame.encode]
    exact Descent.frame_encode ⟨harrays, hdepth, hlines⟩ hlimit hsize []
  refine ⟨⟨?_, ?_⟩, ?_⟩
  · rintro ⟨hframe, -⟩
    rw [houtcome] at hframe
    rcases hfound : readFront limit wire with fault | _ | ⟨found, rest⟩
    · simp [hfound, Except.map] at hframe
    · simp [hfound, Except.map] at hframe
    · obtain rfl : found = frame := by simpa [hfound, Except.map] using hframe
      have hlimit : wire.length ≤ limit := by
        refine Nat.not_lt.1 fun hlong => ?_
        rw [readFront, if_pos hlong] at hfound
        cases hfound
      rw [readFront_eq_frame hlimit] at hfound
      obtain ⟨harrays, hdepth, hlines⟩ := Descent.fits_of_frame hfound
      exact ⟨hlimit, harrays, hdepth, hlines⟩
  · intro hdomain
    have hfound : readFront (fed wire).limit (fed wire).buffer = .ok (some (frame, [])) :=
      hfront hdomain
    rw [(hfaithful wire).decode_outcome, (hfaithful wire).decode_buffer, hfound]
    exact ⟨rfl, rfl⟩
  · rintro hdomain part ⟨more, hmore⟩ hpart
    have hwhole := hfront hdomain
    rw [← hmore] at hwhole
    have hnone : readFront limit part = .ok none := by
      -- what a part of the wire form gives, the whole gives as well, with bytes behind it
      refine Classical.byContradiction fun hsome => ?_
      have hfit : (part ++ more).length ≤ limit := hmore ▸ hdomain.1
      rw [readFront_append hfit hsome] at hwhole
      rcases hfound : readFront limit part with fault | _ | ⟨found, rest⟩
      · simp [hfound, Except.map] at hwhole
      · exact hsome hfound
      · simp only [hfound, Except.map, Option.map_some, Prod.map_apply, Except.ok.injEq,
          Option.some.injEq, Prod.mk.injEq, List.append_eq_nil_iff] at hwhole
        rw [hwhole.2.2, List.append_nil] at hmore
        exact hpart hmore
    rw [houtcome, hnone]
    rfl

/-- An array of five, whose elements are a bulk string that holds a line end,
an array without elements, a line with a lone carriage return, a null and the
lowest number: a limit of 80 bytes lets it through, and one of 79 does not. -/
theorem decode_encode_iff_five :
    let frame : Frame :=
      .array [.bulk [97, 13, 10], .array [], .simple [79, 13, 75], .nullBulk,
        .integer (-9223372036854775808)]
    let fed (limit : Nat) (bytes : Bytes) : Decoder := ({ limit } : Decoder).append bytes
    frame.encode.length < 0x8000000000000000 ∧
      (fed 80 frame.encode).decode.1 = .ok (some frame) ∧
      (fed 80 frame.encode).decode.2.buffer = [] ∧
      (fed 80 (frame.encode.take 20)).decode.1 = .ok none ∧
      ¬ ((fed 79 frame.encode).decode.1 = .ok (some frame) ∧
        (fed 79 frame.encode).decode.2.buffer = []) := by
  intro frame fed
  have hlength : frame.encode.length = 51 := by decide +kernel
  have hsize : frame.encode.length < 0x8000000000000000 := by omega
  have hcount : ∀ count, frame.ArraysWithin count ↔ 5 ≤ count := by
    intro count
    simp [frame, Frame.ArraysWithin, Frame.ArraysWithinAll]
  have hlines : frame.LineSafe := by
    have hline : ¬ lineEnd <:+: ([79, 13, 75] : Bytes) := by decide
    simp [frame, Frame.LineSafe, Frame.LineSafeAll, hline]
  obtain ⟨hiff, hpart⟩ := decode_encode_iff 80 hsize
  have hdomain : frame.encode.length ≤ 80 ∧ frame.ArraysWithin (80 / elementSize) ∧
      frame.depth ≤ maxDepth ∧ frame.LineSafe :=
    ⟨by omega, (hcount _).2 (by decide), by decide, hlines⟩
  obtain ⟨hframe, hrest⟩ := hiff.2 hdomain
  refine ⟨hsize, hframe, hrest, hpart hdomain _ (List.take_prefix _ _) ?_, ?_⟩
  · intro heq
    have hlen := congrArg List.length heq
    rw [List.length_take] at hlen
    change min 20 frame.encode.length = frame.encode.length at hlen
    omega
  · intro hback
    have hdomain := (decode_encode_iff 79 hsize).1.1 hback
    have hfive := (hcount _).1 hdomain.2.1
    exact absurd hfive (by decide)

end Decoder

end RedisClient
