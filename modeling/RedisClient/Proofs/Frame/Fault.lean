import RedisClient.Proofs.Frame.Spelling

/-!
# Faults of a decoder

A decoder holds its limit against all the bytes that it holds, whether or not
they belong to the frame at the front. So a frame that comes back from its wire
form by itself is refused for the bytes that arrived with it, exactly if they
take the buffer over the limit, and is not refused if they arrive later
(`Decoder.decode_followed_iff`).

A fault is final (`Decoder.decode_fault_final`): the bytes that caused it stay at
the front of the buffer, and what they are refused for depends on nothing that
follows them, except that the limit is met first. What carries this through a
run is `Decoder.Refuses`.
-/

namespace RedisClient

/-! ## Wire forms of frames that were read -/

namespace Frame

variable {closing : Bytes → Prop}

mutual

/-- **A frame that has a spelling is spelled by its wire form.** Its lengths
have 64 bits, since the headers of the spelling hold them. -/
theorem spelled_encode_of_spelled (hclosing : closing lineEnd) : (frame : Frame) →
    {bytes : Bytes} → frame.Spelled LineEndSized bytes → frame.Spelled closing frame.encode
  | .simple text, _, _ => .simple text
  | .error text, _, _ => .error text
  | .integer n, _, _ => .integer (Marker.integer.isHeader_header n)
  | .nullBulk, _, _ => .nullBulk (by decide) (Marker.bulk.isHeader_header (-1))
  | .nullArray, _, _ => .nullArray (by decide) (Marker.array.isHeader_header (-1))
  | .bulk data, _, h => by
    cases h with
    | @bulk _ _ _ length hlength _ _ =>
      have hheader := Marker.bulk.isHeader_header length
      rw [hlength] at hheader
      exact .bulk hlength hheader hclosing
  | .array items, _, h => by
    cases h with
    | @array _ _ _ length hlength _ hitems =>
      have hheader := Marker.array.isHeader_header length
      rw [hlength] at hheader
      exact .array hlength hheader (spelledAll_encodeAll_of_spelledAll hclosing items hitems)
termination_by structural frame => frame

/-- So are the elements of an array. -/
theorem spelledAll_encodeAll_of_spelledAll (hclosing : closing lineEnd) :
    (items : List Frame) → {bytes : Bytes} → SpelledAll LineEndSized items bytes →
      SpelledAll closing items (encodeAll items)
  | [], _, _ => .nil
  | item :: rest, _, h => by
    cases h with
    | cons hitem hrest =>
      exact .cons (spelled_encode_of_spelled hclosing item hitem)
        (spelledAll_encodeAll_of_spelledAll hclosing rest hrest)
termination_by structural items => items

end

end Frame

namespace Decoder

variable {limit : Nat} {bytes : Bytes}

/-- Bytes over the limit are refused, whatever they are. -/
theorem readFront_of_long (h : limit < bytes.length) :
    readFront limit bytes = .error .bufferTooLarge := if_pos h

/-! ## What follows a frame -/

/-- A frame that a new decoder gives stands at the front of its bytes. -/
theorem readFront_of_decode {frame : Frame}
    (h : (({ limit } : Decoder).append bytes).decode.1 = .ok (some frame)) :
    ∃ rest, readFront limit bytes = .ok (some (frame, rest)) := by
  have hfaithful : (({ limit } : Decoder).append bytes).Faithful :=
    (Faithful.fresh limit).append bytes
  rw [hfaithful.decode_outcome] at h
  change (readFront limit bytes).map _ = _ at h
  rcases hfound : readFront limit bytes with fault | _ | ⟨found, rest⟩
  · simp [hfound, Except.map] at h
  · simp [hfound, Except.map] at h
  · obtain rfl : found = frame := by simpa [hfound, Except.map] using h
    exact ⟨rest, rfl⟩

/-- A frame at the front of its bytes is given, and what stands behind it is
kept. -/
theorem decode_of_frame {frame : Frame} {rest : Bytes}
    (h : readFront limit bytes = .ok (some (frame, rest))) :
    (({ limit } : Decoder).append bytes).decode.1 = .ok (some frame) ∧
      (({ limit } : Decoder).append bytes).decode.2.buffer = rest := by
  have hfaithful : (({ limit } : Decoder).append bytes).Faithful :=
    (Faithful.fresh limit).append bytes
  rw [hfaithful.decode_outcome, hfaithful.decode_buffer]
  change readFront (({ limit } : Decoder).append bytes).limit
    (({ limit } : Decoder).append bytes).buffer = _ at h
  rw [h]
  exact ⟨rfl, rfl⟩

/-- A fault in front is the answer, and all bytes are kept. -/
theorem decode_of_error {fault : DecodeFault} (h : readFront limit bytes = .error fault) :
    (({ limit } : Decoder).append bytes).decode.1 = .error fault ∧
      (({ limit } : Decoder).append bytes).decode.2.buffer = bytes := by
  have hfaithful : (({ limit } : Decoder).append bytes).Faithful :=
    (Faithful.fresh limit).append bytes
  rw [hfaithful.decode_outcome, hfaithful.decode_buffer]
  change readFront (({ limit } : Decoder).append bytes).limit
    (({ limit } : Decoder).append bytes).buffer = _ at h
  rw [h]
  exact ⟨rfl, rfl⟩

/-- **A frame that comes back from its wire form** is found in front of whatever
follows it, as long as the limit lets that through. -/
theorem readFront_encode_append {frame : Frame} {rest : Bytes}
    (hback : readFront limit frame.encode = .ok (some (frame, rest))) {following : Bytes}
    (hfit : (frame.encode ++ following).length ≤ limit) :
    readFront limit (frame.encode ++ following) = .ok (some (frame, following)) := by
  have hencode : frame.encode.length ≤ limit := length_le_of_readFront hback
  rw [readFront_eq_frame hencode] at hback
  -- the frame fits and has a spelling, so its wire form is one as well
  have hfits := Descent.fits_of_frame hback
  obtain ⟨front, -, hspelled⟩ := Descent.spelled_of_frame hback
  have hclosing : LineEndSized lineEnd := rfl
  have hwire := Frame.spelled_encode_of_spelled hclosing frame hspelled
  rw [readFront_eq_frame hfit]
  exact Descent.frame_of_spelled hfits hwire hencode following

/-- **The limit is held against all that has arrived.** A frame comes back from
its wire form on a new decoder. Given the wire form and more bytes at once, a new
decoder gives the frame and keeps exactly these bytes, if and only if all of them
together fit under the limit; otherwise it refuses them and keeps them all. Where
the bytes arrive after the frame has been given, it makes no difference how many
they are. -/
theorem decode_followed_iff (limit : Nat) {frame : Frame} (following : Bytes)
    (hback : (({ limit } : Decoder).append frame.encode).decode.1 = .ok (some frame)) :
    let wire := (({} : Encoder).addFrame frame).take.1
    let fed (bytes : Bytes) : Decoder := ({ limit } : Decoder).append bytes
    let d := fed (wire ++ following)
    (d.decode.1 = .ok (some frame) ∧ d.decode.2.buffer = following ↔
        wire.length + following.length ≤ limit) ∧
      (limit < wire.length + following.length →
        d.decode.1 = .error .bufferTooLarge ∧ d.decode.2.buffer = wire ++ following) ∧
      ((fed wire).decode.2.append following).buffer = following := by
  intro wire fed d
  have hlength : wire.length + following.length = (wire ++ following).length :=
    List.length_append.symm
  obtain ⟨rest, hfound⟩ := readFront_of_decode hback
  rw [hlength]
  refine ⟨⟨?_, ?_⟩, ?_, ?_⟩
  · rintro ⟨hframe, -⟩
    obtain ⟨left, hleft⟩ := readFront_of_decode hframe
    exact length_le_of_readFront hleft
  · intro hfit
    exact decode_of_frame (readFront_encode_append hfound hfit)
  · intro hlong
    exact decode_of_error (readFront_of_long hlong)
  · -- alone, the frame leaves nothing in the buffer
    have hfit : (frame.encode ++ []).length ≤ limit := by
      rw [List.append_nil]
      exact length_le_of_readFront hfound
    have halone := readFront_encode_append hfound hfit
    rw [List.append_nil] at halone
    have hempty : (fed wire).decode.2.buffer = [] := (decode_of_frame halone).2
    change (fed wire).decode.2.buffer ++ following = following
    rw [hempty]
    rfl

/-- A status line of five bytes under a limit of five, and another one behind it:
both arrive at once and are refused, or one after the other and are not. -/
theorem decode_followed_iff_two :
    let fed (bytes : Bytes) : Decoder := ({ limit := 5 } : Decoder).append bytes
    let wire := (Frame.simple [79, 75]).encode
    (wire = [43, 79, 75, 13, 10] ∧ (fed wire).decode.1 = .ok (some (.simple [79, 75]))) ∧
      (fed (wire ++ wire)).decode.1 = .error .bufferTooLarge ∧
      (fed (wire ++ wire)).decode.2.buffer = wire ++ wire ∧
      ((fed wire).decode.2.append wire).buffer = wire ∧
      ((fed wire).decode.2.append wire).decode.1 = .ok (some (.simple [79, 75])) := by
  intro fed wire
  have hline : ¬ lineEnd <:+: ([79, 75] : Bytes) := by decide
  have hfits : (Frame.simple [79, 75]).Fits 5 maxDepth := .of_whole hline (by simp)
  have hfront : readFront 5 wire = .ok (some (.simple [79, 75], [])) := by
    rw [readFront_eq_frame (by decide)]
    exact Descent.frame_of_spelled hfits (.simple [79, 75]) (by decide) []
  have hback := (decode_of_frame hfront).1
  obtain ⟨-, hlong, hapart⟩ := decode_followed_iff 5 wire hback
  obtain ⟨hrefused, hkept⟩ := hlong (by decide)
  have hfaithful : ((fed wire).decode.2.append wire).Faithful :=
    ((Faithful.fresh 5).append wire).decode.append wire
  have hlimit : ((fed wire).decode.2.append wire).limit = 5 := decode_limit (fed wire)
  have hbuffer : ((fed wire).decode.2.append wire).buffer = wire := hapart
  refine ⟨⟨rfl, hback⟩, hrefused, hkept, hbuffer, ?_⟩
  rw [hfaithful.decode_outcome, hlimit, hbuffer, hfront]
  rfl

/-! ## What follows a fault -/

/-- **A fault at the front stays there**, whatever follows; only the limit is
held against the bytes before it is met. -/
theorem readFront_append_of_error {fault : DecodeFault} (h : readFront limit bytes = .error fault)
    (more : Bytes) :
    readFront limit (bytes ++ more) =
      .error (if limit < (bytes ++ more).length then .bufferTooLarge else fault) := by
  by_cases hlong : limit < (bytes ++ more).length
  · rw [if_pos hlong]
    exact readFront_of_long hlong
  · rw [if_neg hlong]
    exact readFront_append_of_fault (Nat.not_lt.1 hlong) h

/-- **A decoder that refuses** for a fault: it stands at the front of the buffer,
unless that has grown over the limit. -/
structure Refuses (fault : DecodeFault) (d : Decoder) : Prop where
  /-- The decoder answers with the front of its buffer. -/
  faithful : d.Faithful
  /-- What stands there. -/
  front : readFront d.limit d.buffer =
    .error (if d.limit < d.buffer.length then .bufferTooLarge else fault)

namespace Refuses

variable {d : Decoder} {fault : DecodeFault}

/-- A faithful decoder that answers with a fault refuses for it from then on. -/
theorem of_decode (hfaithful : d.Faithful) (h : d.decode.1 = .error fault) : d.Refuses fault where
  faithful := hfaithful
  front := by
    rw [hfaithful.decode_outcome] at h
    have hfront : readFront d.limit d.buffer = .error fault := by
      rcases hfound : readFront d.limit d.buffer with other | _ | ⟨frame, rest⟩
      · simpa [hfound, Except.map] using h
      · simp [hfound, Except.map] at h
      · simp [hfound, Except.map] at h
    have hmore := readFront_append_of_error hfront []
    rwa [List.append_nil] at hmore

/-- Bytes that arrive make no difference. -/
theorem append (h : d.Refuses fault) (data : Bytes) : (d.append data).Refuses fault where
  faithful := h.faithful.append data
  front := by
    have hmore := readFront_append_of_error h.front data
    show readFront d.limit (d.buffer ++ data) =
      .error (if d.limit < (d.buffer ++ data).length then .bufferTooLarge else fault)
    rw [hmore]
    by_cases hlong : d.limit < (d.buffer ++ data).length
    · rw [if_pos hlong, if_pos hlong]
    · -- a buffer that fits now has fitted before
      have hbefore : ¬ d.limit < d.buffer.length := by
        rw [List.length_append] at hlong
        omega
      rw [if_neg hlong, if_neg hlong, if_neg hbefore]

/-- It answers with the fault, or that it holds too much, and keeps its bytes. -/
theorem decode_eq (h : d.Refuses fault) :
    d.decode.1 = .error (if d.limit < d.buffer.length then .bufferTooLarge else fault) ∧
      d.decode.2.buffer = d.buffer := by
  rw [h.faithful.decode_outcome, h.faithful.decode_buffer, h.front]
  exact ⟨rfl, rfl⟩

/-- Asking makes no difference. -/
theorem decode (h : d.Refuses fault) : d.decode.2.Refuses fault where
  faithful := h.faithful.decode
  front := by
    rw [decode_limit, h.decode_eq.2]
    exact h.front

/-- **Along a run** it goes on refusing: all bytes are kept, and every answer is
the fault, or that there are too many of them. -/
theorem run (h : d.Refuses fault) (calls : List Call) :
    (Decoder.run calls d).2.Refuses fault ∧
      (Decoder.run calls d).2.buffer = d.buffer ++ appended calls ∧
      ∀ answer ∈ (Decoder.run calls d).1,
        answer = .error fault ∨ answer = .error .bufferTooLarge := by
  induction calls generalizing d with
  | nil => exact ⟨h, (List.append_nil _).symm, by simp [Decoder.run]⟩
  | cons call rest ih =>
    cases call with
    | append data =>
      obtain ⟨hlast, hbuffer, hanswers⟩ := ih (h.append data)
      exact ⟨hlast, hbuffer.trans (List.append_assoc _ _ _), hanswers⟩
    | decode =>
      obtain ⟨hanswer, hkept⟩ := h.decode_eq
      obtain ⟨hlast, hbuffer, hanswers⟩ := ih h.decode
      rw [hkept] at hbuffer
      refine ⟨hlast, hbuffer, fun answer hmem => ?_⟩
      rcases List.mem_cons.1 hmem with rfl | hlater
      · rw [hanswer]
        by_cases hlong : d.limit < d.buffer.length
        · exact .inr (by rw [if_pos hlong])
        · exact .inl (by rw [if_neg hlong])
      · exact hanswers answer hlater

end Refuses

/-- **A fault is final.** A decoder has answered with a fault, after any calls of
`append` and `decode`. Then it has left its buffer as it was, and after any
further calls its buffer holds all of these bytes and those that have arrived
since. The next call is answered with the same fault, or with the one for too
many bytes if there are more than the limit allows, and leaves the buffer as it
is; and no call in between has been answered with anything else. -/
theorem decode_fault_final (limit : Nat) (calls later : List Call) (fault : DecodeFault)
    (h : (run calls { limit }).2.decode.1 = .error fault) :
    let d := (run calls { limit }).2
    let answers := (run later d.decode.2).1
    let last := (run later d.decode.2).2
    d.decode.2.buffer = d.buffer ∧ last.buffer = d.buffer ++ appended later ∧
      last.decode.1 =
        .error (if limit < last.buffer.length then .bufferTooLarge else fault) ∧
      last.decode.2.buffer = last.buffer ∧
      ∀ answer ∈ answers, answer = .error fault ∨ answer = .error .bufferTooLarge := by
  intro d answers last
  obtain ⟨hfaithful, hlimit⟩ := (Faithful.fresh limit).run calls
  have hrefuses : d.Refuses fault := .of_decode hfaithful h
  have hkept : d.decode.2.buffer = d.buffer := hrefuses.decode_eq.2
  obtain ⟨hlast, hbuffer, hanswers⟩ := hrefuses.decode.run later
  have hlimits : last.limit = limit := by
    have hrun := (hrefuses.decode.faithful.run later).2
    rw [decode_limit] at hrun
    exact hrun.trans hlimit
  obtain ⟨hanswer, hsame⟩ := hlast.decode_eq
  change last.decode.1 = .error (if last.limit < last.buffer.length then _ else _) at hanswer
  rw [hlimits] at hanswer
  rw [hkept] at hbuffer
  exact ⟨hkept, hbuffer, hanswer, hsame, hanswers⟩

/-- An array of two whose second element is no frame, met when the first has been
read. What would be a frame by itself arrives behind it, and then more bytes than
the limit allows. -/
theorem decode_fault_final_element :
    let calls : List Call :=
      [.append [42, 50, 13, 10, 58, 55, 13, 10, 63], .decode, .append [13, 10]]
    let later : List Call := [.append [43, 79, 75, 13, 10], .decode, .append (.replicate 17 43)]
    let d := (run calls { limit := 32 }).2
    let last := (run later d.decode.2).2
    (d.stack.length = 1 ∧ d.decode.1 = .error (.unknownMarker 63)) ∧
      last.buffer = d.buffer ++ [43, 79, 75, 13, 10] ++ .replicate 17 43 ∧
      last.decode.1 = .error .bufferTooLarge ∧
      (run later d.decode.2).1 = [.error (.unknownMarker 63)] := by
  intro calls later d last
  have hfault : d.decode.1 = .error (.unknownMarker 63) := by
    have hseen : d.decode.1.map (fun _ => ()) = .error (.unknownMarker 63) := by decide +kernel
    cases hanswer : d.decode.1 with
    | error fault =>
      rw [hanswer] at hseen
      exact congrArg Except.error (Except.error.inj hseen)
    | ok frame =>
      rw [hanswer] at hseen
      cases hseen
  obtain ⟨-, hbuffer, hanswer, -, -⟩ := decode_fault_final 32 calls later _ hfault
  have hlong : 32 < last.buffer.length := by decide +kernel
  rw [if_pos hlong] at hanswer
  obtain ⟨-, -, hmiddle, -, -⟩ :=
    decode_fault_final 32 calls [.append [43, 79, 75, 13, 10]] _ hfault
  rw [if_neg (by decide +kernel)] at hmiddle
  refine ⟨⟨by decide +kernel, hfault⟩, ?_, hanswer, congrArg (List.cons · []) hmiddle⟩
  rw [List.append_assoc]
  exact hbuffer

end Decoder

end RedisClient
