import RedisClient.Frame.Decoder

/-!
# Reading on

Bytes arrive in pieces, and a decoder goes on where it stopped. This file says
what that comes to. What a header line, a token and `Decoder.advance` have made
of some bytes is not unmade by the bytes that follow (`Bytes.splitLine_append`,
`Token.read_append`, `Decoder.advance_append`), so the progress a decoder keeps
is worth the bytes it was made from: `Decoder.Faithful`, which every call
preserves. A faithful decoder answers with what stands at the front of its
buffer (`Decoder.readFront`), whatever it had read of it before.
-/

namespace RedisClient

/-- What follows the first line is the end of the bytes. -/
theorem Bytes.suffix_of_splitLine {bytes line rest : Bytes}
    (h : splitLine bytes = some (line, rest)) : rest <:+ bytes :=
  ⟨line ++ lineEnd, (splitLine_eq_some h).symm⟩

/-- The first line is the same, whatever follows. -/
theorem Bytes.splitLine_append {bytes line rest : Bytes}
    (h : splitLine bytes = some (line, rest)) (more : Bytes) :
    splitLine (bytes ++ more) = some (line, rest ++ more) := by
  fun_induction splitLine bytes generalizing line rest with
  | case1 b c after hbc =>
    simp only [Option.some.injEq, Prod.mk.injEq] at h
    obtain ⟨rfl, rfl⟩ := h
    simp [splitLine, hbc]
  | case2 b c after hbc ih =>
    simp only [Option.map_eq_some_iff] at h
    obtain ⟨⟨l, r⟩, hlr, heq⟩ := h
    simp only [Prod.mk.injEq] at heq
    obtain ⟨rfl, rfl⟩ := heq
    have hcut := ih hlr
    simp only [List.cons_append] at hcut ⊢
    simp [splitLine, hbc, hcut]
  | case3 bytes hshort => simp at h

/-! ## Tokens -/

namespace Token

variable {limit : Nat} {marker : Marker} {body bytes rest : Bytes} {token : Token}

/-- What follows a bulk string is the end of the bytes. -/
theorem suffix_of_readBulk {length : Int64}
    (h : readBulk limit length bytes = .ok (some (token, rest))) : rest <:+ bytes := by
  unfold readBulk at h
  split at h
  · simp only [Except.ok.injEq, Option.some.injEq, Prod.mk.injEq] at h
    exact h.2 ▸ List.suffix_refl _
  · dsimp only at h
    split at h
    · simp at h
    · split at h
      · simp at h
      · simp only [Except.ok.injEq, Option.some.injEq, Prod.mk.injEq] at h
        exact h.2 ▸ List.drop_suffix _ _

/-- What follows a header's token is the end of the bytes. -/
theorem suffix_of_ofHeader (h : ofHeader limit marker body bytes = .ok (some (token, rest))) :
    rest <:+ bytes := by
  cases marker with
  | simple => simp_all [ofHeader]
  | error => simp_all [ofHeader]
  | integer =>
    cases hn : readNumber body <;> simp_all [ofHeader, bind, Except.bind, pure, Except.pure]
  | bulk =>
    cases hn : readNumber body with
    | error fault => simp [ofHeader, hn, bind, Except.bind] at h
    | ok n =>
      simp only [ofHeader, hn, bind, Except.bind] at h
      exact suffix_of_readBulk h
  | array =>
    cases hn : readNumber body with
    | error fault => simp [ofHeader, hn, bind, Except.bind] at h
    | ok n =>
      cases ha : readArray limit n <;>
        simp_all [ofHeader, bind, Except.bind, pure, Except.pure]

/-- What follows a token is the end of the bytes. -/
theorem suffix_of_read (h : read limit bytes = .ok (some (token, rest))) : rest <:+ bytes := by
  unfold read at h
  split at h
  · simp at h
  · simp at h
  · rename_i first body after hline
    split at h
    · simp at h
    · exact (suffix_of_ofHeader h).trans (Bytes.suffix_of_splitLine hline)

/-- A bulk string that is all there is the same, whatever follows. -/
theorem readBulk_append {length : Int64} (h : readBulk limit length bytes ≠ .ok none)
    (more : Bytes) :
    readBulk limit length (bytes ++ more) =
      (readBulk limit length bytes).map (Option.map (Prod.map id (· ++ more))) := by
  unfold readBulk at h ⊢
  split
  · rfl
  · rename_i hneg
    rw [if_neg hneg] at h
    dsimp only at h ⊢
    split
    · rfl
    · rename_i hlong
      rw [if_neg hlong] at h
      have hall : ¬ bytes.length < length.toInt.toNat + 2 := fun hshort => h (if_pos hshort)
      rw [if_neg (by rw [List.length_append]; omega), if_neg hall,
        List.take_append_of_le_length (by omega), List.drop_append_of_le_length (by omega)]
      rfl

/-- So is a header's token. -/
theorem ofHeader_append (h : ofHeader limit marker body bytes ≠ .ok none) (more : Bytes) :
    ofHeader limit marker body (bytes ++ more) =
      (ofHeader limit marker body bytes).map (Option.map (Prod.map id (· ++ more))) := by
  cases marker with
  | simple => rfl
  | error => rfl
  | integer =>
    cases hn : readNumber body <;>
      simp [ofHeader, hn, bind, Except.bind, Except.map, pure, Except.pure]
  | bulk =>
    cases hn : readNumber body with
    | error fault => simp [ofHeader, hn, bind, Except.bind, Except.map]
    | ok n =>
      simp only [ofHeader, hn, bind, Except.bind] at h ⊢
      exact readBulk_append h more
  | array =>
    cases hn : readNumber body with
    | error fault => simp [ofHeader, hn, bind, Except.bind, Except.map]
    | ok n =>
      cases ha : readArray limit n <;>
        simp [ofHeader, hn, ha, bind, Except.bind, Except.map, pure, Except.pure]

/-- **A token that has been read stays read.** Unless it waits for more bytes,
the outcome is the same whatever follows. -/
theorem read_append (h : read limit bytes ≠ .ok none) (more : Bytes) :
    read limit (bytes ++ more) =
      (read limit bytes).map (Option.map (Prod.map id (· ++ more))) := by
  unfold read at h ⊢
  cases hline : bytes.splitLine with
  | none => simp [hline] at h
  | some cut =>
    obtain ⟨line, rest⟩ := cut
    rw [Bytes.splitLine_append hline]
    cases line with
    | nil => rfl
    | cons first body =>
      cases hm : Marker.ofByte? first with
      | none => simp [hm, Except.map]
      | some marker =>
        simp only [hline, hm] at h ⊢
        exact ofHeader_append h more

end Token

/-! ## The run over tokens -/

namespace Decoder

/-- One turn of `advance`: what the next token does to the open arrays. -/
theorem advance_eq (limit : Nat) (stack : List PartialArray) (bytes : Bytes) :
    advance limit stack bytes =
      match Token.read limit bytes with
      | .error fault => .failed fault
      | .ok none => .waiting stack bytes
      | .ok (some (.arrayStart length, rest)) =>
        if maxDepth ≤ stack.length then .failed .tooDeep
        else advance limit (⟨length, []⟩ :: stack) rest
      | .ok (some (.value frame, rest)) =>
        match Filing.of frame stack with
        | .whole frame => .complete frame rest
        | .filed stack => advance limit stack rest := by
  rw [advance]
  split
  · simp [*]
  · simp [*]
  · simp [*]
  · rename_i frame rest hread
    cases hfiling : Filing.of frame stack <;> simp only [hread, hfiling]

/-- Of no bytes nothing is read. -/
theorem advance_nil (limit : Nat) (stack : List PartialArray) :
    advance limit stack [] = .waiting stack [] := by
  rw [advance_eq]
  rfl

/-- What the progress made of some bytes comes to when more of them follow. -/
def Progress.andThen (limit : Nat) (more : Bytes) : Progress → Progress
  | .waiting stack rest => advance limit stack (rest ++ more)
  | .complete frame rest => .complete frame (rest ++ more)
  | .failed fault => .failed fault

/-- **Reading in two parts.** Reading on after a part of the bytes comes to
what reading all of them comes to. -/
theorem advance_append (limit : Nat) (stack : List PartialArray) (bytes more : Bytes) :
    advance limit stack (bytes ++ more) = (advance limit stack bytes).andThen limit more := by
  -- a token that one part holds is in the whole as well; only a token that is cut is not
  have hread : ∀ {bytes outcome}, Token.read limit bytes = outcome → outcome ≠ .ok none →
      Token.read limit (bytes ++ more) = outcome.map (Option.map (Prod.map id (· ++ more))) :=
    fun h hne => h ▸ Token.read_append (h ▸ hne) more
  fun_induction advance limit stack bytes with
  | case1 stack bytes fault h =>
    rw [advance_eq, hread h (by simp)]
    rfl
  | case2 stack bytes h => rfl
  | case3 stack bytes length rest h hdeep =>
    rw [advance_eq, hread h (by simp)]
    simp [Except.map, hdeep, Progress.andThen]
  | case4 stack bytes length rest h hdeep ih =>
    rw [advance_eq, hread h (by simp)]
    simp [Except.map, hdeep, ih]
  | case5 stack bytes value rest h whole hfile =>
    rw [advance_eq, hread h (by simp)]
    simp [Except.map, hfile, Progress.andThen]
  | case6 stack bytes value rest h filed hfile ih =>
    rw [advance_eq, hread h (by simp)]
    simp [Except.map, hfile, ih]

/-- What is left when the bytes run out is their end. -/
theorem suffix_of_advance_waiting {limit : Nat} {stack open' : List PartialArray}
    {bytes rest : Bytes} (h : advance limit stack bytes = .waiting open' rest) :
    rest <:+ bytes := by
  fun_induction advance limit stack bytes with
  | case1 | case3 | case5 => simp at h
  | case2 stack bytes hread =>
    simp only [Progress.waiting.injEq] at h
    exact h.2 ▸ List.suffix_refl _
  | case4 stack bytes length after hread _ ih => exact (ih h).trans (Token.suffix_of_read hread)
  | case6 stack bytes value after hread filed _ ih =>
    exact (ih h).trans (Token.suffix_of_read hread)

/-- So is what follows a frame. -/
theorem suffix_of_advance_complete {limit : Nat} {stack : List PartialArray}
    {bytes rest : Bytes} {frame : Frame} (h : advance limit stack bytes = .complete frame rest) :
    rest <:+ bytes := by
  fun_induction advance limit stack bytes with
  | case1 | case2 | case3 => simp at h
  | case4 stack bytes length after hread _ ih => exact (ih h).trans (Token.suffix_of_read hread)
  | case5 stack bytes value after hread whole hfile =>
    simp only [Progress.complete.injEq] at h
    exact h.2 ▸ Token.suffix_of_read hread
  | case6 stack bytes value after hread filed _ ih =>
    exact (ih h).trans (Token.suffix_of_read hread)

/-! ## The front of the buffer -/

/-- What stands at the front of some bytes under a limit: a frame and what
follows it, nothing as long as more bytes are needed, or a fault. -/
def readFront (limit : Nat) (bytes : Bytes) : Except DecodeFault (Option (Frame × Bytes)) :=
  if limit < bytes.length then .error .bufferTooLarge
  else
    match advance limit [] bytes with
    | .waiting _ _ => .ok none
    | .complete frame rest => .ok (some (frame, rest))
    | .failed fault => .error fault

/-- A frame at the front is what reading from the front completes. -/
theorem advance_of_readFront {limit : Nat} {bytes rest : Bytes} {frame : Frame}
    (h : readFront limit bytes = .ok (some (frame, rest))) :
    advance limit [] bytes = .complete frame rest := by
  unfold readFront at h
  split at h
  · simp at h
  · split at h
    · simp at h
    · rename_i f r hadv
      simp only [Except.ok.injEq, Option.some.injEq, Prod.mk.injEq] at h
      rw [hadv, h.1, h.2]
    · simp at h

/-- Bytes with a frame at the front fit under the limit. -/
theorem length_le_of_readFront {limit : Nat} {bytes rest : Bytes} {frame : Frame}
    (h : readFront limit bytes = .ok (some (frame, rest))) : bytes.length ≤ limit := by
  refine Nat.not_lt.1 fun hlong => ?_
  rw [readFront, if_pos hlong] at h
  cases h

/-- Behind a frame there are fewer bytes. -/
theorem length_lt_of_readFront {limit : Nat} {bytes rest : Bytes} {frame : Frame}
    (h : readFront limit bytes = .ok (some (frame, rest))) : rest.length < bytes.length :=
  length_lt_of_advance (advance_of_readFront h)

/-- **A frame or a fault at the front stays there**, as long as what follows
fits under the limit. -/
theorem readFront_append {limit : Nat} {bytes more : Bytes}
    (hfit : (bytes ++ more).length ≤ limit) (h : readFront limit bytes ≠ .ok none) :
    readFront limit (bytes ++ more) =
      (readFront limit bytes).map (Option.map (Prod.map id (· ++ more))) := by
  have hbytes : ¬ limit < bytes.length := by rw [List.length_append] at hfit; omega
  unfold readFront at h ⊢
  rw [if_neg hbytes] at h
  rw [if_neg (by omega : ¬ limit < (bytes ++ more).length), if_neg hbytes, advance_append]
  cases hadv : advance limit [] bytes with
  | waiting stack rest => simp [hadv] at h
  | complete frame rest => rfl
  | failed fault => rfl

/-! ## Faithful decoders -/

/-- **Faithful progress.** Whatever arrives next, reading on from where the
decoder stopped comes to what reading its buffer from the front comes to. -/
structure Faithful (d : Decoder) : Prop where
  /-- The decoder stopped inside its buffer. -/
  position_le : d.position ≤ d.buffer.length
  /-- Reading on is reading from the front. -/
  reads_on : ∀ more, advance d.limit d.stack (d.buffer.drop d.position ++ more) =
    advance d.limit [] (d.buffer ++ more)

namespace Faithful

variable {d : Decoder}

/-- A decoder that has read nothing is faithful. -/
theorem of_unread (hposition : d.position = 0) (hstack : d.stack = []) : d.Faithful where
  position_le := by omega
  reads_on more := by rw [hposition, hstack, List.drop_zero]

/-- A new decoder is. -/
theorem fresh (limit : Nat) : ({ limit } : Decoder).Faithful := of_unread rfl rfl

/-- Bytes that arrive make no difference to what has been read. -/
theorem append (h : d.Faithful) (data : Bytes) : (d.append data).Faithful where
  position_le := by
    have := h.position_le
    simp only [Decoder.append, List.length_append]
    omega
  reads_on more := by
    have hmore := h.reads_on (data ++ more)
    simp only [Decoder.append]
    rw [List.drop_append_of_le_length h.position_le, List.append_assoc, List.append_assoc]
    exact hmore

/-- What a faithful decoder reads on to is what its buffer reads as. -/
theorem advance_drop (h : d.Faithful) :
    advance d.limit d.stack (d.buffer.drop d.position) = advance d.limit [] d.buffer := by
  simpa using h.reads_on []

/-- Progress made from the end of the buffer is as good as the buffer. -/
theorem of_waiting {stack : List PartialArray} {rest : Bytes} (h : d.Faithful)
    (hadv : advance d.limit d.stack (d.buffer.drop d.position) = .waiting stack rest) :
    ({ d with position := d.buffer.length - rest.length, stack } : Decoder).Faithful where
  position_le := by
    change d.buffer.length - rest.length ≤ d.buffer.length
    omega
  reads_on more := by
    obtain ⟨front, hfront⟩ := (suffix_of_advance_waiting hadv).trans (List.drop_suffix _ _)
    -- what is left is the end of the buffer, so the new position stands in front of it
    have hlen : d.buffer.length - rest.length = front.length := by
      rw [← hfront, List.length_append]
      omega
    have hrest : d.buffer.drop (d.buffer.length - rest.length) = rest := by
      rw [hlen, ← hfront, List.drop_left]
    calc advance d.limit stack (d.buffer.drop (d.buffer.length - rest.length) ++ more)
        = advance d.limit stack (rest ++ more) := by rw [hrest]
      _ = advance d.limit d.stack (d.buffer.drop d.position ++ more) := by
          rw [advance_append d.limit d.stack, hadv, Progress.andThen]
      _ = advance d.limit [] (d.buffer ++ more) := h.reads_on more

/-- **Every call of `decode` leaves a faithful decoder.** -/
theorem decode (h : d.Faithful) : d.decode.2.Faithful := by
  unfold Decoder.decode
  split
  · exact h
  · split
    · exact h
    · split
      · rename_i hadv
        exact h.of_waiting hadv
      · exact of_unread rfl rfl
      · exact of_unread rfl rfl

/-- **A faithful decoder answers with the front of its buffer.** -/
theorem decode_outcome (h : d.Faithful) :
    d.decode.1 = (readFront d.limit d.buffer).map (Option.map Prod.fst) := by
  unfold Decoder.decode readFront
  split
  · rename_i hempty
    rw [List.isEmpty_iff] at hempty
    rw [hempty, if_neg (by simp), advance_nil]
    rfl
  · split
    · rfl
    · rw [h.advance_drop]
      cases advance d.limit [] d.buffer <;> rfl

/-- It keeps what follows a frame, and all of its bytes where there is none. -/
theorem decode_buffer (h : d.Faithful) :
    d.decode.2.buffer =
      match readFront d.limit d.buffer with
      | .ok (some (_, rest)) => rest
      | .ok none | .error _ => d.buffer := by
  unfold Decoder.decode readFront
  split
  · rename_i hempty
    rw [List.isEmpty_iff] at hempty
    simp only [hempty, List.length_nil, Nat.not_lt_zero, if_false, advance_nil]
  · split
    · rfl
    · rw [h.advance_drop]
      cases advance d.limit [] d.buffer <;> rfl

end Faithful

/-- A call of `decode` keeps the limit. -/
@[simp] theorem decode_limit (d : Decoder) : d.decode.2.limit = d.limit := by
  unfold decode
  split
  · rfl
  · split
    · rfl
    · split <;> rfl

/-- **All that a call of `decode` does**: it answers with the front of the
buffer, keeps what is behind it, and stays faithful. -/
theorem Faithful.decode_eq {d : Decoder} (h : d.Faithful) :
    ∃ d', d.decode = ((readFront d.limit d.buffer).map (Option.map Prod.fst), d') ∧
      d'.Faithful ∧ d'.limit = d.limit ∧
      d'.buffer =
        match readFront d.limit d.buffer with
        | .ok (some (_, rest)) => rest
        | .ok none | .error _ => d.buffer :=
  ⟨d.decode.2, Prod.ext h.decode_outcome rfl, h.decode, decode_limit d, h.decode_buffer⟩

end Decoder

end RedisClient
