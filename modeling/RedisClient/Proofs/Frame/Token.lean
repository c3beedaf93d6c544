import RedisClient.Proofs.Frame.Encoded

/-!
# Tokens that have been read

A token is read from one header line and its payload. This file says what a
token that has been read can be: which marker and which number its line has
(`Token.of_read`, `Token.of_ofHeader`), that an array opens with a length that
is neither zero nor above what the limit can hold (`Token.bounds_of_read`), and
that a value is whole at once (`Token.value_of_read`).
-/

namespace RedisClient

/-- The first line holds no line end. -/
theorem Bytes.lineEnd_not_infix_of_splitLine {bytes line rest : Bytes}
    (h : splitLine bytes = some (line, rest)) : ¬ lineEnd <:+: line := by
  fun_induction splitLine bytes generalizing line rest with
  | case1 b c after hbc =>
    simp only [Option.some.injEq, Prod.mk.injEq] at h
    obtain ⟨rfl, rfl⟩ := h
    simp [lineEnd]
  | case2 b c after hbc ih =>
    simp only [Option.map_eq_some_iff] at h
    obtain ⟨⟨l, r⟩, hlr, heq⟩ := h
    simp only [Prod.mk.injEq] at heq
    obtain ⟨rfl, rfl⟩ := heq
    rw [List.infix_cons_iff]
    rintro (hpre | hin)
    · -- a line end at the very front would have been found there
      obtain ⟨hb, hten⟩ := List.cons_prefix_cons.1 hpre
      obtain ⟨more, hmore⟩ := hten
      have hcut := splitLine_eq_some hlr
      rw [← hmore] at hcut
      have hc : c = 10 := by simpa using congrArg List.head? hcut
      exact hbc ⟨hb.symm, hc⟩
    · exact ih hlr hin
  | case3 bytes hshort => simp at h

namespace Token

variable {limit : Nat} {marker : Marker} {body bytes rest : Bytes} {token : Token}

/-- **What a header's token can be**, by the marker of the line. -/
theorem of_ofHeader (h : ofHeader limit marker body bytes = .ok (some (token, rest))) :
    match marker with
    | .simple => token = .value (.simple body) ∧ rest = bytes
    | .error => token = .value (.error body) ∧ rest = bytes
    | .integer => ∃ n, readNumber body = .ok n ∧ token = .value (.integer n) ∧ rest = bytes
    | .bulk => ∃ n, readNumber body = .ok n ∧ readBulk limit n bytes = .ok (some (token, rest))
    | .array => ∃ n, readNumber body = .ok n ∧ readArray limit n = .ok token ∧ rest = bytes := by
  cases marker with
  | simple | error =>
    simp only [ofHeader, Except.ok.injEq, Option.some.injEq, Prod.mk.injEq] at h
    exact ⟨h.1.symm, h.2.symm⟩
  | integer =>
    cases hnumber : readNumber body with
    | error fault => simp [ofHeader, hnumber, bind, Except.bind] at h
    | ok n =>
      simp only [ofHeader, hnumber, bind, Except.bind, pure, Except.pure, Except.ok.injEq,
        Option.some.injEq, Prod.mk.injEq] at h
      exact ⟨n, rfl, h.1.symm, h.2.symm⟩
  | bulk =>
    cases hnumber : readNumber body with
    | error fault => simp [ofHeader, hnumber, bind, Except.bind] at h
    | ok n =>
      simp only [ofHeader, hnumber, bind, Except.bind] at h
      exact ⟨n, rfl, h⟩
  | array =>
    cases hnumber : readNumber body with
    | error fault => simp [ofHeader, hnumber, bind, Except.bind] at h
    | ok n =>
      cases hstart : readArray limit n with
      | error fault => simp [ofHeader, hnumber, hstart, bind, Except.bind] at h
      | ok start =>
        simp only [ofHeader, hnumber, hstart, bind, Except.bind, pure, Except.pure,
          Except.ok.injEq, Option.some.injEq, Prod.mk.injEq] at h
        exact ⟨n, rfl, by rw [hstart, h.1], h.2.symm⟩

/-- A token stands in a line that opens with a marker. -/
theorem of_read (h : read limit bytes = .ok (some (token, rest))) :
    ∃ marker body after, bytes.splitLine = some (marker.byte :: body, after) ∧
      ofHeader limit marker body after = .ok (some (token, rest)) := by
  unfold read at h
  split at h
  · simp at h
  · simp at h
  · rename_i first body after hline
    split at h
    · simp at h
    · rename_i marker hmarker
      rw [Marker.ofByte?_eq_some_iff.1 hmarker] at hline
      exact ⟨marker, body, after, hline, h⟩

/-- A bulk string's token is the null, or as many bytes as were announced, with
two more behind them. -/
theorem of_readBulk {length : Int64} (h : readBulk limit length bytes = .ok (some (token, rest))) :
    (length < 0 ∧ token = .value .nullBulk ∧ rest = bytes) ∨
      ∃ data last, token = .value (.bulk data) ∧ length.toInt = data.length ∧ last.length = 2 ∧
        bytes = data ++ last ++ rest := by
  unfold readBulk at h
  split at h
  · rename_i hneg
    simp only [Except.ok.injEq, Option.some.injEq, Prod.mk.injEq] at h
    exact .inl ⟨hneg, h.1.symm, h.2.symm⟩
  · rename_i hneg
    dsimp only at h
    split at h
    · simp at h
    · split at h
      · simp at h
      · rename_i hall
        simp only [Except.ok.injEq, Option.some.injEq, Prod.mk.injEq] at h
        obtain ⟨rfl, rfl⟩ := h
        rw [Int64.lt_iff_toInt_lt, Int64.toInt_zero] at hneg
        refine .inr ⟨_, (bytes.drop length.toInt.toNat).take 2, rfl, ?_, ?_, ?_⟩
        · rw [List.length_take]
          omega
        · rw [List.length_take, List.length_drop]
          omega
        · rw [List.append_assoc, ← List.drop_drop, List.take_append_drop, List.take_append_drop]

/-- An array's token is one of the two arrays without elements, or opens one of
the length that was announced, which the limit can hold. -/
theorem of_readArray {length : Int64} (h : readArray limit length = .ok token) :
    (length < 0 ∧ token = .value .nullArray) ∨
      (length.toInt = 0 ∧ token = .value (.array [])) ∨
      ∃ count : Nat, token = .arrayStart count ∧ length.toInt = count ∧ 0 < count ∧
        count ≤ limit / elementSize := by
  unfold readArray at h
  split at h
  · rename_i hneg
    exact .inl ⟨hneg, (Except.ok.inj h).symm⟩
  · rename_i hneg
    rw [Int64.lt_iff_toInt_lt, Int64.toInt_zero] at hneg
    dsimp only at h
    split at h
    · simp at h
    · split at h
      · exact .inr (.inl ⟨by omega, (Except.ok.inj h).symm⟩)
      · exact .inr (.inr ⟨_, (Except.ok.inj h).symm, by omega, by omega, by omega⟩)

/-- **An array that opens** has elements, and no more than the limit can hold. -/
theorem bounds_of_read {count : Nat} (h : read limit bytes = .ok (some (.arrayStart count, rest))) :
    0 < count ∧ count ≤ limit / elementSize := by
  obtain ⟨marker, body, after, -, hheader⟩ := of_read h
  have htoken := of_ofHeader hheader
  cases marker with
  | simple | error => simp at htoken
  | integer => simp at htoken
  | bulk =>
    obtain ⟨n, -, hbulk⟩ := htoken
    rcases of_readBulk hbulk with ⟨-, hnull, -⟩ | ⟨data, last, hdata, -⟩
    · cases hnull
    · cases hdata
  | array =>
    obtain ⟨n, -, harray, -⟩ := htoken
    rcases of_readArray harray with ⟨-, hnull⟩ | ⟨-, hempty⟩ | ⟨length, hlength, -, hbounds⟩
    · cases hnull
    · cases hempty
    · obtain rfl : count = length := by simpa using hlength
      exact hbounds

/-- **A value that is whole at once** is no array with elements, and is spelled
without a line end inside its line. -/
theorem value_of_read {frame : Frame} (h : read limit bytes = .ok (some (.value frame, rest))) :
    frame.LineSafe ∧ ∀ items, frame = .array items → items = [] := by
  obtain ⟨marker, body, after, hline, hheader⟩ := of_read h
  -- the text of a line is the line less its marker
  have hsafe : ¬ lineEnd <:+: body := fun hin =>
    Bytes.lineEnd_not_infix_of_splitLine hline (List.infix_cons hin)
  have htoken := of_ofHeader hheader
  cases marker with
  | simple | error =>
    obtain ⟨hvalue, -⟩ := htoken
    obtain rfl := Token.value.inj hvalue
    exact ⟨hsafe, by simp⟩
  | integer =>
    obtain ⟨n, -, hvalue, -⟩ := htoken
    obtain rfl := Token.value.inj hvalue
    exact ⟨trivial, by simp⟩
  | bulk =>
    obtain ⟨n, -, hbulk⟩ := htoken
    rcases of_readBulk hbulk with ⟨-, hvalue, -⟩ | ⟨data, last, hvalue, -⟩
    · obtain rfl := Token.value.inj hvalue
      exact ⟨trivial, by simp⟩
    · obtain rfl := Token.value.inj hvalue
      exact ⟨trivial, by simp⟩
  | array =>
    obtain ⟨n, -, harray, -⟩ := htoken
    rcases of_readArray harray with ⟨-, hvalue⟩ | ⟨-, hvalue⟩ | ⟨count, hstart, -⟩
    · obtain rfl := Token.value.inj hvalue
      exact ⟨trivial, by simp⟩
    · obtain rfl := Token.value.inj hvalue
      exact ⟨trivial, by simp⟩
    · cases hstart

end Token

end RedisClient
