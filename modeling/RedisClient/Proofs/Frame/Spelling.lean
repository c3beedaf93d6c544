import RedisClient.Proofs.Frame.Fits

/-!
# Spellings of frames

A frame is written in one way, and a decoder takes more than that for it: every
spelling of the numbers in its headers, any negative length for a null, and any
two bytes in the place of the line end behind the payload of a bulk string,
which are skipped unread. `Frame.Spelled` is the grammar of these byte strings;
what may stand behind a payload is a parameter of it. `Descent.frame` finds a
frame exactly in its spellings (`Descent.spelled_of_frame`,
`Descent.frame_of_spelled`), so these are what a decoder takes off its buffer
(`Decoder.decode_takes_iff`).
-/

namespace RedisClient

/-- As many bytes as a line end has, whatever they are. -/
def LineEndSized (bytes : Bytes) : Prop := bytes.length = lineEnd.length

namespace Frame

mutual

/-- **The spellings of a frame**, where `closing` says which bytes may stand
behind the payload of a bulk string. -/
inductive Spelled (closing : Bytes → Prop) : Frame → Bytes → Prop
  | simple (text : Bytes) : Spelled closing (.simple text) (Marker.simple.line text)
  | error (text : Bytes) : Spelled closing (.error text) (Marker.error.line text)
  | integer {n : Int64} {header : Bytes} (h : Marker.integer.IsHeader n header) :
    Spelled closing (.integer n) header
  | bulk {data header last : Bytes} {length : Int64} (hlength : length.toInt = data.length)
    (hheader : Marker.bulk.IsHeader length header) (hlast : closing last) :
    Spelled closing (.bulk data) (header ++ data ++ last)
  | nullBulk {header : Bytes} {length : Int64} (hneg : length < 0)
    (hheader : Marker.bulk.IsHeader length header) : Spelled closing .nullBulk header
  | array {items : List Frame} {header inside : Bytes} {length : Int64}
    (hlength : length.toInt = items.length) (hheader : Marker.array.IsHeader length header)
    (hitems : SpelledAll closing items inside) : Spelled closing (.array items) (header ++ inside)
  | nullArray {header : Bytes} {length : Int64} (hneg : length < 0)
    (hheader : Marker.array.IsHeader length header) : Spelled closing .nullArray header

/-- The spellings of frames, one after the other. -/
inductive SpelledAll (closing : Bytes → Prop) : List Frame → Bytes → Prop
  | nil : SpelledAll closing [] []
  | cons {item : Frame} {rest : List Frame} {front inside : Bytes}
    (hitem : Spelled closing item front) (hrest : SpelledAll closing rest inside) :
    SpelledAll closing (item :: rest) (front ++ inside)

end

variable {closing : Bytes → Prop}

/-! ## What is written is a spelling -/

/-- There are no more elements than bytes. -/
theorem length_le_encodeAll (items : List Frame) : items.length ≤ (encodeAll items).length := by
  induction items with
  | nil => exact Nat.zero_le _
  | cons first rest ih =>
    have hpos : 0 < first.encode.length := by
      cases first <;> simp [encode, encodeBulk, Marker.line, Marker.header]
    rw [encodeAll, List.length_append, List.length_cons]
    omega

mutual

/-- **The wire form of a frame is one of its spellings.** -/
theorem spelled_encode (hclosing : closing lineEnd) : (frame : Frame) →
    frame.encode.length < 0x8000000000000000 → frame.Spelled closing frame.encode
  | .simple text, _ => .simple text
  | .error text, _ => .error text
  | .integer n, _ => .integer (Marker.integer.isHeader_header n)
  | .nullBulk, _ => .nullBulk (by decide) (Marker.bulk.isHeader_header (-1))
  | .nullArray, _ => .nullArray (by decide) (Marker.array.isHeader_header (-1))
  | .bulk data, h => by
    simp only [encode, encodeBulk, List.length_append] at h
    obtain ⟨length, hlength, hheader⟩ := Token.isHeader_length .bulk (by omega : data.length < _)
    exact .bulk hlength hheader hclosing
  | .array items, h => by
    simp only [encode, List.length_append] at h
    have hcount := length_le_encodeAll items
    obtain ⟨length, hlength, hheader⟩ := Token.isHeader_length .array (by omega : items.length < _)
    exact .array hlength hheader (spelledAll_encodeAll hclosing items (by omega))
termination_by structural frame => frame

/-- So are those of the elements of an array. -/
theorem spelledAll_encodeAll (hclosing : closing lineEnd) : (items : List Frame) →
    (encodeAll items).length < 0x8000000000000000 → SpelledAll closing items (encodeAll items)
  | [], _ => .nil
  | item :: rest, h => by
    simp only [encodeAll, List.length_append] at h
    exact .cons (spelled_encode hclosing item (by omega))
      (spelledAll_encodeAll hclosing rest (by omega))
termination_by structural items => items

end

end Frame

/-! ## What is found is spelled -/

/-- The spellings of a token: those of a value that is whole at once, and for an
array that opens the headers of its length. -/
def Token.Spelled : Token → Bytes → Prop
  | .value frame, bytes => frame.Spelled LineEndSized bytes
  | .arrayStart count, bytes =>
    ∃ length : Int64, length.toInt = count ∧ Marker.array.IsHeader length bytes

/-- **A token is read from one of its spellings.** -/
theorem Token.spelled_of_read {limit : Nat} {token : Token} {bytes rest : Bytes}
    (h : read limit bytes = .ok (some (token, rest))) :
    ∃ front, bytes = front ++ rest ∧ token.Spelled front := by
  obtain ⟨marker, body, after, hline, hheader⟩ := of_read h
  have hcut : bytes = marker.line body ++ after := Bytes.splitLine_eq_some hline
  -- the line of a number is a header of it
  have hnumber : ∀ {n}, readNumber body = .ok n → marker.IsHeader n (marker.line body) := by
    intro n hread
    obtain ⟨text, hspells, rfl⟩ := readNumber_eq_ok_iff.1 hread
    exact ⟨text, hspells, rfl⟩
  have htoken := of_ofHeader hheader
  cases marker with
  | simple =>
    obtain ⟨rfl, rfl⟩ := htoken
    exact ⟨_, hcut, .simple body⟩
  | error =>
    obtain ⟨rfl, rfl⟩ := htoken
    exact ⟨_, hcut, .error body⟩
  | integer =>
    obtain ⟨n, hread, rfl, rfl⟩ := htoken
    exact ⟨_, hcut, .integer (hnumber hread)⟩
  | bulk =>
    obtain ⟨length, hread, hbulk⟩ := htoken
    rcases of_readBulk hbulk with ⟨hneg, rfl, rfl⟩ | ⟨data, last, rfl, hlength, hlast, rfl⟩
    · exact ⟨_, hcut, .nullBulk hneg (hnumber hread)⟩
    · refine ⟨Marker.bulk.line body ++ data ++ last, ?_, .bulk hlength (hnumber hread) hlast⟩
      simp only [hcut, List.append_assoc]
  | array =>
    obtain ⟨length, hread, harray, rfl⟩ := htoken
    rcases of_readArray harray with ⟨hneg, rfl⟩ | ⟨hzero, rfl⟩ | ⟨count, rfl, hlength, -⟩
    · exact ⟨_, hcut, .nullArray hneg (hnumber hread)⟩
    · refine ⟨_, hcut, ?_⟩
      have hempty : (Frame.array []).Spelled LineEndSized (Marker.array.line body ++ []) :=
        .array hzero (hnumber hread) .nil
      rwa [List.append_nil] at hempty
    · exact ⟨_, hcut, length, hlength, hnumber hread⟩

namespace Descent

variable {limit room : Nat} {bytes rest : Bytes}

/-- Elements are found in their spellings if each of them is. -/
theorem spelledAll_of_elements {element : Bytes → Except DecodeFault (Front Frame)}
    (h : ∀ {bytes frame rest}, element bytes = .ok (some (frame, rest)) →
      ∃ front, bytes = front ++ rest ∧ frame.Spelled LineEndSized front)
    {count : Nat} {items : List Frame}
    (hitems : elements element count bytes = .ok (some (items, rest))) :
    ∃ inside, bytes = inside ++ rest ∧ Frame.SpelledAll LineEndSized items inside := by
  induction count generalizing bytes items with
  | zero =>
    simp only [elements, pure, Except.pure, Except.ok.injEq, Option.some.injEq,
      Prod.mk.injEq] at hitems
    obtain ⟨rfl, rfl⟩ := hitems
    exact ⟨[], rfl, .nil⟩
  | succ count ih =>
    obtain ⟨first, others, after, rfl, hfirst, hothers⟩ := of_elements_succ hitems
    obtain ⟨front, rfl, hspelled⟩ := h hfirst
    obtain ⟨inside, rfl, hall⟩ := ih hothers
    exact ⟨front ++ inside, by rw [List.append_assoc], .cons hspelled hall⟩

/-- **A frame that is found stands there in one of its spellings.** -/
theorem spelled_of_frame {found : Frame} (h : frame limit room bytes = .ok (some (found, rest))) :
    ∃ front, bytes = front ++ rest ∧ found.Spelled LineEndSized front := by
  -- the induction is on the room for arrays; with none left an array is refused
  induction room generalizing bytes found rest with
  | zero =>
    rcases of_frameWith h with hvalue | ⟨count, items, after, -, -, hitems⟩
    · exact Token.spelled_of_read hvalue
    · cases hitems
  | succ room ih =>
    rcases of_frameWith h with hvalue | ⟨count, items, after, rfl, hopen, hitems⟩
    · exact Token.spelled_of_read hvalue
    · obtain ⟨header, rfl, length, hlength, hheader⟩ := Token.spelled_of_read hopen
      obtain ⟨inside, rfl, hall⟩ := spelledAll_of_elements ih hitems
      obtain ⟨hcount, -⟩ := of_elements (fun _ => trivial) hitems
      exact ⟨header ++ inside, by rw [List.append_assoc],
        .array (by rw [hcount, hlength]) hheader hall⟩

end Descent

/-! ## What is spelled is found -/

/-- A value that is whole at once is read from any of its spellings that is not
longer than the limit. -/
theorem Token.read_of_spelled {limit : Nat} {frame : Frame} {bytes : Bytes}
    (hlines : frame.LineSafe) (hwhole : ∀ items, frame = .array items → items = [])
    (h : frame.Spelled LineEndSized bytes) (hlimit : bytes.length ≤ limit) (rest : Bytes) :
    read limit (bytes ++ rest) = .ok (some (.value frame, rest)) := by
  cases h with
  | simple text => exact read_simple hlines rest
  | error text => exact read_error hlines rest
  | integer hheader => exact read_integer_of_isHeader hheader rest
  | nullBulk hneg hheader => exact read_nullBulk_of_isHeader hneg hheader rest
  | nullArray hneg hheader => exact read_nullArray_of_isHeader hneg hheader rest
  | bulk hlength hheader hlast =>
    simp only [List.length_append] at hlimit
    exact read_bulk_of_isHeader hlength hheader hlast (by omega) rest
  | array hlength hheader hitems =>
    obtain rfl := hwhole _ rfl
    cases hitems
    rw [List.append_nil]
    exact read_array_of_isHeader hlength hheader (Nat.zero_le _) rest

namespace Descent

variable {limit room : Nat}

/-- Elements are found if each of them is, in any of its spellings that is not
longer than they are together. -/
theorem elements_of_spelledAll {element : Bytes → Except DecodeFault (Front Frame)}
    {items : List Frame} {inside : Bytes} (hall : Frame.SpelledAll LineEndSized items inside)
    (h : ∀ item ∈ items, ∀ front, item.Spelled LineEndSized front →
      front.length ≤ inside.length → ∀ rest, element (front ++ rest) = .ok (some (item, rest)))
    (rest : Bytes) :
    elements element items.length (inside ++ rest) = .ok (some (items, rest)) := by
  induction items generalizing inside with
  | nil =>
    cases hall
    rfl
  | cons first others ih =>
    obtain _ | @⟨_, _, front, inside, hfirst, hothers⟩ := hall
    simp only [List.length_append] at h
    have hread := h first List.mem_cons_self front hfirst (by omega) (inside ++ rest)
    have hmore := ih hothers fun item hitem piece hspelled hlength =>
      h item (List.mem_cons_of_mem first hitem) piece hspelled (by omega)
    rw [List.length_cons, elements_succ, List.append_assoc, hread]
    dsimp only
    rw [hmore]
    rfl

/-- **A frame that fits is found in any of its spellings** that is not longer
than the limit, whatever follows. -/
theorem frame_of_spelled {found : Frame} {bytes : Bytes} (hfits : found.Fits limit room)
    (h : found.Spelled LineEndSized bytes) (hlimit : bytes.length ≤ limit) (rest : Bytes) :
    frame limit room (bytes ++ rest) = .ok (some (found, rest)) := by
  induction room generalizing found bytes rest with
  | zero =>
    rw [frame, frameWith_eq]
    rcases found.whole_or_array with hwhole | ⟨items, rfl, hne⟩
    · rw [Token.read_of_spelled hfits.lines hwhole h hlimit]
    · have hroom := ((Frame.fits_array_iff hne).1 hfits).2.1
      omega
  | succ room ih =>
    rw [frame, frameWith_eq]
    rcases found.whole_or_array with hwhole | ⟨items, rfl, hne⟩
    · rw [Token.read_of_spelled hfits.lines hwhole h hlimit]
    · obtain ⟨hcount, -, hitems⟩ := (Frame.fits_array_iff hne).1 hfits
      cases h with
      | array hlength hheader hall =>
        rename_i header inside length
        rw [List.length_append] at hlimit
        have hnone : items.length ≠ 0 := by simpa using hne
        -- each element is no longer than all of them, so the limit allows its length
        have helements : elements (frame limit room) items.length (inside ++ rest) =
            .ok (some (items, rest)) :=
          elements_of_spelledAll hall (fun item hitem front hspelled hshort more =>
            ih (hitems item hitem) hspelled (by omega) more) rest
        rw [List.append_assoc, Token.read_array_of_isHeader hlength hheader hcount, if_neg hnone]
        dsimp only
        rw [helements]
        rfl

end Descent

/-! ## What a decoder takes -/

namespace Decoder

/-- A faithful decoder takes a frame off its buffer exactly if that fits under
the limit and begins with a spelling of the frame, and the frame fits. -/
theorem Faithful.takes_iff {d : Decoder} (h : d.Faithful) {frame : Frame} {taken : Bytes} :
    d.decode.1 = .ok (some frame) ∧ d.buffer = taken ++ d.decode.2.buffer ↔
      d.buffer.length ≤ d.limit ∧ taken <+: d.buffer ∧ frame.Fits d.limit maxDepth ∧
        frame.Spelled LineEndSized taken := by
  rw [h.decode_outcome, h.decode_buffer]
  constructor
  · rintro ⟨hframe, hcut⟩
    rcases hfound : readFront d.limit d.buffer with fault | _ | ⟨found, rest⟩
    · simp [hfound, Except.map] at hframe
    · simp [hfound, Except.map] at hframe
    · obtain rfl : found = frame := by simpa [hfound, Except.map] using hframe
      rw [hfound] at hcut
      change d.buffer = taken ++ rest at hcut
      have hfit := length_le_of_readFront hfound
      rw [readFront_eq_frame hfit] at hfound
      obtain ⟨front, hfront, hspelled⟩ := Descent.spelled_of_frame hfound
      -- what is left behind the frame says where it ends
      obtain rfl : taken = front := List.append_cancel_right (hcut.symm.trans hfront)
      exact ⟨hfit, ⟨rest, hcut.symm⟩, Descent.fits_of_frame hfound, hspelled⟩
  · rintro ⟨hfit, ⟨rest, hrest⟩, hfits, hspelled⟩
    have htaken : taken.length ≤ d.limit := by
      rw [← hrest, List.length_append] at hfit
      omega
    have hfound : readFront d.limit d.buffer = .ok (some (frame, rest)) := by
      -- the descent needs no more than the bytes of the frame, whatever follows them
      rw [readFront_eq_frame hfit, ← hrest]
      exact Descent.frame_of_spelled hfits hspelled htaken rest
    rw [hfound]
    exact ⟨rfl, hrest.symm⟩

/-- **What a decoder takes for a frame.** In every state that a decoder reaches
by any calls of `append` and `decode`: the next call gives a frame and takes
these bytes off the buffer, exactly if the buffer fits under the limit and
begins with them, the frame keeps to the limits, and the bytes are one of its
spellings, where any two bytes do in the place of the line end behind a
payload. -/
theorem decode_takes_iff (limit : Nat) (calls : List Call) (frame : Frame) (taken : Bytes) :
    let d := (run calls { limit }).2
    d.decode.1 = .ok (some frame) ∧ d.buffer = taken ++ d.decode.2.buffer ↔
      d.buffer.length ≤ limit ∧ taken <+: d.buffer ∧ frame.Fits limit maxDepth ∧
        frame.Spelled LineEndSized taken := by
  intro d
  obtain ⟨hfaithful, hlimit⟩ := (Faithful.fresh limit).run calls
  have htakes : _ ↔ d.buffer.length ≤ d.limit ∧ taken <+: d.buffer ∧
      frame.Fits d.limit maxDepth ∧ frame.Spelled LineEndSized taken := hfaithful.takes_iff
  change d.limit = limit at hlimit
  rwa [hlimit] at htakes

/-- A bulk string of three bytes with two letters in the place of the line end:
a new decoder takes it all, though it is no spelling with a line end there. -/
theorem decode_takes_iff_unclosed :
    let d := (run [.append [36, 51, 13, 10, 97, 98, 99, 88, 89]] {}).2
    (d.decode.1 = .ok (some (.bulk [97, 98, 99])) ∧ d.decode.2.buffer = []) ∧
      ¬ (Frame.bulk [97, 98, 99]).Spelled (· = lineEnd) d.buffer := by
  intro d
  have hheader : Marker.bulk.IsHeader 3 [36, 51, 13, 10] := Marker.bulk.isHeader_header 3
  have hletters : LineEndSized [88, 89] := rfl
  have hspelled : (Frame.bulk [97, 98, 99]).Spelled LineEndSized d.buffer :=
    .bulk rfl hheader hletters
  obtain ⟨hframe, hcut⟩ := (decode_takes_iff defaultLimit _ (.bulk [97, 98, 99]) d.buffer).2
    ⟨by decide, List.prefix_refl _, .of_whole trivial (by simp), hspelled⟩
  refine ⟨⟨hframe, List.self_eq_append_right.1 hcut⟩, fun hclosed => ?_⟩
  generalize hbytes : d.buffer = bytes at hclosed
  cases hclosed with
  | bulk hlength hheader hlast =>
    -- the spelling ends with a line end, and the bytes do not
    subst hlast
    have hend := congrArg List.getLast? hbytes
    simp [d, run, Decoder.append, lineEnd] at hend

end Decoder

end RedisClient
