import RedisClient.Proofs.Frame.Spelling

/-!
# What a decoder keeps

Between two calls a decoder keeps the arrays that are open and how far it has read
into its buffer. The two belong together: the bytes that have been read are, from
the outermost array on, the header of each open array and behind it the elements
that have come (`OpenArrays`). The number in such a header is the length that was
announced, so what has come and what is missing add up to it, and at least one
element is missing.

Reading a token keeps this up (`OpenArrays.opened`, `OpenArrays.filed`), hence so does
a run over tokens, and every call of a decoder (`Decoder.Saved.run`).
-/

namespace RedisClient

/-! ## Places in a buffer -/

namespace Bytes

/-- Where the rest of a buffer begins in it. -/
def offset (buffer rest : Bytes) : Nat := buffer.length - rest.length

/-- It begins nowhere behind the end. -/
theorem offset_le (buffer rest : Bytes) : buffer.offset rest ≤ buffer.length := Nat.sub_le _ _

/-- What stands from a place on begins at that place. -/
theorem offset_drop {buffer : Bytes} {place : Nat} (h : place ≤ buffer.length) :
    buffer.offset (buffer.drop place) = place := by
  rw [offset, List.length_drop, Nat.sub_sub_self h]

/-- The rest is what stands from there on. -/
theorem drop_offset {buffer rest : Bytes} (h : rest <:+ buffer) :
    buffer.drop (buffer.offset rest) = rest :=
  (List.suffix_iff_eq_drop.1 h).symm

/-- So it is when the rest stands behind a part of what follows some place. -/
theorem drop_offset_of_drop {buffer part rest : Bytes} {position : Nat}
    (h : buffer.drop position = part ++ rest) : buffer.drop (buffer.offset rest) = rest :=
  drop_offset ((List.IsSuffix.trans ⟨part, h.symm⟩) (List.drop_suffix position buffer))

/-- The bytes before the rest are those before a place and the part read from
there. -/
theorem take_offset {buffer part rest : Bytes} {position : Nat}
    (h : buffer.drop position = part ++ rest) :
    buffer.take (buffer.offset rest) = buffer.take position ++ part := by
  have hcut : (buffer.take position ++ part) ++ rest = buffer := by
    rw [List.append_assoc, ← h, List.take_append_drop]
  have hoffset : buffer.offset rest = (buffer.take position ++ part).length := by
    have hlength := congrArg List.length hcut
    rw [List.length_append] at hlength
    rw [offset]
    omega
  rw [hoffset]
  exact (List.prefix_iff_eq_take.1 ⟨rest, hcut⟩).symm

end Bytes

/-! ## Spellings behind each other -/

namespace Frame

variable {closing : Bytes → Prop}

/-- Spellings of frames may be put behind those of others. -/
theorem SpelledAll.append {front back : List Frame} {bytes more : Bytes}
    (hfront : SpelledAll closing front bytes) (hback : SpelledAll closing back more) :
    SpelledAll closing (front ++ back) (bytes ++ more) := by
  induction front generalizing bytes with
  | nil =>
    cases hfront
    exact hback
  | cons item rest ih =>
    obtain _ | ⟨hitem, hrest⟩ := hfront
    rw [List.append_assoc]
    exact .cons hitem (ih hrest)

/-- One frame behind the others. -/
theorem SpelledAll.concat {items : List Frame} {frame : Frame} {bytes more : Bytes}
    (hitems : SpelledAll closing items bytes) (hframe : frame.Spelled closing more) :
    SpelledAll closing (items ++ [frame]) (bytes ++ more) := by
  have hone : SpelledAll closing [frame] (more ++ []) := .cons hframe .nil
  rw [List.append_nil] at hone
  exact hitems.append hone

end Frame

/-! ## Open arrays -/

/-- **The arrays that are open** after some bytes, the innermost first. Each has a
header in the bytes and behind it the elements that have come. The number of the
header is the length that was announced: so many have come and so many are
missing, at least one of them, and all together no more than the limit can
hold. -/
inductive OpenArrays (limit : Nat) : List PartialArray → Bytes → Prop
  | nil : OpenArrays limit [] []
  | cons {array : PartialArray} {outer : List PartialArray} {front header inside : Bytes}
      {announced : Int64} (houter : OpenArrays limit outer front)
      (hheader : Marker.array.IsHeader announced header)
      (hannounced : announced.toInt = (array.latest.length + array.remaining : Nat))
      (hlimit : array.latest.length + array.remaining ≤ limit / elementSize)
      (hmissing : 0 < array.remaining)
      (hcome : Frame.SpelledAll LineEndSized array.latest.reverse inside) :
      OpenArrays limit (array :: outer) (front ++ header ++ inside)

namespace OpenArrays

variable {limit : Nat} {stack : List PartialArray} {front bytes rest : Bytes}

/-- In each of them an element is missing, and the limit can hold them all. -/
theorem bounds (h : OpenArrays limit stack front) {array : PartialArray} (hmem : array ∈ stack) :
    0 < array.remaining ∧ array.latest.length + array.remaining ≤ limit / elementSize := by
  induction h with
  | nil => cases hmem
  | cons houter _ _ hlimit hmissing _ ih =>
    rcases List.mem_cons.1 hmem with rfl | hmem
    · exact ⟨hmissing, hlimit⟩
    · exact ih hmem

/-- **An array that opens** has its header behind what was read before. -/
theorem opened {count : Nat} (h : OpenArrays limit stack front)
    (hread : Token.read limit bytes = .ok (some (.arrayStart count, rest))) :
    ∃ header, bytes = header ++ rest ∧
      OpenArrays limit (⟨count, []⟩ :: stack) (front ++ header) := by
  obtain ⟨hpos, hcount⟩ := Token.bounds_of_read hread
  obtain ⟨header, hbytes, announced, hannounced, hheader⟩ := Token.spelled_of_read hread
  have hopen : OpenArrays limit (⟨count, []⟩ :: stack) (front ++ header ++ []) :=
    .cons h hheader (by simpa using hannounced) (by simpa using hcount) hpos .nil
  rw [List.append_nil] at hopen
  exact ⟨header, hbytes, hopen⟩

/-- **A value that is filed** stands behind what was read before. An array that it
fills up is a value itself, which begins where that array began. -/
theorem filed {value : Frame} {spelling : Bytes} {left : List PartialArray}
    (h : OpenArrays limit stack front) (hvalue : value.Spelled LineEndSized spelling)
    (hfile : Filing.of value stack = .filed left) :
    OpenArrays limit left (front ++ spelling) := by
  -- the induction goes outwards, from each array that is full to the one around it
  induction h generalizing value spelling with
  | nil => cases hfile
  | @cons array outer front header inside announced houter hheader hannounced hlimit hmissing
      hcome ih =>
    have hall := hcome.concat hvalue
    rw [← List.reverse_cons] at hall
    rw [Filing.of] at hfile
    split at hfile
    · rename_i hlast
      have hlength : announced.toInt = ((value :: array.latest).reverse.length : Nat) := by
        rw [hannounced, List.length_reverse, List.length_cons]
        omega
      have hfull := ih (.array hlength hheader hall) hfile
      simpa only [List.append_assoc] using hfull
    · rename_i hmore
      obtain rfl := Filing.filed.inj hfile
      -- one more has come and one less is missing
      have hsum : (value :: array.latest).length + (array.remaining - 1) =
          array.latest.length + array.remaining := by
        rw [List.length_cons]
        omega
      have hnext : OpenArrays limit (⟨array.remaining - 1, value :: array.latest⟩ :: outer)
          (front ++ header ++ (inside ++ spelling)) :=
        .cons houter hheader (hsum ▸ hannounced) (hsum ▸ hlimit)
          (Nat.sub_pos_of_lt (Nat.lt_of_not_le hmore)) hall
      rwa [← List.append_assoc] at hnext

/-- What is filed closes arrays and opens none. -/
theorem length_le_of_filed {value : Frame} {left : List PartialArray}
    (hfile : Filing.of value stack = .filed left) : left.length ≤ stack.length := by
  induction stack generalizing value with
  | nil => cases hfile
  | cons array outer ih =>
    rw [Filing.of] at hfile
    split at hfile
    · exact Nat.le_succ_of_le (ih hfile)
    · obtain rfl := Filing.filed.inj hfile
      exact Nat.le_refl _

/-- **A run over tokens** that stops for want of bytes has read some of them into
the arrays that are open, and these are not nested too deep. -/
theorem advance {waiting : List PartialArray} (h : OpenArrays limit stack front)
    (hdepth : stack.length ≤ maxDepth)
    (hadvance : Decoder.advance limit stack bytes = .waiting waiting rest) :
    ∃ part, bytes = part ++ rest ∧ OpenArrays limit waiting (front ++ part) ∧
      waiting.length ≤ maxDepth := by
  fun_induction Decoder.advance limit stack bytes generalizing front with
  | case1 | case3 | case5 => simp at hadvance
  | case2 stack bytes =>
    simp only [Decoder.Progress.waiting.injEq] at hadvance
    obtain ⟨rfl, rfl⟩ := hadvance
    exact ⟨[], rfl, by rwa [List.append_nil], hdepth⟩
  | case4 stack bytes count after hread hroom ih =>
    obtain ⟨header, rfl, hopen⟩ := h.opened hread
    obtain ⟨part, rfl, hwaiting, hdeep⟩ := ih hopen (Nat.lt_of_not_le hroom) hadvance
    exact ⟨header ++ part, by rw [List.append_assoc], by rwa [← List.append_assoc], hdeep⟩
  | case6 stack bytes value after hread left hfile ih =>
    obtain ⟨spelling, rfl, hvalue⟩ := Token.spelled_of_read hread
    obtain ⟨part, rfl, hwaiting, hdeep⟩ :=
      ih (h.filed hvalue hfile) (Nat.le_trans (length_le_of_filed hfile) hdepth) hadvance
    exact ⟨spelling ++ part, by rw [List.append_assoc], by rwa [← List.append_assoc], hdeep⟩

end OpenArrays

/-! ## Decoders -/

namespace Decoder

/-- **What a decoder keeps is sound**: it has read a part of its buffer, into the
arrays that it keeps open, and no more of these than may be nested. -/
structure Saved (d : Decoder) : Prop where
  /-- The decoder stopped inside its buffer. -/
  position_le : d.position ≤ d.buffer.length
  /-- What it has read are the open arrays. -/
  openArrays : OpenArrays d.limit d.stack (d.buffer.take d.position)
  /-- They are not nested too deep. -/
  depth_le : d.stack.length ≤ maxDepth

namespace Saved

variable {d : Decoder}

/-- A decoder that has read nothing keeps nothing. -/
theorem of_unread (hposition : d.position = 0) (hstack : d.stack = []) : d.Saved where
  position_le := by omega
  openArrays := by
    rw [hposition, hstack, List.take_zero]
    exact .nil
  depth_le := by
    rw [hstack]
    exact Nat.zero_le _

/-- Bytes that arrive stand behind what has been read. -/
theorem append (h : d.Saved) (data : Bytes) : (d.append data).Saved where
  position_le := by
    have hposition := h.position_le
    simp only [Decoder.append, List.length_append]
    omega
  openArrays := by
    simp only [Decoder.append]
    rw [List.take_append_of_le_length h.position_le]
    exact h.openArrays
  depth_le := h.depth_le

/-- **Every call of `decode` keeps it up**: the calls that give a frame or a fault
keep nothing, except that a buffer over the limit is not looked at. -/
theorem decode (h : d.Saved) : d.decode.2.Saved := by
  unfold Decoder.decode
  split
  · exact h
  · split
    · exact h
    · split
      · rename_i waiting rest hadvance
        obtain ⟨part, hpart, hopen, hdepth⟩ := h.openArrays.advance h.depth_le hadvance
        exact ⟨Bytes.offset_le _ _, (Bytes.take_offset hpart).symm ▸ hopen, hdepth⟩
      · exact of_unread rfl rfl
      · exact of_unread rfl rfl

/-- **Any calls keep it up.** -/
theorem run (h : d.Saved) (calls : List Call) : (Decoder.run calls d).2.Saved := by
  induction calls generalizing d with
  | nil => exact h
  | cons call rest ih =>
    cases call with
    | append data => exact ih (h.append data)
    | decode => exact ih h.decode

end Saved

end Decoder

end RedisClient
