import RedisClient.Proofs.Frame.Fits
import RedisClient.Proofs.Frame.Saved
import Mathlib.Data.Nat.PSub

/-!
# Reading in place

A decoder can leave its buffer where it is and hold places in it, as words of 64
bits: it adds lengths to a place, cuts a payload out between two places, counts the
missing elements of an array down, and takes a frame off the front of the buffer.
Each of these may go wrong. A sum may need more bits, a cut may reach behind the
end, a count may fall below zero. The reader of this module is made of operations
that have no result then (`Decoder.decodeInPlace?`).

Over fewer than `2 ^ 62` bytes nothing goes wrong, whatever lengths the headers
announce and whatever the limit is, and reading in place comes to what
`Decoder.decode` comes to (`Decoder.decodeInPlace?_eq_decode`). That rests on
what a decoder keeps: it stopped inside its buffer, and each open array misses an
element.
-/

namespace RedisClient

/-! ## Operations that may go wrong -/

/-- The sum of two words, if it is a word. -/
def wordSum? (a b : Nat) : Option Nat := if a + b < 2 ^ 64 then some (a + b) else none

/-- A sum that is a word is there. -/
theorem wordSum?_eq_some {a b : Nat} (h : a + b < 2 ^ 64) : wordSum? a b = some (a + b) := if_pos h

/-- A sum that is there is the sum. -/
theorem eq_of_wordSum? {a b c : Nat} (h : wordSum? a b = some c) : c = a + b := by
  unfold wordSum? at h
  split at h
  · exact (Option.some.inj h).symm
  · cases h

/-- The bytes between two places of a buffer, if the places come in this order and
lie in the buffer. -/
def Bytes.slice? (buffer : Bytes) (start stop : Nat) : Option Bytes :=
  if start ≤ stop ∧ stop ≤ buffer.length then some ((buffer.take stop).drop start) else none

/-- The bytes behind a place in the buffer are so many bytes of what follows it. -/
theorem Bytes.slice?_eq_some {buffer : Bytes} {start count : Nat}
    (h : start + count ≤ buffer.length) :
    buffer.slice? start (start + count) = some ((buffer.drop start).take count) := by
  rw [slice?, if_pos ⟨Nat.le_add_right _ _, h⟩, List.take_drop]

/-- Everything behind a place in the buffer. -/
theorem Bytes.slice?_length {buffer : Bytes} {start : Nat} (h : start ≤ buffer.length) :
    buffer.slice? start buffer.length = some (buffer.drop start) := by
  rw [slice?, if_pos ⟨h, Nat.le_refl _⟩, List.take_length]

/-! ## Tokens -/

namespace Token

/-- What was found, with the place where the rest begins for the rest itself. -/
def located (buffer : Bytes) :
    Except DecodeFault (Option (Token × Bytes)) → Except DecodeFault (Option (Token × Nat)) :=
  Except.map (Option.map (Prod.map id buffer.offset))

@[simp] theorem located_error (buffer : Bytes) (fault : DecodeFault) :
    located buffer (.error fault) = .error fault := rfl

@[simp] theorem located_none (buffer : Bytes) : located buffer (.ok none) = .ok none := rfl

@[simp] theorem located_some (buffer : Bytes) (token : Token) (rest : Bytes) :
    located buffer (.ok (some (token, rest))) = .ok (some (token, buffer.offset rest)) := rfl

/-- The bulk string of a stated length at a place in the buffer, and the place
behind the two bytes that follow it. -/
def readBulkAt? (limit : Nat) (length : Int64) (buffer : Bytes) (next : Nat) :
    Option (Except DecodeFault (Option (Token × Nat))) :=
  if length < 0 then some (.ok (some (.value .nullBulk, next)))
  else
    let n := length.toInt.toNat
    if limit < n then some (.error .bulkTooLong)
    else do
      let stop ← wordSum? next n
      let after ← wordSum? stop 2
      if buffer.length < after then return .ok none
      else
        let data ← buffer.slice? next stop
        return .ok (some (.value (.bulk data), after))

/-- The token of a header line, given as marker and body, and the place behind it.
The place behind the line is where a payload stands. -/
def ofHeaderAt? (limit : Nat) (marker : Marker) (body buffer : Bytes) (next : Nat) :
    Option (Except DecodeFault (Option (Token × Nat))) :=
  match marker with
  | .simple => some (.ok (some (.value (.simple body), next)))
  | .error => some (.ok (some (.value (.error body), next)))
  | .integer => some ((readNumber body).map fun n => some (.value (.integer n), next))
  | .bulk =>
    match readNumber body with
    | .error fault => some (.error fault)
    | .ok n => readBulkAt? limit n buffer next
  | .array =>
    some (((readNumber body).bind (readArray limit)).map fun token => some (token, next))

/-- The token at a place in the buffer, and the place behind it; nothing if it is
not all there, which is an answer and does not go wrong. -/
def readAt? (limit : Nat) (buffer : Bytes) (position : Nat) :
    Option (Except DecodeFault (Option (Token × Nat))) :=
  match Bytes.splitLine (buffer.drop position) with
  | none => some (.ok none)
  | some (line, _) => do
    let stop ← wordSum? position line.length
    let next ← wordSum? stop 2
    match line with
    | [] => return .error .emptyHeader
    | first :: body =>
      match Marker.ofByte? first with
      | none => return .error (.unknownMarker first)
      | some marker => ofHeaderAt? limit marker body buffer next

variable {limit : Nat} {buffer body : Bytes} {marker : Marker} {position next : Nat}

/-- A bulk string is where its length says, whatever length that is: its end is a
word, and the payload that is cut out lies in the buffer. -/
theorem readBulkAt?_eq_readBulk {length : Int64} (hnext : next ≤ buffer.length)
    (hbuffer : buffer.length < 2 ^ 62) :
    readBulkAt? limit length buffer next =
      some (located buffer (readBulk limit length (buffer.drop next))) := by
  have hrest : (buffer.drop next).length = buffer.length - next := List.length_drop
  unfold readBulkAt? readBulk
  split
  · rw [located_some, Bytes.offset_drop hnext]
  · dsimp only
    split
    · rfl
    · have hlength := Int64.toInt_lt length
      rw [wordSum?_eq_some (by omega), Option.bind_eq_bind, Option.bind_some,
        wordSum?_eq_some (by omega), Option.bind_some]
      split
      · rw [if_pos (by omega)]
        rfl
      · rename_i hroom
        have hoffset : buffer.offset ((buffer.drop next).drop (length.toInt.toNat + 2)) =
            next + length.toInt.toNat + 2 := by
          rw [List.drop_drop, Bytes.offset_drop (by omega), Nat.add_assoc]
        rw [if_neg (by omega), Bytes.slice?_eq_some (by omega), ← hoffset]
        rfl

/-- Only the token of a bulk string has a payload behind its line. -/
theorem ofHeaderAt?_eq_ofHeader (hnext : next ≤ buffer.length) (hbuffer : buffer.length < 2 ^ 62) :
    ofHeaderAt? limit marker body buffer next =
      some (located buffer (ofHeader limit marker body (buffer.drop next))) := by
  have hoffset := Bytes.offset_drop hnext
  cases marker with
  | simple | error =>
    rw [ofHeaderAt?, ofHeader, located_some, hoffset]
  | integer =>
    rcases hnumber : readNumber body with fault | n
    · simp [ofHeaderAt?, ofHeader, hnumber, Except.map, bind, Except.bind]
    · simp [ofHeaderAt?, ofHeader, hnumber, Except.map, bind, Except.bind, pure,
        Except.pure, hoffset]
  | bulk =>
    rcases hnumber : readNumber body with fault | n
    · simp [ofHeaderAt?, ofHeader, hnumber, bind, Except.bind]
    · simp only [ofHeaderAt?, ofHeader, hnumber, bind, Except.bind]
      exact readBulkAt?_eq_readBulk hnext hbuffer
  | array =>
    rcases hnumber : readNumber body with fault | n
    · simp [ofHeaderAt?, ofHeader, hnumber, Except.map, bind, Except.bind]
    · rcases harray : readArray limit n with fault | token
      · simp [ofHeaderAt?, ofHeader, hnumber, harray, Except.map, bind, Except.bind]
      · simp [ofHeaderAt?, ofHeader, hnumber, harray, Except.map, bind, Except.bind, pure,
          Except.pure, hoffset]

/-- **Reading a token in place is reading the bytes from that place on**: nothing
goes wrong, and the place behind the token is where the rest begins. -/
theorem readAt?_eq_read (hposition : position ≤ buffer.length) (hbuffer : buffer.length < 2 ^ 62) :
    readAt? limit buffer position = some (located buffer (read limit (buffer.drop position))) := by
  unfold readAt? read
  rcases hline : Bytes.splitLine (buffer.drop position) with _ | ⟨line, rest⟩
  · rfl
  · have hcut := Bytes.splitLine_eq_some hline
    have hlength := congrArg List.length hcut
    simp only [List.length_drop, List.length_append, lineEnd, List.length_cons,
      List.length_nil] at hlength
    -- the place behind the line is where its rest begins
    have hrest : rest = buffer.drop (position + line.length + 2) := by
      rw [Nat.add_assoc, ← List.drop_drop, hcut]
      exact (List.drop_left' (by simp [lineEnd])).symm
    dsimp only
    rw [wordSum?_eq_some (by omega), Option.bind_eq_bind, Option.bind_some,
      wordSum?_eq_some (by omega), Option.bind_some]
    rcases line with _ | ⟨first, body⟩
    · rfl
    · dsimp only
      rcases Marker.ofByte? first with _ | marker
      · rfl
      · dsimp only
        rw [hrest]
        exact ofHeaderAt?_eq_ofHeader (by omega) hbuffer

/-- A bulk string does not end before it begins. -/
theorem le_of_readBulkAt? {length : Int64} {token : Token} {after : Nat}
    (h : readBulkAt? limit length buffer next = some (.ok (some (token, after)))) :
    next ≤ after := by
  unfold readBulkAt? at h
  split at h
  · simp only [Option.some.injEq, Except.ok.injEq, Prod.mk.injEq] at h
    exact Nat.le_of_eq h.2
  · dsimp only at h
    split at h
    · cases h
    · obtain ⟨stop, hstop, h⟩ := Option.bind_eq_some_iff.1 h
      obtain ⟨last, hlast, h⟩ := Option.bind_eq_some_iff.1 h
      have hstop := eq_of_wordSum? hstop
      have hlast := eq_of_wordSum? hlast
      split at h
      · cases h
      · obtain ⟨data, -, h⟩ := Option.bind_eq_some_iff.1 h
        cases h
        omega

/-- A token does not end before the place behind its line. -/
theorem le_of_ofHeaderAt? {token : Token} {after : Nat}
    (h : ofHeaderAt? limit marker body buffer next = some (.ok (some (token, after)))) :
    next ≤ after := by
  unfold ofHeaderAt? at h
  cases marker with
  | simple | error =>
    simp only [Option.some.injEq, Except.ok.injEq, Prod.mk.injEq] at h
    exact Nat.le_of_eq h.2
  | integer =>
    rcases hnumber : readNumber body with fault | n
    · simp [hnumber, Except.map] at h
    · simp only [hnumber, Except.map, Option.some.injEq, Except.ok.injEq, Prod.mk.injEq] at h
      exact Nat.le_of_eq h.2
  | bulk =>
    dsimp only at h
    split at h
    · cases h
    · exact le_of_readBulkAt? h
  | array =>
    rcases hread : (readNumber body).bind (readArray limit) with fault | token
    · simp [hread, Except.map] at h
    · simp only [hread, Except.map, Option.some.injEq, Except.ok.injEq, Prod.mk.injEq] at h
      exact Nat.le_of_eq h.2

/-- A token that is read in place begins in the buffer and ends behind that. -/
theorem lt_of_readAt? {token : Token}
    (h : readAt? limit buffer position = some (.ok (some (token, next)))) :
    position < next ∧ position < buffer.length := by
  unfold readAt? at h
  split at h
  · cases h
  · rename_i line rest hline
    have hlength := Bytes.length_lt_of_splitLine hline
    rw [List.length_drop] at hlength
    obtain ⟨stop, hstop, h⟩ := Option.bind_eq_some_iff.1 h
    obtain ⟨after, hafter, h⟩ := Option.bind_eq_some_iff.1 h
    have hstop := eq_of_wordSum? hstop
    have hafter := eq_of_wordSum? hafter
    split at h
    · cases h
    · split at h
      · cases h
      · have hnext := le_of_ofHeaderAt? h
        omega

end Token

/-! ## Open arrays -/

/-- Files a value into the innermost open array, where the number of its missing
elements is counted down by one. -/
def Filing.of? (value : Frame) : List PartialArray → Option Filing
  | [] => some (.whole value)
  | top :: outer => do
    let remaining ← top.remaining.ppred
    if 0 < remaining then return .filed (⟨remaining, value :: top.latest⟩ :: outer)
    else Filing.of? (.array (value :: top.latest).reverse) outer

/-- Where each array misses an element, no count falls below zero. -/
theorem Filing.of?_eq_of (value : Frame) {stack : List PartialArray}
    (h : ∀ array ∈ stack, 0 < array.remaining) :
    Filing.of? value stack = some (Filing.of value stack) := by
  induction stack generalizing value with
  | nil => rfl
  | cons top outer ih =>
    obtain ⟨htop, houter⟩ := List.forall_mem_cons.1 h
    rw [Filing.of?, Filing.of, Nat.ppred_eq_pred htop, Option.bind_eq_bind, Option.bind_some,
      Nat.pred_eq_sub_one]
    split
    · rw [if_neg (by omega)]
      rfl
    · rw [if_pos (by omega)]
      exact ih _ houter

namespace Decoder

/-- How far reading in place came. -/
inductive Halt where
  /-- The bytes ran out; these arrays are open and the rest begins at this place. -/
  | waiting (stack : List PartialArray) (position : Nat)
  /-- A frame is whole and ends at this place. -/
  | complete (frame : Frame) (position : Nat)
  /-- The bytes are no frame. -/
  | failed (fault : DecodeFault)

/-- The same progress, with the place in the buffer where the rest begins for the
rest itself. -/
def Progress.located (buffer : Bytes) : Progress → Halt
  | .waiting stack rest => .waiting stack (buffer.offset rest)
  | .complete frame rest => .complete frame (buffer.offset rest)
  | .failed fault => .failed fault

/-- Reads tokens in place until a frame is whole or the bytes run out. -/
def advanceAt? (limit : Nat) (buffer : Bytes) (stack : List PartialArray) (position : Nat) :
    Option Halt :=
  match _hread : Token.readAt? limit buffer position with
  | none => none
  | some (.error fault) => some (.failed fault)
  | some (.ok none) => some (.waiting stack position)
  | some (.ok (some (.arrayStart length, next))) =>
    if maxDepth ≤ stack.length then some (.failed .tooDeep)
    else advanceAt? limit buffer (⟨length, []⟩ :: stack) next
  | some (.ok (some (.value frame, next))) =>
    match Filing.of? frame stack with
    | none => none
    | some (.whole frame) => some (.complete frame next)
    | some (.filed stack) => advanceAt? limit buffer stack next
termination_by buffer.length - position
decreasing_by all_goals have := Token.lt_of_readAt? _hread; omega

/-- The next frame, read in place. The front of the buffer is cut off behind it. -/
def decodeInPlace? (d : Decoder) : Option (Except DecodeFault (Option Frame) × Decoder) :=
  if d.buffer.isEmpty then some (.ok none, d)
  else if d.limit < d.buffer.length then some (.error .bufferTooLarge, d)
  else
    match advanceAt? d.limit d.buffer d.stack d.position with
    | none => none
    | some (.waiting stack position) => some (.ok none, { d with position, stack })
    | some (.complete frame position) => do
      let rest ← d.buffer.slice? position d.buffer.length
      return (.ok (some frame), { d with buffer := rest, position := 0, stack := [] })
    | some (.failed fault) => some (.error fault, { d with position := 0, stack := [] })

/-- A run in place. -/
def runInPlace? : List Call → Decoder →
    Option (List (Except DecodeFault (Option Frame)) × Decoder)
  | [], d => some ([], d)
  | .append data :: rest, d => runInPlace? rest (d.append data)
  | .decode :: rest, d => do
    let (outcome, next) ← d.decodeInPlace?
    let (outcomes, last) ← runInPlace? rest next
    return (outcome :: outcomes, last)

variable {limit : Nat} {buffer : Bytes} {stack : List PartialArray} {position : Nat}

/-- One turn of reading in place. -/
theorem advanceAt?_eq (limit : Nat) (buffer : Bytes) (stack : List PartialArray)
    (position : Nat) :
    advanceAt? limit buffer stack position =
      match Token.readAt? limit buffer position with
      | none => none
      | some (.error fault) => some (.failed fault)
      | some (.ok none) => some (.waiting stack position)
      | some (.ok (some (.arrayStart length, next))) =>
        if maxDepth ≤ stack.length then some (.failed .tooDeep)
        else advanceAt? limit buffer (⟨length, []⟩ :: stack) next
      | some (.ok (some (.value frame, next))) =>
        match Filing.of? frame stack with
        | none => none
        | some (.whole frame) => some (.complete frame next)
        | some (.filed stack) => advanceAt? limit buffer stack next := by
  rw [advanceAt?]
  split
  · simp [*]
  · simp [*]
  · simp [*]
  · simp [*]
  · rename_i frame next hread
    rcases hfiling : Filing.of? frame stack with _ | _ | _ <;> simp only [hread, hfiling]

/-- **Reading on in place is reading on.** With the arrays open that stand before
the place, no step of the run goes wrong. -/
theorem advanceAt?_eq_advance (h : OpenArrays limit stack (buffer.take position))
    (hposition : position ≤ buffer.length) (hbuffer : buffer.length < 2 ^ 62) :
    advanceAt? limit buffer stack position =
      some ((advance limit stack (buffer.drop position)).located buffer) := by
  generalize hbytes : buffer.drop position = bytes
  fun_induction advance limit stack bytes generalizing position with
  | case1 stack bytes fault hread =>
    rw [advanceAt?_eq, Token.readAt?_eq_read hposition hbuffer, hbytes, hread]
    rfl
  | case2 stack bytes hread =>
    rw [advanceAt?_eq, Token.readAt?_eq_read hposition hbuffer, hbytes, hread, ← hbytes]
    simp [Progress.located, Bytes.offset_drop hposition]
  | case3 stack bytes count after hread hdeep =>
    rw [advanceAt?_eq, Token.readAt?_eq_read hposition hbuffer, hbytes, hread]
    exact if_pos hdeep
  | case4 stack bytes count after hread hroom ih =>
    obtain ⟨header, hcut, hopen⟩ := h.opened hread
    have hat := hbytes.trans hcut
    rw [← Bytes.take_offset hat] at hopen
    rw [advanceAt?_eq, Token.readAt?_eq_read hposition hbuffer, hbytes, hread]
    exact (if_neg hroom).trans (ih hopen (Bytes.offset_le _ _) (Bytes.drop_offset_of_drop hat))
  | case5 stack bytes value after hread whole hfile =>
    have hfiled := Filing.of?_eq_of value fun array hmem => (h.bounds hmem).1
    rw [advanceAt?_eq, Token.readAt?_eq_read hposition hbuffer, hbytes, hread]
    simp only [Token.located_some, hfiled, hfile]
    rfl
  | case6 stack bytes value after hread left hfile ih =>
    obtain ⟨spelling, hcut, hvalue⟩ := Token.spelled_of_read hread
    have hat := hbytes.trans hcut
    have hopen := h.filed hvalue hfile
    rw [← Bytes.take_offset hat] at hopen
    have hfiled := Filing.of?_eq_of value fun array hmem => (h.bounds hmem).1
    rw [advanceAt?_eq, Token.readAt?_eq_read hposition hbuffer, hbytes, hread]
    simp only [Token.located_some, hfiled, hfile]
    exact ih hopen (Bytes.offset_le _ _) (Bytes.drop_offset_of_drop hat)

/-- **`decode` in place is `decode`**: in what a decoder keeps, nothing goes wrong. -/
theorem decodeInPlace?_eq_decode {d : Decoder} (h : d.Saved) (hbuffer : d.buffer.length < 2 ^ 62) :
    d.decodeInPlace? = some d.decode := by
  unfold decodeInPlace? decode
  split
  · rfl
  · split
    · rfl
    · rw [advanceAt?_eq_advance h.openArrays h.position_le hbuffer]
      rcases hadvance : advance d.limit d.stack (d.buffer.drop d.position) with
        ⟨stack, rest⟩ | ⟨frame, rest⟩ | fault
      · rfl
      · have hsuffix := (suffix_of_advance_complete hadvance).trans (List.drop_suffix _ _)
        have hrest : d.buffer.slice? (d.buffer.offset rest) d.buffer.length = some rest := by
          rw [Bytes.slice?_length (Bytes.offset_le _ _), Bytes.drop_offset hsuffix]
        simp only [Progress.located, hrest]
        rfl
      · rfl

/-- A call of `decode` adds nothing to the buffer. -/
theorem length_buffer_decode_le (d : Decoder) : d.decode.2.buffer.length ≤ d.buffer.length := by
  unfold decode
  split
  · exact Nat.le_refl _
  · split
    · exact Nat.le_refl _
    · split
      · exact Nat.le_refl _
      · rename_i frame rest hadvance
        exact ((suffix_of_advance_complete hadvance).trans (List.drop_suffix _ _)).length_le
      · exact Nat.le_refl _

/-- **A run in place is the run**, as long as few enough bytes arrive. -/
theorem runInPlace?_eq_run {d : Decoder} (h : d.Saved) (calls : List Call)
    (hfew : d.buffer.length + (appended calls).length < 2 ^ 62) :
    runInPlace? calls d = some (run calls d) := by
  induction calls generalizing d with
  | nil => rfl
  | cons call rest ih =>
    cases call with
    | append data =>
      refine ih (h.append data) ?_
      simp only [appended, append, List.length_append] at hfew ⊢
      omega
    | decode =>
      have hshorter := length_buffer_decode_le d
      have hnext := ih h.decode (by simp only [appended] at hfew; omega)
      rw [runInPlace?, decodeInPlace?_eq_decode h (by omega)]
      simp only [Option.bind_eq_bind, Option.bind_some, hnext]
      rfl

/-! ## Frames that come out of a run -/

/-- **Every frame that a run gives fits**: the limit could hold the elements of each
array, and arrays are nested no deeper than they may be. -/
theorem fits_of_mem_run {d : Decoder} (h : d.Faithful) {calls : List Call} {frame : Frame}
    (hmem : .ok (some frame) ∈ (run calls d).1) : frame.Fits d.limit maxDepth := by
  induction calls generalizing d with
  | nil => cases hmem
  | cons call rest ih =>
    cases call with
    | append data =>
      have hlater : frame.Fits (d.append data).limit maxDepth := ih (h.append data) hmem
      exact hlater
    | decode =>
      rcases List.mem_cons.1 hmem with hfirst | hlater
      · rw [h.decode_outcome] at hfirst
        rcases hfront : readFront d.limit d.buffer with fault | _ | ⟨found, rest⟩
        · simp [hfront, Except.map] at hfirst
        · simp [hfront, Except.map] at hfirst
        · simp only [hfront, Except.map, Option.map_some, Except.ok.injEq,
            Option.some.injEq] at hfirst
          rw [hfirst]
          rw [readFront_eq_frame (length_le_of_readFront hfront)] at hfront
          exact Descent.fits_of_frame hfront
      · exact decode_limit d ▸ ih h.decode hlater

/-! ## Every run of a new decoder -/

/-- **A decoder keeps in bounds.** Whatever arrives at a new decoder and whenever it
is asked for a frame, with any limit and fewer than `2 ^ 62` bytes in all: it stopped
inside its buffer; what it has read are the arrays that it keeps open, each with its
header and with the elements that have come, where these and the missing ones are as
many as the header announced, at least one is missing, and the limit could hold them
all; no more arrays are open than may be nested. Hence the whole run can be made in
place, where no sum leaves the words, no slice leaves the buffer and no count falls
below zero. In every frame that comes out, the limit could hold the elements of each
array, and arrays with elements are nested no deeper than they may be. -/
theorem run_in_bounds (limit : Nat) (calls : List Call)
    (hfew : (appended calls).length < 2 ^ 62) :
    let (outcomes, d) := run calls { limit }
    d.position ≤ d.buffer.length ∧
      OpenArrays limit d.stack (d.buffer.take d.position) ∧
      (∀ array ∈ d.stack, 0 < array.remaining ∧
        array.latest.length + array.remaining ≤ limit / elementSize) ∧
      d.stack.length ≤ maxDepth ∧
      runInPlace? calls { limit } = some (outcomes, d) ∧
      ∀ frame, .ok (some frame) ∈ outcomes →
        frame.depth ≤ maxDepth ∧ frame.ArraysWithin (limit / elementSize) := by
  have hfresh : ({ limit } : Decoder).Saved := .of_unread rfl rfl
  have hsaved := hfresh.run calls
  have hlimit : (run calls { limit }).2.limit = limit := ((Faithful.fresh limit).run calls).2
  have hopen := hsaved.openArrays
  rw [hlimit] at hopen
  refine ⟨hsaved.position_le, hopen, fun array hmem => hopen.bounds hmem, hsaved.depth_le, ?_, ?_⟩
  · exact runInPlace?_eq_run hfresh calls (by simpa using hfew)
  · intro frame hmem
    have hfits := fits_of_mem_run (Faithful.fresh limit) hmem
    exact ⟨hfits.depth, hfits.arrays⟩

/-- Two arrays are half read, the second inside the first behind a bulk string, when
more bytes arrive than the limit holds. The buffer is not looked at any more, and
what was read stays. -/
theorem run_in_bounds_half_read :
    let calls : List Call :=
      [.append [42, 50, 13, 10, 36, 51, 13, 10, 97, 98, 99, 13, 10, 42, 49, 13, 10], .decode,
        .append (List.replicate 20 58), .decode]
    let d := (run calls { limit := 32 }).2
    ((appended calls).length < 2 ^ 62 ∧ d.position = 17 ∧ d.buffer.length = 37 ∧
        d.stack.map PartialArray.remaining = [1, 1]) ∧
      OpenArrays 32 d.stack (d.buffer.take 17) ∧
      runInPlace? calls { limit := 32 } = some (run calls { limit := 32 }) := by
  intro calls d
  have hfew : (appended calls).length < 2 ^ 62 := by decide
  have hposition : d.position = 17 := by decide +kernel
  obtain ⟨-, hopen, -, -, hrun, -⟩ := run_in_bounds 32 calls hfew
  exact ⟨⟨hfew, hposition, by decide +kernel, by decide +kernel⟩, hposition ▸ hopen, hrun⟩

end Decoder

end RedisClient
