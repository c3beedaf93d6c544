import RedisClient.Proofs.Frame.Header
import RedisClient.Proofs.Frame.Resumption

/-!
# Reading what was written

The wire form of a frame is read as that frame, or refused by a limit, whatever
bytes follow it (`Decoder.advance_encode`); only a status or error line that
holds a line end is cut short, so frames are taken to be `LineSafe`. Commands
can be told apart as well: bytes that begin with the wire forms of some
commands begin with no others (`Frame.prefix_of_encodeWords_prefix`).
-/

namespace RedisClient

namespace Frame

mutual

/-- No status or error line of the frame holds a line end. -/
def LineSafe : Frame → Prop
  | simple text | error text => ¬ lineEnd <:+: text
  | array items => LineSafeAll items
  | integer _ | bulk _ | nullBulk | nullArray => True

/-- None of the frames has such a line. -/
def LineSafeAll : List Frame → Prop
  | [] => True
  | item :: rest => LineSafe item ∧ LineSafeAll rest

end

end Frame

/-! ## Tokens -/

namespace Token

variable {limit : Nat}

/-- A length that can be written with 64 bits has a header. -/
theorem isHeader_length (m : Marker) {n : Nat} (h : n < 0x8000000000000000) :
    ∃ length : Int64, length.toInt = n ∧ m.IsHeader length (m.header n) := by
  have hint : (Int64.ofInt n).toInt = n := Int64.toInt_ofInt_of_le (by omega) (by omega)
  refine ⟨.ofInt n, hint, ?_⟩
  have hheader := m.isHeader_header (.ofInt n)
  rwa [hint] at hheader

/-- Such a length is not negative. -/
theorem not_neg_of_toInt_eq {length : Int64} {n : Nat} (h : length.toInt = n) :
    ¬ length < 0 ∧ length.toInt.toNat = n := by
  rw [Int64.lt_iff_toInt_lt, Int64.toInt_zero, h]
  omega

/-- A status line is read back. -/
theorem read_simple {text : Bytes} (h : ¬ lineEnd <:+: text) (rest : Bytes) :
    read limit (Marker.simple.line text ++ rest) = .ok (some (.value (.simple text), rest)) :=
  read_line .simple h rest

/-- An error line is read back. -/
theorem read_error {text : Bytes} (h : ¬ lineEnd <:+: text) (rest : Bytes) :
    read limit (Marker.error.line text ++ rest) = .ok (some (.value (.error text), rest)) :=
  read_line .error h rest

section

variable {header : Bytes} {length : Int64}

/-- An integer is read from any header of it. -/
theorem read_integer_of_isHeader {n : Int64} (h : Marker.integer.IsHeader n header)
    (rest : Bytes) : read limit (header ++ rest) = .ok (some (.value (.integer n), rest)) := by
  obtain ⟨body, hnumber, hread⟩ := read_isHeader h
  rw [hread, ofHeader, hnumber]
  rfl

/-- The null spelled as a bulk string is read from any negative length. -/
theorem read_nullBulk_of_isHeader (hneg : length < 0) (h : Marker.bulk.IsHeader length header)
    (rest : Bytes) : read limit (header ++ rest) = .ok (some (.value .nullBulk, rest)) := by
  obtain ⟨body, hnumber, hread⟩ := read_isHeader h
  rw [hread, ofHeader, hnumber]
  exact if_pos hneg

/-- So is the null spelled as an array. -/
theorem read_nullArray_of_isHeader (hneg : length < 0) (h : Marker.array.IsHeader length header)
    (rest : Bytes) : read limit (header ++ rest) = .ok (some (.value .nullArray, rest)) := by
  obtain ⟨body, hnumber, hread⟩ := read_isHeader h
  have hnull : readArray limit length = .ok (.value .nullArray) := if_pos hneg
  rw [hread, ofHeader, hnumber]
  change (readArray limit length >>= fun token => _) = _
  rw [hnull]
  rfl

/-- A bulk string is read from any header of its length, if the limit allows
it, and whatever the two bytes behind it are. -/
theorem read_bulk_of_isHeader {data last : Bytes} (hlength : length.toInt = data.length)
    (h : Marker.bulk.IsHeader length header) (hlast : last.length = 2)
    (hlimit : data.length ≤ limit) (rest : Bytes) :
    read limit (header ++ data ++ last ++ rest) = .ok (some (.value (.bulk data), rest)) := by
  obtain ⟨body, hnumber, hread⟩ := read_isHeader h
  obtain ⟨hneg, hnat⟩ := not_neg_of_toInt_eq hlength
  rw [List.append_assoc, List.append_assoc, hread, ofHeader, hnumber]
  change readBulk limit length (data ++ (last ++ rest)) = _
  have hall : ¬ (data ++ (last ++ rest)).length < data.length + 2 := by
    simp only [List.length_append]
    omega
  have hbehind : (last ++ rest).drop 2 = rest := by rw [← hlast, List.drop_left]
  rw [readBulk, if_neg hneg]
  dsimp only
  rw [hnat, if_neg (by omega), if_neg hall, List.take_left, ← List.drop_drop, List.drop_left,
    hbehind]

/-- The opening of an array is read from any header of its length, if the limit
allows it. -/
theorem read_array_of_isHeader {n : Nat} (hlength : length.toInt = n)
    (h : Marker.array.IsHeader length header) (hlimit : n ≤ limit / elementSize) (rest : Bytes) :
    read limit (header ++ rest) =
      .ok (some (if n = 0 then .value (.array []) else .arrayStart n, rest)) := by
  obtain ⟨body, hnumber, hread⟩ := read_isHeader h
  obtain ⟨hneg, hnat⟩ := not_neg_of_toInt_eq hlength
  have hstart : readArray limit length =
      .ok (if n = 0 then .value (.array []) else .arrayStart n) := by
    rw [readArray, if_neg hneg]
    dsimp only
    rw [hnat, if_neg (by omega)]
    split <;> rfl
  rw [hread, ofHeader, hnumber]
  change (readArray limit length >>= fun token => _) = _
  rw [hstart]
  rfl

end

/-- An integer is read back. -/
theorem read_integer (n : Int64) (rest : Bytes) :
    read limit (Marker.integer.header n.toInt ++ rest) =
      .ok (some (.value (.integer n), rest)) :=
  read_integer_of_isHeader (Marker.integer.isHeader_header n) rest

/-- The null spelled as a bulk string is read back. -/
theorem read_nullBulk (rest : Bytes) :
    read limit (Marker.bulk.header (-1) ++ rest) = .ok (some (.value .nullBulk, rest)) :=
  read_nullBulk_of_isHeader (by decide) (Marker.bulk.isHeader_header (-1)) rest

/-- The null spelled as an array is read back. -/
theorem read_nullArray (rest : Bytes) :
    read limit (Marker.array.header (-1) ++ rest) = .ok (some (.value .nullArray, rest)) :=
  read_nullArray_of_isHeader (by decide) (Marker.array.isHeader_header (-1)) rest

/-- A bulk string is read back, if the limit allows its length. -/
theorem read_bulk {data : Bytes} (hsize : data.length < 0x8000000000000000)
    (hlimit : data.length ≤ limit) (rest : Bytes) :
    read limit (Frame.encodeBulk data ++ rest) = .ok (some (.value (.bulk data), rest)) := by
  obtain ⟨length, hlength, hheader⟩ := isHeader_length .bulk hsize
  exact read_bulk_of_isHeader hlength hheader rfl hlimit rest

/-- One that is longer is refused. -/
theorem read_bulk_of_long {data : Bytes}
    (h : 0x8000000000000000 ≤ data.length ∨ limit < data.length) (rest : Bytes) :
    ∃ fault, read limit (Frame.encodeBulk data ++ rest) = .error fault := by
  rw [Frame.encodeBulk, List.append_assoc, List.append_assoc]
  by_cases hsize : data.length < 0x8000000000000000
  · obtain ⟨length, hlength, hheader⟩ := isHeader_length .bulk hsize
    obtain ⟨body, hnumber, hread⟩ := read_isHeader hheader
    obtain ⟨hneg, hnat⟩ := not_neg_of_toInt_eq hlength
    refine ⟨.bulkTooLong, ?_⟩
    rw [hread, ofHeader, hnumber]
    change readBulk limit length _ = _
    rw [readBulk, if_neg hneg]
    dsimp only
    rw [hnat, if_pos (by omega)]
  · obtain ⟨fault, hfault⟩ := readNumber_intText_of_out (n := data.length) (by omega)
    exact ⟨fault, by rw [read_header, ofHeader, hfault]; rfl⟩

/-- One way or the other. -/
theorem read_bulk_cases (limit : Nat) (data rest : Bytes) :
    (∃ fault, read limit (Frame.encodeBulk data ++ rest) = .error fault) ∨
      read limit (Frame.encodeBulk data ++ rest) = .ok (some (.value (.bulk data), rest)) := by
  by_cases hlong : 0x8000000000000000 ≤ data.length ∨ limit < data.length
  · exact .inl (read_bulk_of_long hlong rest)
  · exact .inr (read_bulk (by omega) (by omega) rest)

/-- The opening of an array is read back, if the limit allows its length. -/
theorem read_array {n : Nat} (hsize : n < 0x8000000000000000) (hlimit : n ≤ limit / elementSize)
    (rest : Bytes) :
    read limit (Marker.array.header n ++ rest) =
      .ok (some (if n = 0 then .value (.array []) else .arrayStart n, rest)) := by
  obtain ⟨length, hlength, hheader⟩ := isHeader_length .array hsize
  exact read_array_of_isHeader hlength hheader hlimit rest

/-- One that is longer is refused. -/
theorem read_array_of_long {n : Nat} (h : 0x8000000000000000 ≤ n ∨ limit / elementSize < n)
    (rest : Bytes) :
    ∃ fault, read limit (Marker.array.header n ++ rest) = .error fault := by
  by_cases hsize : n < 0x8000000000000000
  · obtain ⟨length, hlength, hheader⟩ := isHeader_length .array hsize
    obtain ⟨body, hnumber, hread⟩ := read_isHeader hheader
    obtain ⟨hneg, hnat⟩ := not_neg_of_toInt_eq hlength
    have hlong : readArray limit length = .error .arrayTooLong := by
      rw [readArray, if_neg hneg]
      dsimp only
      rw [hnat, if_pos (by omega)]
    refine ⟨.arrayTooLong, ?_⟩
    rw [hread, ofHeader, hnumber]
    change (readArray limit length >>= fun token => _) = _
    rw [hlong]
    rfl
  · obtain ⟨fault, hfault⟩ := readNumber_intText_of_out (n := (n : Int)) (by omega)
    exact ⟨fault, by rw [read_header, ofHeader, hfault]; rfl⟩

/-- One way or the other. -/
theorem read_array_cases (limit n : Nat) (rest : Bytes) :
    (∃ fault, read limit (Marker.array.header n ++ rest) = .error fault) ∨
      read limit (Marker.array.header n ++ rest) =
        .ok (some (if n = 0 then .value (.array []) else .arrayStart n, rest)) := by
  by_cases hlong : 0x8000000000000000 ≤ n ∨ limit / elementSize < n
  · exact .inl (read_array_of_long hlong rest)
  · exact .inr (read_array (by omega) (by omega) rest)

end Token

/-! ## Frames -/

namespace Decoder

/-- What a value comes to that has just become whole: it is filed, and reading
goes on if an array is still open. -/
def settle (limit : Nat) (frame : Frame) (stack : List PartialArray) (rest : Bytes) : Progress :=
  match Filing.of frame stack with
  | .whole frame => .complete frame rest
  | .filed stack => advance limit stack rest

section

variable {limit : Nat} {stack : List PartialArray} {bytes rest : Bytes}

/-- A value that fills the innermost array up settles that array. -/
theorem settle_full (value : Frame) (latest : List Frame) :
    settle limit value (⟨1, latest⟩ :: stack) rest =
      settle limit (.array (latest.reverse ++ [value])) stack rest := by
  rw [settle, settle, Filing.of, if_pos (by simp), List.reverse_cons]

/-- After any other value the next element is read. -/
theorem settle_next (value : Frame) (count : Nat) (latest : List Frame) :
    settle limit value (⟨count + 2, latest⟩ :: stack) rest =
      advance limit (⟨count + 1, value :: latest⟩ :: stack) rest := by
  rw [settle, Filing.of, if_neg (by simp)]
  rfl

/-- A fault ends the run. -/
theorem advance_of_fault (h : ∃ fault, Token.read limit bytes = .error fault) :
    ∃ fault, advance limit stack bytes = .failed fault := by
  obtain ⟨fault, hread⟩ := h
  exact ⟨fault, by rw [advance_eq, hread]⟩

/-- A value is settled. -/
theorem advance_of_value {frame : Frame}
    (h : Token.read limit bytes = .ok (some (.value frame, rest))) :
    advance limit stack bytes = settle limit frame stack rest := by
  rw [advance_eq, h]
  rfl

end

mutual

/-- **A frame is read back.** Its wire form is settled as the frame, whatever
follows, unless a limit refuses it. -/
theorem advance_encode (limit : Nat) (stack : List PartialArray) (rest : Bytes) :
    (frame : Frame) → frame.LineSafe →
      (∃ fault, advance limit stack (frame.encode ++ rest) = .failed fault) ∨
        advance limit stack (frame.encode ++ rest) = settle limit frame stack rest
  | .simple _, h => .inr (advance_of_value (Token.read_simple h rest))
  | .error _, h => .inr (advance_of_value (Token.read_error h rest))
  | .integer n, _ => .inr (advance_of_value (Token.read_integer n rest))
  | .nullBulk, _ => .inr (advance_of_value (Token.read_nullBulk rest))
  | .nullArray, _ => .inr (advance_of_value (Token.read_nullArray rest))
  | .bulk data, _ => by
    rcases Token.read_bulk_cases limit data rest with hfault | hread
    · exact .inl (advance_of_fault hfault)
    · exact .inr (advance_of_value hread)
  | .array items, h => by
    rw [Frame.encode, List.append_assoc]
    rcases Token.read_array_cases limit items.length (Frame.encodeAll items ++ rest)
      with hfault | hread
    · exact .inl (advance_of_fault hfault)
    · cases items with
      | nil => exact .inr (advance_of_value hread)
      | cons item others =>
        by_cases hdeep : maxDepth ≤ stack.length
        · refine .inl ⟨.tooDeep, ?_⟩
          rw [advance_eq, hread]
          exact if_pos hdeep
        · have hopen : advance limit stack (Marker.array.header (item :: others).length ++
              (Frame.encodeAll (item :: others) ++ rest)) =
                advance limit (⟨(item :: others).length, []⟩ :: stack)
                  (Frame.encodeAll (item :: others) ++ rest) := by
            rw [advance_eq, hread]
            exact if_neg hdeep
          rw [hopen]
          exact advance_encodeAll limit stack [] rest (item :: others) (List.cons_ne_nil _ _) h
termination_by structural frame => frame

/-- So are the elements of an array: the array that they fill up is settled. -/
theorem advance_encodeAll (limit : Nat) (stack : List PartialArray) (latest : List Frame)
    (rest : Bytes) : (items : List Frame) → items ≠ [] → Frame.LineSafeAll items →
      (∃ fault, advance limit (⟨items.length, latest⟩ :: stack)
          (Frame.encodeAll items ++ rest) = .failed fault) ∨
        advance limit (⟨items.length, latest⟩ :: stack) (Frame.encodeAll items ++ rest) =
          settle limit (.array (latest.reverse ++ items)) stack rest
  | item :: others, _, h => by
    rw [Frame.encodeAll, List.append_assoc]
    rcases advance_encode limit (⟨(item :: others).length, latest⟩ :: stack)
      (Frame.encodeAll others ++ rest) item h.1 with hfault | hitem
    · exact .inl hfault
    · rw [hitem]
      cases others with
      | nil => exact .inr (settle_full item latest)
      | cons second more =>
        have horder : (item :: latest).reverse ++ second :: more =
            latest.reverse ++ item :: second :: more := by
          simp
        rw [List.length_cons, List.length_cons, settle_next, ← horder]
        exact advance_encodeAll limit stack (item :: latest) rest (second :: more)
          (List.cons_ne_nil _ _) h.2
termination_by structural items => items

end

/-- At the front of some bytes, a frame's wire form is that frame, unless it is
refused. -/
theorem advance_encode_front (limit : Nat) {frame : Frame} (h : frame.LineSafe) (rest : Bytes) :
    (∃ fault, advance limit [] (frame.encode ++ rest) = .failed fault) ∨
      advance limit [] (frame.encode ++ rest) = .complete frame rest :=
  advance_encode limit [] rest frame h

end Decoder

/-! ## Commands -/

namespace Frame

/-- Bulk strings are told apart by their bytes, whatever follows them. -/
theorem encodeBulk_append_inj {data other rest more : Bytes}
    (h : encodeBulk data ++ rest = encodeBulk other ++ more) : data = other ∧ rest = more := by
  simp only [encodeBulk, List.append_assoc] at h
  obtain ⟨hlength, hbody⟩ := Marker.header_append_inj h
  obtain ⟨hdata, hrest⟩ := List.append_inj hbody (by omega)
  exact ⟨hdata, List.append_cancel_left hrest⟩

/-- So are commands. -/
theorem encodeWords_append_inj {words others : List Bytes} {rest more : Bytes}
    (h : encodeWords words ++ rest = encodeWords others ++ more) :
    words = others ∧ rest = more := by
  simp only [encodeWords, List.append_assoc] at h
  obtain ⟨hlength, hbody⟩ := Marker.header_append_inj h
  -- from here on the headers play no part, only that there are as many words
  clear h
  have hcount : words.length = others.length := by omega
  clear hlength
  induction words generalizing others with
  | nil =>
    cases others with
    | nil => exact ⟨rfl, hbody⟩
    | cons other others => simp at hcount
  | cons word words ih =>
    cases others with
    | nil => simp at hcount
    | cons other others =>
      simp only [List.flatMap_cons, List.append_assoc] at hbody
      obtain ⟨hword, hwords⟩ := encodeBulk_append_inj hbody
      obtain ⟨hothers, hrest⟩ := ih hwords (by simpa using hcount)
      exact ⟨by rw [hword, hothers], hrest⟩

/-- A command takes up bytes. -/
theorem encodeWords_ne_nil (words : List Bytes) : encodeWords words ≠ [] := by
  simp [encodeWords, Marker.header]

/-- **Commands are told apart by the bytes that begin with them.** -/
theorem prefix_of_encodeWords_prefix {commands others : List (List Bytes)}
    (h : commands.flatMap encodeWords <+: others.flatMap encodeWords) : commands <+: others := by
  induction commands generalizing others with
  | nil => exact List.nil_prefix
  | cons words commands ih =>
    obtain ⟨rest, hrest⟩ := h
    cases others with
    | nil => simp [encodeWords_ne_nil] at hrest
    | cons other others =>
      simp only [List.flatMap_cons, List.append_assoc] at hrest
      obtain ⟨hwords, hcommands⟩ := encodeWords_append_inj hrest
      rw [hwords, List.cons_prefix_cons]
      exact ⟨rfl, ih ⟨rest, hcommands⟩⟩

end Frame

end RedisClient
