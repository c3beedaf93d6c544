import RedisClient.Frame.Decoder
import RedisClient.Frame.Encoder
import RedisClient.Proofs.Number.Spelling
import RedisClient.Proofs.Text.Utf8

/-!
# Header lines

A header line is written by `Marker.line` or `Marker.header` and read by
`Token.read`. Reading finds the line that was written, since nothing before its
end looks like a line end (`Token.read_line`), and in it the number, however it
is spelled (`Marker.IsHeader`, `Token.read_isHeader`). So what stands behind a
header can be told from the bytes alone (`Marker.header_append_inj`).
-/

namespace RedisClient

/-- **A line without a line end is cut off where it was ended**, whatever
follows. -/
theorem Bytes.splitLine_lineEnd {line : Bytes} (h : ¬ lineEnd <:+: line) (rest : Bytes) :
    splitLine (line ++ lineEnd ++ rest) = some (line, rest) := by
  induction line with
  | nil => rfl
  | cons b line ih =>
    have hline : ¬ lineEnd <:+: line := fun hin => h (List.infix_cons hin)
    have hcut := ih hline
    cases line with
    | nil =>
      have hnot : ¬ (b = 13 ∧ (13 : UInt8) = 10) := by simp
      simp only [List.nil_append, lineEnd, List.cons_append] at hcut ⊢
      rw [splitLine, if_neg hnot, hcut]
      rfl
    | cons c line =>
      -- the line holds no line end, so none is found before its own
      have hnot : ¬ (b = 13 ∧ c = 10) := by
        rintro ⟨rfl, rfl⟩
        exact h ⟨[], line, rfl⟩
      simp only [List.cons_append] at hcut ⊢
      rw [splitLine, if_neg hnot, hcut]
      rfl

/-! ## Numbers -/

namespace Decimal

/-- What a number is spelled with is ASCII and ends no line. -/
theorem ascii_of_mem_spells {n : Int} {text : List Char} {c : Char} (h : Spells n text)
    (hc : c ∈ text) : c.toNat < 128 ∧ c.toNat ≠ 13 := by
  obtain ⟨sign, zeros, rfl, hsign⟩ := h
  rcases List.mem_append.1 hc with hfront | hdigit
  · rcases List.mem_append.1 hfront with hsigned | hzero
    · rcases hsign with ⟨-, rfl | rfl⟩ | ⟨-, rfl⟩
      · cases hsigned
      · obtain rfl := List.mem_singleton.1 hsigned
        decide
      · obtain rfl := List.mem_singleton.1 hsigned
        decide
    · obtain ⟨-, rfl⟩ := List.mem_replicate.1 hzero
      decide
  · have hrange := Char.isDigit_iff_toNat.1 (isDigit_of_mem_ofNat hdigit)
    have hbounds : 48 ≤ c.toNat ∧ c.toNat ≤ 57 := hrange
    omega

/-- So no line ends inside a number. -/
theorem lineEnd_not_infix_of_spells {n : Int} {text : List Char} (h : Spells n text) :
    ¬ lineEnd <:+: Utf8.encode (.ofList text) := by
  intro hin
  have hmem : (13 : UInt8) ∈ Utf8.encode (.ofList text) :=
    hin.subset (by simp [lineEnd])
  rw [Utf8.encode, String.toList_ofList, List.mem_flatMap] at hmem
  obtain ⟨c, hc, hbyte⟩ := hmem
  obtain ⟨hascii, hne⟩ := ascii_of_mem_spells h hc
  rw [Utf8.encodeChar_of_ascii hascii, List.mem_singleton] at hbyte
  have hnat := congrArg UInt8.toNat hbyte
  rw [Utf8.toNat_byte (by omega)] at hnat
  exact hne hnat.symm

/-- The text of a number is read back as its digits. -/
theorem decode_intText (n : Int) : Utf8.decode (Utf8.encode (intText n)) = .ok (ofInt n) :=
  Utf8.decode_encode (ofInt n)

/-- The text of a number ends no line. -/
theorem lineEnd_not_infix_intText (n : Int) : ¬ lineEnd <:+: Utf8.encode (intText n) :=
  lineEnd_not_infix_of_spells (spells_ofInt n)

end Decimal

/-! ## Lines -/

namespace Marker

/-- A marker ends no line either. -/
theorem lineEnd_not_infix_cons (m : Marker) {text : Bytes} (h : ¬ lineEnd <:+: text) :
    ¬ lineEnd <:+: m.byte :: text := by
  rw [List.infix_cons_iff]
  rintro (hpre | hin)
  · have hbyte : 13 = m.byte := (List.cons_prefix_cons.1 hpre).1
    cases m <;> exact absurd hbyte (by decide)
  · exact h hin

/-- A line is cut off where it was ended. -/
theorem splitLine_line (m : Marker) {text : Bytes} (h : ¬ lineEnd <:+: text) (rest : Bytes) :
    (m.line text ++ rest).splitLine = some (m.byte :: text, rest) :=
  Bytes.splitLine_lineEnd (m.lineEnd_not_infix_cons h) rest

/-- A header is the line of its number. -/
theorem header_eq_line (m : Marker) (n : Int) :
    m.header n = m.line (Utf8.encode (Decimal.intText n)) := rfl

/-- **Header lines** of a number of 64 bits: the line of any of its spellings. -/
def IsHeader (m : Marker) (n : Int64) (bytes : Bytes) : Prop :=
  ∃ text, Decimal.Spells n.toInt text ∧ bytes = m.line (Utf8.encode (.ofList text))

/-- A header that is written is one. -/
theorem isHeader_header (m : Marker) (n : Int64) : m.IsHeader n (m.header n.toInt) :=
  ⟨Decimal.ofInt n.toInt, Decimal.spells_ofInt n.toInt, rfl⟩

/-- **Headers are told apart by their bytes**, whatever follows them. -/
theorem header_append_inj {m : Marker} {n k : Int} {rest more : Bytes}
    (h : m.header n ++ rest = m.header k ++ more) : n = k ∧ rest = more := by
  have hcut := congrArg Bytes.splitLine h
  rw [header_eq_line, header_eq_line, splitLine_line m (Decimal.lineEnd_not_infix_intText n),
    splitLine_line m (Decimal.lineEnd_not_infix_intText k)] at hcut
  simp only [Option.some.injEq, Prod.mk.injEq, List.cons.injEq, true_and] at hcut
  obtain ⟨htext, hrest⟩ := hcut
  -- reading the digits back tells the numbers apart
  have hdigits := congrArg Utf8.decode htext
  rw [Decimal.decode_intText, Decimal.decode_intText] at hdigits
  exact ⟨Decimal.ofInt_injective (Except.ok.inj hdigits), hrest⟩

end Marker

namespace Token

variable {limit : Nat}

/-- The line at the front is the header that is read. -/
theorem read_line (m : Marker) {text : Bytes} (h : ¬ lineEnd <:+: text) (rest : Bytes) :
    read limit (m.line text ++ rest) = ofHeader limit m text rest := by
  have hmarker : Marker.ofByte? m.byte = some m := Marker.ofByte?_eq_some_iff.2 rfl
  rw [read, m.splitLine_line h]
  simp only [hmarker]

/-- The header at the front is the header that is read. -/
theorem read_header (m : Marker) (n : Int) (rest : Bytes) :
    read limit (m.header n ++ rest) =
      ofHeader limit m (Utf8.encode (Decimal.intText n)) rest :=
  read_line m (Decimal.lineEnd_not_infix_intText n) rest

/-- **A number is read from its spellings**, and from nothing else. -/
theorem readNumber_eq_ok_iff {body : Bytes} {n : Int64} :
    readNumber body = .ok n ↔
      ∃ text, Decimal.Spells n.toInt text ∧ body = Utf8.encode (.ofList text) := by
  constructor
  · intro h
    rw [readNumber] at h
    split at h
    · cases h
    · rename_i text hdecode
      cases hread : Decimal.readInt64 text with
      | error fault => simp [hread, Except.mapError] at h
      | ok m =>
        rw [hread] at h
        obtain rfl : m = n := Except.ok.inj h
        exact ⟨text, Decimal.readInt64_eq_ok_iff.1 hread, Utf8.decode_eq_ok_iff.1 hdecode⟩
  · rintro ⟨text, hspells, rfl⟩
    rw [readNumber, Utf8.decode_encode]
    simp only [Decimal.readInt64_eq_ok_iff.2 hspells]
    rfl

/-- **A header line is read as its number**, however that is spelled. -/
theorem read_isHeader {m : Marker} {n : Int64} {header : Bytes} (h : m.IsHeader n header) :
    ∃ body, readNumber body = .ok n ∧
      ∀ rest, read limit (header ++ rest) = ofHeader limit m body rest := by
  obtain ⟨text, hspells, rfl⟩ := h
  exact ⟨_, readNumber_eq_ok_iff.2 ⟨text, hspells, rfl⟩,
    read_line m (Decimal.lineEnd_not_infix_of_spells hspells)⟩

/-- A number that has no 64 bits is refused. -/
theorem readNumber_intText_of_out {n : Int} (h : n < -0x8000000000000000 ∨ 0x8000000000000000 ≤ n) :
    ∃ fault, readNumber (Utf8.encode (Decimal.intText n)) = .error fault := by
  obtain ⟨fault, hfault⟩ := Decimal.readInt64_ofInt_of_out h
  refine ⟨.notNumber fault, ?_⟩
  rw [readNumber, Decimal.decode_intText]
  simp only [hfault]
  rfl

end Token

end RedisClient
