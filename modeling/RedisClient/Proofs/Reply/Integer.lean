import RedisClient.Command
import RedisClient.Proofs.Frame.Streaming
import RedisClient.Proofs.Frame.Encoded
import RedisClient.Proofs.Number.Numeral
import RedisClient.Reply.Reading

/-!
# Integers have one syntax

An integer comes in two forms: in a header line, where the decoder reads it, and
as a byte string, where the reader of a reply does. Both accept the numerals of
the numbers of 64 bits and nothing else (`Token.readNumber_eq_ok_iff_numeral`,
`Frame.intOfBytes_eq`), and both write a number as one of its numerals.
-/

namespace RedisClient

/-- **A header's number is read from its numerals**, and from nothing else. -/
theorem Token.readNumber_eq_ok_iff_numeral {body : Bytes} {n : Int64} :
    readNumber body = .ok n ↔ Decimal.Numeral n.toInt body :=
  readNumber_eq_ok_iff.trans Decimal.numeral_iff.symm

/-- **A byte string is read as a header's number is**; only the wording of a fault
is another. -/
theorem Frame.intOfBytes_eq (raw : Bytes) :
    intOfBytes raw =
      (Token.readNumber raw).mapError fun _ => .protocol (.invalidNumber raw) := by
  rw [intOfBytes, Token.readNumber]
  cases Utf8.decode raw with
  | error fault => rfl
  | ok chars =>
    dsimp only [Except.toOption, Option.bind_some]
    cases Decimal.readInt64 chars <;> rfl

/-- **An integer's line** is decoded as the number of its header. -/
theorem Decoder.decode_integer_line {limit : Nat} {body : Bytes} (hline : ¬ lineEnd <:+: body)
    (hfit : (Marker.integer.line body).length ≤ limit) :
    (({ limit } : Decoder).append (Marker.integer.line body)).decode.1 =
      (Token.readNumber body).map fun n => some (.integer n) := by
  have hfaithful := (Faithful.fresh limit).append (Marker.integer.line body)
  have hread : Token.read limit (Marker.integer.line body) =
      (Token.readNumber body).map fun n => some (.value (.integer n), []) := by
    have hheader : Token.read limit (Marker.integer.line body ++ []) =
        Token.ofHeader limit .integer body [] := Token.read_line .integer hline []
    rw [List.append_nil] at hheader
    rw [hheader, Token.ofHeader]
    cases Token.readNumber body <;> rfl
  rw [hfaithful.decode_outcome]
  change (readFront limit (Marker.integer.line body)).map _ = _
  rw [readFront, if_neg (Nat.not_lt.2 hfit), advance_eq, hread]
  cases Token.readNumber body <;> rfl

/-- The numeral that a number is written with. -/
theorem Decimal.numeral_intText (n : Int) : Numeral n (Utf8.encode (intText n)) :=
  numeral_iff.2 ⟨ofInt n, spells_ofInt n, rfl⟩

/-- **Integers have one syntax**, whichever way they come. A byte string has no
line end in it, and fits under a decoder's limit as the line of an integer. The
decoder gives a number for that line exactly if the number is read from the byte
string by itself, and that is so exactly if the byte string is a numeral of the
number: one or more digits behind at most one sign, whose value over all integers
is the number. A byte string that is a numeral of no number of 64 bits is refused
both times. Every number of 64 bits is read back, by the readers of header lines
and of byte strings alike, from the text that it is written with as an argument of
a command and in a header. -/
theorem integers_have_one_syntax (limit : Nat) (spelled : Bytes)
    (hline : ¬ lineEnd <:+: spelled) (hfit : (Marker.integer.line spelled).length ≤ limit) :
    let answer := (({ limit } : Decoder).append (Marker.integer.line spelled)).decode.1
    let value := (Frame.bulk spelled).readInt
    (∀ n : Int64, (answer = .ok (some (.integer n)) ↔ value = .ok n) ∧
        (value = .ok n ↔ Decimal.Numeral n.toInt spelled)) ∧
      ((∀ n : Int64, ¬ Decimal.Numeral n.toInt spelled) →
        (∃ fault, answer = .error fault) ∧
          value = .error (.protocol (.invalidNumber spelled))) ∧
      ∀ n : Int64, ∃ word,
        (∀ command : Command, (command.int n.toInt).args = command.args ++ [word]) ∧
        (∀ marker : Marker, marker.header n.toInt = marker.line word) ∧
        ¬ lineEnd <:+: word ∧ Token.readNumber word = .ok n ∧ (Frame.bulk word).readInt = .ok n := by
  intro answer value
  have hanswer : answer = (Token.readNumber spelled).map fun n => some (.integer n) :=
    Decoder.decode_integer_line hline hfit
  have hvalue : value = (Token.readNumber spelled).mapError fun _ =>
      .protocol (.invalidNumber spelled) := Frame.intOfBytes_eq spelled
  have hread : ∀ n, value = .ok n ↔ Token.readNumber spelled = .ok n := by
    intro n
    rw [hvalue]
    cases Token.readNumber spelled <;> simp [Except.mapError]
  refine ⟨fun n => ⟨?_, (hread n).trans Token.readNumber_eq_ok_iff_numeral⟩, fun hnone => ?_, ?_⟩
  · rw [hread, hanswer]
    cases Token.readNumber spelled <;> simp [Except.map]
  · -- a number that were read would be one that the byte string is a numeral of
    cases hnumber : Token.readNumber spelled with
    | error fault =>
      rw [hanswer, hvalue, hnumber]
      exact ⟨⟨fault, rfl⟩, rfl⟩
    | ok n => exact absurd (Token.readNumber_eq_ok_iff_numeral.1 hnumber) (hnone n)
  · intro n
    have hback : Token.readNumber (Utf8.encode (Decimal.intText n.toInt)) = .ok n :=
      Token.readNumber_eq_ok_iff_numeral.2 (Decimal.numeral_intText n.toInt)
    refine ⟨Utf8.encode (Decimal.intText n.toInt), fun command => rfl, fun marker => rfl,
      Decimal.lineEnd_not_infix_intText n.toInt, hback, ?_⟩
    rw [Frame.readInt, Frame.intOfBytes_eq, hback]
    rfl

/-- The lowest number of 64 bits with a zero in front of its digits, the first
number above the highest, and a sign without digits. -/
theorem integers_have_one_syntax_limits :
    let answer (spelled : String) :=
      (({ limit := 32 } : Decoder).append (Marker.integer.line (Utf8.encode spelled))).decode.1
    let value (spelled : String) := (Frame.bulk (Utf8.encode spelled)).readInt
    (answer "-09223372036854775808" = .ok (some (.integer (-9223372036854775808))) ∧
        value "-09223372036854775808" = .ok (-9223372036854775808)) ∧
      ((∃ fault, answer "9223372036854775808" = .error fault) ∧
        value "9223372036854775808" =
          .error (.protocol (.invalidNumber (Utf8.encode "9223372036854775808")))) ∧
      ∃ fault, answer "+" = .error fault := by
  intro answer value
  -- no number is read where the reader of headers, which is evaluated here, refuses
  have hnone : ∀ {body : Bytes} {fault}, Token.readNumber body = .error fault →
      ∀ n : Int64, ¬ Decimal.Numeral n.toInt body := by
    intro body fault h n hn
    rw [Token.readNumber_eq_ok_iff_numeral.2 hn] at h
    cases h
  have hlowest : Decimal.Numeral (-9223372036854775808 : Int64).toInt
      (Utf8.encode "-09223372036854775808") :=
    Token.readNumber_eq_ok_iff_numeral.1 (by decide +kernel)
  have habove : Token.readNumber (Utf8.encode "9223372036854775808") =
      .error (.notNumber .tooLarge) := by decide +kernel
  have hbare : Token.readNumber (Utf8.encode "+") = .error (.notNumber .badDigit) := by
    decide +kernel
  obtain ⟨hread, -, -⟩ := integers_have_one_syntax 32 (Utf8.encode "-09223372036854775808")
    (by decide +kernel) (by decide +kernel)
  obtain ⟨-, hrefused, -⟩ := integers_have_one_syntax 32 (Utf8.encode "9223372036854775808")
    (by decide +kernel) (by decide +kernel)
  obtain ⟨-, hlone, -⟩ := integers_have_one_syntax 32 (Utf8.encode "+")
    (by decide +kernel) (by decide +kernel)
  have hvalue := (hread _).2.2 hlowest
  exact ⟨⟨(hread _).1.2 hvalue, hvalue⟩, hrefused (hnone habove), (hlone (hnone hbare)).1⟩

end RedisClient
