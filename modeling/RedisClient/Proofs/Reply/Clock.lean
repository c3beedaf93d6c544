import RedisClient.Proofs.Reply.Pairs

/-!
# Clock readings

A server tells the time in seconds and microseconds, two integers of 64 bits, and
`Frame.readMillis` puts them together to milliseconds. The seconds are multiplied
first, and a product that has no 64 bits is refused even where the microseconds
would bring the sum back into the range. What is given is exact all the same
(`Frame.millis?_eq_some_iff`), and from the epoch on nothing is refused but a time
that has no 64 bits in milliseconds (`Frame.millis?_of_nonneg`).
-/

namespace RedisClient

namespace Frame

variable {n : Int} {v seconds micros : Int64}

/-! ## Integers of 64 bits -/

/-- **An integer has 64 bits** if it is the value of a number that has. -/
theorem int64?_eq_some_iff : int64? n = some v ↔ v.toInt = n := by
  have hlow := v.le_toInt
  have hhigh := v.toInt_lt
  constructor
  · intro h
    rw [int64?] at h
    split at h
    · rename_i hrange
      obtain rfl := Option.some.inj h
      exact Int64.toInt_ofInt_of_le (by omega) (by omega)
    · cases h
  · rintro rfl
    rw [int64?, if_pos (by omega), Int64.ofInt_toInt]

/-- Otherwise it is out of range. -/
theorem int64?_eq_none_iff : int64? n = none ↔ n < -0x8000000000000000 ∨ 0x8000000000000000 ≤ n := by
  rw [int64?]
  split
  · simp only [reduceCtorEq, false_iff]
    omega
  · simp only [true_iff]
    omega

/-- An integer in the range has them. -/
theorem exists_int64?_eq_some (hlow : -0x8000000000000000 ≤ n) (hhigh : n < 0x8000000000000000) :
    ∃ v, int64? n = some v := by
  refine Option.ne_none_iff_exists'.1 fun hnone => ?_
  have hout := int64?_eq_none_iff.1 hnone
  omega

/-! ## Milliseconds -/

/-- **What is given is exact**: the seconds and the microseconds in milliseconds,
where the microseconds are cut off towards zero. It is given if the seconds alone
have 64 bits in milliseconds, and so has the sum. -/
theorem millis?_eq_some_iff :
    millis? seconds micros = some v ↔
      (-0x8000000000000000 ≤ seconds.toInt * 1000 ∧ seconds.toInt * 1000 < 0x8000000000000000) ∧
        v.toInt = seconds.toInt * 1000 + micros.toInt.tdiv 1000 := by
  simp only [millis?, bind, Option.bind_eq_some_iff, int64?_eq_some_iff]
  constructor
  · rintro ⟨whole, hwhole, hsum⟩
    have hlow := whole.le_toInt
    have hhigh := whole.toInt_lt
    exact ⟨by omega, by omega⟩
  · rintro ⟨⟨hlow, hhigh⟩, hsum⟩
    obtain ⟨whole, hwhole⟩ := exists_int64?_eq_some hlow hhigh
    have hvalue := int64?_eq_some_iff.1 hwhole
    exact ⟨whole, hvalue, by omega⟩

/-- **From the epoch on** nothing else is refused than a time that has no 64 bits
in milliseconds: the product is no larger than the sum. -/
theorem millis?_of_nonneg (hseconds : 0 ≤ seconds.toInt) (hmicros : 0 ≤ micros.toInt) :
    millis? seconds micros = int64? ((seconds.toInt * 1000000 + micros.toInt) / 1000) := by
  have hcut : micros.toInt.tdiv 1000 = micros.toInt / 1000 :=
    Int.tdiv_eq_ediv_of_nonneg hmicros
  refine Option.ext fun v => ?_
  have hhigh := v.toInt_lt
  rw [millis?_eq_some_iff, int64?_eq_some_iff, hcut]
  constructor
  · rintro ⟨-, hsum⟩
    omega
  · intro hsum
    exact ⟨by omega, by omega⟩

/-! ## Replies -/

/-- A reply of two elements is read as its two integers. -/
theorem readMillis_of_lists_two {reply first second : Frame} (hlists : reply.Lists [first, second])
    (hseconds : first.readInt = .ok seconds) (hmicros : second.readInt = .ok micros) :
    reply.readMillis =
      match millis? seconds micros with
      | some millis => .ok millis
      | none => .error (.protocol .timeRange) := by
  have hitems := readItems_eq_ok_iff.2 hlists
  simp only [readMillis, hitems, hseconds, hmicros, bind, Except.bind]
  cases millis? seconds micros <;> rfl

/-- One of any other length is refused. -/
theorem readMillis_of_lists {reply : Frame} {items : List Frame} (hlists : reply.Lists items)
    (hlength : items.length ≠ 2) : reply.readMillis = .error (.protocol .timeLength) := by
  have hitems := readItems_eq_ok_iff.2 hlists
  simp only [readMillis, hitems, bind, Except.bind]
  match items, hlength with
  | [], _ | [_], _ | _ :: _ :: _ :: _, _ => rfl

/-- **A clock reading is exact.** A reply has two elements that are integers of 64
bits, seconds and microseconds. Whatever is read from it is their sum in
milliseconds over the integers, the microseconds cut off towards zero; it is read
if the seconds have 64 bits in milliseconds and so has the sum, and otherwise the
reply is refused as out of range. For a time that is not before the epoch what is
read is the number of whole milliseconds, and it is refused exactly if that number
has no 64 bits. A reply of any other length is refused for its length. -/
theorem clock_reading_exact {first second : Frame} (hseconds : first.readInt = .ok seconds)
    (hmicros : second.readInt = .ok micros) :
    let reading := (array [first, second]).readMillis
    let total := (seconds.toInt * 1000000 + micros.toInt) / 1000
    (∀ v, reading = .ok v ↔
        (-0x8000000000000000 ≤ seconds.toInt * 1000 ∧ seconds.toInt * 1000 < 0x8000000000000000) ∧
          v.toInt = seconds.toInt * 1000 + micros.toInt.tdiv 1000) ∧
      ((∃ v, reading = .ok v) ∨ reading = .error (.protocol .timeRange)) ∧
      (0 ≤ seconds.toInt → 0 ≤ micros.toInt →
        (∀ v, reading = .ok v ↔ v.toInt = total) ∧
          (reading = .error (.protocol .timeRange) ↔ 0x8000000000000000 ≤ total)) ∧
      ∀ (reply : Frame) (items : List Frame), reply.Lists items → items.length ≠ 2 →
        reply.readMillis = .error (.protocol .timeLength) := by
  intro reading total
  have hreading : reading = match millis? seconds micros with
      | some millis => .ok millis
      | none => .error (.protocol .timeRange) :=
    readMillis_of_lists_two (.inl rfl) hseconds hmicros
  have hok : ∀ v, reading = .ok v ↔ millis? seconds micros = some v := by
    intro v
    rw [hreading]
    cases millis? seconds micros <;> simp
  have herror : reading = .error (.protocol .timeRange) ↔ millis? seconds micros = none := by
    rw [hreading]
    cases millis? seconds micros <;> simp
  refine ⟨fun v => (hok v).trans millis?_eq_some_iff, ?_, ?_, fun reply items => readMillis_of_lists⟩
  · cases hmillis : millis? seconds micros with
    | some v => exact .inl ⟨v, (hok v).2 hmillis⟩
    | none => exact .inr (herror.2 hmillis)
  · intro hs hu
    have hmillis : millis? seconds micros = int64? total := millis?_of_nonneg hs hu
    refine ⟨fun v => ?_, ?_⟩
    · rw [hok, hmillis, int64?_eq_some_iff]
    · -- such a time is not too early, so out of range it is too late
      have hpos : 0 ≤ total := by omega
      rw [herror, hmillis, int64?_eq_none_iff]
      omega

/-- The last millisecond that has 64 bits, and the first microsecond behind it. -/
theorem clock_reading_exact_last :
    let reading (micros : String) :=
      (array [integer 9223372036854775, bulk (Utf8.encode micros)]).readMillis
    reading "807999" = .ok 9223372036854775807 ∧
      reading "808000" = .error (.protocol .timeRange) ∧
      nullArray.readMillis = .error (.protocol .timeLength) := by
  intro reading
  have hseconds : (integer 9223372036854775).readInt = .ok 9223372036854775 := rfl
  have hlast : (bulk (Utf8.encode "807999")).readInt = .ok 807999 := by rfl
  have hnext : (bulk (Utf8.encode "808000")).readInt = .ok 808000 := by rfl
  obtain ⟨-, -, hread, hlength⟩ := clock_reading_exact hseconds hlast
  obtain ⟨-, -, hrefused, -⟩ := clock_reading_exact hseconds hnext
  exact ⟨((hread (by decide) (by decide)).1 _).2 (by decide),
    (hrefused (by decide) (by decide)).2.2 (by decide),
    hlength nullArray [] (.inr ⟨rfl, rfl⟩) (by decide)⟩

end Frame

end RedisClient
