/-!
# Byte strings

Keys, values and everything on the wire are byte strings. The wire is cut into
lines by a carriage return followed by a line feed; `splitLine` makes the cut,
and `splitLine_eq_some` says that nothing is lost by it.
-/

namespace RedisClient

/-- A byte string. -/
abbrev Bytes := List UInt8

/-- The line end of the wire: carriage return, line feed. -/
def lineEnd : Bytes := [13, 10]

namespace Bytes

/-- The bytes before the first line end, and the bytes after it. -/
def splitLine : Bytes → Option (Bytes × Bytes)
  | b :: c :: rest =>
    if b = 13 ∧ c = 10 then some ([], rest)
    else (splitLine (c :: rest)).map fun (line, after) => (b :: line, after)
  | _ => none

/-- The line, the line end and the rest make up the bytes that were cut. -/
theorem splitLine_eq_some {bytes line rest : Bytes} (h : splitLine bytes = some (line, rest)) :
    bytes = line ++ lineEnd ++ rest := by
  fun_induction splitLine bytes generalizing line rest with
  | case1 b c after hbc =>
    simp only [Option.some.injEq, Prod.mk.injEq] at h
    obtain ⟨rfl, rfl⟩ := h
    simp [lineEnd, hbc]
  | case2 b c after hbc ih =>
    simp only [Option.map_eq_some_iff] at h
    obtain ⟨⟨l, r⟩, hlr, heq⟩ := h
    simp only [Prod.mk.injEq] at heq
    obtain ⟨rfl, rfl⟩ := heq
    simp [ih hlr]
  | case3 bytes hshort => simp at h

/-- What follows the first line is shorter than the whole. -/
theorem length_lt_of_splitLine {bytes line rest : Bytes}
    (h : splitLine bytes = some (line, rest)) : rest.length < bytes.length := by
  have := congrArg List.length (splitLine_eq_some h)
  simp [lineEnd] at this
  omega

end Bytes

end RedisClient
