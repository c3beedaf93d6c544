import Mathlib.Data.List.TakeWhile
import RedisClient.Text.Cut

/-!
# Where texts are cut

A cut in front of the first character of some kind, and a cut at the last
occurrence of a character. Each is exact where the parts in front of it, or
behind it, are known to have nothing of the kind.
-/

namespace RedisClient

variable {front rest : List Char} {mark : Char}

/-- **A cut in front of the first character that is not of a class.** -/
theorem span_append {p : Char → Bool} (hfront : ∀ c ∈ front, p c)
    (hrest : ∀ c, rest.head? = some c → p c = false) :
    (front ++ rest).takeWhile p = front ∧ (front ++ rest).dropWhile p = rest := by
  rw [List.takeWhile_append_of_pos hfront, List.dropWhile_append_of_pos hfront]
  cases rest with
  | nil => exact ⟨List.append_nil front, rfl⟩
  | cons c rest =>
    have hc : ¬ p c = true := by simpa using hrest c rfl
    rw [List.takeWhile_cons_of_neg hc, List.dropWhile_cons_of_neg hc]
    exact ⟨List.append_nil front, rfl⟩

/-- No character of a text is a mark that it does not have. -/
theorem bne_of_notMem (h : mark ∉ rest) : ∀ c ∈ rest, (c != mark) = true := by
  intro c hc
  rw [bne_iff_ne]
  rintro rfl
  exact h hc

/-- **A cut at the last mark.** -/
theorem splitLast_append (h : mark ∉ rest) :
    splitLast mark (front ++ mark :: rest) = some (front, rest) := by
  have hback : ∀ c ∈ rest.reverse, (c != mark) = true :=
    bne_of_notMem fun hc => h (List.mem_reverse.1 hc)
  have hmark : ∀ c, (mark :: front.reverse).head? = some c → (c != mark) = false := by simp
  obtain ⟨htake, hdrop⟩ := span_append hback hmark
  have hreverse : (front ++ mark :: rest).reverse = rest.reverse ++ mark :: front.reverse := by simp
  rw [splitLast, hreverse, htake, hdrop]
  simp

/-- A text without the mark is not cut. -/
theorem splitLast_eq_none (h : mark ∉ rest) : splitLast mark rest = none := by
  have hback : ∀ c ∈ rest.reverse, (c != mark) = true :=
    bne_of_notMem fun hc => h (List.mem_reverse.1 hc)
  rw [splitLast, List.dropWhile_eq_nil_iff.2 hback]

/-- **What was cut** is made up of the parts, with the mark between them. -/
theorem eq_append_of_splitLast {text : List Char} (h : splitLast mark text = some (front, rest)) :
    text = front ++ mark :: rest := by
  rw [splitLast] at h
  split at h
  · cases h
  · rename_i first back hdrop
    obtain ⟨rfl, rfl⟩ := Prod.mk.inj (Option.some.inj h)
    -- the character that the cut stops at is the mark
    have hfirst := List.head?_dropWhile_not (· != mark) text.reverse
    rw [hdrop] at hfirst
    obtain rfl : first = mark := by simpa using hfirst
    have hwhole : text.reverse.takeWhile (· != first) ++ first :: back = text.reverse := by
      rw [← hdrop]
      exact List.takeWhile_append_dropWhile
    have hreverse := congrArg List.reverse hwhole
    simpa using hreverse.symm

end RedisClient
