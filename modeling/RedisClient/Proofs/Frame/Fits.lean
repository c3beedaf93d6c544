import RedisClient.Proofs.Frame.Descent

/-!
# What a decoder can hold

Limits of three kinds stand between a frame and a decoder's answer: the length
of an array is held against the size of what may be held at all, arrays are
nested no deeper than there is room, and a status or error line ends at its
first line end. `Frame.Fits` says that a frame keeps to them, and whatever is
found in some bytes does (`Descent.fits_of_frame`).
-/

namespace RedisClient

/-! ## What is asked of a frame -/

namespace Frame

mutual

/-- How deep arrays with elements are nested. An array without any adds no
level. -/
def depth : Frame → Nat
  | array items => if items.isEmpty then 0 else depthAll items + 1
  | simple _ | error _ | integer _ | bulk _ | nullBulk | nullArray => 0

/-- How deep they are nested in the deepest of the frames. -/
def depthAll : List Frame → Nat
  | [] => 0
  | item :: rest => max item.depth (depthAll rest)

end

mutual

/-- No array anywhere in the frame has more than so many elements. -/
def ArraysWithin (count : Nat) : Frame → Prop
  | array items => items.length ≤ count ∧ ArraysWithinAll count items
  | simple _ | error _ | integer _ | bulk _ | nullBulk | nullArray => True

/-- No array in any of the frames has. -/
def ArraysWithinAll (count : Nat) : List Frame → Prop
  | [] => True
  | item :: rest => ArraysWithin count item ∧ ArraysWithinAll count rest

end

/-- The deepest of the frames is as deep as its depth says. -/
theorem depthAll_le_iff {items : List Frame} {room : Nat} :
    depthAll items ≤ room ↔ ∀ item ∈ items, item.depth ≤ room := by
  induction items with
  | nil => simp [depthAll]
  | cons item rest ih => rw [depthAll, Nat.max_le, ih, List.forall_mem_cons]

/-- The arrays of all frames are those of each. -/
theorem arraysWithinAll_iff {items : List Frame} {count : Nat} :
    ArraysWithinAll count items ↔ ∀ item ∈ items, item.ArraysWithin count := by
  induction items with
  | nil => simp [ArraysWithinAll]
  | cons item rest ih => simp [ArraysWithinAll, ih]

/-- The lines of all frames are those of each. -/
theorem lineSafeAll_iff {items : List Frame} :
    LineSafeAll items ↔ ∀ item ∈ items, item.LineSafe := by
  induction items with
  | nil => simp [LineSafeAll]
  | cons item rest ih => simp [LineSafeAll, ih]

/-- **What a limit and the nesting leave room for.** -/
structure Fits (limit room : Nat) (frame : Frame) : Prop where
  /-- The limit could hold the elements of each array. -/
  arrays : frame.ArraysWithin (limit / elementSize)
  /-- There is room for the arrays inside each other. -/
  depth : frame.depth ≤ room
  /-- No line is cut short. -/
  lines : frame.LineSafe

variable {limit room : Nat} {frame : Frame} {items : List Frame}

/-- Only an array with elements needs room. -/
theorem Fits.of_whole (hlines : frame.LineSafe)
    (hwhole : ∀ items, frame = .array items → items = []) : frame.Fits limit room := by
  cases frame with
  | array items =>
    obtain rfl := hwhole items rfl
    exact ⟨⟨Nat.zero_le _, trivial⟩, Nat.zero_le _, hlines⟩
  | simple | error | integer | bulk | nullBulk | nullArray =>
    exact ⟨trivial, Nat.zero_le _, hlines⟩

/-- An array needs room for itself and, inside, for each of its elements. -/
theorem fits_array_iff (hne : items ≠ []) :
    (array items).Fits limit room ↔
      items.length ≤ limit / elementSize ∧ 0 < room ∧
        ∀ item ∈ items, item.Fits limit (room - 1) := by
  have hdepth : (array items).depth = depthAll items + 1 := by
    rw [depth, if_neg (by simpa using hne)]
  constructor
  · rintro ⟨⟨hlength, harrays⟩, hroom, hlines⟩
    rw [hdepth] at hroom
    have hinside : depthAll items ≤ room - 1 := by omega
    refine ⟨hlength, by omega, fun item hitem => ⟨?_, ?_, ?_⟩⟩
    · exact arraysWithinAll_iff.1 harrays item hitem
    · exact depthAll_le_iff.1 hinside item hitem
    · exact lineSafeAll_iff.1 hlines item hitem
  · rintro ⟨hlength, hpos, hitems⟩
    refine ⟨⟨hlength, ?_⟩, ?_, ?_⟩
    · exact arraysWithinAll_iff.2 fun item hitem => (hitems item hitem).arrays
    · have hinside : depthAll items ≤ room - 1 :=
        depthAll_le_iff.2 fun item hitem => (hitems item hitem).depth
      omega
    · exact lineSafeAll_iff.2 fun item hitem => (hitems item hitem).lines

/-- A frame either is an array with elements or needs no room. -/
theorem whole_or_array (frame : Frame) :
    (∀ items, frame = .array items → items = []) ∨ ∃ items, frame = .array items ∧ items ≠ [] := by
  cases frame with
  | array items =>
    by_cases hempty : items = []
    · exact .inl fun others hothers => by rw [← array.inj hothers, hempty]
    · exact .inr ⟨items, rfl, hempty⟩
  | simple | error | integer | bulk | nullBulk | nullArray => exact .inl (by simp)

end Frame

/-! ## What is found -/

namespace Descent

variable {limit room : Nat} {bytes rest : Bytes}

/-- Elements that are found are a first one and others behind it. -/
theorem of_elements_succ {element : Bytes → Except DecodeFault (Front Frame)} {count : Nat}
    {items : List Frame} (h : elements element (count + 1) bytes = .ok (some (items, rest))) :
    ∃ first others after, items = first :: others ∧
      element bytes = .ok (some (first, after)) ∧
      elements element count after = .ok (some (others, rest)) := by
  rw [elements_succ] at h
  rcases hfirst : element bytes with fault | _ | ⟨first, after⟩
  · simp [hfirst] at h
  · simp [hfirst] at h
  · simp only [hfirst] at h
    rcases hothers : elements element count after with fault | _ | ⟨others, last⟩
    · simp [hothers, Except.map] at h
    · simp [hothers, Except.map] at h
    · simp only [hothers, Except.map, Option.map_some, Prod.map_apply, Except.ok.injEq,
        Option.some.injEq, Prod.mk.injEq] at h
      obtain ⟨rfl, rfl⟩ := h
      exact ⟨first, others, after, rfl, rfl, hothers⟩

/-- A frame that is found is the value of its token, or an array with the
elements that its token asks for. -/
theorem of_frameWith {items : Nat → Bytes → Except DecodeFault (Front (List Frame))}
    {found : Frame} (h : frameWith limit items bytes = .ok (some (found, rest))) :
    Token.read limit bytes = .ok (some (.value found, rest)) ∨
      ∃ count elements after, found = .array elements ∧
        Token.read limit bytes = .ok (some (.arrayStart count, after)) ∧
        items count after = .ok (some (elements, rest)) := by
  rw [frameWith_eq] at h
  rcases hread : Token.read limit bytes with fault | _ | ⟨value | count, after⟩
  · simp [hread] at h
  · simp [hread] at h
  · simp only [hread, Except.ok.injEq, Option.some.injEq, Prod.mk.injEq] at h
    obtain ⟨rfl, rfl⟩ := h
    exact .inl rfl
  · simp only [hread] at h
    rcases helements : items count after with fault | _ | ⟨elements, last⟩
    · simp [helements, Except.map] at h
    · simp [helements, Except.map] at h
    · simp only [helements, Except.map, Option.map_some, Prod.map_apply, Except.ok.injEq,
        Option.some.injEq, Prod.mk.injEq] at h
      obtain ⟨rfl, rfl⟩ := h
      exact .inr ⟨count, elements, after, rfl, rfl, helements⟩

/-- Elements that are found are as many as were asked for, and each of them was
found. -/
theorem of_elements {element : Bytes → Except DecodeFault (Front Frame)} {P : Frame → Prop}
    (h : ∀ {bytes frame rest}, element bytes = .ok (some (frame, rest)) → P frame) {count : Nat}
    {items : List Frame} (hitems : elements element count bytes = .ok (some (items, rest))) :
    items.length = count ∧ ∀ item ∈ items, P item := by
  induction count generalizing bytes items with
  | zero =>
    simp only [elements, pure, Except.pure, Except.ok.injEq, Option.some.injEq,
      Prod.mk.injEq] at hitems
    obtain ⟨rfl, -⟩ := hitems
    exact ⟨rfl, by simp⟩
  | succ count ih =>
    obtain ⟨first, others, after, rfl, hfirst, hothers⟩ := of_elements_succ hitems
    obtain ⟨hlength, hall⟩ := ih hothers
    exact ⟨by rw [List.length_cons, hlength], List.forall_mem_cons.2 ⟨h hfirst, hall⟩⟩

/-- **A frame that is found fits**, whatever the bytes are. -/
theorem fits_of_frame {found : Frame} (h : frame limit room bytes = .ok (some (found, rest))) :
    found.Fits limit room := by
  induction room generalizing bytes found rest with
  | zero =>
    rcases of_frameWith h with hvalue | ⟨count, items, after, -, -, hitems⟩
    · obtain ⟨hlines, hwhole⟩ := Token.value_of_read hvalue
      exact .of_whole hlines hwhole
    · cases hitems
  | succ room ih =>
    rcases of_frameWith h with hvalue | ⟨count, items, after, rfl, hopen, hitems⟩
    · obtain ⟨hlines, hwhole⟩ := Token.value_of_read hvalue
      exact .of_whole hlines hwhole
    · obtain ⟨hpos, hcount⟩ := Token.bounds_of_read hopen
      obtain ⟨hlength, hall⟩ := of_elements ih hitems
      have hne : items ≠ [] := List.length_pos_iff.1 (by omega)
      exact (Frame.fits_array_iff hne).2 ⟨by omega, by omega, hall⟩

end Descent

end RedisClient
