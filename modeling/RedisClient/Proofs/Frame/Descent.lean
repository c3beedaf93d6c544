import RedisClient.Proofs.Frame.Streaming
import RedisClient.Proofs.Frame.Token

/-!
# Recursive descent

What the bytes in a decoder hold can be said without a decoder: `Descent.frame`
reads one frame from the front, an array by reading its elements in turn, and
keeps nothing between two calls. A decoder in any state that it reaches answers
as this reader does on the whole of its buffer, however much of it had been
read before (`Decoder.decode_run_eq_parse`). That rests on one invariant of
the run over tokens (`Decoder.advance_leadsTo`): with `k` arrays open, the
frame that the reader finds inside `k` arrays is the value that is filed next.
-/

namespace RedisClient

namespace Descent

/-- What is found at the front of some bytes, and what follows it; nothing as
long as more bytes are needed. -/
abbrev Front (α : Type) : Type := Option (α × Bytes)

/-- Reads so many elements, one after the other. -/
def elements (element : Bytes → Except DecodeFault (Front Frame)) :
    Nat → Bytes → Except DecodeFault (Front (List Frame))
  | 0, bytes => return some ([], bytes)
  | count + 1, bytes => do
    let some (first, rest) ← element bytes | return none
    let some (others, rest) ← elements element count rest | return none
    return some (first :: others, rest)

/-- Reads one frame, where `items` reads the elements of an array. -/
def frameWith (limit : Nat) (items : Nat → Bytes → Except DecodeFault (Front (List Frame)))
    (bytes : Bytes) : Except DecodeFault (Front Frame) := do
  let some (token, rest) ← Token.read limit bytes | return none
  match token with
  | .value frame => return some (frame, rest)
  | .arrayStart count => do
    let some (elements, rest) ← items count rest | return none
    return some (.array elements, rest)

/-- Reads one frame, inside which so many arrays with elements may be nested. -/
def frame (limit : Nat) : Nat → Bytes → Except DecodeFault (Front Frame)
  | 0 => frameWith limit fun _ _ => throw .tooDeep
  | room + 1 => frameWith limit (elements (frame limit room))

/-- Reads the frame at the front of some bytes, and gives it with its length. -/
def parse (limit : Nat) (bytes : Bytes) : Except DecodeFault (Option (Frame × Nat)) :=
  (frame limit maxDepth bytes).map
    (Option.map fun (frame, rest) => (frame, bytes.length - rest.length))

/-- Elements are read as long as each of them is there. -/
theorem elements_succ (element : Bytes → Except DecodeFault (Front Frame)) (count : Nat)
    (bytes : Bytes) :
    elements element (count + 1) bytes =
      match element bytes with
      | .error fault => .error fault
      | .ok none => .ok none
      | .ok (some (first, rest)) =>
        (elements element count rest).map (Option.map (Prod.map (first :: ·) id)) := by
  simp only [elements, bind, Except.bind]
  cases element bytes with
  | error fault => rfl
  | ok found =>
    cases found with
    | none => rfl
    | some cut =>
      obtain ⟨first, rest⟩ := cut
      dsimp only
      rcases elements element count rest with fault | _ | ⟨others, rest⟩ <;> rfl

/-- A frame is its token, or the array that its token opens. -/
theorem frameWith_eq (limit : Nat)
    (items : Nat → Bytes → Except DecodeFault (Front (List Frame))) (bytes : Bytes) :
    frameWith limit items bytes =
      match Token.read limit bytes with
      | .error fault => .error fault
      | .ok none => .ok none
      | .ok (some (.value frame, rest)) => .ok (some (frame, rest))
      | .ok (some (.arrayStart count, rest)) =>
        (items count rest).map (Option.map (Prod.map .array id)) := by
  simp only [frameWith, bind, Except.bind]
  rcases Token.read limit bytes with fault | _ | ⟨frame | count, rest⟩
  · rfl
  · rfl
  · rfl
  · dsimp only
    rcases items count rest with fault | _ | ⟨elements, after⟩ <;> rfl

end Descent

/-! ## The run over tokens -/

namespace Decoder

open Descent (Front)

variable {limit : Nat} {stack : List PartialArray}

/-- **What reading one frame comes to in a run** that has these arrays open:
the frame is settled, the bytes run out, or the run fails. -/
def LeadsTo (limit : Nat) (stack : List PartialArray) :
    Except DecodeFault (Front Frame) → Progress → Prop
  | .ok (some (frame, rest)), progress => progress = settle limit frame stack rest
  | .ok none, progress => ∃ stack rest, progress = .waiting stack rest
  | .error fault, progress => progress = .failed fault

/-- The elements that an open array still needs lead to the array. -/
theorem advance_leadsTo_array {room : Nat}
    (hframe : ∀ stack bytes, stack.length + room = maxDepth →
      LeadsTo limit stack (Descent.frame limit room bytes) (advance limit stack bytes))
    (hroom : stack.length + 1 + room = maxDepth) (count : Nat) (latest : List Frame)
    (bytes : Bytes) :
    LeadsTo limit stack
      ((Descent.elements (Descent.frame limit room) (count + 1) bytes).map
        (Option.map (Prod.map (fun items => .array (latest.reverse ++ items)) id)))
      (advance limit (⟨count + 1, latest⟩ :: stack) bytes) := by
  induction count generalizing latest bytes with
  | zero =>
    have hfirst := hframe (⟨1, latest⟩ :: stack) bytes hroom
    rw [Descent.elements_succ]
    rcases hread : Descent.frame limit room bytes with fault | _ | ⟨first, rest⟩
    · rwa [hread] at hfirst
    · rwa [hread] at hfirst
    · rw [hread] at hfirst
      exact hfirst.trans (settle_full first latest)
  | succ count ih =>
    have hfirst := hframe (⟨count + 2, latest⟩ :: stack) bytes hroom
    rw [Descent.elements_succ]
    rcases hread : Descent.frame limit room bytes with fault | _ | ⟨first, rest⟩
    · rwa [hread] at hfirst
    · rwa [hread] at hfirst
    · rw [hread] at hfirst
      have hnext : advance limit (⟨count + 2, latest⟩ :: stack) bytes =
          advance limit (⟨count + 1, first :: latest⟩ :: stack) rest :=
        hfirst.trans (settle_next first count latest)
      have hothers := ih (first :: latest) rest
      rw [hnext]
      dsimp only
      -- the element that was read stands behind those that came before it
      rcases helements : Descent.elements (Descent.frame limit room) (count + 1) rest with
        fault | _ | ⟨others, after⟩
      · rwa [helements] at hothers
      · rwa [helements] at hothers
      · rw [helements] at hothers
        have horder : (first :: latest).reverse ++ others = latest.reverse ++ first :: others := by
          simp
        change _ =
          settle limit (.array ((first :: latest).reverse ++ others)) stack after at hothers
        rw [horder] at hothers
        exact hothers

/-- **The run over tokens follows the descent.** With some arrays open, and so
many more that may be nested inside them, it comes to what the frame that is
read next comes to. -/
theorem advance_leadsTo (room : Nat) (hroom : stack.length + room = maxDepth) (bytes : Bytes) :
    LeadsTo limit stack (Descent.frame limit room bytes) (advance limit stack bytes) := by
  induction room generalizing stack bytes with
  | zero =>
    rw [Descent.frame, Descent.frameWith_eq, advance_eq]
    rcases Token.read limit bytes with fault | _ | ⟨frame | count, rest⟩
    · rfl
    · exact ⟨stack, bytes, rfl⟩
    · rfl
    · exact if_pos (by omega)
  | succ room ih =>
    rw [Descent.frame, Descent.frameWith_eq, advance_eq]
    rcases hread : Token.read limit bytes with fault | _ | ⟨frame | count, rest⟩
    · rfl
    · exact ⟨stack, bytes, rfl⟩
    · rfl
    · have hopen : ¬ maxDepth ≤ stack.length := by omega
      dsimp only
      rw [if_neg hopen]
      obtain ⟨hpos, -⟩ := Token.bounds_of_read hread
      obtain ⟨others, rfl⟩ := Nat.exists_eq_add_one.2 hpos
      exact advance_leadsTo_array (fun stack bytes h => ih h bytes) (by omega) others [] rest

/-! ## Every state of a decoder -/

/-- **The front of some bytes is what the descent finds there**, as long as
they fit under the limit. -/
theorem readFront_eq_frame {bytes : Bytes} (hfit : bytes.length ≤ limit) :
    readFront limit bytes = Descent.frame limit maxDepth bytes := by
  have hleads : LeadsTo limit [] (Descent.frame limit maxDepth bytes) (advance limit [] bytes) :=
    advance_leadsTo maxDepth (Nat.zero_add _) bytes
  rw [readFront, if_neg (Nat.not_lt.2 hfit)]
  rcases hframe : Descent.frame limit maxDepth bytes with fault | _ | ⟨frame, rest⟩
  · rw [hframe] at hleads
    rw [hleads]
  · rw [hframe] at hleads
    obtain ⟨stack, rest, hwaiting⟩ := hleads
    rw [hwaiting]
  · rw [hframe] at hleads
    -- with no array open, a value that is settled is the frame itself
    have hcomplete : advance limit [] bytes = .complete frame rest := hleads
    rw [hcomplete]

/-- Every call keeps the limit, and leaves a faithful decoder faithful. -/
theorem Faithful.run {d : Decoder} (h : d.Faithful) (calls : List Call) :
    (Decoder.run calls d).2.Faithful ∧ (Decoder.run calls d).2.limit = d.limit := by
  induction calls generalizing d with
  | nil => exact ⟨h, rfl⟩
  | cons call rest ih =>
    cases call with
    | append data => exact ih (h.append data)
    | decode =>
      obtain ⟨hfaithful, hlimit⟩ := ih h.decode
      exact ⟨hfaithful, hlimit.trans (decode_limit d)⟩

/-- **A decoder refines the recursive descent.** In every state that a decoder
reaches by any calls of `append` and `decode`, whatever arrays are half read in
it, as long as its buffer fits under the limit: `decode` answers what the
descent finds on the whole buffer, takes exactly the bytes of the frame off it
if there is one, and leaves it as it is if there is none. -/
theorem decode_run_eq_parse (limit : Nat) (calls : List Call)
    (hfit : (run calls { limit }).2.buffer.length ≤ limit) :
    let d := (run calls { limit }).2
    d.decode.1 = (Descent.parse limit d.buffer).map (Option.map Prod.fst) ∧
      match Descent.parse limit d.buffer with
      | .ok (some (_, length)) =>
        0 < length ∧ length ≤ d.buffer.length ∧ d.decode.2.buffer = d.buffer.drop length
      | .ok none | .error _ => d.decode.2.buffer = d.buffer := by
  intro d
  obtain ⟨hfaithful, hlimit⟩ := (Faithful.fresh limit).run calls
  change d.limit = limit at hlimit
  have hfront : readFront d.limit d.buffer = Descent.frame limit maxDepth d.buffer := by
    rw [hlimit]
    exact readFront_eq_frame hfit
  have houtcome := hfaithful.decode_outcome
  have hbuffer := hfaithful.decode_buffer
  change d.decode.1 = _ at houtcome
  change d.decode.2.buffer = _ at hbuffer
  rw [hfront] at houtcome hbuffer
  rcases hframe : Descent.frame limit maxDepth d.buffer with fault | _ | ⟨frame, rest⟩
  · rw [hframe] at houtcome hbuffer
    simp only [Descent.parse, hframe]
    exact ⟨houtcome, hbuffer⟩
  · rw [hframe] at houtcome hbuffer
    simp only [Descent.parse, hframe]
    exact ⟨houtcome, hbuffer⟩
  · rw [hframe] at houtcome hbuffer hfront
    simp only [Descent.parse, hframe]
    refine ⟨houtcome, ?_⟩
    -- what is left is the end of the buffer, so the frame's bytes are those before it
    have hadv := advance_of_readFront hfront
    obtain ⟨front, hcut⟩ := suffix_of_advance_complete hadv
    have hlength : front.length + rest.length = d.buffer.length := by
      rw [← hcut, List.length_append]
    have hshorter := length_lt_of_advance hadv
    have hfrontlen : d.buffer.length - rest.length = front.length := by omega
    change 0 < d.buffer.length - rest.length ∧ d.buffer.length - rest.length ≤ d.buffer.length ∧
      d.decode.2.buffer = d.buffer.drop (d.buffer.length - rest.length)
    refine ⟨by omega, by omega, ?_⟩
    rw [hbuffer, hfrontlen, ← hcut, List.drop_left]

/-- An array of which one element has been read and the next is cut, with the
beginning of another frame behind it once the rest has arrived. -/
theorem decode_run_eq_parse_cut :
    let calls : List Call :=
      [.append [42, 50, 13, 10, 58, 55, 13, 10, 58], .decode, .append [56, 13, 10, 43]]
    let d := (run calls { limit := 32 }).2
    (d.buffer.length ≤ 32 ∧ d.stack.length = 1) ∧
      d.decode.1 = .ok (some (.array [.integer 7, .integer 8])) ∧ d.decode.2.buffer = [43] := by
  intro calls d
  have hd : d.buffer = [42, 50, 13, 10, 58, 55, 13, 10, 58, 56, 13, 10, 43] := by decide +kernel
  have hparse : Descent.parse 32 d.buffer =
      .ok (some (.array [.integer 7, .integer 8], 12)) := by
    rw [hd]
    rfl
  have hfit : d.buffer.length ≤ 32 := by
    rw [hd]
    decide
  obtain ⟨houtcome, hbuffer⟩ := decode_run_eq_parse 32 calls hfit
  change d.decode.1 = (Descent.parse 32 d.buffer).map _ at houtcome
  rw [hparse] at houtcome
  refine ⟨⟨hfit, by decide +kernel⟩, houtcome, ?_⟩
  simp only [show (run calls { limit := 32 }).2 = d from rfl, hparse] at hbuffer
  rw [hbuffer.2.2, hd]
  rfl

end Decoder

end RedisClient
