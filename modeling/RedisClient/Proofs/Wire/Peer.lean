import RedisClient.Channel
import RedisClient.Network
import RedisClient.Proofs.Frame.Encoded

/-!
# The other end of a stream

A stream leads to a server that answers every command it receives with one
frame, in order. A `Peer` says what that means for the operations of a stream:
what has reached the server, what has come back, and that nothing comes back
but replies to commands that have reached it, cut as the stream likes and
perhaps with noise behind them: bytes that do not begin with a frame, whether
they are malformed or just stop. An operation that
fails may have sent the beginning of what it was to write, and what it does to
later reads is left open.
-/

namespace RedisClient

/-! ## Replies -/

section

variable (answer : List (List Bytes) → Frame)

/-- The replies to commands that follow others, each of which depends on all
commands up to its own. -/
def answers (before : List (List Bytes)) : List (List Bytes) → List Frame
  | [] => []
  | words :: rest => answer (before ++ [words]) :: answers (before ++ [words]) rest

/-- The bytes of the replies to some commands, the first of all. -/
def replies (commands : List (List Bytes)) : Bytes :=
  (answers answer [] commands).flatMap Frame.encode

/-- Commands are answered one after the other. -/
theorem answers_append (before commands more : List (List Bytes)) :
    answers answer before (commands ++ more) =
      answers answer before commands ++ answers answer (before ++ commands) more := by
  induction commands generalizing before with
  | nil => simp [answers]
  | cons words rest ih => simp [answers, ih]

/-- So are their replies sent. -/
theorem replies_append (commands more : List (List Bytes)) :
    replies answer (commands ++ more) =
      replies answer commands ++ (answers answer commands more).flatMap Frame.encode := by
  rw [replies, answers_append, List.flatMap_append, List.nil_append, replies]

end

/-- Bytes no beginning of which is a whole frame, however it is cut: they are
refused at some point, or never come to an end. -/
def Noise (bytes : Bytes) : Prop :=
  ∀ beginning rest frame, beginning <+: bytes →
    Decoder.advance defaultLimit [] beginning ≠ .complete frame rest

/-- A frame at the beginning is found with all that follows, so it is enough to
look at all of the bytes. -/
theorem noise_of_advance {bytes : Bytes}
    (h : ∀ frame rest, Decoder.advance defaultLimit [] bytes ≠ .complete frame rest) :
    Noise bytes := by
  rintro beginning rest frame ⟨more, rfl⟩ hframe
  refine h frame (rest ++ more) ?_
  rw [Decoder.advance_append, hframe]
  rfl

/-- No bytes are noise. -/
theorem noise_nil : Noise [] :=
  noise_of_advance fun frame rest => by simp [Decoder.advance_nil]

/-! ## Peers -/

/-- What may have come back over a stream: replies to some of the commands that
have reached the server, all of each but perhaps the last, and noise. -/
def Due (answer : List (List Bytes) → Frame) (heard told : Bytes) : Prop :=
  ∃ commands noise, commands.flatMap Frame.encodeWords <+: heard ∧ Noise noise ∧
    told <+: replies answer commands ++ noise

/-- A server at the other end of streams. -/
structure Peer (S : Type) [ByteStream S] where
  /-- The bytes that have reached it. -/
  heard : S → Bytes
  /-- The bytes that have come back. -/
  told : S → Bytes
  /-- The reply to the last of some commands, which it has received in this order. -/
  answer : List (List Bytes) → Frame
  /-- A reply is one frame on the wire. -/
  lineSafe : ∀ commands, (answer commands).LineSafe
  /-- What is written reaches it. -/
  write_ok : ∀ {limit : Option Nat} {data : Bytes} {s s' : S} {count : Nat},
    ByteStream.write limit data s = .ok count s' →
      heard s' = heard s ++ data.take count ∧ told s' = told s
  /-- Of a write that fails, some beginning does. -/
  write_error : ∀ {limit : Option Nat} {data : Bytes} {s s' : S} {fault : StreamFault},
    ByteStream.write limit data s = .error fault s' →
      ∃ count, heard s' = heard s ++ data.take count
  /-- Sending on what has been written adds nothing to it. -/
  flush_ok : ∀ {limit : Option Nat} {s s' : S},
    ByteStream.flush limit s = .ok () s' → heard s' = heard s ∧ told s' = told s
  /-- Nor does it if it fails. -/
  flush_error : ∀ {limit : Option Nat} {s s' : S} {fault : StreamFault},
    ByteStream.flush limit s = .error fault s' → heard s' = heard s
  /-- What is read comes from it. -/
  read_ok : ∀ {limit : Option Nat} {size : Nat} {s s' : S} {bytes : Bytes},
    ByteStream.read limit size s = .ok bytes s' →
      heard s' = heard s ∧ told s' = told s ++ bytes ∧
        (bytes ≠ [] → Due answer (heard s') (told s'))
  /-- Reading sends nothing, also if it fails. -/
  read_error : ∀ {limit : Option Nat} {size : Nat} {s s' : S} {fault : StreamFault},
    ByteStream.read limit size s = .error fault s' → heard s' = heard s
  /-- Nor does ending writing. -/
  shutdown_ok : ∀ {s s' : S},
    (ByteStream.shutdown : EStateM IoFailure S Unit) s = .ok () s' → heard s' = heard s
  /-- Nor does it if it fails. -/
  shutdown_error : ∀ {s s' : S} {failure : IoFailure},
    (ByteStream.shutdown : EStateM IoFailure S Unit) s = .error failure s' → heard s' = heard s

namespace Peer

variable {S : Type} [ByteStream S] (peer : Peer S)

/-- **What is written whole reaches the server whole.** -/
theorem writeAll_ok (limit : Option Nat) (data : Bytes) {s s' : S}
    (h : ByteStream.writeAll limit data s = .ok () s') :
    peer.heard s' = peer.heard s ++ data ∧ peer.told s' = peer.told s := by
  induction hlength : data.length using Nat.strongRecOn generalizing data s with
  | ind length ih =>
    cases data with
    | nil =>
      rw [ByteStream.writeAll] at h
      obtain rfl : s = s' := (EStateM.Result.ok.inj h).2
      exact ⟨(List.append_nil _).symm, rfl⟩
    | cons first rest =>
      rw [ByteStream.writeAll] at h
      simp only [bind, EStateM.bind] at h
      cases hwrite : ByteStream.write limit (first :: rest) s with
      | error fault t => simp [hwrite] at h
      | ok count t =>
        rw [hwrite] at h
        dsimp only at h
        obtain ⟨hheard, htold⟩ := peer.write_ok hwrite
        split at h
        · -- a write that takes nothing fails, and this one has not
          change EStateM.Result.error _ t = _ at h
          simp at h
        · obtain ⟨hheard', htold'⟩ := ih _ (by
            rw [← hlength, List.length_drop, List.length_cons]
            omega) _ h rfl
          rw [hheard', htold', hheard, htold, List.append_assoc, List.take_append_drop]
          exact ⟨rfl, rfl⟩

/-- **What is written in part reaches the server in part.** -/
theorem writeAll_error (limit : Option Nat) (data : Bytes) {s s' : S} {fault : StreamFault}
    (h : ByteStream.writeAll limit data s = .error fault s') :
    ∃ written, written <+: data ∧ peer.heard s' = peer.heard s ++ written := by
  induction hlength : data.length using Nat.strongRecOn generalizing data s with
  | ind length ih =>
    cases data with
    | nil =>
      rw [ByteStream.writeAll] at h
      exact absurd h (by simp [pure, EStateM.pure])
    | cons first rest =>
      rw [ByteStream.writeAll] at h
      simp only [bind, EStateM.bind] at h
      cases hwrite : ByteStream.write limit (first :: rest) s with
      | error fault' t =>
        rw [hwrite] at h
        obtain ⟨rfl, rfl⟩ := EStateM.Result.error.inj h
        obtain ⟨count, hheard⟩ := peer.write_error hwrite
        exact ⟨_, List.take_prefix _ _, hheard⟩
      | ok count t =>
        rw [hwrite] at h
        dsimp only at h
        obtain ⟨hheard, -⟩ := peer.write_ok hwrite
        split at h
        · obtain ⟨-, rfl⟩ := EStateM.Result.error.inj h
          exact ⟨_, List.take_prefix _ _, hheard⟩
        · -- the beginning that this write took, and what of the rest was written
          obtain ⟨written, hpre, hheard'⟩ := ih _ (by
            rw [← hlength, List.length_drop, List.length_cons]
            omega) _ h rfl
          refine ⟨(first :: rest).take count ++ written, ?_, ?_⟩
          · conv => rhs; rw [← List.take_append_drop count (first :: rest)]
            exact (List.prefix_append_right_inj _).2 hpre
          · rw [hheard', hheard, List.append_assoc]

end Peer

/-! ## Rehearsed streams -/

/-- A stream to a server that has rehearsed some commands: it answers those of
them that it has heard, in order. How much each read brings and each write
takes is laid down, or why it fails; past the end of a script, reads find the
end of the stream and writes take everything. -/
structure Rehearsed (answer : List (List Bytes) → Frame) where
  /-- The commands that were rehearsed. -/
  commands : List (List Bytes)
  /-- What becomes of reads. -/
  reads : List (Except StreamFault Nat) := []
  /-- What becomes of writes. -/
  writes : List (Except StreamFault Nat) := []
  /-- The bytes that have reached the server. -/
  heard : Bytes := []
  /-- The bytes that have come back. -/
  told : Bytes := []

namespace Rehearsed

variable {answer : List (List Bytes) → Frame}

/-- Those of the commands, in order, that some bytes begin with. -/
def received : List (List Bytes) → Bytes → List (List Bytes)
  | [], _ => []
  | words :: rest, heard =>
    if (Frame.encodeWords words).isPrefixOf heard then
      words :: received rest (heard.drop (Frame.encodeWords words).length)
    else []

/-- The bytes begin with them. -/
theorem received_prefix (commands : List (List Bytes)) (heard : Bytes) :
    (received commands heard).flatMap Frame.encodeWords <+: heard := by
  induction commands generalizing heard with
  | nil => exact List.nil_prefix
  | cons words rest ih =>
    rw [received]
    split
    · rename_i hpre
      obtain ⟨more, rfl⟩ := List.isPrefixOf_iff_prefix.1 hpre
      have hrest := ih more
      rw [List.drop_left, List.flatMap_cons]
      exact (List.prefix_append_right_inj _).2 hrest
    · exact List.nil_prefix

/-- What has not come back yet of the replies that are due, if what has come
back is some of them. -/
def outstanding (s : Rehearsed answer) : Bytes :=
  if s.told.isPrefixOf (replies answer (received s.commands s.heard)) then
    (replies answer (received s.commands s.heard)).drop s.told.length
  else []

/-- Any part of it that comes back is due. -/
theorem due_outstanding (s : Rehearsed answer) {bytes : Bytes} (hbytes : bytes <+: s.outstanding)
    (hne : bytes ≠ []) : Due answer s.heard (s.told ++ bytes) := by
  refine ⟨received s.commands s.heard, [], received_prefix _ _, noise_nil, ?_⟩
  rw [List.append_nil]
  unfold outstanding at hbytes
  split at hbytes
  · rename_i hpre
    obtain ⟨more, hmore⟩ := List.isPrefixOf_iff_prefix.1 hpre
    rw [← hmore] at hbytes ⊢
    rw [List.drop_left] at hbytes
    exact (List.prefix_append_right_inj _).2 hbytes
  · exact absurd (List.prefix_nil.1 hbytes) hne

instance : ByteStream (Rehearsed answer) where
  read _ size := fun s =>
    match s.reads with
    | [] => .ok [] s
    | .error fault :: reads => .error fault { s with reads }
    | .ok count :: reads =>
      let bytes := s.outstanding.take (min size count)
      .ok bytes { s with reads, told := s.told ++ bytes }
  write _ data := fun s =>
    match s.writes with
    | [] => .ok data.length { s with heard := s.heard ++ data }
    | .error fault :: writes => .error fault { s with writes }
    | .ok count :: writes =>
      .ok (min count data.length) { s with writes, heard := s.heard ++ data.take count }
  flush _ := fun s => .ok () s
  shutdown := fun s => .ok () s

/-- A network on which every node is reached by one stream. -/
instance : Network (Rehearsed answer) (Rehearsed answer) where
  dial _ _ stream := (.ok stream, stream)

/-- The server at the other end. -/
def peer (hsafe : ∀ commands, (answer commands).LineSafe) : Peer (Rehearsed answer) where
  heard := heard
  told := told
  answer := answer
  lineSafe := hsafe
  write_ok {_ data s _ _} h := by
    simp only [ByteStream.write] at h
    split at h
    · obtain ⟨rfl, rfl⟩ := EStateM.Result.ok.inj h
      simp
    · simp at h
    · obtain ⟨rfl, rfl⟩ := EStateM.Result.ok.inj h
      simp [List.take_eq_take_iff]
  write_error {_ _ s _ _} h := by
    simp only [ByteStream.write] at h
    split at h
    · simp at h
    · obtain ⟨-, rfl⟩ := EStateM.Result.error.inj h
      exact ⟨0, by simp⟩
    · simp at h
  flush_ok h := by
    obtain ⟨-, rfl⟩ := EStateM.Result.ok.inj h
    exact ⟨rfl, rfl⟩
  flush_error h := by simp [ByteStream.flush] at h
  read_ok {_ _ s _ _} h := by
    simp only [ByteStream.read] at h
    split at h
    · obtain ⟨rfl, rfl⟩ := EStateM.Result.ok.inj h
      simp
    · simp at h
    · obtain ⟨rfl, rfl⟩ := EStateM.Result.ok.inj h
      exact ⟨rfl, rfl, due_outstanding s (List.take_prefix _ _)⟩
  read_error {_ _ s _ _} h := by
    simp only [ByteStream.read] at h
    split at h
    · simp at h
    · obtain ⟨-, rfl⟩ := EStateM.Result.error.inj h
      rfl
    · simp at h
  shutdown_ok h := by
    obtain ⟨-, rfl⟩ := EStateM.Result.ok.inj h
    rfl
  shutdown_error h := by simp [ByteStream.shutdown] at h

end Rehearsed

end RedisClient
