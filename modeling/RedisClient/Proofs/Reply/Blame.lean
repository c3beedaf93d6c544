import RedisClient.Reply

/-!
# Whose fault a reply is

Reading a reply may fail, but never for anything that the caller has done: what
the server reports is a server error, and a frame of the wrong shape is a
protocol fault (`ReplyKind.read_blamesServer`). The readers are made of smaller
ones, and so is the proof: what blames the server is closed under everything
that readers are made with (`BlamesServer.bind`, `BlamesServer.mapM`).
-/

namespace RedisClient

variable {α β : Type}

/-- A result that is an error, if it is one, of the exchange with a server. -/
def BlamesServer (result : Except Error α) : Prop :=
  ∀ ⦃error : Error⦄, result = .error error → error.kind = .dataAccess

namespace BlamesServer

/-- Nobody is blamed for a success. -/
theorem ok (a : α) : BlamesServer (.ok a : Except Error α) := fun _ h => nomatch h

/-- An error of the exchange. -/
theorem error {error : Error} (h : error.kind = .dataAccess) :
    BlamesServer (.error error : Except Error α) := by
  intro other hother
  obtain rfl := Except.error.inj hother
  exact h

/-- A protocol fault is one. -/
theorem protocol (fault : ProtocolFault) :
    BlamesServer (.error (.protocol fault) : Except Error α) :=
  error rfl

/-- One reading after the other. -/
theorem bind {result : Except Error α} {next : α → Except Error β} (h : BlamesServer result)
    (hnext : ∀ a, BlamesServer (next a)) : BlamesServer (result >>= next) := by
  cases result with
  | ok a => exact hnext a
  | error e => exact error (h rfl)

/-- Readings of all elements of a list. -/
theorem mapM {read : α → Except Error β} (h : ∀ a, BlamesServer (read a)) (items : List α) :
    BlamesServer (items.mapM read) := by
  induction items with
  | nil => exact ok []
  | cons a rest ih =>
    rw [List.mapM_cons]
    exact (h a).bind fun b => ih.bind fun bs => ok (b :: bs)

end BlamesServer

namespace Frame

/-- A frame of the wrong shape. -/
theorem mismatch_blamesServer (frame : Frame) (expected : Shape) :
    BlamesServer (.error (frame.mismatch expected) : Except Error α) := by
  refine .error ?_
  cases frame <;> rfl

/-- A frame as the outcome of a command. -/
theorem toResult_blamesServer (frame : Frame) : BlamesServer frame.toResult := by
  cases frame with
  | error text => exact .error rfl
  | _ => exact .ok _

/-- A byte string that may be missing. -/
theorem readBytes?_blamesServer (frame : Frame) : BlamesServer frame.readBytes? := by
  cases frame with
  | bulk data | simple data => exact .ok (some data)
  | nullBulk | nullArray => exact .ok none
  | error _ | integer _ | array _ => exact mismatch_blamesServer _ _

/-- A byte string. -/
theorem readBytes_blamesServer (frame : Frame) : BlamesServer frame.readBytes := by
  refine frame.readBytes?_blamesServer.bind fun data? => ?_
  cases data? with
  | some data => exact .ok data
  | none => exact .protocol .nullElement

/-- The integer that a byte string spells. -/
theorem intOfBytes_blamesServer (raw : Bytes) : BlamesServer (intOfBytes raw) := by
  unfold intOfBytes
  split
  · exact .ok _
  · exact .protocol (.invalidNumber raw)

/-- The floating-point number that a byte string spells. -/
theorem floatOfBytes_blamesServer (raw : Bytes) : BlamesServer (floatOfBytes raw) := by
  unfold floatOfBytes
  split
  · exact .ok _
  · exact .protocol (.invalidNumber raw)

/-- An integer. -/
theorem readInt_blamesServer (frame : Frame) : BlamesServer frame.readInt := by
  cases frame with
  | integer n => exact .ok n
  | bulk raw => exact intOfBytes_blamesServer raw
  | simple _ | error _ | nullBulk | nullArray | array _ => exact mismatch_blamesServer _ _

/-- A score that may be missing. -/
theorem readFloat?_blamesServer (frame : Frame) : BlamesServer frame.readFloat? := by
  refine frame.readBytes?_blamesServer.bind fun raw? => ?_
  cases raw? with
  | some raw => exact (floatOfBytes_blamesServer raw).bind fun x => .ok (some x)
  | none => exact .ok none

/-- A score. -/
theorem readScore_blamesServer (frame : Frame) : BlamesServer frame.readScore := by
  refine frame.readFloat?_blamesServer.bind fun score? => ?_
  cases score? with
  | some score => exact .ok score
  | none => exact .protocol .nullScore

/-- A text that may be missing. -/
theorem readText?_blamesServer (frame : Frame) : BlamesServer frame.readText? := by
  unfold readText?
  split
  · exact .ok _
  · exact (readBytes?_blamesServer _).bind fun _ => .ok _

/-- The elements of an array. -/
theorem readItems_blamesServer (frame : Frame) : BlamesServer frame.readItems := by
  cases frame with
  | array items => exact .ok items
  | nullArray => exact .ok []
  | simple _ | error _ | integer _ | bulk _ | nullBulk => exact mismatch_blamesServer _ _

/-- The pairs of a flat list. -/
theorem readPairs_blamesServer {second : Bytes → Except Error α}
    (h : ∀ raw, BlamesServer (second raw)) (items : List Frame) :
    BlamesServer (readPairs second items) := by
  unfold readPairs
  split
  · refine .mapM (fun (a, b) => ?_) _
    exact a.readBytes_blamesServer.bind fun key => b.readBytes_blamesServer.bind fun value =>
      (h value).bind fun x => .ok (key, x)
  · exact .protocol .oddLength

/-- The members and scores of a flat list. -/
theorem readMembers_blamesServer (items : List Frame) : BlamesServer (readMembers items) :=
  (readPairs_blamesServer floatOfBytes_blamesServer items).bind fun _ => .ok _

/-- A clock reading. -/
theorem readMillis_blamesServer (frame : Frame) : BlamesServer frame.readMillis := by
  refine frame.readItems_blamesServer.bind fun items => ?_
  split
  · refine (readInt_blamesServer _).bind fun seconds =>
      (readInt_blamesServer _).bind fun micros => ?_
    split
    · exact .ok _
    · exact .protocol .timeRange
  · exact .protocol .timeLength

mutual

/-- Any reply: an error may stand in it at any depth. -/
theorem readValue_blamesServer (frame : Frame) : BlamesServer frame.readValue := by
  cases frame with
  | simple _ | integer _ | bulk _ | nullBulk | nullArray => exact .ok _
  | error _ => exact .error rfl
  | array items => exact (readValues_blamesServer items).bind fun _ => .ok _

/-- Replies in order. -/
theorem readValues_blamesServer (items : List Frame) : BlamesServer (readValues items) := by
  cases items with
  | nil => exact .ok []
  | cons item rest =>
    exact (readValue_blamesServer item).bind fun _ =>
      (readValues_blamesServer rest).bind fun _ => .ok _

end

end Frame

/-- **Reading a reply blames nobody but the server**, whatever the reply is to
mean. -/
theorem ReplyKind.read_blamesServer (kind : ReplyKind) (frame : Frame) :
    BlamesServer (kind.read frame) := by
  cases kind with
  | status => exact frame.toResult_blamesServer.bind fun _ => .ok ()
  | flag => exact frame.readInt_blamesServer.bind fun _ => .ok _
  | integer => exact frame.readInt_blamesServer
  | bytes => exact frame.readBytes_blamesServer
  | optionalBytes => exact frame.readBytes?_blamesServer
  | bytesOrEmpty => exact frame.readBytes?_blamesServer.bind fun _ => .ok _
  | text => exact frame.readText?_blamesServer.bind fun _ => .ok _
  | optionalText => exact frame.readText?_blamesServer
  | list =>
    exact frame.readItems_blamesServer.bind fun items => .mapM Frame.readBytes_blamesServer items
  | map =>
    exact frame.readItems_blamesServer.bind fun items =>
      (Frame.readPairs_blamesServer (fun raw => .ok raw) items).bind fun _ => .ok _
  | scored => exact frame.readItems_blamesServer.bind Frame.readMembers_blamesServer
  | optionalScore => exact frame.readFloat?_blamesServer
  | score => exact frame.readScore_blamesServer
  | millis => exact frame.readMillis_blamesServer
  | value => exact Frame.readValue_blamesServer frame

end RedisClient
