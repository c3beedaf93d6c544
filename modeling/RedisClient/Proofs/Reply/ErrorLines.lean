import RedisClient.Reply
import RedisClient.Scan

/-!
# Error lines in replies

The server may report an error anywhere in a reply, also inside of arrays. Every
reader of a result finds out: what it accepts has no error line at any depth
(`RevealsErrors`). A reader that goes on behind another one inherits this
(`RevealsErrors.bind`); what has to be shown by itself is that no element of an
array is passed over, be it read one by one, in pairs or as part of a page. A
reader of any reply reports the first error line from the left
(`Frame.readValue_eq`).
-/

namespace RedisClient

variable {α β : Type}

namespace Frame

/-- **A frame in a frame**, at any depth: the frame itself or one in an element. -/
inductive Contains (inner : Frame) : Frame → Prop
  /-- A frame is in itself. -/
  | self : Contains inner inner
  /-- What is in an element is in the array. -/
  | element {item : Frame} {items : List Frame} :
      item ∈ items → Contains inner item → Contains inner (array items)

mutual

/-- The texts of the error lines in a frame, from the left. -/
def errorLines : Frame → List Bytes
  | error text => [text]
  | array items => errorLinesAll items
  | simple _ | integer _ | bulk _ | nullBulk | nullArray => []

/-- The texts of the error lines in some frames, from the left. -/
def errorLinesAll : List Frame → List Bytes
  | [] => []
  | item :: rest => errorLines item ++ errorLinesAll rest

end

/-- Frames have no error lines if none of them has. -/
theorem errorLinesAll_eq_nil_iff {items : List Frame} :
    errorLinesAll items = [] ↔ ∀ item ∈ items, item.errorLines = [] := by
  induction items with
  | nil => simp [errorLinesAll]
  | cons item rest ih => simp [errorLinesAll, ih]

mutual

/-- The error lines of a frame are the errors that it contains. -/
theorem mem_errorLines_iff (text : Bytes) (frame : Frame) :
    text ∈ frame.errorLines ↔ Contains (error text) frame := by
  cases frame with
  | error other =>
    rw [errorLines, List.mem_singleton]
    constructor
    · rintro rfl
      exact .self
    · intro h
      cases h
      rfl
  | array items =>
    rw [errorLines, mem_errorLinesAll_iff text items]
    constructor
    · rintro ⟨item, hmem, h⟩
      exact .element hmem h
    · intro h
      cases h with
      | element hmem h => exact ⟨_, hmem, h⟩
  | simple _ | integer _ | bulk _ | nullBulk | nullArray =>
    rw [errorLines]
    exact ⟨fun h => absurd h List.not_mem_nil, fun h => nomatch h⟩

/-- So are those of some frames. -/
theorem mem_errorLinesAll_iff (text : Bytes) (items : List Frame) :
    text ∈ errorLinesAll items ↔ ∃ item ∈ items, Contains (error text) item := by
  cases items with
  | nil => simp [errorLinesAll]
  | cons item rest =>
    rw [errorLinesAll, List.mem_append, mem_errorLines_iff text item,
      mem_errorLinesAll_iff text rest]
    simp only [List.mem_cons, exists_eq_or_imp]

end

/-- A frame without error lines contains no error. -/
theorem errorLines_eq_nil_iff {frame : Frame} :
    frame.errorLines = [] ↔ ∀ text, ¬ Contains (error text) frame := by
  rw [List.eq_nil_iff_forall_not_mem]
  exact forall_congr' fun text => not_congr (mem_errorLines_iff text frame)

end Frame

/-! ## Readers -/

/-- A reader that accepts no frame with an error line in it. -/
def RevealsErrors (read : Frame → Except Error α) : Prop :=
  ∀ ⦃frame : Frame⦄ ⦃a : α⦄, read frame = .ok a → frame.errorLines = []

/-- A reader of several frames that accepts none with an error line in them. -/
def RevealsErrorsAll (read : List Frame → Except Error α) : Prop :=
  ∀ ⦃items : List Frame⦄ ⦃a : α⦄, read items = .ok a → Frame.errorLinesAll items = []

/-- What goes on behind a reading succeeds only if the reading did. -/
theorem ok_of_bind_ok {result : Except Error α} {next : α → Except Error β} {b : β}
    (h : result >>= next = .ok b) : ∃ a, result = .ok a ∧ next a = .ok b := by
  cases result with
  | ok a => exact ⟨a, rfl, h⟩
  | error error => nomatch h

/-- Readings of all elements of a list succeed only if each of them does. -/
theorem ok_of_mapM_ok {read : α → Except Error β} {items : List α} {results : List β}
    (h : items.mapM read = .ok results) : ∀ a ∈ items, ∃ b, read a = .ok b := by
  induction items generalizing results with
  | nil => simp
  | cons first rest ih =>
    rw [List.mapM_cons] at h
    obtain ⟨b, hfirst, h⟩ := ok_of_bind_ok h
    obtain ⟨others, hrest, -⟩ := ok_of_bind_ok h
    rw [List.forall_mem_cons]
    exact ⟨⟨b, hfirst⟩, ih hrest⟩

/-- **Reading on** reveals what has been revealed. -/
theorem RevealsErrors.bind {read : Frame → Except Error α} (h : RevealsErrors read)
    (next : α → Except Error β) : RevealsErrors fun frame => read frame >>= next := by
  intro frame b hread
  obtain ⟨a, hfirst, -⟩ := ok_of_bind_ok hread
  exact h hfirst

/-- **Reading every element** reveals what is in any of them. -/
theorem RevealsErrors.mapM {read : Frame → Except Error α} (h : RevealsErrors read) :
    RevealsErrorsAll (·.mapM read) := by
  intro items results hread
  refine Frame.errorLinesAll_eq_nil_iff.2 fun item hmem => ?_
  obtain ⟨a, hitem⟩ := ok_of_mapM_ok hread item hmem
  exact h hitem

/-- Reading on behind the elements, too. -/
theorem RevealsErrorsAll.bind {read : List Frame → Except Error α} (h : RevealsErrorsAll read)
    (next : α → Except Error β) : RevealsErrorsAll fun items => read items >>= next := by
  intro items b hread
  obtain ⟨a, hfirst, -⟩ := ok_of_bind_ok hread
  exact h hfirst

namespace Frame

/-- The elements of an array have the error lines of the array. -/
theorem errorLines_of_readItems {frame : Frame} {items : List Frame}
    (h : frame.readItems = .ok items) : frame.errorLines = errorLinesAll items := by
  cases frame with
  | array elements =>
    obtain rfl := Except.ok.inj h
    rfl
  | nullArray =>
    obtain rfl := Except.ok.inj h
    rfl
  | simple _ | error _ | integer _ | bulk _ | nullBulk => nomatch h

end Frame

/-- **Reading an array** reveals what reading its elements does. -/
theorem RevealsErrorsAll.ofItems {read : List Frame → Except Error α} (h : RevealsErrorsAll read) :
    RevealsErrors fun frame => frame.readItems >>= read := by
  intro frame a hread
  obtain ⟨items, hitems, hread⟩ := ok_of_bind_ok hread
  rw [Frame.errorLines_of_readItems hitems]
  exact h hread

namespace Frame

/-- A byte string that may be missing. -/
theorem readBytes?_revealsErrors : RevealsErrors readBytes? := by
  intro frame data h
  cases frame with
  | simple _ | bulk _ | nullBulk | nullArray => rfl
  | error _ | integer _ | array _ => nomatch h

/-- A byte string. -/
theorem readBytes_revealsErrors : RevealsErrors readBytes := readBytes?_revealsErrors.bind _

/-- An integer. -/
theorem readInt_revealsErrors : RevealsErrors readInt := by
  intro frame n h
  cases frame with
  | integer _ | bulk _ => rfl
  | simple _ | error _ | nullBulk | nullArray | array _ => nomatch h

/-- A floating-point number that may be missing. -/
theorem readFloat?_revealsErrors : RevealsErrors readFloat? := readBytes?_revealsErrors.bind _

/-- A text that may be missing. -/
theorem readText?_revealsErrors : RevealsErrors readText? := by
  intro frame text h
  unfold readText? at h
  split at h
  · rfl
  · exact readBytes?_revealsErrors.bind _ h

/-- Elements that are read in pairs are all read, if their number is even. -/
theorem errorLinesAll_of_pairUp {items : List Frame} (heven : items.length % 2 = 0)
    (h : ∀ pair ∈ pairUp items, pair.1.errorLines = [] ∧ pair.2.errorLines = []) :
    errorLinesAll items = [] := by
  fun_induction pairUp items with
  | case1 a b rest ih =>
    obtain ⟨⟨ha, hb⟩, hrest⟩ := List.forall_mem_cons.1 h
    simp only [List.length_cons] at heven
    simp only [errorLinesAll, ha, hb, List.nil_append]
    exact ih (by omega) hrest
  | case2 items hshort =>
    cases items with
    | nil => rfl
    | cons a rest =>
      cases rest with
      | nil => simp at heven
      | cons b rest => exact absurd rfl (hshort a b rest)

/-- **The pairs of a flat list.** A list of odd length is refused, so no element
is left over. -/
theorem readPairs_revealsErrors (second : Bytes → Except Error α) :
    RevealsErrorsAll (readPairs second) := by
  intro items pairs h
  unfold readPairs at h
  split at h
  · rename_i heven
    refine errorLinesAll_of_pairUp heven fun (a, b) hmem => ?_
    obtain ⟨pair, hpair⟩ := ok_of_mapM_ok h (a, b) hmem
    obtain ⟨key, hkey, hpair⟩ := ok_of_bind_ok hpair
    obtain ⟨value, hvalue, -⟩ := ok_of_bind_ok hpair
    exact ⟨readBytes_revealsErrors hkey, readBytes_revealsErrors hvalue⟩
  · nomatch h

/-- The members and scores of a flat list. -/
theorem readMembers_revealsErrors : RevealsErrorsAll readMembers :=
  (readPairs_revealsErrors floatOfBytes).bind _

/-- A clock reading. -/
theorem readMillis_revealsErrors : RevealsErrors readMillis := by
  intro frame millis h
  obtain ⟨items, hitems, h⟩ := ok_of_bind_ok h
  rw [errorLines_of_readItems hitems]
  split at h
  · rename_i seconds micros
    obtain ⟨s, hseconds, h⟩ := ok_of_bind_ok h
    obtain ⟨u, hmicros, -⟩ := ok_of_bind_ok h
    simp only [errorLinesAll, readInt_revealsErrors hseconds, readInt_revealsErrors hmicros,
      List.append_nil]
  · nomatch h

/-! ## Pages -/

/-- The error lines of a page are those of its elements: its token has none. -/
theorem errorLines_of_readPageParts {frame : Frame} {token : String} {elements : List Frame}
    (h : frame.readPageParts = .ok (token, elements)) :
    frame.errorLines = errorLinesAll elements := by
  obtain ⟨parts, hparts, h⟩ := ok_of_bind_ok h
  rw [errorLines_of_readItems hparts]
  split at h
  · rename_i first items
    obtain ⟨text, htoken, h⟩ := ok_of_bind_ok h
    split at h
    · nomatch h
    · obtain ⟨found, hitems, h⟩ := ok_of_bind_ok h
      obtain ⟨-, rfl⟩ := Prod.mk.inj (Except.ok.inj h)
      obtain ⟨text?, htext?, -⟩ := ok_of_bind_ok htoken
      simp only [errorLinesAll, readText?_revealsErrors htext?, errorLines_of_readItems hitems,
        List.nil_append, List.append_nil]
  · nomatch h

/-- **A page** reveals what reading its elements does. -/
theorem readPage_revealsErrors {items : List Frame → Except Error (List α)}
    (h : RevealsErrorsAll items) : RevealsErrors (readPage items) := by
  intro frame page hread
  obtain ⟨⟨token, elements⟩, hparts, hread⟩ := ok_of_bind_ok hread
  rw [errorLines_of_readPageParts hparts]
  exact h.bind _ hread

/-! ## Any reply -/

mutual

/-- **Any reply is read exactly if it has no error line**, and otherwise the
first of them is the error. -/
theorem readValue_eq (frame : Frame) :
    match frame.errorLines with
    | [] => ∃ value, frame.readValue = .ok value
    | text :: _ => frame.readValue = .error (.ofLine text) := by
  cases frame with
  | error text => rfl
  | simple _ | integer _ | bulk _ | nullBulk | nullArray => exact ⟨_, rfl⟩
  | array items =>
    have hitems := readValues_eq items
    rw [errorLines, readValue]
    cases hlines : errorLinesAll items with
    | nil =>
      rw [hlines] at hitems
      obtain ⟨values, hvalues⟩ := hitems
      exact ⟨.array values, by rw [hvalues]; rfl⟩
    | cons text others =>
      rw [hlines] at hitems
      change readValues items = _ at hitems
      rw [hitems]
      rfl

/-- So are replies in order. -/
theorem readValues_eq (items : List Frame) :
    match errorLinesAll items with
    | [] => ∃ values, readValues items = .ok values
    | text :: _ => readValues items = .error (.ofLine text) := by
  cases items with
  | nil => exact ⟨[], rfl⟩
  | cons item rest =>
    have hitem := readValue_eq item
    have hrest := readValues_eq rest
    rw [errorLinesAll, readValues]
    cases hlines : item.errorLines with
    | cons text others =>
      rw [hlines] at hitem
      change readValue item = _ at hitem
      rw [hitem]
      rfl
    | nil =>
      rw [hlines] at hitem
      obtain ⟨value, hvalue⟩ := hitem
      rw [hvalue, List.nil_append]
      cases hothers : errorLinesAll rest with
      | nil =>
        rw [hothers] at hrest
        obtain ⟨values, hvalues⟩ := hrest
        exact ⟨value :: values, by rw [hvalues]; rfl⟩
      | cons text others =>
        rw [hothers] at hrest
        change readValues rest = _ at hrest
        rw [hrest]
        rfl

end

/-- Any reply. -/
theorem readValue_revealsErrors : RevealsErrors readValue := by
  intro frame value h
  have hread := readValue_eq frame
  cases hlines : frame.errorLines with
  | nil => rfl
  | cons text others =>
    rw [hlines, h] at hread
    nomatch hread

end Frame

/-! ## Every meaning of a reply -/

/-- **Every reader of a result reveals errors**; only a status is content with
what stands in an array. -/
theorem ReplyKind.read_revealsErrors {kind : ReplyKind} (hkind : kind ≠ .status) :
    RevealsErrors kind.read := by
  cases kind with
  | status => exact absurd rfl hkind
  | flag => exact Frame.readInt_revealsErrors.bind _
  | integer => exact Frame.readInt_revealsErrors
  | bytes => exact Frame.readBytes_revealsErrors
  | optionalBytes => exact Frame.readBytes?_revealsErrors
  | bytesOrEmpty => exact Frame.readBytes?_revealsErrors.bind _
  | text => exact Frame.readText?_revealsErrors.bind _
  | optionalText => exact Frame.readText?_revealsErrors
  | list => exact Frame.readBytes_revealsErrors.mapM.ofItems
  | map => exact ((Frame.readPairs_revealsErrors .ok).bind _).ofItems
  | scored => exact Frame.readMembers_revealsErrors.ofItems
  | optionalScore => exact Frame.readFloat?_revealsErrors
  | score => exact Frame.readFloat?_revealsErrors.bind _
  | millis => exact Frame.readMillis_revealsErrors
  | value => exact Frame.readValue_revealsErrors

/-- So does every reader of a page. -/
theorem Scan.readPage_revealsErrors (scan : Scan) : RevealsErrors scan.readPage := by
  cases scan with
  | keys | set _ => exact Frame.readPage_revealsErrors Frame.readBytes_revealsErrors.mapM
  | hash _ => exact Frame.readPage_revealsErrors (Frame.readPairs_revealsErrors .ok)
  | sortedSet _ => exact Frame.readPage_revealsErrors Frame.readMembers_revealsErrors

/-- An error line by itself is the server's error, whatever the reply is to
mean. -/
theorem ReplyKind.read_error (kind : ReplyKind) (text : Bytes) :
    kind.read (.error text) = .error (.ofLine text) := by
  cases kind <;> rfl

/-- So it is in place of a page. -/
theorem Scan.readPage_error (scan : Scan) (text : Bytes) :
    scan.readPage (.error text) = .error (.ofLine text) := by
  cases scan <;> rfl

/-- **No result hides an error of the server.** Whatever a reply is to mean, a
status apart, it is accepted only if it contains no error at any depth, and so
are the pages of a scan. An error line by itself is the server's error with its
text, whether a result, a status, a page, or the elements of an array or the
parts of a page are read. Reading any reply as a value succeeds exactly if it
contains no error, and otherwise fails with the first one from the left. -/
theorem accepted_replies_contain_no_error :
    (∀ (kind : ReplyKind) (frame : Frame) (result : kind.Result), kind ≠ .status →
      kind.read frame = .ok result → ∀ text, ¬ Frame.Contains (.error text) frame) ∧
    (∀ (scan : Scan) (frame : Frame) (page : Page scan.Item),
      scan.readPage frame = .ok page → ∀ text, ¬ Frame.Contains (.error text) frame) ∧
    (∀ text : Bytes,
      (∀ kind : ReplyKind, kind.read (.error text) = .error (.server (Utf8.decodeLossy text))) ∧
      (∀ scan : Scan, scan.readPage (.error text) = .error (.server (Utf8.decodeLossy text))) ∧
      (Frame.error text).readItems = .error (.server (Utf8.decodeLossy text)) ∧
      (Frame.error text).readPageParts = .error (.server (Utf8.decodeLossy text))) ∧
    ∀ frame : Frame,
      match frame.errorLines with
      | [] => (∀ text, ¬ Frame.Contains (.error text) frame) ∧ ∃ value, frame.readValue = .ok value
      | text :: _ => Frame.Contains (.error text) frame ∧
          frame.readValue = .error (.server (Utf8.decodeLossy text)) := by
  refine ⟨fun kind frame result hkind hread => ?_, fun scan frame page hread => ?_,
    fun text => ⟨fun kind => kind.read_error text, fun scan => scan.readPage_error text, rfl, rfl⟩,
    fun frame => ?_⟩
  · exact Frame.errorLines_eq_nil_iff.1 (ReplyKind.read_revealsErrors hkind hread)
  · exact Frame.errorLines_eq_nil_iff.1 (scan.readPage_revealsErrors hread)
  · have hvalue := frame.readValue_eq
    cases hlines : frame.errorLines with
    | nil =>
      rw [hlines] at hvalue
      exact ⟨Frame.errorLines_eq_nil_iff.1 hlines, hvalue⟩
    | cons text others =>
      rw [hlines] at hvalue
      have hmem : text ∈ frame.errorLines := hlines ▸ List.mem_cons_self
      exact ⟨(frame.mem_errorLines_iff text).1 hmem, hvalue⟩

/-- Fields and a page of them that are accepted, and a reply with two errors, the
first of them inside of an array. -/
theorem accepted_replies_contain_no_error_nested :
    let fields : Frame := .array [.simple [97], .bulk [98]]
    let page : Frame := .array [.bulk [48], .array [.bulk [97], .bulk [98]]]
    let failing : Frame := .array [.integer 7, .array [.nullBulk, .error [66]], .error [65]]
    ((∃ result, ReplyKind.map.read fields = .ok result) ∧
        ∃ entries, (Scan.hash [107]).readPage page = .ok entries) ∧
      (∀ text, ¬ Frame.Contains (.error text) fields) ∧
      (∀ text, ¬ Frame.Contains (.error text) page) ∧
      ReplyKind.status.read failing = .ok () ∧
      ReplyKind.millis.read (.error [66]) = .error (.server "B") ∧
      failing.readValue = .error (.server "B") := by
  intro fields page failing
  obtain ⟨hkinds, hscans, herrors, hvalues⟩ := accepted_replies_contain_no_error
  obtain ⟨result, hresult⟩ : ∃ result, ReplyKind.map.read fields = .ok result := ⟨_, rfl⟩
  obtain ⟨entries, hentries⟩ : ∃ entries, (Scan.hash [107]).readPage page = .ok entries :=
    ⟨_, rfl⟩
  have hlossy : Utf8.decodeLossy [66] = "B" := by decide +kernel
  have hmillis := (herrors [66]).1 .millis
  obtain ⟨-, hvalue⟩ := hvalues failing
  rw [hlossy] at hmillis hvalue
  exact ⟨⟨⟨result, hresult⟩, entries, hentries⟩, hkinds .map fields result (by decide) hresult,
    hscans (.hash [107]) page entries hentries, rfl, hmillis, hvalue⟩

end RedisClient
