import Mathlib.Data.List.Forall2
import RedisClient.Proofs.Dictionary
import RedisClient.Proofs.Number.Literal
import RedisClient.Proofs.Reply.ErrorLines
import RedisClient.Proofs.Text.Utf8

/-!
# Flat lists of pairs

Fields with their values and members with their scores come as flat lists, two
elements for each pair. `Frame.Spells` says which lists stand for which pairs and
`Frame.FirstFault` which error the first pair that stands for nothing has;
together they say what reading such a list comes to (`Frame.readPairs_iff`). Every
reader of pairs goes on from there without failing, so one account of the outcome
(`Frame.PairReading`) holds of maps, of scored members and of pages of entries.
-/

namespace RedisClient

variable {α β : Type}

/-! ## One reading after the other -/

/-- What goes on behind a reading fails if the reading did, or by itself. -/
theorem bind_eq_error_iff {result : Except Error α} {next : α → Except Error β} {error : Error} :
    result >>= next = .error error ↔
      result = .error error ∨ ∃ a, result = .ok a ∧ next a = .error error := by
  cases result with
  | ok a => simp [bind, Except.bind]
  | error other => simp [bind, Except.bind]

/-- It succeeds if both do. -/
theorem bind_eq_ok_iff {result : Except Error α} {next : α → Except Error β} {b : β} :
    result >>= next = .ok b ↔ ∃ a, result = .ok a ∧ next a = .ok b := by
  refine ⟨ok_of_bind_ok, ?_⟩
  rintro ⟨a, rfl, hnext⟩
  exact hnext

section

variable {read : α → Except Error β} {items : List α}

/-- All elements are read exactly if each of them is. -/
theorem mapM_eq_ok_iff {results : List β} :
    items.mapM read = .ok results ↔ List.Forall₂ (fun a b => read a = .ok b) items results := by
  induction items generalizing results with
  | nil =>
    constructor
    · intro h
      obtain rfl := Except.ok.inj h
      exact .nil
    · rintro ⟨⟩
      rfl
  | cons first rest ih =>
    rw [List.mapM_cons, bind_eq_ok_iff]
    constructor
    · rintro ⟨b, hfirst, h⟩
      obtain ⟨others, hrest, hresults⟩ := bind_eq_ok_iff.1 h
      obtain rfl := Except.ok.inj hresults
      exact .cons hfirst (ih.1 hrest)
    · rintro (_ | ⟨hfirst, hrest⟩)
      exact ⟨_, hfirst, bind_eq_ok_iff.2 ⟨_, ih.2 hrest, rfl⟩⟩

/-- The first element that is not read is what the reading fails with. -/
theorem mapM_eq_error_iff {e : Error} :
    items.mapM read = .error e ↔
      ∃ front a back, items = front ++ a :: back ∧ (∀ b ∈ front, ∃ c, read b = .ok c) ∧
        read a = .error e := by
  induction items with
  | nil => simp [pure, Except.pure]
  | cons first rest ih =>
    rw [List.mapM_cons, bind_eq_error_iff]
    constructor
    · rintro (hfirst | ⟨b, hfirst, h⟩)
      · exact ⟨[], first, rest, rfl, by simp, hfirst⟩
      · rcases bind_eq_error_iff.1 h with hrest | ⟨others, -, hlast⟩
        · obtain ⟨front, a, back, rfl, hfront, ha⟩ := ih.1 hrest
          exact ⟨first :: front, a, back, rfl, List.forall_mem_cons.2 ⟨⟨b, hfirst⟩, hfront⟩, ha⟩
        · nomatch hlast
    · rintro ⟨front, a, back, heq, hfront, ha⟩
      cases front with
      | nil =>
        obtain ⟨rfl, -⟩ := List.cons.inj heq
        exact .inl ha
      | cons other front =>
        obtain ⟨rfl, hrest⟩ := List.cons.inj heq
        obtain ⟨⟨b, hfirst⟩, hfront⟩ := List.forall_mem_cons.1 hfront
        exact .inr ⟨b, hfirst,
          bind_eq_error_iff.2 (.inl (ih.2 ⟨front, a, back, hrest, hfront, ha⟩))⟩

end

namespace Frame

/-! ## Elements -/

/-- **A frame holds a byte string** as a bulk string or as a status line. -/
def Holds (frame : Frame) (data : Bytes) : Prop := frame = bulk data ∨ frame = simple data

/-- **The error of an element** that holds no byte string. -/
def Offends : Frame → Error → Prop
  | bulk _, _ | simple _, _ => False
  | error text, e => e = .server (Utf8.decodeLossy text)
  | nullBulk, e | nullArray, e => e = .protocol .nullElement
  | integer n, e => e = .protocol (.unexpected .bulkString (integer n))
  | array items, e => e = .protocol (.unexpected .bulkString (array items))

/-- **What a reply lists**: the elements of an array; the null array lists none. -/
def Lists (frame : Frame) (items : List Frame) : Prop :=
  frame = array items ∨ frame = nullArray ∧ items = []

/-- What is read is what the frame holds. -/
theorem readBytes_eq_ok_iff {frame : Frame} {data : Bytes} :
    frame.readBytes = .ok data ↔ frame.Holds data := by
  cases frame <;> simp [readBytes, readBytes?, Holds, mismatch, bind, Except.bind, pure,
    Except.pure, throw, throwThe, MonadExceptOf.throw]

/-- Otherwise the frame offends. -/
theorem readBytes_eq_error_iff {frame : Frame} {e : Error} :
    frame.readBytes = .error e ↔ frame.Offends e := by
  cases frame <;> simp [readBytes, readBytes?, Offends, mismatch, Error.ofLine, bind, Except.bind,
    pure, Except.pure, throw, throwThe, MonadExceptOf.throw, eq_comm]

/-- The elements are read off a reply that lists them. -/
theorem readItems_eq_ok_iff {frame : Frame} {items : List Frame} :
    frame.readItems = .ok items ↔ frame.Lists items := by
  cases frame <;> simp [readItems, Lists, mismatch, eq_comm]

/-- A reply that lists nothing is none. -/
theorem readItems_of_not_lists {frame : Frame} (h : ∀ items, ¬ frame.Lists items) :
    frame.readItems = .error (frame.mismatch .array) := by
  cases frame with
  | array items => exact absurd (.inl rfl) (h items)
  | nullArray => exact absurd (.inr ⟨rfl, rfl⟩) (h [])
  | simple _ | error _ | integer _ | bulk _ | nullBulk => rfl

/-! ## Pairs -/

section Pairs

variable (Value : Bytes → α → Prop)

/-- **A flat list spells pairs**, two elements for each, in order. `Value` says
what the byte string in second place stands for. -/
inductive Spells : List Frame → List (Bytes × α) → Prop
  /-- No elements spell no pairs. -/
  | nil : Spells [] []
  /-- Two elements spell one pair in front of the others. -/
  | cons {a b : Frame} {key raw : Bytes} {value : α} {rest : List Frame}
      {pairs : List (Bytes × α)} :
      a.Holds key → b.Holds raw → Value raw value → Spells rest pairs →
        Spells (a :: b :: rest) ((key, value) :: pairs)

/-- **The error of two elements** that spell no pair: that of the first of them
that offends, or that the second holds what has no value. -/
def PairFault (a b : Frame) (e : Error) : Prop :=
  a.Offends e ∨ (∃ key, a.Holds key) ∧
    (b.Offends e ∨
      ∃ raw, b.Holds raw ∧ (∀ value, ¬ Value raw value) ∧ e = .protocol (.invalidNumber raw))

/-- **The error of the first pair from the left** that is none: those in front of
it are spelled. -/
def FirstFault (items : List Frame) (e : Error) : Prop :=
  ∃ front pairs a b rest,
    items = front ++ a :: b :: rest ∧ Spells Value front pairs ∧ PairFault Value a b e

/-- **A reading of values**: it gives the value that there is, and otherwise says
that there is none. -/
structure Reads (second : Bytes → Except Error α) : Prop where
  /-- The value is given. -/
  ok_iff : ∀ {raw value}, second raw = .ok value ↔ Value raw value
  /-- There is none. -/
  error_iff : ∀ {raw e}, second raw = .error e ↔
    (∀ value, ¬ Value raw value) ∧ e = .protocol (.invalidNumber raw)

end Pairs

section Reading

variable {Value : Bytes → α → Prop} {second : Bytes → Except Error α} {items rest : List Frame}
  {pairs : List (Bytes × α)} {a b : Frame} {e : Error}

/-- **Two elements more** spell a pair and the pairs of the others. -/
theorem spells_cons_cons_iff : Spells Value (a :: b :: rest) pairs ↔
    ∃ key raw value others, pairs = (key, value) :: others ∧ a.Holds key ∧ b.Holds raw ∧
      Value raw value ∧ Spells Value rest others := by
  constructor
  · rintro (_ | ⟨ha, hb, hvalue, hrest⟩)
    exact ⟨_, _, _, _, rfl, ha, hb, hvalue, hrest⟩
  · rintro ⟨key, raw, value, others, rfl, ha, hb, hvalue, hrest⟩
    exact .cons ha hb hvalue hrest

/-- **The first fault** is in the first two elements or behind a pair that they
spell. -/
theorem firstFault_cons_cons_iff : FirstFault Value (a :: b :: rest) e ↔
    PairFault Value a b e ∨
      (∃ key raw value, a.Holds key ∧ b.Holds raw ∧ Value raw value) ∧
        FirstFault Value rest e := by
  constructor
  · rintro ⟨front, pairs, c, d, back, heq, hfront, hfault⟩
    cases hfront with
    | nil =>
      rw [List.nil_append, List.cons.injEq, List.cons.injEq] at heq
      obtain ⟨rfl, rfl, rfl⟩ := heq
      exact .inl hfault
    | cons ha hb hvalue hmore =>
      rw [List.cons_append, List.cons_append, List.cons.injEq, List.cons.injEq] at heq
      obtain ⟨rfl, rfl, heq⟩ := heq
      exact .inr ⟨⟨_, _, _, ha, hb, hvalue⟩, _, _, c, d, back, heq, hmore, hfault⟩
  · rintro (hfault | ⟨⟨key, raw, value, ha, hb, hvalue⟩, front, pairs, c, d, back, rfl, hfront,
      hfault⟩)
    · exact ⟨[], [], a, b, rest, rfl, .nil, hfault⟩
    · exact ⟨a :: b :: front, _, c, d, back, rfl, .cons ha hb hvalue hfront, hfault⟩

/-- A single element spells no pair, nor is it one that offends. -/
theorem not_firstFault_of_short (hshort : items.length < 2) : ¬ FirstFault Value items e := by
  rintro ⟨front, pairs, c, d, back, rfl, -⟩
  simp only [List.length_append, List.length_cons] at hshort
  omega

/-- **Which lists spell pairs**: those of even length whose elements hold byte
strings, every second one a byte string with a value. -/
theorem exists_spells_iff : (∃ pairs, Spells Value items pairs) ↔
    items.length % 2 = 0 ∧ (∀ item ∈ items, ∃ data, item.Holds data) ∧
      ∀ place item, items[2 * place + 1]? = some item →
        ∃ raw value, item.Holds raw ∧ Value raw value := by
  induction items using pairUp.induct with
  | case1 a b rest ih =>
    have hlength : (a :: b :: rest).length % 2 = 0 ↔ rest.length % 2 = 0 := by
      simp only [List.length_cons]
      omega
    have hplace : ∀ place, (a :: b :: rest)[2 * (place + 1) + 1]? = rest[2 * place + 1]? :=
      fun place => rfl
    rw [hlength, List.forall_mem_cons, List.forall_mem_cons]
    constructor
    · rintro ⟨_, (_ | ⟨ha, hb, hvalue, hrest⟩)⟩
      obtain ⟨heven, hall, hseconds⟩ := ih.1 ⟨_, hrest⟩
      refine ⟨heven, ⟨⟨_, ha⟩, ⟨_, hb⟩, hall⟩, fun place item hitem => ?_⟩
      cases place with
      | zero =>
        obtain rfl : b = item := Option.some.inj hitem
        exact ⟨_, _, hb, hvalue⟩
      | succ place => exact hseconds place item ((hplace place).symm.trans hitem)
    · rintro ⟨heven, ⟨⟨key, ha⟩, -, hall⟩, hseconds⟩
      obtain ⟨raw, value, hb, hvalue⟩ := hseconds 0 b rfl
      obtain ⟨pairs, hrest⟩ :=
        ih.2 ⟨heven, hall, fun place item hitem => hseconds (place + 1) item hitem⟩
      exact ⟨_, .cons ha hb hvalue hrest⟩
  | case2 items hshort =>
    match items, hshort with
    | [], _ =>
      have hnil : Spells Value [] [] := .nil
      simpa using ⟨_, hnil⟩
    | [a], _ => simpa using fun pairs (h : Spells Value [a] pairs) => nomatch h
    | a :: b :: rest, hshort => exact absurd rfl (hshort a b rest)

/-- A list of odd length is refused before its elements are looked at. -/
theorem readPairs_of_odd (hodd : items.length % 2 = 1) :
    readPairs second items = .error (.protocol .oddLength) := by
  rw [readPairs, if_neg (by omega)]

/-- Two elements in front of a list of even length are read before the others. -/
theorem readPairs_cons_cons (heven : rest.length % 2 = 0) :
    readPairs second (a :: b :: rest) = (do
      let key ← a.readBytes
      let raw ← b.readBytes
      let value ← second raw
      let others ← readPairs second rest
      return (key, value) :: others) := by
  have hlength : (a :: b :: rest).length % 2 = 0 := by
    simp only [List.length_cons]
    omega
  rw [readPairs, readPairs, if_pos hlength, if_pos heven, pairUp, List.mapM_cons]
  simp only [bind_assoc, pure_bind]

/-- **A list of even length is read as the pairs that it spells**, or fails with
its first fault. -/
theorem readPairs_iff (hsecond : Reads Value second) (heven : items.length % 2 = 0) :
    (∀ pairs, readPairs second items = .ok pairs ↔ Spells Value items pairs) ∧
      ∀ e, readPairs second items = .error e ↔ FirstFault Value items e := by
  induction items using pairUp.induct with
  | case1 a b rest ih =>
    have hrest : rest.length % 2 = 0 := by
      simp only [List.length_cons] at heven
      omega
    obtain ⟨hok, herror⟩ := ih hrest
    rw [readPairs_cons_cons hrest]
    constructor
    · intro pairs
      simp only [bind_eq_ok_iff, readBytes_eq_ok_iff, hsecond.ok_iff, hok, spells_cons_cons_iff]
      constructor
      · rintro ⟨key, ha, raw, hb, value, hvalue, others, hothers, hpairs⟩
        exact ⟨key, raw, value, others, (Except.ok.inj hpairs).symm, ha, hb, hvalue, hothers⟩
      · rintro ⟨key, raw, value, others, rfl, ha, hb, hvalue, hothers⟩
        exact ⟨key, ha, raw, hb, value, hvalue, others, hothers, rfl⟩
    · intro e
      simp only [bind_eq_error_iff, readBytes_eq_ok_iff, readBytes_eq_error_iff, hsecond.ok_iff,
        hsecond.error_iff, herror, firstFault_cons_cons_iff, PairFault]
      constructor
      · rintro (ha | ⟨key, ha, hb | ⟨raw, hb, hnone | ⟨value, hvalue, hrest | ⟨others, -, h⟩⟩⟩⟩)
        · exact .inl (.inl ha)
        · exact .inl (.inr ⟨⟨key, ha⟩, .inl hb⟩)
        · exact .inl (.inr ⟨⟨key, ha⟩, .inr ⟨raw, hb, hnone⟩⟩)
        · exact .inr ⟨⟨key, raw, value, ha, hb, hvalue⟩, hrest⟩
        · nomatch h
      · rintro ((ha | ⟨⟨key, ha⟩, hb | ⟨raw, hb, hnone⟩⟩) |
          ⟨⟨key, raw, value, ha, hb, hvalue⟩, hrest⟩)
        · exact .inl ha
        · exact .inr ⟨key, ha, .inl hb⟩
        · exact .inr ⟨key, ha, .inr ⟨raw, hb, .inl hnone⟩⟩
        · exact .inr ⟨key, ha, .inr ⟨raw, hb, .inr ⟨value, hvalue, .inl hrest⟩⟩⟩
  | case2 items hshort =>
    match items, hshort with
    | [], _ =>
      have hnil : readPairs second [] = .ok [] := rfl
      rw [hnil]
      refine ⟨fun pairs => ⟨fun h => ?_, fun h => ?_⟩, fun e => ⟨fun h => (nomatch h), fun h =>
        (not_firstFault_of_short (by simp) h).elim⟩⟩
      · obtain rfl := Except.ok.inj h
        exact .nil
      · cases h
        rfl
    | [a], _ => simp at heven
    | a :: b :: rest, hshort => exact absurd rfl (hshort a b rest)

end Reading

/-! ## Outcomes -/

/-- **What reading a flat list of pairs comes to.** `Made` says what is made of
the pairs. -/
structure PairReading (Value : Bytes → α → Prop) (items : List Frame)
    (Made : List (Bytes × α) → β → Prop) (outcome : Except Error β) : Prop where
  /-- It succeeds exactly if the number of elements is even, all of them hold byte
  strings, and every second one holds a value. -/
  ok_iff : (∃ b, outcome = .ok b) ↔
    items.length % 2 = 0 ∧ (∀ item ∈ items, ∃ data, item.Holds data) ∧
      ∀ place item, items[2 * place + 1]? = some item →
        ∃ raw value, item.Holds raw ∧ Value raw value
  /-- The result is made of the pairs that the elements spell, in order. -/
  made : ∀ b, outcome = .ok b → ∃ pairs, Spells Value items pairs ∧ Made pairs b
  /-- An odd number of elements is reported whatever they are. -/
  odd : items.length % 2 = 1 → outcome = .error (.protocol .oddLength)
  /-- Otherwise the first pair from the left that is none is reported. -/
  error_iff : items.length % 2 = 0 → ∀ e, outcome = .error e ↔ FirstFault Value items e

/-- **Reading pairs** comes to that, whatever is made of them. -/
theorem pairReading_map {Value : Bytes → α → Prop} {second : Bytes → Except Error α}
    {items : List Frame} {Made : List (Bytes × α) → β → Prop} {make : List (Bytes × α) → β}
    (hsecond : Reads Value second) (hmake : ∀ pairs, Made pairs (make pairs)) :
    PairReading Value items Made ((readPairs second items).map make) := by
  have hspelled : ∀ b, (readPairs second items).map make = .ok b →
      ∃ pairs, Spells Value items pairs ∧ b = make pairs := by
    intro b h
    have heven : items.length % 2 = 0 := by
      by_contra hodd
      rw [readPairs_of_odd (by omega)] at h
      nomatch h
    cases hread : readPairs second items with
    | error e =>
      rw [hread] at h
      nomatch h
    | ok pairs =>
      rw [hread] at h
      exact ⟨pairs, ((readPairs_iff hsecond heven).1 pairs).1 hread, (Except.ok.inj h).symm⟩
  refine ⟨?_, fun b h => ?_, fun hodd => ?_, fun heven e => ?_⟩
  · rw [← exists_spells_iff]
    constructor
    · rintro ⟨b, h⟩
      obtain ⟨pairs, hpairs, -⟩ := hspelled b h
      exact ⟨pairs, hpairs⟩
    · rintro ⟨pairs, hpairs⟩
      have heven := (exists_spells_iff.1 ⟨pairs, hpairs⟩).1
      exact ⟨make pairs, by rw [((readPairs_iff hsecond heven).1 pairs).2 hpairs]; rfl⟩
  · obtain ⟨pairs, hpairs, rfl⟩ := hspelled b h
    exact ⟨pairs, hpairs, hmake pairs⟩
  · rw [readPairs_of_odd hodd]
    rfl
  · rw [← (readPairs_iff hsecond heven).2 e]
    cases readPairs second items with
    | error other => exact ⟨fun h => congrArg _ (Except.error.inj h), fun h => by rw [h]; rfl⟩
    | ok pairs => exact ⟨fun h => (nomatch h), fun h => (nomatch h)⟩

/-! ## Values -/

/-- A value that is the byte string itself is always there. -/
theorem reads_ok : Reads Eq (.ok : Bytes → Except Error Bytes) where
  ok_iff := ⟨Except.ok.inj, congrArg _⟩
  error_iff {raw _} := ⟨fun h => (nomatch h), fun ⟨hnone, _⟩ => absurd rfl (hnone raw)⟩

/-- **A byte string is a score** if it is UTF-8 and its text spells a number. -/
def IsScore (raw : Bytes) (score : Binary64) : Prop :=
  ∃ chars, raw = Utf8.encode (.ofList chars) ∧ Binary64.read? chars = some score

/-- A score is a numeral of a number, in UTF-8. -/
theorem isScore_iff {raw : Bytes} {score : Binary64} :
    IsScore raw score ↔ ∃ text, raw = Utf8.encode (.ofList text) ∧ Binary64.Numeral score text :=
  exists_congr fun _ => and_congr_right fun _ => Binary64.read?_eq_some_iff

/-- A score is read off a byte string that is one. -/
theorem reads_floatOfBytes : Reads IsScore floatOfBytes := by
  have hscore : ∀ raw score, (Utf8.decode raw).toOption.bind Binary64.read? = some score ↔
      IsScore raw score := by
    intro raw score
    rw [Option.bind_eq_some_iff]
    refine exists_congr fun chars => and_congr_left fun _ => ?_
    rw [← Utf8.decode_eq_ok_iff]
    cases Utf8.decode raw <;> simp [Except.toOption]
  refine ⟨fun {raw score} => ?_, fun {raw e} => ?_⟩
  · rw [← hscore, floatOfBytes]
    cases (Utf8.decode raw).toOption.bind Binary64.read? <;> simp
  · simp only [← hscore, floatOfBytes]
    cases (Utf8.decode raw).toOption.bind Binary64.read? <;> simp [eq_comm]

/-! ## Replies -/

/-- **A page** with a token and the frame that lists its elements. -/
def IsPage (reply : Frame) (token : String) (elements : Frame) : Prop :=
  ∃ first, reply = array [first, elements] ∧ first.readText = .ok token ∧ token ≠ ""

/-- The parts of a page are read. -/
theorem IsPage.readPageParts {reply elements : Frame} {token : String}
    (h : reply.IsPage token elements) :
    reply.readPageParts = elements.readItems.map fun items => (token, items) := by
  obtain ⟨first, rfl, hfirst, hne⟩ := h
  have hempty : token.isEmpty = false := by simpa using hne
  change (first.readText >>= _) = _
  rw [hfirst]
  simp only [bind, Except.bind, hempty]
  cases elements.readItems <;> rfl

/-- Nothing else is a page. -/
theorem isPage_of_readPageParts {reply : Frame} {token : String} {items : List Frame}
    (h : reply.readPageParts = .ok (token, items)) :
    ∃ elements, reply.IsPage token elements ∧ elements.Lists items := by
  obtain ⟨parts, hparts, h⟩ := ok_of_bind_ok h
  split at h
  · rename_i first elements
    obtain ⟨text, htext, h⟩ := ok_of_bind_ok h
    split at h
    · nomatch h
    · rename_i hempty
      obtain ⟨found, hfound, h⟩ := ok_of_bind_ok h
      obtain ⟨rfl, rfl⟩ := Prod.mk.inj (Except.ok.inj h)
      rcases readItems_eq_ok_iff.1 hparts with rfl | ⟨-, hnil⟩
      · exact ⟨elements, ⟨first, rfl, htext, by simpa using hempty⟩, readItems_eq_ok_iff.1 hfound⟩
      · nomatch hnil
  · nomatch h

/-- A map is made of the entries that are listed. -/
theorem readMap_eq {frame : Frame} {items : List Frame} (h : frame.Lists items) :
    frame.readMap = (readPairs .ok items).map Dictionary.ofPairs := by
  change (frame.readItems >>= _) = _
  rw [readItems_eq_ok_iff.2 h]
  rfl

/-- Scored members are made of the pairs that are listed. -/
theorem readScored_eq {frame : Frame} {items : List Frame} (h : frame.Lists items) :
    frame.readScored = (readPairs floatOfBytes items).map
      (·.map fun (member, score) => ⟨member, score⟩) := by
  change (frame.readItems >>= _) = _
  rw [readItems_eq_ok_iff.2 h]
  rfl

/-- A page of entries is made of those that are listed. -/
theorem readEntryPage_eq {reply elements : Frame} {token : String} {items : List Frame}
    (hpage : reply.IsPage token elements) (h : elements.Lists items) :
    reply.readEntryPage = (readPairs .ok items).map fun entries => ⟨token, entries⟩ := by
  change (reply.readPageParts >>= _) = _
  rw [hpage.readPageParts, readItems_eq_ok_iff.2 h]
  rfl

end Frame

open RedisClient.Frame in
/-- **Fields and values, members and scores are read in pairs.** Where a reply is
an array, or the null array for no elements, a map, scored members and, for the
elements of a page, its entries are read exactly if the elements are even in number
and hold byte strings, the scores numbers. All pairs are kept in order, and a map
binds each key to the value of its last pair. Otherwise an odd number is reported,
or the first pair from the left that is none, by its first element before its
second. Nothing but an array lists pairs, and nothing but a page with a token has
entries. -/
theorem flat_replies_read_in_pairs :
    (∀ (frame : Frame) (items : List Frame), frame.Lists items →
      PairReading Eq items
        (fun pairs map => ∀ key value, map.get? key = some value ↔ LastValue pairs key value)
        frame.readMap ∧
      PairReading IsScore items
        (fun pairs members => members = pairs.map fun (member, score) => ⟨member, score⟩)
        frame.readScored ∧
      ∀ (reply : Frame) (token : String), reply.IsPage token frame →
        PairReading Eq items (fun pairs page => page = ⟨token, pairs⟩) reply.readEntryPage) ∧
    (∀ frame : Frame, (∀ items, ¬ frame.Lists items) →
      frame.readMap = .error (frame.mismatch .array) ∧
      frame.readScored = .error (frame.mismatch .array) ∧
      ∀ (reply : Frame) (token : String), reply.IsPage token frame →
        reply.readEntryPage = .error (frame.mismatch .array)) ∧
    ∀ (reply : Frame) (page : Page (Bytes × Bytes)), reply.readEntryPage = .ok page →
      ∃ frame, reply.IsPage page.token frame := by
  refine ⟨fun frame items hlists => ⟨?_, ?_, fun reply token hpage => ?_⟩,
    fun frame hnone => ⟨?_, ?_, fun reply token hpage => ?_⟩, fun reply page h => ?_⟩
  · rw [readMap_eq hlists]
    exact pairReading_map reads_ok fun pairs key value => Dictionary.get?_ofPairs_eq_some_iff
  · rw [readScored_eq hlists]
    exact pairReading_map reads_floatOfBytes fun pairs => rfl
  · rw [readEntryPage_eq hpage hlists]
    exact pairReading_map reads_ok fun pairs => rfl
  · rw [readMap, readItems_of_not_lists hnone]
    rfl
  · rw [readScored, readItems_of_not_lists hnone]
    rfl
  · change (reply.readPageParts >>= _) = _
    rw [hpage.readPageParts, readItems_of_not_lists hnone]
    rfl
  · obtain ⟨⟨token, items⟩, hparts, h⟩ := ok_of_bind_ok h
    obtain ⟨entries, -, h⟩ := ok_of_bind_ok h
    obtain rfl := Except.ok.inj h
    obtain ⟨frame, hpage, -⟩ := isPage_of_readPageParts hparts
    exact ⟨frame, hpage⟩

/-- A field that comes twice, a score that is an integer with an error line behind
it, and a null that is no array. -/
theorem flat_replies_read_in_pairs_repeated :
    let items : List Frame :=
      [.bulk [97], .simple [49], .bulk [98], .bulk [50], .simple [97], .bulk [51]]
    let faulty : List Frame :=
      [.bulk [97], .bulk [49], .bulk [98], .integer 7, .error [88], .nullBulk]
    let page : Frame := .array [.bulk [48], .array items]
    ((Frame.array items).Lists items ∧ page.IsPage "0" (.array items) ∧
        (Frame.array faulty).Lists faulty ∧ ∀ items, ¬ Frame.nullBulk.Lists items) ∧
      (∃ map, (Frame.array items).readMap = .ok map ∧ map.get? [97] = some [51]) ∧
      (∃ entries, page.readEntryPage = .ok entries) ∧
      (Frame.array faulty).readScored =
        .error (.protocol (.unexpected .bulkString (.integer 7))) ∧
      Frame.nullBulk.readMap = .error (.protocol (.unexpected .array .nullBulk)) := by
  intro items faulty page
  obtain ⟨hlists, hnone, -⟩ := flat_replies_read_in_pairs
  have hpage : page.IsPage "0" (.array items) := ⟨.bulk [48], rfl, by rfl, by decide⟩
  have hnull : ∀ items, ¬ Frame.nullBulk.Lists items := fun items h => by simp [Frame.Lists] at h
  obtain ⟨hmap, -, hentries⟩ := hlists (.array items) items (.inl rfl)
  obtain ⟨-, hscored, -⟩ := hlists (.array faulty) faulty (.inl rfl)
  have hspells : Frame.Spells Eq items [([97], [49]), ([98], [50]), ([97], [51])] :=
    .cons (.inl rfl) (.inr rfl) rfl
      (.cons (.inl rfl) (.inl rfl) rfl (.cons (.inr rfl) (.inl rfl) rfl .nil))
  have hread := Frame.exists_spells_iff.1 ⟨_, hspells⟩
  refine ⟨⟨.inl rfl, hpage, .inl rfl, hnull⟩, ?_, ?_, ?_, (hnone _ hnull).1⟩
  · obtain ⟨map, hok⟩ := hmap.ok_iff.2 hread
    obtain ⟨pairs, hpairs, hbinds⟩ := hmap.made map hok
    have hsame : Except.ok pairs = .ok [([97], [49]), ([98], [50]), ([97], [51])] :=
      (((Frame.readPairs_iff Frame.reads_ok hread.1).1 pairs).2 hpairs).symm.trans
        (((Frame.readPairs_iff Frame.reads_ok hread.1).1 _).2 hspells)
    obtain rfl := Except.ok.inj hsame
    exact ⟨map, hok, (hbinds [97] [51]).2 ⟨[([97], [49]), ([98], [50])], [], rfl, by simp⟩⟩
  · exact (hentries page "0" hpage).ok_iff.2 hread
  · -- the pair in front is a member with its score
    exact (hscored.error_iff (by simp [faulty]) _).2
      ⟨[.bulk [97], .bulk [49]], [([97], _)], .bulk [98], .integer 7, [.error [88], .nullBulk], rfl,
        .cons (.inl rfl) (.inl rfl) ⟨['1'], rfl, rfl⟩ .nil, .inr ⟨⟨[98], .inl rfl⟩, .inl rfl⟩⟩

end RedisClient
