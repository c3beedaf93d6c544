import RedisClient.Client.Scripted
import RedisClient.Proofs.Reply.Pairs
import RedisClient.Proofs.Sentinel.Transition

/-!
# Servers that a sentinel lists

A sentinel describes every server by a flat list of fields and values. Where these
are UTF-8, the fields decide what comes of an element: which server it is
(`Server.Describes`) if it has an address, and otherwise which error it has
(`Server.ElementFault`). A list of servers is read as a whole: all of its elements,
in order, or the error of the first that fails (`Server.ListReading`).
-/

namespace RedisClient

/-! ## Fields -/

namespace Frame

/-- **A flat list of text fields**: it spells the UTF-8 forms of the fields and their
values. -/
def SpellsFields (frame : Frame) (fields : List (String × String)) : Prop :=
  ∃ items, frame.Lists items ∧ Spells Eq items (fields.map (Prod.map Utf8.encode Utf8.encode))

/-- **What a frame lists is UTF-8**, as far as it holds byte strings. -/
def ListsText (frame : Frame) : Prop :=
  ∀ items, frame.Lists items → ∀ item ∈ items, ∀ data, item.Holds data →
    ∃ text, data = Utf8.encode text

/-- Pairs of UTF-8 are those of fields. -/
theorem Spells.exists_fields {items : List Frame} {pairs : List (Bytes × Bytes)}
    (h : Spells Eq items pairs)
    (htext : ∀ item ∈ items, ∀ data, item.Holds data → ∃ text, data = Utf8.encode text) :
    ∃ fields : List (String × String),
      pairs = fields.map (Prod.map Utf8.encode Utf8.encode) := by
  induction h with
  | nil => exact ⟨[], rfl⟩
  | cons ha hb hvalue hrest ih =>
    obtain ⟨hfirst, hothers⟩ := List.forall_mem_cons.1 htext
    obtain ⟨hsecond, hothers⟩ := List.forall_mem_cons.1 hothers
    obtain ⟨name, rfl⟩ := hfirst _ ha
    obtain ⟨value, rfl⟩ := hsecond _ hb
    obtain ⟨fields, rfl⟩ := ih hothers
    exact ⟨(name, value) :: fields, by rw [← hvalue]; rfl⟩

/-- A frame of the wrong shape that is no error line is named in the error. -/
theorem mismatch_of_ne_error {frame : Frame} (h : ∀ text, frame ≠ .error text) (expected : Shape) :
    frame.mismatch expected = .protocol (.unexpected expected frame) := by
  cases frame with
  | error text => exact absurd rfl (h text)
  | simple _ | integer _ | bulk _ | nullBulk | nullArray | array _ => rfl

/-- The flat array that fields are sent as. -/
def ofFields (fields : List (String × String)) : Frame :=
  .array (fields.flatMap fun (name, value) =>
    [.bulk (Utf8.encode name), .bulk (Utf8.encode value)])

/-- It spells them. -/
theorem spellsFields_ofFields (fields : List (String × String)) :
    (ofFields fields).SpellsFields fields := by
  refine ⟨_, .inl rfl, ?_⟩
  induction fields with
  | nil => exact .nil
  | cons field rest ih => exact .cons (.inl rfl) (.inl rfl) rfl ih

/-- And lists nothing else. -/
theorem listsText_ofFields (fields : List (String × String)) : (ofFields fields).ListsText := by
  intro items hlists item hitem data hdata
  obtain rfl : _ = items := by simpa [Lists, ofFields] using hlists
  obtain ⟨⟨name, value⟩, -, hitem⟩ := List.mem_flatMap.1 hitem
  obtain rfl | rfl : item = _ ∨ item = _ := by simpa using hitem
  · exact ⟨name, by simpa [Holds, eq_comm] using hdata⟩
  · exact ⟨value, by simpa [Holds, eq_comm] using hdata⟩

end Frame

namespace Server

open RedisClient.Frame

/-! ## One server -/

/-- **The fields of a server that can be reached**: they have an address, with a
port that is one. -/
def HasAddress (fields : List (String × String)) : Prop :=
  (∃ host, LastValue fields "ip" host) ∧
    ∃ digits port, LastValue fields "port" digits ∧ Decimal.readUInt16 digits.toList = .ok port

/-- **Fields describe a server.** Of several values for one field the last counts. -/
structure Describes (fields : List (String × String)) (server : Server) : Prop where
  /-- All fields are kept. -/
  properties : ∀ name value,
    server.properties.get? name = some value ↔ LastValue fields name value
  /-- The host. -/
  host : LastValue fields "ip" server.node.host
  /-- The port. -/
  port : ∃ digits, LastValue fields "port" digits ∧
    Decimal.readUInt16 digits.toList = .ok server.node.port
  /-- The name, which may be missing. -/
  name : LastValue fields "name" server.name ∨
    (∀ name, ¬ LastValue fields "name" name) ∧ server.name = ""
  /-- The quorum, if there is one that is a number. -/
  quorum : ∀ quorum, server.quorum = some quorum ↔
    ∃ digits, LastValue fields "quorum" digits ∧ Decimal.readUInt32 digits.toList = .ok quorum

/-- **The error of an element** that describes no server. -/
inductive ElementFault : Frame → Error → Prop
  /-- An error line is the server's own error. -/
  | errorLine (text : Bytes) : ElementFault (.error text) (.server (Utf8.decodeLossy text))
  /-- Anything else has to be an array. -/
  | notListed {element : Frame} : (∀ text, element ≠ .error text) →
      (∀ items, ¬ element.Lists items) →
        ElementFault element (.protocol (.unexpected .array element))
  /-- The number of its elements has to be even. -/
  | oddLength {element : Frame} {items : List Frame} : element.Lists items →
      items.length % 2 = 1 → ElementFault element (.protocol .oddLength)
  /-- They have to be fields and values. -/
  | offending {element : Frame} {items : List Frame} {e : Error} : element.Lists items →
      items.length % 2 = 0 → FirstFault Eq items e → ElementFault element e
  /-- A host has to be among them. -/
  | addressMissing {element : Frame} {fields : List (String × String)} :
      element.SpellsFields fields → (∀ host, ¬ LastValue fields "ip" host) →
        ElementFault element (.protocol .addressMissing)
  /-- And a port that is one. -/
  | portMissing {element : Frame} {fields : List (String × String)} {host : String} :
      element.SpellsFields fields → LastValue fields "ip" host →
        (∀ digits port, LastValue fields "port" digits →
          Decimal.readUInt16 digits.toList ≠ .ok port) →
          ElementFault element (.protocol .portMissing)

variable {element : Frame} {fields : List (String × String)} {properties : Dictionary String String}
  {e : Error}

/-- The port is read off the digits, if they are one. -/
theorem port?_eq_some_iff {port : UInt16} :
    ((properties.get? "port").bind fun digits => (Decimal.readUInt16 digits.toList).toOption) =
        some port ↔
      ∃ digits, properties.get? "port" = some digits ∧
        Decimal.readUInt16 digits.toList = .ok port := by
  rw [Option.bind_eq_some_iff]
  refine exists_congr fun digits => and_congr_right fun _ => ?_
  cases Decimal.readUInt16 digits.toList <;> simp [Except.toOption]

/-- So is the quorum. -/
theorem quorum?_eq_some_iff {quorum : UInt32} :
    ((properties.get? "quorum").bind fun digits => (Decimal.readUInt32 digits.toList).toOption) =
        some quorum ↔
      ∃ digits, properties.get? "quorum" = some digits ∧
        Decimal.readUInt32 digits.toList = .ok quorum := by
  rw [Option.bind_eq_some_iff]
  refine exists_congr fun digits => and_congr_right fun _ => ?_
  cases Decimal.readUInt32 digits.toList <;> simp [Except.toOption]

/-- **Properties that are those of the fields** are those of a server, or lack its
host, or lack its port. -/
theorem ofProperties_cases
    (h : ∀ name value, properties.get? name = some value ↔ LastValue fields name value) :
    (∃ server, ofProperties properties = .ok server ∧ Describes fields server) ∨
      ((∀ host, ¬ LastValue fields "ip" host) ∧
        ofProperties properties = .error .addressMissing) ∨
      (∃ host, LastValue fields "ip" host) ∧
        (∀ digits port, LastValue fields "port" digits →
          Decimal.readUInt16 digits.toList ≠ .ok port) ∧
        ofProperties properties = .error .portMissing := by
  cases hhost : properties.get? "ip" with
  | none =>
    refine .inr (.inl ⟨fun host hlast => ?_, by rw [ofProperties, hhost]; rfl⟩)
    exact absurd ((h _ _).2 hlast) (by simp [hhost])
  | some host =>
    have hip : LastValue fields "ip" host := (h _ _).1 hhost
    cases hport : (properties.get? "port").bind fun digits =>
      (Decimal.readUInt16 digits.toList).toOption with
    | none =>
      refine .inr (.inr ⟨⟨host, hip⟩, fun digits port hlast hread => ?_,
        by rw [ofProperties, hhost]; simp only [hport]; rfl⟩)
      have hsome := port?_eq_some_iff.2 ⟨digits, (h _ _).2 hlast, hread⟩
      exact absurd (hport.symm.trans hsome) (by simp)
    | some port =>
      refine .inl ⟨_, by rw [ofProperties, hhost]; simp only [hport]; rfl, ?_⟩
      obtain ⟨digits, hdigits, hread⟩ := port?_eq_some_iff.1 hport
      refine ⟨h, hip, ⟨digits, (h _ _).1 hdigits, hread⟩, ?_, fun quorum => ?_⟩
      · cases hname : properties.get? "name" with
        | none => exact .inr ⟨fun name hlast => absurd ((h _ _).2 hlast) (by simp [hname]), rfl⟩
        | some name => exact .inl ((h _ _).1 hname)
      · simp only [quorum?_eq_some_iff, h]

/-- **An element that spells fields** has their properties. -/
theorem ofFrame_of_spells (h : element.SpellsFields fields) :
    ∃ properties : Dictionary String String,
      (∀ name value, properties.get? name = some value ↔ LastValue fields name value) ∧
        ofFrame element = (ofProperties properties).mapError .protocol := by
  obtain ⟨items, hlists, hspells⟩ := h
  have heven := (exists_spells_iff.1 ⟨_, hspells⟩).1
  have hread := ((readPairs_iff reads_ok heven).1 _).2 hspells
  let pairs := fields.map (Prod.map Utf8.encode Utf8.encode)
  let map : Dictionary Bytes Bytes := .ofPairs pairs
  have hmap : element.readMap = .ok map := by
    rw [readMap_eq hlists, hread]
    rfl
  let texts := map.entries.map (Prod.map Utf8.decodeLossy Utf8.decodeLossy)
  -- every entry is a pair of UTF-8, so writing the texts gives the entries back
  have hback : ∀ field : String × String,
      Prod.map Utf8.encode Utf8.encode (Prod.map Utf8.decodeLossy Utf8.decodeLossy
        (Prod.map Utf8.encode Utf8.encode field)) = Prod.map Utf8.encode Utf8.encode field := by
    intro field
    simp only [Prod.map, Utf8.decodeLossy_encode]
  have htexts : texts.map (Prod.map Utf8.encode Utf8.encode) = map.entries := by
    rw [List.map_map]
    refine (List.map_congr_left fun entry hmem => ?_).trans (List.map_id _)
    have hlast := Dictionary.get?_ofPairs_eq_some_iff.1 (Dictionary.get?_eq_some_iff.2 hmem)
    obtain ⟨field, -, hfield⟩ := List.mem_map.1 hlast.mem
    have hentry : Prod.map Utf8.encode Utf8.encode field = entry := hfield
    rw [Function.comp_apply, ← hentry, hback, id]
  refine ⟨.ofPairs texts, fun name value => ?_, by
    change (element.readMap >>= _) = _
    rw [hmap]
    rfl⟩
  rw [Dictionary.get?_ofPairs_eq_some_iff,
    ← LastValue.map_iff Utf8.encode_injective Utf8.encode_injective, htexts,
    Dictionary.lastValue_entries_iff, Dictionary.get?_ofPairs_eq_some_iff,
    LastValue.map_iff Utf8.encode_injective Utf8.encode_injective]

/-- **Such an element** is read as the server that its fields describe, unless its
host is missing, or its port. -/
theorem ofFrame_fields_cases (h : element.SpellsFields fields) :
    (∃ server, ofFrame element = .ok server ∧ Describes fields server) ∨
      ((∀ host, ¬ LastValue fields "ip" host) ∧
        ofFrame element = .error (.protocol .addressMissing)) ∨
      (∃ host, LastValue fields "ip" host) ∧
        (∀ digits port, LastValue fields "port" digits →
          Decimal.readUInt16 digits.toList ≠ .ok port) ∧
        ofFrame element = .error (.protocol .portMissing) := by
  obtain ⟨properties, hproperties, hframe⟩ := ofFrame_of_spells h
  rw [hframe]
  rcases ofProperties_cases hproperties with
    ⟨server, hserver, hdescribes⟩ | ⟨hhost, hmissing⟩ | ⟨hhost, hport, hmissing⟩
  · exact .inl ⟨server, by rw [hserver]; rfl, hdescribes⟩
  · exact .inr (.inl ⟨hhost, by rw [hmissing]; rfl⟩)
  · exact .inr (.inr ⟨hhost, hport, by rw [hmissing]; rfl⟩)

/-- An error line that should be an array is reported as what it says. -/
theorem ofFrame_of_not_lists (h : ∀ items, ¬ element.Lists items) :
    ofFrame element = .error (element.mismatch .array) := by
  change (element.readMap >>= _) = _
  rw [readMap, readItems_of_not_lists h]
  rfl

/-- An element whose pairs are not read is not read for the same reason. -/
theorem ofFrame_of_readPairs_error {items : List Frame} (hlists : element.Lists items)
    (h : readPairs .ok items = .error e) : ofFrame element = .error e := by
  change (element.readMap >>= _) = _
  rw [readMap_eq hlists, h]
  rfl

/-- **An element comes to a server** that its fields describe, or to the error of
one that describes none. -/
theorem ofFrame_cases (htext : element.ListsText) :
    (∃ fields server, element.SpellsFields fields ∧ HasAddress fields ∧
      ofFrame element = .ok server ∧ Describes fields server) ∨
    ∃ e, ElementFault element e ∧ ofFrame element = .error e := by
  by_cases hnone : ∀ items, ¬ element.Lists items
  · refine .inr ⟨_, ?_, ofFrame_of_not_lists hnone⟩
    by_cases herror : ∃ text, element = .error text
    · obtain ⟨text, rfl⟩ := herror
      exact .errorLine text
    · have hother : ∀ text, element ≠ .error text := fun text h => herror ⟨text, h⟩
      rw [mismatch_of_ne_error hother]
      exact .notListed hother hnone
  · obtain ⟨items, hlists⟩ := not_forall_not.1 hnone
    by_cases heven : items.length % 2 = 0
    · obtain ⟨hok, herror⟩ := readPairs_iff reads_ok heven
      cases hread : readPairs .ok items with
      | error e =>
        exact .inr ⟨e, .offending hlists heven ((herror e).1 hread),
          ofFrame_of_readPairs_error hlists hread⟩
      | ok pairs =>
        have hspells := (hok pairs).1 hread
        obtain ⟨fields, rfl⟩ := hspells.exists_fields (htext items hlists)
        have hfields : element.SpellsFields fields := ⟨items, hlists, hspells⟩
        rcases ofFrame_fields_cases hfields with
          ⟨server, hserver, hdescribes⟩ | ⟨hhost, hmissing⟩ | ⟨⟨host, hhost⟩, hport, hmissing⟩
        · obtain ⟨digits, hdigits, hport⟩ := hdescribes.port
          exact .inl ⟨fields, server, hfields,
            ⟨⟨_, hdescribes.host⟩, digits, _, hdigits, hport⟩, hserver, hdescribes⟩
        · exact .inr ⟨_, .addressMissing hfields hhost, hmissing⟩
        · exact .inr ⟨_, .portMissing hfields hhost hport, hmissing⟩
    · exact .inr ⟨_, .oddLength hlists (by omega),
        ofFrame_of_readPairs_error hlists (readPairs_of_odd (by omega))⟩

/-- An element is one of a server exactly if its fields have an address. -/
theorem ofFrame_of_hasAddress (hfields : element.SpellsFields fields) (h : HasAddress fields) :
    ∃ server, ofFrame element = .ok server := by
  obtain ⟨⟨host, hhost⟩, digits, port, hport, hread⟩ := h
  rcases ofFrame_fields_cases hfields with ⟨server, hserver, -⟩ | ⟨hnone, -⟩ | ⟨-, hnone, -⟩
  · exact ⟨server, hserver⟩
  · exact absurd hhost (hnone host)
  · exact absurd hread (hnone digits port hport)

/-- The error of an element is what reading it fails with. -/
theorem ElementFault.ofFrame_eq (h : ElementFault element e) : ofFrame element = .error e := by
  cases h with
  | errorLine text => exact ofFrame_of_not_lists fun items h => by simp [Frame.Lists] at h
  | notListed hother hnone =>
    rw [ofFrame_of_not_lists hnone, mismatch_of_ne_error hother]
  | oddLength hlists hodd => exact ofFrame_of_readPairs_error hlists (readPairs_of_odd hodd)
  | offending hlists heven hfault =>
    exact ofFrame_of_readPairs_error hlists (((readPairs_iff reads_ok heven).2 e).2 hfault)
  | addressMissing hfields hnone =>
    rcases ofFrame_fields_cases hfields with
      ⟨server, -, hdescribes⟩ | ⟨-, hmissing⟩ | ⟨⟨host, hhost⟩, -⟩
    · exact absurd hdescribes.host (hnone _)
    · exact hmissing
    · exact absurd hhost (hnone host)
  | portMissing hfields hhost hnone =>
    rcases ofFrame_fields_cases hfields with
      ⟨server, -, hdescribes⟩ | ⟨hnohost, -⟩ | ⟨-, -, hmissing⟩
    · obtain ⟨digits, hdigits, hport⟩ := hdescribes.port
      exact absurd hport (hnone digits _ hdigits)
    · exact absurd hhost (hnohost _)
    · exact hmissing

/-! ## All servers -/

/-- **An element is one of a server** that can be reached. -/
def IsElement (element : Frame) : Prop :=
  ∃ fields, element.SpellsFields fields ∧ HasAddress fields

/-- **What reading a list of servers comes to.** -/
structure ListReading (items : List Frame) (outcome : Except Error (List Server)) : Prop where
  /-- It succeeds exactly if every element is one of a server. -/
  ok_iff : (∃ servers, outcome = .ok servers) ↔ ∀ element ∈ items, IsElement element
  /-- The servers are those that the elements describe, one for each, in order. -/
  made : ∀ servers, outcome = .ok servers → List.Forall₂
    (fun element server => ∃ fields, element.SpellsFields fields ∧ Describes fields server)
    items servers
  /-- Otherwise the whole fails with the error of the first element that is none. -/
  error_iff : ∀ e, outcome = .error e ↔ ∃ front element back,
    items = front ++ element :: back ∧ (∀ other ∈ front, IsElement other) ∧
      ElementFault element e

/-- **One element** of UTF-8: it is read exactly if it is one of a server, which it
describes, and fails with its own error. -/
theorem ofFrame_iff (htext : element.ListsText) :
    ((∃ server, ofFrame element = .ok server) ↔ IsElement element) ∧
      (∀ server, ofFrame element = .ok server →
        ∃ fields, element.SpellsFields fields ∧ Describes fields server) ∧
      ∀ e, ofFrame element = .error e ↔ ElementFault element e := by
  have hcases := ofFrame_cases htext
  refine ⟨⟨?_, fun ⟨fields, hfields, haddress⟩ => ofFrame_of_hasAddress hfields haddress⟩,
    ?_, fun e => ⟨?_, ElementFault.ofFrame_eq⟩⟩
  · rintro ⟨server, h⟩
    rcases hcases with ⟨fields, -, hfields, haddress, -⟩ | ⟨e, -, herror⟩
    · exact ⟨fields, hfields, haddress⟩
    · nomatch h.symm.trans herror
  · intro server h
    rcases hcases with ⟨fields, found, hfields, -, hfound, hdescribes⟩ | ⟨e, -, herror⟩
    · obtain rfl := Except.ok.inj (h.symm.trans hfound)
      exact ⟨fields, hfields, hdescribes⟩
    · nomatch h.symm.trans herror
  · intro h
    rcases hcases with ⟨fields, found, -, -, hfound, -⟩ | ⟨other, hfault, herror⟩
    · nomatch h.symm.trans hfound
    · obtain rfl := Except.error.inj (h.symm.trans herror)
      exact hfault

/-- **A list of servers is read as a whole.** -/
theorem listReading_mapM {items : List Frame} (htext : ∀ element ∈ items, element.ListsText) :
    ListReading items (items.mapM ofFrame) := by
  have hmade : ∀ servers, items.mapM ofFrame = .ok servers → List.Forall₂
      (fun element server => ∃ fields, element.SpellsFields fields ∧ Describes fields server)
      items servers := by
    intro servers h
    refine (List.forall₂_iff_zip.2 ?_)
    obtain ⟨hlength, hread⟩ := List.forall₂_iff_zip.1 (mapM_eq_ok_iff.1 h)
    refine ⟨hlength, fun {element server} hmem => ?_⟩
    exact (ofFrame_iff (htext element (List.of_mem_zip hmem).1)).2.1 server (hread hmem)
  have herror : ∀ e, items.mapM ofFrame = .error e ↔ ∃ front element back,
      items = front ++ element :: back ∧ (∀ other ∈ front, IsElement other) ∧
        ElementFault element e := by
    intro e
    rw [mapM_eq_error_iff]
    constructor
    · rintro ⟨front, element, back, rfl, hfront, hfails⟩
      refine ⟨front, element, back, rfl, fun other hother => ?_, ?_⟩
      · exact (ofFrame_iff (htext other (by simp [hother]))).1.1 (hfront other hother)
      · exact ((ofFrame_iff (htext element (by simp))).2.2 e).1 hfails
    · rintro ⟨front, element, back, rfl, hfront, hfault⟩
      refine ⟨front, element, back, rfl, fun other hother => ?_, hfault.ofFrame_eq⟩
      exact (ofFrame_iff (htext other (by simp [hother]))).1.2 (hfront other hother)
  refine ⟨⟨?_, fun hall => ?_⟩, hmade, herror⟩
  · rintro ⟨servers, h⟩ element hmem
    exact (ofFrame_iff (htext element hmem)).1.1 (ok_of_mapM_ok h element hmem)
  · cases h : items.mapM ofFrame with
    | ok servers => exact ⟨servers, rfl⟩
    | error e =>
      obtain ⟨front, element, back, rfl, -, hfault⟩ := (herror e).1 h
      obtain ⟨server, hserver⟩ :=
        (ofFrame_iff (htext element (by simp))).1.2 (hall element (by simp))
      nomatch hserver.symm.trans hfault.ofFrame_eq

/-- A reply that lists elements is read by reading these. -/
theorem listOfFrame_of_lists {reply : Frame} {items : List Frame} (h : reply.Lists items) :
    listOfFrame reply = items.mapM ofFrame := by
  rw [listOfFrame, readItems_eq_ok_iff.2 h]
  rfl

/-- Any other reply is none of servers. -/
theorem listOfFrame_of_not_lists {reply : Frame} (h : ∀ items, ¬ reply.Lists items) :
    listOfFrame reply = .error (reply.mismatch .array) := by
  rw [listOfFrame, readItems_of_not_lists h]
  rfl

end Server

/-! ## Queries -/

/-- What a sentinel can be asked for that it answers with servers. -/
inductive ServerQuery where
  /-- The masters that it watches. -/
  | masters
  /-- The replicas of a master. -/
  | replicas (master : String)

namespace ServerQuery

variable {C E : Type}

/-- The call, as one of the administrative ones. -/
def administration : ServerQuery → Administration
  | masters => .masters
  | replicas master => .replicas master

variable [Client C E]

/-- Makes the call. -/
def run : ServerQuery → Step (Sentinel C × E) (List Server)
  | masters => Sentinel.masters
  | replicas master => Sentinel.replicas master

/-- A call with a valid argument comes to its command. -/
theorem run_of_valid {query : ServerQuery} (h : query.administration.valid = true)
    (s : Sentinel C × E) :
    query.run s = Sentinel.administer query.administration.words Server.listOfFrame s := by
  cases query with
  | masters => rfl
  | replicas master =>
    have hname : Blank.isBlankText master = false := by
      simpa [administration, Administration.valid] using h
    simp [run, Sentinel.replicas, Administration.ofExcept_notBlank, hname, administration,
      Administration.words]

/-- So on an open connection the servers are read off the reply. -/
theorem outcome_run {query : ServerQuery} (hvalid : query.administration.valid = true)
    {sentinel : Sentinel C} (hopen : sentinel.closed = false) (env : E) :
    (Step.outcome query.run (sentinel, env)).1 =
      (Step.outcome (Client.execute query.administration.command) (sentinel.client, env)).1 >>=
        Server.listOfFrame := by
  simp only [Step.outcome, run_of_valid hvalid, Sentinel.administer_apply, hopen,
    Bool.false_eq_true, if_false, Administration.command]
  cases Client.execute (Sentinel.command query.administration.words) (sentinel.client, env) with
  | error error s => rfl
  | ok frame s =>
    dsimp only [bind, Except.bind]
    cases Server.listOfFrame frame <;> rfl

end ServerQuery

open RedisClient.Frame in
/-- **The servers that a sentinel lists.** On an open connection, masters and
replicas are read off the reply to the query. A reply that is an array, or the null
array for no servers, is read as a whole where the fields are UTF-8: into one
server for each element, in order, if every element has the fields of one that can
be reached, and otherwise into the error of the first element that has not. Any
other reply is none of servers, and without a reply its error is the outcome. -/
theorem listed_servers_are_read {C E : Type} [Client C E] (query : ServerQuery)
    (hvalid : query.administration.valid = true) (sentinel : Sentinel C)
    (hopen : sentinel.closed = false) (env : E) :
    let reply := (Step.outcome (Client.execute query.administration.command)
      (sentinel.client, env)).1
    let outcome := (Step.outcome query.run (sentinel, env)).1
    (∀ frame items, reply = .ok frame → frame.Lists items →
      (∀ element ∈ items, element.ListsText) → Server.ListReading items outcome) ∧
    (∀ frame, reply = .ok frame → (∀ items, ¬ frame.Lists items) →
      outcome = .error (frame.mismatch .array)) ∧
    ∀ e, reply = .error e → outcome = .error e := by
  intro reply outcome
  have houtcome : outcome = reply >>= Server.listOfFrame :=
    ServerQuery.outcome_run hvalid hopen env
  refine ⟨fun frame items hreply hlists htext => ?_, fun frame hreply hnone => ?_,
    fun e hreply => ?_⟩
  · have hread : outcome = items.mapM Server.ofFrame := by
      rw [houtcome, hreply]
      exact Server.listOfFrame_of_lists hlists
    rw [hread]
    exact Server.listReading_mapM htext
  · rw [houtcome, hreply]
    exact Server.listOfFrame_of_not_lists hnone
  · rw [houtcome, hreply]
    rfl

/-- Two masters, one of which has moved, and replicas of which the second has a
port that is none, with an error line behind it. -/
theorem listed_servers_are_read_moved :
    let stays : Frame := .ofFields [("name", "m"), ("ip", "a"), ("port", "1"), ("quorum", "2")]
    let moved : Frame := .ofFields [("ip", "a"), ("port", "x"), ("ip", "b"), ("port", "65535")]
    let off : Frame := .ofFields [("ip", "a"), ("port", "65536")]
    let failing : Frame := .ofFields [("ip", "a")]
    let client : ScriptedClient :=
      { script := { replies := [("SENTINEL", [.ok (.array [stays, moved])])] } }
    let other : ScriptedClient :=
      { script := { replies := [("SENTINEL", [.ok (.array [moved, off, failing])])] } }
    let sentinel : Sentinel ScriptedClient := { client, node := ⟨"s", 1⟩ }
    let second : Sentinel ScriptedClient := { client := other, node := ⟨"s", 2⟩ }
    (∃ first last, (Step.outcome ServerQuery.masters.run (sentinel, ())).1 = .ok [first, last]) ∧
      (Step.outcome (ServerQuery.replicas "m").run (second, ())).1 =
        .error (.protocol .portMissing) := by
  intro stays moved off failing client other sentinel second
  have hstays : Server.IsElement stays :=
    ⟨_, Frame.spellsFields_ofFields _, ⟨"a", [("name", "m")], _, rfl, by decide⟩,
      "1", 1, ⟨[("name", "m"), ("ip", "a")], _, rfl, by decide⟩, by rfl⟩
  have hmoved : Server.IsElement moved :=
    ⟨_, Frame.spellsFields_ofFields _, ⟨"b", [("ip", "a"), ("port", "x")], _, rfl, by decide⟩,
      "65535", 65535, ⟨[("ip", "a"), ("port", "x"), ("ip", "b")], _, rfl, by decide⟩, by rfl⟩
  constructor
  · obtain ⟨hread, -⟩ := listed_servers_are_read .masters rfl sentinel rfl ()
    have hlisting := hread (.array [stays, moved]) _ (by rfl) (.inl rfl) (by
      simp only [List.forall_mem_cons, List.not_mem_nil, false_implies, implies_true, and_true]
      exact ⟨Frame.listsText_ofFields _, Frame.listsText_ofFields _⟩)
    obtain ⟨servers, hok⟩ := hlisting.ok_iff.2 (by simp [hstays, hmoved])
    have hmade := hlisting.made servers hok
    obtain ⟨first, last, rfl⟩ := List.length_eq_two.1 hmade.length_eq.symm
    exact ⟨first, last, hok⟩
  · obtain ⟨hread, -⟩ := listed_servers_are_read (.replicas "m") (by decide +kernel) second
      rfl ()
    have hlisting := hread (.array [moved, off, failing]) _ (by rfl) (.inl rfl) (by
      simp only [List.forall_mem_cons, List.not_mem_nil, false_implies, implies_true, and_true]
      exact ⟨Frame.listsText_ofFields _, Frame.listsText_ofFields _, Frame.listsText_ofFields _⟩)
    refine (hlisting.error_iff _).2 ⟨[moved], off, [failing], rfl, by simp [hmoved],
      .portMissing (Frame.spellsFields_ofFields _) ⟨[], _, rfl, by decide⟩ ?_⟩
    intro digits port hport hread
    obtain rfl : digits = "65536" := by simpa using hport.mem
    have hnone : (Decimal.readUInt16 "65536".toList).toOption = none := by rfl
    rw [hread] at hnone
    nomatch hnone

end RedisClient
