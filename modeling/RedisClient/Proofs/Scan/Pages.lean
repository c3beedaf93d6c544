import RedisClient.Proofs.Reply.Pairs
import RedisClient.Scan

/-!
# Pages

Which reply is which page of a traversal: a token, and then the items as they are
listed, one element for each key or member of a set, two for each entry of a hash
and for each member with a score (`Scan.Shows`). A reply is read as a page exactly
if it shows it (`Scan.readPage_eq_ok_iff`).
-/

namespace RedisClient

variable {α : Type}

namespace Frame

/-- A flat list is read as the pairs that it spells. -/
theorem readPairs_eq_ok_iff {Value : Bytes → α → Prop} {second : Bytes → Except Error α}
    (hsecond : Reads Value second) {items : List Frame} {pairs : List (Bytes × α)} :
    readPairs second items = .ok pairs ↔ Spells Value items pairs := by
  by_cases heven : items.length % 2 = 0
  · exact (readPairs_iff hsecond heven).1 pairs
  · rw [readPairs_of_odd (by omega)]
    refine ⟨fun h => (nomatch h), fun h => ?_⟩
    exact absurd (exists_spells_iff.1 ⟨pairs, h⟩).1 heven

/-- Members are read with their scores off a list that spells them. -/
theorem readMembers_eq_ok_iff {elements : List Frame} {members : List ScoredMember} :
    readMembers elements = .ok members ↔
      Spells IsScore elements (members.map fun member => (member.member, member.score)) := by
  simp only [readMembers, bind_eq_ok_iff, readPairs_eq_ok_iff reads_floatOfBytes]
  constructor
  · rintro ⟨pairs, hpairs, h⟩
    obtain rfl := Except.ok.inj h
    simpa [Function.comp_def] using hpairs
  · intro h
    exact ⟨_, h, by simp [Function.comp_def, pure, Except.pure]⟩

/-- The parts of a page are read off a reply that has them. -/
theorem readPageParts_eq_ok_iff {reply : Frame} {token : String} {elements : List Frame} :
    reply.readPageParts = .ok (token, elements) ↔
      ∃ list, reply.IsPage token list ∧ list.Lists elements := by
  refine ⟨isPage_of_readPageParts, ?_⟩
  rintro ⟨list, hpage, hlist⟩
  rw [hpage.readPageParts, readItems_eq_ok_iff.2 hlist]
  rfl

/-- A page is read if its elements are read as its items. -/
theorem readPage_eq_ok_iff {read : List Frame → Except Error (List α)} {reply : Frame}
    {page : Page α} :
    readPage read reply = .ok page ↔
      ∃ list elements, reply.IsPage page.token list ∧ list.Lists elements ∧
        read elements = .ok page.items := by
  simp only [readPage, bind_eq_ok_iff, Prod.exists, readPageParts_eq_ok_iff]
  constructor
  · rintro ⟨token, elements, ⟨list, hpage, hlist⟩, items, hitems, h⟩
    obtain rfl := Except.ok.inj h
    exact ⟨list, elements, hpage, hlist, hitems⟩
  · rintro ⟨list, elements, hpage, hlist, hitems⟩
    exact ⟨page.token, elements, ⟨list, hpage, hlist⟩, page.items, hitems, rfl⟩

end Frame

namespace Scan

open RedisClient.Frame (Holds Spells IsScore)

/-- Which elements list which items. -/
def Lists : (scan : Scan) → List Frame → List scan.Item → Prop
  | keys, elements, items | set _, elements, items => List.Forall₂ Holds elements items
  | hash _, elements, items => Spells Eq elements items
  | sortedSet _, elements, items =>
    Spells IsScore elements (items.map fun item => (item.member, item.score))

/-- **A reply that shows a page**: its token, which is not empty, and its items. -/
def Shows (scan : Scan) (page : Page scan.Item) (reply : Frame) : Prop :=
  ∃ list elements, reply.IsPage page.token list ∧ list.Lists elements ∧
    scan.Lists elements page.items

/-- **A reply is read as a page exactly if it shows it.** -/
theorem readPage_eq_ok_iff (scan : Scan) {reply : Frame} {page : Page scan.Item} :
    scan.readPage reply = .ok page ↔ scan.Shows page reply := by
  cases scan with
  | keys | set _ =>
    refine Frame.readPage_eq_ok_iff.trans ?_
    simp only [mapM_eq_ok_iff, Frame.readBytes_eq_ok_iff]
    rfl
  | hash _ =>
    refine Frame.readPage_eq_ok_iff.trans ?_
    simp only [Frame.readEntries, Frame.readPairs_eq_ok_iff Frame.reads_ok]
    rfl
  | sortedSet _ =>
    refine Frame.readPage_eq_ok_iff.trans ?_
    simp only [Frame.readMembers_eq_ok_iff]
    rfl

end Scan

end RedisClient
