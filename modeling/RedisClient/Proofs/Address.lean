import Mathlib.Data.List.DropRight
import RedisClient.Address
import RedisClient.Proofs.Number.Spelling
import RedisClient.Proofs.Text.Cut

/-!
# Node addresses read back

The written form of a node ends in its port, so the last colon of it is the one
that was written, whatever colons and white space the host has. Reading first
takes off the white space around an address, which keeps the host as it is if it
does not begin with any (`LeadsAddress`); and every host that was read does not
(`Node.leadsAddress_of_read`). So a node is read from its written form exactly if
its host leads (`Node.read_text_iff`).
-/

namespace RedisClient

variable {chars host : List Char} {c : Char}

/-! ## White space around a text -/

namespace Blank

/-- What is left of a text begins with no white space. -/
theorem isBlank_of_head?_trim (h : (trim chars).head? = some c) : isBlank c = false := by
  obtain ⟨rest, hrest⟩ := List.head?_eq_some_iff.1 h
  -- the end is taken off last, and that leaves the front of what begins with no white space
  have hprefix : trim chars <+: chars.dropWhile isBlank := List.rdropWhile_prefix isBlank _
  rw [hrest] at hprefix
  obtain ⟨more, hmore⟩ := hprefix
  have hhead := List.head?_dropWhile_not isBlank chars
  rw [← hmore] at hhead
  exact hhead

/-- **A text that has no white space around it** is left as it is. -/
theorem trim_eq_self (hfront : ∀ c, chars.head? = some c → isBlank c = false)
    (hback : ∀ c, chars.getLast? = some c → isBlank c = false) : trim chars = chars := by
  have hdrop : chars.dropWhile isBlank = chars := by
    refine List.dropWhile_eq_self_iff.2 fun hne => ?_
    rw [hfront _ (List.head?_eq_getElem? ▸ List.getElem?_eq_getElem hne)]
    exact Bool.false_ne_true
  have hlast : chars.rdropWhile isBlank = chars := by
    refine List.rdropWhile_eq_self_iff.2 fun hne => ?_
    rw [hback _ (List.getLast?_eq_some_getLast hne)]
    exact Bool.false_ne_true
  change (chars.dropWhile isBlank).rdropWhile isBlank = chars
  rw [hdrop, hlast]

/-- A digit is no white space. -/
theorem isBlank_of_isDigit (h : c.isDigit) : isBlank c = false := by
  obtain ⟨hchar, hlt⟩ := Decimal.digitChar_of_isDigit h
  have hall : ∀ n : Fin 10, isBlank n.val.digitChar = false := by decide
  rw [← hchar]
  exact hall ⟨_, hlt⟩

end Blank

/-! ## Nodes -/

/-- **A host that leads an address**: it is not empty, and begins with no white
space. -/
def LeadsAddress (host : String) : Prop :=
  host ≠ "" ∧ ∀ c, host.toList.head? = some c → Blank.isBlank c = false

namespace Node

variable {address : String} {defaultPort port : UInt16} {node : Node}

/-- Parts of an address that leave a host are its node. -/
theorem read_eq_ok_iff :
    read address defaultPort = .ok node ↔
      readParts (Blank.trim address.toList) defaultPort = .ok (node.host.toList, node.port) ∧
        node.host ≠ "" := by
  obtain ⟨host, port⟩ := node
  have hempty : host.toList.isEmpty = true ↔ host = "" := by
    rw [List.isEmpty_iff, String.toList_eq_nil_iff]
  rw [read]
  rcases readParts (Blank.trim address.toList) defaultPort with fault | ⟨front, back⟩
  · simp [Except.mapError, bind, Except.bind]
  · simp only [Except.mapError, bind, Except.bind, pure, Except.pure, throw, throwThe,
      MonadExceptOf.throw, Except.ok.injEq, Prod.mk.injEq]
    constructor
    · intro h
      split at h
      · cases h
      · rename_i hne
        obtain ⟨rfl, rfl⟩ := Node.mk.inj (Except.ok.inj h)
        exact ⟨⟨String.toList_ofList.symm, rfl⟩, by simpa using hne⟩
    · rintro ⟨⟨rfl, rfl⟩, hne⟩
      rw [if_neg (hempty.not.2 hne), String.ofList_toList]

/-- **A host and a port** behind the last colon. -/
theorem readParts_colon (host : List Char) (port defaultPort : UInt16) :
    readParts (host ++ ':' :: Decimal.ofNat port.toNat) defaultPort = .ok (host, port) := by
  have hcolon : ':' ∉ Decimal.ofNat port.toNat := fun hmem =>
    absurd (Decimal.isDigit_of_mem_ofNat hmem) (by decide)
  rw [readParts, splitLast_append hcolon]
  simp only [Decimal.readUInt16_ofNat]

/-- A host without a colon. -/
theorem readParts_host (h : ':' ∉ host) (defaultPort : UInt16) :
    readParts host defaultPort = .ok (host, defaultPort) := by
  rw [readParts, splitLast_eq_none h]

/-- The parts of an address begin as it does. -/
theorem head?_of_readParts (h : readParts chars defaultPort = .ok (host, port)) (hne : host ≠ []) :
    host.head? = chars.head? := by
  rw [readParts] at h
  split at h
  · obtain ⟨rfl, -⟩ := Prod.mk.inj (Except.ok.inj h)
    rfl
  · rename_i front back hcut
    split at h
    · obtain ⟨rfl, -⟩ := Prod.mk.inj (Except.ok.inj h)
      rw [eq_append_of_splitLast hcut, List.head?_append_of_ne_nil _ hne]
    · cases h

/-- **A host that was read leads**, since white space was taken off in front of
it. -/
theorem leadsAddress_of_read (h : read address defaultPort = .ok node) :
    LeadsAddress node.host := by
  obtain ⟨hparts, hne⟩ := read_eq_ok_iff.1 h
  refine ⟨hne, fun c hc => ?_⟩
  rw [head?_of_readParts hparts (String.toList_eq_nil_iff.not.2 hne)] at hc
  exact Blank.isBlank_of_head?_trim hc

/-- The characters of the written form. -/
theorem toList_text (node : Node) :
    node.text.toList = node.host.toList ++ ':' :: Decimal.ofNat node.port.toNat := by
  rw [Node.text, String.toList_append, String.toList_append, List.append_assoc]
  exact congrArg (fun digits => node.host.toList ++ ':' :: digits) String.toList_ofList

/-- The written form of a node whose host leads has no white space around it. -/
theorem trim_text (h : LeadsAddress node.host) : Blank.trim node.text.toList = node.text.toList := by
  rw [toList_text]
  refine Blank.trim_eq_self (fun c hc => ?_) (fun c hc => ?_)
  · rw [List.head?_append_of_ne_nil _ (String.toList_eq_nil_iff.not.2 h.1)] at hc
    exact h.2 c hc
  · -- it ends in a digit of the port
    have hdigits : Decimal.ofNat node.port.toNat ≠ [] := Nat.toDigits_ne_nil
    have hmem : c ∈ Decimal.ofNat node.port.toNat := by
      rw [List.getLast?_append_of_ne_nil _ (List.cons_ne_nil _ _), List.getLast?_cons,
        List.getLast?_eq_some_getLast hdigits] at hc
      obtain rfl : _ = c := Option.some.inj hc
      exact List.getLast_mem hdigits
    exact Blank.isBlank_of_isDigit (Decimal.isDigit_of_mem_ofNat hmem)

/-- **A node is read from its written form** exactly if its host leads. The port
that stands in for a missing one plays no part. -/
theorem read_text_iff : read node.text defaultPort = .ok node ↔ LeadsAddress node.host := by
  refine ⟨leadsAddress_of_read, fun h => ?_⟩
  rw [read_eq_ok_iff, trim_text h, toList_text, readParts_colon]
  exact ⟨rfl, h.1⟩

/-- **Addresses of nodes are written and read back.** A node is read from its
written form, with any port in the place of a missing one, exactly if its host is
not empty and begins with no white space. A host that has no colon, and no white
space around it, is read as itself with the port that stands in. And whatever
node is read from an address, its host is not empty, and the node is read from
its written form again. -/
theorem addresses_read_back :
    (∀ (node : Node) (defaultPort : UInt16),
        read node.text defaultPort = .ok node ↔
          node.host ≠ "" ∧ ∀ c, node.host.toList.head? = some c → Blank.isBlank c = false) ∧
      (∀ (host : String) (defaultPort : UInt16), host ≠ "" → ':' ∉ host.toList →
        (∀ c, host.toList.head? = some c → Blank.isBlank c = false) →
        (∀ c, host.toList.getLast? = some c → Blank.isBlank c = false) →
          read host defaultPort = .ok ⟨host, defaultPort⟩) ∧
      ∀ (address : String) (defaultPort : UInt16) (node : Node),
        read address defaultPort = .ok node →
          node.host ≠ "" ∧ ∀ other, read node.text other = .ok node := by
  refine ⟨fun node defaultPort => read_text_iff, ?_, ?_⟩
  · intro host defaultPort hne hcolon hfront hback
    rw [read_eq_ok_iff, Blank.trim_eq_self hfront hback, readParts_host hcolon]
    exact ⟨rfl, hne⟩
  · intro address defaultPort node h
    have hleads := leadsAddress_of_read h
    exact ⟨hleads.1, fun other => read_text_iff.2 hleads⟩

/-- A host with colons and a blank inside and behind it, a host by itself, and an
address with white space around it and a port that is spelled with a sign. -/
theorem addresses_read_back_colons :
    let node : Node := ⟨"fe80::1 a ", 0⟩
    read node.text 6379 = .ok node ∧ read "cache" 6379 = .ok ⟨"cache", 6379⟩ ∧
      read " a:b:+80\t" 6379 = .ok ⟨"a:b", 80⟩ ∧ read "a:b:80" 1 = .ok ⟨"a:b", 80⟩ := by
  intro node
  obtain ⟨htext, hhost, hread⟩ := addresses_read_back
  have hspaced : read " a:b:+80\t" 6379 = .ok ⟨"a:b", 80⟩ := by rfl
  have hfront : ∀ c, "fe80::1 a ".toList.head? = some c → Blank.isBlank c = false := by
    rintro c ⟨⟩
    decide
  refine ⟨(htext node 6379).2 ⟨by decide, hfront⟩, hhost "cache" 6379 ?_ ?_ ?_ ?_, hspaced,
    (hread _ _ _ hspaced).2 1⟩
  · decide
  · decide
  · rintro c ⟨⟩
    decide
  · rintro c ⟨⟩
    decide

end Node

end RedisClient
