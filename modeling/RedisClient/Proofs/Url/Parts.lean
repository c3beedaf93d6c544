import RedisClient.Proofs.Number.Spelling
import RedisClient.Proofs.Url.Percent
import RedisClient.Url

/-!
# URLs of plain parts

Which parts a URL has is left to whatever reads it. All that is asked of a reader
is what the URL Standard says of parts that need no encoding (`Url.ReadsParts`):
they are found between the marks that they were written with and are kept as they
are written. The user and the password may hold encoded bytes, which are not
decoded.
-/

namespace RedisClient

namespace Url

variable {c d : Char}

/-- Whether a character means nothing in the syntax of a URL: a letter, a digit or
one of those that stand for themselves. -/
def isUnreserved (c : Char) : Bool := c.isAlphanum || c ∈ ['-', '.', '_', '~']

/-- **Plain characters** are these, with the percent sign of an encoded byte. -/
def isPlain (c : Char) : Bool := isUnreserved c || c == '%'

/-- The schemes that the standard singles out. -/
def specialSchemes : List String := ["http", "https", "ws", "wss", "ftp", "file"]

/-- Who logs in: a user and perhaps a password, in plain characters. -/
structure Userinfo where
  /-- The user, which may be empty. -/
  user : List Char
  /-- The password, if there is one. -/
  password : Option (List Char) := none
  /-- The user is plain. -/
  user_plain : ∀ c ∈ user, isPlain c
  /-- So is a password, which is not empty. -/
  password_plain : ∀ text ∈ password, text ≠ [] ∧ ∀ c ∈ text, isPlain c

/-- **The parts of a URL with a server**, none of which needs encoding. -/
structure Parts where
  /-- The scheme. -/
  scheme : String
  /-- Who logs in, if the URL says so. -/
  userinfo : Option Userinfo := none
  /-- The host. -/
  host : List Char
  /-- The port, if one is given. -/
  port : Option UInt16 := none
  /-- The only segment of the path, if there is a path. -/
  segment : Option (List Char) := none
  /-- The scheme is a word in lower case. -/
  scheme_lower : scheme ≠ "" ∧ ∀ c ∈ scheme.toList, c.isLower
  /-- It is not one of those that the standard singles out. -/
  scheme_other : scheme ∉ specialSchemes
  /-- The host is not empty, and means nothing else. -/
  host_unreserved : host ≠ [] ∧ ∀ c ∈ host, isUnreserved c
  /-- A segment is not empty, and has letters and digits only. -/
  segment_alphanum : ∀ text ∈ segment, text ≠ [] ∧ ∀ c ∈ text, c.isAlphanum

/-- The user, and the password behind a colon. -/
def Userinfo.text (userinfo : Userinfo) : List Char :=
  userinfo.user ++
    match userinfo.password with
    | none => []
    | some password => ':' :: password

/-- A port behind a colon. -/
def portText : Option UInt16 → List Char
  | none => []
  | some port => ':' :: Decimal.ofNat port.toNat

/-- A path of one segment, behind a slash. -/
def pathText : Option (List Char) → List Char
  | none => []
  | some segment => '/' :: segment

namespace Parts

/-- The part that names the server, with who logs in in front of an at sign. -/
def authority (parts : Parts) : List Char :=
  match parts.userinfo with
  | none => parts.host ++ portText parts.port
  | some userinfo => userinfo.text ++ '@' :: (parts.host ++ portText parts.port)

/-- **The written URL**, `scheme://[user[:password]@]host[:port][/segment]`. -/
def text (parts : Parts) : String :=
  .ofList (parts.scheme.toList ++ ':' :: '/' :: '/' :: (parts.authority ++ pathText parts.segment))

/-- The URL that has these parts. -/
def url (parts : Parts) : Url where
  scheme := parts.scheme
  user := (parts.userinfo.map Userinfo.user).getD []
  password := parts.userinfo.bind Userinfo.password
  host := some parts.host
  port := parts.port
  path := pathText parts.segment

end Parts

/-- **Reading such URLs as the standard says**: every part is found, and kept as it
is written. -/
def ReadsParts [Reader] : Prop := ∀ parts : Parts, Reader.parse parts.text = some parts.url

/-! ## Plain characters -/

/-- Letters and digits are plain. -/
theorem isPlain_of_isAlphanum (h : c.isAlphanum) : isPlain c := by simp [isPlain, isUnreserved, h]

/-- So is all that means nothing. -/
theorem isPlain_of_isUnreserved (h : isUnreserved c) : isPlain c := by simp [isPlain, h]

/-- Plain characters are printable ASCII, and not the blank. -/
theorem bounds_of_isPlain (h : isPlain c) : 0x20 < c.toNat ∧ c.toNat < 0x7F := by
  simp only [isPlain, isUnreserved, Bool.or_eq_true, decide_eq_true_eq, beq_iff_eq] at h
  rcases h with (h | h) | rfl
  · have := Percent.toNat_of_isAlphanum h
    omega
  · simp only [List.mem_cons, List.not_mem_nil, or_false] at h
    rcases h with rfl | rfl | rfl | rfl <;> decide
  · decide

/-- They are not what is not plain. -/
theorem ne_of_isPlain (h : isPlain c) (hd : isPlain d = false) : c ≠ d := by
  rintro rfl
  rw [hd] at h
  nomatch h

/-- So they are none of some marks. -/
theorem notMem_of_isPlain {marks : List Char} (hmarks : marks.all (!isPlain ·) = true)
    (h : isPlain c) : c ∉ marks := by
  intro hmem
  have hc : isPlain c = false := by simpa using List.all_eq_true.1 hmarks c hmem
  exact ne_of_isPlain h hc rfl

/-- The digits of a number are letters or digits. -/
theorem isAlphanum_of_mem_ofNat {n : Nat} (h : c ∈ Decimal.ofNat n) : c.isAlphanum := by
  simp [Char.isAlphanum, Decimal.isDigit_of_mem_ofNat h]

end Url

end RedisClient
