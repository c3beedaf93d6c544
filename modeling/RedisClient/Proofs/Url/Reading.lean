import RedisClient.Proofs.Text.Cut
import RedisClient.Proofs.Url.Parts
import RedisClient.Url.Standard

/-!
# Parts of a URL read back

The reader of the standard cuts a URL at its marks, from the outside in: the path
off the server, the user part off the host, the port off the host, the password
off the user. Each cut finds its mark if the parts in front of it, or behind it,
have none; the plain characters are none of the marks at all. So it has the law
that is asked of readers (`Url.readsParts`).
-/

namespace RedisClient

namespace Url

variable {front rest : List Char} {c d : Char}

/-! ## Characters -/

/-- Plain characters may stand in a host. -/
theorem isForbidden_of_isPlain (h : isPlain c) : Host.isForbidden c = false :=
  decide_eq_false (notMem_of_isPlain (by decide) h)

/-- And none is encoded in a path. -/
theorem isEncoded_of_isPlain (h : isPlain c) : UrlPath.isEncoded c = false :=
  decide_eq_false (notMem_of_isPlain (by decide) h)

/-- Lower-case letters have codes between those of the back quote and `{`. -/
theorem toNat_of_isLower (h : c.isLower) : 97 ≤ c.toNat ∧ c.toNat ≤ 122 := by
  have hrange : (decide (c.val ≥ 'a'.val) && decide (c.val ≤ 'z'.val)) = true := h
  simp only [Bool.and_eq_true, decide_eq_true_eq, ge_iff_le, UInt32.le_iff_toNat_le] at hrange
  exact hrange

/-- They are letters. -/
theorem isAlpha_of_isLower (h : c.isLower) : c.isAlpha := by
  have hletter : (c.isUpper || c.isLower) = true := by rw [h, Bool.or_true]
  exact hletter

/-- A lower-case letter is its own lower case. -/
theorem toLower_eq_self (h : c.isLower) : c.toLower = c := by
  have := toNat_of_isLower h
  refine dif_neg ?_
  rintro ⟨-, hle⟩
  have hcode : c.toNat ≤ 90 := UInt32.le_iff_toNat_le.1 hle
  omega

/-- The lower case of a letter or digit is none of the marks in front of the
digits. -/
theorem toLower_ne (h : c.isAlphanum) {mark : Char} (hmark : mark.toNat < 0x30) :
    c.toLower ≠ mark := by
  rintro rfl
  have := Percent.toNat_of_isAlphanum h
  by_cases hupper : c.val ≥ 'A'.val ∧ c.val ≤ 'Z'.val
  · have hlower : c.toLower = ⟨c.val + ('a'.val - 'A'.val), _⟩ := dif_pos hupper
    rw [hlower] at hmark
    have hcode : c.toNat ≤ 90 := UInt32.le_iff_toNat_le.1 hupper.2
    have hsum : (c.val + ('a'.val - 'A'.val)).toNat = c.toNat + 32 := by
      rw [UInt32.toNat_add]
      change (c.toNat + 32) % 2 ^ 32 = _
      omega
    change (c.val + ('a'.val - 'A'.val)).toNat < 0x30 at hmark
    omega
  · have hsame : c.toLower = c := dif_neg hupper
    rw [hsame] at hmark
    omega

/-! ## Cuts -/

/-- A text without blanks and controls is not cleaned of anything. -/
theorem clean_eq_self (h : ∀ c ∈ rest, 0x20 < c.toNat) : clean rest = rest := by
  have hkept : ∀ text : List Char, (∀ c ∈ text, 0x20 < c.toNat) → text.dropWhile isMargin = text
  | [], _ => rfl
  | c :: text, htext => by
    have hc : ¬ isMargin c = true := by
      have := htext c List.mem_cons_self
      simp only [isMargin, decide_eq_true_eq]
      omega
    exact List.dropWhile_cons_of_neg hc
  have hskipped : ∀ c ∈ rest, (!isSkipped c) = true := fun c hc => by
    have hne : ∀ mark : Char, mark.toNat ≤ 0x20 → c ≠ mark := fun mark hmark => by
      rintro rfl
      exact absurd (h c hc) (by omega)
    simp [isSkipped, hne '\t' (by decide), hne '\n' (by decide), hne '\r' (by decide)]
  have hback : ∀ c ∈ rest.reverse, 0x20 < c.toNat := fun c hc => h c (List.mem_reverse.1 hc)
  rw [clean, hkept rest h, hkept _ hback, List.reverse_reverse, List.filter_eq_self.2 hskipped]

/-- A user without a password. -/
theorem readUserinfo_user {user : List Char} (h : ':' ∉ user) :
    readUserinfo user = (user, none) := by
  rw [readUserinfo, List.dropWhile_eq_nil_iff.2 (bne_of_notMem h)]

/-- **A user and a password** that is not empty. -/
theorem readUserinfo_password {user password : List Char} (h : ':' ∉ user) (hne : password ≠ []) :
    readUserinfo (user ++ ':' :: password) = (user, some password) := by
  have hcolon : ∀ c, (':' :: password).head? = some c → (c != ':') = false := by simp
  obtain ⟨htake, hdrop⟩ := span_append (bne_of_notMem h) hcolon
  have hempty : password.isEmpty = false := by simpa using hne
  rw [readUserinfo, htake, hdrop]
  simp [hempty]

/-- **A host in front of a port**, or of nothing. -/
theorem splitHost_append {host : List Char} (hhost : ∀ c ∈ host, isPlain c)
    (hrest : ∀ c, rest.head? = some c → c = ':') :
    splitHost false (host ++ rest) = (host, rest) := by
  induction host with
  | nil =>
    cases rest with
    | nil => rfl
    | cons c rest =>
      obtain rfl := hrest c rfl
      rfl
  | cons c host ih =>
    obtain ⟨hc, hhost⟩ := List.forall_mem_cons.1 hhost
    have hopens : c ≠ '[' := ne_of_isPlain hc (by decide)
    have hcloses : c ≠ ']' := ne_of_isPlain hc (by decide)
    have hends : c ≠ ':' := ne_of_isPlain hc (by decide)
    rw [List.cons_append, splitHost]
    simp only [hends, false_and, if_false, hopens, hcloses, ih hhost]

/-! ## Values -/

/-- **A plain host** is kept as it is. -/
theorem read_host {host : List Char} (h : ∀ c ∈ host, isPlain c) : Host.read host = some host := by
  have hhead : host.head? ≠ some '[' := fun hhead =>
    ne_of_isPlain (h '[' (List.mem_of_mem_head? hhead)) (by decide) rfl
  have hforbidden : host.any Host.isForbidden = false := by
    simpa using fun c hc => isForbidden_of_isPlain (h c hc)
  have hwritten : Percent.encode (fun _ => false) host = host :=
    Percent.encode_eq_self fun c hc => by
      have := bounds_of_isPlain (h c hc)
      exact ⟨by omega, by omega, rfl⟩
  rw [Host.read, if_neg hhead, if_neg (by simp [hforbidden]), hwritten]

/-- **A port** is read back. -/
theorem readPort_ofNat (port : UInt16) :
    readPort (':' :: Decimal.ofNat port.toNat) = some (some port) := by
  obtain ⟨c, digits, hdigits, -⟩ := Decimal.ofNat_eq_cons port.toNat
  have hall : (Decimal.ofNat port.toNat).all (fun c => (Decimal.digit? c).isSome) = true := by
    simpa using fun c hc => by
      rw [Decimal.digit?_of_isDigit (Decimal.isDigit_of_mem_ofNat hc)]
      rfl
  rw [hdigits, readPort, ← hdigits, if_pos hall, Decimal.readUInt16_ofNat]
  · rfl
  · simp

/-- A text without the mark has one part. -/
theorem splitAt_of_notMem {mark : Char} (h : mark ∉ rest) : Ip.splitAt mark rest = [rest] := by
  induction rest with
  | nil => rfl
  | cons c rest ih =>
    obtain ⟨hc, hrest⟩ := not_or.1 (List.mem_cons.not.1 h)
    rw [Ip.splitAt, if_neg (Ne.symm hc), ih hrest]

/-- A segment that begins with a letter or digit stands for itself. -/
theorem fileSegments_of_isAlphanum (h : c.isAlphanum) :
    UrlPath.fileSegments [] [c :: rest] = [c :: rest] := by
  have hdot : c.toLower ≠ '.' := toLower_ne h (by decide)
  have hpercent : c.toLower ≠ '%' := toLower_ne h (by decide)
  have hsingle : UrlPath.isDot (c :: rest) = false := by simp [UrlPath.isDot, hdot, hpercent]
  have hdouble : UrlPath.isDoubleDot (c :: rest) = false := by
    simp [UrlPath.isDoubleDot, hdot, hpercent]
  simp [UrlPath.fileSegments, hsingle, hdouble]

/-- **A path of one segment** of letters and digits is in normal form. -/
theorem readPath_segment {segment : List Char} (hne : segment ≠ [])
    (h : ∀ c ∈ segment, c.isAlphanum) : readPath false ('/' :: segment) = '/' :: segment := by
  have hplain : ∀ c ∈ segment, isPlain c := fun c hc => isPlain_of_isAlphanum (h c hc)
  have htake : ('/' :: segment).takeWhile (fun c => !endsPath c) = '/' :: segment := by
    refine List.takeWhile_eq_self_iff.2 (List.forall_mem_cons.2 ⟨by decide, fun c hc => ?_⟩)
    have hquery : c ≠ '?' := ne_of_isPlain (hplain c hc) (by decide)
    have hfragment : c ≠ '#' := ne_of_isPlain (hplain c hc) (by decide)
    simp [endsPath, hquery, hfragment]
  have hslash : '/' ∉ segment := fun hc => ne_of_isPlain (hplain _ hc) (by decide) rfl
  have hwritten : Percent.encode UrlPath.isEncoded segment = segment :=
    Percent.encode_eq_self fun c hc => by
      have := bounds_of_isPlain (hplain c hc)
      exact ⟨by omega, by omega, isEncoded_of_isPlain (hplain c hc)⟩
  have hfiled : UrlPath.fileSegments [] [segment] = [segment] := by
    cases segment with
    | nil => exact absurd rfl hne
    | cons c segment => exact fileSegments_of_isAlphanum (h c List.mem_cons_self)
  rw [readPath, htake]
  simp only [true_or, if_true, segments, Bool.false_eq_true, if_false, splitAt_of_notMem hslash,
    UrlPath.ofSegments, List.map_cons, List.map_nil, hwritten, hfiled]
  simp

/-! ## Whole URLs -/

variable (parts : Parts)

/-- A port has a colon in front of it. -/
theorem isPlain_of_mem_portText {port : Option UInt16} (h : c ∈ portText port) :
    isPlain c ∨ c = ':' := by
  cases port with
  | none => nomatch h
  | some port =>
    rcases List.mem_cons.1 h with rfl | hc
    · exact .inr rfl
    · exact .inl (isPlain_of_isAlphanum (isAlphanum_of_mem_ofNat hc))

/-- A password has a colon in front of it. -/
theorem isPlain_of_mem_userinfo {userinfo : Userinfo} (h : c ∈ userinfo.text) :
    isPlain c ∨ c = ':' := by
  rcases List.mem_append.1 h with hc | hc
  · exact .inl (userinfo.user_plain c hc)
  · cases hpassword : userinfo.password with
    | none =>
      rw [hpassword] at hc
      nomatch hc
    | some password =>
      rw [hpassword] at hc
      rcases List.mem_cons.1 hc with rfl | hc
      · exact .inr rfl
      · exact .inl ((userinfo.password_plain password hpassword).2 c hc)

namespace Parts

variable {parts}

/-- A host is plain. -/
theorem isPlain_of_mem_host (h : c ∈ parts.host) : isPlain c :=
  isPlain_of_isUnreserved (parts.host_unreserved.2 c h)

/-- The server has no marks but the colon. -/
theorem isPlain_of_mem_server (h : c ∈ parts.host ++ portText parts.port) :
    isPlain c ∨ c = ':' := by
  rcases List.mem_append.1 h with hc | hc
  · exact .inl (isPlain_of_mem_host hc)
  · exact isPlain_of_mem_portText hc

/-- With who logs in there is an at sign besides. -/
theorem isPlain_of_mem_authority (h : c ∈ parts.authority) : isPlain c ∨ c = ':' ∨ c = '@' := by
  cases huserinfo : parts.userinfo with
  | none =>
    rw [authority, huserinfo] at h
    exact (isPlain_of_mem_server h).imp_right .inl
  | some userinfo =>
    rw [authority, huserinfo] at h
    rcases List.mem_append.1 h with hc | hc
    · exact (isPlain_of_mem_userinfo hc).imp_right .inl
    · rcases List.mem_cons.1 hc with rfl | hc
      · exact .inr (.inr rfl)
      · exact (isPlain_of_mem_server hc).imp_right .inl

/-- A path begins with a slash. -/
theorem isPlain_of_mem_path (h : c ∈ pathText parts.segment) : isPlain c ∨ c = '/' := by
  cases hsegment : parts.segment with
  | none =>
    rw [hsegment] at h
    nomatch h
  | some segment =>
    rw [hsegment] at h
    rcases List.mem_cons.1 h with rfl | hc
    · exact .inr rfl
    · exact .inl (isPlain_of_isAlphanum ((parts.segment_alphanum segment hsegment).2 c hc))

variable (parts)

/-- Nothing of a URL is dropped. -/
theorem clean_text : clean parts.text.toList = parts.text.toList := by
  refine clean_eq_self fun c hc => ?_
  have hplain : isPlain c ∨ c = ':' ∨ c = '@' ∨ c = '/' := by
    rw [text, String.toList_ofList, List.mem_append, List.mem_cons, List.mem_cons, List.mem_cons,
      List.mem_append] at hc
    rcases hc with hc | rfl | rfl | rfl | hc | hc
    · have hlower := isAlpha_of_isLower (parts.scheme_lower.2 c hc)
      exact .inl (isPlain_of_isAlphanum (by simp [Char.isAlphanum, hlower]))
    · exact .inr (.inl rfl)
    · exact .inr (.inr (.inr rfl))
    · exact .inr (.inr (.inr rfl))
    · exact (isPlain_of_mem_authority hc).imp_right (·.imp_right .inl)
    · exact (isPlain_of_mem_path hc).imp_right (.inr ∘ .inr)
  rcases hplain with hc | rfl | rfl | rfl
  · exact (bounds_of_isPlain hc).1
  all_goals decide

/-- **The scheme** is cut off at the first colon. -/
theorem readScheme_text : readScheme parts.text.toList =
    some (parts.scheme, '/' :: '/' :: (parts.authority ++ pathText parts.segment)) := by
  obtain ⟨hne, hlower⟩ := parts.scheme_lower
  obtain ⟨first, others, hscheme⟩ := List.exists_cons_of_ne_nil (String.toList_eq_nil_iff.not.2 hne)
  have hpart : ∀ c ∈ parts.scheme.toList,
      (c.isAlphanum || c == '+' || c == '-' || c == '.') = true := fun c hc => by
    simp [Char.isAlphanum, isAlpha_of_isLower (hlower c hc)]
  have hcolon : ∀ c,
      (':' :: '/' :: '/' :: (parts.authority ++ pathText parts.segment)).head? = some c →
        (c.isAlphanum || c == '+' || c == '-' || c == '.') = false := by
    rintro c ⟨⟩
    decide
  obtain ⟨htake, hdrop⟩ := span_append hpart hcolon
  have hfirst : first.isAlpha := isAlpha_of_isLower (hlower first (hscheme ▸ List.mem_cons_self))
  have hsame : parts.scheme.toList.map Char.toLower = parts.scheme.toList := by
    have hid : ∀ c ∈ parts.scheme.toList, c.toLower = id c := fun c hc =>
      toLower_eq_self (hlower c hc)
    rw [List.map_congr_left hid, List.map_id]
  rw [text, String.toList_ofList, hscheme, List.cons_append]
  simp only [readScheme]
  rw [← List.cons_append, ← hscheme, hdrop, htake]
  simp only [hfirst, if_true, hsame, String.ofList_toList]

/-- The server ends where the path begins. -/
theorem span_authority :
    (parts.authority ++ pathText parts.segment).takeWhile (fun c => !endsAuthority false c) =
        parts.authority ∧
      (parts.authority ++ pathText parts.segment).dropWhile (fun c => !endsAuthority false c) =
        pathText parts.segment := by
  refine span_append (fun c hc => ?_) fun c hc => ?_
  · rcases isPlain_of_mem_authority hc with hc | rfl | rfl
    · have hslash : c ≠ '/' := ne_of_isPlain hc (by decide)
      have hquery : c ≠ '?' := ne_of_isPlain hc (by decide)
      have hfragment : c ≠ '#' := ne_of_isPlain hc (by decide)
      simp [endsAuthority, hslash, hquery, hfragment]
    all_goals decide
  · cases hsegment : parts.segment with
    | none =>
      rw [hsegment] at hc
      nomatch hc
    | some segment =>
      rw [hsegment] at hc
      obtain rfl := Option.some.inj hc
      decide

/-- **Who logs in** is cut off at the last at sign. -/
theorem splitLast_authority : (splitLast '@' parts.authority).getD ([], parts.authority) =
    ((parts.userinfo.map Userinfo.text).getD [], parts.host ++ portText parts.port) := by
  have hserver : '@' ∉ parts.host ++ portText parts.port := fun hmem => by
    rcases isPlain_of_mem_server hmem with hc | hc
    · exact ne_of_isPlain hc (by decide) rfl
    · nomatch hc
  cases huserinfo : parts.userinfo with
  | none =>
    simp only [authority, huserinfo, splitLast_eq_none hserver]
    rfl
  | some userinfo =>
    simp only [authority, huserinfo, splitLast_append hserver]
    rfl

/-- **The password** is cut off at the first colon. -/
theorem readUserinfo_text : readUserinfo ((parts.userinfo.map Userinfo.text).getD []) =
    (parts.url.user, parts.url.password) := by
  rw [url]
  cases parts.userinfo with
  | none => rfl
  | some userinfo =>
    have huser : ':' ∉ userinfo.user := fun hmem =>
      ne_of_isPlain (userinfo.user_plain _ hmem) (by decide) rfl
    simp only [Option.map_some, Option.getD_some, Option.bind_some]
    cases hpassword : userinfo.password with
    | none =>
      rw [Userinfo.text, hpassword, List.append_nil]
      exact readUserinfo_user huser
    | some password =>
      rw [Userinfo.text, hpassword]
      exact readUserinfo_password huser (userinfo.password_plain password hpassword).1

/-- **The host** is cut off at the colon in front of the port. -/
theorem splitHost_server :
    splitHost false (parts.host ++ portText parts.port) = (parts.host, portText parts.port) := by
  refine splitHost_append (fun c hc => isPlain_of_mem_host hc) fun c hc => ?_
  cases hport : parts.port with
  | none =>
    rw [hport] at hc
    nomatch hc
  | some port =>
    rw [hport] at hc
    exact (Option.some.inj hc).symm

end Parts

/-- **The port** is what follows. -/
theorem readPort_portText (port : Option UInt16) :
    (portText port).dropWhile (· != '\\') = [] ∧
      readPort ((portText port).takeWhile (· != '\\')) = some port := by
  have hplain : ∀ c ∈ portText port, (c != '\\') = true := by
    refine bne_of_notMem fun hmem => ?_
    rcases isPlain_of_mem_portText hmem with hc | hc
    · exact ne_of_isPlain hc (by decide) rfl
    · nomatch hc
  rw [List.dropWhile_eq_nil_iff.2 hplain, List.takeWhile_eq_self_iff.2 hplain]
  cases port with
  | none => exact ⟨rfl, rfl⟩
  | some port => exact ⟨rfl, readPort_ofNat port⟩

namespace Parts

/-- **The path** is what follows the server. -/
theorem readPath_text : readPath false (pathText parts.segment) = pathText parts.segment := by
  cases hsegment : parts.segment with
  | none => rfl
  | some segment =>
    obtain ⟨hne, hchars⟩ := parts.segment_alphanum segment hsegment
    exact readPath_segment hne hchars

/-- There is always a host behind the at sign. -/
theorem authority_ne : parts.authority ≠ ['@'] := by
  intro h
  have hsplit := parts.splitLast_authority
  rw [h] at hsplit
  have hserver : [] = parts.host ++ portText parts.port := (Prod.mk.inj hsplit).2
  exact parts.host_unreserved.1 (List.append_eq_nil_iff.1 hserver.symm).1

/-- **A URL of plain parts** is read as these parts. -/
theorem read_text : read parts.text = some parts.url := by
  have hclass : SchemeClass.of parts.scheme = .other := by
    have hother := parts.scheme_other
    simp only [specialSchemes, List.mem_cons, List.not_mem_nil, or_false, not_or] at hother
    simp [SchemeClass.of, hother]
  have hempty : parts.host.isEmpty = false := by simpa using parts.host_unreserved.1
  have hhost : Host.read parts.host = some parts.host :=
    read_host fun c hc => isPlain_of_mem_host hc
  obtain ⟨hauthority, hrest⟩ := parts.span_authority
  obtain ⟨hpath, hport⟩ := readPort_portText parts.port
  rw [read, clean_text, readScheme_text]
  simp only [Option.bind_eq_bind, Option.bind_some, hclass]
  rw [readServer, hauthority, hrest, splitLast_authority]
  simp only [readUserinfo_text, splitHost_server, authority_ne, hempty, hhost, hport, hpath,
    readPath_text, List.nil_append, false_and, Bool.false_eq_true, if_false,
    Option.bind_eq_bind, Option.bind_some, Option.pure_def]
  rfl

end Parts

/-- **The reader of the standard** reads such URLs as the standard says. -/
theorem readsParts : ReadsParts := fun parts => parts.read_text

end Url

end RedisClient
