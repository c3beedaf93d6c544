import RedisClient.Number.Decimal
import RedisClient.Text.Cut
import RedisClient.Url
import RedisClient.Url.Host
import RedisClient.Url.Path

/-!
# Reading URLs by the standard

A reader of URLs that follows the URL Standard, for a program to run with. Three
classes of schemes differ: the web's, which always have a host and read a
backslash as a slash, files, and all others, among them the schemes of servers.
Of the first two only well-formedness matters here. What is proved of addresses
holds of every reader with the laws of `Url.ReadsParts` and `Percent.Decodes`;
this one has them (`Url.readsParts`, `Percent.decodes`).
-/

namespace RedisClient

namespace Url

/-- The classes of schemes. -/
inductive SchemeClass where
  | web
  | file
  | other
  deriving DecidableEq, Repr

/-- The class of a scheme. -/
def SchemeClass.of (scheme : String) : SchemeClass :=
  if scheme ∈ ["http", "https", "ws", "wss", "ftp"] then web
  else if scheme = "file" then file
  else other

/-- Whether a character is dropped at the ends of a URL. -/
def isMargin (c : Char) : Bool := c.toNat ≤ 0x20

/-- Whether a character is dropped wherever it stands. -/
def isSkipped (c : Char) : Bool := c == '\t' || c == '\n' || c == '\r'

/-- A text without the characters that a URL drops. -/
def clean (text : List Char) : List Char :=
  (((text.dropWhile isMargin).reverse.dropWhile isMargin).reverse).filter fun c => !isSkipped c

/-- The scheme, in lower case, and what follows its colon. -/
def readScheme (text : List Char) : Option (String × List Char) :=
  match text with
  | [] => none
  | first :: _ =>
    let isPart (c : Char) : Bool := c.isAlphanum || c == '+' || c == '-' || c == '.'
    match text.dropWhile isPart with
    | ':' :: rest =>
      if first.isAlpha then some (.ofList ((text.takeWhile isPart).map Char.toLower), rest)
      else none
    | _ => none

/-- Whether a character ends the part of a URL that names the server. -/
def endsAuthority (web : Bool) (c : Char) : Bool :=
  c == '/' || c == '?' || c == '#' || (web && c == '\\')

/-- Whether a character ends the path. -/
def endsPath (c : Char) : Bool := c == '?' || c == '#'

/-- The user and the password. An empty password is none. -/
def readUserinfo (text : List Char) : List Char × Option (List Char) :=
  match text.dropWhile (· != ':') with
  | _ :: password =>
    (text.takeWhile (· != ':'), if password.isEmpty then none else some password)
  | [] => (text, none)

/-- The host text in front of a port, and what follows it. Colons in brackets
are part of the host. -/
def splitHost (inBrackets : Bool) : List Char → List Char × List Char
  | [] => ([], [])
  | c :: rest =>
    if c = ':' ∧ ¬ inBrackets then ([], c :: rest)
    else
      let inside := if c = '[' then true else if c = ']' then false else inBrackets
      let (host, after) := splitHost inside rest
      (c :: host, after)

/-- The port behind a host. No digits are no port. -/
def readPort (text : List Char) : Option (Option UInt16) :=
  match text with
  | [] => some none
  | _ :: [] => some none
  | _ :: digits =>
    if digits.all fun c => (Decimal.digit? c).isSome then
      (Decimal.readUInt16 digits).toOption.map some
    else none

/-- The segments behind the first slash of a path. -/
def segments (web : Bool) (path : List Char) : List (List Char) :=
  Ip.splitAt '/' (if web then path.map fun c => if c = '\\' then '/' else c else path)

/-- The path in its normal form. It is empty if there is nothing of it; otherwise
it begins with a slash, whether or not one is written. -/
def readPath (web : Bool) (text : List Char) : List Char :=
  match text.takeWhile fun c => !endsPath c with
  | [] => []
  | c :: rest =>
    UrlPath.ofSegments (segments web (if c = '/' ∨ (web ∧ c = '\\') then rest else c :: rest))

/-- The server part and the path of a URL, behind its two slashes. -/
def readServer (scheme : String) (web : Bool) (text : List Char) : Option Url := do
  let authority := text.takeWhile fun c => !endsAuthority web c
  let rest := text.dropWhile fun c => !endsAuthority web c
  let (userinfo, server) := (splitLast '@' authority).getD ([], authority)
  let (user, password) := readUserinfo userinfo
  let hasUserinfo := !user.isEmpty || password.isSome
  -- a sign that ends the user part with nothing before it and nothing behind it
  if authority = ['@'] ∧ ¬ rest.isEmpty then none
  let (hostText, portText) := splitHost false server
  if hostText.isEmpty ∧ (web ∨ hasUserinfo ∨ ¬ portText.isEmpty) then none
  let host ← if web then (if Host.isWebHost hostText then some hostText else none)
    else Host.read hostText
  -- a backslash behind a port ends it and begins the path
  let port ← readPort (portText.takeWhile (· != '\\'))
  let path := portText.dropWhile (· != '\\') ++ rest
  return {
    scheme, user, password, port
    host := if host.isEmpty then none else some host
    path := readPath web path }

/-- The host of a file, behind two slashes. A drive letter is no host. -/
def isFileHost (text : List Char) : Bool :=
  text.isEmpty || (text.length == 2 && UrlPath.isDrive text) || Host.isWebHost text

/-- Reads a URL. -/
def read (address : String) : Option Url := do
  let (scheme, rest) ← readScheme (clean address.toList)
  match SchemeClass.of scheme with
  | .web => readServer scheme true (rest.dropWhile fun c => c == '/' || c == '\\')
  | .file =>
    match rest.map fun c => if c = '\\' then '/' else c with
    | '/' :: '/' :: host =>
      if isFileHost (host.takeWhile fun c => !endsAuthority true c) then return { scheme } else none
    | _ => return { scheme }
  | .other =>
    match rest with
    | '/' :: '/' :: server => readServer scheme false server
    | _ => return { scheme, path := readPath false rest }

/-- What the program reads URLs with. -/
instance : Reader where
  parse := read
  percentDecode := Percent.decode

end Url

end RedisClient
