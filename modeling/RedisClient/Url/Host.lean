import RedisClient.Url.Domain
import RedisClient.Url.Ip

/-!
# Hosts of URLs

A host in brackets is an IPv6 address. Any other host of a server address is
kept as written, in so far as its characters may stand in a host at all;
controls and characters outside ASCII are percent-encoded. The hosts of web
schemes and of files are domain names.
-/

namespace RedisClient

namespace Host

/-- Whether a character may not stand in a host. -/
def isForbidden (c : Char) : Bool :=
  c ∈ ['\x00', '\t', '\n', '\r', ' ', '#', '/', ':', '<', '>', '?', '@', '[', '\\', ']', '^', '|']

/-- The IPv6 address of a text in brackets, in its canonical form. -/
def readBracketed (text : List Char) : Option (List Char) :=
  match text with
  | '[' :: rest =>
    if rest.getLast? = some ']' then
      (Ip.readIpv6 rest.dropLast).map fun groups => '[' :: Ip.ipv6Text groups ++ [']']
    else none
  | _ => none

/-- A host of a scheme that is not one of the web's. -/
def read (text : List Char) : Option (List Char) :=
  if text.head? = some '[' then readBracketed text
  else if text.any isForbidden then none
  else some (Percent.encode (fun _ => false) text)

/-- Whether a text is a host of a web scheme: an IPv6 address in brackets, or
text that, decoded, is a domain name with something in it, and a dotted address
if it ends in a number. -/
def isWebHost (text : List Char) : Bool :=
  if text.head? = some '[' then (readBracketed text).isSome
  else
    let decoded := Utf8.decode (Percent.decode (Utf8.encode (.ofList text)))
    match decoded.toOption.bind Domain.read with
    | none => false
    | some name => !name.isEmpty && (!Ip.endsInNumber name || Ip.isIpv4 name)

end Host

end RedisClient
