/-
`urllib.parse.urlsplit` of a text: the scheme and the network location with
its host, and the refusals of an ill-formed bracket or of a character that
normalises to a delimiter.
-/
import ThreeAgent.Lib.IpAddress
import ThreeAgent.Lib.Lines

namespace Url

open PyText

structure SplitResult where
  scheme : String
  netloc : String
  deriving DecidableEq, Repr

/-- `s.rpartition("@")[2]`. -/
def afterLastAt (cs : List Char) : List Char := cs.rtakeWhile (· ≠ '@')

/-- A character of a scheme. -/
def isSchemeChar (c : Char) : Bool := isAsciiAlnum c || c ∈ ['+', '-', '.']

def isHexDigit (c : Char) : Bool := ('0' ≤ c && c ≤ '9') || ('a' ≤ c && c ≤ 'f') || ('A' ≤ c && c ≤ 'F')

/-- `_check_bracketed_host`: an address of a later version, or an IPv6 address. -/
def bracketedHostOk (host : List Char) : Bool :=
  match host with
  | 'v' :: rest =>
    let digits := rest.takeWhile isHexDigit
    match rest.dropWhile isHexDigit with
    | '.' :: tail => !digits.isEmpty && !tail.isEmpty
    | _ => false
  | _ =>
    match IpAddress.ipAddress (String.ofList host) with
    | some (.v6 _) => true
    | _ => false

/-- `_check_bracketed_netloc`. -/
def bracketsOk (netloc : List Char) : Bool :=
  let hostport := afterLastAt netloc
  if '[' ∈ hostport then
    let bracketed := (hostport.dropWhile (· ≠ '[')).tail
    let port := (bracketed.dropWhile (· ≠ ']')).tail
    (hostport.head? = some '[') && (port.isEmpty || port.head? = some ':') &&
      bracketedHostOk (bracketed.takeWhile (· ≠ ']'))
  else bracketedHostOk (hostport.takeWhile (· ≠ ':'))

/-- `_checknetloc`: no character may normalise to a delimiter. -/
def netlocOk (nfkc : String → String) (netloc : List Char) : Bool :=
  if netloc.all fun c => c.toNat < 128 then true
  else
    let n := netloc.filter fun c => c ∉ ['@', ':', '#', '?']
    let n' := (nfkc (String.ofList n)).toList
    n' = n || n'.all fun c => c ∉ ['/', '?', '#', '@', ':']

/-- `urlsplit(url)`, `none` for the `ValueError`. -/
def urlsplit (nfkc : String → String) (url : String) : Option SplitResult :=
  let cs := (url.toList.dropWhile fun c => c.toNat ≤ 0x20).filter fun c => c ∉ ['\t', '\r', '\n']
  let head := cs.takeWhile (· ≠ ':')
  let schemed := ':' ∈ cs && head.head?.any (fun c => isAsciiAlnum c && !('0' ≤ c && c ≤ '9')) && head.all isSchemeChar
  let scheme := if schemed then lower (String.ofList head) else ""
  let rest := if schemed then (cs.dropWhile (· ≠ ':')).tail else cs
  match rest with
  | '/' :: '/' :: tail =>
    let netloc := tail.takeWhile fun c => c ∉ ['/', '?', '#']
    if ('[' ∈ netloc ∨ ']' ∈ netloc) ∧ ¬ ('[' ∈ netloc ∧ ']' ∈ netloc ∧ bracketsOk netloc = true) then none
    else if netlocOk nfkc netloc then some ⟨scheme, String.ofList netloc⟩
    else none
  | _ => some ⟨scheme, ""⟩

/-- `parsed.hostname`; the zone of an address keeps its case. -/
def SplitResult.hostname (parsed : SplitResult) : Option String :=
  let hostinfo := afterLastAt parsed.netloc.toList
  let host :=
    if '[' ∈ hostinfo then ((hostinfo.dropWhile (· ≠ '[')).tail).takeWhile (· ≠ ']')
    else hostinfo.takeWhile (· ≠ ':')
  if host = [] then none
  else some (lower (String.ofList (host.takeWhile (· ≠ '%'))) ++ String.ofList (host.dropWhile (· ≠ '%')))

example : ((urlsplit id "HTTPS://user@Example.org:8443/a?b").bind SplitResult.hostname) = some "example.org" := by
  decide
example : ((urlsplit id "http://[::1]:80/").bind SplitResult.hostname) = some "::1" := by decide
example : urlsplit id "http://[::1" = none := by decide

end Url
