import ParentalCoord.Interleaving.Handler
import ParentalCoord.Net.Address
import ParentalCoord.Webhooks.Attempt

/-!
The HTTP client of the deliveries: to which addresses it lets a request go.

The URL has to be one of https, every address of its host has to be public, and the
connection is pinned to the addresses that were checked.  Whether a text is an address
at all is for `net.isIP` to say, and what a URL says for the parser of the platform; both
are parameters.  What becomes of the response is not part of this module.
-/

namespace ParentalCoord.Webhooks

open Interleaving Net

/-! ## Blocked addresses -/

/-- `Number(text)`, of a text of digits; `none` is `NaN`. -/
abbrev number := decimal

/-- `ssrf-http.client.ts::isBlockedIpv4`: what is missing or `NaN` compares as false. -/
def isBlockedIpv4 (octets : List (Option ℕ)) : Bool :=
  let a := octets[0]?.join
  let b := octets[1]?.join
  let c := octets[2]?.join
  a = some 0 ||
  a = some 10 ||
  (a = some 100 && b.any (64 ≤ ·) && b.any (· ≤ 127)) ||
  a = some 127 ||
  (a = some 169 && b = some 254) ||
  (a = some 172 && b.any (16 ≤ ·) && b.any (· ≤ 31)) ||
  (a = some 192 && b = some 0 && c = some 0) ||
  (a = some 192 && b = some 168) ||
  (a = some 198 && (b = some 18 || b = some 19)) ||
  a.any (224 ≤ ·)

/-- `text.split('::')`. -/
def splitDoubleColon : List Char → List (List Char)
  | ':' :: ':' :: rest => [] :: splitDoubleColon rest
  | c :: rest => (splitDoubleColon rest).modifyHead (c :: ·)
  | [] => [[]]

/-- One part between colons: two groups of octets, or a group of digits. -/
def parseGroup (group : List Char) : Option (List ℕ) :=
  if '.' ∈ group then
    match (group.splitOn '.').map number with
    | [some a, some b, some c, some d] =>
        if a ≤ 255 ∧ b ≤ 255 ∧ c ≤ 255 ∧ d ≤ 255 then some [a <<< 8 ||| b, c <<< 8 ||| d] else none
    | _ => none
  else if 1 ≤ group.length ∧ group.length ≤ 4 then (ofHex group).map ([·])
  else none

def parseGroups (text : List Char) : Option (List ℕ) :=
  if text = [] then some []
  else ((text.splitOn ':').mapM parseGroup).map List.flatten

/-- `ssrf-http.client.ts::expandIpv6`: the eight groups of an IPv6 address. -/
def expandIpv6 (ip : List Char) : Option (List ℕ) :=
  let addr := ip.takeWhile (· ≠ '%')
  match splitDoubleColon addr with
  | [whole] => do
    let head ← parseGroups whole
    if head.length = 8 then some head else none
  | [first, second] => do
    let head ← parseGroups first
    let tail ← parseGroups second
    if head.length + tail.length ≤ 8 then
      some (head ++ List.replicate (8 - head.length - tail.length) 0 ++ tail)
    else none
  | _ => none

/-- The groups of a blocked address.  An address of IPv4 among those of IPv6 is judged as the
address it stands for. -/
def isBlockedGroups (groups : List ℕ) : Bool :=
  let group (index : ℕ) := groups.getD index 0
  if (groups.take 5).all (· = 0) && group 5 = 0xffff then
    isBlockedIpv4 [some (group 6 >>> 8), some (group 6 &&& 0xff), some (group 7 >>> 8),
      some (group 7 &&& 0xff)]
  else
    groups.all (· = 0) ||
    ((groups.take 7).all (· = 0) && group 7 = 1) ||
    group 0 &&& 0xfe00 = 0xfc00 ||
    group 0 &&& 0xffc0 = 0xfe80

/-- `ssrf-http.client.ts::isBlockedIp`: what is no address is blocked. -/
def isBlockedIp (isIP : String → ℕ) (ip : String) : Bool :=
  if isIP ip = 4 then isBlockedIpv4 ((ip.toList.splitOn '.').map number)
  else if isIP ip = 6 then
    match expandIpv6 ip.toList with
    | none => true
    | some groups => isBlockedGroups groups
  else true

/-! ## The request -/

/-- What the parser of the platform finds in a URL. -/
structure Url where
  protocol : String
  hostname : String

structure LookupAddress where
  address : String
  family : ℕ
  deriving DecidableEq

structure FetchRequest where
  url : String
  rawBody : String
  headers : List (String × String)
  /-- What the lookup of the pinned agent hands out, all of it or a single address. -/
  lookup : Bool → List LookupAddress

inductive ClientCall where
  | resolve (hostname : String)
  | fetch (request : FetchRequest)

@[reducible] def client : Interface where
  Call := ClientCall
  Answer
    | .resolve _ => List LookupAddress
    | .fetch _ => SsrfHttpResult

def blockedResult (error : String) : SsrfHttpResult :=
  { status := none, blocked := true, error := some error }

def networkErrorResult (error : String) : SsrfHttpResult :=
  { status := none, networkError := true, error := some error }

/-- `hostname.replace(/^\[/, '').replace(/\]$/, '')`. -/
def unbracketed (hostname : String) : String :=
  let opened := match hostname.toList with
    | '[' :: rest => rest
    | whole => whole
  String.ofList (if opened.getLast? = some ']' then opened.dropLast else opened)

/-- `ssrf-http.client.ts::parseTarget`: the host to connect to, or why the request is blocked. -/
def parseTarget (parseUrl : String → Option Url) (url : String) : Except String String :=
  match parseUrl url with
  | none => .error ("Invalid endpoint URL: " ++ url)
  | some parsed =>
    if parsed.protocol ≠ "https:" then .error "Only HTTPS endpoints are allowed"
    else .ok (unbracketed parsed.hostname)

/-- The addresses to connect to, or the result that says why not. -/
def validated (isIP : String → ℕ) (hostname : String) (addresses : List LookupAddress) :
    Except SsrfHttpResult (List LookupAddress) :=
  if addresses = [] then
    .error (networkErrorResult ("DNS resolution returned no addresses for " ++ hostname))
  else match addresses.find? (isBlockedIp isIP ·.address) with
  | some blocked =>
      .error (blockedResult ("Blocked non-public address: " ++ blocked.address))
  | none => .ok addresses

/-- `ssrf-http.client.ts::resolveAndValidate`: the addresses of the host, none of which may be
blocked. -/
def resolveAndValidate (isIP : String → ℕ) (hostname : String) :
    Handler client String (Except SsrfHttpResult (List LookupAddress)) :=
  if isIP hostname ≠ 0 then return validated isIP hostname [⟨hostname, isIP hostname⟩]
  else
    tryCatch
      (do
        let addresses ← @Handler.perform client String (.resolve hostname)
        return validated isIP hostname addresses)
      fun error => return .error (networkErrorResult ("DNS resolution failed: " ++ error))

def buildPinnedAgent (addresses : List LookupAddress) (all : Bool) : List LookupAddress :=
  if all then addresses else addresses.head?.toList

/-- The request, of an agent that connects to the addresses; what it throws is a network error. -/
def SsrfHttpClient.send (url rawBody : String) (headers : List (String × String))
    (addresses : List LookupAddress) : Handler client String SsrfHttpResult :=
  tryCatch
    (@Handler.perform client String (.fetch
      { url := url
        rawBody := rawBody
        headers := headers
        lookup := buildPinnedAgent addresses }))
    fun error => return networkErrorResult error

def SsrfHttpClient.post (isIP : String → ℕ) (parseUrl : String → Option Url) (url rawBody : String)
    (headers : List (String × String)) : Handler client String SsrfHttpResult :=
  match parseTarget parseUrl url with
  | .error reason => return blockedResult reason
  | .ok hostname => do
    match ← resolveAndValidate isIP hostname with
    | .error result => return result
    | .ok addresses => SsrfHttpClient.send url rawBody headers addresses

end ParentalCoord.Webhooks
