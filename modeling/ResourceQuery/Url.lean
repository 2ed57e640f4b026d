import ResourceQuery.Error
import ResourceQuery.Text.Percent

/-!
URLs and the queries in them. A URL is `scheme://user@host:80/path?query#fragment`, where all
parts but the path may be missing. `Url.split` takes a text apart, `Url.check` refuses what is no
URL, and `Url.query` gives the query with everything escaped that may not stand in one.
-/
namespace ResourceQuery

/-- The parts of a URL. -/
structure Url where
  scheme : List Char
  user : List Char
  host : List Char
  portText : List Char
  path : List Char
  query : Option (List Char)

namespace Url

/-- The text up to a character that ends it, and the rest from that character on. -/
def upTo (ends : Char → Bool) (text : List Char) : List Char × List Char :=
  (text.takeWhile (!ends ·), text.dropWhile (!ends ·))

/-- The text before the last occurrence of a character and the text after it. -/
def splitLast? (c : Char) (text : List Char) : Option (List Char × List Char) :=
  if text.contains c then
    let reversed := text.reverse
    some ((reversed.dropWhile (· ≠ c)).tail.reverse, (reversed.takeWhile (· ≠ c)).reverse)
  else none

/-- The characters of a scheme after its first one. -/
def isSchemeChar (c : Char) : Bool := c.isAlphanum || c = '+' || c = '.' || c = '-'

/-- The scheme of a text and what follows its colon. The name before the colon may be empty. -/
def splitScheme (text : List Char) : List Char × List Char :=
  match text with
  | [] => ([], [])
  | first :: rest =>
    if first = ':' then ([], rest)
    else
      match rest.dropWhile isSchemeChar with
      | ':' :: after =>
        if first.isAlpha then (first :: rest.takeWhile isSchemeChar, after) else ([], text)
      | _ => ([], text)

/-- The authority of a text after `//`, and the rest. -/
def splitAuthority : List Char → List Char × List Char
  | '/' :: '/' :: rest => upTo (fun c => c = '/' || c = '?' || c = '#') rest
  | rest => ([], rest)

/-- The host of an authority and what follows it: an address in brackets up to the last bracket,
else all before a colon. -/
def splitHost (text : List Char) : List Char × List Char :=
  match text, splitLast? ']' text with
  | '[' :: _, some (inside, after) => (inside ++ [']'], after)
  | _, _ => upTo (· = ':') text

/-- The parts of a text as a URL. -/
def split (text : List Char) : Url :=
  let (scheme, rest) := splitScheme text
  let (authority, rest) := splitAuthority rest
  let (user, server) := (splitLast? '@' authority).getD ([], authority)
  let (host, after) := splitHost server
  let portText := if after.head? = some ':' then after.tail else after
  let (path, rest) := upTo (fun c => c = '?' || c = '#') rest
  let query :=
    match rest with
    | '?' :: rest => some (upTo (· = '#') rest).1
    | _ => none
  ⟨scheme, user, host, portText, path, query⟩

/-- Whether a host has the form of an address of four octets, whatever its numbers are: four runs
of digits with a dot between each two of them. -/
def looksNumeric (host : List Char) : Bool :=
  let numbers := Text.splitOn '.' host
  numbers.length = 4 && numbers.all fun number => !number.isEmpty && number.all Char.isDigit

/-- Whether a text is a number up to 255 in at most three digits, without a zero in front. -/
def isOctet (text : List Char) : Bool :=
  !text.isEmpty && text.all Char.isDigit && text.length ≤ 3 &&
    (text = ['0'] || text.head? ≠ some '0') && Number.ofDigits text ≤ 255

/-- Whether a text is an address of four octets. -/
def isIpv4 (text : List Char) : Bool :=
  let octets := Text.splitOn '.' text
  octets.length = 4 && octets.all isOctet

/-- Whether a text is one to four hexadecimal digits. -/
def isHextet (text : List Char) : Bool :=
  !text.isEmpty && text.length ≤ 4 && text.all fun c => (Text.hexValue? c).isSome

/-- The parts of an address with four octets at its end counted as two parts; nothing if they are
no address. -/
def spreadIpv4? (parts : List (List Char)) : Option (List (List Char)) :=
  let last := parts.getLastD []
  if last.contains '.' then
    if isIpv4 last then some (parts.dropLast ++ [['0'], ['0']]) else none
  else some parts

/-- Whether parts are eight groups of digits, of which one gap may stand for one group or more. A
gap is an empty part; at an end of the address it is two. -/
def areHextets (parts : List (List Char)) : Bool :=
  let inner := (parts.drop 1).dropLast
  if inner.contains [] then
    let before := parts.take (inner.takeWhile (· ≠ [])).length.succ
    let after := parts.drop (before.length + 1)
    let high := if before = [[]] then [] else before
    let low := if after = [[]] then [] else after
    high.length + low.length < 8 && high.all isHextet && low.all isHextet
  else parts.length = 8 && parts.all isHextet

/-- Whether a text is an address of eight groups, perhaps with a zone after `%`. -/
def isIpv6 (text : List Char) : Bool :=
  let zoneIsGood :=
    match text.dropWhile (· ≠ '%') with
    | [] => true
    | _ :: zone => !zone.isEmpty && !zone.contains '%'
  let parts := Text.splitOn ':' (text.takeWhile (· ≠ '%'))
  zoneIsGood && 3 ≤ parts.length &&
    match spreadIpv4? parts with
    | none => false
    | some parts => parts.length ≤ 9 && areHextets parts

/-- The most characters of a URL. -/
def maxLength : Nat := 65536

/-- Whether a character is an ASCII character that cannot be printed. -/
def isControl (c : Char) : Bool := c.toNat < 32 || c.toNat = 127

/-- The fault of a host. -/
def hostFault? (host : List Char) : Option UrlFault :=
  if looksNumeric host then
    if isIpv4 host then none else some (.ipv4 (String.ofList host))
  else
    match host with
    | '[' :: rest =>
      if rest.getLast? = some ']' && !isIpv6 rest.dropLast then some (.ipv6 (String.ofList host))
      else none
    | _ => none

/-- The fault of what stands after the colon of a host: nothing, or an integer. -/
def portFault? (portText : List Char) : Option UrlFault :=
  if portText.isEmpty || (Number.loose? portText).isSome then none
  else some (.portNumber (String.ofList portText))

/-- The fault of the path of a URL that has neither scheme nor authority. -/
def relativeFault? (path : List Char) : Option UrlFault :=
  match path with
  | '/' :: '/' :: _ => some .relativeSlashes
  | ':' :: _ => some .relativeColon
  | _ => none

/-- A fault, if there is one. -/
def refuse : Option UrlFault → Except Error Unit
  | some fault => .error (.url fault)
  | none => .ok ()

/-- Whether a URL names a server or its user. -/
def hasAuthority (url : Url) : Bool :=
  !(url.user.isEmpty && url.host.isEmpty && url.portText.isEmpty)

/-- That the parts make a URL. -/
def check (url : Url) : Except Error Unit := do
  refuse (hostFault? url.host)
  refuse (portFault? url.portText)
  if url.scheme.isEmpty && !url.hasAuthority then refuse (relativeFault? url.path)

/-- The URL of a text. -/
def parse (text : String) : Except Error Url := do
  let source := text.toList
  if maxLength < source.length then throw (.url .tooLong)
  match source.find? isControl with
  | some c => throw (.url (.unprintable c (source.takeWhile (· ≠ c)).length))
  | none =>
    let url := split source
    url.check
    return url

/-- The characters that stand in a query as they are. -/
def isQueryChar (c : Char) : Bool :=
  32 < c.toNat && c.toNat < 127 && c ≠ '"' && c ≠ '#' && c ≠ '<' && c ≠ '>'

/-- The query of a URL, escaped where it has to be; empty if it has none. -/
def queryText (url : Url) : String :=
  String.ofList (Text.Percent.encode isQueryChar (url.query.getD []))

/-- The query in the text of a URL. -/
def queryOf (text : String) : Except Error String := do
  return (← parse text).queryText

end Url
end ResourceQuery
