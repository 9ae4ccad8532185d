import DocLinks.Url.Host

namespace DocLinks

/-- What the path of an address is: names between slashes, or a text with no structure. -/
inductive UrlPath
  | hierarchical (segments : List Text)
  | flat (t : Text)
deriving DecidableEq

/-- Who answers for an address. -/
structure Authority where
  user : Text
  password : Option Text
  host : Host
  port : Option Nat
deriving DecidableEq

/-- The address of a page, in normal form. -/
structure Url where
  scheme : Text
  authority : Option Authority
  path : UrlPath
  query : Option Text
  fragment : Option Text
deriving DecidableEq

namespace Url

/-- The schemes with a form of their own, and the ports they use. -/
def defaultPorts : List (Text × Option Nat) :=
  [("http".toList, some 80), ("https".toList, some 443), ("ws".toList, some 80), ("wss".toList, some 443),
   ("ftp".toList, some 21), ("file".toList, none)]

def defaultPort? (scheme : Text) : Option Nat := (defaultPorts.lookup scheme).join

def isSpecial (scheme : Text) : Bool := (defaultPorts.lookup scheme).isSome

def isFileScheme (scheme : Text) : Bool := scheme == "file".toList

def isSlash (special : Bool) (c : Char) : Bool := c == '/' || special && c == '\\'

/-- What a text means as an address: without blanks around it, and without tabs and line breaks. -/
def clean (t : Text) : Text :=
  ((t.dropWhile (· ≤ ' ')).reverse.dropWhile (· ≤ ' ')).reverse.filter
    fun c => c != '\t' && c != '\n' && c != '\r'

/-- The scheme a text begins with, in small letters, and what follows the colon. -/
def scheme? (t : Text) : Option (Text × Text) :=
  let name := t.takeWhile fun c => c.isAlphanum || c == '+' || c == '-' || c == '.'
  match t.head?.filter Char.isAlpha, t.drop name.length with
  | some _, ':' :: rest => some (name.map Char.toLower, rest)
  | _, _ => none

def isDoubleDot (segment : Text) : Bool :=
  ["..", ".%2e", ".%2E", "%2e.", "%2E.", "%2e%2e", "%2e%2E", "%2E%2e", "%2E%2E"].any (·.toList == segment)

def isSingleDot (segment : Text) : Bool := [".", "%2e", "%2E"].any (·.toList == segment)

/-- Takes the segments one after the other behind those already there, the latest of which comes first; dots
stand for staying and for going back. -/
def addSegments : List Text → List Text → List Text
  | done, [] => done.reverse
  | done, [last] =>
    if isDoubleDot last then ([] :: done.tail).reverse
    else if isSingleDot last then ([] :: done).reverse
    else (last :: done).reverse
  | done, segment :: rest =>
    if isDoubleDot segment then addSegments done.tail rest
    else if isSingleDot segment then addSegments done rest
    else addSegments (segment :: done) rest

/-- The pieces between slashes, percent-encoded. -/
def segments (special : Bool) (t : Text) : List Text :=
  (Text.splitOn '/' (t.map fun c => if isSlash special c then '/' else c)).map (Percent.encode Percent.inPath)

def isPathEnd (c : Char) : Bool := c == '?' || c == '#'

def untilPathEnd (t : Text) : Text := t.takeWhile (!isPathEnd ·)

def fromPathEnd (t : Text) : Text := t.dropWhile (!isPathEnd ·)

/-- A path after an authority. Special addresses have a slash there even if it is not written. -/
def rootedSegments (special : Bool) (t : Text) : List Text :=
  match t with
  | [] => if special then [[]] else []
  | c :: rest => addSegments [] (segments special (if isSlash special c then rest else c :: rest))

/-- Reads the query and the fragment that a text begins with. -/
def withEnd (u : Url) (t : Text) : Url :=
  let query := match t with
    | '?' :: rest => some (rest.takeWhile (· != '#'))
    | _ => none
  let fragment := (t.dropWhile (· != '#')).tail?
  { u with
    query := query.map (Percent.encode (if isSpecial u.scheme then Percent.inSpecialQuery else Percent.inQuery))
    fragment := fragment.map (Percent.encode Percent.inFragment) }

/-- What stands before the last at sign, if there is one, and after it. -/
def splitUserInfo (t : Text) : Option Text × Text :=
  if t.contains '@' then
    (some ((t.reverse.dropWhile (· != '@')).tail.reverse), (t.reverse.takeWhile (· != '@')).reverse)
  else (none, t)

/-- What stands before the colon that begins a port, and from there on. A colon between brackets does not. -/
def splitPort : (inBrackets : Bool) → Text → Text × Text
  | _, [] => ([], [])
  | inBrackets, c :: rest =>
    if c = ':' ∧ !inBrackets then ([], c :: rest)
    else
      let (host, port) := splitPort (if c = '[' then true else if c = ']' then false else inBrackets) rest
      (c :: host, port)

def portBound : Nat := 65536

/-- A port that is not the usual one of the scheme. -/
def parsePort (scheme : Text) (digits : Text) : Except UrlError (Option Nat) :=
  if digits.isEmpty then .ok none
  else if !digits.all Char.isDigit then .error .invalidPort
  else
    let n := Text.ofDigits digits
    if portBound ≤ n then .error .invalidPort
    else .ok (if defaultPort? scheme = some n then none else some n)

def parseAuthority (scheme : Text) (t : Text) : Except UrlError Authority := do
  let (userInfo, place) := splitUserInfo t
  let user := (userInfo.getD []).takeWhile (· != ':')
  let password := ((userInfo.getD []).dropWhile (· != ':')).tail
  let (host, port) := splitPort false place
  if host.isEmpty && (isSpecial scheme || !port.isEmpty || !(userInfo.getD []).isEmpty) then throw .emptyHost
  let host ← if isSpecial scheme then Host.parse host else Host.parseUnknown host
  return {
    user := Percent.encode Percent.inUserInfo user
    password := if password.isEmpty then none else some (Percent.encode Percent.inUserInfo password)
    host
    port := ← parsePort scheme port.tail }

/-- Reads an address from its authority on. -/
def afterSlashes (scheme t : Text) : Except UrlError Url := do
  let isEnd (c : Char) : Bool := isSlash (isSpecial scheme) c || isPathEnd c
  let authority ← parseAuthority scheme (t.takeWhile (!isEnd ·))
  let rest := t.dropWhile (!isEnd ·)
  let path := rootedSegments (isSpecial scheme) (untilPathEnd rest)
  return withEnd ⟨scheme, some authority, .hierarchical path, none, none⟩ (fromPathEnd rest)

/-- Reads the address of a file. Its host is left out if it is this one. -/
def parseFile (t : Text) : Except UrlError Url := do
  let scheme := "file".toList
  let (host, rest) := match t with
    | a :: b :: rest =>
      if isSlash true a && isSlash true b then
        (rest.takeWhile fun c => !(isSlash true c || isPathEnd c),
          rest.dropWhile fun c => !(isSlash true c || isPathEnd c))
      else ([], t)
    | _ => ([], t)
  let host ← if host.isEmpty then pure none else some <$> Host.parse host
  let authority := (host.filter (· ≠ .name "localhost".toList)).map fun host => ⟨[], none, host, none⟩
  let path := rootedSegments true (untilPathEnd rest)
  let path := match path.dropWhile List.isEmpty with
    | [] => [[]]
    | path => path
  return withEnd ⟨scheme, authority, .hierarchical path, none, none⟩ (fromPathEnd rest)

/-- Reads an address of an unknown kind after its scheme. -/
def parseOther (scheme t : Text) : Except UrlError Url :=
  match t with
  | '/' :: '/' :: rest => afterSlashes scheme rest
  | '/' :: rest =>
    let path := addSegments [] (segments false (untilPathEnd rest))
    .ok (withEnd ⟨scheme, none, .hierarchical path, none, none⟩ (fromPathEnd rest))
  | _ =>
    let path := Percent.encode Percent.control (untilPathEnd t)
    .ok (withEnd ⟨scheme, none, .flat path, none, none⟩ (fromPathEnd t))

/-- Reads an address relative to another. -/
def parseRelative (base : Url) (t : Text) : Except UrlError Url :=
  let special := isSpecial base.scheme
  match base.path, t with
  | .flat _, '#' :: _ => .ok { withEnd base t with query := base.query }
  | .flat _, _ => .error .relativeToFlat
  | .hierarchical _, [] => .ok { base with fragment := none }
  | .hierarchical _, '?' :: _ => .ok (withEnd base t)
  | .hierarchical _, '#' :: _ => .ok { withEnd base t with query := base.query }
  | .hierarchical here, c :: rest =>
    if isSlash special c then
      if rest.head?.any (isSlash special) then
        afterSlashes base.scheme (if "//".toList.isPrefixOf t then t.drop 2 else t.dropWhile (isSlash special))
      else
        let path := addSegments [] (segments special (untilPathEnd rest))
        .ok (withEnd { base with path := .hierarchical path } (fromPathEnd rest))
    else
      let path := addSegments here.reverse.tail (segments special (untilPathEnd t))
      .ok (withEnd { base with path := .hierarchical path } (fromPathEnd t))

/-- Reads an address, relative to another if one is given. -/
def parseWith (base? : Option Url) (t : Text) : Except UrlError Url :=
  let t := clean t
  match scheme? t with
  | some (scheme, rest) =>
    if isFileScheme scheme then parseFile rest
    else if isSpecial scheme then
      match base?.filter (·.scheme = scheme), rest with
      | some base, c :: d :: more =>
        if isSlash true c && isSlash true d then afterSlashes scheme (rest.dropWhile (isSlash true))
        else parseRelative base (c :: d :: more)
      | some base, _ => parseRelative base rest
      | none, _ => afterSlashes scheme (rest.dropWhile (isSlash true))
    else parseOther scheme rest
  | none =>
    match base? with
    | some base => parseRelative base t
    | none => .error .relativeWithoutBase

def parse (t : Text) : Except UrlError Url := parseWith none t

/-- The address that a text means in the page at an address. -/
def join (base : Url) (t : Text) : Except UrlError Url := parseWith (some base) t

end Url

def Authority.text (a : Authority) : Text :=
  let password := match a.password with
    | none => []
    | some password => ':' :: password
  let port := match a.port with
    | none => []
    | some port => ':' :: Text.decimal port
  (if a.user.isEmpty && password.isEmpty then [] else a.user ++ password ++ ['@']) ++ a.host.text ++ port

def UrlPath.text : UrlPath → Text
  | .hierarchical segments => segments.flatMap ('/' :: ·)
  | .flat t => t

namespace Url

def queryText (u : Url) : Text :=
  match u.query with
  | none => []
  | some query => '?' :: query

/-- What stands before the path. An address without an authority must not seem to have one. -/
def authorityText (u : Url) : Text :=
  match u.authority with
  | some authority => "//".toList ++ authority.text
  | none =>
    if isFileScheme u.scheme then "//".toList
    else if "//".toList.isPrefixOf u.path.text then "/.".toList
    else []

def text (u : Url) : Text :=
  u.scheme ++ ':' :: u.authorityText ++ u.path.text ++ u.queryText ++
    match u.fragment with
    | none => []
    | some fragment => '#' :: fragment

/-- What a server is asked for. -/
def target (u : Url) : Text := u.path.text ++ u.queryText

def port? (u : Url) : Option Nat :=
  match u.authority with
  | some ⟨_, _, _, some port⟩ => some port
  | _ => defaultPort? u.scheme

end Url

end DocLinks
