import DocLinks.Text.Raw

namespace DocLinks

/-- What a server does with a request. -/
inductive Reply
  | status (code : Nat) (location : Option Text)
  /-- The connection is closed without an answer. -/
  | closed
  /-- The answer is not HTTP. -/
  | garbage
  /-- No answer ever comes. -/
  | silence
deriving DecidableEq

/-- A request that reached a server. -/
structure Request where
  target : Text
deriving DecidableEq

/-- The name that requests are made under. -/
def userAgent : Text := "docs-link-check/0.1.0".toList

namespace Request

def text (r : Request) : Text := "GET ".toList ++ r.target ++ ' ' :: userAgent

/-- The request as it is sent to the server of that name. -/
def message (r : Request) (serverName : Text) : Text :=
  "GET ".toList ++ r.target ++ " HTTP/1.1\r\nhost: ".toList ++ serverName ++
    "\r\naccept: */*\r\nconnection: close\r\nuser-agent: ".toList ++ userAgent ++ "\r\n\r\n".toList

end Request

namespace Reply

/-- The status in the first line of an answer, which begins with the version of the protocol. -/
def status? (line : Text) : Option Nat :=
  match "HTTP/1.".toList.isPrefixOf? line with
  | some (_ :: ' ' :: a :: b :: c :: _) =>
    if [a, b, c].all Char.isDigit then some (Text.ofDigits [a, b, c]) else none
  | _ => none

/-- The value of a header line of that name. -/
def header? (name line : Text) : Option Text :=
  match name.isPrefixOf? (line.map Char.toLower) with
  | some (':' :: _) => some (Text.strip ' ' (line.drop (name.length + 1)))
  | _ => none

/-- Reads what a server sent before it closed the connection. -/
def ofMessage (t : Text) : Reply :=
  if t.isEmpty then .closed
  else
    let lines := (Text.splitOn '\n' t).map (Text.dropTrailing '\r')
    match status? (lines.headD []) with
    | some code => .status code ((lines.tail.takeWhile (!·.isEmpty)).findSome? (header? "location".toList))
    | none => .garbage

end Reply

end DocLinks
