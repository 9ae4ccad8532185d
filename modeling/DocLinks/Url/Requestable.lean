import DocLinks.Url

namespace DocLinks.Url

/-- The characters that may stand unescaped in the place a request goes to. -/
def isRequestChar (c : Char) : Bool :=
  c.isAlphanum ||
    c ∈ ['!', '$', '&', '\'', '(', ')', '*', '+', ',', '-', '.', ':', ';', '=', '@', '[', ']', '_', '~']

/-- Whether a text can say where a request goes. Percent signs can only stand before an at sign, and colons
there, in brackets, or once before the port. -/
def isRequestPlace (t : Text) : Bool :=
  let (userInfo, place) := splitUserInfo t
  let (host, port) := splitPort false place
  (userInfo.getD []).all (fun c => c == '%' || isRequestChar c) && !place.isEmpty &&
    (host ++ port).all isRequestChar && !port.tail.contains ':'

/-- The length that an address in a request must stay below. -/
def requestBound : Nat := 65535

/-- Whether a request can be written for an address: it says where to go, in characters that a request can
hold. An address that is nothing but a scheme and a path is taken for the place to go to. -/
def isRequestable (u : Url) : Bool :=
  u.text.length < requestBound &&
    match u.authority with
    | some authority => isRequestPlace authority.text
    | none => u.text.all (fun c => c != '/' && c != '?' && c != '#') && isRequestPlace u.text

def isHttp (u : Url) : Bool := u.scheme == "http".toList || u.scheme == "https".toList

def hasHost (u : Url) : Bool :=
  match u.authority with
  | some authority => authority.host != .name []
  | none => false

/-- The address without user and password, which are sent in another way, unless they cannot be read as
text. -/
def withoutUser (u : Url) : Url :=
  match u.authority with
  | none => u
  | some a =>
    let password := a.password.bind fun p => (Percent.decode p).text?
    match (Percent.decode a.user).text? with
    | none => u
    | some user =>
      if user.isEmpty && password.isNone then u
      else { u with authority := some { a with user := [], password := none } }

end DocLinks.Url
