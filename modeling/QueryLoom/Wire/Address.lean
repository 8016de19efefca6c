import QueryLoom.Error
import QueryLoom.Json.Settings
import QueryLoom.Text.Numeral

/-!
# Addresses of servers

* `Wire.Options` : how a server is reached; `Wire.Options.parse` : reads it from JSON text;
* `Wire.checkUrl` : what is wrong with the URL of a server.
-/

namespace QueryLoom.Wire

/-! ## Options -/

/-- How a server is reached. -/
structure Options where
  url : String
  /-- The number of connections that may be open at once. -/
  maxConnections : UInt32 := 10
  deriving DecidableEq, Repr

/-- Options of which the URL may not be known yet. -/
structure Options.Given where
  url : Option String := none
  maxConnections : UInt32 := 10
  deriving DecidableEq, Repr

def Options.names : List (Json.Setting Options.Given) :=
  [.of "url" Json.readString fun url o => { o with url := some url },
    .of "max_connections" (Json.readInt .uint32) fun n o =>
      { o with maxConnections := UInt32.ofNat n.toNat }]

/-- The options, if there is a URL. -/
def Options.Given.complete (o : Options.Given) : Option Options :=
  o.url.map fun url => ⟨url, o.maxConnections⟩

def Options.parse (s : String) : Except Json.Fault Options :=
  Json.readWhole (Json.readSettings names {} Given.complete) s.toList

/-! ## URLs -/

/-- Whether a character may stand in a scheme after its first letter. -/
def isSchemeChar (c : Char) : Bool := c.isAlphanum || c == '+' || c == '-' || c == '.'

/-- What follows the scheme of a URL and its colon, if it has a scheme. -/
def afterScheme? (cs : List Char) : Option (List Char) :=
  match cs with
  | [] => none
  | c :: _ =>
    if c.isAlpha then
      match cs.dropWhile isSchemeChar with
      | ':' :: rest => some rest
      | _ => none
    else none

/-- What follows the last sign of a kind; everything without one. -/
def afterLast (sep : Char) (cs : List Char) : List Char :=
  (cs.reverse.takeWhile fun c => c != sep).reverse

/-- The host and port of a URL, from what follows its scheme. -/
def hostAndPort (cs : List Char) : List Char :=
  match cs with
  | '/' :: '/' :: rest =>
    afterLast '@' (rest.takeWhile fun c => c != '/' && c != '?' && c != '#')
  | _ => []

/-- The port of a host and port: what follows the first colon, past an address in brackets, up to a
backslash. -/
def portOf (cs : List Char) : List Char :=
  let host :=
    match cs with
    | '[' :: _ => cs.dropWhile fun c => c != ']'
    | _ => cs
  (host.dropWhile fun c => c != ':').tail.takeWhile fun c => c != '\\'

/-- Whether a text is a port: digits of a number of 16 bits, or nothing. -/
def isPort (cs : List Char) : Bool :=
  cs.all Char.isDigit && decide (Nat.ofDigitChars 10 cs 0 < 65536)

/-- Whether a character is dropped at the ends of a URL. -/
def isUrlMargin (c : Char) : Bool := decide (c.toNat ≤ 0x20)

/-- Whether a character is dropped wherever it stands in a URL. -/
def isUrlBreak (c : Char) : Bool := c == '\t' || c == '\n' || c == '\x0d'

/-- A URL without what is dropped at its ends and inside. -/
def trimUrl (cs : List Char) : List Char :=
  ((cs.dropWhile isUrlMargin).reverse.dropWhile isUrlMargin).reverse.filter (!isUrlBreak ·)

def checkUrl (url : String) : Except Error Unit :=
  match afterScheme? (trimUrl url.toList) with
  | none => .error (.database (.configuration "relative URL without a base"))
  | some rest =>
    if isPort (portOf (hostAndPort rest)) then .ok ()
    else .error (.database (.configuration "invalid port number"))

end QueryLoom.Wire
