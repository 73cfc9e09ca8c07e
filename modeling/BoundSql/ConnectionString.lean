import BoundSql.Json.Reader
import BoundSql.Text.Blank
import BoundSql.Toml.Scalar
import BoundSql.Wire.Bytes

/-! Connection strings, as a URL or as keywords with values; unknown settings are refused. -/

namespace BoundSql.ConnectionString

abbrev Settings := List (String × String)

def inSigned (bits : Nat) (s : String) : Bool :=
  match Number.readInteger s.toList with
  | some n => -2 ^ (bits - 1) ≤ n && n < 2 ^ (bits - 1)
  | none => false

def inUnsigned (bits : Nat) (s : String) : Bool :=
  match s.toList with
  | '-' :: _ => false
  | cs =>
    match Number.readInteger cs with
    | some n => n < 2 ^ bits
    | none => false

def splitAt (separator : Char) : List Char → List (List Char)
  | [] => [[]]
  | c :: rest =>
    if c = separator then [] :: splitAt separator rest
    else
      match splitAt separator rest with
      | [] => [[c]]
      | piece :: pieces => (c :: piece) :: pieces

def isIpv4 (s : List Char) : Bool :=
  let parts := splitAt '.' s
  parts.length == 4 && parts.all fun p =>
    !p.isEmpty && p.length ≤ 3 && p.all Char.isDigit && Number.digitsValue p ≤ 255 &&
      (p.length == 1 || p.head? != some '0')

/-- Groups of an IPv6 address: how many 16-bit units they make, an IPv4 address at the end being two. -/
def ipv6Units (s : List Char) (last : Bool) : Option Nat :=
  if s.isEmpty then some 0
  else
    let parts := splitAt ':' s
    let isGroup (p : List Char) : Bool := !p.isEmpty && p.length ≤ 4 && p.all Toml.isHexDigit
    if parts.all isGroup then some parts.length
    else if last && (parts.dropLast.all isGroup) && isIpv4 (parts.getLast?.getD []) then
      some (parts.length + 1)
    else none

def splitDoubleColon : List Char → List Char × Option (List Char)
  | [] => ([], none)
  | ':' :: ':' :: rest => ([], some rest)
  | c :: rest => let (front, back) := splitDoubleColon rest; (c :: front, back)

def isIpv6 (s : List Char) : Bool :=
  match splitDoubleColon s with
  | (all, none) => ipv6Units all true == some 8
  | (front, some back) =>
    match ipv6Units front false, ipv6Units back true with
    | some a, some b => a + b ≤ 7
    | _, _ => false

def isPort (cs : List Char) : Bool := cs.isEmpty || inUnsigned 16 (String.ofList cs)

def accepts (key value : String) : Bool :=
  match key with
  | "user" | "password" | "dbname" | "options" | "application_name" | "host" => true
  | "sslmode" => ["disable", "prefer", "require"].contains value
  | "sslnegotiation" => ["postgres", "direct"].contains value
  | "hostaddr" => (splitAt ',' value.toList).all fun a => isIpv4 a || isIpv6 a
  | "port" => (splitAt ',' value.toList).all isPort
  | "connect_timeout" | "tcp_user_timeout" | "keepalives_idle" | "keepalives_interval" =>
    inSigned 64 value
  | "keepalives" => inUnsigned 64 value
  | "keepalives_retries" => inUnsigned 32 value
  | "target_session_attrs" => ["any", "read-write", "read-only"].contains value
  | "channel_binding" => ["disable", "prefer", "require"].contains value
  | "load_balance_hosts" => ["disable", "random"].contains value
  | _ => false

def setting (key value : String) : Option (String × String) :=
  if accepts key value then some (key, value) else none

def percentBytes : List UInt8 → List UInt8
  | 37 :: a :: b :: rest =>
    match Json.hexValue? (Char.ofNat a.toNat), Json.hexValue? (Char.ofNat b.toNat) with
    | some high, some low => UInt8.ofNat (16 * high + low) :: percentBytes rest
    | _, _ => 37 :: percentBytes (a :: b :: rest)
  | b :: rest => b :: percentBytes rest
  | [] => []

def percentDecode (cs : List Char) : Option String :=
  String.fromUTF8? ⟨(percentBytes (String.ofList cs).toUTF8.data.toList).toArray⟩

def upTo (ends : Char → Bool) (cs : List Char) : List Char × List Char :=
  (cs.takeWhile (!ends ·), cs.dropWhile (!ends ·))

def hostSetting (cs : List Char) : Option (String × String) :=
  match percentBytes (String.ofList cs).toUTF8.data.toList with
  | 47 :: _ => some ("host", String.ofList cs)
  | _ => (percentDecode cs).bind (setting "host")

def hostPort (cs : List Char) : Option Settings := do
  let (host, port) ←
    match cs with
    | '[' :: rest =>
      let (host, rest) := upTo (· == ']') rest
      match rest with
      | [_] => some (host, none)
      | _ :: ':' :: port => some (host, some port)
      | _ => none
    | cs =>
      let (host, rest) := upTo (· == ':') cs
      some (host, rest.head?.map fun _ => rest.drop 1)
  let host ← hostSetting host
  let port ← setting "port" (← percentDecode (port.getD "5432".toList))
  return [host, port]

def hosts : List (List Char) → Option Settings
  | [] => some []
  | h :: rest => do return (← hostPort h) ++ (← hosts rest)

def urlParameters : (fuel : Nat) → List Char → Option Settings
  | 0, _ => some []
  | fuel + 1, cs =>
    if cs.isEmpty then some []
    else do
      let (key, rest) := upTo (· == '=') cs
      if rest.isEmpty then none
      else
        let key ← percentDecode key
        let (value, rest) := upTo (· == '&') (rest.drop 1)
        let first ← if key == "host" then hostSetting value else (percentDecode value).bind (setting key)
        return first :: (← urlParameters fuel (rest.drop 1))

def credentials (cs : List Char) : Option (Settings × List Char) :=
  match upTo (· == '@') cs with
  | (_, []) => some ([], cs)
  | (before, _ :: rest) => do
    let (user, password) := upTo (· == ':') before
    let user := ("user", ← percentDecode user)
    return (if password.isEmpty then [user] else [user, ("password", String.ofList (password.drop 1))], rest)

def ofUrl (cs : List Char) : Option Settings := do
  let (login, rest) ← credentials cs
  let (host, rest) := upTo (fun c => c == '/' || c == '?') rest
  let hosts ← if host.isEmpty then some [] else hosts (splitAt ',' host)
  let (name, rest) :=
    match rest with
    | '/' :: rest => upTo (· == '?') rest
    | rest => ([], rest)
  let name ← percentDecode name
  let parameters ← urlParameters cs.length (rest.drop 1)
  return login ++ hosts ++ (if name.isEmpty then [] else [("dbname", name)]) ++ parameters

def quotedValue (before : List Char) : List Char → Option (String × List Char)
  | [] => none
  | '\'' :: rest => some (String.ofList before.reverse, rest)
  | '\\' :: c :: rest => quotedValue (c :: before) rest
  | ['\\'] => none
  | c :: rest => quotedValue (c :: before) rest

def simpleValue (before : List Char) : List Char → String × List Char
  | [] => (String.ofList before.reverse, [])
  | '\\' :: c :: rest => simpleValue (c :: before) rest
  | ['\\'] => (String.ofList before.reverse, [])
  | c :: rest =>
    if Text.isBlank c then (String.ofList before.reverse, c :: rest) else simpleValue (c :: before) rest

def skipBlanks (cs : List Char) : List Char := cs.dropWhile Text.isBlank

def ofKeywords : (fuel : Nat) → List Char → Option Settings
  | 0, _ => some []
  | fuel + 1, cs =>
    let (keyword, rest) := upTo (fun c => Text.isBlank c || c == '=') (skipBlanks cs)
    if keyword.isEmpty then some []
    else
      match skipBlanks rest with
      | '=' :: rest => do
        let (value, rest) ←
          match skipBlanks rest with
          | '\'' :: rest => quotedValue [] rest
          | rest =>
            let (value, rest) := simpleValue [] rest
            if value.isEmpty then none else some (value, rest)
        let first ← setting (String.ofList keyword) value
        return first :: (← ofKeywords fuel rest)
      | _ => none

def schemes : List (List Char) := ["postgres://".toList, "postgresql://".toList]

def parse (s : String) : Option Settings :=
  let cs := s.toList
  match schemes.findSome? (Json.dropWord? · cs) with
  | some rest => ofUrl rest
  | none => ofKeywords (cs.length + 1) cs

end BoundSql.ConnectionString
