/-
  Connection strings: what names a server and how to reach it.

  There are two forms, an address that begins with `postgres://` or
  `postgresql://`, and a list of `key=value`.  Both come down to settings, and a
  string is accepted if all of its settings are.
-/
import Rowgate.Address.Host
import Rowgate.Text.Blank

namespace Rowgate

/-- One setting; the value of an address may be any bytes. -/
structure ConnectionSetting where
  key : String
  value : List UInt8
deriving DecidableEq

namespace ConnectionSetting

/-- A setting whose value is a text. -/
def ofText (key : String) (value : List Char) : ConnectionSetting :=
  ⟨key, Text.utf8 (String.ofList value)⟩

/-- The words that some settings are limited to. -/
def words : List (String × List String) :=
  [("sslmode", ["disable", "prefer", "require"]), ("sslnegotiation", ["postgres", "direct"]),
    ("target_session_attrs", ["any", "read-write", "read-only"]),
    ("channel_binding", ["disable", "prefer", "require"]),
    ("load_balance_hosts", ["disable", "random"])]

/-- Whether a text is the number of a socket; an empty one stands for the standard
    number. -/
def isSocketNumber (s : List Char) : Bool :=
  s.isEmpty || (Text.unsigned? 16 s).isSome

/-- Whether a text is an IP address. -/
def isIpAddress (s : List Char) : Bool :=
  Address.isIpv4Tail s || Address.isIpv6 s

/-- Whether a key takes a text. -/
def acceptsText (key : String) (s : List Char) : Bool :=
  match key with
  | "user" | "password" | "dbname" | "options" | "application_name" | "host" => true
  | "port" => (Text.parts ',' s).all isSocketNumber
  | "hostaddr" => (Text.parts ',' s).all isIpAddress
  | "connect_timeout" | "tcp_user_timeout" | "keepalives_idle" | "keepalives_interval" =>
    (Text.signed? 64 s).isSome
  | "keepalives" => (Text.unsigned? 64 s).isSome
  | "keepalives_retries" => (Text.unsigned? 32 s).isSome
  | key => (words.find? (·.1 = key)).any fun e => e.2.contains (String.ofList s)

/-- Whether a setting is accepted.  Passwords and paths of sockets may be any bytes,
    all other values are texts. -/
def isValid (s : ConnectionSetting) : Bool :=
  s.key = "password" || (s.key = "host" && s.value.head? = some 0x2F) ||
    (Text.ofUtf8? s.value).any fun text => acceptsText s.key text.toList

end ConnectionSetting

namespace ConnectionString

/-! ## Addresses -/

/-- What follows the scheme of an address. -/
def afterScheme? (s : List Char) : Option (List Char) :=
  let after? (scheme : List Char) : Option (List Char) :=
    if scheme.isPrefixOf s then some (s.drop scheme.length) else none
  (after? "postgres://".toList).or (after? "postgresql://".toList)

/-- A setting with its value percent-decoded. -/
def decoded (key : String) (s : List Char) : ConnectionSetting :=
  ⟨key, Address.percentDecoded s⟩

/-- User and password before an at sign. -/
def credentials (s : List Char) : List ConnectionSetting :=
  match Text.cut ':' s with
  | (user, none) => [decoded "user" user]
  | (user, some password) => [decoded "user" user, decoded "password" password]

/-- One host with the number of its socket; brackets enclose a host with colons. -/
def hostAndNumber? : List Char → Option (List ConnectionSetting)
  | '[' :: r => do
    let (host, rest) ← Text.cut? ']' r
    match rest with
    | [] => some [decoded "host" host]
    | ':' :: number => some [decoded "host" host, decoded "port" number]
    | _ => none
  | s =>
    match Text.cut ':' s with
    | (host, none) => some [decoded "host" host]
    | (host, some number) => some [decoded "host" host, decoded "port" number]

/-- The parameters after the question mark.  A password among them is a text. -/
def parameters? : Nat → List Char → Option (List ConnectionSetting)
  | 0, _ => some []
  | fuel + 1, s =>
    if s.isEmpty then some []
    else do
      let (key, r) ← Text.cut? '=' s
      let key ← Text.ofUtf8? (Address.percentDecoded key)
      let (value, rest) := Text.cut '&' r
      let setting := decoded key value
      if key = "password" && (Text.ofUtf8? setting.value).isNone then none
      else return setting :: (← parameters? fuel (rest.getD []))

/-- The settings of an address after its scheme. -/
def ofAddress? (s : List Char) : Option (List ConnectionSetting) := do
  let (login, s) := match Text.cut? '@' s with
    | some (login, r) => (credentials login, r)
    | none => ([], s)
  let isEnd (c : Char) : Bool := c = '/' || c = '?'
  let hosts := s.takeWhile fun c => !isEnd c
  let s := s.dropWhile fun c => !isEnd c
  let hosts ← if hosts.isEmpty then some [] else (Text.parts ',' hosts).mapM hostAndNumber?
  let (name, query) := match s with
    | '/' :: r => Text.cut '?' r
    | '?' :: r => ([], some r)
    | _ => ([], none)
  let query := query.getD []
  let more ← parameters? query.length query
  return login ++ hosts.flatten ++ (if name.isEmpty then [] else [decoded "dbname" name]) ++ more

/-! ## Lists of settings -/

/-- The text up to a character that ends it, which a backslash before it prevents. -/
def escaped (ends : Char → Bool) : List Char → List Char × List Char
  | [] => ([], [])
  | '\\' :: [] => ([], [])
  | '\\' :: c :: r =>
    let (s, rest) := escaped ends r
    (c :: s, rest)
  | c :: r =>
    if ends c then ([], c :: r)
    else
      let (s, rest) := escaped ends r
      (c :: s, rest)

/-- A value, in quotes or of at least one character. -/
def value? : List Char → Option (List Char × List Char)
  | '\'' :: r =>
    match escaped (· = '\'') r with
    | (s, _ :: rest) => some (s, rest)
    | _ => none
  | s =>
    match escaped Text.isBlank s with
    | ([], _) => none
    | p => some p

/-- The settings of a list; it ends where no key follows. -/
def ofList? : Nat → List Char → Option (List ConnectionSetting)
  | 0, _ => some []
  | fuel + 1, s =>
    let s := Text.skipBlanks s
    let isKey (c : Char) : Bool := !Text.isBlank c && c ≠ '='
    let key := s.takeWhile isKey
    if key.isEmpty then some []
    else
      match Text.skipBlanks (s.dropWhile isKey) with
      | '=' :: r => do
        let (value, rest) ← value? (Text.skipBlanks r)
        return .ofText (String.ofList key) value :: (← ofList? fuel rest)
      | _ => none

/-- The settings of a connection string, if it is well formed. -/
def settings? (s : String) : Option (List ConnectionSetting) :=
  match afterScheme? s.toList with
  | some r => ofAddress? r
  | none => ofList? s.length s.toList

end ConnectionString

end Rowgate
