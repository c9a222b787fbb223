import VibeDPN.Lib.Dict
import VibeDPN.Lib.Inet6
import VibeDPN.Sni.Split

namespace VibeDPN.Sni

open Bytes Inet

def relayPort : Nat := 443

def socksVersion : UInt8 := 0x05

def socksConnect : UInt8 := 0x01

def socksNoAuth : UInt8 := 0x00

def socksByName : UInt8 := 0x03

def socksIpv4 : UInt8 := 0x01

def socksIpv6 : UInt8 := 0x04

def socksOk : UInt8 := 0x00

inductive Route
  | asIs
  | tor
  | split
  deriving DecidableEq, Repr

def Route.value : Route → String
  | .asIs => "as it is"
  | .tor => "through Tor"
  | .split => "with the ClientHello cut"

inductive NetError
  | timeout
  | connection (text : String)
  | os (text : String)
  deriving DecidableEq, Repr

def NetError.fault : NetError → Fault
  | .timeout => .timeout
  | .connection text => .connection text
  | .os text => .os text

def reason : Fault → String
  | .relay text => text
  | .timeout => "TimeoutError"
  | .connection text => text
  | .os text => text
  | .incomplete got expected =>
    toString got ++ " bytes read on a total of " ++ toString expected ++ " expected bytes"
  | .unicode => "UnicodeError"
  | .value => "ValueError"
  | .index => "IndexError"
  | .struct => "error"
  | .overflow => "OverflowError"

structure Stream where
  bytes : List UInt8
  -- none: the other side closes after these bytes
  ending : Option NetError

def Stream.readexactly (s : Stream) (n : Nat) : Except Fault (List UInt8 × Stream) :=
  if n ≤ s.bytes.length then
    .ok (s.bytes.take n, ⟨s.bytes.drop n, s.ending⟩)
  else
    match s.ending with
    | none => .error (.incomplete s.bytes.length n)
    | some e => .error e.fault

def awaited : Option NetError → Except Fault Unit
  | none => .ok ()
  | some e => .error e.fault

def raiseIf (c : Prop) [Decidable c] (e : Fault) : Except Fault Unit :=
  if c then .error e else .ok ()

-- what isdigit, int or the idna codec refuse a proxy address beyond ASCII with
inductive Foreign
  | digits
  | number
  | name
  | port
  deriving DecidableEq

-- what one attempt to reach a server meets on the network
structure Attempt where
  foreign : Option Foreign
  infos : Except NetError (List (String × Nat))
  connected : Option NetError
  greeted : Option NetError
  proxy : Stream
  requested : Option NetError
  sent : Option NetError
  answer : Except NetError (List UInt8)

structure Opened where
  sent : List UInt8
  answer : List UInt8
  deriving DecidableEq

def readHello (reader : Stream) : Except Fault (List UInt8) := do
  let (header, reader) ← reader.readexactly recordHeader
  let length ← u16 header 3
  raiseIf (maxHelloBytes < length) (.relay ("the first TLS record is " ++ toString length ++
    " bytes, more than " ++ toString maxHelloBytes))
  let (payload, _) ← reader.readexactly length
  return header ++ payload

def isAscii (host : String) : Bool := host.toList.all fun c => c.toNat < 128

def Encodable (host : String) : Prop :=
  isAscii host = true ∧ (∀ l ∈ (Text.split '.' host).dropLast, 0 < l.length) ∧
    ∀ l ∈ Text.split '.' host, l.length < 64

instance (host : String) : Decidable (Encodable host) := by
  unfold Encodable
  infer_instance

-- the idna codec; a name decoded from bytes holds no character beyond ASCII but U+FFFD,
-- which the codec prohibits
def idna (host : String) : Except Fault (List UInt8) :=
  if Encodable host then .ok (host.toList.map fun c => UInt8.ofNat c.toNat) else .error .unicode

def resolveHost (host : String) (infos : Except NetError (List (String × Nat))) :
    Except Fault (String × Nat) := do
  -- getaddrinfo encodes the name before it asks
  let _ ← idna host
  match infos with
  | .error e => .error e.fault
  | .ok [] => .error (.relay (host ++ " resolves to no IPv4 address"))
  | .ok (info :: _) => .ok info

def notAddress (proxy : String) : Fault :=
  .relay (Text.quoted proxy ++ " is not a SOCKS address host:port")

def socksAddress (proxy : String) : Except Fault (String × List Char) :=
  let parts := proxy.toList.splitOn ':'
  let address := String.ofList ([':'].intercalate parts.dropLast)
  let text := parts.getLast?.getD []
  if address = "" ∨ text = [] ∨ text.all isDigit = false then .error (notAddress proxy)
  else .ok (address, text)

-- the most digits int() reads
def maxDigits : Nat := 4300

def maxPort : Nat := 65535

-- asyncio resolves what is no literal, and a literal with a scope too
def isLiteral (address : String) : Bool := isIpAddress address && !address.toList.contains '%'

-- inet_pton refuses a zero byte, and is not asked about a scope
def zeroByte (address : String) : Bool :=
  address.toList.contains '\x00' && !address.toList.contains '%'

def Foreign.fault (proxy : String) : Foreign → Fault
  | .digits => notAddress proxy
  | .number => .value
  | .name => .unicode
  | .port => .overflow

def reachTarget (address : String) (text : List Char) : Except Fault Unit := do
  raiseIf (maxDigits < text.length ∨ zeroByte address = true) .value
  -- connect() takes the port of a literal address as it is
  raiseIf (isLiteral address = true ∧ maxPort < digits text) .overflow
  raiseIf (isLiteral address = false ∧ ¬ Encodable address) .unicode

def foreignTarget (proxy : String) : Option Foreign → Except Fault Unit
  | none => .ok ()
  | some f => .error (f.fault proxy)

-- what open_connection refuses before it connects
def proxyTarget (proxy : String) (foreign : Option Foreign) : Except Fault Unit :=
  if isAscii proxy then
    socksAddress proxy >>= fun (address, text) => reachTarget address text
  else foreignTarget proxy foreign

def hexText (b : UInt8) : String := "0x" ++ String.ofList (hex b.toNat)

def socksRequest (name : List UInt8) (port : Nat) : Except Fault (List UInt8) := do
  raiseIf (255 < name.length) .value
  return [socksVersion, socksConnect, 0, socksByName, UInt8.ofNat name.length] ++ name ++
    packed port

-- the bound address is of no use here, but it has to be read off the stream
def readBound (kind : UInt8) (reader : Stream) : Except Fault Unit :=
  if kind = socksIpv4 then do
    let _ ← reader.readexactly (4 + 2)
  else if kind = socksIpv6 then do
    let _ ← reader.readexactly (16 + 2)
  else if kind = socksByName then do
    let (size, reader) ← reader.readexactly 1
    let _ ← reader.readexactly ((size.getD 0 0).toNat + 2)
  else
    .error (.relay ("the SOCKS proxy answered with address type " ++ hexText kind))

def readReply (host : String) (reader : Stream) : Except Fault Unit := do
  let (head, reader) ← reader.readexactly 4
  raiseIf (head.getD 1 0 ≠ socksOk)
    (.relay ("the SOCKS proxy refused " ++ host ++ ": reply " ++ hexText (head.getD 1 0)))
  readBound (head.getD 3 0) reader

def greetProxy (proxy : String) (a : Attempt) : Except Fault Stream := do
  proxyTarget proxy a.foreign
  awaited a.connected
  awaited a.greeted
  let (greeting, reader) ← a.proxy.readexactly 2
  raiseIf (greeting.getD 0 0 ≠ socksVersion ∨ greeting.getD 1 0 ≠ socksNoAuth)
    (.relay ("the SOCKS proxy wants authentication (" ++ hexText (greeting.getD 1 0) ++ ")"))
  return reader

def openThroughSocks (proxy host : String) (port : Nat) (a : Attempt) : Except Fault Unit := do
  let reader ← greetProxy proxy a
  let name ← idna host
  let _ ← socksRequest name port
  awaited a.requested
  readReply host reader

def firstAnswer : Except NetError (List UInt8) → Except Fault (List UInt8)
  | .error e => .error e.fault
  | .ok [] => .error (.relay "the server closed the connection on the ClientHello")
  | .ok answer => .ok answer

structure Relay where
  zone : String := defaultZone
  socks : String := ""
  routes : Dict String Route := .empty
  said : List String := []

inductive HandleEnd
  | piped (opened : Opened)
  | closed
  | raised (e : Fault)
  deriving DecidableEq

def Fault.caughtPlain : Fault → Bool
  | .relay _ | .timeout | .connection _ => true
  | _ => false

def Fault.caughtAround : Fault → Bool
  | .relay _ | .timeout | .connection _ | .os _ => true
  | _ => false

def Fault.caughtLast : Fault → Bool
  | .relay _ | .timeout | .connection _ | .os _ | .incomplete _ _ => true
  | _ => false

namespace Relay

variable (r : Relay)

def log (line : String) : Relay := { r with said := r.said ++ [line] }

def learn (host : String) (route : Route) : Relay :=
  { r with routes := r.routes.set host route }

def openWay (host : String) (hello : List UInt8) (cut : Nat) (route : Route) (a : Attempt) :
    Except Fault Opened := do
  if route = .tor then
    openThroughSocks r.socks host relayPort a
  else
    let _ ← resolveHost host a.infos
    awaited a.connected
  let sent ← if route = .split then splitHello hello cut else .ok hello
  awaited a.sent
  let answer ← firstAnswer a.answer
  return ⟨sent, answer⟩

def around (host : String) (hello : List UInt8) (cut : Nat) (attempts : Route → Attempt) :
    List Route → String → Relay → Relay × Except Fault Opened
  | [], last, r =>
    (r, .error (.relay ("no way to " ++ host ++ " gets through: " ++ last)))
  | route :: ways, _, r =>
    match r.openWay host hello cut route (attempts route) with
    | .ok opened => ((r.learn host route).log (host ++ ": it goes " ++ route.value), .ok opened)
    | .error e =>
      if e.caughtAround then
        around host hello cut attempts ways (reason e)
          (r.log (host ++ ": " ++ route.value ++ " does not get through either (" ++ reason e ++ ")"))
      else
        (r, .error e)

def ways : List Route := if r.socks ≠ "" then [.tor, .split] else [.split]

def upstream (host : String) (hello : List UInt8) (cut : Nat) (attempts : Route → Attempt) :
    Relay × Except Fault Opened :=
  match r.routes.get? host with
  | some known => (r, r.openWay host hello cut known (attempts known))
  | none =>
    match r.openWay host hello cut .asIs (attempts .asIs) with
    | .ok opened =>
      ((r.learn host .asIs).log (host ++ ": the handshake goes through as it is"), .ok opened)
    | .error e =>
      if e.caughtPlain then
        around host hello cut attempts r.ways ""
          (r.log (host ++ ": no handshake as it is (" ++ reason e ++ ")"))
      else
        (r, .error e)

def refuse (e : Fault) : Relay × HandleEnd :=
  if e.caughtLast then (r.log ("connection refused: " ++ reason e), .closed) else (r, .raised e)

def handle (reader : Stream) (attempts : Route → Attempt) (drained : Option NetError) :
    Relay × HandleEnd :=
  match readHello reader with
  -- nothing was said at all: not worth a line
  | .error (.incomplete 0 _) => (r, .closed)
  | .error e => r.refuse e
  | .ok hello =>
    match serverName hello with
    | .error e => r.refuse e
    | .ok (host, pos) =>
      if served r.zone host then
        match r.upstream host hello (cutOf host pos) attempts with
        | (s, .error e) => s.refuse e
        | (s, .ok opened) =>
          match drained with
          | none => (s, .piped opened)
          | some e => (s, .raised e.fault)
      else
        r.refuse (.relay (host ++ " is not in " ++ r.zone ++ ": the relay serves that zone only"))

end Relay

end VibeDPN.Sni
