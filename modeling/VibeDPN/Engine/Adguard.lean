import VibeDPN.Config.Profiles

namespace VibeDPN

open Text

def resolverHost : String := "127.0.0.1"

def resolverPort : Nat := 5354

def RoutingMode.value : RoutingMode → String
  | .off => "off"
  | .full => "full"
  | .smart => "smart"

def Fields.hasMode (c : Fields) (mode : RoutingMode) : Bool :=
  match c.routing with
  | none => false
  | some routing => routing.mode = mode

def dnsUpstreams (c : Fields) : List String × List String :=
  if c.hasMode .smart then
    ([resolverHost ++ ":" ++ toString resolverPort], c.dns.upstreams.map Subtype.val)
  else (c.dns.upstreams.map Subtype.val, [])

structure AdguardDns where
  upstreamDns : List String
  fallbackDns : List String
  aaaaDisabled : Bool
deriving DecidableEq

def AdguardDns.upstreams (a : AdguardDns) : List String × List String :=
  (a.upstreamDns, a.fallbackDns)

def uiUser : String := "admin"

def coreUser : String := "vibedpn-core"

def schemaVersion : Nat := 34

def dnsPort : Nat := 53

def adguardConf : String := "AdGuardHome.yaml"

structure AdguardUser where
  name : String
  password : String
deriving DecidableEq

structure Rewrite where
  domain : String
  answer : String
  enabled : Bool
deriving DecidableEq

-- the keys core reads or writes; a list that is missing or no list is empty
structure AdguardFile where
  schema : Option Nat := some schemaVersion
  address : Option String := none
  users : List AdguardUser := []
  bindHosts : List String := []
  port : Option Nat := none
  dns : Option AdguardDns := none
  rewrites : List Rewrite := []
deriving DecidableEq

def setUser (name hashed : String) : List AdguardUser → List AdguardUser
  | [] => [⟨name, hashed⟩]
  | user :: users =>
    if user.name = name then ⟨name, hashed⟩ :: users else user :: setUser name hashed users

def noAdguardLan : String := "AdGuard runs only on a box with a LAN"

section File

-- bcrypt: the stored hash while it still matches the password, else a new one
variable (coreUserHash : Option String → String → String)

def setManaged (file : AdguardFile) (c : Fields) (hashed : String) (corePassword : Option String) :
    Except String AdguardFile :=
  match c.network with
  | none => .error noAdguardLan
  | some network =>
    let users := setUser uiUser hashed file.users
    let users := match corePassword with
      | none => users
      | some password =>
        let stored := (users.find? (fun user => user.name = coreUser)).map AdguardUser.password
        setUser coreUser (coreUserHash stored password) users
    let (upstreams, fallbacks) := dnsUpstreams c
    .ok
      { file with
        address := some (network.lanAddress.str ++ ":" ++ toString c.dns.webPort.val)
        users := users
        bindHosts := [network.lanAddress.str]
        port := some dnsPort
        dns := some ⟨upstreams, fallbacks, c.hasMode .full⟩ }

def setBoxName (file : AdguardFile) (c : Fields) (previous : Option String) :
    Except String AdguardFile :=
  match c.network with
  | none => .error noAdguardLan
  | some network =>
    let ours := c.ui.hostName.val :: previous.toList
    let kept := file.rewrites.filter (fun entry => entry.domain ∉ ours)
    .ok
      { file with
        rewrites := kept ++
          if c.ui.enabled then [⟨c.ui.hostName.val, network.lanAddress.str, true⟩] else [] }

def wrongSchema (version : Option Nat) : String :=
  adguardConf ++ " has schema_version " ++ (version.map toString).getD "None" ++
    ", but this VibeDPN manages " ++ toString schemaVersion ++
    " (adguard/adguardhome v0.107.79); leaving it untouched —" ++
    " restore data/adguard/conf from a backup or pin the image tag back"

def adguardText (existing : Option AdguardFile) (c : Fields) (hashed : String)
    (previous corePassword : Option String) : Except String AdguardFile :=
  let file := existing.getD {}
  if file.schema ≠ some schemaVersion then .error (wrongSchema file.schema)
  else
    match setManaged coreUserHash file c hashed corePassword with
    | .error e => .error e
    | .ok file => setBoxName file c previous

-- AdGuardHome.yaml and the box name core keeps next to it, none on a box without AdGuard
def ensureAdguard (existing : Option AdguardFile) (c : Fields) (hashed : String)
    (previous corePassword : Option String) :
    Except String (Option (AdguardFile × Option String)) :=
  if c.network = none ∨ c.dns.enabled = false then .ok none
  else
    match adguardText coreUserHash existing c hashed previous corePassword with
    | .error e => .error e
    | .ok file => .ok (some (file, if c.ui.enabled then some (c.ui.hostName.val ++ "\n") else none))

end File

end VibeDPN
