import VibeDPN.Bootstrap.Build
import VibeDPN.Compose.Services
import VibeDPN.Engine.Adguard
import VibeDPN.Engine.Backup
import VibeDPN.Engine.Firewall
import VibeDPN.Engine.Host
import VibeDPN.Engine.Wg

namespace VibeDPN

open Text

inductive Verdict where
  | ok
  | warn
  | fail
deriving DecidableEq

structure CheckResult where
  name : String
  verdict : Verdict
  detail : String
  hint : String := ""
deriving DecidableEq

structure FileFact where
  present : Option Bool
  mode : Option Nat := none

structure Listener where
  proto : String
  address : String
  port : Nat
  process : String

structure PortNeed where
  service : String
  proto : String
  address : String
  port : Nat
  portEnd : Option Nat := none

structure ServiceStatus where
  service : String
  state : String
  health : String
  status : String

inductive ExitName where
  | direct
  | uplink (key : String) (known : (uplinkService key).isSome)

structure ExitFact where
  name : ExitName
  address : Option String
  error : String := ""

structure Fail2banFact where
  installed : Bool
  jails : List String := []
  actions : List String := []
  banned : Option Nat := none
  table : Option Bool := none
  error : String := ""

structure UpdatesFact where
  conf : Bool
  timer : Option Bool := none
  error : String := ""

structure DoctorFacts where
  config : Option Config
  configError : String := ""
  configHint : String := ""
  envCurrent : Option Bool := none
  secrets : Dict String (Option Bool) := Dict.empty
  wireguard : Option Bool := none
  nfTables : Option Bool := none
  ipForward : Option Bool := none
  listeners : Option (List Listener) := none
  isRoot : Bool := false
  dockerError : String := ""
  listenersError : String := ""
  services : List ServiceStatus := []
  activeServices : List String := []
  firewallTable : Option Bool := none
  firewallError : String := ""
  tunnel : List (String × FileFact) := []
  egressTable : Option Bool := none
  egressError : String := ""
  dockerUser : Option Bool := none
  dockerUserError : String := ""
  routerTable : Option Bool := none
  dnsUplink : Option Bool := none
  routerError : String := ""
  routerRules : Option Bool := none
  routerDockerUser : Option Bool := none
  routerDockerUserError : String := ""
  uplinkRoutes : Dict String (Option Bool) := Dict.empty
  lastResortRoutes : Dict String (Option Bool) := Dict.empty
  rpFilter : Option Nat := none
  lanIpv6 : Option Bool := none
  exits : Option (List ExitFact) := none
  memoryBytes : Option Nat := none
  nat : String := ""
  natError : String := ""
  lanAddressSet : Option Bool := none
  lanWireless : Option Bool := none
  fail2ban : Option Fail2banFact := none
  updates : Option UpdatesFact := none
  dpnConnection : String := ""

namespace Doctor

def nftTable : String := "inet vibedpn"
def egressTable : String := "inet vibedpn_egress"
def routerTable : String := "inet vibedpn_router"
def f2bTable : String := "inet f2b-table"
def f2bJail : String := "sshd"
def updateTimer : String := "apt-daily-upgrade.timer"
def updateConf : String := "52vibedpn-unattended-upgrades"
def ipForwardSysctl : String := "/proc/sys/net/ipv4/ip_forward"
def apiHost : String := "127.0.0.1"
def dhcpServerPort : Nat := 67
def coreProcessNames : List String := ["vibedpn-core"]
def anyAddresses : List String := ["0.0.0.0", "*", "::", "[::]"]
def wildcard : String := "*"
def runningState : String := "running"
def neverStartedState : String := "created"
def sudoHint : String := "sudo vibedpn doctor"
def strictRpFilter : Nat := 1
def defaultHttpPort : Nat := 80
def sshd : String := "sshd"
def wgServerDir : String := "wg-server"
def connected : String := "Connected"
def natOpen : List String := ["none", "fullcone"]
def natPunchable : List String := ["rcone", "prcone"]
def natSymmetric : String := "symmetric"

def textOr (text other : String) : String := if text = "" then other else text

def seen (d : Dict String (Option Bool)) (key : String) : Option Bool := (d.get? key).join

def PortNeed.label (need : PortNeed) : String :=
  need.proto ++ "/" ++
    match need.portEnd with
    | some (last + 1) => toString need.port ++ "-" ++ toString (last + 1)
    | _ => toString need.port

def PortNeed.covers (need : PortNeed) (port : Nat) : Bool :=
  need.port ≤ port && port ≤
    match need.portEnd with
    | some (last + 1) => last + 1
    | _ => need.port

def portNeeds (c : Config) : List PortNeed :=
  [⟨"core", "tcp", apiHost, c.api.port.val, none⟩] ++
    (match c.network with
    | some network =>
      let lan := network.lanAddress.str
      (if c.dns.enabled then
        [⟨"adguard", "udp", lan, dnsPort, none⟩, ⟨"adguard", "tcp", lan, dnsPort, none⟩,
          ⟨"adguard", "tcp", lan, c.dns.webPort.val, none⟩,
          ⟨"core", "udp", resolverHost, resolverPort, none⟩]
      else []) ++
        if c.ui.enabled then [⟨"ui", "tcp", lan, c.ui.port.val, none⟩] else []
    | none => []) ++
    (if c.provider.enabled then
      [⟨"myst-provider", "tcp", apiHost, nodeuiPort, none⟩,
        ⟨"myst-provider", "tcp", apiHost, tequilapiPort, none⟩,
        ⟨"myst-provider", "udp", wildcard, c.provider.udpPorts.bounds.1,
          some c.provider.udpPorts.bounds.2⟩]
    else []) ++
    (match c.wgServer with
    | some server => [⟨"wg-server", "udp", wildcard, server.listenPort.val, none⟩]
    | none => []) ++
    if c.network.any (fun n => n.mode = .gateway) then
      [⟨"dnsmasq", "udp", wildcard, dhcpServerPort, none⟩]
    else []

def holderOf (need : PortNeed) (listeners : List Listener) : Option Listener :=
  listeners.find? fun listener =>
    listener.proto = need.proto && PortNeed.covers need listener.port &&
      (need.address = wildcard || anyAddresses.contains listener.address ||
        listener.address = need.address)

def wireguardRequired (c : Config) : Bool :=
  c.composeProfiles.contains .wgServer || c.composeProfiles.contains .wgClient

def configResult (c : Config) : CheckResult :=
  ⟨"config", .ok, "role " ++ c.role.value ++ ", profiles " ++
    join ',' (c.composeProfiles.map Profile.value), ""⟩

def envResult : Option Bool → CheckResult
  | none => ⟨"env", .warn, ".env not written yet", "vibedpn up"⟩
  | some false => ⟨"env", .warn, ".env is behind config.yaml", "vibedpn up"⟩
  | some true => ⟨"env", .ok, ".env matches config.yaml", ""⟩

def secretsResult (c : Config) (secrets : Dict String (Option Bool)) : CheckResult :=
  let needed := c.requiredSecrets
  let missing := needed.filter fun name => seen secrets name = some false
  let unknown := needed.filter fun name => seen secrets name = none
  if missing ≠ [] then
    ⟨"secrets", .fail, "missing " ++ commaJoin missing, "vibedpn init --force"⟩
  else if unknown ≠ [] then
    ⟨"secrets", .warn, "cannot check " ++ commaJoin unknown ++ " (" ++ secretsDir ++
      "/ is root-only)", sudoHint⟩
  else ⟨"secrets", .ok, commaJoin needed, ""⟩

def moduleResult (name : String) (present : Option Bool) (why : String) : CheckResult :=
  match present with
  | none => ⟨name, .warn, "cannot tell: modprobe not found on this PATH", sudoHint⟩
  | some true => ⟨name, .ok, "kernel module available", ""⟩
  | some false => ⟨name, .fail, "kernel module missing; " ++ why, ""⟩

def wireguardResult (c : Option Config) (present : Option Bool) : CheckResult :=
  match present with
  | some false =>
    if c.any wireguardRequired then
      ⟨"wireguard", .fail, "kernel module missing; tunnels cannot start",
        "use a stock Debian 12/13 or Raspberry Pi OS kernel (wireguard is built in)"⟩
    else
      ⟨"wireguard", .warn, "kernel module missing; this role runs no WireGuard container" ++
        " (myst brings its own tunnel)", ""⟩
  | _ => moduleResult "wireguard" present ""

def isLoose (file : FileFact) : Bool := file.mode.any fun mode => mode &&& 0o077 ≠ 0

def tunnelResult (files : List (String × FileFact)) : CheckResult :=
  let names := textOr (commaJoin (files.map Prod.fst)) "tunnel files"
  let missing := files.filter fun file => file.2.present = some false
  let loose := files.filter fun file => isLoose file.2
  if files.any (fun file => file.2.present = none) then
    ⟨"tunnel", .warn, "cannot check " ++ names ++ " (" ++ secretsDir ++ "/ is root-only)", sudoHint⟩
  else if missing ≠ [] then
    ⟨"tunnel", .warn,
      commaJoin (missing.map Prod.fst) ++ " not written yet; core creates them at start",
      "vibedpn up"⟩
  else if loose ≠ [] then
    ⟨"tunnel", .fail, commaJoin (loose.map Prod.fst) ++ " readable by other users",
      "vibedpn restart (core resets the mode to 600)"⟩
  else ⟨"tunnel", .ok, names ++ " in " ++ secretsDir ++ "/" ++ wgServerDir ++ ", mode 600", ""⟩

def accessProblem (address : String) (listeners : List Listener) (port : Nat) : Option String :=
  match listeners.find? fun item =>
      item.proto = "tcp" && item.address = address && item.port = port with
  | none => some ("nothing listens on " ++ address ++ ":" ++ toString port)
  | some holder =>
    if holder.process ≠ "" && !coreProcessNames.contains holder.process then
      some (address ++ ":" ++ toString port ++ " is held by " ++ holder.process ++ ", not core")
    else none

def tunnelAccessResult (c : Config) (facts : DoctorFacts) : Option CheckResult :=
  match c.wgServer with
  | none => none
  | some server =>
    let address := server.serverAddress.str
    match facts.listeners with
    | none => some ⟨"tunnel access", .warn, "cannot check: " ++ facts.listenersError, ""⟩
    | some listeners =>
      match [nodeuiPort, c.api.port.val].filterMap (accessProblem address listeners) with
      | [] => some ⟨"tunnel access", .ok, "node panel " ++ address ++ ":" ++ toString nodeuiPort ++
          " and core API " ++ address ++ ":" ++ toString c.api.port.val ++ " for home boxes", ""⟩
      | problems => some ⟨"tunnel access", .fail,
          String.ofList ([';', ' '].intercalate (problems.map String.toList)),
          "vibedpn restart, then vibedpn logs core"⟩

def sshResult (sshPorts : List Nat) (listeners : Option (List Listener)) : Option CheckResult :=
  match listeners with
  | none => none
  | some listeners =>
    let listening := ((listeners.filter fun item =>
      item.process = sshd && item.proto = "tcp").map Listener.port).dedup.insertionSort (· ≤ ·)
    let missing := listening.filter (!sshPorts.contains ·)
    if listening = [] then none
    else if missing ≠ [] then
      some ⟨"ssh", .fail, "sshd listens on " ++ commaJoin (missing.map toString) ++
        ", which firewall.ssh_ports does not open",
        "add the port to firewall.ssh_ports in config.yaml, then vibedpn up"⟩
    else
      some ⟨"ssh", .ok,
        "sshd listens on " ++ commaJoin (listening.map toString) ++ ", open in the firewall", ""⟩

def firewallResults (c : Config) (facts : DoctorFacts) : List CheckResult :=
  if !c.firewall.enabled then
    match facts.firewallTable with
    | some true => [⟨"firewall", .warn,
        "firewall.enabled is false but table " ++ nftTable ++ " is still loaded",
        "vibedpn restart (core removes it at start)"⟩]
    | none => []
    | some false => [⟨"firewall", .ok, "disabled in config.yaml, no table loaded", ""⟩]
  else
    match facts.firewallTable with
    | none => [⟨"firewall", .warn, facts.firewallError, if facts.isRoot then "" else sudoHint⟩]
    | some false => [⟨"firewall", .fail,
        "table " ++ nftTable ++ " is not loaded; core applies it at start",
        "vibedpn up, then vibedpn logs core"⟩]
    | some true =>
      ⟨"firewall", .ok, "table " ++ nftTable ++ " is loaded", ""⟩ ::
        (sshResult (c.firewall.sshPorts.map fun port => port.val) facts.listeners).toList

def egressResult (server : WgServerConfig) (facts : DoctorFacts) : CheckResult :=
  let hint := if facts.isRoot then "" else sudoHint
  let subnet := server.subnet.val.str
  match facts.egressTable with
  | none => ⟨"tunnel egress", .warn, facts.egressError, hint⟩
  | some false => ⟨"tunnel egress", .fail,
      "table " ++ egressTable ++ " is not loaded for " ++ subnet ++
        ": peers cannot reach the internet",
      "vibedpn restart, then vibedpn logs core"⟩
  | some true =>
    match facts.dockerUser with
    | none => ⟨"tunnel egress", .warn, facts.dockerUserError, hint⟩
    | some false => ⟨"tunnel egress", .fail,
        "Docker drops forwarded traffic and DOCKER-USER does not let the tunnel out",
        "vibedpn restart (core adds the rules at start), then vibedpn logs core"⟩
    | some true =>
      ⟨"tunnel egress", .ok, "peers of " ++ subnet ++ " leave through this VPS", ""⟩

def restart : String := "vibedpn restart, then vibedpn logs core"

def routingMode (c : Config) : String := (c.routing.map fun routing => routing.mode.value).getD "off"

def failopen (c : Config) : Bool := c.routing.any RoutingConfig.failopen

def knownUplinks (c : Config) : List (String × Uplink) :=
  c.usedUplinks.filterMap fun key => (c.uplinkTable.get? key).map fun uplink => (key, uplink)

def routerOk (c : Config) : CheckResult :=
  ⟨"router", .ok, "routing.mode " ++ routingMode c ++ ", uplinks in use: " ++
    commaJoin ((knownUplinks c).map fun e => e.1 ++ " (" ++ e.2.gateway ++ ")"), ""⟩

def routerUplinks (c : Config) (facts : DoctorFacts) (hint : String) :
    List (String × Uplink) → CheckResult
  | [] => routerOk c
  | (key, uplink) :: rest =>
    let table := toString uplink.table
    let gateway := seen facts.uplinkRoutes key
    let lastResort := seen facts.lastResortRoutes key
    if gateway = none ∨ (failopen c = false ∧ lastResort = none) then
      ⟨"router", .warn, "cannot read routing table " ++ table, hint⟩
    else if failopen c = false ∧ lastResort = some false then
      ⟨"router", .fail, "routing table " ++ table ++ " has no kill-switch route:" ++
        " a dead gateway would leak LAN traffic", restart⟩
    else if gateway = some false then
      ⟨"router", .warn, "uplink " ++ key ++ " gateway " ++ uplink.gateway ++
        " does not answer; " ++ (if failopen c then "traffic goes direct (failopen: true)"
          else "its traffic is held (kill switch)"),
        "vibedpn logs " ++ (uplinkService key).getD ""⟩
    else routerUplinks c facts hint rest

def routerResult (c : Config) (facts : DoctorFacts) : CheckResult :=
  let hint := if facts.isRoot then "" else sudoHint
  match facts.routerTable with
  | none => ⟨"router", .warn, facts.routerError, hint⟩
  | some false => ⟨"router", .fail, "table " ++ routerTable ++ " is not loaded", restart⟩
  | some true =>
    match facts.routerRules, facts.routerDockerUser with
    | some rules, some dockerUser =>
      if rules = false then ⟨"router", .fail, "ip rules do not match config.yaml", restart⟩
      else if facts.rpFilter = some strictRpFilter then
        ⟨"router", .fail, "rp_filter is strict (1): replies from the gateways on " ++
            upstreamsBridge ++ " are dropped",
          "sysctl -w net.ipv4.conf.all.rp_filter=2 net.ipv4.conf." ++ upstreamsBridge ++
            ".rp_filter=2 and persist it in /etc/sysctl.d/"⟩
      else if dockerUser = false then
        ⟨"router", .fail,
          "Docker drops forwarded LAN traffic and DOCKER-USER does not let it through", restart⟩
      else if c.usedUplinks = [] then
        ⟨"router", .ok, "routing.mode " ++ routingMode c ++ ": LAN goes direct through the box", ""⟩
      else routerUplinks c facts hint (knownUplinks c)
    | _, _ =>
      ⟨"router", .warn, textOr facts.routerDockerUserError "cannot read ip rules", hint⟩

def lanIpv6Result (c : Config) (facts : DoctorFacts) : Option CheckResult :=
  match c.network with
  | none => none
  | some network =>
    if c.hasMode .full then
      match facts.lanIpv6 with
      | none => some ⟨"ipv6", .warn, "cannot read IPv6 addresses of " ++ network.lanInterface, ""⟩
      | some true => some ⟨"ipv6", .warn, network.lanInterface ++
          " has a global IPv6 address: devices can reach the internet over IPv6 around the uplink",
          "turn off IPv6 (RA/DHCPv6) for the LAN on the main router"⟩
      | some false => some ⟨"ipv6", .ok, "no global IPv6 on " ++ network.lanInterface ++
          ": routing.mode full covers the LAN", ""⟩
    else none

def vpsLanAccessResult (c : Config) : CheckResult :=
  if c.upstreams.vps.lanAccess then
    ⟨"vps lan access", .ok,
      "open: LAN devices reach the node panel and core API of the VPS through the tunnel", ""⟩
  else
    ⟨"vps lan access", .ok,
      "closed: LAN devices reach no private address through the tunnel", ""⟩

-- gibibytes with one decimal, a tie to the even one; exact below 2 ^ 53 bytes
def gibibytes (memory : Nat) : String :=
  let unit := 1024 ^ 3
  let tenths := memory * 10 / unit
  let rest := memory * 10 % unit
  let rounded := if 2 * rest < unit ∨ (2 * rest = unit ∧ tenths % 2 = 0) then tenths else tenths + 1
  toString (rounded / 10) ++ "." ++ toString (rounded % 10) ++ " GiB"

def uiVariantResult (c : Config) (memory : Option Nat) : Option CheckResult :=
  match memory with
  | none => none
  | some memory =>
    if c.ui.variant = .full ∧ memory < liteBelowMemoryBytes then
      some ⟨"ui variant", .warn, "ui.variant full on a host with " ++ gibibytes memory,
        "set ui.variant: lite in config.yaml, then vibedpn up"⟩
    else
      some ⟨"ui variant", .ok, c.ui.variant.value ++ " on a host with " ++ gibibytes memory, ""⟩

def uiNameResult (c : Config) : CheckResult :=
  let host := c.ui.hostName.val
  let address := (c.network.map fun network => network.lanAddress.str).getD "None"
  let port := if c.ui.port.val = defaultHttpPort then "" else ":" ++ toString c.ui.port.val
  if c.dns.enabled then
    ⟨"ui name", .ok, "http://" ++ host ++ port ++ " -> " ++ address ++
      " (devices using the box as DNS)", ""⟩
  else
    ⟨"ui name", .warn, host ++ " is not published: dns is off",
      "open http://" ++ address ++ port ++ ", or point " ++ host ++ " at " ++ address ++
        " in the router's DNS"⟩

def isDirect (item : ExitFact) : Bool :=
  match item.name with
  | .direct => true
  | .uplink _ _ => false

def directExit (exits : List ExitFact) : Option ExitFact := exits.find? isDirect

def directResult (direct : ExitFact) : CheckResult :=
  match direct.address with
  | none => ⟨"exit direct", .warn, "no public address from the host: " ++ direct.error,
      "check the internet connection of the box"⟩
  | some address => ⟨"exit direct", .ok, address, ""⟩

def tunnelled (direct : Option ExitFact) (address : Option String) : Bool :=
  address ≠ none && direct.all (fun direct => address ≠ direct.address)

def exitResult (direct : Option ExitFact) (dpnConnection : String) (item : ExitFact) :
    Option CheckResult :=
  match item.name with
  | .direct => none
  | .uplink key known =>
    let name := "exit " ++ key
    let service := (uplinkService key).get known
    if tunnelled direct item.address = false ∧ key = Upstream.dpn.value ∧
        dpnConnection ≠ connected then
      some ⟨name, .warn, "no session (" ++
          textOr dpnConnection "the node does not answer" ++ "): the node leaves direct, LAN traffic is held back",
        "register the consumer identity and connect it; vibedpn status shows dpn"⟩
    else
      match item.address with
      | none => some ⟨name, .fail,
          "no public address through uplink " ++ key ++ ": " ++ item.error,
          "vibedpn logs " ++ service⟩
      | some address =>
        if direct.any (fun direct => some address = direct.address) then
          some ⟨name, .fail, "uplink " ++ key ++ " leaves with the direct address " ++ address,
            "its traffic bypasses the tunnel; vibedpn logs " ++ service⟩
        else some ⟨name, .ok, address, ""⟩

def exitResults (exits : List ExitFact) (dpnConnection : String) : List CheckResult :=
  ((directExit exits).map directResult).toList ++
    exits.filterMap (exitResult (directExit exits) dpnConnection)

def dnsLeakResult (c : Config) (dnsUplink : Option Bool) : Option CheckResult :=
  match c.routing with
  | none => none
  | some routing =>
    if c.dns.enabled = false then none
    else if routing.mode = .full then
      match dnsUplink with
      | some true => some ⟨"dns leak", .ok,
          "AdGuard asks its upstreams through uplink " ++ routing.defaultUpstream.val, ""⟩
      | none => some ⟨"dns leak", .warn, "cannot tell whether AdGuard goes through the uplink",
          sudoHint⟩
      | some false => some ⟨"dns leak", .warn,
          "AdGuard sends its DoH queries directly: the router has no dns_uplink chain",
          "vibedpn restart"⟩
    else
      some ⟨"dns leak", .ok,
        "routing.mode " ++ routing.mode.value ++ ": DNS goes direct by design", ""⟩

def fail2banResult (fact : Option Fail2banFact) : CheckResult :=
  match fact with
  | none => ⟨"fail2ban", .warn, "not installed: ssh has nothing against guessing",
      "re-run install.sh: it installs fail2ban with the ssh jail"⟩
  | some fact =>
    if fact.installed = false then
      ⟨"fail2ban", .warn, "not installed: ssh has nothing against guessing",
        "re-run install.sh: it installs fail2ban with the ssh jail"⟩
    else if fact.error ≠ "" then ⟨"fail2ban", .warn, fact.error, "systemctl status fail2ban"⟩
    else if !fact.jails.contains f2bJail then
      ⟨"fail2ban", .fail, "runs without the " ++ f2bJail ++ " jail (jails: " ++
          textOr (commaJoin fact.jails) "none" ++ ")",
        "journalctl -u fail2ban: a missing python3-systemd keeps the jail from starting"⟩
    else
      match fact.actions with
      | [] => ⟨"fail2ban", .fail,
          "jail " ++ f2bJail ++ " counts offenders but has no action: a ban would do nothing",
          "systemctl restart fail2ban: a reload that changes banaction drops every action"⟩
      | action :: _ =>
        if fact.banned.any (· ≠ 0) ∧ fact.table = some false then
          ⟨"fail2ban", .fail, "jail " ++ f2bJail ++ " holds " ++
              toString (fact.banned.getD 0) ++ " ban(s), but table " ++ f2bTable ++
              " is not loaded",
            "apt install nftables, then systemctl restart fail2ban"⟩
        else
          ⟨"fail2ban", .ok, "jail " ++ f2bJail ++ " is on (" ++ action ++ ")" ++
            (fact.banned.map fun banned => ", " ++ toString banned ++ " banned").getD "", ""⟩

def updatesResult (fact : Option UpdatesFact) : CheckResult :=
  let hint := "re-run install.sh: it installs unattended-upgrades and turns the apt timers on"
  match fact with
  | none => ⟨"updates", .warn, "could not be checked", hint⟩
  | some fact =>
    if fact.conf = false then
      ⟨"updates", .warn, updateConf ++ " is missing: no security updates", hint⟩
    else
      match fact.timer with
      | none => ⟨"updates", .warn, textOr fact.error "systemctl is silent", hint⟩
      | some false => ⟨"updates", .fail,
          updateTimer ++ " is off: the box installs no security updates",
          "systemctl enable --now " ++ updateTimer⟩
      | some true => ⟨"updates", .ok, "security updates on, " ++ updateTimer ++ " enabled", ""⟩

def ipForwardResult : Option Bool → CheckResult
  | none => ⟨"ip_forward", .warn, "cannot read " ++ ipForwardSysctl, ""⟩
  | some true => ⟨"ip_forward", .ok, "net.ipv4.ip_forward=1", ""⟩
  | some false => ⟨"ip_forward", .fail, "net.ipv4.ip_forward=0; Docker normally enables it at start",
      "sysctl -w net.ipv4.ip_forward=1 and persist it in /etc/sysctl.d/"⟩

def portResult (facts : DoctorFacts) (listeners : List Listener) (need : PortNeed) : CheckResult :=
  let name := "port " ++ PortNeed.label need
  let servicesKnown := facts.dockerError = ""
  let running := (facts.services.filter fun item => item.state = runningState).map
    ServiceStatus.service
  match holderOf need listeners with
  | none => ⟨name, .ok, "free for " ++ need.service, ""⟩
  | some holder =>
    let who := textOr holder.process
      ("unknown process" ++ if facts.isRoot then "" else "; run with sudo to see it")
    if servicesKnown ∧ running.contains need.service then
      ⟨name, .ok, "held by our " ++ need.service, ""⟩
    else if ¬ servicesKnown then
      ⟨name, .warn, "held by " ++ who ++ " on " ++ holder.address ++
        "; cannot tell whether it is our " ++ need.service ++ " until Docker is reachable", ""⟩
    else
      ⟨name, .fail, "taken by " ++ who ++ " on " ++ holder.address ++ ", needed by " ++
          need.service,
        "stop that service or change the port in config.yaml"⟩

def portResults (c : Config) (facts : DoctorFacts) : List CheckResult :=
  match facts.listeners with
  | none => (portNeeds c).map fun need =>
      ⟨"port " ++ PortNeed.label need, .warn, "cannot check: " ++ facts.listenersError, ""⟩
  | some listeners => (portNeeds c).map (portResult facts listeners)

def statusByName (facts : DoctorFacts) : Dict String ServiceStatus :=
  Dict.empty.update (facts.services.map fun item => (item.service, item))

def isNotStarted (facts : DoctorFacts) (name : String) : Bool :=
  ((statusByName facts).get? name).all fun item => item.state = neverStartedState

def brokenService (facts : DoctorFacts) (name : String) : Option String :=
  match (statusByName facts).get? name with
  | none => none
  | some item =>
    if item.state = neverStartedState ∨ item.state = runningState then none
    else some (name ++ " (" ++ textOr item.status item.state ++ ")")

def serviceResults (facts : DoctorFacts) : CheckResult :=
  let unhealthy := ((statusByName facts).entries.filter fun e => e.2.health = "unhealthy").map
    Prod.fst
  let notStarted := facts.activeServices.filter (isNotStarted facts)
  let broken := facts.activeServices.filterMap (brokenService facts)
  if unhealthy ≠ [] ∨ broken ≠ [] then
    let parts := (if unhealthy ≠ [] then ["unhealthy: " ++ commaJoin unhealthy] else []) ++
      if broken ≠ [] then ["not running: " ++ commaJoin broken] else []
    ⟨"services", .fail, String.ofList ([';', ' '].intercalate (parts.map String.toList)),
      "vibedpn logs <service>"⟩
  else if notStarted ≠ [] then
    ⟨"services", .warn, "not started: " ++ commaJoin notStarted, "vibedpn up"⟩
  else ⟨"services", .ok, toString facts.activeServices.length ++ " running", ""⟩

def natResult (c : Config) (facts : DoctorFacts) : Option CheckResult :=
  let forward := "forward UDP " ++ c.provider.udpPorts.val ++ " on the router to this box"
  if c.provider.enabled = false ∨ (facts.nat = "" ∧ facts.natError = "") then none
  else if facts.natError ≠ "" then
    some ⟨"nat", .warn, "the node could not tell: " ++ facts.natError,
      "vibedpn logs myst-provider"⟩
  else if natOpen.contains facts.nat then
    some ⟨"nat", .ok, facts.nat ++ ": consumers reach the node directly", ""⟩
  else if natPunchable.contains facts.nat then
    some ⟨"nat", .ok, facts.nat ++ ": reachable through hole punching; " ++ forward ++
      " for more sessions", ""⟩
  else if facts.nat = natSymmetric then
    some ⟨"nat", .warn, "symmetric: hole punching fails, consumers rarely reach the node",
      forward⟩
  else some ⟨"nat", .warn, "unknown NAT type " ++ quoted facts.nat ++ " from the node", ""⟩

def gatewayResult (c : Config) (facts : DoctorFacts) : Option CheckResult :=
  match c.network with
  | none => none
  | some network =>
    if network.mode = .gateway then
      match facts.lanAddressSet with
      | none => some ⟨"lan address", .warn,
          "cannot read the addresses of " ++ network.lanInterface, sudoHint⟩
      | some false => some ⟨"lan address", .fail,
          network.lanAddress.str ++ " is not configured on " ++ network.lanInterface,
          "give the LAN interface a static address (docs/manuals/installation.md, gateway)"⟩
      | some true => some ⟨"lan address", .ok,
          network.lanAddress.str ++ " on " ++ network.lanInterface, ""⟩
    else none

def wifiResult (c : Config) (facts : DoctorFacts) : Option CheckResult :=
  match c.network with
  | none => none
  | some network =>
    match network.wifi with
    | none => none
    | some wifi =>
      if facts.lanWireless = some true then
        some ⟨"wifi", .ok, "access point " ++ quoted wifi.ssid.val ++ " on " ++
          network.lanInterface, ""⟩
      else
        some ⟨"wifi", .fail, network.lanInterface ++ " is not a wireless interface",
          "network.wifi needs the radio as network.lan_interface"⟩

def dockerResult (facts : DoctorFacts) : CheckResult :=
  if facts.dockerError ≠ "" then ⟨"docker", .fail, facts.dockerError, ""⟩
  else ⟨"docker", .ok, "daemon reachable", ""⟩

end Doctor

end VibeDPN
