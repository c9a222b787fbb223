import VibeDPN.Doctor.Checks
import VibeDPN.Lib.Reports

namespace VibeDPN

open Text

namespace Doctor

def places : List String :=
  ["config", "env", "secrets", "wireguard", "nf_tables", "ip_forward", "fail2ban", "updates",
    "firewall", "tunnel", "tunnel access", "tunnel egress", "router", "ipv6", "vps lan access",
    "ui name", "ui variant", "exit", "dns leak", "nat", "lan address", "wifi", "docker", "port",
    "services"]

-- where a check stands in a report: the checks of the exits and of the ports share their places
def home (name : String) : Nat :=
  if startsWith name "exit " then places.idxOf "exit"
  else if startsWith name "port " then places.idxOf "port"
  else if name = "ssh" then places.idxOf "firewall"
  else places.idxOf name

def lanExits (f : DoctorFacts) : List CheckResult :=
  match f.exits with
  | some exits => exitResults exits f.dpnConnection
  | none => []

def lanLeak (c : Config) (f : DoctorFacts) : Option CheckResult :=
  f.exits.bind fun _ => dnsLeakResult c f.dnsUplink

def whenVps (c : Config) (part : List CheckResult) : List CheckResult :=
  if c.role = .vps then part else []

def whenLan (c : Config) (part : List CheckResult) : List CheckResult :=
  if c.network.isSome then part else []

def parts (c : Config) (f : DoctorFacts) : List (List CheckResult) :=
  [[configResult c], [envResult f.envCurrent], [secretsResult c f.secrets],
    [wireguardResult (some c) f.wireguard],
    [moduleResult "nf_tables" f.nfTables "the router engine and Docker need it"],
    [ipForwardResult f.ipForward], [fail2banResult f.fail2ban], [updatesResult f.updates],
    whenVps c (firewallResults c f),
    whenVps c (if f.tunnel ≠ [] then [tunnelResult f.tunnel] else []),
    whenVps c (tunnelAccessResult c f).toList,
    whenVps c (c.wgServer.map fun server => egressResult server f).toList,
    whenLan c [routerResult c f], whenLan c (lanIpv6Result c f).toList,
    whenLan c (if c.upstreams.vps.enabled then [vpsLanAccessResult c] else []),
    whenLan c (if c.ui.enabled then [uiNameResult c] else []),
    whenLan c (if c.ui.enabled then (uiVariantResult c f.memoryBytes).toList else []),
    whenLan c (lanExits f), whenLan c (lanLeak c f).toList,
    (natResult c f).toList, (gatewayResult c f).toList, (wifiResult c f).toList,
    [dockerResult f], portResults c f, if f.dockerError = "" then [serviceResults f] else []]

section Names

variable {c : Config} {f : DoctorFacts} {r : CheckResult}

end Names

end Doctor

end VibeDPN
