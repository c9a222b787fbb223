import VibeDPN.Lib.Json
import VibeDPN.Config.Model

namespace VibeDPN

open Text Inet

def wgInterface : String := "wg0"

def nodeuiPort : Nat := 4449

def egressComment : String := "vibedpn-egress"

def egressBlockedRanges : List String :=
  ["169.254.0.0/16", "10.0.0.0/8", "172.16.0.0/12", "192.168.0.0/16", "100.64.0.0/10"]

def dports (proto : String) (ports : List Nat) (comment : String) : String :=
  proto ++ " dport \x7b " ++ commaJoin (ports.map toString) ++ " \x7d accept comment \"" ++ comment ++
    "\""

def udpRange (bounds : Nat × Nat) : String := toString bounds.1 ++ "-" ++ toString bounds.2

namespace Fields

def firewallHead : List String :=
  ["# VibeDPN host firewall, role vps. Rendered by core from config.yaml and applied as one",
    "# transaction: `add table` + `delete table` + the whole table make a re-apply land on exactly",
    "# this result (`flush table` would keep set elements, so a changed UDP range would pile up or",
    "# clash). Docker's own tables and chains are untouched; published container ports are DNATed",
    "# in prerouting and go through FORWARD, not through this input chain.",
    "add table inet vibedpn",
    "delete table inet vibedpn",
    "table inet vibedpn \x7b"]

def mystSet (c : Fields) : List String :=
  if c.provider.enabled then
    ["  set myst_udp \x7b",
      "    type inet_service",
      "    flags interval",
      "    elements = \x7b " ++ udpRange c.provider.udpPorts.bounds ++ " \x7d",
      "  \x7d"]
  else []

def tunnelOnly (c : Fields) : List String :=
  match c.wgServer with
  | none => []
  | some server =>
    ["    ip daddr " ++ server.subnet.val.str ++ " iifname != \"" ++ wgInterface ++
      "\" drop comment \"the tunnel subnet only through the tunnel\""]

def wgPort (c : Fields) : List String :=
  match c.wgServer with
  | none => []
  | some server =>
    ["    udp dport " ++ toString server.listenPort.val ++ " accept comment \"wireguard server\""]

def mystPort (c : Fields) : List String :=
  if c.provider.enabled then ["    udp dport @myst_udp accept comment \"mysterium node\""] else []

def tunnelPorts (c : Fields) : List String :=
  match c.wgServer with
  | none => []
  | some _ =>
    ["    iifname \"" ++ wgInterface ++ "\" " ++
      dports "tcp" [nodeuiPort, c.api.port.val] "node panel and core API for home boxes"]

def ownerPorts (proto : String) (ports : List Port) : List String :=
  if ports = [] then [] else ["    " ++ dports proto (ports.map Subtype.val) "owner"]

def inputChain (c : Fields) : List String :=
  ["  chain input \x7b",
    "    type filter hook input priority filter; policy drop;",
    "    ct state established,related accept",
    "    ct state invalid drop",
    "    iif \"lo\" accept"] ++
  c.tunnelOnly ++
  ["    icmp type \x7b echo-request, destination-unreachable, time-exceeded, parameter-problem \x7d accept",
    "    meta l4proto ipv6-icmp accept",
    "    ip6 saddr fe80::/10 ip6 daddr fe80::/10 udp sport 547 udp dport 546 accept comment \"dhcpv6 client\"",
    "    " ++ dports "tcp" (c.firewall.sshPorts.map Subtype.val) "ssh"] ++
  c.wgPort ++ c.mystPort ++ c.tunnelPorts ++ ownerPorts "tcp" c.firewall.allowTcp ++
  ownerPorts "udp" c.firewall.allowUdp ++
  ["  \x7d",
    "\x7d"]

def firewallRuleset (c : Fields) : Option String :=
  if c.role ≠ .vps ∨ c.firewall.enabled = false then none
  else some (lines (firewallHead ++ c.mystSet ++ c.inputChain))

def egressText (subnet : String) : List String :=
  ["# VibeDPN tunnel egress, role vps: home boxes leave for the internet through this VPS.",
    "# Rendered by core from config.yaml at every start, independent of firewall.enabled, and",
    "# applied as one transaction (`add table` + `delete table` + the whole table). The chains",
    "# accept by default: other forwarding of the host is not ours to judge. An accept here does not",
    "# override a drop in another table — Docker's FORWARD policy drop is opened by core in the",
    "# DOCKER-USER chain, see engine/router.py.",
    "add table inet vibedpn_egress",
    "delete table inet vibedpn_egress",
    "table inet vibedpn_egress \x7b",
    "  chain forward \x7b",
    "    type filter hook forward priority filter; policy accept;",
    "    iifname \"" ++ wgInterface ++ "\" tcp flags syn tcp option maxseg size set rt mtu comment" ++
      " \"peers have a smaller MTU than the internet: clamp MSS\"",
    "    oifname \"" ++ wgInterface ++ "\" tcp flags syn tcp option maxseg size set rt mtu comment" ++
      " \"and the replies into the tunnel\"",
    "    ip saddr " ++ subnet ++ " iifname != \"" ++ wgInterface ++
      "\" drop comment \"tunnel addresses come only from the tunnel\"",
    "    ip daddr " ++ subnet ++ " oifname \"" ++ wgInterface ++
      "\" ct state != \x7b established, related \x7d drop comment" ++
      " \"the internet opens nothing into the tunnel\"",
    "    ip saddr " ++ subnet ++
      " oifname \"docker0\" drop comment \"peers never reach containers directly\"",
    "    ip saddr " ++ subnet ++
      " oifname \"br-*\" drop comment \"peers never reach containers directly\"",
    "    ip saddr " ++ subnet ++ " oifname != \"" ++ wgInterface ++ "\" ip daddr \x7b " ++
      commaJoin egressBlockedRanges ++
      " \x7d drop comment \"internet only: no cloud metadata, VPC or CGNAT\"",
    "  \x7d",
    "  chain postrouting \x7b",
    "    type nat hook postrouting priority srcnat; policy accept;",
    "    ip saddr " ++ subnet ++ " oifname != \"" ++ wgInterface ++
      "\" masquerade comment \"peers leave as the VPS address\"",
    "  \x7d",
    "\x7d"]

def egressRuleset (c : Fields) : Option String :=
  match c.wgServer with
  | none => none
  | some server =>
    if c.role ≠ .vps then none else some (lines (egressText server.subnet.val.str))

def dockerUserRules (c : Fields) : List (List String) :=
  match c.wgServer with
  | none => []
  | some server =>
    if c.role ≠ .vps then []
    else
      let subnet := server.subnet.val.str
      let comment := ["-m", "comment", "--comment", egressComment]
      [["-s", subnet, "-i", wgInterface, "!", "-o", wgInterface] ++ comment ++ ["-j", "ACCEPT"],
        ["-d", subnet, "!", "-i", wgInterface, "-o", wgInterface, "-m", "conntrack", "--ctstate",
          "RELATED,ESTABLISHED"] ++ comment ++ ["-j", "ACCEPT"]]

end Fields

end VibeDPN
