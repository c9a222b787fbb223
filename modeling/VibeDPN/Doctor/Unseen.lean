import VibeDPN.Doctor.Parts
import VibeDPN.Lib.Runs

namespace VibeDPN

open Text

namespace Doctor

-- a value that was not collected may be anything
def Fills {Value : Type} (a b : Option Value) : Prop := ∀ v ∈ a, v ∈ b

def FillsMap (d e : Dict String (Option Bool)) : Prop := ∀ key, Fills (seen d key) (seen e key)

structure FillsFile (a b : String × FileFact) : Prop where
  name : b.1 = a.1
  present : Fills a.2.present b.2.present
  mode : Fills a.2.mode b.2.mode

structure FillsExit (a b : ExitFact) : Prop where
  name : b.name = a.name
  address : Fills a.address b.address

structure FillsFail2ban (a b : Fail2banFact) : Prop where
  installed : b.installed = a.installed
  jails : b.jails = a.jails
  actions : b.actions = a.actions
  banned : Fills a.banned b.banned
  table : Fills a.table b.table
  error : b.error = a.error

structure FillsUpdates (a b : UpdatesFact) : Prop where
  conf : b.conf = a.conf
  timer : Fills a.timer b.timer

-- the same host, seen better
structure Completes (f g : DoctorFacts) : Prop where
  config : g.config = f.config
  envCurrent : Fills f.envCurrent g.envCurrent
  secrets : FillsMap f.secrets g.secrets
  wireguard : Fills f.wireguard g.wireguard
  nfTables : Fills f.nfTables g.nfTables
  ipForward : Fills f.ipForward g.ipForward
  listeners : Fills f.listeners g.listeners
  isRoot : g.isRoot = f.isRoot
  dockerError : g.dockerError = f.dockerError
  services : g.services = f.services
  activeServices : g.activeServices = f.activeServices
  firewallTable : Fills f.firewallTable g.firewallTable
  tunnel : List.Forall₂ FillsFile f.tunnel g.tunnel
  egressTable : Fills f.egressTable g.egressTable
  dockerUser : Fills f.dockerUser g.dockerUser
  routerTable : Fills f.routerTable g.routerTable
  dnsUplink : Fills f.dnsUplink g.dnsUplink
  routerRules : Fills f.routerRules g.routerRules
  routerDockerUser : Fills f.routerDockerUser g.routerDockerUser
  uplinkRoutes : FillsMap f.uplinkRoutes g.uplinkRoutes
  lastResortRoutes : FillsMap f.lastResortRoutes g.lastResortRoutes
  rpFilter : Fills f.rpFilter g.rpFilter
  lanIpv6 : Fills f.lanIpv6 g.lanIpv6
  exits : ∀ a ∈ f.exits, ∃ b ∈ g.exits, List.Forall₂ FillsExit a b
  memoryBytes : Fills f.memoryBytes g.memoryBytes
  nat : g.nat = f.nat
  natError : g.natError = f.natError
  lanAddressSet : Fills f.lanAddressSet g.lanAddressSet
  lanWireless : Fills f.lanWireless g.lanWireless
  fail2ban : ∀ a ∈ f.fail2ban, ∃ b ∈ g.fail2ban, FillsFail2ban a b
  updates : ∀ a ∈ f.updates, ∃ b ∈ g.updates, FillsUpdates a b
  dpnConnection : g.dpnConnection = f.dpnConnection

def Stands (r s : CheckResult) : Prop := r.verdict ≠ .warn → s.verdict = r.verdict

section Stands

variable {c : Config} {f g : DoctorFacts} {r s : CheckResult}

theorem Stands.refl (r : CheckResult) : Stands r r := fun _ => rfl

-- the modes that were not read turn out open to everyone
def opened (file : String × FileFact) : String × FileFact :=
  (file.1, { file.2 with mode := file.2.mode.or (some 0o077) })

section Exits

variable {a b : List ExitFact} {connection : String}

def answered (fresh : String) (item : ExitFact) : ExitFact :=
  if isDirect item then item else { item with address := item.address.or (some fresh) }

end Exits

theorem Completes.refl (f : DoctorFacts) : Completes f f where
  config := rfl
  envCurrent := fun _ h => h
  secrets := fun _ _ h => h
  wireguard := fun _ h => h
  nfTables := fun _ h => h
  ipForward := fun _ h => h
  listeners := fun _ h => h
  isRoot := rfl
  dockerError := rfl
  services := rfl
  activeServices := rfl
  firewallTable := fun _ h => h
  tunnel := List.forall₂_same.mpr fun _ _ => ⟨rfl, fun _ h => h, fun _ h => h⟩
  egressTable := fun _ h => h
  dockerUser := fun _ h => h
  routerTable := fun _ h => h
  dnsUplink := fun _ h => h
  routerRules := fun _ h => h
  routerDockerUser := fun _ h => h
  uplinkRoutes := fun _ _ h => h
  lastResortRoutes := fun _ _ h => h
  rpFilter := fun _ h => h
  lanIpv6 := fun _ h => h
  exits := fun a h => ⟨a, h, List.forall₂_same.mpr fun _ _ => ⟨rfl, fun _ h => h⟩⟩
  memoryBytes := fun _ h => h
  nat := rfl
  natError := rfl
  lanAddressSet := fun _ h => h
  lanWireless := fun _ h => h
  fail2ban := fun a h => ⟨a, h, rfl, rfl, rfl, fun _ h => h, fun _ h => h, rfl⟩
  updates := fun a h => ⟨a, h, rfl, fun _ h => h⟩
  dpnConnection := rfl

end Stands

end Doctor

end VibeDPN
