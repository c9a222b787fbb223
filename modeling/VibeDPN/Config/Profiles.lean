import VibeDPN.Config.Model

namespace VibeDPN

inductive Profile where
  | provider | consumer | wgServer | wgClient | wgUplink | tor | router | dhcp | wifi | dns | ui
deriving DecidableEq, Repr

def Profile.all : List Profile :=
  [.provider, .consumer, .wgServer, .wgClient, .wgUplink, .tor, .router, .dhcp, .wifi, .dns, .ui]

def Profile.value : Profile → String
  | .provider => "provider"
  | .consumer => "consumer"
  | .wgServer => "wg-server"
  | .wgClient => "wg-client"
  | .wgUplink => "wg-uplink"
  | .tor => "tor"
  | .router => "router"
  | .dhcp => "dhcp"
  | .wifi => "wifi"
  | .dns => "dns"
  | .ui => "ui"

namespace Fields

def wantsProfile (c : Fields) : Profile → Bool
  | .provider => c.provider.enabled
  | .consumer => c.upstreams.dpn.enabled
  | .wgServer => false
  | .wgClient => c.role = .client
  | .wgUplink => c.upstreams.wg.entries ≠ []
  | .tor => c.upstreams.tor.enabled
  | .router => true
  | .dhcp => c.network.any (fun n => n.mode = .gateway)
  | .wifi => c.network.any (fun n => n.wifi.isSome)
  | .dns => c.dns.enabled
  | .ui => c.ui.enabled

def composeProfiles (c : Fields) : List Profile :=
  if c.role = .vps then [.provider, .wgServer] else Profile.all.filter c.wantsProfile

end Fields

def htpasswdFile : String := "htpasswd"
def wgClientConf : String := "wg-client.conf"
def nodeuiPassFile : String := "nodeui-pass"
def uiDbPasswordFile : String := "ui-db-password"
def uiAuthSecretFile : String := "ui-auth-secret"
def adguardCorePasswordFile : String := "adguard-core-password"
def consumerPassphraseFile : String := "myst-consumer-passphrase"
def wifiPassphraseFile : String := "wifi-passphrase"

def uiSecrets : List String := [uiDbPasswordFile, uiAuthSecretFile]
def adguardSecrets : List String := [adguardCorePasswordFile]
def consumerSecrets : List String := [consumerPassphraseFile]
def wifiSecrets : List String := [wifiPassphraseFile]

def knownSecrets : List String :=
  [htpasswdFile, wgClientConf] ++ uiSecrets ++ adguardSecrets ++ consumerSecrets ++ wifiSecrets

namespace Fields

def generatedSecrets (c : Fields) : List String :=
  (if Profile.ui ∈ c.composeProfiles then uiSecrets else []) ++
    (if Profile.dns ∈ c.composeProfiles then adguardSecrets else []) ++
    (if Profile.consumer ∈ c.composeProfiles then consumerSecrets else []) ++
    (if Profile.wifi ∈ c.composeProfiles then wifiSecrets else [])

end Fields

end VibeDPN
