import VibeDPN.Bootstrap.Build
import VibeDPN.Config.Digests
import VibeDPN.Engine.Adguard
import VibeDPN.Lib.Quoted

namespace VibeDPN

open Text Inet Yaml

def tojsonBool (b : Bool) : String := if b then "true" else "false"

def tojsonPorts (ports : List Port) : String :=
  "[" ++ commaJoin (ports.map (toString ·.val)) ++ "]"

def tojsonNames (names : List DomainName) : String :=
  "[" ++ commaJoin (names.map (tojson ·.val)) ++ "]"

def given {α : Type} (value : Option α) (lines : α → List String) : List String :=
  match value with
  | some a => lines a
  | none => []

def listed {α : Type} (opening : String) (items : List α) (lines : α → List String)
    (empty : List String) : List String :=
  if items ≠ [] then opening :: items.flatMap lines else empty

def introLines : List String := [
  "# VibeDPN — config.yaml",
  "#",
  "# Единственный источник правды о коробке. `vibedpn init` пишет этот файл сам; править руками",
  "# можно, после правки — `vibedpn up`. Секретов здесь нет: пароль UI, ключи WireGuard и",
  "# keystore ноды лежат в secrets/ и data/, переменные Compose — в .env.",
  "#",
  "# Полная спека формата с образцами для всех ролей — docs/manuals/configSpec.md; какая роль что",
  "# запускает — docs/roles.md.",
  ""]

def roleHelp : List String := [
  "",
  "# Роль коробки: home | vps | client."]

def networkHelp : List String := [
  "",
  "# Сеть коробки. `init` определяет интерфейс, адрес и подсеть сам.",
  "# mode: sidecar — коробка стоит в существующей LAN одним портом;",
  "#       gateway — «в разрыв», WAN + LAN двумя портами (Stage 9), тогда нужен wan_interface.",
  "# lan_address: адрес коробки в LAN, на нём слушают ui и dns — закрепите его на роутере."]

def gatewayHelp : List String := [
  "  # gateway — коробка «в разрыв» (docs/manuals/installation.md): WAN к провайдеру, LAN к устройствам,",
  "  # сама раздаёт адреса; адрес lan_address на LAN-интерфейсе назначает система.",
  "  # Проще всего — `sudo vibedpn init --force --lan-interface <имя>`; пароль Wi-Fi — secrets/wifi-passphrase.",
  "  # mode: gateway",
  "  # lan_interface: wlan0",
  "  # lan_subnet: 192.168.50.0/24",
  "  # lan_address: 192.168.50.1",
  "  # wan_interface: enp1s0",
  "  # dhcp:",
  "  #   range_start: 192.168.50.100",
  "  #   range_end: 192.168.50.249",
  "  #   lease: 12h",
  "  # wifi:",
  "  #   ssid: \"Home\"",
  "  #   country: DE",
  "  #   band: \"2.4\"",
  "  #   channel: 6",
  "  #   security: wpa2-wpa3"]

def dhcpHelp : List String := [
  "  # DHCP коробки в LAN (dnsmasq): кого раздаёт и на сколько; адрес коробки в диапазон не входит."]

def wifiHelp : List String := [
  "  # Точка доступа Wi-Fi на lan_interface. Пароль сети — secrets/wifi-passphrase (`sudo vibedpn wifi show`).",
  "  # band: 2.4 | 5; channel — в пределах диапазона; security: wpa2-wpa3 (подключатся и старые устройства) | wpa3."]

def routingHelp : List String := [
  "",
  "# Политика для трафика LAN.",
  "# mode: off — всё напрямую; full — всё через default_upstream;",
  "#       smart — по правилам domains, остальное напрямую; устройства с политикой — как в full.",
  "# default_upstream: vps | dpn | tor | wg-<имя> — куда идёт трафик в full; у роли home есть dpn",
  "#   и собственные выходы по файлу WireGuard из upstreams.wg (имя берётся оттуда).",
  "# failopen: false — упал аплинк, трафик стоит (kill-switch); true — уходит напрямую, осознанно.",
  "# domains: правила режима smart. Домен покрывает поддомены; via: vps | dpn | tor | direct;",
  "#   country — страна выхода для dpn; learn — CDN, которые сайт вызывает, идут за ним сами;",
  "#   also — CDN, закреплённые за сайтом вручную.",
  "# lists: готовые списки сайтов по URL — у каждого домена списка канал списка (via, country);",
  "#   ядро скачивает список, хранит копию и обновляет раз в сутки; правило domains сильнее списка.",
  "# networks: сети адресов (a.b.c.d/nn) для приложений, которые ходят по адресу, а не по имени —",
  "#   Telegram; канал тот же (via, country, uplink), сеть direct сильнее сети через выход."]

def noDomains : List String := [
  "  domains: []",
  "  # domains:",
  "  #   - domain: kinopoisk.ru",
  "  #     via: dpn",
  "  #     country: DE",
  "  #   - domain: bank.example",
  "  #     via: direct"]

def noLists : List String := [
  "  lists: []",
  "  # lists:",
  "  #   - url: https://example.org/blocked-in-my-country.txt",
  "  #     via: vps"]

def noNetworks : List String := [
  "  networks: []",
  "  # networks:",
  "  #   - network: 149.154.160.0/20",
  "  #     via: tor"]

def devicesHelp : List String := [
  "",
  "# Устройства LAN с собственной политикой поверх routing.mode: vps | dpn | tor | bypass | block.",
  "# Идентификация по MAC, IP — запасной вариант."]

def noDevices : List String := [
  "devices: []",
  "# devices:",
  "#   - name: TV",
  "#     mac: aa:bb:cc:dd:ee:01",
  "#     policy: bypass",
  "#   - name: Laptop",
  "#     ip: 192.168.1.42",
  "#     policy: dpn"]

def upstreamsHelp : List String := [
  "",
  "# Аплинки — куда коробка может отправлять трафик.",
  "# vps: приватный WireGuard-туннель к своей VPS (только роль client; peer-файл — secrets/wg-client.conf).",
  "# dpn: consumer Mysterium — выход через ноду сети; country — ISO 3166-1 alpha-2, без строки — любая.",
  "# wg: свои выходы по готовому файлу WireGuard (бесплатный тариф, платный поставщик, вторая коробка);",
  "#   имя становится файлом secrets/wg-<имя>.conf, контейнером wg-<имя> и ключом маршрутизации."]

def lanAccessHelp : List String := [
  "    # Пускать ли устройства LAN к панели ноды и API ядра VPS через туннель (по умолчанию закрыто)."]

def noCountry : List String := [
  "    # country: DE"]

def noWg : List String := [
  "  # Свои выходы по готовому файлу WireGuard: имя -> настройки, файл в secrets/wg-<имя>.conf.",
  "  # Подключается командой `vibedpn uplink add <имя> <файл.conf>` (docs/manuals/wgUplink.md).",
  "  # wg:",
  "  #   proton:",
  "  #     enabled: true"]

def torHelp : List String := [
  "  # Бесплатный выход через Tor по мостам Snowflake: без регистрации и оплаты, только TCP.",
  "  # Включается командой `vibedpn tor enable` (docs/manuals/torUplink.md). Список мостов по умолчанию —",
  "  # встроенные мосты Snowflake из Tor Browser; свои строки мостов — в bridges."]

def providerHelp : List String := [
  "",
  "# Нода Mysterium (provider): раздаём канал, получаем MYST.",
  "# udp_ports: UDP-диапазон ноды, пробросить на роутере; traversal: порядок обхода NAT."]

def wgServerHelp : List String := [
  "",
  "# Сервер приватного туннеля (роль vps): домашние коробки набирают endpoint:listen_port."]

def firewallHelp : List String := [
  "",
  "# Файрвол VPS (nftables, таблица inet vibedpn, на вход всё закрыто, кроме перечисленного):",
  "# ssh_ports — порты sshd (init читает их из sshd_config; убрать все — запереть себя),",
  "# allow_tcp / allow_udp — другие сервисы владельца на этой же VPS."]

def dnsHelp : List String := [
  "",
  "# DNS и адблок: AdGuard Home на порту 53 LAN-адреса; upstreams — DNS-over-HTTPS."]

def uiHelp : List String := [
  "",
  "# Веб-интерфейс коробки, только на LAN-адресе."]

def hostNameHelp : List String := [
  "  # Имя, по которому устройства открывают панель: AdGuard отвечает на него адресом коробки."]

def variantHelp : List String := [
  "  # full — N100 и мощнее; lite — Raspberry Pi: без фоновых задач и с маленьким Postgres (docs/uiVariants.md)."]

def languageHelp : List String := [
  "  # Язык панели по умолчанию: ru, en или код своего файла data/ui/locales/<код>.json; браузер может выбрать другой."]

def apiHelp : List String := [
  "",
  "# API ядра: слушает только 127.0.0.1, на LAN его отдаёт панель ui под /api/core/ только после входа."]

def WifiConfig.lines (w : WifiConfig) : List String :=
  wifiHelp ++ [
    "  wifi:",
    "    ssid: " ++ tojson w.ssid.val,
    "    country: " ++ w.country.val,
    "    band: \"" ++ w.band.value ++ "\"",
    "    channel: " ++ toString w.channel,
    "    security: " ++ w.security.value]

def NetworkSection.dhcpLines (n : NetworkSection) : List String :=
  if n.mode = .gateway then
    dhcpHelp ++ [
      "  dhcp:",
      "    range_start: " ++ n.dhcpPool.1.str,
      "    range_end: " ++ n.dhcpPool.2.str,
      "    lease: " ++ (match n.dhcp with
        | some dhcp => dhcp.lease.val
        | none => "12h")]
  else []

def NetworkSection.lines (n : NetworkSection) : List String :=
  networkHelp ++ [
    "network:",
    "  mode: " ++ n.mode.value,
    "  lan_interface: " ++ n.lanInterface,
    "  lan_subnet: " ++ n.lanSubnet.str,
    "  lan_address: " ++ n.lanAddress.str] ++
  given n.wanInterface (fun wan => ["  wan_interface: " ++ wan]) ++
  (if n.mode ≠ .gateway then gatewayHelp else []) ++
  n.dhcpLines ++
  given n.wifi WifiConfig.lines

def DomainChannel.lines (item : DomainChannel) : List String :=
  ["      via: " ++ item.via.value] ++
  given item.country (fun country => ["      country: " ++ country.val]) ++
  given item.uplink (fun uplink => ["      uplink: " ++ uplink.val])

def DomainRule.lines (rule : DomainRule) : List String :=
  ["    - domain: " ++ rule.domain.val] ++
  rule.toDomainChannel.lines ++
  (if rule.learn then [] else ["      learn: false"]) ++
  (if rule.also ≠ [] then ["      also: " ++ tojsonNames rule.also] else [])

def DomainList.lines (item : DomainList) : List String :=
  ["    - url: " ++ tojson item.url.val] ++ item.toDomainChannel.lines

def NetworkRule.lines (item : NetworkRule) : List String :=
  ["    - network: " ++ item.network.str] ++ item.toDomainChannel.lines

def RoutingConfig.lines (r : RoutingConfig) : List String :=
  routingHelp ++ [
    "routing:",
    "  mode: " ++ r.mode.value,
    "  default_upstream: " ++ r.defaultUpstream.val,
    "  failopen: " ++ tojsonBool r.failopen] ++
  listed "  domains:" r.domains DomainRule.lines noDomains ++
  listed "  lists:" r.lists DomainList.lines noLists ++
  listed "  networks:" r.networks NetworkRule.lines noNetworks

def DeviceConfig.lines (device : DeviceConfig) : List String :=
  ["  - name: " ++ tojson device.name.val] ++
  given device.mac (fun mac => ["    mac: " ++ mac.val]) ++
  given device.ip (fun ip => ["    ip: " ++ ip.str]) ++
  ["    policy: " ++ device.policy.value]

def devicesLines (devices : List DeviceConfig) : List String :=
  devicesHelp ++ listed "devices:" devices DeviceConfig.lines noDevices

def wgUplinkLines (item : WgName × WgUplink) : List String :=
  ["    " ++ item.1.val ++ ":", "      enabled: " ++ tojsonBool item.2.enabled]

def sortedWg (wg : Dict WgName WgUplink) : List (WgName × WgUplink) :=
  wg.entries.insertionSort (fun a b => a.1.val ≤ b.1.val)

-- the bridges of tor are the built-in ones, which are not written
def UpstreamsConfig.lines (u : UpstreamsConfig) : List String :=
  upstreamsHelp ++ [
    "upstreams:",
    "  vps:",
    "    enabled: " ++ tojsonBool u.vps.enabled] ++
  lanAccessHelp ++ [
    "    lan_access: " ++ tojsonBool u.vps.lanAccess,
    "  dpn:",
    "    enabled: " ++ tojsonBool u.dpn.enabled] ++
  (match u.dpn.country with
    | some country => ["    country: " ++ country.val]
    | none => noCountry) ++
  listed "  wg:" (sortedWg u.wg) wgUplinkLines noWg ++
  torHelp ++ [
    "  tor:",
    "    enabled: " ++ tojsonBool u.tor.enabled]

def ProviderConfig.lines (p : ProviderConfig) : List String :=
  providerHelp ++ [
    "provider:",
    "  enabled: " ++ tojsonBool p.enabled,
    "  udp_ports: \"" ++ p.udpPorts.val ++ "\"",
    "  traversal: [" ++ commaJoin (p.traversal.map Traversal.value) ++ "]"]

def WgServerConfig.lines (s : WgServerConfig) : List String :=
  wgServerHelp ++ [
    "wg_server:",
    "  endpoint: " ++ s.endpoint.val,
    "  subnet: " ++ s.subnet.val.str,
    "  listen_port: " ++ toString s.listenPort.val]

def FirewallConfig.lines (f : FirewallConfig) : List String :=
  firewallHelp ++ [
    "firewall:",
    "  enabled: " ++ tojsonBool f.enabled,
    "  ssh_ports: " ++ tojsonPorts f.sshPorts,
    "  allow_tcp: " ++ tojsonPorts f.allowTcp,
    "  allow_udp: " ++ tojsonPorts f.allowUdp]

def DnsConfig.lines (d : DnsConfig) : List String :=
  dnsHelp ++ [
    "dns:",
    "  enabled: " ++ tojsonBool d.enabled,
    "  upstreams:"] ++
  d.upstreams.map ("    - " ++ ·.val) ++ [
    "  web_port: " ++ toString d.webPort.val]

def UiConfig.lines (u : UiConfig) : List String :=
  uiHelp ++ [
    "ui:",
    "  enabled: " ++ tojsonBool u.enabled,
    "  port: " ++ toString u.port.val] ++
  hostNameHelp ++ [
    "  host_name: " ++ u.hostName.val] ++
  variantHelp ++ [
    "  variant: " ++ u.variant.value] ++
  languageHelp ++ [
    "  language: " ++ u.language.val]

def ApiConfig.lines (a : ApiConfig) : List String :=
  apiHelp ++ [
    "api:",
    "  port: " ++ toString a.port.val]

def headLines (role : Role) : List String :=
  introLines ++ ["version: 1"] ++ roleHelp ++ ["role: " ++ role.value]

namespace Fields

def renderLines (config : Fields) : List String :=
  let lan := config.role ≠ .vps
  headLines config.role ++
  (if lan then
    given config.network (fun network => network.lines) ++
    given config.routing RoutingConfig.lines ++
    devicesLines config.devices ++
    config.upstreams.lines
  else []) ++
  config.provider.lines ++
  given config.wgServer WgServerConfig.lines ++
  (if lan then [] else config.firewall.lines) ++
  (if lan then config.dns.lines ++ config.ui.lines else []) ++
  config.api.lines

def renderConfig (config : Fields) : String := Text.lines config.renderLines

end Fields

end VibeDPN
