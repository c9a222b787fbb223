import VibeDPN.Atomic

namespace VibeDPN

open Text Inet

structure Peer where
  name : String
  address : IPv4Address
  publicKey : String
  privateKey : String
  created : Nat
  tunnelOnly : Bool := false
deriving DecidableEq

structure Renumbered where
  name : String
  old : IPv4Address
  new : IPv4Address
deriving DecidableEq

def isPeerName (s : String) : Bool :=
  s.toList.length ≤ 32 && s.toList.all isLabelChar && s.toList ≠ [] && s.toList.head? ≠ some '-'

def reservedAddresses : Nat := 3

namespace WgServerConfig

def network (server : WgServerConfig) : IPv4Network := server.subnet.val

def hosts (server : WgServerConfig) : List IPv4Address :=
  (List.range (server.network.numAddresses - 2)).map
    (fun i => server.network.address + BitVec.ofNat 32 (i + 1))

def serverAddress (server : WgServerConfig) : IPv4Address := server.network.address + 1

def renderPeer (peer : Peer) : String :=
  "\n[Peer]\n# " ++ peer.name ++ "\nPublicKey = " ++ peer.publicKey ++ "\nAllowedIPs = " ++
    peer.address.str ++ "/32\n"

def renderServerConf (server : WgServerConfig) (privateKey : String) (peers : List Peer) : String :=
  "# VibeDPN WireGuard server, role vps. Rendered by core from config.yaml at every start;\n" ++
  "# edits here are overwritten. The private key lives in server.key next to this file.\n" ++
  "[Interface]\nAddress = " ++ server.serverAddress.str ++ "/" ++
  toString server.network.prefixlen ++ "\nListenPort = " ++ toString server.listenPort.val ++
  "\nPrivateKey = " ++ privateKey ++ "\n" ++ String.join (peers.map renderPeer)

-- none is the SubnetFullError
def nextAddress (server : WgServerConfig) (peers : List Peer) : Option IPv4Address :=
  server.hosts.find? (fun host => host ∉ server.serverAddress :: peers.map Peer.address)

def belongs (server : WgServerConfig) (a : IPv4Address) : Bool :=
  server.network.contains a &&
    a ∉ [server.network.address, server.network.broadcast, server.serverAddress]

def noRoom (server : WgServerConfig) (count : Nat) : String :=
  "wg_server.subnet " ++ server.network.str ++ " has room for " ++
    toString (server.network.numAddresses - reservedAddresses) ++ " peers, the registry has " ++
    toString count ++ "; choose a wider subnet in config.yaml"

-- the loop of fit_to_subnet: taken grows with every peer moved
def place (server : WgServerConfig) (keptNames : List String) (count : Nat) :
    List Peer → List Peer → Except String (List Peer × List Renumbered)
  | [], _ => .ok ([], [])
  | peer :: rest, taken =>
    if peer.name ∈ keptNames then
      match server.place keptNames count rest taken with
      | .ok (placed, moved) => .ok (peer :: placed, moved)
      | .error e => .error e
    else
      match server.nextAddress taken with
      | none => .error (server.noRoom count)
      | some address =>
        let movedPeer := { peer with address := address }
        match server.place keptNames count rest (taken ++ [movedPeer]) with
        | .ok (placed, moved) =>
          .ok (movedPeer :: placed, ⟨peer.name, peer.address, address⟩ :: moved)
        | .error e => .error e

def fitToSubnet (server : WgServerConfig) (peers : List Peer) :
    Except String (List Peer × List Renumbered) :=
  let kept := peers.filter (fun peer => server.belongs peer.address)
  server.place (kept.map Peer.name) peers.length peers kept

variable (server : WgServerConfig)

theorem subnet_size : 4 ≤ server.network.numAddresses := server.subnet.property

theorem size_le : server.network.numAddresses ≤ 2 ^ 32 := by
  rw [IPv4Network.numAddresses]
  exact Nat.pow_le_pow_right (by omega) (by omega)

theorem block_fits : server.network.address.toNat + server.network.numAddresses ≤ 2 ^ 32 := by
  have hs := server.network.strict
  have hd : 2 ^ 32 = server.network.numAddresses * 2 ^ server.network.prefixlen := by
    rw [IPv4Network.numAddresses, ← Nat.pow_add]
    congr 1
    have := server.network.prefix_le
    omega
  have hlt := server.network.address.isLt
  obtain ⟨k, hk⟩ := Nat.dvd_of_mod_eq_zero hs
  rw [← IPv4Network.numAddresses] at hk
  rw [hk, hd] at hlt ⊢
  have hpos : 0 < server.network.numAddresses := Nat.lt_of_lt_of_le (by omega) server.subnet_size
  have hk' : k < 2 ^ server.network.prefixlen := Nat.lt_of_mul_lt_mul_left hlt
  calc server.network.numAddresses * k + server.network.numAddresses
      = server.network.numAddresses * (k + 1) := by ring
    _ ≤ server.network.numAddresses * 2 ^ server.network.prefixlen :=
        Nat.mul_le_mul_left _ hk'

theorem offset_toNat {i : Nat} (h : i < server.network.numAddresses) :
    (server.network.address + BitVec.ofNat 32 i).toNat = server.network.address.toNat + i := by
  have hb := server.block_fits
  have hs := server.size_le
  rw [BitVec.toNat_add, BitVec.toNat_ofNat, Nat.mod_eq_of_lt (a := i) (by omega),
    Nat.mod_eq_of_lt (by omega)]

theorem contains_offset {i : Nat} (h : i < server.network.numAddresses) :
    server.network.contains (server.network.address + BitVec.ofNat 32 i) = true := by
  have hs := server.network.strict
  rw [IPv4Network.contains, server.offset_toNat h, decide_eq_true_iff, ← IPv4Network.numAddresses]
  obtain ⟨k, hk⟩ := Nat.dvd_of_mod_eq_zero hs
  rw [← IPv4Network.numAddresses] at hk
  have hpos : 0 < server.network.numAddresses := Nat.lt_of_lt_of_le (by omega) server.subnet_size
  rw [hk, Nat.mul_add_div hpos, Nat.div_eq_of_lt h, Nat.mul_div_cancel_left _ hpos, Nat.add_zero]

theorem host_belongs {a : IPv4Address} (ha : a ∈ server.hosts) (hs : a ≠ server.serverAddress) :
    server.belongs a = true := by
  obtain ⟨i, hi, rfl⟩ := List.mem_map.mp ha
  rw [List.mem_range] at hi
  have h4 := server.subnet_size
  rw [belongs, server.contains_offset (by omega), Bool.true_and, decide_eq_true_iff]
  simp only [List.mem_cons, List.not_mem_nil, or_false, not_or]
  refine ⟨fun h => ?_, fun h => ?_, hs⟩
  · have := congrArg BitVec.toNat h
    rw [server.offset_toNat (by omega)] at this
    omega
  · have := congrArg BitVec.toNat h
    rw [server.offset_toNat (by omega), IPv4Network.broadcast, server.offset_toNat (by omega)] at this
    omega

theorem nextAddress_some {peers : List Peer} {a : IPv4Address}
    (h : server.nextAddress peers = some a) :
    server.belongs a = true ∧ a ∉ peers.map Peer.address := by
  have hm := List.mem_of_find?_eq_some h
  have hn := List.find?_some h
  simp only [List.mem_cons, not_or, decide_eq_true_eq] at hn
  exact ⟨server.host_belongs hm hn.1, hn.2⟩

theorem place_ok {server : WgServerConfig} {keptNames : List String} {count : Nat}
    {peers taken placed : List Peer} {moved : List Renumbered}
    (h : server.place keptNames count peers taken = .ok (placed, moved))
    (hin : ∀ p ∈ peers, p.name ∈ keptNames → p.address ∈ taken.map Peer.address)
    (hnodup : (peers.map Peer.address).Nodup) :
    placed.map Peer.name = peers.map Peer.name ∧ (placed.map Peer.address).Nodup ∧
      ∀ p ∈ placed, p ∈ peers ∧ p.name ∈ keptNames ∨
        server.belongs p.address = true ∧ p.address ∉ taken.map Peer.address := by
  induction peers generalizing taken placed moved with
  | nil =>
    cases h
    exact ⟨rfl, List.nodup_nil, fun p hp => absurd hp List.not_mem_nil⟩
  | cons peer rest ih =>
    obtain ⟨hne, hrest⟩ := List.nodup_cons.mp hnodup
    rw [place] at h
    split at h
    · rename_i hk
      split at h
      · rename_i placed' moved' hp
        cases h
        obtain ⟨hn, ha, hall⟩ := ih hp (fun p hp => hin p (List.mem_cons_of_mem _ hp)) hrest
        refine ⟨by rw [List.map_cons, hn, List.map_cons], ?_, ?_⟩
        · rw [List.map_cons, List.nodup_cons]
          refine ⟨fun hm => ?_, ha⟩
          obtain ⟨p, hp, he⟩ := List.mem_map.mp hm
          rcases hall p hp with ⟨hr, -⟩ | ⟨-, hfree⟩
          · exact hne (he ▸ List.mem_map_of_mem hr)
          · exact hfree (he ▸ hin peer List.mem_cons_self hk)
        · intro p hp
          rcases List.mem_cons.mp hp with rfl | hp
          · exact .inl ⟨List.mem_cons_self, hk⟩
          · exact (hall p hp).imp (fun h => ⟨List.mem_cons_of_mem _ h.1, h.2⟩) id
      · cases h
    · split at h
      · cases h
      · rename_i address hnext
        obtain ⟨hb, hfree⟩ := server.nextAddress_some hnext
        simp only at h
        split at h
        · rename_i placed' moved' hp
          cases h
          obtain ⟨hn, ha, hall⟩ := ih hp (fun p hp hk => by
            rw [List.map_append]
            exact List.mem_append_left _ (hin p (List.mem_cons_of_mem _ hp) hk)) hrest
          refine ⟨by rw [List.map_cons, hn, List.map_cons], ?_, ?_⟩
          · rw [List.map_cons, List.nodup_cons]
            refine ⟨fun hm => ?_, ha⟩
            obtain ⟨p, hp, he⟩ := List.mem_map.mp hm
            rcases hall p hp with ⟨hr, hk⟩ | ⟨-, hout⟩
            · have haddr : p.address = address := he
              exact hfree (haddr ▸ hin p (List.mem_cons_of_mem _ hr) hk)
            · exact hout (by rw [he]; simp)
          · intro p hp
            rcases List.mem_cons.mp hp with rfl | hp
            · exact .inr ⟨hb, hfree⟩
            · refine (hall p hp).imp (fun h => ⟨List.mem_cons_of_mem _ h.1, h.2⟩) fun h => ⟨h.1, ?_⟩
              exact fun hm => h.2 (by rw [List.map_append]; exact List.mem_append_left _ hm)
        · cases h

theorem fitToSubnet_ok {server : WgServerConfig} {peers placed : List Peer}
    {moved : List Renumbered} (h : server.fitToSubnet peers = .ok (placed, moved))
    (hnames : (peers.map Peer.name).Nodup) (haddresses : (peers.map Peer.address).Nodup) :
    placed.map Peer.name = peers.map Peer.name ∧ (placed.map Peer.address).Nodup ∧
      ∀ p ∈ placed, server.belongs p.address = true := by
  have hkept : ∀ p ∈ peers, p.name ∈ (peers.filter fun q => server.belongs q.address).map Peer.name →
      p ∈ peers.filter fun q => server.belongs q.address := by
    intro p hp hn
    obtain ⟨q, hq, he⟩ := List.mem_map.mp hn
    have hqp := List.inj_on_of_nodup_map hnames (List.mem_filter.mp hq).1 hp he
    exact hqp ▸ hq
  obtain ⟨hn, ha, hall⟩ := place_ok h
    (fun p hp hk => List.mem_map_of_mem (hkept p hp hk)) haddresses
  refine ⟨hn, ha, fun p hp => ?_⟩
  rcases hall p hp with ⟨hm, hk⟩ | ⟨hb, -⟩
  · exact (List.mem_filter.mp (hkept p hm hk)).2
  · exact hb

end WgServerConfig

end VibeDPN
