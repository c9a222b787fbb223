import VibeDPN.Engine.WgRegistry

namespace VibeDPN

open Text Inet

def renumbered (peers placed : List Peer) : List Renumbered :=
  ((peers.zip placed).filter (fun pair => pair.1.address ≠ pair.2.address)).map
    (fun pair => ⟨pair.1.name, pair.1.address, pair.2.address⟩)

theorem renumbered_kept {p q : Peer} (h : q.address = p.address) (peers placed : List Peer) :
    renumbered (p :: peers) (q :: placed) = renumbered peers placed := by
  rw [renumbered, List.zip_cons_cons, List.filter_cons_of_neg (by simpa using h.symm), renumbered]

theorem renumbered_moved {p q : Peer} (h : p.address ≠ q.address) (peers placed : List Peer) :
    renumbered (p :: peers) (q :: placed) =
      ⟨p.name, p.address, q.address⟩ :: renumbered peers placed := by
  rw [renumbered, List.zip_cons_cons, List.filter_cons_of_pos (by simpa using h), List.map_cons,
    renumbered]

namespace WgServerConfig

def Usable (server : WgServerConfig) (a : IPv4Address) : Prop :=
  a ∈ server.hosts ∧ a ≠ server.serverAddress

variable (server : WgServerConfig)

theorem contains_iff {a : IPv4Address} : server.network.contains a = true ↔
    ∃ i < server.network.numAddresses, a = server.network.address + BitVec.ofNat 32 i := by
  constructor
  · intro h
    have hs := server.network.strict
    have hb := server.block_fits
    rw [IPv4Network.contains, decide_eq_true_iff, ← IPv4Network.numAddresses] at h
    rw [← IPv4Network.numAddresses] at hs
    have hpos : 0 < server.network.numAddresses :=
      Nat.lt_of_lt_of_le (by omega) server.subnet_size
    have hmod : a.toNat % server.network.numAddresses < server.network.numAddresses :=
      Nat.mod_lt _ hpos
    refine ⟨a.toNat % server.network.numAddresses, hmod, ?_⟩
    apply BitVec.eq_of_toNat_eq
    rw [server.offset_toNat hmod]
    have ha := Nat.div_add_mod a.toNat server.network.numAddresses
    have hn := Nat.div_add_mod server.network.address.toNat server.network.numAddresses
    rw [h] at ha
    omega
  · rintro ⟨i, hi, rfl⟩
    exact server.contains_offset hi

theorem belongs_iff {a : IPv4Address} : server.belongs a = true ↔ server.Usable a := by
  constructor
  · intro h
    rw [belongs, Bool.and_eq_true, server.contains_iff, decide_eq_true_iff] at h
    obtain ⟨⟨i, hi, rfl⟩, hout⟩ := h
    simp only [List.mem_cons, List.not_mem_nil, or_false, not_or] at hout
    obtain ⟨hfirst, hlast, hserver⟩ := hout
    have h0 : i ≠ 0 := by
      rintro rfl
      exact hfirst (by simp)
    have hl : i ≠ server.network.numAddresses - 1 := by
      rintro rfl
      exact hlast rfl
    refine ⟨List.mem_map.mpr ⟨i - 1, List.mem_range.mpr (by omega), ?_⟩, hserver⟩
    rw [Nat.sub_add_cancel (Nat.one_le_iff_ne_zero.mpr h0)]
  · rintro ⟨ha, hs⟩
    exact server.host_belongs ha hs

theorem hosts_nodup : server.hosts.Nodup := by
  refine List.Nodup.map_on ?_ List.nodup_range
  intro i hi j hj h
  rw [List.mem_range] at hi hj
  have ht := congrArg BitVec.toNat h
  rw [server.offset_toNat (by omega), server.offset_toNat (by omega)] at ht
  omega

theorem server_mem_hosts : server.serverAddress ∈ server.hosts := by
  have h4 := server.subnet_size
  exact List.mem_map.mpr ⟨0, List.mem_range.mpr (by omega), rfl⟩

theorem hosts_length : server.hosts.length = server.network.numAddresses - 2 := by
  rw [hosts, List.length_map, List.length_range]

-- the server takes one host, so one less than the hosts is what peers may have
theorem usable_length {addresses : List IPv4Address} (hnodup : addresses.Nodup)
    (h : ∀ a ∈ addresses, server.Usable a) :
    addresses.length ≤ server.network.numAddresses - 3 := by
  have hn : (server.serverAddress :: addresses).Nodup :=
    List.nodup_cons.mpr ⟨fun hm => (h _ hm).2 rfl, hnodup⟩
  have hsub : server.serverAddress :: addresses ⊆ server.hosts := by
    intro a ha
    rcases List.mem_cons.mp ha with rfl | ha
    · exact server.server_mem_hosts
    · exact (h a ha).1
  have hle := (List.subperm_of_subset hn hsub).length_le
  rw [List.length_cons, server.hosts_length] at hle
  omega

theorem nextAddress_isSome {taken : List Peer}
    (h : taken.length < server.network.numAddresses - 3) :
    ∃ a, server.nextAddress taken = some a := by
  cases hn : server.nextAddress taken with
  | some a => exact ⟨a, rfl⟩
  | none =>
    have hsub : server.hosts ⊆ server.serverAddress :: taken.map Peer.address := by
      intro a ha
      have hf := List.find?_eq_none.mp hn a ha
      simpa [or_iff_not_imp_left] using hf
    have hle := (List.subperm_of_subset server.hosts_nodup hsub).length_le
    rw [List.length_cons, List.length_map, server.hosts_length] at hle
    omega

theorem place_succeeds {keptNames : List String} {count : Nat} {peers taken : List Peer}
    (h : taken.length + (peers.filter (fun p => p.name ∉ keptNames)).length ≤
      server.network.numAddresses - 3) :
    ∃ r, server.place keptNames count peers taken = .ok r := by
  induction peers generalizing taken with
  | nil => exact ⟨_, rfl⟩
  | cons peer rest ih =>
    rw [place]
    by_cases hk : peer.name ∈ keptNames
    · rw [List.filter_cons_of_neg (by simpa using hk)] at h
      obtain ⟨r, hr⟩ := ih h
      rw [if_pos hk, hr]
      exact ⟨_, rfl⟩
    · rw [List.filter_cons_of_pos (by simpa using hk), List.length_cons] at h
      have hlt : taken.length < server.network.numAddresses - 3 := by omega
      obtain ⟨address, ha⟩ := server.nextAddress_isSome hlt
      have hrest : (taken ++ [{ peer with address := address }]).length +
          (rest.filter (fun p => p.name ∉ keptNames)).length ≤
          server.network.numAddresses - 3 := by
        rw [List.length_append, List.length_singleton]
        omega
      obtain ⟨r, hr⟩ := ih hrest
      rw [if_neg hk, ha]
      simp only [hr]
      exact ⟨_, rfl⟩

def Moved (server : WgServerConfig) (p q : Peer) : Prop :=
  q = { p with address := q.address } ∧ (server.Usable p.address → q.address = p.address) ∧
    server.Usable q.address

theorem place_moves {keptNames : List String} {count : Nat} {peers taken placed : List Peer}
    {moved : List Renumbered}
    (hk : ∀ p ∈ peers, p.name ∈ keptNames ↔ server.Usable p.address)
    (h : server.place keptNames count peers taken = .ok (placed, moved)) :
    List.Forall₂ server.Moved peers placed ∧ moved = renumbered peers placed := by
  induction peers generalizing taken placed moved with
  | nil =>
    cases h
    exact ⟨.nil, rfl⟩
  | cons peer rest ih =>
    have hk' : ∀ p ∈ rest, p.name ∈ keptNames ↔ server.Usable p.address :=
      fun p hp => hk p (List.mem_cons_of_mem _ hp)
    rw [place] at h
    split at h
    · rename_i hname
      have hu := (hk peer List.mem_cons_self).mp hname
      split at h
      · rename_i placed' moved' hp
        cases h
        obtain ⟨hall, rfl⟩ := ih hk' hp
        exact ⟨.cons ⟨rfl, fun _ => rfl, hu⟩ hall, (renumbered_kept rfl rest placed').symm⟩
      · cases h
    · rename_i hname
      have hu : ¬ server.Usable peer.address := fun hu =>
        hname ((hk peer List.mem_cons_self).mpr hu)
      split at h
      · cases h
      · rename_i address hnext
        have ha := server.belongs_iff.mp (server.nextAddress_some hnext).1
        simp only at h
        split at h
        · rename_i placed' moved' hp
          cases h
          obtain ⟨hall, rfl⟩ := ih hk' hp
          refine ⟨.cons ⟨rfl, fun h => absurd h hu, ha⟩ hall, ?_⟩
          have hne : peer.address ≠ address := fun he => hu (he ▸ ha)
          exact (renumbered_moved (q := { peer with address := address }) hne rest placed').symm
        · cases h

theorem place_settled {keptNames : List String} {count : Nat} {peers taken : List Peer}
    (hk : ∀ p ∈ peers, p.name ∈ keptNames) :
    server.place keptNames count peers taken = .ok (peers, []) := by
  induction peers with
  | nil => rfl
  | cons peer rest ih =>
    rw [place, if_pos (hk peer List.mem_cons_self),
      ih (fun p hp => hk p (List.mem_cons_of_mem _ hp))]

theorem kept_names_iff {peers : List Peer} (hnames : (peers.map Peer.name).Nodup) :
    ∀ p ∈ peers, p.name ∈ (peers.filter fun q => server.belongs q.address).map Peer.name ↔
      server.Usable p.address := by
  intro p hp
  rw [← server.belongs_iff, List.mem_map]
  constructor
  · rintro ⟨q, hq, he⟩
    obtain ⟨hq, hb⟩ := List.mem_filter.mp hq
    exact List.inj_on_of_nodup_map hnames hq hp he ▸ hb
  · intro hb
    exact ⟨p, List.mem_filter.mpr ⟨hp, hb⟩, rfl⟩

theorem fitToSubnet_succeeds {peers : List Peer} (hnames : (peers.map Peer.name).Nodup)
    (h : peers.length ≤ server.network.numAddresses - 3) :
    ∃ r, server.fitToSubnet peers = .ok r := by
  refine server.place_succeeds ?_
  have hmove : peers.filter (fun p => p.name ∉
      (peers.filter fun q => server.belongs q.address).map Peer.name) =
      peers.filter (fun p => !server.belongs p.address) := by
    refine List.filter_congr (fun p hp => ?_)
    rw [Bool.eq_iff_iff, decide_eq_true_iff, server.kept_names_iff hnames p hp, Bool.not_eq_true',
      ← server.belongs_iff, Bool.not_eq_true]
  have hlen := List.length_eq_length_filter_add (l := peers) (fun p => server.belongs p.address)
  rw [hmove]
  omega

theorem fitToSubnet_settled {peers : List Peer} (h : ∀ p ∈ peers, server.Usable p.address) :
    server.fitToSubnet peers = .ok (peers, []) := by
  refine server.place_settled (fun p hp => List.mem_map_of_mem (List.mem_filter.mpr ⟨hp, ?_⟩))
  exact server.belongs_iff.mpr (h p hp)

theorem peers_refit {peers : List Peer} (hnames : (peers.map Peer.name).Nodup)
    (haddresses : (peers.map Peer.address).Nodup) :
    ((∃ r, server.fitToSubnet peers = .ok r) ↔
      peers.length ≤ server.network.numAddresses - 3) ∧
    ∀ placed moved, server.fitToSubnet peers = .ok (placed, moved) →
      List.Forall₂ server.Moved peers placed ∧ (placed.map Peer.address).Nodup ∧
        moved = renumbered peers placed ∧ server.fitToSubnet placed = .ok (placed, []) := by
  have hok : ∀ placed moved, server.fitToSubnet peers = .ok (placed, moved) →
      List.Forall₂ server.Moved peers placed ∧ (placed.map Peer.address).Nodup ∧
        moved = renumbered peers placed ∧ server.fitToSubnet placed = .ok (placed, []) := by
    intro placed moved h
    obtain ⟨hall, hmoved⟩ := server.place_moves (server.kept_names_iff hnames) h
    obtain ⟨-, hnodup, hbelongs⟩ := fitToSubnet_ok h hnames haddresses
    exact ⟨hall, hnodup, hmoved,
      server.fitToSubnet_settled (fun p hp => server.belongs_iff.mp (hbelongs p hp))⟩
  refine ⟨⟨?_, server.fitToSubnet_succeeds hnames⟩, hok⟩
  rintro ⟨⟨placed, moved⟩, h⟩
  obtain ⟨hall, hnodup, -, -⟩ := hok placed moved h
  obtain ⟨-, -, hbelongs⟩ := fitToSubnet_ok h hnames haddresses
  rw [hall.length_eq, ← List.length_map (f := Peer.address)]
  refine server.usable_length hnodup (fun a ha => ?_)
  obtain ⟨p, hp, rfl⟩ := List.mem_map.mp ha
  exact server.belongs_iff.mp (hbelongs p hp)

end WgServerConfig

def peerAt (name : String) (address : IPv4Address) : Peer :=
  ⟨name, address, "public", "private", 0, false⟩

-- the second one stands at the address of the server, the first outside the subnet
def strayPeers : List Peer := [peerAt "dacha" 0, peerAt "flat" vpsServer.serverAddress]

theorem stray_peers_refit :
    ∃ placed, vpsServer.fitToSubnet strayPeers = .ok (placed, renumbered strayPeers placed) ∧
      List.Forall₂ vpsServer.Moved strayPeers placed ∧
      vpsServer.fitToSubnet placed = .ok (placed, []) := by
  have hnames : (strayPeers.map Peer.name).Nodup := by decide
  obtain ⟨hiff, hall⟩ := vpsServer.peers_refit hnames (by decide +kernel)
  obtain ⟨⟨placed, moved⟩, h⟩ := hiff.mpr (by decide +kernel)
  obtain ⟨hmoved, -, rfl, hagain⟩ := hall placed moved h
  exact ⟨placed, h, hmoved, hagain⟩

end VibeDPN
