import VibeDPN.Lib.Runs
import VibeDPN.Engine.Wg

namespace VibeDPN

open Text Inet

structure PeerRegistry where
  peers : List Peer
  names_unique : (peers.map Peer.name).Nodup
  addresses_unique : (peers.map Peer.address).Nodup
deriving DecidableEq

inductive WgError where
  | wg (message : String)
  | os (e : OsError)
  | invalid
deriving DecidableEq

-- the files of secrets/wg-server: server.key, wg0.conf and peers.json
structure ServerDir where
  key : Option String := none
  conf : Option String := none
  registry : Option PeerRegistry := none
deriving DecidableEq

-- how each file write of an operation turns out: at most one step fails
structure Writes where
  key : WriteOutcome := .replaced
  conf : WriteOutcome := .replaced
  registry : WriteOutcome := .replaced
  restore : WriteOutcome := .replaced
  single : ([key, conf, registry, restore].filter (fun w => w ≠ .replaced)).length ≤ 1 := by decide

inductive PeerCall where
  | ensureServer
  | addPeer (name publicKey privateKey : String) (created : Nat) (tunnelOnly : Bool)
  | removePeer (name : String)

-- server: wg_server of the configuration the operation is given; fresh: a generated server key
structure PeerOp where
  server : Option WgServerConfig
  call : PeerCall
  fresh : String
  writes : Writes

namespace ServerDir

def loadPeers (d : ServerDir) : List Peer :=
  match d.registry with
  | none => []
  | some registry => registry.peers

def serverConfig (server : Option WgServerConfig) : Except WgError WgServerConfig :=
  match server with
  | none => .error (.wg "this configuration runs no WireGuard server")
  | some server => .ok server

def loadOrCreateServerKey (d : ServerDir) (fresh : String) (write : WriteOutcome) :
    ServerDir × Except WgError String :=
  match d.key with
  | some key => (d, .ok key)
  | none =>
    match writePrivate fresh write d.key with
    | (key, .ok _) => ({ d with key := key }, .ok fresh)
    | (key, .error e) => ({ d with key := key }, .error (.os e))

def writeRegistry (peers : List Peer) (write : WriteOutcome) (registry : Option PeerRegistry) :
    Option PeerRegistry × Except WgError Unit :=
  if h : (peers.map Peer.name).Nodup ∧ (peers.map Peer.address).Nodup then
    match writePrivate ⟨peers, h.1, h.2⟩ write registry with
    | (registry, .ok _) => (registry, .ok ())
    | (registry, .error e) => (registry, .error (.os e))
  else (registry, .error .invalid)

def putBack (d : ServerDir) (previous : Option String) (restore : WriteOutcome) (e : WgError) :
    ServerDir × WgError :=
  match previous with
  | none => ({ d with conf := none }, e)
  | some text =>
    match writePrivate text restore d.conf with
    | (conf, .ok _) => ({ d with conf := conf }, e)
    | (conf, .error e) => ({ d with conf := conf }, .os e)

def writeBoth (d : ServerDir) (text : String) (placed : List Peer) (writes : Writes) :
    ServerDir × Except WgError Unit :=
  match writePrivate text writes.conf d.conf with
  | (conf, .error e) => ({ d with conf := conf }, .error (.os e))
  | (conf, .ok _) =>
    match writeRegistry placed writes.registry d.registry with
    | (registry, .ok ()) => ({ d with conf := conf, registry := registry }, .ok ())
    | (registry, .error e) =>
      let (d, e) := { d with conf := conf, registry := registry }.putBack d.conf writes.restore e
      (d, .error e)

def commit (d : ServerDir) (server : Option WgServerConfig) (peers : List Peer) (fresh : String)
    (writes : Writes) : ServerDir × Except WgError (List Renumbered) :=
  match d.loadOrCreateServerKey fresh writes.key with
  | (d, .error e) => (d, .error e)
  | (d, .ok key) =>
    match serverConfig server with
    | .error e => (d, .error e)
    | .ok server =>
      match server.fitToSubnet peers with
      | .error e => (d, .error (.wg e))
      | .ok (placed, renumbered) =>
        match d.writeBoth (server.renderServerConf key placed) placed writes with
        | (d, .error e) => (d, .error e)
        | (d, .ok ()) => (d, .ok renumbered)

def ensureServer (d : ServerDir) (server : Option WgServerConfig) (fresh : String)
    (writes : Writes) : ServerDir × Except WgError (Option (List Renumbered)) :=
  match server with
  | none => (d, .ok none)
  | some _ =>
    match d.commit server d.loadPeers fresh writes with
    | (d, .ok renumbered) => (d, .ok (some renumbered))
    | (d, .error e) => (d, .error e)

def notPeerName (name : String) : String :=
  quoted name ++ " is not a peer name: 1-32 lowercase letters, digits and hyphens," ++
    " starting with a letter or digit"

def subnetFull (server : WgServerConfig) : String :=
  "every address of wg_server.subnet " ++ server.network.str ++
    " is taken; remove a peer or widen the subnet"

def addPeer (d : ServerDir) (server : Option WgServerConfig)
    (name publicKey privateKey : String) (created : Nat) (tunnelOnly : Bool) (fresh : String)
    (writes : Writes) : ServerDir × Except WgError (Option (List Renumbered)) :=
  if isPeerName name = false then (d, .error (.wg (notPeerName name)))
  else
    let peers := d.loadPeers
    if name ∈ peers.map Peer.name then
      (d, .error (.wg ("a peer named " ++ quoted name ++ " already exists")))
    else
      match serverConfig server with
      | .error e => (d, .error e)
      | .ok config =>
        match config.nextAddress peers with
        | none => (d, .error (.wg (subnetFull config)))
        | some address =>
          let peer : Peer :=
            { name := name
              address := address
              publicKey := publicKey
              privateKey := privateKey
              created := created
              tunnelOnly := tunnelOnly }
          match d.commit server (peers ++ [peer]) fresh writes with
          | (d, .ok renumbered) => (d, .ok (some renumbered))
          | (d, .error e) => (d, .error e)

def removePeer (d : ServerDir) (server : Option WgServerConfig) (name : String) (fresh : String)
    (writes : Writes) : ServerDir × Except WgError (Option (List Renumbered)) :=
  let peers := d.loadPeers
  if name ∈ peers.map Peer.name then
    match d.commit server (peers.filter (fun peer => peer.name ≠ name)) fresh writes with
    | (d, .ok renumbered) => (d, .ok (some renumbered))
    | (d, .error e) => (d, .error e)
  else (d, .error (.wg ("no peer named " ++ quoted name)))

def run (d : ServerDir) (op : PeerOp) : ServerDir × Except WgError (Option (List Renumbered)) :=
  match op.call with
  | .ensureServer => d.ensureServer op.server op.fresh op.writes
  | .addPeer name publicKey privateKey created tunnelOnly =>
    d.addPeer op.server name publicKey privateKey created tunnelOnly op.fresh op.writes
  | .removePeer name => d.removePeer op.server name op.fresh op.writes

end ServerDir

namespace Writes

variable (w : Writes)

theorem registry_alone (h : w.registry ≠ .replaced) : w.conf = .replaced ∧ w.restore = .replaced := by
  have hs := w.single
  by_cases hc : w.conf = .replaced
  · by_cases hr : w.restore = .replaced
    · exact ⟨hc, hr⟩
    · by_cases hk : w.key = .replaced <;> simp [hc, h, hr, hk] at hs
  · by_cases hr : w.restore = .replaced <;> by_cases hk : w.key = .replaced <;>
      simp [hc, h, hr, hk] at hs

theorem key_alone (h : w.key ≠ .replaced) : w.conf = .replaced ∧ w.registry = .replaced := by
  have hs := w.single
  by_cases hc : w.conf = .replaced
  · by_cases hr : w.registry = .replaced
    · exact ⟨hc, hr⟩
    · by_cases hk : w.restore = .replaced <;> simp [hc, h, hr, hk] at hs
  · by_cases hr : w.registry = .replaced <;> by_cases hk : w.restore = .replaced <;>
      simp [hc, h, hr, hk] at hs

end Writes

-- a rename replaced the file by another content, and the sync of its directory failed
def Unsynced {Text : Type} (write : WriteOutcome) (file content : Option Text) : Prop :=
  (∃ e, write = .unsynced e) ∧ file ≠ content

theorem writePrivate_cases {Text : Type} [DecidableEq Text] (content : Text) (write : WriteOutcome)
    (file : Option Text) :
    (∃ b, writePrivate content write file = (some content, .ok b)) ∧
        ¬ Unsynced write file (some content) ∨
      (∃ e, writePrivate content write file = (file, .error e)) ∧ write ≠ .replaced ∧
        ¬ Unsynced write file (some content) ∨
      (∃ e, writePrivate content write file = (some content, .error e)) ∧ write ≠ .replaced ∧
        Unsynced write file (some content) := by
  by_cases hc : file = some content
  · exact .inl ⟨⟨false, by simp [writePrivate, hc]⟩, fun h => h.2 hc⟩
  · cases write with
    | replaced => exact .inl ⟨⟨true, by simp [writePrivate, hc]⟩, fun h => by simp [Unsynced] at h⟩
    | refused e =>
      exact .inr (.inl ⟨⟨e, by simp [writePrivate, hc]⟩, by simp, fun h => by simp [Unsynced] at h⟩)
    | unsynced e =>
      exact .inr (.inr ⟨⟨e, by simp [writePrivate, hc]⟩, by simp, ⟨e, rfl⟩, hc⟩)

namespace ServerDir

variable {d : ServerDir} {text : String} {placed : List Peer} {writes : Writes}

theorem putBack_conf {previous : Option String} {restore : WriteOutcome} (hr : restore = .replaced)
    (e : WgError) : d.putBack previous restore e = ({ d with conf := previous }, e) := by
  cases previous with
  | none => rfl
  | some text =>
    rw [putBack, hr]
    by_cases hc : d.conf = some text
    · simp [writePrivate, hc]
    · simp [writePrivate, hc]

theorem writeBoth_cases (d : ServerDir) (text : String) (registry : PeerRegistry)
    (writes : Writes) :
    (Unsynced writes.conf d.conf (some text) ∨
        Unsynced writes.registry d.registry (some registry)) ∧
      (∃ e, (d.writeBoth text registry.peers writes).2 = .error e) ∧
        ((d.writeBoth text registry.peers writes).1.conf ≠ d.conf ∨
          (d.writeBoth text registry.peers writes).1.registry ≠ d.registry) ∨
    ¬ (Unsynced writes.conf d.conf (some text) ∨
        Unsynced writes.registry d.registry (some registry)) ∧
      (d.writeBoth text registry.peers writes =
          ({ d with conf := some text, registry := some registry }, .ok ()) ∨
        ∃ e, d.writeBoth text registry.peers writes = (d, .error e)) := by
  have hu : (registry.peers.map Peer.name).Nodup ∧ (registry.peers.map Peer.address).Nodup :=
    ⟨registry.names_unique, registry.addresses_unique⟩
  have hsync : ∀ {write : WriteOutcome} {file content : Option PeerRegistry},
      write = .replaced → ¬ Unsynced write file content := by
    rintro _ _ _ rfl ⟨⟨e, he⟩, -⟩
    cases he
  rw [writeBoth]
  rcases writePrivate_cases text writes.conf d.conf with
    ⟨⟨b, hw⟩, hn⟩ | ⟨⟨e, hw⟩, hne, hn⟩ | ⟨⟨e, hw⟩, hne, hun⟩
  · rw [hw]
    simp only [writeRegistry, hu, and_self, dite_true]
    rcases writePrivate_cases registry writes.registry d.registry with
      ⟨⟨b', hw'⟩, hn'⟩ | ⟨⟨e, hw'⟩, hne', hn'⟩ | ⟨⟨e, hw'⟩, hne', hun⟩
    · rw [hw']
      exact .inr ⟨not_or.mpr ⟨hn, hn'⟩, .inl rfl⟩
    · rw [hw']
      simp only [putBack_conf (writes.registry_alone hne').2]
      exact .inr ⟨not_or.mpr ⟨hn, hn'⟩, .inr ⟨_, rfl⟩⟩
    · rw [hw']
      simp only [putBack_conf (writes.registry_alone hne').2]
      exact .inl ⟨.inr hun, ⟨_, rfl⟩, .inr (Ne.symm hun.2)⟩
  · rw [hw]
    have hr : writes.registry = .replaced := by
      by_contra hr
      exact hne (writes.registry_alone hr).1
    exact .inr ⟨not_or.mpr ⟨hn, hsync hr⟩, .inr ⟨_, rfl⟩⟩
  · rw [hw]
    exact .inl ⟨.inl hun, ⟨_, rfl⟩, .inl (Ne.symm hun.2)⟩

end ServerDir

def ServerDir.Matches (d : ServerDir) (server : Option WgServerConfig) (names : List String) : Prop :=
  match server with
  | none => d.conf = none ∧ d.registry = none ∧ names = []
  | some server => ∃ key registry, d.key = some key ∧ d.registry = some registry ∧
      d.conf = some (server.renderServerConf key registry.peers) ∧
      (∀ peer ∈ registry.peers, server.belongs peer.address = true) ∧
      registry.peers.map Peer.name = names

def PeerCall.names (call : PeerCall) (names : List String) : List String :=
  match call with
  | .ensureServer => names
  | .addPeer name .. => names ++ [name]
  | .removePeer name => names.filter (fun n => n ≠ name)

structure Book where
  dir : ServerDir
  server : Option WgServerConfig
  names : List String

namespace Book

def step (b : Book) (op : PeerOp) : Book :=
  match b.dir.run op, op.server with
  | (dir, .ok _), some server => ⟨dir, some server, op.call.names b.names⟩
  | (dir, _), _ => { b with dir := dir }

def Matches (b : Book) : Prop := b.dir.Matches b.server b.names

structure Together (b : Book) (op : PeerOp) : Prop where
  agree : (b.step op).Matches
  kept : ∀ e, (b.dir.run op).2 = .error e →
    (b.dir.run op).1.conf = b.dir.conf ∧ (b.dir.run op).1.registry = b.dir.registry

end Book

namespace ServerDir

def requested (d : ServerDir) (server : WgServerConfig) : PeerCall → Option (List Peer)
  | .ensureServer => some d.loadPeers
  | .addPeer name publicKey privateKey created tunnelOnly =>
    if isPeerName name = true ∧ name ∉ d.loadPeers.map Peer.name then
      (server.nextAddress d.loadPeers).map fun address =>
        d.loadPeers ++ [⟨name, address, publicKey, privateKey, created, tunnelOnly⟩]
    else none
  | .removePeer name =>
    if name ∈ d.loadPeers.map Peer.name then
      some (d.loadPeers.filter (fun peer => peer.name ≠ name))
    else none

-- no sync of the directory fails after a rename that changed wg0.conf or the registry
def Durable (d : ServerDir) (op : PeerOp) : Prop :=
  ∀ server peers placed moved, op.server = some server → d.requested server op.call = some peers →
    server.fitToSubnet peers = .ok (placed, moved) →
    ¬ Unsynced op.writes.conf d.conf
        (some (server.renderServerConf (d.key.getD op.fresh) placed)) ∧
      ¬ ((∃ e, op.writes.registry = .unsynced e) ∧
        d.registry.map PeerRegistry.peers ≠ some placed)

variable {d : ServerDir}

theorem run_none {op : PeerOp} (h : op.server = none) :
    (d.run op).1.conf = d.conf ∧ (d.run op).1.registry = d.registry ∧
      ∀ key, d.key = some key → (d.run op).1.key = some key := by
  obtain ⟨server, call, fresh, writes⟩ := op
  obtain rfl : server = none := h
  cases call with
  | ensureServer => exact ⟨rfl, rfl, fun _ h => h⟩
  | addPeer name publicKey privateKey created tunnelOnly =>
    simp only [run, addPeer]
    split
    · exact ⟨rfl, rfl, fun _ h => h⟩
    · split <;> exact ⟨rfl, rfl, fun _ h => h⟩
  | removePeer name =>
    simp only [run, removePeer, commit, loadOrCreateServerKey]
    split
    · cases hk : d.key with
      | some key => exact ⟨rfl, rfl, fun _ h => hk.trans h⟩
      | none =>
        simp only
        cases hw : writePrivate fresh writes.key none with
        | mk key result =>
          cases result <;> exact ⟨rfl, rfl, fun _ h => by cases h⟩
    · exact ⟨rfl, rfl, fun _ h => h⟩

theorem run_refused {op : PeerOp} {server : WgServerConfig} (hs : op.server = some server)
    (h : d.requested server op.call = none) : ∃ e, d.run op = (d, .error e) := by
  obtain ⟨_, call, fresh, writes⟩ := op
  obtain rfl := hs
  cases call with
  | ensureServer => cases h
  | addPeer name publicKey privateKey created tunnelOnly =>
    simp only [requested] at h
    simp only [run, addPeer, serverConfig]
    split
    · exact ⟨_, rfl⟩
    · rename_i hn
      split
      · exact ⟨_, rfl⟩
      · rename_i hm
        rw [if_pos ⟨by simpa using hn, hm⟩, Option.map_eq_none_iff] at h
        rw [h]
        exact ⟨_, rfl⟩
  | removePeer name =>
    simp only [requested] at h
    split at h
    · cases h
    · rename_i hm
      exact ⟨_, by simp only [run, removePeer, hm, if_false]; rfl⟩

theorem run_requested {op : PeerOp} {server : WgServerConfig} (hs : op.server = some server)
    {peers : List Peer} (h : d.requested server op.call = some peers) :
    d.run op = ((d.commit (some server) peers op.fresh op.writes).1,
      (d.commit (some server) peers op.fresh op.writes).2.map some) := by
  obtain ⟨_, call, fresh, writes⟩ := op
  obtain rfl := hs
  cases call with
  | ensureServer =>
    cases h
    simp only [run, ensureServer]
    cases hc : d.commit (some server) d.loadPeers fresh writes with
    | mk d' result => cases result <;> rfl
  | addPeer name publicKey privateKey created tunnelOnly =>
    simp only [requested] at h
    split at h
    · rename_i hn
      rw [Option.map_eq_some_iff] at h
      obtain ⟨address, ha, rfl⟩ := h
      simp only [run, addPeer, hn.1, hn.2, if_false, serverConfig, ha, reduceCtorEq]
      cases hc : d.commit (some server)
          (d.loadPeers ++ [⟨name, address, publicKey, privateKey, created, tunnelOnly⟩]) fresh
          writes with
      | mk d' result => cases result <;> rfl
    · cases h
  | removePeer name =>
    simp only [requested] at h
    split at h
    · rename_i hm
      cases h
      simp only [run, removePeer, hm, if_true]
      cases hc : d.commit (some server) (d.loadPeers.filter (fun peer => peer.name ≠ name)) fresh
          writes with
      | mk d' result => cases result <;> rfl
    · cases h

theorem loadPeers_unique (d : ServerDir) :
    (d.loadPeers.map Peer.name).Nodup ∧ (d.loadPeers.map Peer.address).Nodup := by
  rw [loadPeers]
  split
  · exact ⟨List.nodup_nil, List.nodup_nil⟩
  · exact ⟨PeerRegistry.names_unique _, PeerRegistry.addresses_unique _⟩

theorem requested_unique {server : WgServerConfig} {call : PeerCall} {peers : List Peer}
    (h : d.requested server call = some peers) :
    (peers.map Peer.name).Nodup ∧ (peers.map Peer.address).Nodup ∧
      peers.map Peer.name = call.names (d.loadPeers.map Peer.name) := by
  obtain ⟨hn, ha⟩ := d.loadPeers_unique
  cases call with
  | ensureServer =>
    cases h
    exact ⟨hn, ha, rfl⟩
  | addPeer name publicKey privateKey created tunnelOnly =>
    simp only [requested] at h
    split at h
    · rename_i hfree
      rw [Option.map_eq_some_iff] at h
      obtain ⟨address, hnext, rfl⟩ := h
      have hout := (server.nextAddress_some hnext).2
      refine ⟨?_, ?_, by simp [PeerCall.names]⟩
      · rw [List.map_append]
        exact List.nodup_append.mpr ⟨hn, List.nodup_singleton _, fun a ha b hb => by
          obtain rfl := List.mem_singleton.mp hb
          exact fun he => hfree.2 (he ▸ ha)⟩
      · rw [List.map_append]
        exact List.nodup_append.mpr ⟨ha, List.nodup_singleton _, fun a ha b hb => by
          obtain rfl := List.mem_singleton.mp hb
          exact fun he => hout (he ▸ ha)⟩
    · cases h
  | removePeer name =>
    simp only [requested] at h
    split at h
    · cases h
      refine ⟨(List.filter_sublist.map _).nodup hn, (List.filter_sublist.map _).nodup ha, ?_⟩
      rw [PeerCall.names, List.filter_map]
      rfl
    · cases h

theorem commit_cases (d : ServerDir) (server : WgServerConfig) (peers : List Peer) (fresh : String)
    (writes : Writes) :
    (∃ key e, d.commit (some server) peers fresh writes = ({ d with key := key }, .error e) ∧
        (∀ k, d.key = some k → key = some k) ∧
        (writes.key ≠ .replaced ∨ ∃ message, server.fitToSubnet peers = .error message)) ∨
      ∃ placed moved, server.fitToSubnet peers = .ok (placed, moved) ∧
        d.commit (some server) peers fresh writes =
          (({ d with key := some (d.key.getD fresh) } : ServerDir).writeBoth
              (server.renderServerConf (d.key.getD fresh) placed) placed writes).map id
            (Except.map fun _ => moved) := by
  have hload : (∃ e key, d.loadOrCreateServerKey fresh writes.key = ({ d with key := key }, .error e) ∧
      d.key = none ∧ writes.key ≠ .replaced) ∨
      d.loadOrCreateServerKey fresh writes.key =
        ({ d with key := some (d.key.getD fresh) }, .ok (d.key.getD fresh)) := by
    rw [loadOrCreateServerKey]
    cases hk : d.key with
    | some key =>
      have hd : d = { d with key := some key } := by rw [← hk]
      exact .inr (by simp only [Option.getD_some]; rw [← hd])
    | none =>
      rcases writePrivate_cases fresh writes.key none with
        ⟨⟨b, hw⟩, -⟩ | ⟨⟨e, hw⟩, hne, -⟩ | ⟨⟨e, hw⟩, hne, -⟩
      · exact .inr (by rw [hw]; rfl)
      · exact .inl ⟨.os e, none, by rw [hw], rfl, hne⟩
      · exact .inl ⟨.os e, some fresh, by rw [hw], rfl, hne⟩
  rw [commit]
  rcases hload with ⟨e, key, hl, hk, hne⟩ | hl
  · refine .inl ⟨key, e, by rw [hl], fun k hk' => ?_, .inl hne⟩
    rw [hk] at hk'
    cases hk'
  · rw [hl]
    simp only [serverConfig]
    cases hf : server.fitToSubnet peers with
    | error message =>
      refine .inl ⟨some (d.key.getD fresh), .wg message, rfl, fun k hk => ?_, .inr ⟨message, rfl⟩⟩
      rw [hk, Option.getD_some]
    | ok fit =>
      obtain ⟨placed, moved⟩ := fit
      refine .inr ⟨placed, moved, rfl, ?_⟩
      simp only
      cases hb : ({ d with key := some (d.key.getD fresh) } : ServerDir).writeBoth
          (server.renderServerConf (d.key.getD fresh) placed) placed writes with
      | mk d' result => cases result <;> rfl

end ServerDir

theorem PeerRegistry.map_peers {registry : PeerRegistry} {stored : Option PeerRegistry} :
    stored.map PeerRegistry.peers = some registry.peers ↔ stored = some registry := by
  cases stored with
  | none => simp
  | some stored =>
    obtain ⟨peers, hn, ha⟩ := stored
    obtain ⟨peers', hn', ha'⟩ := registry
    simp

namespace Book

variable {b : Book} {op : PeerOp}

theorem matches_of_same (h : b.Matches) {dir : ServerDir} (hc : dir.conf = b.dir.conf)
    (hr : dir.registry = b.dir.registry) (hk : ∀ key, b.dir.key = some key → dir.key = some key) :
    ({ b with dir := dir } : Book).Matches := by
  obtain ⟨d, server, names⟩ := b
  cases server with
  | none => exact ⟨hc.trans h.1, hr.trans h.2.1, h.2.2⟩
  | some server =>
    obtain ⟨key, registry, h1, h2, h3, h4⟩ := h
    exact ⟨key, registry, hk key h1, hr.trans h2, hc.trans h3, h4⟩

theorem step_error {dir : ServerDir} {e : WgError} (h : b.dir.run op = (dir, .error e)) :
    b.step op = { b with dir := dir } := by
  rw [step, h]

theorem together_of_error (h : b.Matches) {dir : ServerDir} {e : WgError}
    (hrun : b.dir.run op = (dir, .error e)) (hc : dir.conf = b.dir.conf)
    (hr : dir.registry = b.dir.registry) (hk : ∀ key, b.dir.key = some key → dir.key = some key) :
    b.Together op where
  agree := by
    rw [step_error hrun]
    exact matches_of_same h hc hr hk
  kept := fun _ _ => by
    rw [hrun]
    exact ⟨hc, hr⟩

theorem names_eq (h : b.Matches) : b.dir.loadPeers.map Peer.name = b.names := by
  obtain ⟨d, server, names⟩ := b
  cases server with
  | none =>
    obtain ⟨-, hr, hn⟩ := h
    have hr : d.registry = none := hr
    have hn : names = [] := hn
    simp [ServerDir.loadPeers, hr, hn]
  | some server =>
    obtain ⟨key, registry, -, hr, -, -, hn⟩ := h
    have hr : d.registry = some registry := hr
    simpa [ServerDir.loadPeers, hr] using hn

theorem together_none (h : b.Matches) (hs : op.server = none) : b.Together op := by
  obtain ⟨hc, hr, hk⟩ := b.dir.run_none hs
  refine ⟨?_, fun _ _ => ⟨hc, hr⟩⟩
  have hstep : b.step op = { b with dir := (b.dir.run op).1 } := by
    rw [step, hs]
    rcases b.dir.run op with ⟨dir, result⟩
    cases result <;> rfl
  rw [hstep]
  exact matches_of_same h hc hr hk

theorem durable_iff {server : WgServerConfig} (hs : op.server = some server) {peers : List Peer}
    (hq : b.dir.requested server op.call = some peers) :
    b.dir.Durable op ↔ ∀ placed moved, server.fitToSubnet peers = .ok (placed, moved) →
      ¬ Unsynced op.writes.conf b.dir.conf
          (some (server.renderServerConf (b.dir.key.getD op.fresh) placed)) ∧
        ¬ ((∃ e, op.writes.registry = .unsynced e) ∧
          b.dir.registry.map PeerRegistry.peers ≠ some placed) := by
  constructor
  · exact fun hd placed moved => hd server peers placed moved hs hq
  · intro hd server' peers' placed moved hserver hpeers
    obtain rfl : server = server' := Option.some.inj (hs.symm.trans hserver)
    obtain rfl : peers = peers' := Option.some.inj (hq.symm.trans hpeers)
    exact hd placed moved

theorem durable_placed {server : WgServerConfig} (hs : op.server = some server) {peers : List Peer}
    (hq : b.dir.requested server op.call = some peers) {registry : PeerRegistry}
    {moved : List Renumbered} (hfit : server.fitToSubnet peers = .ok (registry.peers, moved)) :
    b.dir.Durable op ↔
      ¬ (Unsynced op.writes.conf b.dir.conf
          (some (server.renderServerConf (b.dir.key.getD op.fresh) registry.peers)) ∨
        Unsynced op.writes.registry b.dir.registry (some registry)) := by
  rw [durable_iff hs hq, not_or]
  have hsame : (∃ e, op.writes.registry = .unsynced e) ∧
      b.dir.registry.map PeerRegistry.peers ≠ some registry.peers ↔
        Unsynced op.writes.registry b.dir.registry (some registry) :=
    and_congr_right' (not_congr PeerRegistry.map_peers)
  rw [← hsame]
  constructor
  · exact fun hd => hd registry.peers moved hfit
  · intro hd placed moved' hfit'
    rw [hfit] at hfit'
    cases hfit'
    exact hd

theorem together_stopped (h : b.Matches) {server : WgServerConfig} (hs : op.server = some server)
    {peers : List Peer} (hq : b.dir.requested server op.call = some peers) {key : Option String}
    {e : WgError} (hc : b.dir.commit (some server) peers op.fresh op.writes =
      ({ b.dir with key := key }, .error e)) (hk : ∀ k, b.dir.key = some k → key = some k)
    (hwhy : op.writes.key ≠ .replaced ∨ ∃ message, server.fitToSubnet peers = .error message) :
    b.Together op ∧ b.dir.Durable op := by
  have hrun := b.dir.run_requested hs hq
  rw [hc] at hrun
  refine ⟨together_of_error h hrun rfl rfl hk, (durable_iff hs hq).mpr fun placed moved hfit => ?_⟩
  rcases hwhy with hne | ⟨message, hm⟩
  · obtain ⟨h1, h2⟩ := op.writes.key_alone hne
    rw [h1, h2]
    exact ⟨fun hu => by simp [Unsynced] at hu, fun hu => by simp at hu⟩
  · rw [hm] at hfit
    cases hfit

theorem together_written (h : b.Matches) {server : WgServerConfig} (hs : op.server = some server)
    {peers : List Peer} (hq : b.dir.requested server op.call = some peers)
    {registry : PeerRegistry} {moved : List Renumbered}
    (hfit : server.fitToSubnet peers = .ok (registry.peers, moved))
    (hnames : registry.peers.map Peer.name = op.call.names b.names)
    (hbelongs : ∀ p ∈ registry.peers, server.belongs p.address = true) {dir : ServerDir}
    (hdir : dir = { b.dir with key := some (b.dir.key.getD op.fresh) })
    (hc : b.dir.commit (some server) peers op.fresh op.writes =
      (dir.writeBoth (server.renderServerConf (b.dir.key.getD op.fresh) registry.peers)
        registry.peers op.writes).map id (Except.map fun _ => moved)) :
    b.Together op ↔ b.dir.Durable op := by
  have hkey : dir.key = some (b.dir.key.getD op.fresh) := by rw [hdir]
  have hconf : dir.conf = b.dir.conf := by rw [hdir]
  have hreg : dir.registry = b.dir.registry := by rw [hdir]
  have hrun := b.dir.run_requested hs hq
  rw [hc] at hrun
  rw [durable_placed hs hq hfit, ← hconf, ← hreg]
  rcases dir.writeBoth_cases (server.renderServerConf (b.dir.key.getD op.fresh) registry.peers)
      registry op.writes with ⟨hbad, ⟨e, he⟩, hchanged⟩ | ⟨hgood, hok | ⟨e, he⟩⟩
  · refine iff_of_false (fun ht => ?_) (not_not.mpr hbad)
    have hkept := ht.kept e (by simp only [hrun, Prod.map, he]; rfl)
    rw [hrun, ← hconf, ← hreg] at hkept
    rcases hchanged with hne | hne
    · exact hne hkept.1
    · exact hne hkept.2
  · rw [hok] at hrun
    refine iff_of_true ⟨?_, fun e he => ?_⟩ hgood
    · rw [Matches, step, hrun, hs]
      exact ⟨b.dir.key.getD op.fresh, registry, hkey, rfl, rfl, hbelongs, hnames⟩
    · rw [hrun] at he
      cases he
  · rw [he] at hrun
    refine iff_of_true (together_of_error h hrun hconf hreg fun key hk => ?_) hgood
    rw [hk, Option.getD_some] at hkey
    exact hkey

theorem together_iff (h : b.Matches) (op : PeerOp) : b.Together op ↔ b.dir.Durable op := by
  cases hs : op.server with
  | none =>
    refine iff_of_true (together_none h hs) fun server _ _ _ hserver => ?_
    rw [hs] at hserver
    cases hserver
  | some server =>
    cases hq : b.dir.requested server op.call with
    | none =>
      obtain ⟨e, hrun⟩ := b.dir.run_refused hs hq
      refine iff_of_true (together_of_error h hrun rfl rfl fun _ hk => hk) ?_
      intro server' peers placed moved hserver hpeers
      obtain rfl : server = server' := Option.some.inj (hs.symm.trans hserver)
      rw [hq] at hpeers
      cases hpeers
    | some peers =>
      obtain ⟨hnames, haddresses, hregistered⟩ := ServerDir.requested_unique hq
      rcases b.dir.commit_cases server peers op.fresh op.writes with
        ⟨key, e, hc, hk, hwhy⟩ | ⟨placed, moved, hfit, hc⟩
      · obtain ⟨ht, hd⟩ := together_stopped h hs hq hc hk hwhy
        exact iff_of_true ht hd
      · obtain ⟨hpn, hpa, hbelongs⟩ := WgServerConfig.fitToSubnet_ok hfit hnames haddresses
        have hset : placed.map Peer.name = op.call.names b.names := by
          rw [hpn, hregistered, names_eq h]
        let registry : PeerRegistry := ⟨placed, hpn ▸ hnames, hpa⟩
        have hf : server.fitToSubnet peers = .ok (registry.peers, moved) := hfit
        exact together_written h hs hq hf hset hbelongs rfl hc

-- peers.json and wg0.conf change together exactly where no rename is left unsynced
theorem registry_and_conf_iff (h : b.Matches) (ops : List PeerOp) :
    EachStep step Together b ops ↔ EachStep step (fun b op => b.dir.Durable op) b ops :=
  EachStep.iff_of_invariant (fun _ op hb => together_iff hb op)
    (fun _ op hb hd => ((together_iff hb op).mpr hd).agree) ops h

end Book

theorem ServerDir.durable_of_synced (d : ServerDir) {op : PeerOp}
    (hc : ∀ e, op.writes.conf ≠ .unsynced e) (hr : ∀ e, op.writes.registry ≠ .unsynced e) :
    d.Durable op := by
  intro server peers placed moved _ _ _
  constructor
  · rintro ⟨⟨e, he⟩, -⟩
    exact hc e he
  · rintro ⟨⟨e, he⟩, -⟩
    exact hr e he

def vpsServer : WgServerConfig := { endpoint := ⟨"vps.example", by decide⟩ }

def addDacha (writes : Writes) : PeerOp where
  server := some vpsServer
  call := .addPeer "dacha" "public" "private" 0 false
  fresh := "key"
  writes := writes

def noPeers : Book := ⟨{}, none, []⟩

theorem noPeers_matches : noPeers.Matches := ⟨rfl, rfl, rfl⟩

def vpsOp (server : WgServerConfig) (call : PeerCall) (writes : Writes) : PeerOp :=
  ⟨some server, call, "key", writes⟩

def addPhone : PeerCall := .addPeer "phone" "public" "private" 0 false

-- the disk is full when the registry is saved
def fullDisk : Writes := { registry := .refused (.other "No space left on device") }

theorem moved_host : (0x0A630000#32).toNat % 2 ^ (32 - 24) = 0 := by decide

def movedNetwork : IPv4Network := ⟨0x0A630000#32, 24, slash24_le, moved_host⟩

theorem moved_wide : minWgSubnetAddresses ≤ movedNetwork.numAddresses := by decide

def movedServer : WgServerConfig := { vpsServer with subnet := ⟨movedNetwork, moved_wide⟩ }

def dachaRun : List PeerOp :=
  [addDacha {}, vpsOp vpsServer addPhone fullDisk, vpsOp vpsServer addPhone {},
    vpsOp vpsServer (.removePeer "dacha") {}, vpsOp movedServer .ensureServer {}]

theorem clean_add_together : EachStep Book.step Book.Together noPeers dachaRun ∧
    (dachaRun.foldl Book.step noPeers).names = ["phone"] ∧
    (dachaRun.foldl Book.step noPeers).dir.loadPeers.map (fun peer => peer.address.str) =
      ["10.99.0.2"] := by
  refine ⟨(Book.registry_and_conf_iff noPeers_matches dachaRun).mpr ?_, by decide +kernel,
    by decide +kernel⟩
  exact ⟨ServerDir.durable_of_synced _ nofun nofun, ServerDir.durable_of_synced _ nofun nofun,
    ServerDir.durable_of_synced _ nofun nofun, ServerDir.durable_of_synced _ nofun nofun,
    ServerDir.durable_of_synced _ nofun nofun, trivial⟩

-- the directory of wg0.conf cannot be synced after the rename
def unsyncedConf : Writes := { conf := .unsynced (.other "Input/output error") }

theorem unsynced_conf_splits : noPeers.Matches ∧
    ¬ EachStep Book.step Book.Together noPeers [addDacha unsyncedConf] := by
  refine ⟨noPeers_matches, fun h => ?_⟩
  have hk := h.1.kept (.os (.other "Input/output error")) (by rfl)
  exact absurd hk.1 (by decide)

end VibeDPN
