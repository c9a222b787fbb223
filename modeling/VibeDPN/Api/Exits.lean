import VibeDPN.Atomic
import VibeDPN.Compose.Services
import VibeDPN.Api.Routing

namespace VibeDPN

open Text

def maxPeerFileBytes : Nat := 64 * 1024

def peerFileMarkers : List String := ["[Interface]", "PrivateKey", "[Peer]", "PublicKey"]

def checkPeerText (text source : String) : Except String String :=
  if text.utf8ByteSize > maxPeerFileBytes then
    .error (source ++ " is larger than a WireGuard peer file can be")
  else
    let missing := peerFileMarkers.filter (fun marker => ¬ marker.toList <:+: text.toList)
    if missing ≠ [] then
      .error (source ++ " has no " ++ commaJoin missing ++
        "; is it a WireGuard .conf of a provider?")
    else .ok text

def noPanelApply : String :=
  "this box takes no WireGuard exits from the panel: it routes no LAN"

structure EditRun where
  write : WriteOutcome
  attempt : Attempt
  restore : WriteOutcome
  again : Attempt

structure ExitBox where
  box : Box Document
  secretsDir : String
  secrets : Files

-- asked: what request_apply raises; source: a peer file as read, or why it cannot be
inductive ExitCall where
  | addWgUplink (name config : String) (write : WriteOutcome) (edit : EditRun)
      (unlink : Except OsError Unit) (asked : Except String Unit)
  | removeWg (name : String) (edit : EditRun) (unlink : Except OsError Unit)
      (asked : Except String Unit)
  | uplinkAdd (name path : String) (source : Except String String) (write config : WriteOutcome)
  | uplinkRm (name : String) (config : WriteOutcome) (unlink : Except OsError Unit)

inductive ExitError where
  | request (e : RequestError)
  | os (e : OsError)
  | fail (message : String)
deriving DecidableEq

def ExitCall.name : ExitCall → String
  | .addWgUplink name .. => name
  | .removeWg name .. => name
  | .uplinkAdd name .. => name
  | .uplinkRm name .. => name

def RequestError.isHttp : RequestError → Bool
  | .raised _ => false
  | _ => true

def notUsableName (name : String) : String :=
  quoted name ++ " is not a usable name: a-z, 0-9 and '-', up to 24 characters"

def askHost (asked : Except String Unit) : Except ExitError Unit :=
  match asked with
  | .ok () => .ok ()
  | .error e => .error (.request
      (.http 503 ("saved, but the host was not asked to apply it: " ++ e)))

namespace ExitBox

def runEdit (b : ExitBox) (change : Change Document) (run : EditRun) :
    ExitBox × Except RequestError Fields :=
  match b.box.edit Document.validate change run.write run.attempt run.restore run.again with
  | (box, .ok config) => ({ b with box := box }, .ok config)
  | (box, .error e) => ({ b with box := box }, .error e.request)

-- a refused exit leaves no key behind
def dropRefused (b : ExitBox) (file : String) (existed : Bool) (e : RequestError)
    (unlink : Except OsError Unit) : ExitBox × Except ExitError Unit :=
  if e.isHttp && !existed then
    match b.secrets.unlink file unlink with
    | (secrets, .ok ()) => ({ b with secrets := secrets }, .error (.request e))
    | (secrets, .error e) => ({ b with secrets := secrets }, .error (.os e))
  else (b, .error (.request e))

def addWgUplink (b : ExitBox) (name config : String) (write : WriteOutcome) (edit : EditRun)
    (unlink : Except OsError Unit) (asked : Except String Unit) :
    ExitBox × Except ExitError Unit :=
  match b.box.config.network, check isWgName name with
  | none, _ => (b, .error (.request (.http 404 noPanelApply)))
  | some _, none => (b, .error (.request (.http 422 (notUsableName name))))
  | some _, some name =>
    match checkPeerText config "the file" with
    | .error e => (b, .error (.request (.http 422 e)))
    | .ok text =>
      let file := wgConfFile name
      let existed := (b.secrets.get? file).isSome
      match b.secrets.write file text write with
      | (secrets, .error e) => ({ b with secrets := secrets }, .error (.os e))
      | (secrets, .ok _) =>
        match { b with secrets := secrets }.runEdit (setWgUplink b.box.path name.val true) edit with
        | (b, .error e) => b.dropRefused file existed e unlink
        | (b, .ok _) => (b, askHost asked)

def removeWg (b : ExitBox) (name : String) (edit : EditRun) (unlink : Except OsError Unit)
    (asked : Except String Unit) : ExitBox × Except ExitError Unit :=
  match b.box.config.network, check isWgName name with
  | none, _ => (b, .error (.request (.http 404 noPanelApply)))
  | some _, none => (b, .error (.request (.http 422 (notUsableName name))))
  | some _, some name =>
    match b.runEdit (removeWgUplink b.box.path name.val) edit with
    | (b, .error e) => (b, .error (.request e))
    | (b, .ok _) =>
      match b.secrets.unlink (wgConfFile name) unlink with
      | (secrets, .error e) => ({ b with secrets := secrets }, .error (.os e))
      | (secrets, .ok ()) => ({ b with secrets := secrets }, askHost asked)

def editConfig (b : ExitBox) (change : Change Document) (config : WriteOutcome) :
    ExitBox × Except ExitError Unit :=
  match editFile b.box.path Document.validate change config b.box.file with
  | (file, .ok _) => ({ b with box := { b.box with file := file } }, .ok ())
  | (file, .error (.edit reason)) =>
    ({ b with box := { b.box with file := file } }, .error (.fail reason))
  | (file, .error e) =>
    ({ b with box := { b.box with file := file } }, .error (.request (EditError.change e).request))

def confFileName (name : String) : Except ExitError WgName :=
  match check isWgName name with
  | some name => .ok name
  | none => .error (.fail
      (quoted name ++ " is not a usable name: lowercase letters, digits and '-', up to 24"))

def uplinkAdd (b : ExitBox) (name path : String) (source : Except String String)
    (write config : WriteOutcome) : ExitBox × Except ExitError Unit :=
  match confFileName name, source.bind (checkPeerText · path) with
  | .error e, _ => (b, .error e)
  | .ok _, .error e => (b, .error (.fail e))
  | .ok name, .ok text =>
    match b.secrets.write (wgConfFile name) text write with
    | (secrets, .error e) =>
      ({ b with secrets := secrets }, .error (.fail ("cannot write " ++ b.secretsDir ++ "/" ++
        wgConfFile name ++ ": " ++ e.strerror ++ "; run with sudo?")))
    | (secrets, .ok _) =>
      { b with secrets := secrets }.editConfig (setWgUplink b.box.path name.val true) config

-- the name is checked after the edit
def uplinkRm (b : ExitBox) (name : String) (config : WriteOutcome) (unlink : Except OsError Unit) :
    ExitBox × Except ExitError Unit :=
  match b.editConfig (removeWgUplink b.box.path name) config with
  | (b, .error e) => (b, .error e)
  | (b, .ok ()) =>
    match confFileName name with
    | .error e => (b, .error e)
    | .ok name =>
      match b.secrets.unlink (wgConfFile name) unlink with
      | (secrets, .error e) => ({ b with secrets := secrets }, .error (.os e))
      | (secrets, .ok ()) => ({ b with secrets := secrets }, .ok ())

def call (b : ExitBox) : ExitCall → ExitBox × Except ExitError Unit
  | .addWgUplink name config write edit unlink asked =>
    b.addWgUplink name config write edit unlink asked
  | .removeWg name edit unlink asked => b.removeWg name edit unlink asked
  | .uplinkAdd name path source write config => b.uplinkAdd name path source write config
  | .uplinkRm name config unlink => b.uplinkRm name config unlink

def step (b : ExitBox) (call : ExitCall) : ExitBox := (b.call call).1

theorem runEdit_secrets (b : ExitBox) (change : Change Document) (run : EditRun) :
    (b.runEdit change run).1.secrets = b.secrets := by
  rw [runEdit]
  split <;> rfl

theorem editConfig_secrets (b : ExitBox) (change : Change Document) (config : WriteOutcome) :
    (b.editConfig change config).1.secrets = b.secrets := by
  rw [editConfig]
  split <;> rfl

variable (b : ExitBox) {name : WgName} {other : String}

theorem dropRefused_frame (h : other ≠ wgConfFile name) (existed : Bool) (e : RequestError)
    (unlink : Except OsError Unit) :
    (b.dropRefused (wgConfFile name) existed e unlink).1.secrets.get? other =
      b.secrets.get? other := by
  have hu := b.secrets.get?_unlink h unlink
  rw [dropRefused]
  split
  · split <;> rename_i hs <;> rwa [hs] at hu
  · rfl

theorem addWgUplink_frame (h : other ≠ wgConfFile name) (config : String) (write : WriteOutcome)
    (edit : EditRun) (unlink : Except OsError Unit) (asked : Except String Unit) :
    (b.addWgUplink name.val config write edit unlink asked).1.secrets.get? other =
      b.secrets.get? other := by
  have hw := fun text => b.secrets.get?_write h text write
  rw [addWgUplink, check_val]
  cases hn : b.box.config.network with
  | none => rfl
  | some network =>
    cases hp : checkPeerText config "the file" with
    | error e => rfl
    | ok text =>
      have hw := hw text
      simp only
      cases hs : b.secrets.write (wgConfFile name) text write with
      | mk secrets result =>
        rw [hs] at hw
        cases result with
        | error e => exact hw
        | ok changed =>
          have he := runEdit_secrets { b with secrets := secrets }
            (setWgUplink b.box.path name.val true) edit
          simp only
          cases hr : ({ b with secrets := secrets } : ExitBox).runEdit
              (setWgUplink b.box.path name.val true) edit with
          | mk after result =>
            have he : after.secrets = secrets := by simpa only [hr] using he
            cases result with
            | ok config => exact he ▸ hw
            | error e => exact (dropRefused_frame after h _ e unlink).trans (he ▸ hw)

theorem removeWg_frame (h : other ≠ wgConfFile name) (edit : EditRun)
    (unlink : Except OsError Unit) (asked : Except String Unit) :
    (b.removeWg name.val edit unlink asked).1.secrets.get? other = b.secrets.get? other := by
  rw [removeWg, check_val]
  cases hn : b.box.config.network with
  | none => rfl
  | some network =>
    have he := b.runEdit_secrets (removeWgUplink b.box.path name.val) edit
    simp only
    cases hr : b.runEdit (removeWgUplink b.box.path name.val) edit with
    | mk after result =>
      have he : after.secrets = b.secrets := by simpa only [hr] using he
      cases result with
      | error e => exact congrArg (Dict.get? · other) he
      | ok config =>
        have hu := after.secrets.get?_unlink h unlink
        rw [he] at hu
        simp only
        split <;> rename_i hs <;> rw [he] at hs <;> rwa [hs] at hu

theorem uplinkAdd_frame (h : other ≠ wgConfFile name) (path : String)
    (source : Except String String) (write config : WriteOutcome) :
    (b.uplinkAdd name.val path source write config).1.secrets.get? other =
      b.secrets.get? other := by
  rw [uplinkAdd, confFileName, check_val]
  cases hp : source.bind (checkPeerText · path) with
  | error e => rfl
  | ok text =>
    have hw := b.secrets.get?_write h text write
    simp only
    cases hs : b.secrets.write (wgConfFile name) text write with
    | mk secrets result =>
      rw [hs] at hw
      cases result with
      | error e => exact hw
      | ok changed =>
        simp only [editConfig_secrets]
        exact hw

theorem uplinkRm_frame (h : other ≠ wgConfFile name) (config : WriteOutcome)
    (unlink : Except OsError Unit) :
    (b.uplinkRm name.val config unlink).1.secrets.get? other = b.secrets.get? other := by
  have he := b.editConfig_secrets (removeWgUplink b.box.path name.val) config
  rw [uplinkRm]
  cases hr : b.editConfig (removeWgUplink b.box.path name.val) config with
  | mk after result =>
    have he : after.secrets = b.secrets := by simpa only [hr] using he
    cases result with
    | error e => exact congrArg (Dict.get? · other) he
    | ok _ =>
      have hu := after.secrets.get?_unlink h unlink
      rw [he] at hu
      simp only [confFileName, check_val]
      split <;> rename_i hs <;> rw [he] at hs <;> rwa [hs] at hu

theorem step_frame (h : other ≠ wgConfFile name) {call : ExitCall} (hc : call.name = name.val) :
    (b.step call).secrets.get? other = b.secrets.get? other := by
  cases call with
  | addWgUplink n config write edit unlink asked =>
    obtain rfl : n = name.val := hc
    exact b.addWgUplink_frame h config write edit unlink asked
  | removeWg n edit unlink asked =>
    obtain rfl : n = name.val := hc
    exact b.removeWg_frame h edit unlink asked
  | uplinkAdd n path source write config =>
    obtain rfl : n = name.val := hc
    exact b.uplinkAdd_frame h path source write config
  | uplinkRm n config unlink =>
    obtain rfl : n = name.val := hc
    exact b.uplinkRm_frame h config unlink

end ExitBox

def Foreign (name : WgName) (file : String) : Prop :=
  file ∈ knownSecrets ∨ (∃ country, file = countryPassphraseFile country) ∨
    ∃ other, other ≠ name ∧ file = wgConfFile other

structure StaysApart (c : Fields) (name : WgName) : Prop where
  service : ∀ k ∈ renderWgUplinks c, k.owner = .exit name →
    k.service ∉ composeServices.map ComposeService.name ∧
      ∀ other ∈ generated c, other.service = k.service → other.owner = .exit name
  file : ¬ Foreign name (wgConfFile name)
  calls : ∀ (b : ExitBox) (call : ExitCall), call.name = name.val →
    ∀ file, Foreign name file → (b.step call).secrets.get? file = b.secrets.get? file

theorem wgConfFile_injective {a b : WgName} (h : wgConfFile a = wgConfFile b) : a = b := by
  apply Subtype.ext
  simpa [wgConfFile, ← String.toList_inj] using h

theorem wgConfFile_known (name : WgName) : wgConfFile name ∈ knownSecrets ↔ name.val = "client" := by
  constructor
  · intro h
    have hk : knownSecrets.all (fun file => !startsWith file "wg-" || file = wgClientConf) = true := by
      decide
    have hf := List.all_eq_true.mp hk _ h
    rw [wgConfFile, String.append_assoc, startsWith_append] at hf
    have he : "wg-" ++ (name.val ++ ".conf") = wgClientConf := by simpa using hf
    have hl : name.val.toList ++ ".conf".toList = "client".toList ++ ".conf".toList := by
      simpa [wgClientConf, ← String.toList_inj] using he
    exact String.toList_inj.mp (List.append_cancel_right hl)
  · intro h
    rw [wgConfFile, h]
    decide

theorem wgConfFile_ne_passphrase (name : WgName) (country : Country) :
    wgConfFile name ≠ countryPassphraseFile country := by
  intro h
  have h' := congrArg String.toList h
  simp [wgConfFile, countryPassphraseFile] at h'

theorem foreign_self (name : WgName) : Foreign name (wgConfFile name) ↔ name.val = "client" := by
  rw [Foreign, wgConfFile_known]
  constructor
  · rintro (h | ⟨country, h⟩ | ⟨other, hne, h⟩)
    · exact h
    · exact absurd h (wgConfFile_ne_passphrase name country)
    · exact absurd (wgConfFile_injective h).symm hne
  · exact .inl

theorem wgKey_base (name : WgName) : wgKey name ∈ composeServices.map ComposeService.name ↔
    name.val = "client" ∨ name.val = "server" := by
  constructor
  · intro h
    have hb : (composeServices.map ComposeService.name).all (fun s =>
        !startsWith s wgKeyPrefix || s = wgKeyPrefix ++ "client" || s = wgKeyPrefix ++ "server") =
          true := by decide
    have hs := List.all_eq_true.mp hb _ h
    rw [wgKey, startsWith_append] at hs
    simpa [← String.toList_inj] using hs
  · rintro (h | h)
    · rw [wgKey, h]
      decide
    · rw [wgKey, h]
      decide

theorem mem_renderWgUplinks {c : Fields} {k : Container} (h : k ∈ renderWgUplinks c) :
    ∃ name, k.owner = .exit name ∧ k.service = wgKey name ∧ c.exitEnabled name = true := by
  obtain ⟨e, he, rfl⟩ := List.mem_map.mp h
  exact ⟨e.1, rfl, rfl, (List.mem_filter.mp he).2⟩

theorem exit_rendered {c : Fields} {name : WgName} (he : c.exitEnabled name = true) :
    ∃ k ∈ renderWgUplinks c, k.owner = .exit name ∧ k.service = wgKey name := by
  have hk : name ∈ c.exitNames := by
    rw [Fields.mem_exitNames, ← Dict.get?_isSome_iff]
    cases hg : c.upstreams.wg.get? name with
    | none => simp [Fields.exitEnabled, hg] at he
    | some _ => rfl
  obtain ⟨i, hi⟩ := List.mem_iff_getElem?.mp hk
  exact ⟨_, List.mem_map.mpr ⟨(name, wgSlot i),
    List.mem_filter.mpr ⟨mem_slots.mpr ⟨i, hi, rfl⟩, he⟩, rfl⟩, rfl, rfl⟩

theorem generated_owner {c : Fields} {k : Container} (hk : k ∈ generated c) {name : WgName}
    (h : k.service = wgKey name) : k.owner = .exit name := by
  rcases List.mem_append.mp hk with hk | hk
  · obtain ⟨e, -, rfl⟩ := List.mem_map.mp hk
    exact absurd h (consumer_ne_exit e.1 name)
  · obtain ⟨other, ho, hs, -⟩ := mem_renderWgUplinks hk
    rw [ho, wgKey_injective (hs.symm.trans h)]

theorem stays_apart_iff (c : Fields) (name : WgName) :
    StaysApart c name ↔ name.val ≠ "client" ∧
      (c.exitEnabled name = true → name.val ≠ "server") := by
  constructor
  · intro h
    refine ⟨fun hc => h.file ((foreign_self name).mpr hc), fun he hs => ?_⟩
    obtain ⟨k, hk, ho, hservice⟩ := exit_rendered he
    refine (h.service k hk ho).1 ?_
    rw [hservice, wgKey_base]
    exact .inr hs
  · rintro ⟨hc, hs⟩
    have hself : ¬ Foreign name (wgConfFile name) := fun h => hc ((foreign_self name).mp h)
    refine ⟨fun k hk ho => ?_, hself, fun b call hcall file hf => ?_⟩
    · obtain ⟨other, ho', hservice, he⟩ := mem_renderWgUplinks hk
      rw [ho', Owner.exit.injEq] at ho
      rw [ho] at hservice he
      refine ⟨?_, fun k' hk' hsame => generated_owner hk' (hsame.trans hservice)⟩
      rw [hservice, wgKey_base]
      rintro (h | h)
      · exact hc h
      · exact hs he h
    · exact b.step_frame (fun he => hself (he ▸ hf)) hcall

def exitClient : WgName := ⟨"client", by decide⟩

def clientExit : Config where
  role := .client
  network := some sampleNetwork
  routing := some { defaultUpstream := torKey }
  upstreams := { vps := { enabled := true }, wg := ⟨[(exitClient, {})], by decide⟩ }
  valid := by decide

def clientBox : ExitBox where
  box :=
    { path := "config.yaml"
      file := { role := .client }
      config := clientExit.toFields
      host := none
      steering := none }
  secretsDir := "secrets"
  secrets := ⟨[(wgClientConf, "key of the VPS")], by decide⟩

def peerFile : String := "[Interface]\nPrivateKey = a\n[Peer]\nPublicKey = b\n"

def addClient : ExitCall := .uplinkAdd "client" "peer.conf" (.ok peerFile) .replaced .replaced

theorem client_exit_overwrites : ¬ StaysApart clientExit.toFields exitClient ∧
    clientBox.secrets.get? wgClientConf = some "key of the VPS" ∧
      (clientBox.step addClient).secrets.get? wgClientConf = some peerFile := by
  refine ⟨fun h => ?_, by decide, by decide⟩
  exact ((stays_apart_iff _ _).mp h).1 rfl

end VibeDPN
