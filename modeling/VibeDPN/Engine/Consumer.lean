import VibeDPN.Lib.Dialogue
import VibeDPN.Lib.Text

namespace VibeDPN.Consumer

open Text

-- a JSON value; numbers, booleans and null are read alike
inductive Body where
  | object (members : List (String × Body))
  | list (items : List Body)
  | text (s : String)
  | other

inductive Method where
  | get
  | post
  | put
  | delete
deriving DecidableEq

structure Request where
  method : Method
  path : String
  body : Option Body := none

-- the status and the body, or the text of a MystError
abbrev Answer := Except String (Nat × Body)

def serviceType : String := "wireguard"
def registered : String := "Registered"
def registrationInProgress : String := "InProgress"
def notConnected : String := "NotConnected"
def httpOk : Nat := 200
def httpCreated : Nat := 201
def httpAccepted : Nat := 202

structure ConsumerState where
  identity : Option String
  registration : String := "Unknown"
  connection : String := "Unknown"
  country : Option String
  error : String := ""
  balanceWei : String := "0"
  channelAddress : String := ""

def Body.member (name : String) : Body → Option Body
  | .object members => members.lookup name
  | _ => none

def field (body : Option Body) (name : String) : String :=
  match body.bind (Body.member name) with
  | some (.text s) => s
  | _ => ""

def orElse (s default : String) : String := if s = "" then default else s

def firstListed (body : Body) : Option Body :=
  match body.member "identities" with
  | some (.list (first :: _)) => some first
  | _ => none

def passphraseBody (passphrase : String) : Body := .object [("passphrase", .text passphrase)]

def listIdentities : Request := ⟨.get, "/identities", none⟩

def createIdentity (passphrase : String) : Request :=
  ⟨.post, "/identities", some (passphraseBody passphrase)⟩

def identityPath (identity : String) : String := "/identities/" ++ identity

def unlock (identity passphrase : String) : Request :=
  ⟨.put, identityPath identity ++ "/unlock", some (passphraseBody passphrase)⟩

def getIdentity (identity : String) : Request := ⟨.get, identityPath identity, none⟩

def getConnection : Request := ⟨.get, "/connection", none⟩

def deleteConnection : Request := ⟨.delete, "/connection", none⟩

def connectBody (identity : String) (country : Option String) : Body :=
  .object ([("consumer_id", .text identity), ("service_type", .text serviceType)] ++
    match country with
    | some country =>
      if country = "" then [] else [("filter", .object [("country_code", .text country)])]
    | none => [])

def putConnection (identity : String) (country : Option String) : Request :=
  ⟨.put, "/connection", some (connectBody identity country)⟩

def identity (passphrase : String) : Dialogue Request Answer (Except String String) :=
  .ask listIdentities fun
    | .error exc => .done (.error exc)
    | .ok (status, body) =>
      if status ≠ httpOk then
        .done (.error ("TequilAPI GET /identities: HTTP " ++ toString status))
      else
        let identity := field (firstListed body) "id"
        if identity ≠ "" then .done (.ok identity)
        else .ask (createIdentity passphrase) fun
          | .error exc => .done (.error exc)
          | .ok (status, body) =>
            let identity := field (some body) "id"
            if status ≠ httpOk ∨ identity = "" then
              .done (.error ("TequilAPI POST /identities: HTTP " ++ toString status))
            else .done (.ok identity)

def sessionCountry (body : Body) : String :=
  upper (field ((body.member "proposal").bind (Body.member "location")) "country")

-- the session of a registered identity; the kill switch stays on
def connect (identity : String) (state : ConsumerState) : Dialogue Request Answer ConsumerState :=
  if state.connection ≠ notConnected then .done state
  else .ask (putConnection identity state.country) fun
    | .error exc => .done { state with error := exc }
    | .ok (status, body) =>
      if status ≠ httpOk ∧ status ≠ httpCreated then
        .done { state with
          error := "connect: " ++ orElse (field (some body) "message") ("HTTP " ++ toString status) }
      else .done { state with connection := orElse (field (some body) "status") state.connection }

def notRegistered : String :=
  "the consumer identity is not registered: register it and top it up with MYST"

def settle (identity : String) (wanted : Bool) (session : String) (state : ConsumerState) :
    Dialogue Request Answer ConsumerState :=
  if !wanted then
    if state.connection ≠ notConnected then
      .ask deleteConnection fun
        | .error exc => .done { state with error := exc }
        | .ok _ => .done { state with connection := notConnected }
    else .done state
  else if state.registration ≠ registered ∧ state.registration ≠ registrationInProgress then
    .done { state with error := notRegistered }
  else if state.connection ≠ notConnected ∧ state.country.any (· ≠ "") ∧ session ≠ "" ∧
      some session ≠ state.country then
    .ask deleteConnection fun
      | .error exc => .done { state with error := exc }
      | .ok _ => .done { state with connection := notConnected }
  else connect identity state

def reconcile (passphrase : String) (country : Option String) (wanted : Bool) :
    Dialogue Request Answer ConsumerState :=
  (identity passphrase).bind fun
    | .error exc => .done { identity := none, country := country, error := exc }
    | .ok identity =>
      let state : ConsumerState := { identity := some identity, country := country }
      .ask (unlock identity passphrase) fun
        | .error exc => .done { state with error := exc }
        | .ok (status, _) =>
          if status ≠ httpOk ∧ status ≠ httpAccepted then
            .done { state with error := "unlock: HTTP " ++ toString status }
          else .ask (getIdentity identity) fun
            | .error exc => .done { state with error := exc }
            | .ok (_, body) =>
              let state := { state with
                registration := orElse (field (some body) "registration_status") "Unknown"
                balanceWei := orElse (field (body.member "balance_tokens") "wei") "0"
                channelAddress := field (some body) "channel_address" }
              .ask getConnection fun
                | .error exc => .done { state with error := exc }
                | .ok (_, body) =>
                  settle identity wanted (sessionCountry body)
                    { state with connection := orElse (field (some body) "status") "Unknown" }

abbrev Exchange := Request × Answer

-- a request that neither changes the session nor asks for a registration, nor reads the session
def Request.Preparing (r : Request) : Prop :=
  r.path ≠ "/connection" ∧ (r.method = .post → r.path = "/identities")

theorem identityPath_ne (identity rest : String) :
    identityPath identity ++ rest ≠ "/connection" := by
  intro h
  have hl := congrArg (fun s => s.toList.take 3) h
  simp only [identityPath, String.toList_append, List.append_assoc] at hl
  exact absurd hl (by simp)

theorem preparing_list : listIdentities.Preparing := ⟨by decide, by simp [listIdentities]⟩

theorem preparing_create (passphrase : String) : (createIdentity passphrase).Preparing :=
  ⟨by simp [createIdentity], fun _ => rfl⟩

theorem preparing_unlock (identity passphrase : String) : (unlock identity passphrase).Preparing :=
  ⟨identityPath_ne identity "/unlock", by simp [unlock]⟩

theorem preparing_get (identity : String) : (getIdentity identity).Preparing :=
  ⟨by simpa [getIdentity] using identityPath_ne identity "", by simp [getIdentity]⟩

theorem identity_preparing {passphrase : String} {trace : List Exchange}
    {result : Except String String} (h : (identity passphrase).Passes trace result) :
    ∀ e ∈ trace, e.1.Preparing := by
  rw [identity] at h
  obtain ⟨answer, rest, rfl, hlist⟩ := Dialogue.passes_ask.mp h
  have hl := preparing_list
  cases answer with
  | error exc =>
    obtain ⟨rfl, -⟩ := Dialogue.passes_done.mp hlist
    simpa using hl
  | ok a =>
    obtain ⟨status, body⟩ := a
    simp only at hlist
    split at hlist
    · obtain ⟨rfl, -⟩ := Dialogue.passes_done.mp hlist
      simpa using hl
    · split at hlist
      · obtain ⟨rfl, -⟩ := Dialogue.passes_done.mp hlist
        simpa using hl
      · obtain ⟨answer, rest, rfl, hcreate⟩ := Dialogue.passes_ask.mp hlist
        have hrest : rest = [] := by
          cases answer with
          | error exc => exact (Dialogue.passes_done.mp hcreate).1
          | ok a =>
            obtain ⟨status, body⟩ := a
            simp only at hcreate
            split at hcreate
            · exact (Dialogue.passes_done.mp hcreate).1
            · exact (Dialogue.passes_done.mp hcreate).1
        subst hrest
        simpa using ⟨hl, preparing_create passphrase⟩

theorem orElse_eq {s default value : String} (h : orElse s default = value)
    (hd : default ≠ value) : s = value := by
  rw [orElse] at h
  split at h
  · exact absurd h hd
  · exact h

theorem passes_last {request : Request} {next : Answer → Dialogue Request Answer ConsumerState}
    {trace : List Exchange} {result : ConsumerState}
    (h : (Dialogue.ask request next).Passes trace result)
    (hl : ∀ answer rest, (next answer).Passes rest result → rest = []) :
    ∃ answer, trace = [(request, answer)] := by
  obtain ⟨answer, rest, rfl, hr⟩ := Dialogue.passes_ask.mp h
  exact ⟨answer, by rw [hl answer rest hr]⟩

theorem settle_cases {identity session : String} {wanted : Bool} {state result : ConsumerState}
    {trace : List Exchange} (h : (settle identity wanted session state).Passes trace result) :
    trace = [] ∨ (∃ answer, trace = [(deleteConnection, answer)]) ∨
    (∃ answer, trace = [(putConnection identity state.country, answer)] ∧ wanted = true ∧
      (state.registration = registered ∨ state.registration = registrationInProgress) ∧
      state.connection = notConnected) := by
  rw [settle] at h
  split at h
  · split at h
    · obtain ⟨answer, rfl⟩ := passes_last h fun answer rest hr => by
        cases answer with
        | error exc => exact (Dialogue.passes_done.mp hr).1
        | ok a => exact (Dialogue.passes_done.mp hr).1
      exact .inr (.inl ⟨answer, rfl⟩)
    · exact .inl (Dialogue.passes_done.mp h).1
  next hw =>
    have hwanted : wanted = true := by simpa using hw
    split at h
    · exact .inl (Dialogue.passes_done.mp h).1
    next hreg =>
      split at h
      · obtain ⟨answer, rfl⟩ := passes_last h fun answer rest hr => by
          cases answer with
          | error exc => exact (Dialogue.passes_done.mp hr).1
          | ok a => exact (Dialogue.passes_done.mp hr).1
        exact .inr (.inl ⟨answer, rfl⟩)
      · rw [connect] at h
        split at h
        · exact .inl (Dialogue.passes_done.mp h).1
        next hc =>
          obtain ⟨answer, rfl⟩ := passes_last h fun answer rest hr => by
            cases answer with
            | error exc => exact (Dialogue.passes_done.mp hr).1
            | ok a =>
              obtain ⟨status, body⟩ := a
              simp only at hr
              split at hr
              · exact (Dialogue.passes_done.mp hr).1
              · exact (Dialogue.passes_done.mp hr).1
          refine .inr (.inr ⟨answer, rfl, hwanted, ?_, not_not.mp hc⟩)
          by_contra hno
          exact hreg (not_or.mp hno)

theorem reconcile_cases {passphrase : String} {country : Option String} {wanted : Bool}
    {trace : List Exchange} {result : ConsumerState}
    (h : (reconcile passphrase country wanted).Passes trace result) :
    (∀ e ∈ trace, e.1.Preparing ∨ e.1 = getConnection) ∨
    ∃ id opening us ub rs rb cs cb rest, trace = opening ++
        [(unlock id passphrase, .ok (us, ub)), (getIdentity id, .ok (rs, rb)),
          (getConnection, .ok (cs, cb))] ++ rest ∧
      (∀ e ∈ opening, e.1.Preparing) ∧ (us = httpOk ∨ us = httpAccepted) ∧
      (rest = [] ∨ (∃ answer, rest = [(deleteConnection, answer)]) ∨
        (∃ answer, rest = [(putConnection id country, answer)] ∧ wanted = true ∧
          (field (some rb) "registration_status" = registered ∨
            field (some rb) "registration_status" = registrationInProgress) ∧
          field (some cb) "status" = notConnected)) := by
  rw [reconcile] at h
  obtain ⟨opening, result', rest, rfl, hid, h⟩ := Dialogue.passes_bind.mp h
  have hopen := identity_preparing hid
  have early : ∀ tail : List Exchange,
      (∀ e ∈ tail, e.1.Preparing ∨ e.1 = getConnection) →
      ∀ e ∈ opening ++ tail, e.1.Preparing ∨ e.1 = getConnection := by
    intro tail ht e he
    rcases List.mem_append.mp he with he | he
    · exact .inl (hopen e he)
    · exact ht e he
  cases result' with
  | error exc =>
    obtain ⟨rfl, -⟩ := Dialogue.passes_done.mp h
    exact .inl (early [] (by simp))
  | ok id =>
    obtain ⟨answer, rest, rfl, hunlock⟩ := Dialogue.passes_ask.mp h
    have hu := preparing_unlock id passphrase
    cases answer with
    | error exc =>
      obtain ⟨rfl, -⟩ := Dialogue.passes_done.mp hunlock
      exact .inl (early _ (by simp [hu]))
    | ok a =>
      obtain ⟨us, ub⟩ := a
      simp only at hunlock
      split at hunlock
      · obtain ⟨rfl, -⟩ := Dialogue.passes_done.mp hunlock
        exact .inl (early _ (by simp [hu]))
      next haccepted =>
        obtain ⟨answer, rest, rfl, hget⟩ := Dialogue.passes_ask.mp hunlock
        have hg := preparing_get id
        cases answer with
        | error exc =>
          obtain ⟨rfl, -⟩ := Dialogue.passes_done.mp hget
          exact .inl (early _ (by simp [hu, hg]))
        | ok a =>
          obtain ⟨rs, rb⟩ := a
          simp only at hget
          obtain ⟨answer, rest, rfl, hconn⟩ := Dialogue.passes_ask.mp hget
          cases answer with
          | error exc =>
            obtain ⟨rfl, -⟩ := Dialogue.passes_done.mp hconn
            exact .inl (early _ (by simp [hu, hg]))
          | ok a =>
            obtain ⟨cs, cb⟩ := a
            simp only at hconn
            right
            refine ⟨id, opening, us, ub, rs, rb, cs, cb, rest, by simp, hopen, ?_, ?_⟩
            · by_contra hno
              exact haccepted (not_or.mp hno)
            · have hreg : ∀ value, "Unknown" ≠ value →
                  orElse (field (some rb) "registration_status") "Unknown" = value →
                  field (some rb) "registration_status" = value := fun _ hd h => orElse_eq h hd
              rcases settle_cases hconn with rfl | ⟨answer, rfl⟩ | ⟨answer, rfl, hw, hr, hc⟩
              · exact .inl rfl
              · exact .inr (.inl ⟨answer, rfl⟩)
              · exact .inr (.inr ⟨answer, rfl, hw, hr.imp (hreg _ (by decide)) (hreg _ (by decide)),
                  orElse_eq hc (by decide)⟩)

mutual

def Body.names (name : String) : Body → Bool
  | .object members => namesMember name members
  | .list items => namesItem name items
  | _ => false

def namesMember (name : String) : List (String × Body) → Bool
  | [] => false
  | (key, body) :: members => key = name || body.names name || namesMember name members

def namesItem (name : String) : List Body → Bool
  | [] => false
  | body :: items => body.names name || namesItem name items

end

def Request.Connects (r : Request) : Prop := r.method = .put ∧ r.path = "/connection"

def Request.Disconnects (r : Request) : Prop := r.method = .delete ∧ r.path = "/connection"

structure Wish where
  passphrase : String
  country : Option String
  wanted : Bool

structure Allowed (w : Wish) (before : List Exchange) : Prop where
  wanted : w.wanted = true
  answers : ∃ id us ub rs rb cs cb,
    (unlock id w.passphrase, .ok (us, ub)) ∈ before ∧ (us = httpOk ∨ us = httpAccepted) ∧
    (getIdentity id, .ok (rs, rb)) ∈ before ∧
    (field (some rb) "registration_status" = registered ∨
      field (some rb) "registration_status" = registrationInProgress) ∧
    (getConnection, .ok (cs, cb)) ∈ before ∧ field (some cb) "status" = notConnected

structure Careful (w : Wish) (trace : List Exchange) : Prop where
  connects : ∀ e ∈ trace, e.1.Connects → ∃ before, trace = before ++ [e] ∧ Allowed w before
  filters : ∀ e ∈ trace, e.1.Connects → ∃ body, e.1.body = some body ∧
    body.names "kill_switch" = false ∧ body.member "filter" =
      (w.country.filter (· ≠ "")).map fun country => .object [("country_code", .text country)]
  apart : ∀ e ∈ trace, ∀ f ∈ trace, e.1.Connects → ¬ f.1.Disconnects
  unregistered : ∀ e ∈ trace, ∀ id, ¬ (e.1.method = .post ∧ e.1.path = identityPath id ++ "/register")

theorem connectBody_filter (id : String) (country : Option String) :
    (connectBody id country).names "kill_switch" = false ∧
      (connectBody id country).member "filter" = (country.filter (· ≠ "")).map
        fun country => .object [("country_code", .text country)] := by
  cases country with
  | none => exact ⟨rfl, rfl⟩
  | some country =>
    by_cases hc : country = ""
    · simp [connectBody, hc, Body.names, namesMember, Body.member, List.lookup, Option.filter]
    · simp [connectBody, hc, Body.names, namesMember, Body.member, List.lookup]

def Request.Quiet (r : Request) : Prop :=
  ¬ r.Connects ∧ ¬ r.Disconnects ∧ (r.method = .post → r.path = "/identities")

theorem preparing_quiet {r : Request} (h : r.Preparing) : r.Quiet :=
  ⟨fun hc => h.1 hc.2, fun hd => h.1 hd.2, h.2⟩

theorem getConnection_quiet : getConnection.Quiet := by
  simp [Request.Quiet, Request.Connects, Request.Disconnects, getConnection]

theorem registers_not_identities (id : String) : "/identities" ≠ identityPath id ++ "/register" := by
  intro h
  have hl := congrArg (fun s => s.toList.length) h
  simp only [identityPath, String.toList_append, List.length_append] at hl
  have hs : "/identities".toList.length = 11 := by decide
  have hp : "/identities/".toList.length = 12 := by decide
  omega

theorem careful_of_quiet {w : Wish} {trace : List Exchange} (hq : ∀ e ∈ trace, e.1.Quiet) :
    Careful w trace where
  connects e he hc := absurd hc (hq e he).1
  filters e he hc := absurd hc (hq e he).1
  apart e he _ _ hc := absurd hc (hq e he).1
  unregistered e he id h := registers_not_identities id (((hq e he).2.2 h.1).symm.trans h.2)

theorem careful_of_delete {w : Wish} {before : List Exchange} {answer : Answer}
    (hq : ∀ e ∈ before, e.1.Quiet) : Careful w (before ++ [(deleteConnection, answer)]) := by
  have hno : ∀ e ∈ before ++ [(deleteConnection, answer)],
      ¬ e.1.Connects ∧ (e.1.method = .post → e.1.path = "/identities") := by
    intro e he
    rcases List.mem_append.mp he with he | he
    · exact ⟨(hq e he).1, (hq e he).2.2⟩
    · rw [List.mem_singleton.mp he]
      simp [Request.Connects, deleteConnection]
  exact
    { connects := fun e he hc => absurd hc (hno e he).1
      filters := fun e he hc => absurd hc (hno e he).1
      apart := fun e he _ _ hc => absurd hc (hno e he).1
      unregistered := fun e he id h =>
        registers_not_identities id (((hno e he).2 h.1).symm.trans h.2) }

theorem careful_of_put {w : Wish} {before : List Exchange} {answer : Answer} {id : String}
    (hq : ∀ e ∈ before, e.1.Quiet) (ha : Allowed w before) :
    Careful w (before ++ [(putConnection id w.country, answer)]) := by
  have hcases : ∀ e ∈ before ++ [(putConnection id w.country, answer)],
      e.1.Quiet ∨ e = (putConnection id w.country, answer) := by
    intro e he
    exact (List.mem_append.mp he).imp (hq e) List.mem_singleton.mp
  have hput : ∀ e ∈ before ++ [(putConnection id w.country, answer)], e.1.Connects →
      e = (putConnection id w.country, answer) :=
    fun e he hc => (hcases e he).resolve_left fun h => h.1 hc
  constructor
  · intro e he hc
    exact ⟨before, by rw [hput e he hc], ha⟩
  · intro e he hc
    rw [hput e he hc]
    exact ⟨_, rfl, connectBody_filter id w.country⟩
  · intro e he f hf hc hd
    rcases hcases f hf with h | rfl
    · exact h.2.1 hd
    · exact absurd hd.1 (by simp [putConnection])
  · intro e he id' h
    rcases hcases e he with hquiet | rfl
    · exact registers_not_identities id' ((hquiet.2.2 h.1).symm.trans h.2)
    · exact absurd h.1 (by simp [putConnection])

theorem reconcile_careful {w : Wish} {trace : List Exchange} {result : ConsumerState}
    (h : (reconcile w.passphrase w.country w.wanted).Passes trace result) : Careful w trace := by
  rcases reconcile_cases h with hearly |
    ⟨id, opening, us, ub, rs, rb, cs, cb, rest, rfl, hopen, hus, hrest⟩
  · refine careful_of_quiet fun e he => ?_
    rcases hearly e he with hp | hc
    · exact preparing_quiet hp
    · rw [hc]
      exact getConnection_quiet
  · have hquiet : ∀ e ∈ opening ++ [(unlock id w.passphrase, .ok (us, ub)),
        (getIdentity id, .ok (rs, rb)), (getConnection, .ok (cs, cb))], e.1.Quiet := by
      intro e he
      simp only [List.mem_append, List.mem_cons, List.not_mem_nil, or_false] at he
      rcases he with he | rfl | rfl | rfl
      · exact preparing_quiet (hopen e he)
      · exact preparing_quiet (preparing_unlock id w.passphrase)
      · exact preparing_quiet (preparing_get id)
      · exact getConnection_quiet
    rcases hrest with rfl | ⟨answer, rfl⟩ | ⟨answer, rfl, hw, hr, hc⟩
    · rw [List.append_nil]
      exact careful_of_quiet hquiet
    · exact careful_of_delete hquiet
    · refine careful_of_put hquiet ⟨hw, id, us, ub, rs, rb, cs, cb, ?_, hus, ?_, hr, ?_, hc⟩
      · simp
      · simp
      · simp

abbrev NodeScript := List Exchange → Request → Answer

-- the node gives out an identity: one it lists, or else one it creates
inductive Opens (node : NodeScript) (passphrase : String) (past : List Exchange) :
    List Exchange → String → Prop
  | listed {body : Body} : node past listIdentities = .ok (httpOk, body) →
      field (firstListed body) "id" ≠ "" →
      Opens node passphrase past [(listIdentities, .ok (httpOk, body))]
        (field (firstListed body) "id")
  | created {body made : Body} : node past listIdentities = .ok (httpOk, body) →
      field (firstListed body) "id" = "" →
      node (past ++ [(listIdentities, .ok (httpOk, body))]) (createIdentity passphrase) =
        .ok (httpOk, made) →
      field (some made) "id" ≠ "" →
      Opens node passphrase past
        [(listIdentities, .ok (httpOk, body)), (createIdentity passphrase, .ok (httpOk, made))]
        (field (some made) "id")

-- identity and unlock are accepted, and the node, asked for it, tells of a session
def ReportsSession (node : NodeScript) (passphrase : String) (past : List Exchange) : Prop :=
  ∃ opened id us ub rs rb cs cb, Opens node passphrase past opened id ∧
    node (past ++ opened) (unlock id passphrase) = .ok (us, ub) ∧
    (us = httpOk ∨ us = httpAccepted) ∧
    node (past ++ opened ++ [(unlock id passphrase, .ok (us, ub))]) (getIdentity id) =
      .ok (rs, rb) ∧
    node (past ++ opened ++ [(unlock id passphrase, .ok (us, ub)),
      (getIdentity id, .ok (rs, rb))]) getConnection = .ok (cs, cb) ∧
    field (some cb) "status" ≠ notConnected

structure Round where
  wish : Wish
  past : List Exchange
  trace : List Exchange

structure Lawful (node : NodeScript) (r : Round) : Prop extends Careful r.wish r.trace where
  disconnects : r.wish.wanted = false → ReportsSession node r.wish.passphrase r.past →
    ∃ answer, (deleteConnection, answer) ∈ r.trace

theorem Opens.run {node : NodeScript} {passphrase id : String} {past opened : List Exchange}
    (h : Opens node passphrase past opened id) :
    (identity passphrase).run node past = (opened, .ok id) := by
  cases h with
  | listed hl hid => simp [identity, Dialogue.run, hl, hid]
  | created hl hno hc hid => simp [identity, Dialogue.run, hl, hno, hc, hid]

theorem reconcile_disconnects {node : NodeScript} {passphrase : String} {country : Option String}
    {past : List Exchange} (h : ReportsSession node passphrase past) :
    ∃ answer, (deleteConnection, answer) ∈ ((reconcile passphrase country false).run node past).1 := by
  obtain ⟨opened, id, us, ub, rs, rb, cs, cb, hopen, hu, hus, hg, hc, hs⟩ := h
  have hstatus : orElse (field (some cb) "status") "Unknown" ≠ notConnected :=
    fun he => hs (orElse_eq he (by decide))
  have haccepted : ¬ (us ≠ httpOk ∧ us ≠ httpAccepted) := by
    rintro ⟨h1, h2⟩
    exact hus.elim h1 h2
  rw [reconcile, Dialogue.run_bind, hopen.run]
  simp only [List.append_assoc] at hg hc
  simp only [Dialogue.run, hu, if_neg haccepted, List.append_assoc, List.cons_append,
    List.nil_append, hg, hc, settle, Bool.not_false, if_true, if_pos hstatus]
  exact ⟨_, List.mem_append_right _ (List.mem_of_getElem? (i := 3) rfl)⟩

theorem reconcile_lawful (node : NodeScript) (w : Wish) (past : List Exchange) :
    Lawful node ⟨w, past, ((reconcile w.passphrase w.country w.wanted).run node past).1⟩ where
  toCareful := reconcile_careful (Dialogue.run_passes node _ past)
  disconnects hw hs := by
    simp only at hw
    rw [hw]
    exact reconcile_disconnects hs

def rounds (node : NodeScript) : List Wish → List Exchange → List Round
  | [], _ => []
  | w :: wishes, past =>
    let trace := ((reconcile w.passphrase w.country w.wanted).run node past).1
    ⟨w, past, trace⟩ :: rounds node wishes (past ++ trace)

theorem reconciler_lawful (node : NodeScript) (wishes : List Wish) (past : List Exchange) :
    ∀ r ∈ rounds node wishes past, Lawful node r := by
  induction wishes generalizing past with
  | nil => simp [rounds]
  | cons w wishes ih =>
    intro r hr
    rcases List.mem_cons.mp hr with rfl | hr
    · exact reconcile_lawful node w past
    · exact ih _ r hr

def sessionUp (past : List Exchange) : Bool :=
  past.foldl (fun up e =>
    if e.1.path = "/connection" then e.1.method = .put || e.1.method = .get && up else up) false

-- registered, and connected from a PUT to the next DELETE
def homeNode (past : List Exchange) (r : Request) : Answer :=
  match r.method with
  | .get =>
    if r.path = "/identities" then
      .ok (httpOk, .object [("identities", .list [.object [("id", .text "0xabc")]])])
    else if r.path = "/connection" then
      .ok (httpOk, .object [("status", .text (if sessionUp past then "Connected" else notConnected))])
    else .ok (httpOk, .object [("registration_status", .text registered)])
  | .put => .ok (if r.path = "/connection" then httpCreated else httpAccepted, .other)
  | .delete => .ok (httpAccepted, .other)
  | .post => .error "refused"

def germanWish : Wish := ⟨"secret", some "DE", true⟩

def noWish : Wish := ⟨"secret", some "DE", false⟩

theorem german_round_lawful : ∃ r₁ r₂, rounds homeNode [germanWish, noWish] [] = [r₁, r₂] ∧
    (∃ e ∈ r₁.trace, e.1.Connects) ∧ Lawful homeNode r₁ ∧
    (∃ answer, (deleteConnection, answer) ∈ r₂.trace) ∧ Lawful homeNode r₂ := by
  have h := reconciler_lawful homeNode [germanWish, noWish] []
  have opens (past : List Exchange) : Opens homeNode "secret" past
      [(listIdentities, homeNode past listIdentities)] "0xabc" :=
    @Opens.listed homeNode "secret" past
      (.object [("identities", .list [.object [("id", .text "0xabc")]])]) rfl (by decide)
  have h₁ := h _ List.mem_cons_self
  have h₂ := h _ (List.mem_cons_of_mem _ List.mem_cons_self)
  refine ⟨_, _, rfl, ?_, h₁, h₂.disconnects rfl ?_, h₂⟩
  · exact ⟨(putConnection "0xabc" (some "DE"), .ok (httpCreated, .other)),
      List.mem_of_getElem? (i := 4) rfl, rfl, rfl⟩
  · exact ⟨_, "0xabc", httpAccepted, .other, httpOk,
      .object [("registration_status", .text registered)], httpOk,
      .object [("status", .text "Connected")], opens _, rfl, .inr rfl, rfl, rfl, by decide⟩

end VibeDPN.Consumer
