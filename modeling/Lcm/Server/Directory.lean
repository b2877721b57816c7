import Lcm.Jansson
import Lcm.Run.Basic
import Lcm.Server.MacAddress
import Mathlib.Logic.Function.Basic
import Mathlib.Tactic.NormNum
import Mathlib.Data.BitVec

/-!
# The directory of the registrations

An app registers with the bridge under an identifier of its own and names the LCM that it belongs
to.  The thread that reads the request publishes the two identifiers, and the bridge stores them in
the database with two statements; then the thread answers.  The identifier of the app is a signed
integer in the request, an unsigned one in the bridge, and a literal in the statement.

The statements of different threads can come in any order.  What becomes of a statement is only
logged, so that the thread answers in any case.

## Main definitions

* `handleJsonPacket` : what is answered, and what is published.
* `Tables.insertDevice`, `Tables.insertApp` : the statements.
* `machine` : the threads and the database.
* `Kept`, `Apart` : what a registration does, and the rows of the apps.
* `Careful` : the condition on the requests and the handlers.

## Main results

* `registrations_kept` : the runs in which every registration does what it should.
* `negative_not_registered` : a registration that is lost.
-/

namespace Lcm

namespace Server

namespace Directory

open Function (update update_self update_of_ne)
open JsonT (bytesOfString)
open MacAddress Numerals

/-! ### The database -/

/-- A value in a column. -/
inductive Value
  /-- `NULL` -/
  | null
  /-- `INTEGER` -/
  | integer (n : ℤ)
  /-- `REAL`, as it is written. -/
  | real (text : List Byte)
  deriving DecidableEq

/-- The value of digits in a statement: what does not fit into 64 bits is a `REAL`. -/
def literal (text : List Byte) : Value :=
  if value text < 2 ^ 63 then .integer (value text) else .real text

/-- The key of a row, an `INTEGER PRIMARY KEY` with `CHECK (id>=0)`.  No `REAL` that a literal
stands for is one. -/
def Value.rowId : Value → Option ℕ
  | .integer n => if 0 ≤ n then some n.toNat else none
  | _ => none

/-- A row of `devices`. -/
structure Device where
  /-- `uid`, with `CHECK (uid>=0)` -/
  uid : ℕ
  /-- `name` -/
  name : List Byte
  /-- `connected` -/
  connected : ℤ
  deriving DecidableEq

/-- A row of `apps`. -/
structure App where
  /-- `uid`, with `CHECK (uid>=0)` -/
  uid : ℕ
  /-- `deviceId` -/
  deviceId : Value
  deriving DecidableEq

/-- The tables, by the keys of their rows. -/
structure Tables where
  /-- `devices` -/
  devices : ℕ → Option Device
  /-- `apps` -/
  apps : ℕ → Option App

namespace Tables

/-- `insert or replace into devices`; what is there is kept, if there is something. -/
def insertDevice (t : Tables) (id : List Byte) (connected : Option Device → ℤ) : Tables :=
  match (literal id).rowId with
  | none => t
  | some id =>
    let old := t.devices id
    { t with
      devices := update t.devices id (some
        { uid := (old.map Device.uid).getD 0
          name := (old.map Device.name).getD (bytesOfString "LC7001")
          connected := connected old }) }

/-- `insert or replace into apps` -/
def insertApp (t : Tables) (appId lcmId : List Byte) : Tables :=
  match (literal appId).rowId with
  | none => t
  | some id =>
    { t with
      apps := update t.apps id (some
        { uid := ((t.apps id).map App.uid).getD 0
          deviceId := literal lcmId }) }

/-- `update devices set connected=0 where id=` -/
def disconnectDevice (t : Tables) (id : List Byte) : Tables :=
  match (literal id).rowId with
  | none => t
  | some id =>
    { t with
      devices := update t.devices id ((t.devices id).map fun d => { d with connected := 0 }) }

/-- `update devices set connected=0` -/
def disconnectAll (t : Tables) : Tables :=
  { t with devices := fun id => (t.devices id).map fun d => { d with connected := 0 } }

end Tables

/-- A `uint64_t` in a statement. -/
def shown (x : BitVec 64) : List Byte := digits 20 x.toNat

/-! ### The request -/

/-- `buildErrorResponse` -/
def buildErrorResponse (responseObject : JsonT) (errorString : String) (errorCode : BitVec 64) :
    JsonT :=
  ((responseObject.set "Status" (.string "Error")).set "ErrorText" (.string errorString)).set
    "ErrorCode" (.integer errorCode)

/-- `handleAppRegistration`, with the identifiers of the app and the LCM, if they are published. -/
def handleAppRegistration (uninitialized : ℕ → BitVec 64) (root responseObject : JsonT) :
    JsonT × Option (BitVec 64 × BitVec 64) :=
  match root.get "appID", root.get "lcmID" with
  | none, _ => (buildErrorResponse responseObject "appID object is NULL" 2110, none)
  | some _, none => (buildErrorResponse responseObject "lcmID object is NULL" 2111, none)
  | some appObject, some lcmObject =>
    if !appObject.isInteger then
      (buildErrorResponse responseObject "appID object must be an integer" 2112, none)
    else if !lcmObject.isString then
      (buildErrorResponse responseObject "lcmID object must be a string" 2113, none)
    else
      (responseObject,
        some (appObject.integerValue, macAddressFromString uninitialized lcmObject.chars))

/-- `handleJsonPacket`, up to the response. -/
def handleJsonPacket (uninitialized : ℕ → BitVec 64) (root : JsonT) :
    JsonT × Option (BitVec 64 × BitVec 64) :=
  let responseObject := JsonT.object []
  match root.get "ID" with
  | none =>
    (buildErrorResponse (responseObject.set "ID" (.integer 0)) "No 'ID' field." 2037, none)
  | some idObject =>
    if !idObject.isInteger then
      (buildErrorResponse (responseObject.set "ID" (.integer 0)) "'ID' field not an integer." 2027,
        none)
    else
      let responseObject := responseObject.set "ID" idObject
      match root.get "Service" with
      | none => (buildErrorResponse responseObject "No 'Service' field." 2041, none)
      | some serviceObject =>
        if !serviceObject.isString then
          (buildErrorResponse responseObject "'Service' field not a string." 2080, none)
        else
          let responseObject := responseObject.set "Service" serviceObject
          if serviceObject.chars = bytesOfString "AppRegistration" then
            handleAppRegistration uninitialized root responseObject
          else (buildErrorResponse responseObject "Unknown 'Service'." 2089, none)

/-- The response that is sent. -/
def response (responseObject : JsonT) : JsonT :=
  if (responseObject.get "Status").isNone then responseObject.set "Status" (.string "Success")
  else responseObject

/-! ### The threads -/

/-- What a thread has between the two statements. -/
structure Registration where
  /-- `appId` -/
  appId : BitVec 64
  /-- `lcmId` -/
  lcmId : BitVec 64
  /-- The request. -/
  root : JsonT
  /-- `responseObject` -/
  responseObject : JsonT

/-- The bridge, as far as the registrations go. -/
structure State where
  /-- `db`, where it is not `NULL`. -/
  db : Option Tables
  /-- The bridge is a subscriber of the handler. -/
  subscribed : ℕ → Bool
  /-- The thread of the handler is in `update`, between the statements. -/
  registering : ℕ → Option Registration
  /-- `bridgeMap` has an element for the LCM. -/
  bridgeMap : BitVec 64 → Bool
  /-- The requests that have been answered, with the responses, the last one first. -/
  answers : List (JsonT × JsonT)

namespace State

/-- A statement, if there is a database. -/
def execute (st : State) (statement : Tables → Tables) : State :=
  { st with db := st.db.map statement }

/-- A request is answered. -/
def answer (st : State) (root responseObject : JsonT) : State :=
  { st with answers := (root, response responseObject) :: st.answers }

/-- A packet, up to the second statement.  A handler that has no subscriber yet publishes to
nobody. -/
def packet (st : State) (handler : ℕ) (uninitialized : ℕ → BitVec 64) (root : JsonT) : State :=
  match handleJsonPacket uninitialized root with
  | (responseObject, none) => st.answer root responseObject
  | (responseObject, some (appId, lcmId)) =>
    if st.subscribed handler then
      let st := st.execute fun t =>
        t.insertDevice (shown lcmId) fun old => (old.map Device.connected).getD 0
      { st with
        registering :=
          update st.registering handler (some ⟨appId, lcmId, root, responseObject⟩) }
    -- nobody has stored anything, and the request is answered all the same
    else st.answer root responseObject

/-- The second statement, and the answer. -/
def mapApp (st : State) (handler : ℕ) (r : Registration) : State :=
  let st := st.execute fun t => t.insertApp (shown r.appId) (shown r.lcmId)
  { st.answer r.root r.responseObject with registering := update st.registering handler none }

/-- An LCM says what its MAC address is. -/
def identify (st : State) (uninitialized : ℕ → BitVec 64) (macAddress : List Byte) : State :=
  let lcmDeviceId := macAddressFromString uninitialized macAddress
  if lcmDeviceId = 0 then st
  else
    { st.execute fun t => t.insertDevice (shown lcmDeviceId) fun _ => 1 with
      bridgeMap := update st.bridgeMap lcmDeviceId true }

/-- The connection of an LCM has ended. -/
def disconnect (st : State) (lcmDeviceId : BitVec 64) : State :=
  { st.execute fun t => t.disconnectDevice (shown lcmDeviceId) with
    bridgeMap := update st.bridgeMap lcmDeviceId false }

end State

/-- At the start, with what is in the database. -/
def start (db : Option Tables) : State where
  db := db.map Tables.disconnectAll
  subscribed _ := false
  registering _ := none
  bridgeMap _ := false
  answers := []

/-- What one of the threads does. -/
inductive Event
  /-- The bridge subscribes to a handler, whose thread has been started before. -/
  | subscribe (handler : ℕ)
  /-- A handler has read a packet, if it is JSON. -/
  | packet (handler : ℕ) (uninitialized : ℕ → BitVec 64) (root : Option JsonT)
  /-- A handler goes on with the second statement. -/
  | mapApp (handler : ℕ)
  /-- `update`, for an LCM. -/
  | identify (uninitialized : ℕ → BitVec 64) (macAddress : List Byte)
  /-- The clean-up thread finds an LCM that is not connected any more. -/
  | disconnect (lcmDeviceId : BitVec 64)

/-- The state after an event. -/
def step (st : State) : Event → Option State
  | .subscribe handler => some { st with subscribed := update st.subscribed handler true }
  | .packet handler uninitialized root =>
    -- the thread of the handler is in `update`
    if (st.registering handler).isSome then none
    else some (root.elim st fun root => st.packet handler uninitialized root)
  | .mapApp handler => (st.registering handler).map fun r => st.mapApp handler r
  | .identify uninitialized macAddress => some (st.identify uninitialized macAddress)
  | .disconnect lcmDeviceId =>
    if st.bridgeMap lcmDeviceId then some (st.disconnect lcmDeviceId) else none

/-- **The machine.** -/
def machine : Machine State Event where
  init st := ∃ db, st = start db
  step := step

/-! ### What is asked for -/

/-- The identifier of the app in a request. -/
def appID (root : JsonT) : Option (BitVec 64) :=
  match root.get "appID" with
  | some (.integer a) => some a
  | _ => none

/-- The MAC address that the string in a request stands for. -/
def lcmID (root : JsonT) : Option ℕ :=
  match root.get "lcmID" with
  | some (.string s) => denotes (JsonT.string s).chars
  | _ => none

/-- **The identifiers in a request are valid**: the one of the app is not negative, and the string
stands for a MAC address. -/
def valid (root : JsonT) : Bool :=
  ((appID root).any fun a => decide (0 ≤ a.toInt)) && (lcmID root).isSome

/-- The status in a response. -/
def status (json : JsonT) : Option String :=
  match json.get "Status" with
  | some (.string s) => some s
  | _ => none

namespace State

/-- The row of a device. -/
def device (st : State) (d : ℕ) : Option Device := st.db.bind fun t => t.devices d

/-- The row of an app. -/
def app (st : State) (a : ℤ) : Option App :=
  st.db.bind fun t => if 0 ≤ a then t.apps a.toNat else none

end State

/-- The request that a step belongs to. -/
def request (st : State) : Event → Option JsonT
  | .packet _ _ root => root
  | .mapApp handler => (st.registering handler).map Registration.root
  | _ => none

/-- **What a step of a registration does.** -/
structure Kept (st : State) (e : Event) (st' : State) : Prop where
  /-- After a success, the app is mapped to the LCM. -/
  mapped : ∀ root json, st'.answers = (root, json) :: st.answers → status json = some "Success" →
    ∃ a mac row, appID root = some a ∧ lcmID root = some mac ∧ st'.app a.toInt = some row ∧
      row.deviceId = .integer mac
  /-- The devices stay as they are. -/
  devices : ∀ root, request st e = some root → ∀ d row, st.device d = some row →
    st'.device d = some row
  /-- The other apps stay as they are. -/
  apps : ∀ root, request st e = some root → ∀ a, (appID root).map BitVec.toInt ≠ some a →
    st'.app a = st.app a
  /-- The app keeps its owner. -/
  owner : ∀ root, request st e = some root → ∀ a row, st.app a = some row →
    ∃ row', st'.app a = some row' ∧ row'.uid = row.uid
  /-- A request that is not valid is answered with an error, and changes nothing. -/
  rejected : ∀ handler uninitialized root, e = .packet handler uninitialized (some root) →
    valid root = false → st'.db = st.db ∧ ∃ json, st'.answers = (root, json) :: st.answers ∧
      status json = some "Error"

/-- **Every step of a registration does what it should.** -/
def Registers (st : State) (e : Event) : Prop := ∀ st', step st e = some st' → Kept st e st'

/-- The row that the bridge stores an app in. -/
def rowOf (appId : BitVec 64) : Option ℕ := (literal (shown appId)).rowId

/-- **The apps that have been accepted are in different rows.** -/
def Apart (st : State) : Prop :=
  ∀ x ∈ st.answers, ∀ y ∈ st.answers, status x.2 = some "Success" → status y.2 = some "Success" →
    ∀ a b, appID x.1 = some a → appID y.1 = some b → a ≠ b →
      ∃ i j, rowOf a = some i ∧ rowOf b = some j ∧ i ≠ j

/-- The request is a registration with identifiers of the right types. -/
def isRegistration (root : JsonT) : Bool :=
  ((root.get "ID").any JsonT.isInteger) &&
    ((root.get "Service").any fun service => service.isString &&
      decide (service.chars = bytesOfString "AppRegistration")) &&
    ((root.get "appID").any JsonT.isInteger) && ((root.get "lcmID").any JsonT.isString)

/-- **The condition**: the identifiers in a registration are valid, and the handler has been
subscribed to by then; the database has been opened. -/
def Careful (st : State) : Event → Prop
  | .packet handler _ (some root) =>
    isRegistration root = true →
      valid root = true ∧ st.subscribed handler = true ∧ st.db.isSome = true
  | _ => True

instance (st : State) : DecidablePred (Careful st) := fun e =>
  match e with
  | .packet handler _ (some root) =>
    inferInstanceAs (Decidable (isRegistration root = true →
      valid root = true ∧ st.subscribed handler = true ∧ st.db.isSome = true))
  | .packet _ _ none | .subscribe _ | .mapApp _ | .identify _ _ | .disconnect _ =>
    inferInstanceAs (Decidable True)

/-! ### Literals -/

theorem value_shown (x : BitVec 64) : value (shown x) = x.toNat := by
  have hlt : x.toNat < 2 ^ 64 := x.isLt
  exact value_digits (hlt.trans (by norm_num))

theorem literal_shown {x : BitVec 64} (h : x.toNat < 2 ^ 63) :
    literal (shown x) = .integer x.toNat := by
  rw [literal, value_shown, if_pos h]

theorem rowId_integer (n : ℕ) : (Value.integer n).rowId = some n := by
  rw [Value.rowId, if_pos (Int.natCast_nonneg n), Int.toNat_natCast]

/-- An identifier that is not negative is below the limit of an `INTEGER`. -/
theorem toNat_lt_of_nonneg {a : BitVec 64} (h : 0 ≤ a.toInt) :
    a.toNat < 2 ^ 63 ∧ a.toInt = a.toNat := by
  have hlt := a.isLt
  rw [BitVec.toInt_eq_toNat_cond] at h ⊢
  split_ifs at h ⊢ with hsmall
  · exact ⟨by omega, rfl⟩
  · omega

/-- It is stored under itself. -/
theorem rowOf_of_nonneg {a : BitVec 64} (h : 0 ≤ a.toInt) : rowOf a = some a.toInt.toNat := by
  obtain ⟨hlt, hint⟩ := toNat_lt_of_nonneg h
  rw [rowOf, literal_shown hlt, rowId_integer, hint, Int.toNat_natCast]

/-- **A negative identifier is not stored**: as an unsigned one it is a `REAL`. -/
theorem rowOf_of_neg {a : BitVec 64} (h : a.toInt < 0) : rowOf a = none := by
  have hlt : ¬ a.toNat < 2 ^ 63 := by
    intro hsmall
    rw [BitVec.toInt_eq_toNat_cond, if_pos (by omega)] at h
    omega
  rw [rowOf, literal, value_shown, if_neg hlt]
  rfl

/-! ### The statements -/

namespace Tables

variable {t : Tables}

/-- A device that is there stays as it is, if its connection status does. -/
theorem devices_insertDevice (id : List Byte) {d : ℕ} {row : Device} (h : t.devices d = some row) :
    (t.insertDevice id fun old => (old.map Device.connected).getD 0).devices d = some row := by
  rw [insertDevice]
  cases (literal id).rowId with
  | none => exact h
  | some i =>
    by_cases hd : d = i
    · -- the row is replaced by itself
      subst hd
      exact (update_self ..).trans (by rw [h]; rfl)
    · exact (update_of_ne hd ..).trans h

@[simp] theorem apps_insertDevice (t : Tables) (id : List Byte) (connected : Option Device → ℤ) :
    (t.insertDevice id connected).apps = t.apps := by
  rw [insertDevice]
  cases (literal id).rowId with
  | none => rfl
  | some i => rfl

@[simp] theorem devices_insertApp (t : Tables) (appId lcmId : List Byte) :
    (t.insertApp appId lcmId).devices = t.devices := by
  rw [insertApp]
  cases (literal appId).rowId with
  | none => rfl
  | some i => rfl

/-- What is stored for an app. -/
theorem apps_insertApp {appId : List Byte} {i : ℕ} (h : (literal appId).rowId = some i)
    (lcmId : List Byte) (j : ℕ) :
    (t.insertApp appId lcmId).apps j =
      if j = i then some ⟨((t.apps i).map App.uid).getD 0, literal lcmId⟩ else t.apps j := by
  rw [insertApp, h]
  exact Function.update_apply ..

end Tables

/-! ### The response -/

/-- An error is not turned into a success. -/
theorem status_buildErrorResponse {json : JsonT} (h : json.isObject = true) (errorString : String)
    (errorCode : BitVec 64) :
    status (response (buildErrorResponse json errorString errorCode)) = some "Error" := by
  have hstatus : (buildErrorResponse json errorString errorCode).get "Status" =
      some (.string "Error") := by
    rw [buildErrorResponse, JsonT.get_set_ne _ (by decide), JsonT.get_set_ne _ (by decide),
      JsonT.get_set_self h]
  rw [response, hstatus, if_neg (by decide), status, hstatus]

/-- Identifiers that are missing or of other types are answered with an error. -/
theorem handleAppRegistration_of_not (uninitialized : ℕ → BitVec 64) {root o : JsonT}
    (ho : o.isObject = true)
    (h : ((root.get "appID").any JsonT.isInteger && (root.get "lcmID").any JsonT.isString) =
      false) :
    ∃ o', handleAppRegistration uninitialized root o = (o', none) ∧
      status (response o') = some "Error" := by
  rw [handleAppRegistration]
  cases happ : root.get "appID" with
  | none => exact ⟨_, rfl, status_buildErrorResponse ho ..⟩
  | some appObject =>
    cases hlcm : root.get "lcmID" with
    | none => exact ⟨_, rfl, status_buildErrorResponse ho ..⟩
    | some lcmObject =>
      rw [happ, hlcm, Option.any_some, Option.any_some] at h
      dsimp only
      cases hinteger : appObject.isInteger with
      | false => exact ⟨_, rfl, status_buildErrorResponse ho ..⟩
      | true =>
        rw [hinteger, Bool.true_and] at h
        rw [h]
        exact ⟨_, rfl, status_buildErrorResponse ho ..⟩

/-- **A request that is no registration** is answered with an error. -/
theorem handleJsonPacket_of_not (uninitialized : ℕ → BitVec 64) {root : JsonT}
    (h : isRegistration root = false) :
    ∃ o, handleJsonPacket uninitialized root = (o, none) ∧ status (response o) = some "Error" := by
  rw [isRegistration] at h
  rw [handleJsonPacket]
  cases hid : root.get "ID" with
  | none => exact ⟨_, rfl, status_buildErrorResponse rfl ..⟩
  | some idObject =>
    dsimp only
    cases hinteger : idObject.isInteger with
    | false => exact ⟨_, rfl, status_buildErrorResponse rfl ..⟩
    | true =>
      cases hservice : root.get "Service" with
      | none => exact ⟨_, rfl, status_buildErrorResponse rfl ..⟩
      | some serviceObject =>
        rw [hid, Option.any_some, hinteger, hservice, Option.any_some, Bool.true_and] at h
        dsimp only
        cases hstring : serviceObject.isString with
        | false => exact ⟨_, rfl, status_buildErrorResponse rfl ..⟩
        | true =>
          by_cases hname : serviceObject.chars = bytesOfString "AppRegistration"
          · rw [hstring, decide_eq_true hname, Bool.true_and, Bool.true_and] at h
            rw [if_pos hname]
            exact handleAppRegistration_of_not uninitialized rfl h
          · rw [if_neg hname]
            exact ⟨_, rfl, status_buildErrorResponse rfl ..⟩

/-- **A registration is published**, with the identifiers as the bridge has them. -/
theorem handleJsonPacket_of_isRegistration (uninitialized : ℕ → BitVec 64) {root : JsonT}
    (h : isRegistration root = true) :
    ∃ o a s, root.get "appID" = some (.integer a) ∧ root.get "lcmID" = some (.string s) ∧
      handleJsonPacket uninitialized root =
        (o, some (a, macAddressFromString uninitialized (JsonT.string s).chars)) := by
  rw [isRegistration] at h
  obtain ⟨⟨⟨hid, hservice⟩, happ⟩, hlcm⟩ := by simpa only [Bool.and_eq_true] using h
  obtain ⟨idObject, hid, hinteger⟩ := (Option.any_eq_true ..).1 hid
  obtain ⟨serviceObject, hservice, hname⟩ := (Option.any_eq_true ..).1 hservice
  obtain ⟨hstring, hname⟩ := Bool.and_eq_true_iff.1 hname
  obtain ⟨appObject, happ, hnumber⟩ := (Option.any_eq_true ..).1 happ
  obtain ⟨lcmObject, hlcm, htext⟩ := (Option.any_eq_true ..).1 hlcm
  cases appObject with
  | integer a =>
    cases lcmObject with
    | string s =>
      refine ⟨((JsonT.object []).set "ID" idObject).set "Service" serviceObject, a, s, happ, hlcm,
        ?_⟩
      rw [handleJsonPacket, hid]
      dsimp only
      rw [hinteger, hservice]
      dsimp only
      rw [hstring, if_pos (of_decide_eq_true hname), handleAppRegistration, happ, hlcm]
      rfl
    | _ => exact nomatch htext
  | _ => exact nomatch hnumber

/-! ### The steps of a registration -/

theorem valid_iff {root : JsonT} : valid root = true ↔
    (∃ a, appID root = some a ∧ 0 ≤ a.toInt) ∧ ∃ mac, lcmID root = some mac := by
  rw [valid, Bool.and_eq_true, Option.any_eq_true, Option.isSome_iff_exists]
  simp only [decide_eq_true_eq]

/-- The identifiers that the bridge has are those of the request, and valid. -/
structure Registration.Sound (r : Registration) : Prop where
  /-- The identifier of the app. -/
  app : appID r.root = some r.appId
  /-- It is not negative. -/
  nonneg : 0 ≤ r.appId.toInt
  /-- The identifier of the LCM. -/
  lcm : ∃ mac, lcmID r.root = some mac ∧ r.lcmId = BitVec.ofNat 64 mac

/-- **The invariant.** -/
structure Inv (st : State) : Prop where
  /-- Only valid requests have been accepted. -/
  accepted : ∀ x ∈ st.answers, status x.2 = some "Success" → valid x.1 = true
  /-- What is between the statements. -/
  registering : ∀ handler r, st.registering handler = some r → st.db.isSome = true ∧ r.Sound

theorem inv_start (db : Option Tables) : Inv (start db) where
  accepted := fun _ hx => nomatch hx
  registering := fun _ _ hr => nomatch hr

variable {st st' : State} {e : Event} {handler : ℕ} {uninitialized : ℕ → BitVec 64} {root : JsonT}

theorem Registration.Sound.valid {r : Registration} (h : r.Sound) : valid r.root = true := by
  obtain ⟨mac, hmac, -⟩ := h.lcm
  exact valid_iff.2 ⟨⟨r.appId, h.app, h.nonneg⟩, mac, hmac⟩

/-- The first statement, for a valid registration. -/
theorem packet_of_isRegistration (hreg : isRegistration root = true) (hvalid : valid root = true)
    (hsubscribed : st.subscribed handler = true) :
    ∃ r : Registration, r.Sound ∧ r.root = root ∧ st.packet handler uninitialized root =
      { st.execute fun t =>
          t.insertDevice (shown r.lcmId) fun old => (old.map Device.connected).getD 0 with
        registering := update st.registering handler (some r) } := by
  obtain ⟨o, a, s, happ, hlcm, hpacket⟩ := handleJsonPacket_of_isRegistration uninitialized hreg
  obtain ⟨⟨a', ha', hnonneg⟩, mac, hmac⟩ := valid_iff.1 hvalid
  have ha : appID root = some a := by rw [appID, happ]
  obtain rfl : a = a' := Option.some.inj (ha.symm.trans ha')
  have hdenotes : denotes (JsonT.string s).chars = some mac := by
    rw [lcmID, hlcm] at hmac
    exact hmac
  refine ⟨⟨a, macAddressFromString uninitialized (JsonT.string s).chars, root, o⟩,
    ⟨ha, hnonneg, mac, hmac, macAddressFromString_of_denotes uninitialized hdenotes⟩, rfl, ?_⟩
  rw [State.packet, hpacket]
  exact if_pos hsubscribed

/-- A request that is no registration. -/
theorem packet_of_not (hreg : isRegistration root = false) :
    ∃ o, st.packet handler uninitialized root = st.answer root o ∧
      status (response o) = some "Error" := by
  obtain ⟨o, hpacket, hstatus⟩ := handleJsonPacket_of_not uninitialized hreg
  refine ⟨o, ?_, hstatus⟩
  rw [State.packet, hpacket]

/-- A statement that does not concern the apps. -/
theorem app_execute (st : State) {statement : Tables → Tables}
    (h : ∀ t, (statement t).apps = t.apps) (a : ℤ) : (st.execute statement).app a = st.app a := by
  rw [State.app, State.app, State.execute]
  cases st.db with
  | none => rfl
  | some t =>
    show (if 0 ≤ a then (statement t).apps a.toNat else none) = _
    rw [h]
    rfl

/-- A request that is answered with an error changes nothing. -/
theorem kept_answer {o : JsonT} (hstatus : status (response o) = some "Error") :
    Kept st (.packet handler uninitialized (some root)) (st.answer root o) where
  mapped := by
    intro root' json hanswers hsuccess
    obtain ⟨rfl, rfl⟩ := Prod.mk.inj (List.cons.inj hanswers).1
    rw [hstatus] at hsuccess
    exact absurd hsuccess (by decide)
  devices := fun _ _ _ _ hrow => hrow
  apps := fun _ _ _ _ => rfl
  owner := fun _ _ _ row hrow => ⟨row, hrow, rfl⟩
  rejected := by
    intro handler' uninitialized' root' he hvalid
    obtain rfl : root = root' := by
      injection he with _ _ hroot
      exact Option.some.inj hroot
    exact ⟨rfl, response o, rfl, hstatus⟩

/-- **The first statement** adds a device, if it is not there. -/
theorem kept_insertDevice {r : Registration} (h : r.Sound)
    (registering : ℕ → Option Registration) :
    Kept st (.packet handler uninitialized (some r.root))
      { st.execute fun t =>
          t.insertDevice (shown r.lcmId) fun old => (old.map Device.connected).getD 0 with
        registering } where
  mapped := fun _ _ hanswers => absurd hanswers.symm (List.cons_ne_self _ _)
  devices := by
    intro root _ d row hrow
    obtain ⟨t, hdb, hrow⟩ := Option.bind_eq_some_iff.1 hrow
    exact Option.bind_eq_some_iff.2 ⟨_, by rw [State.execute, hdb]; rfl,
      Tables.devices_insertDevice _ hrow⟩
  apps := fun _ _ a _ => app_execute st (fun t => t.apps_insertDevice ..) a
  owner := fun _ _ a row hrow =>
    ⟨row, (app_execute st (fun t => t.apps_insertDevice ..) a).trans hrow, rfl⟩
  rejected := by
    intro handler' uninitialized' root he hvalid
    obtain rfl : r.root = root := by
      injection he with _ _ hroot
      exact Option.some.inj hroot
    rw [h.valid] at hvalid
    exact nomatch hvalid

/-- The row of an app after the second statement. -/
theorem app_insertApp {r : Registration} (h : r.Sound) {t : Tables} (hdb : st.db = some t)
    (a : ℤ) :
    (st.execute fun t => t.insertApp (shown r.appId) (shown r.lcmId)).app a =
      if a = r.appId.toInt then
        some ⟨((t.apps a.toNat).map App.uid).getD 0, literal (shown r.lcmId)⟩
      else st.app a := by
  have hrow : (literal (shown r.appId)).rowId = some r.appId.toInt.toNat := rowOf_of_nonneg h.nonneg
  rw [State.app, State.app, State.execute, hdb]
  show (if 0 ≤ a then (t.insertApp (shown r.appId) (shown r.lcmId)).apps a.toNat else none) = _
  rw [Tables.apps_insertApp hrow]
  by_cases ha : a = r.appId.toInt
  · subst ha
    rw [if_pos h.nonneg, if_pos rfl, if_pos rfl]
  · rw [if_neg ha]
    by_cases hnonneg : 0 ≤ a
    · have hne : a.toNat ≠ r.appId.toInt.toNat := by
        have := h.nonneg
        omega
      rw [if_pos hnonneg, if_neg hne]
      exact (if_pos hnonneg).symm
    · rw [if_neg hnonneg]
      exact (if_neg hnonneg).symm

/-- The MAC address is stored as it is. -/
theorem literal_lcmId {mac : ℕ} (h : lcmID root = some mac) :
    literal (shown (BitVec.ofNat 64 mac)) = .integer mac := by
  have hlt : mac < 256 ^ 6 := by
    rw [lcmID] at h
    split at h
    · exact lt_of_denotes h
    · exact nomatch h
  have hmod : (BitVec.ofNat 64 mac).toNat = mac := by
    rw [BitVec.toNat_ofNat]
    exact Nat.mod_eq_of_lt (by omega)
  rw [literal_shown (by rw [hmod]; omega), hmod]

/-- **The second statement** maps the app to the LCM. -/
theorem kept_mapApp {r : Registration} (h : r.Sound) (hr : st.registering handler = some r)
    (hdb : st.db.isSome = true) : Kept st (.mapApp handler) (st.mapApp handler r) := by
  obtain ⟨t, hdb⟩ := Option.isSome_iff_exists.1 hdb
  obtain ⟨mac, hmac, hlcm⟩ := h.lcm
  have hrow : ∀ a, (st.mapApp handler r).app a = _ := app_insertApp h hdb
  have hrequest : ∀ root, request st (.mapApp handler) = some root → r.root = root := by
    intro root hroot
    rw [request, hr] at hroot
    exact Option.some.inj hroot
  constructor
  case mapped =>
    intro root json hanswers _
    obtain ⟨rfl, -⟩ := Prod.mk.inj (List.cons.inj hanswers).1
    refine ⟨r.appId, mac, _, h.app, hmac, (hrow _).trans (if_pos rfl), ?_⟩
    show literal (shown r.lcmId) = .integer mac
    rw [hlcm, literal_lcmId hmac]
  case devices =>
    intro root _ d row hdevice
    obtain ⟨t', hdb', hdevice⟩ := Option.bind_eq_some_iff.1 hdevice
    refine Option.bind_eq_some_iff.2 ⟨_, by rw [State.mapApp, State.execute, hdb']; rfl, ?_⟩
    rwa [Tables.devices_insertApp]
  case apps =>
    intro root hroot a hne
    obtain rfl := hrequest root hroot
    refine (hrow a).trans (if_neg ?_)
    rintro rfl
    rw [h.app] at hne
    exact hne rfl
  case owner =>
    intro root _ a row happ
    by_cases ha : a = r.appId.toInt
    · refine ⟨_, (hrow a).trans (if_pos ha), ?_⟩
      have hold : t.apps a.toNat = some row := by
        rw [State.app, hdb] at happ
        exact (if_pos (ha ▸ h.nonneg)).symm.trans happ
      show ((t.apps a.toNat).map App.uid).getD 0 = row.uid
      rw [hold]
      rfl
    · exact ⟨row, ((hrow a).trans (if_neg ha)).trans happ, rfl⟩
  case rejected => exact fun _ _ _ he => nomatch he

/-! ### Runs -/

/-- A step that belongs to no registration, and answers nothing. -/
theorem kept_of_request_eq_none (hrequest : request st e = none)
    (hanswers : st'.answers = st.answers) : Kept st e st' where
  mapped := by
    intro root json hcons
    rw [hanswers] at hcons
    exact absurd hcons.symm (List.cons_ne_self _ _)
  devices := fun _ hroot => nomatch hrequest.symm.trans hroot
  apps := fun _ hroot => nomatch hrequest.symm.trans hroot
  owner := fun _ hroot => nomatch hrequest.symm.trans hroot
  rejected := by
    rintro handler uninitialized root rfl
    exact nomatch hrequest

/-- The statements of the LCMs do not concern the registrations. -/
theorem Inv.of_eq (h : Inv st) (hanswers : st'.answers = st.answers)
    (hregistering : st'.registering = st.registering)
    (hdb : st'.db.isSome = st.db.isSome) : Inv st' where
  accepted := by
    rw [hanswers]
    exact h.accepted
  registering := by
    rw [hregistering, hdb]
    exact h.registering

theorem isSome_execute (st : State) (statement : Tables → Tables) :
    (st.execute statement).db.isSome = st.db.isSome := by
  rw [State.execute]
  exact Option.isSome_map

/-- An answer that is no success. -/
theorem Inv.answer (h : Inv st) {o : JsonT} (hstatus : status (response o) = some "Error") :
    Inv (st.answer root o) where
  accepted := by
    intro x hx hsuccess
    obtain rfl | hx := List.mem_cons.1 hx
    · rw [hstatus] at hsuccess
      exact absurd hsuccess (by decide)
    · exact h.accepted x hx hsuccess
  registering := h.registering

/-- **A step.** -/
theorem inv_step (h : Inv st) (hcareful : Careful st e) (hstep : step st e = some st') :
    Inv st' ∧ Kept st e st' := by
  cases e with
  | subscribe handler =>
    rw [← Option.some.inj hstep]
    exact ⟨h.of_eq rfl rfl rfl, kept_of_request_eq_none rfl rfl⟩
  | packet handler uninitialized root =>
    rw [step] at hstep
    split_ifs at hstep
    rw [← Option.some.inj hstep]
    cases root with
    | none => exact ⟨h, kept_of_request_eq_none rfl rfl⟩
    | some root =>
      rw [Option.elim_some]
      cases hreg : isRegistration root with
      | false =>
        obtain ⟨o, hpacket, hstatus⟩ : ∃ o,
            st.packet handler uninitialized root = st.answer root o ∧
              status (response o) = some "Error" := packet_of_not hreg
        rw [hpacket]
        exact ⟨h.answer hstatus, kept_answer hstatus⟩
      | true =>
        obtain ⟨hvalid, hsubscribed, hdb⟩ := hcareful hreg
        obtain ⟨r, hsound, rfl, hpacket⟩ := packet_of_isRegistration hreg hvalid hsubscribed
        rw [hpacket]
        refine ⟨⟨h.accepted, fun i r' hr' => ⟨(isSome_execute ..).trans hdb, ?_⟩⟩,
          kept_insertDevice hsound _⟩
        by_cases hi : i = handler
        · subst hi
          have hself : update st.registering i (some r) i = some r := update_self ..
          obtain rfl : r = r' := Option.some.inj (hself.symm.trans hr')
          exact hsound
        · exact (h.registering i r' ((update_of_ne hi ..).symm.trans hr')).2
  | mapApp handler =>
    obtain ⟨r, hr, rfl⟩ := Option.map_eq_some_iff.1 hstep
    obtain ⟨hdb, hsound⟩ := h.registering handler r hr
    refine ⟨⟨fun x hx hsuccess => ?_, fun i r' hr' => ⟨(isSome_execute ..).trans hdb, ?_⟩⟩,
      kept_mapApp hsound hr hdb⟩
    · obtain rfl | hx := List.mem_cons.1 hx
      · exact hsound.valid
      · exact h.accepted x hx hsuccess
    · by_cases hi : i = handler
      · subst hi
        have hself : update st.registering i none i = none := update_self ..
        exact nomatch hself.symm.trans hr'
      · exact (h.registering i r' ((update_of_ne hi ..).symm.trans hr')).2
  | identify uninitialized macAddress =>
    rw [← Option.some.inj hstep, State.identify]
    dsimp only
    split_ifs
    · exact ⟨h, kept_of_request_eq_none rfl rfl⟩
    · exact ⟨h.of_eq rfl rfl (isSome_execute ..), kept_of_request_eq_none rfl rfl⟩
  | disconnect lcmDeviceId =>
    obtain ⟨-, hstep⟩ := Option.ite_none_right_eq_some.1 hstep
    rw [← Option.some.inj hstep]
    exact ⟨h.of_eq rfl rfl (isSome_execute ..), kept_of_request_eq_none rfl rfl⟩

/-- Valid identifiers that differ are stored in different rows. -/
theorem Inv.apart (h : Inv st) : Apart st := by
  intro x hx y hy hsuccess hsuccess' a b ha hb hne
  obtain ⟨⟨a', ha', hnonneg⟩, -⟩ := valid_iff.1 (h.accepted x hx hsuccess)
  obtain ⟨⟨b', hb', hnonneg'⟩, -⟩ := valid_iff.1 (h.accepted y hy hsuccess')
  obtain rfl : a = a' := Option.some.inj (ha.symm.trans ha')
  obtain rfl : b = b' := Option.some.inj (hb.symm.trans hb')
  refine ⟨_, _, rowOf_of_nonneg hnonneg, rowOf_of_nonneg hnonneg', fun heq => hne ?_⟩
  apply BitVec.eq_of_toInt_eq
  omega

/-- **Every registration does what it should**, whatever the other threads do in between, if the
identifiers are valid and the bridge has subscribed to the handlers. -/
theorem registrations_kept (db : Option Tables) (es : List Event)
    (h : machine.AllSteps Careful (start db) es) :
    machine.AllSteps Registers (start db) es ∧ machine.AllStates Apart (start db) es := by
  have hstep : ∀ st e st', Inv st → Careful st e → machine.step st e = some st' → Inv st' :=
    fun _ _ _ hinv hcareful hnext => (inv_step hinv hcareful hnext).1
  refine ⟨Machine.allSteps_of_allSteps hstep ?_ (inv_start db) h,
    (Machine.allStates_of_allSteps hstep (inv_start db) h).imp fun _ hinv => hinv.apart⟩
  exact fun _ _ _ hinv hcareful _ _ hnext => (inv_step hinv hcareful hnext).2

/-- A registration. -/
def registration (a : BitVec 64) (lcm : String) : JsonT :=
  .object [("ID", .integer 1), ("Service", .string "AppRegistration"), ("appID", .integer a),
    ("lcmID", .string lcm)]

/-- Two apps register at the same time. -/
theorem registrations_kept_two :
    machine.AllSteps Registers (start (some ⟨fun _ => none, fun _ => none⟩))
      [.subscribe 0, .subscribe 1, .packet 0 0 (some (registration 7 "00:26:EC:0:1:2a")),
        .packet 1 0 (some (registration 8 "00:26:EC:0:1:2a")), .mapApp 1,
        .identify 0 (bytesOfString "00:26:EC:00:01:2A"), .mapApp 0] ∧
    machine.AllStates Apart (start (some ⟨fun _ => none, fun _ => none⟩))
      [.subscribe 0, .subscribe 1, .packet 0 0 (some (registration 7 "00:26:EC:0:1:2a")),
        .packet 1 0 (some (registration 8 "00:26:EC:0:1:2a")), .mapApp 1,
        .identify 0 (bytesOfString "00:26:EC:00:01:2A"), .mapApp 0] :=
  registrations_kept _ _ (by decide +kernel)

/-- **A negative identifier** is answered with a success, and not stored. -/
theorem negative_not_registered : ¬ ∀ db es, machine.AllSteps Registers (start db) es := by
  intro h
  let db : Tables := ⟨fun _ => none, fun _ => none⟩
  let es : List Event :=
    [.subscribe 0, .packet 0 0 (some (registration (-1) "00:26:EC:00:01:2A"))]
  have hrun : (machine.run (start (some db)) es).any (fun st => (st.registering 0).any fun r =>
      decide (appID r.root = some (-1)) &&
        decide (status (response r.responseObject) = some "Success")) = true := by
    decide +kernel
  obtain ⟨st, hst, hregistering⟩ := (Option.any_eq_true ..).1 hrun
  obtain ⟨r, hr, hboth⟩ := (Option.any_eq_true ..).1 hregistering
  obtain ⟨happ, hsuccess⟩ := Bool.and_eq_true_iff.1 hboth
  have hstep : step st (.mapApp 0) = some (st.mapApp 0 r) := by
    rw [step, hr]
    rfl
  have hall := h (some db) (es ++ [Event.mapApp 0])
  have hregisters : Registers st (.mapApp 0) := hall.last hst hstep
  have hkept := hregisters _ hstep
  obtain ⟨a, mac, row, ha, -, hrow, -⟩ := hkept.mapped r.root _ rfl (of_decide_eq_true hsuccess)
  -- there is no row for a negative identifier
  obtain rfl : a = -1 := Option.some.inj (ha.symm.trans (of_decide_eq_true happ))
  obtain ⟨t, -, hnone⟩ := Option.bind_eq_some_iff.1 hrow
  rw [if_neg (by decide)] at hnone
  exact nomatch hnone

end Directory

end Server

end Lcm
