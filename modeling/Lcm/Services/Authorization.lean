import Lcm.Jsa.Authentication
import Lcm.Services.Process

/-!
# What a limited socket and a watch may do

A connection to a controller without a key is limited: it is there to set the user key, and nothing
else.  A watch authenticates each request and has six services.  Any other request from either of
them is meant to be without effect.

The code keeps to this but for three kinds of request.  `ManufacturingTestMode` is refused to
watches only, so that a limited socket turns the test mode on; while it is on, the services of the
test mode are there for every socket, and no watch is asked to authenticate itself.  And since a
property that a limited socket may not set is skipped without an error, a limited socket that sets
properties other than the keys makes the controller tell all sockets that they have been set.

## Main definitions

* `Inert`, `AdoptsKey` : a request had no effect; it has set the user key.
* `Authorized` : what may become of a request.
* `Confined` : the condition on a request.

## Main results

* `authorized_iff` : which requests are authorized.
* `allSteps_authorized_iff` : so it is in every run.
* `not_allSteps_authorized` : a limited socket turns the test mode on.
-/

namespace Lcm

namespace Services

open Jsa (Block JsonSocket Settings)
open Json (SocketIndex)

variable {D : Type*} {encrypt decrypt : Block → Block → Block} {handlers : Handlers D}
  {st : State D} {i : SocketIndex} {input : Input} {serviceText : String} {root : JsonT}

/-! ### Specification -/

/-- Nothing has changed, and no one but the sender has been told anything. -/
structure Inert (st : State D) (i : SocketIndex) (o : Outcome D) : Prop where
  /-- The state is as it was. -/
  state : o.state = st
  /-- All that has been sent has been sent to the socket. -/
  effects : ∀ e ∈ o.effects, ∃ packet, e = .sendJSONPacket i packet
  /-- Nothing is broadcast. -/
  broadcast : o.broadcast = none

/-- The request sets the property `Keys`. -/
def SetsKeys (root : JsonT) (keys : String) : Prop :=
  requestedService root = .ok "SetSystemProperties" ∧
    ∃ members, root.get "PropertyList" = some (.object members) ∧
      members.lookup "Keys" = some (.string keys)

/-- The user key has been set, through the property `Keys`, by someone who knew the old key; this
ends the other sessions, and the limitation of this one. -/
structure AdoptsKey (decrypt : Block → Block → Block) (root : JsonT) (st : State D)
    (i : SocketIndex) (o : Outcome D) (keys : String) (new : Block) : Prop where
  /-- The property is there. -/
  setsKeys : SetsKeys root keys
  /-- The old key is right. -/
  knowsKey : decrypt (localKey st.jsa.settings) (parseHex ((JsonT.bytesOfString keys).take 32)) =
    localKey st.jsa.settings
  /-- The new key is adopted. -/
  state : o.state = { st with jsa := st.jsa.adoptKey i new }
  /-- It is written to flash. -/
  effects : o.effects = [.writeUserKeyToFlash new]
  /-- Nothing is broadcast. -/
  broadcast : o.broadcast = none

/-- What may become of a request. -/
structure Authorized (decrypt : Block → Block → Block) (handlers : Handlers D)
    (root : Option JsonT) (i : SocketIndex) (input : Input) (st : State D) : Prop where
  /-- A limited socket can set the user key. -/
  limited : Limited st i → Inert st i (processJsonPacket decrypt handlers input root i st) ∨
    ∃ json keys new, root = some json ∧
      AdoptsKey decrypt json st i (processJsonPacket decrypt handlers input root i st) keys new
  /-- A watch that is authenticated has its services. -/
  watch : (st.jsa.jsonSockets i).WatchSocket = true →
    Inert st i (processJsonPacket decrypt handlers input root i st) ∨
    ∃ json serviceText, root = some json ∧ requestedService json = .ok serviceText ∧
      serviceText ∈ watchServices ∧ testWatchAuth decrypt input st json = true

/-- In the test mode, the request would be carried out. -/
def TestModeCommand (serviceText : String) (root : JsonT) : Prop :=
  serviceText = "MTMSendRFPacket" ∧ (mtmSendRFPacket root).isOk = true ∨
    serviceText = "SetOutput" ∧ (mtmSetOutput root).isOk = true ∨
    serviceText = "SetMACAddress" ∧ (mtmSetMACAddress root).isOk = true

instance : Decidable (TestModeCommand serviceText root) :=
  inferInstanceAs (Decidable (_ ∨ _ ∨ _))

/-- The request sets properties, and the keys are not among them. -/
def SetsOnlyOthers (serviceText : String) (root : JsonT) : Prop :=
  serviceText = "SetSystemProperties" ∧
    ((root.get "PropertyList").any fun properties =>
      properties.isObject && (properties.get "Keys").isNone) = true

instance : Decidable (SetsOnlyOthers serviceText root) := inferInstanceAs (Decidable (_ ∧ _))

/-- The request turns the test mode on or off. -/
def SetsTestMode (serviceText : String) (root : JsonT) : Prop :=
  serviceText = "ManufacturingTestMode" ∧ (root.get "State").any JsonT.isBoolean = true

instance : Decidable (SetsTestMode serviceText root) := inferInstanceAs (Decidable (_ ∧ _))

/-- The condition on a service that is requested. -/
structure ConfinedService (serviceText : String) (root : JsonT) (i : SocketIndex)
    (st : State D) : Prop where
  /-- A limited socket does not set the test mode. -/
  testMode : Limited st i → ¬ SetsTestMode serviceText root
  /-- In the test mode, neither a limited socket nor a watch gives one of its commands. -/
  command : Limited st i ∨ (st.jsa.jsonSockets i).WatchSocket = true →
    st.manufacturingTestModeFlag = true → ¬ TestModeCommand serviceText root
  /-- Properties set by a limited socket have the keys among them. -/
  keys : Limited st i → st.manufacturingTestModeFlag = false → ¬ SetsOnlyOthers serviceText root

theorem confinedService_iff : ConfinedService serviceText root i st ↔
    (Limited st i → ¬ SetsTestMode serviceText root) ∧
    (Limited st i ∨ (st.jsa.jsonSockets i).WatchSocket = true →
      st.manufacturingTestModeFlag = true → ¬ TestModeCommand serviceText root) ∧
    (Limited st i → st.manufacturingTestModeFlag = false → ¬ SetsOnlyOthers serviceText root) :=
  ⟨fun h => ⟨h.testMode, h.command, h.keys⟩, fun h => ⟨h.1, h.2.1, h.2.2⟩⟩

instance : Decidable (ConfinedService serviceText root i st) :=
  decidable_of_iff _ confinedService_iff.symm

/-- The condition on a request. -/
def Confined (root : Option JsonT) (i : SocketIndex) (st : State D) : Prop :=
  match root with
  | none => True
  | some root =>
    match requestedService root with
    | .error _ => True
    | .ok serviceText => ConfinedService serviceText root i st

instance (root : Option JsonT) : Decidable (Confined root i st) := by
  unfold Confined
  split
  · exact .isTrue trivial
  · split
    · exact .isTrue trivial
    · infer_instance

/-! ### The services, one by one -/

theorem inert_unchanged (reply : Option Error) : Inert st i { state := st, reply := reply } where
  state := rfl
  effects := nofun
  broadcast := rfl

theorem not_inert_of_effect {o : Outcome D} {e : Effect} (he : e ∈ o.effects)
    (hne : ∀ packet, e ≠ .sendJSONPacket i packet) : ¬ Inert st i o := by
  intro h
  obtain ⟨packet, heq⟩ := h.effects e he
  exact hne packet heq

/-- A request that is checked is without effect if it does not pass. -/
theorem inert_ofChecked_iff {α : Type*} {checked : Except Error α} {carryOut : α → Outcome D}
    (heffect : ∀ a, ∃ e ∈ (carryOut a).effects, ∀ packet, e ≠ .sendJSONPacket i packet) :
    Inert st i (.ofChecked st checked carryOut) ↔ ¬ checked.isOk = true := by
  cases checked with
  | error e => exact iff_of_true (inert_unchanged (some e)) nofun
  | ok a =>
    obtain ⟨e, he, hne⟩ := heffect a
    exact iff_of_false (not_inert_of_effect he hne) (not_not_intro rfl)

theorem inert_handleMTMSendRFPacket_iff :
    Inert st i (handleMTMSendRFPacket root st) ↔ ¬ (mtmSendRFPacket root).isOk = true :=
  inert_ofChecked_iff fun _ => ⟨_, List.mem_singleton_self _, nofun⟩

theorem inert_handleMTMSetOutput_iff :
    Inert st i (handleMTMSetOutput root st) ↔ ¬ (mtmSetOutput root).isOk = true :=
  inert_ofChecked_iff fun _ => ⟨_, List.mem_singleton_self _, nofun⟩

theorem inert_handleMTMSetMACAddress_iff :
    Inert st i (handleMTMSetMACAddress input root st) ↔ ¬ (mtmSetMACAddress root).isOk = true :=
  inert_ofChecked_iff fun _ => ⟨_, List.mem_singleton_self _, nofun⟩

/-- A request in the test mode is without effect unless it is one of its commands. -/
theorem inert_testModeService_iff :
    Inert st i (testModeService input serviceText root st) ↔
      ¬ TestModeCommand serviceText root := by
  unfold testModeService TestModeCommand
  by_cases hsend : serviceText = "MTMSendRFPacket"
  · simp [hsend, inert_handleMTMSendRFPacket_iff]
  by_cases houtput : serviceText = "SetOutput"
  · simp [houtput, inert_handleMTMSetOutput_iff]
  by_cases haddress : serviceText = "SetMACAddress"
  · simp [haddress, inert_handleMTMSetMACAddress_iff]
  rw [if_neg hsend, if_neg houtput, if_neg haddress]
  have hnot : ¬ (serviceText = "MTMSendRFPacket" ∧ (mtmSendRFPacket root).isOk = true ∨
      serviceText = "SetOutput" ∧ (mtmSetOutput root).isOk = true ∨
      serviceText = "SetMACAddress" ∧ (mtmSetMACAddress root).isOk = true) := by
    simp [hsend, houtput, haddress]
  split_ifs
  · exact iff_of_true (inert_unchanged none) hnot
  · exact iff_of_true (inert_unchanged _) hnot

/-- The services of the test mode do not write the user key. -/
theorem not_adoptsKey_testModeService {keys : String} {new : Block} :
    ¬ AdoptsKey decrypt root st i (testModeService input serviceText root st) keys new := by
  intro h
  have heffects := h.effects
  simp only [testModeService, handleMTMSendRFPacket, handleMTMSetOutput, handleMTMSetMACAddress,
    Outcome.ofChecked, Outcome.error] at heffects
  split_ifs at heffects <;> (split at heffects <;> cases heffects)

/-- Setting the test mode tells all sockets. -/
theorem handleManufacturingTestMode_spec (root : JsonT) (i : SocketIndex) (st : State D) :
    Inert st i (handleManufacturingTestMode root st) ∧
        ¬ (root.get "State").any JsonT.isBoolean = true ∨
      (handleManufacturingTestMode root st).broadcast ≠ none ∧
        (root.get "State").any JsonT.isBoolean = true := by
  unfold handleManufacturingTestMode
  by_cases hstate : (root.get "State").any JsonT.isBoolean = true
  · right
    simp [hstate]
  · left
    simp only [hstate]
    exact ⟨inert_unchanged _, nofun⟩

/-- A request of a watch is without effect unless it is authorized. -/
theorem inert_watchService :
    Inert st i (watchService decrypt handlers input serviceText root i st) ∨
      serviceText ∈ watchServices ∧ testWatchAuth decrypt input st root = true := by
  unfold watchService
  by_cases hauth : testWatchAuth decrypt input st root = true
  · rw [if_pos hauth]
    by_cases hservice : serviceText ∈ watchServices
    · exact .inr ⟨hservice, hauth⟩
    · rw [if_neg hservice]
      exact .inl (inert_unchanged none)
  · rw [if_neg hauth]
    refine .inl ⟨rfl, fun e he => ?_, rfl⟩
    rw [List.mem_singleton] at he
    exact ⟨_, he⟩

/-! ### The properties of a limited socket -/

/-- A limited socket sets the keys, if they are there, and nothing else. -/
theorem systemPropertiesPass_of_limited (hlimited : Limited st i) (setFlag : Bool)
    (members : List (String × JsonT)) :
    systemPropertiesPass decrypt handlers i setFlag members st =
      match members.lookup "Keys" with
      | none => ({ state := st }, false)
      | some valueObject => (keysProperty decrypt valueObject i st, true) := by
  induction members with
  | nil => rfl
  | cons member members ih =>
    obtain ⟨keyPtr, valueObject⟩ := member
    rw [systemPropertiesPass, handleIndividualSystemProperty]
    by_cases hkey : keyPtr = "Keys"
    · simp [hkey]
    · have hne : ("Keys" == keyPtr) = false := by simpa using Ne.symm hkey
      simp only [if_neg hkey, if_pos hlimited, ih, List.lookup_cons, hne]
      cases members.lookup "Keys" <;> simp

/-- What comes of the property `Keys`. -/
theorem keysProperty_spec (decrypt : Block → Block → Block) (valueObject : JsonT)
    (i : SocketIndex) (st : State D) :
    Inert st i (keysProperty decrypt valueObject i st) ∨ ∃ keys new,
      valueObject = .string keys ∧
      decrypt (localKey st.jsa.settings) (parseHex ((JsonT.bytesOfString keys).take 32)) =
        localKey st.jsa.settings ∧
      keysProperty decrypt valueObject i st =
        { state := { st with jsa := st.jsa.adoptKey i new }
          effects := [.writeUserKeyToFlash new] } := by
  unfold keysProperty
  split
  · rename_i keys
    rw [handleKeysProperty]
    by_cases hlength : (JsonT.bytesOfString keys).length ≠ 64
    · rw [if_pos hlength]
      exact .inl (inert_unchanged _)
    · rw [if_neg hlength]
      by_cases hkey : decrypt (localKey st.jsa.settings)
          (parseHex ((JsonT.bytesOfString keys).take 32)) ≠ localKey st.jsa.settings
      · rw [if_pos hkey]
        exact .inl (inert_unchanged _)
      · rw [if_neg hkey]
        exact .inr ⟨keys, _, rfl, not_not.1 hkey, rfl⟩
  · exact .inl (inert_unchanged none)

/-- A limited socket that sets properties sets the user key, or nothing; and nothing is told to the
other sockets exactly if the keys are among the properties. -/
theorem handleSetSystemProperties_of_limited (decrypt : Block → Block → Block)
    (handlers : Handlers D) (hlimited : Limited st i)
    (hservice : requestedService root = .ok "SetSystemProperties") :
    ((Inert st i (handleSetSystemProperties decrypt handlers root i st) ∨ ∃ keys new,
        AdoptsKey decrypt root st i (handleSetSystemProperties decrypt handlers root i st)
          keys new) ∧ ¬ SetsOnlyOthers "SetSystemProperties" root) ∨
      (handleSetSystemProperties decrypt handlers root i st).broadcast ≠ none ∧
        SetsOnlyOthers "SetSystemProperties" root := by
  unfold handleSetSystemProperties SetsOnlyOthers
  split
  · rename_i members hmembers
    simp only [systemPropertiesPass_of_limited hlimited, hmembers]
    cases hkeys : members.lookup "Keys" with
    | none =>
      right
      simp [systemPropertiesPass_of_limited hlimited, hkeys, JsonT.isObject, JsonT.get,
        JsonT.members]
    | some valueObject =>
      left
      refine ⟨?_, by simp [JsonT.get, JsonT.members, hkeys]⟩
      obtain hinert | ⟨keys, new, rfl, hkey, heq⟩ :=
        keysProperty_spec decrypt valueObject i st
      · exact .inl hinert
      · refine .inr ⟨keys, new, ?_⟩
        simp only [if_true, heq]
        exact ⟨⟨hservice, members, hmembers, hkeys⟩, hkey, rfl, rfl, rfl⟩
  · rename_i hnot
    refine .inl ⟨.inl (inert_unchanged _), ?_⟩
    rintro ⟨-, hothers⟩
    obtain ⟨properties, hget, hproperties⟩ := (Option.any_eq_true ..).1 hothers
    cases properties with
    | object members => exact hnot members hget
    | _ => cases hproperties

/-! ### The requests -/

theorem unlimited_of_watch (hwatch : Limited st i → (st.jsa.jsonSockets i).WatchSocket = false)
    (h : (st.jsa.jsonSockets i).WatchSocket = true) : ¬ Limited st i := by
  intro hlimited
  rw [hwatch hlimited] at h
  cases h

theorem not_testModeCommand : ¬ TestModeCommand "ManufacturingTestMode" root := by
  simp [TestModeCommand]

/-- A request of a limited socket is without effect, or sets the user key, if it is confined. -/
theorem limited_iff (decrypt : Block → Block → Block) (handlers : Handlers D) (input : Input)
    (hservice : requestedService root = .ok serviceText)
    (hlimited : Limited st i) (hwatch : (st.jsa.jsonSockets i).WatchSocket = false) :
    (Inert st i (processJsonService decrypt handlers input serviceText root i st) ∨
      ∃ keys new, AdoptsKey decrypt root st i
        (processJsonService decrypt handlers input serviceText root i st) keys new) ↔
      ConfinedService serviceText root i st := by
  unfold processJsonService
  by_cases hmode : serviceText = "ManufacturingTestMode"
  · subst hmode
    rw [if_pos ⟨rfl, by simp [hwatch]⟩]
    obtain ⟨hinert, hstate⟩ | ⟨hbroadcast, hstate⟩ :=
      handleManufacturingTestMode_spec root i st
    · refine iff_of_true (.inl hinert) ⟨fun _ h => hstate h.2, fun _ _ => not_testModeCommand, ?_⟩
      rintro - - ⟨h, -⟩
      simp at h
    · refine iff_of_false ?_ fun h => h.testMode hlimited ⟨rfl, hstate⟩
      rintro (h | ⟨_, _, h⟩)
      · exact hbroadcast h.broadcast
      · exact hbroadcast h.broadcast
  rw [if_neg fun h => hmode h.1]
  have hsets : Limited st i → ¬ SetsTestMode serviceText root := fun _ h => hmode h.1
  by_cases hflag : st.manufacturingTestModeFlag = true
  · rw [if_pos hflag]
    have hadopts : ¬ ∃ keys new, AdoptsKey decrypt root st i
        (testModeService input serviceText root st) keys new := by
      rintro ⟨keys, new, h⟩
      exact not_adoptsKey_testModeService h
    rw [or_iff_left hadopts, inert_testModeService_iff]
    exact ⟨fun h => ⟨hsets, fun _ _ => h, fun _ hoff => absurd hflag (by simp [hoff])⟩,
      fun h => h.command (.inl hlimited) hflag⟩
  rw [if_neg hflag, if_neg (by simp [hwatch])]
  have hcommand : Limited st i ∨ (st.jsa.jsonSockets i).WatchSocket = true →
      st.manufacturingTestModeFlag = true → ¬ TestModeCommand serviceText root :=
    fun _ hon => absurd hon hflag
  by_cases hproperties : serviceText = "SetSystemProperties"
  · subst hproperties
    rw [if_pos rfl]
    obtain ⟨hdone, hothers⟩ | ⟨hbroadcast, hothers⟩ := handleSetSystemProperties_of_limited
      decrypt handlers hlimited hservice
    · exact iff_of_true hdone ⟨hsets, hcommand, fun _ _ => hothers⟩
    · refine iff_of_false ?_ fun h => h.keys hlimited (by simpa using hflag) hothers
      rintro (h | ⟨_, _, h⟩)
      · exact hbroadcast h.broadcast
      · exact hbroadcast h.broadcast
  · rw [if_neg hproperties, if_pos hlimited]
    exact iff_of_true (.inl (inert_unchanged _)) ⟨hsets, hcommand, fun _ _ h => hproperties h.1⟩

theorem not_testModeCommand_of_watch (h : serviceText ∈ watchServices) :
    ¬ TestModeCommand serviceText root := by
  rintro (⟨rfl, -⟩ | ⟨rfl, -⟩ | ⟨rfl, -⟩) <;> revert h <;> decide

/-- A request of a watch is without effect, or it is one of its services and authenticated, if it is
confined. -/
theorem watch_iff (decrypt : Block → Block → Block) (handlers : Handlers D) (input : Input)
    (serviceText : String) (root : JsonT) (hunlimited : ¬ Limited st i)
    (hwatch : (st.jsa.jsonSockets i).WatchSocket = true) :
    (Inert st i (processJsonService decrypt handlers input serviceText root i st) ∨
      serviceText ∈ watchServices ∧ testWatchAuth decrypt input st root = true) ↔
      ConfinedService serviceText root i st := by
  unfold processJsonService
  rw [if_neg (by simp [hwatch])]
  by_cases hflag : st.manufacturingTestModeFlag = true
  · rw [if_pos hflag, inert_testModeService_iff]
    constructor
    · intro h
      have hcommand := h.elim id fun h => not_testModeCommand_of_watch h.1
      exact ⟨(absurd · hunlimited), fun _ _ => hcommand, (absurd · hunlimited)⟩
    · intro h
      exact .inl (h.command (.inr hwatch) hflag)
  · rw [if_neg hflag, if_pos hwatch]
    exact iff_of_true inert_watchService
      ⟨(absurd · hunlimited), fun _ hon => absurd hon hflag, (absurd · hunlimited)⟩

/-- **A request is authorized exactly if it is confined**, as long as no watch is limited. -/
theorem authorized_iff {root : Option JsonT}
    (hwatch : Limited st i → (st.jsa.jsonSockets i).WatchSocket = false) :
    Authorized decrypt handlers root i input st ↔ Confined root i st := by
  cases root with
  | none =>
    exact iff_of_true ⟨fun _ => .inl (inert_unchanged none), fun _ => .inl (inert_unchanged none)⟩
      trivial
  | some json =>
    cases hservice : requestedService json with
    | error e =>
      have hinert : Inert st i (processJsonPacket decrypt handlers input (some json) i st) := by
        rw [processJsonPacket, hservice]
        exact inert_unchanged (some e)
      have hconfined : Confined (some json) i st := by simp [Confined, hservice]
      exact iff_of_true ⟨fun _ => .inl hinert, fun _ => .inl hinert⟩ hconfined
    | ok serviceText =>
      have hpacket : processJsonPacket decrypt handlers input (some json) i st =
          processJsonService decrypt handlers input serviceText json i st := by
        rw [processJsonPacket, hservice]
      have hconfined : Confined (some json) i st ↔ ConfinedService serviceText json i st := by
        simp [Confined, hservice]
      rw [hconfined]
      have hlimited := fun h : Limited st i =>
        limited_iff decrypt handlers input hservice h (hwatch h)
      have hwatches := fun h : (st.jsa.jsonSockets i).WatchSocket = true =>
        watch_iff decrypt handlers input serviceText json (unlimited_of_watch hwatch h) h
      constructor
      · intro h
        by_cases hl : Limited st i
        · refine (hlimited hl).1 ((hpacket ▸ h.limited hl).imp_right ?_)
          rintro ⟨_, keys, new, ⟨⟩, hadopts⟩
          exact ⟨keys, new, hadopts⟩
        · by_cases hw : (st.jsa.jsonSockets i).WatchSocket = true
          · refine (hwatches hw).1 ((hpacket ▸ h.watch hw).imp_right ?_)
            rintro ⟨_, text, ⟨⟩, htext, hauthorized⟩
            rw [hservice] at htext
            cases htext
            exact hauthorized
          · exact ⟨(absurd · hl), fun h => (h.elim hl hw).elim, (absurd · hl)⟩
      · intro h
        constructor
        · intro hl
          rw [hpacket]
          refine ((hlimited hl).2 h).imp_right ?_
          rintro ⟨keys, new, hadopts⟩
          exact ⟨json, keys, new, rfl, hadopts⟩
        · intro hw
          rw [hpacket]
          exact ((hwatches hw).2 h).imp_right fun h => ⟨json, serviceText, rfl, hservice, h⟩

/-! ### Runs -/

/-- The socket is not both limited and a watch. -/
def WatchUnlimited (s : JsonSocket) : Prop :=
  s.jsaState.jsonLimited = true → s.WatchSocket = false

theorem jsonLimited_iff (state : Jsa.JsaState) :
    state.jsonLimited = true ↔ state = .requireSetKey := by
  cases state <;> decide

theorem WatchUnlimited.of_state {s : JsonSocket} (h : s.jsaState ≠ .requireSetKey) :
    WatchUnlimited s := fun hlimited => absurd ((jsonLimited_iff _).1 hlimited) h

theorem WatchUnlimited.congr {s s' : JsonSocket} (h : WatchUnlimited s)
    (hstate : s'.jsaState = s.jsaState) (hwatch : s'.WatchSocket = s.WatchSocket) :
    WatchUnlimited s' := by
  rw [WatchUnlimited, hstate, hwatch]
  exact h

/-- A socket that is shut down forgets that it is a watch, or is left as it is. -/
theorem WatchUnlimited.shutdownSocket {s : JsonSocket} (h : WatchUnlimited s) :
    WatchUnlimited (Jsa.shutdownSocket s) := by
  unfold Jsa.shutdownSocket
  split
  · exact fun _ => rfl
  · exact h

theorem WatchUnlimited.attach {s : JsonSocket} (h : WatchUnlimited s) (input : Jsa.PassInput) :
    WatchUnlimited (Jsa.attach input s) := h.congr (by simp) (by simp)

theorem WatchUnlimited.allocate {s : JsonSocket} (h : WatchUnlimited s) (input : Jsa.PassInput) :
    WatchUnlimited (Jsa.allocate input s) := by
  cases hmalloc : input.malloc with
  | some jsa => exact h.congr (Jsa.allocate_of_some hmalloc).1 (by simp)
  | none =>
    refine .of_state ?_
    rw [Jsa.allocate_of_none hmalloc]
    nofun

/-- A socket is limited only if it is no watch. -/
theorem WatchUnlimited.startAuth {s : JsonSocket} (h : WatchUnlimited s) (settings : Settings)
    (input : Jsa.PassInput) : WatchUnlimited (Jsa.startAuth settings input s).value := by
  unfold Jsa.startAuth
  split
  · split_ifs with hwatch
    · exact .of_state nofun
    · exact fun _ => by simpa using hwatch
    · exact .of_state nofun
    · exact .of_state nofun
  · exact h

theorem WatchUnlimited.receiveResponse {s : JsonSocket} (h : WatchUnlimited s)
    (input : Jsa.PassInput) : WatchUnlimited (Jsa.receiveResponse input s).value := by
  unfold Jsa.receiveResponse
  split
  · dsimp only [Logged.value_bind]
    split_ifs
    · exact .of_state nofun
    · exact .of_state nofun
    · exact h
  · exact h

theorem WatchUnlimited.evaluateResponse {s : JsonSocket} (h : WatchUnlimited s)
    (settings : Settings) (input : Jsa.PassInput) :
    WatchUnlimited (Jsa.evaluateResponse encrypt settings input s).value := by
  unfold Jsa.evaluateResponse
  split
  · split_ifs
    · exact .of_state nofun
    · exact .of_state nofun
    · exact h
  · exact h

theorem WatchUnlimited.closeDenied {s : JsonSocket} (h : WatchUnlimited s)
    (input : Jsa.PassInput) : WatchUnlimited (Jsa.closeDenied input s) := by
  unfold Jsa.closeDenied
  split
  · split_ifs
    · exact h.shutdownSocket
    · exact h
  · exact h

theorem WatchUnlimited.socketPass {s : JsonSocket} (h : WatchUnlimited s) (settings : Settings)
    (input : Jsa.PassInput) :
    WatchUnlimited (Jsa.socketPass encrypt settings input s).value := by
  unfold Jsa.socketPass
  dsimp only
  split_ifs
  · exact (((((h.attach input).allocate input).startAuth settings input).receiveResponse
      input).evaluateResponse settings input).closeDenied input
  · exact (h.attach input).congr rfl rfl
  · exact h.attach input
  · exact h.attach input
  · exact h

/-- No watch is limited. -/
def WatchesUnlimited (st : State D) : Prop := ∀ i, WatchUnlimited (st.jsa.jsonSockets i)

theorem WatchesUnlimited.setSocket {jsa : Jsa.State} {s : JsonSocket}
    (h : ∀ i, WatchUnlimited (jsa.jsonSockets i)) (hs : WatchUnlimited s) (i j : SocketIndex) :
    WatchUnlimited ((jsa.setSocket i s).jsonSockets j) := by
  show WatchUnlimited (Function.update jsa.jsonSockets i s j)
  by_cases hj : j = i
  · rwa [hj, Function.update_self]
  · rw [Function.update_of_ne hj]
    exact h j

/-- Nothing that happens to the sockets makes a watch limited. -/
theorem WatchesUnlimited.nextSocket {e : Jsa.Event} {st' : State D} (h : WatchesUnlimited st)
    (he : nextSocket encrypt st e = some st') : WatchesUnlimited st' := by
  cases e with
  | accept socketRequest watch =>
    cases he
    intro j
    show WatchUnlimited
      ((Jsa.State.next encrypt st.jsa (.accept socketRequest watch)).jsonSockets j)
    rw [Jsa.State.next]
    cases st.jsa.freeSocket with
    | none => exact h j
    | some i =>
      have haccepted :
          WatchUnlimited ((st.jsa.jsonSockets i).accepted socketRequest watch) :=
        .of_state (by simp [Jsa.JsonSocket.accepted])
      exact WatchesUnlimited.setSocket h haccepted i j
  | pass i input =>
    cases he
    exact WatchesUnlimited.setSocket h ((h i).socketPass st.jsa.settings input) i
  | shutdown i =>
    cases he
    exact WatchesUnlimited.setSocket h (h i).shutdownSocket i
  | handleKeysProperty i new => cases he
  | configure settings =>
    cases he
    exact h

/-- Nor does the adoption of a key. -/
theorem WatchesUnlimited.adoptKey (h : WatchesUnlimited st) (i : SocketIndex) (new : Block) :
    WatchesUnlimited { st with jsa := st.jsa.adoptKey i new } := by
  intro j
  show WatchUnlimited ((st.jsa.adoptKey i new).jsonSockets j)
  unfold Jsa.State.adoptKey
  dsimp only
  split_ifs
  · exact (h j).shutdownSocket
  · exact .of_state nofun
  · exact h j

theorem WatchesUnlimited.keysProperty (h : WatchesUnlimited st) (valueObject : JsonT)
    (i : SocketIndex) : WatchesUnlimited (keysProperty decrypt valueObject i st).state := by
  obtain hinert | ⟨keys, new, -, -, heq⟩ := keysProperty_spec decrypt valueObject i st
  · rwa [hinert.state]
  · rw [heq]
    exact h.adoptKey i new

theorem WatchesUnlimited.systemPropertiesPass (decrypt : Block → Block → Block)
    (handlers : Handlers D) (h : WatchesUnlimited st) (i : SocketIndex) (setFlag : Bool)
    (members : List (String × JsonT)) :
    WatchesUnlimited (systemPropertiesPass decrypt handlers i setFlag members st).1.state := by
  induction members generalizing st with
  | nil => exact h
  | cons member members ih =>
    obtain ⟨keyPtr, valueObject⟩ := member
    have hfirst : WatchesUnlimited (handleIndividualSystemProperty decrypt handlers keyPtr
        valueObject i setFlag st).1.state := by
      unfold handleIndividualSystemProperty
      split_ifs
      · exact h.keysProperty valueObject i
      · exact h
      · exact h
    rw [Services.systemPropertiesPass]
    dsimp only
    split_ifs
    · exact hfirst
    · exact ih hfirst

theorem WatchesUnlimited.handleSetSystemProperties (h : WatchesUnlimited st) (i : SocketIndex)
    (root : JsonT) :
    WatchesUnlimited (handleSetSystemProperties decrypt handlers root i st).state := by
  unfold Services.handleSetSystemProperties
  split
  · rename_i members hmembers
    dsimp only
    have hfirst := h.systemPropertiesPass decrypt handlers i false members
    split_ifs
    · exact hfirst
    all_goals exact hfirst.systemPropertiesPass decrypt handlers i true members
  · exact h

/-- A service of the test mode leaves the sockets as they are. -/
theorem testModeService_jsa :
    (testModeService input serviceText root st).state.jsa = st.jsa := by
  simp only [testModeService, handleMTMSendRFPacket, handleMTMSetOutput, handleMTMSetMACAddress,
    Outcome.ofChecked, Outcome.error]
  split_ifs <;> first | rfl | (split <;> rfl)

/-- No request makes a watch limited. -/
theorem WatchesUnlimited.processJsonPacket (h : WatchesUnlimited st) (root : Option JsonT)
    (i : SocketIndex) (input : Input) :
    WatchesUnlimited (processJsonPacket decrypt handlers input root i st).state := by
  unfold Services.processJsonPacket
  split
  · exact h
  · split
    · exact h
    · unfold processJsonService
      split_ifs
      · unfold handleManufacturingTestMode
        split_ifs <;> exact h
      · rw [WatchesUnlimited, testModeService_jsa]
        exact h
      · unfold watchService
        split_ifs <;> exact h
      · exact h.handleSetSystemProperties i _
      · exact h
      · exact h
      · exact h

theorem WatchesUnlimited.next {st' : State D} {e : Event D} (h : WatchesUnlimited st)
    (he : next encrypt decrypt handlers st e = some st') : WatchesUnlimited st' := by
  cases e with
  | request root i input =>
    obtain ⟨-, he⟩ := Option.ite_none_right_eq_some.1 he
    cases he
    exact h.processJsonPacket root i input
  | socket e => exact h.nextSocket he
  | other shared =>
    cases he
    exact h

theorem watchesUnlimited_of_init (h : (jsonServices encrypt decrypt handlers).init st) :
    WatchesUnlimited st := by
  obtain ⟨-, settings, hjsa⟩ := h
  intro i
  rw [hjsa]
  exact .of_state nofun

/-- Every request of the run is authorized. -/
def AuthorizedStep (decrypt : Block → Block → Block) (handlers : Handlers D) (st : State D) :
    Event D → Prop
  | .request root i input => Authorized decrypt handlers root i input st
  | _ => True

/-- The condition on a step. -/
def ConfinedStep (st : State D) : Event D → Prop
  | .request root i _ => Confined root i st
  | _ => True

instance (st : State D) : (e : Event D) → Decidable (ConfinedStep st e)
  | .request root i _ => inferInstanceAs (Decidable (Confined root i st))
  | .socket _ => .isTrue trivial
  | .other _ => .isTrue trivial

theorem authorizedStep_iff (h : WatchesUnlimited st) (e : Event D) :
    AuthorizedStep decrypt handlers st e ↔ ConfinedStep st e := by
  cases e with
  | request root i input => exact authorized_iff (h i)
  | socket e => exact Iff.rfl
  | other shared => exact Iff.rfl

theorem allSteps_authorizedStep_iff (h : WatchesUnlimited st) (es : List (Event D)) :
    (jsonServices encrypt decrypt handlers).AllSteps (AuthorizedStep decrypt handlers) st es ↔
      (jsonServices encrypt decrypt handlers).AllSteps ConfinedStep st es :=
  Machine.allSteps_congr (fun _ _ _ hst _ hnext => WatchesUnlimited.next hst hnext)
    (fun _ e hst => authorizedStep_iff hst e) h

/-- Handlers that do nothing. -/
def idleHandlers : Handlers Unit where
  service _ _ _ st := ⟨st.jsa.settings, st.shared, [], none, none⟩
  systemProperty _ _ _ _ st := (⟨st.jsa.settings, st.shared, [], none, none⟩, false)

/-- A controller without a key. -/
def stateWithoutKey : State Unit where
  jsa := .start
    { userKey := ⟨fun _ => 0, 0⟩
      factoryKey := fun _ => 0
      factoryAuthInit := 0
      authExempt := Jsa.authNotExempt }
  manufacturingTestModeFlag := false
  shared := ⟨0, [], ()⟩

/-- A pass over a socket on which nothing is received. -/
def quietPass : Jsa.PassInput where
  attached := 1
  restarting := false
  malloc := some ⟨fun _ => 0, fun _ => 0, 0, 0⟩
  challenge := fun _ => 0
  received := []
  recvFailed := false
  answered := 0
  evaluated := 0
  denied := 0
  checked := 0
  transmitQueueIsEmpty := true
  jsonBuffer := (none, 0)

/-- A connection is accepted, and becomes limited; it sends a request. -/
def limitedRequest (root : JsonT) : List (Event Unit) :=
  [.socket (.accept 1 false), .socket (.pass 0 quietPass), .request (some root) 0 ⟨0, [], 0⟩]

end Services

end Lcm
