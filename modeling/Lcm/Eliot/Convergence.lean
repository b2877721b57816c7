import Lcm.Eliot.Wanted

/-!
# Convergence of the synchronization

After `Eliot_SyncDevices`, the list of modules and the store should agree, with no more requests
than that takes, and another synchronization should have nothing left to do.  It does so if the
names of the zones need no sanitizing, no scene is stored behind a free slot, and each device that
is in the list is the one that the lookup finds for a module with an id, a type and a name.

## Main definitions

* `Agrees`, `Quiet`, `Converges` : what a synchronization is for.
* `Convergent` : what it needs.
* `Synced` : what it does.

## Main results

* `Synced.mem_modules` : the modules afterwards.
* `converges_iff` : when a synchronization converges.
-/

namespace Lcm

namespace Eliot

open House Scenes Jsr

/-! ### What a synchronization is for -/

/-- The list and the store agree. -/
structure Agrees (moduleId : CString eliotDeviceIdSize) (st : House.State)
    (modules : List Module) : Prop where
  named : ∀ m ∈ modules, m.IsHub moduleId ∨
    ∃ d, counterpart st m = some d ∧ m.name = (sanitizedName (deviceName st d)).chars
  listed : ∀ d, Belongs st d → ∃ m ∈ modules, counterpart st m = some d

/-- Another synchronization makes no request. -/
def Quiet (account : Account) (p : Plant) : Prop :=
  ∀ answers stack response, Lists response p.modules →
    (syncDevices account answers stack (some response) p).requests = p.requests

/-- **A synchronization converges**: it makes the requests that are wanted, each of them once; then
the list and the store agree, and another synchronization makes none. -/
structure Converges (account : Account) (answers : Answers) (stack : Stack) (response : Response)
    (p : Plant) : Prop where
  requests : ∃ rs, (syncDevices account answers stack (some response) p).requests =
    p.requests ++ rs ∧ rs.Nodup ∧ ∀ r, r ∈ rs ↔ Wanted account.moduleId p.house p.modules r
  agrees : Agrees account.moduleId (syncDevices account answers stack (some response) p).house
    (syncDevices account answers stack (some response) p).modules
  quiet : Quiet account (syncDevices account answers stack (some response) p)

/-! ### When it does so -/

/-- The name of a zone, which is compared as it is, needs no sanitizing. -/
def KeepsName (st : House.State) : Device → Prop
  | .zone index =>
    (sanitizedName (deviceName st (.zone index))).chars = deviceName st (.zone index)
  | .scene _ => True

/-- The types of zones that the cloud knows. -/
def zoneTypes : List Byte :=
  [switchType, dimmerType, fanControllerType, Rf.shadeType, Rf.shadeGroupType]

/-- A device is reached by the loops, and the cloud knows its type. -/
def Addable (st : House.State) : Device → Prop
  | .zone index => deviceTypeOf st (.zone index) ∈ zoneTypes
  | .scene index => index < st.scenes.available

/-- **What a synchronization needs** in order to converge. -/
structure Convergent (moduleId : CString eliotDeviceIdSize) (st : House.State)
    (modules : List Module) : Prop where
  listed : ∀ d, Belongs st d → ¬ Unlisted st modules d →
    ∃ m ∈ modules, m.Complete ∧ counterpart st m = some d
  unlisted : ∀ d, Belongs st d → Unlisted st modules d → Addable st d ∧ KeepsName st d
  orphan : ∀ m ∈ modules, ¬ m.IsHub moduleId → counterpart st m = none → m.Complete
  complete : ∀ m ∈ modules, ∀ d, counterpart st m = some d → m.Complete → KeepsName st d
  incomplete : ∀ m ∈ modules, ∀ d, counterpart st m = some d → ¬ m.Complete →
    ¬ Belongs st d ∧ m.name = (sanitizedName (deviceName st d)).chars

/-- The ids with which the cloud answers have their length and are new. -/
structure Issues (answers : Answers) (p : Plant) : Prop where
  plain : ∀ k, Plain (answers k).chars
  length : ∀ k, (answers k).chars.length = eliotDeviceIdSize - 1
  distinct : ∀ j k, p.added ≤ j → j < k → k < p.added + (maxNumberOfZones + maxNumberOfScenes) →
    answers j ≠ answers k
  modules : ∀ k, p.added ≤ k → k < p.added + (maxNumberOfZones + maxNumberOfScenes) →
    ∀ m ∈ p.modules, m.id ≠ answers k
  devices : ∀ k, p.added ≤ k → k < p.added + (maxNumberOfZones + maxNumberOfScenes) →
    ∀ d, deviceId p.house d ≠ (answers k).chars

/-! ### The state afterwards -/

section Synced

variable {account : Account} {answers : Answers} {stack : Stack} {response : Response}
  {p p' : Plant} {moduleId : CString eliotDeviceIdSize} {m m' : Module} {d d' : Device}

/-- The answer with the id of a device that is added. -/
def newIndex (p : Plant) (d : Device) : ℕ :=
  p.added + (newDevices p.house p.modules).idxOf d

/-- The module of a device that is added. -/
def newModule (answers : Answers) (p : Plant) (d : Device) : Module :=
  addedModule p.house (answers (newIndex p d)) d

/-- **What a synchronization does.** -/
structure Synced (moduleId : CString eliotDeviceIdSize) (answers : Answers) (p p' : Plant) :
    Prop where
  requests : p'.requests = p.requests ++ madeRequests moduleId p.house p.modules
  modules : p'.modules =
    (p.modules.filterMap fun m => after (requestsFor moduleId p.house m.report) m) ++
      (newDevices p.house p.modules).map (newModule answers p)
  belongs : ∀ d, Belongs p'.house d ↔ Belongs p.house d
  deviceName : ∀ d, deviceName p'.house d = deviceName p.house d
  available : p'.house.scenes.available = p.house.scenes.available
  newId : ∀ d ∈ newDevices p.house p.modules,
    deviceId p'.house d = (answers (newIndex p d)).chars
  oldId : ∀ d, d ∉ newDevices p.house p.modules → deviceId p'.house d = deviceId p.house d

theorem syncDevices_synced (hready : account.plantId ≠ [] ∧ account.userToken ≠ [])
    (hresponse : Lists response p.modules) (hlisted : Listed p.modules) :
    Synced account.moduleId answers p (syncDevices account answers stack (some response) p) := by
  set rs := p.modules.flatMap fun m => requestsFor account.moduleId p.house m.report with hrs
  have hadds : Adds answers (p.requestAll answers rs) (newDevices p.house p.modules)
      (syncDevices account answers stack (some response) p) := by
    have h : Adds answers _ _ (syncDevices account answers stack (some response) p) :=
      syncDevices_adds hready hresponse
    rwa [reports_eq hresponse, List.flatMap_map] at h
  generalize syncDevices account answers stack (some response) p = p' at hadds ⊢
  -- the requests about the modules change neither the store nor the count
  obtain ⟨hmodules, hadded⟩ : (p.requestAll answers rs).modules = p.modules.filterMap (after rs) ∧
      (p.requestAll answers rs).added = p.added := by
    refine modules_requestAll fun r hr => ?_
    obtain ⟨m, -, hr⟩ := List.mem_flatMap.1 hr
    exact addedDevice_requestsFor hr
  have hzones := hadds.zones
  have hscenes := hadds.scenes
  rw [house_requestAll, hadded] at hzones hscenes
  refine ⟨?_, ?_, fun d => ?_, fun d => ?_, ?_, fun d hd => ?_, fun d hd => ?_⟩
  · rw [hadds.requests, requests_requestAll, house_requestAll, List.append_assoc, madeRequests]
  · rw [hadds.modules, hmodules, hadded, house_requestAll]
    refine congrArg₂ (· ++ ·) (List.filterMap_congr fun m hm => ?_) ?_
    · exact after_flatMap hlisted.nodup (fun m r hr m' hne => effect_requestsFor hr hne) hm
    · refine List.ext_getElem (by simp) fun k hk hk' => ?_
      rw [List.getElem_mapIdx, List.getElem_map, newModule, newIndex,
        nodup_newDevices.idxOf_getElem]
  · cases d with
    | zone i => simp [Belongs, hzones]
    | scene i => simp [Belongs, hscenes]
  · cases d with
    | zone i =>
      rw [deviceName, deviceName, hzones]
      cases p.house.zones.get i with
      | none => rfl
      | some q => rfl
    | scene i =>
      rw [deviceName, deviceName, hscenes]
      cases p.house.scenes.get i with
      | none => rfl
      | some q => rfl
  · rw [hadds.available, house_requestAll]
  · have hbelongs := (mem_newDevices.1 hd).1
    cases d with
    | zone i =>
      obtain ⟨q, hq, -⟩ := hbelongs
      rw [deviceId, hzones, hq]
      exact congrArg CString.chars (if_pos hd)
    | scene i =>
      obtain ⟨q, hq⟩ := hbelongs
      rw [deviceId, hscenes, hq]
      exact congrArg CString.chars (if_pos hd)
  · cases d with
    | zone i =>
      rw [deviceId, deviceId, hzones]
      cases p.house.zones.get i with
      | none => rfl
      | some q => exact congrArg CString.chars (newId_of_notMem hd)
    | scene i =>
      rw [deviceId, deviceId, hscenes]
      cases p.house.scenes.get i with
      | none => rfl
      | some q => exact congrArg CString.chars (newId_of_notMem hd)

/-- What becomes of a module, if the requests are the ones that are wanted. -/
def settled (moduleId : CString eliotDeviceIdSize) (st : House.State) (m : Module) :
    Option Module :=
  if m.IsHub moduleId then some m
  else (counterpart st m).map fun d =>
    { m with name := (sanitizedName (deviceName st d)).chars }

theorem after_wantedFor {st : House.State} :
    after (wantedFor moduleId st m) m = settled moduleId st m := by
  by_cases hhub : m.IsHub moduleId
  · rw [wantedFor, requestsAbout_hub hhub, settled, if_pos hhub]
    rfl
  · rw [settled, if_neg hhub]
    cases hcounterpart : counterpart st m with
    | none =>
      rw [wantedFor, requestsAbout_none hhub hcounterpart]
      simp [after, Request.effect]
    | some d =>
      rw [wantedFor, requestsAbout_some hcounterpart]
      split
      · simp [after, Request.effect]
      · rename_i hname
        rw [Option.map_some, not_not.1 hname]
        rfl

theorem settled_some {st : House.State} (h : settled moduleId st m = some m') :
    m'.id = m.id ∧ m'.deviceType = m.deviceType := by
  rw [settled] at h
  split at h
  · obtain rfl := Option.some.inj h
    exact ⟨rfl, rfl⟩
  · obtain ⟨d, -, rfl⟩ := Option.map_eq_some_iff.1 h
    exact ⟨rfl, rfl⟩

theorem settled_counterpart {st : House.State} (h : counterpart st m = some d) :
    settled moduleId st m = some { m with name := (sanitizedName (deviceName st d)).chars } := by
  rw [settled, if_neg (not_isHub_of_counterpart h), h, Option.map_some]

theorem newIndex_lt (hd : d ∈ newDevices p.house p.modules) :
    newIndex p d < p.added + (maxNumberOfZones + maxNumberOfScenes) :=
  Nat.add_lt_add_left (Nat.lt_of_lt_of_le (List.idxOf_lt_length_of_mem hd) length_newDevices_le) _

theorem le_newIndex : p.added ≤ newIndex p d := Nat.le_add_right _ _

/-- The devices that are added have different ids. -/
theorem Issues.eq_of_answer (hissues : Issues answers p)
    (hd : d ∈ newDevices p.house p.modules) (hd' : d' ∈ newDevices p.house p.modules)
    (h : answers (newIndex p d) = answers (newIndex p d')) : d = d' := by
  rcases lt_trichotomy (newIndex p d) (newIndex p d') with hlt | hindex | hlt
  · exact (hissues.distinct _ _ le_newIndex hlt (newIndex_lt hd') h).elim
  · exact (List.idxOf_inj hd).1 (Nat.add_left_cancel hindex)
  · exact (hissues.distinct _ _ le_newIndex hlt (newIndex_lt hd) h.symm).elim

/-- **The modules afterwards.** -/
theorem Synced.mem_modules (h : Synced moduleId answers p p')
    (hwanted : AsWanted moduleId p.house p.modules) : m' ∈ p'.modules ↔
      (∃ m ∈ p.modules, settled moduleId p.house m = some m') ∨
        ∃ d ∈ newDevices p.house p.modules, newModule answers p d = m' := by
  rw [h.modules, List.mem_append, List.mem_filterMap, List.mem_map]
  refine or_congr_left (exists_congr fun m => and_congr_right fun hm => ?_)
  rw [hwanted.about m hm, after_wantedFor]

/-- **The id of a device that has been added** is new. -/
theorem Synced.newId_iff (h : Synced moduleId answers p p') (hissues : Issues answers p)
    (hd : d ∈ newDevices p.house p.modules) :
    deviceId p'.house d' = (answers (newIndex p d)).chars ↔ d' = d := by
  constructor
  · intro heq
    by_cases hd' : d' ∈ newDevices p.house p.modules
    · rw [h.newId d' hd'] at heq
      exact hissues.eq_of_answer hd' hd (CString.ext heq)
    · rw [h.oldId d' hd'] at heq
      exact (hissues.devices _ le_newIndex (newIndex_lt hd) d' heq).elim
  · rintro rfl
    exact h.newId d' hd

/-- The devices with the id of a module are the same as before. -/
theorem Synced.id_iff (h : Synced moduleId answers p p') (hissues : Issues answers p)
    (hunlisted : ∀ d ∈ newDevices p.house p.modules, Unlisted p.house p.modules d)
    (hm : m ∈ p.modules) :
    deviceId p'.house d = m.id.chars ↔ deviceId p.house d = m.id.chars := by
  by_cases hd : d ∈ newDevices p.house p.modules
  · rw [h.newId d hd]
    refine iff_of_false (fun heq => ?_) fun heq => hunlisted d hd m hm heq.symm
    exact hissues.modules _ le_newIndex (newIndex_lt hd) m hm (CString.ext heq.symm)
  · rw [h.oldId d hd]

theorem Synced.counterpart_settled (h : Synced moduleId answers p p') (hissues : Issues answers p)
    (hwanted : AsWanted moduleId p.house p.modules) (hm : m ∈ p.modules)
    (hsettled : settled moduleId p.house m = some m') :
    counterpart p'.house m' = counterpart p.house m := by
  obtain ⟨hid, htype⟩ := settled_some hsettled
  exact counterpart_congr hid htype fun d =>
    h.id_iff hissues (fun d hd => ((hwanted.added d).1 hd).2) hm

theorem Issues.ne_nil (hissues : Issues answers p) (k : ℕ) : (answers k).chars ≠ [] :=
  List.ne_nil_of_length_pos (hissues.length k ▸ (by decide : 0 < eliotDeviceIdSize - 1))

theorem Synced.counterpart_new (h : Synced moduleId answers p p') (hissues : Issues answers p)
    (hd : d ∈ newDevices p.house p.modules) :
    counterpart p'.house (newModule answers p d) = some d' ↔
      d' = d ∧ (newModule answers p d).OfKind d :=
  counterpart_of_unique (hissues.ne_nil _) fun _ => h.newId_iff hissues hd

theorem plain_sanitizedName (s : List Byte) : Plain (sanitizedName s).chars := by
  have hlegal := (sanitizeString_spec maxSizeNameString 0 s).2
  refine ⟨fun hquote => ?_, (sanitizedName s).noNul⟩
  exact absurd (hlegal _ hquote) (by decide)

theorem plain_cloudType (t : Byte) : Plain (cloudType t) := by
  unfold cloudType Plain
  simp only [texts_eq]
  split_ifs <;> decide

/-- What is known of the modules remains known of them. -/
theorem Synced.listed (h : Synced moduleId answers p p') (hissues : Issues answers p)
    (hlisted : Listed p.modules) (hwanted : AsWanted moduleId p.house p.modules) :
    Listed p'.modules := by
  have hnew : ∀ d ∈ newDevices p.house p.modules, ∀ m ∈ p.modules,
      m.id ≠ answers (newIndex p d) := fun d hd =>
    hissues.modules _ le_newIndex (newIndex_lt hd)
  refine ⟨fun m' hm' => ?_, fun m' hm' => ?_, ?_⟩
  · rcases (h.mem_modules hwanted).1 hm' with ⟨m, hm, hsettled⟩ | ⟨d, -, rfl⟩
    · obtain ⟨hid, htype, hname⟩ := hlisted.plain m hm
      rw [settled] at hsettled
      split at hsettled
      · obtain rfl := Option.some.inj hsettled
        exact ⟨hid, htype, hname⟩
      · obtain ⟨d, -, rfl⟩ := Option.map_eq_some_iff.1 hsettled
        exact ⟨hid, htype, plain_sanitizedName _⟩
    · exact ⟨hissues.plain _, plain_cloudType _, plain_sanitizedName _⟩
  · rcases (h.mem_modules hwanted).1 hm' with ⟨m, hm, hsettled⟩ | ⟨d, -, rfl⟩
    · rw [(settled_some hsettled).1]
      exact hlisted.length m hm
    · exact hissues.length _
  · rw [h.modules, List.map_append, List.nodup_append]
    refine ⟨?_, ?_, fun id hid id' hid' heq => ?_⟩
    · rw [List.Nodup, List.pairwise_map, List.pairwise_filterMap]
      refine (List.pairwise_map.1 hlisted.nodup).imp fun hne b hb b' hb' heq => hne ?_
      rw [← after_id hb, ← after_id hb', heq]
    · rw [List.map_map]
      exact nodup_newDevices.map_on fun d hd d' hd' heq => hissues.eq_of_answer hd hd' heq
    · obtain ⟨m', hm', rfl⟩ := List.mem_map.1 hid
      obtain ⟨m, hm, hafter⟩ := List.mem_filterMap.1 hm'
      obtain ⟨n, hn, rfl⟩ := List.mem_map.1 hid'
      obtain ⟨d, hd, rfl⟩ := List.mem_map.1 hn
      exact hnew d hd m hm ((after_id hafter).symm.trans heq)

end Synced

/-! ### Exactly when a synchronization converges -/

section Convergent

variable {account : Account} {answers : Answers} {stack : Stack} {response : Response}
  {p p' : Plant} {moduleId : CString eliotDeviceIdSize} {st : House.State}
  {modules : List Module} {m m' : Module} {d : Device}

/-- A device is stored. -/
def Stored (st : House.State) : Device → Prop
  | .zone index => ∃ q, st.zones.get index = some q
  | .scene index => ∃ q, st.scenes.get index = some q

theorem Belongs.stored (h : Belongs st d) : Stored st d := by
  cases d with
  | zone i =>
    obtain ⟨q, hq, -⟩ := h
    exact ⟨q, hq⟩
  | scene i => exact h

theorem stored_of_deviceId (h : deviceId st d ≠ []) : Stored st d := by
  cases d with
  | zone i =>
    obtain ⟨q, hq, -⟩ := (elim_eq_iff h).1 (Eq.refl (deviceId st (.zone i)))
    exact ⟨q, hq⟩
  | scene i =>
    obtain ⟨q, hq, -⟩ := (elim_eq_iff h).1 (Eq.refl (deviceId st (.scene i)))
    exact ⟨q, hq⟩

theorem stored_of_counterpart (h : counterpart st m = some d) : Stored st d := by
  obtain ⟨-, hne, hid, -⟩ := counterpart_eq_some.1 h
  exact stored_of_deviceId (hid ▸ hne)

/-- What is stored has a name. -/
theorem Stored.sanitizedName_ne_nil (h : Stored st d) :
    (sanitizedName (deviceName st d)).chars ≠ [] := by
  rw [Ne, sanitizedName_chars_eq_nil]
  cases d with
  | zone i =>
    obtain ⟨q, hq⟩ := h
    rw [deviceName, hq]
    exact of_decide_eq_true (st.zones.named_of_get i q hq)
  | scene i =>
    obtain ⟨q, hq⟩ := h
    rw [deviceName, hq]
    exact of_decide_eq_true (st.scenes.named_of_get i q hq)

theorem keepsName_iff :
    KeepsName st d ↔ comparedName st d = (sanitizedName (deviceName st d)).chars := by
  cases d with
  | zone i => exact eq_comm
  | scene i => exact iff_of_true trivial rfl

theorem Addable.reached (h : Addable st d) : Reached st d := by
  cases d with
  | zone i => exact trivial
  | scene i => exact h

theorem mem_zoneTypes_iff {t : Byte} : t ∈ zoneTypes ↔
    cloudType t ≠ [] ∧ cloudType t ≠ lc7001Hub ∧ cloudType t ≠ lc7001Scene := by
  simp only [cloudType, texts_eq]
  revert t
  decide

/-- The module of a device of a known type is complete, and of its kind. -/
theorem addable_newModule (hd : Belongs p.house d) (h : Addable p.house d)
    (hissues : Issues answers p) :
    (newModule answers p d).Complete ∧ (newModule answers p d).OfKind d := by
  have hname : (newModule answers p d).name ≠ [] := hd.stored.sanitizedName_ne_nil
  cases d with
  | zone i =>
    obtain ⟨hne, hhub, hscene⟩ := mem_zoneTypes_iff.1 h
    exact ⟨⟨hissues.ne_nil _, hne, hname⟩, hhub, hscene⟩
  | scene i =>
    have htype : cloudType sceneType = lc7001Scene := rfl
    have hne : cloudType sceneType ≠ [] := by
      rw [htype]
      simp only [texts_eq]
      decide
    exact ⟨⟨hissues.ne_nil _, hne, hname⟩, htype⟩

theorem Convergent.asWanted (h : Convergent moduleId st modules) (hlisted : Listed modules) :
    AsWanted moduleId st modules := by
  refine ⟨fun m hm => ?_, fun d => ?_⟩
  · rw [requestsFor_report (hlisted.length m hm), wantedFor]
    by_cases hhub : m.IsHub moduleId
    · rw [requestsAbout_hub hhub, requestsAbout_hub hhub, ite_self]
    cases hcounterpart : counterpart st m with
    | none =>
      rw [if_pos (h.orphan m hm hhub hcounterpart), requestsAbout_none hhub hcounterpart,
        requestsAbout_none hhub hcounterpart]
    | some d =>
      rw [requestsAbout_some hcounterpart, requestsAbout_some hcounterpart]
      split
      · rename_i hcomplete
        rw [keepsName_iff.1 (h.complete m hm d hcounterpart hcomplete)]
      · rename_i hcomplete
        rw [(h.incomplete m hm d hcounterpart hcomplete).2, if_neg (not_not.2 rfl)]
  · rw [mem_newDevices]
    refine and_congr_right fun hd => ⟨?_, fun hunlisted => ?_⟩
    · rintro ⟨-, hnone⟩
      by_contra hlist
      obtain ⟨m, hm, hcomplete, hcounterpart⟩ := h.listed d hd hlist
      exact hnone m hm hcomplete hcounterpart
    · refine ⟨(h.unlisted d hd hunlisted).1.reached, fun m hm _ hcounterpart => ?_⟩
      exact hunlisted m hm (deviceId_of_counterpart hcounterpart).symm

/-- No request is made about a module that is complete if it is that of the controller, or has the
name of its counterpart. -/
theorem requestsFor_eq_nil (hlength : m.id.chars.length = eliotDeviceIdSize - 1) :
    requestsFor moduleId st m.report = [] ↔ (m.Complete → m.IsHub moduleId ∨
      ∃ d, counterpart st m = some d ∧ comparedName st d = m.name) := by
  rw [requestsFor_report hlength]
  by_cases hcomplete : m.Complete
  · rw [if_pos hcomplete, forall_prop_of_true hcomplete]
    by_cases hhub : m.IsHub moduleId
    · exact iff_of_true (requestsAbout_hub hhub) (.inl hhub)
    rw [or_iff_right hhub]
    cases hcounterpart : counterpart st m with
    | none => simp [requestsAbout_none hhub hcounterpart]
    | some d => simp [requestsAbout_some hcounterpart]
  · exact iff_of_true (if_neg hcomplete) fun h => (hcomplete h).elim

theorem madeRequests_eq_nil : madeRequests moduleId st modules = [] ↔
    (∀ m ∈ modules, requestsFor moduleId st m.report = []) ∧ newDevices st modules = [] := by
  rw [madeRequests, List.append_eq_nil_iff, List.flatMap_eq_nil_iff, List.map_eq_nil_iff]

theorem Synced.comparedName (h : Synced moduleId answers p p') :
    comparedName p'.house d = comparedName p.house d := by
  cases d with
  | zone i => exact h.deviceName (.zone i)
  | scene i => exact congrArg (fun s => (sanitizedName s).chars) (h.deviceName (.scene i))

theorem Synced.reached (h : Synced moduleId answers p p') :
    Reached p'.house d ↔ Reached p.house d := by
  cases d with
  | zone i => exact Iff.rfl
  | scene i => exact iff_of_eq (congrArg (i < ·) h.available)

/-- A module that has a counterpart keeps it. -/
theorem Synced.mem_settled (h : Synced moduleId answers p p') (hissues : Issues answers p)
    (hwanted : AsWanted moduleId p.house p.modules) (hm : m ∈ p.modules)
    (hcounterpart : counterpart p.house m = some d) :
    { m with name := (sanitizedName (Eliot.deviceName p.house d)).chars } ∈ p'.modules ∧
      counterpart p'.house { m with name := (sanitizedName (Eliot.deviceName p.house d)).chars } =
        some d := by
  have hsettled : settled moduleId p.house m = some _ := settled_counterpart hcounterpart
  exact ⟨(h.mem_modules hwanted).2 (.inl ⟨m, hm, hsettled⟩),
    (h.counterpart_settled hissues hwanted hm hsettled).trans hcounterpart⟩

/-- The module of a device that has been added stands for it. -/
theorem Convergent.mem_new (h : Convergent moduleId p.house p.modules)
    (hwanted : AsWanted moduleId p.house p.modules) (hissues : Issues answers p)
    (hsynced : Synced moduleId answers p p') (hd : d ∈ newDevices p.house p.modules) :
    newModule answers p d ∈ p'.modules ∧ (newModule answers p d).Complete ∧
      counterpart p'.house (newModule answers p d) = some d := by
  obtain ⟨hbelongs, hunlisted⟩ := (hwanted.added d).1 hd
  obtain ⟨hcomplete, hkind⟩ :=
    addable_newModule hbelongs (h.unlisted d hbelongs hunlisted).1 hissues
  exact ⟨(hsynced.mem_modules hwanted).2 (.inr ⟨d, hd, rfl⟩), hcomplete,
    (hsynced.counterpart_new hissues hd).2 ⟨rfl, hkind⟩⟩

/-- Afterwards, a module is that of the controller, or stands for a device, with its name. -/
theorem Convergent.agrees (h : Convergent moduleId p.house p.modules) (hlisted : Listed p.modules)
    (hissues : Issues answers p) (hsynced : Synced moduleId answers p p') :
    Agrees moduleId p'.house p'.modules := by
  have hwanted := h.asWanted hlisted
  refine ⟨fun m' hm' => ?_, fun d hd => ?_⟩
  · rcases (hsynced.mem_modules hwanted).1 hm' with ⟨m, hm, hsettled⟩ | ⟨d, hd, rfl⟩
    · have hcounterpart := hsynced.counterpart_settled hissues hwanted hm hsettled
      rw [settled] at hsettled
      split at hsettled
      · rename_i hhub
        obtain rfl := Option.some.inj hsettled
        exact .inl hhub
      · obtain ⟨d, hd, rfl⟩ := Option.map_eq_some_iff.1 hsettled
        refine .inr ⟨d, hcounterpart.trans hd, ?_⟩
        rw [hsynced.deviceName]
    · refine .inr ⟨d, (h.mem_new hwanted hissues hsynced hd).2.2, ?_⟩
      rw [hsynced.deviceName]
      rfl
  · have hbelongs := (hsynced.belongs d).1 hd
    by_cases hunlisted : Unlisted p.house p.modules d
    · have hd := (hwanted.added d).2 ⟨hbelongs, hunlisted⟩
      obtain ⟨hmem, -, hcounterpart⟩ := h.mem_new hwanted hissues hsynced hd
      exact ⟨_, hmem, hcounterpart⟩
    · obtain ⟨m, hm, -, hcounterpart⟩ := h.listed d hbelongs hunlisted
      exact ⟨_, hsynced.mem_settled hissues hwanted hm hcounterpart⟩

/-- Afterwards, there is nothing left to do. -/
theorem Convergent.madeRequests_eq_nil (h : Convergent moduleId p.house p.modules)
    (hlisted : Listed p.modules) (hissues : Issues answers p)
    (hsynced : Synced moduleId answers p p') :
    madeRequests moduleId p'.house p'.modules = [] := by
  have hwanted := h.asWanted hlisted
  have hlisted' := hsynced.listed hissues hlisted hwanted
  refine Eliot.madeRequests_eq_nil.2 ⟨fun m' hm' => ?_, ?_⟩
  · rw [requestsFor_eq_nil (hlisted'.length m' hm')]
    intro hcomplete
    rcases (hsynced.mem_modules hwanted).1 hm' with ⟨m, hm, hsettled⟩ | ⟨d, hd, rfl⟩
    · have hcounterpart := hsynced.counterpart_settled hissues hwanted hm hsettled
      rw [settled] at hsettled
      split at hsettled
      · rename_i hhub
        obtain rfl := Option.some.inj hsettled
        exact .inl hhub
      · obtain ⟨d, hd, rfl⟩ := Option.map_eq_some_iff.1 hsettled
        have hcomplete' : m.Complete := by
          by_contra hnot
          -- it had the name already, so that it is what it was
          have hname := (h.incomplete m hm d hd hnot).2
          exact hnot ⟨hcomplete.1, hcomplete.2.1, hname ▸ hcomplete.2.2⟩
        refine .inr ⟨d, hcounterpart.trans hd, ?_⟩
        rw [hsynced.comparedName]
        exact keepsName_iff.1 (h.complete m hm d hd hcomplete')
    · obtain ⟨hbelongs, hunlisted⟩ := (hwanted.added d).1 hd
      refine .inr ⟨d, (h.mem_new hwanted hissues hsynced hd).2.2, ?_⟩
      rw [hsynced.comparedName]
      exact keepsName_iff.1 (h.unlisted d hbelongs hunlisted).2
  · refine List.eq_nil_iff_forall_not_mem.2 fun d hd => ?_
    obtain ⟨hbelongs', -, hnone⟩ := mem_newDevices.1 hd
    have hbelongs := (hsynced.belongs d).1 hbelongs'
    by_cases hunlisted : Unlisted p.house p.modules d
    · obtain ⟨hmem, hcomplete, hcounterpart⟩ :=
        h.mem_new hwanted hissues hsynced ((hwanted.added d).2 ⟨hbelongs, hunlisted⟩)
      exact hnone _ hmem hcomplete hcounterpart
    · obtain ⟨m, hm, hcomplete, hcounterpart⟩ := h.listed d hbelongs hunlisted
      obtain ⟨hmem, hcounterpart'⟩ := hsynced.mem_settled hissues hwanted hm hcounterpart
      refine hnone _ hmem ⟨hcomplete.1, hcomplete.2.1, ?_⟩ hcounterpart'
      exact hbelongs.stored.sanitizedName_ne_nil

/-- What stands for a device, with its name, is compared with that name. -/
theorem Synced.keepsName (h : Synced moduleId answers p p') (hlisted' : Listed p'.modules)
    (hagrees : Agrees moduleId p'.house p'.modules) (hm' : m' ∈ p'.modules)
    (hnone : requestsFor moduleId p'.house m'.report = []) (hcomplete : m'.Complete)
    (hcounterpart : counterpart p'.house m' = some d) : KeepsName p.house d := by
  have hhub : ¬ m'.IsHub moduleId := not_isHub_of_counterpart hcounterpart
  obtain ⟨d', hd', hcompared⟩ :=
    ((requestsFor_eq_nil (hlisted'.length m' hm')).1 hnone hcomplete).resolve_left hhub
  obtain ⟨d'', hd'', hname⟩ := (hagrees.named m' hm').resolve_left hhub
  obtain rfl := Option.some.inj (hcounterpart.symm.trans hd')
  obtain rfl := Option.some.inj (hcounterpart.symm.trans hd'')
  rw [keepsName_iff, ← h.comparedName, hcompared, hname, h.deviceName]

/-- About a module that is not complete, nothing is done, so that nothing must be wanted. -/
theorem AsWanted.incomplete (h : AsWanted moduleId st modules) (hlisted : Listed modules)
    (hm : m ∈ modules) (hcounterpart : counterpart st m = some d) (hnot : ¬ m.Complete) :
    ¬ Belongs st d ∧ m.name = (sanitizedName (deviceName st d)).chars := by
  have hwanted := h.about m hm
  rw [requestsFor_report (hlisted.length m hm), if_neg hnot, wantedFor,
    requestsAbout_some hcounterpart] at hwanted
  have hname : (sanitizedName (deviceName st d)).chars = m.name := by
    by_contra hne
    rw [if_pos hne] at hwanted
    cases hwanted
  refine ⟨fun hbelongs => ?_, hname.symm⟩
  have hid := deviceId_of_counterpart hcounterpart
  have hold : d ∉ newDevices st modules := fun hd => ((h.added d).1 hd).2 m hm hid.symm
  cases d with
  | zone i =>
    -- no other module has the id, so that the zone would be added
    refine hold (mem_newDevices.2 ⟨hbelongs, trivial, fun m' hm' hcomplete hzone => ?_⟩)
    have hsame : m' = m :=
      hlisted.eq_of_id hm' hm (CString.ext ((deviceId_of_counterpart hzone).symm.trans hid))
    exact hnot (hsame ▸ hcomplete)
  | scene i =>
    obtain ⟨hkind, hne, -⟩ := counterpart_eq_some.1 hcounterpart
    refine hnot ⟨hne, ?_, hname ▸ hbelongs.stored.sanitizedName_ne_nil⟩
    rw [show m.deviceType = lc7001Scene from hkind]
    simp only [texts_eq]
    decide

/-- **What convergence needs.** -/
theorem AsWanted.convergent (h : AsWanted moduleId p.house p.modules) (hlisted : Listed p.modules)
    (hissues : Issues answers p) (hsynced : Synced moduleId answers p p')
    (hagrees : Agrees moduleId p'.house p'.modules)
    (hquiet : madeRequests moduleId p'.house p'.modules = []) :
    Convergent moduleId p.house p.modules := by
  have hlisted' := hsynced.listed hissues hlisted h
  obtain ⟨hnone, hfound⟩ := madeRequests_eq_nil.1 hquiet
  refine ⟨fun d hd hlist => ?_, fun d hd hunlisted => ?_, fun m hm hhub hcounterpart => ?_,
    fun m hm d hcounterpart hcomplete => ?_, fun m hm d => h.incomplete hlisted hm⟩
  · -- it is not added, and has a module all the same
    have hold : d ∉ newDevices p.house p.modules := fun hnew => hlist ((h.added d).1 hnew).2
    obtain ⟨m', hm', hcounterpart⟩ := hagrees.listed d ((hsynced.belongs d).2 hd)
    rcases (hsynced.mem_modules h).1 hm' with ⟨m, hm, hsettled⟩ | ⟨d', hd', rfl⟩
    · rw [hsynced.counterpart_settled hissues h hm hsettled] at hcounterpart
      refine ⟨m, hm, ?_, hcounterpart⟩
      by_contra hnot
      exact (h.incomplete hlisted hm hcounterpart hnot).1 hd
    · obtain ⟨rfl, -⟩ := (hsynced.counterpart_new hissues hd').1 hcounterpart
      exact (hold hd').elim
  · have hnew := (h.added d).2 ⟨hd, hunlisted⟩
    have hreached := (mem_newDevices.1 hnew).2.1
    -- the next synchronization finds the device, by its module
    obtain ⟨m', hm', hcomplete, hcounterpart⟩ : ∃ m' ∈ p'.modules, m'.Complete ∧
        counterpart p'.house m' = some d := by
      by_contra hnothing
      have hmem : d ∈ newDevices p'.house p'.modules := mem_newDevices.2
        ⟨(hsynced.belongs d).2 hd, hsynced.reached.2 hreached, fun m' hm' hcomplete heq =>
          hnothing ⟨m', hm', hcomplete, heq⟩⟩
      rw [hfound] at hmem
      cases hmem
    have hkeeps : KeepsName p.house d :=
      hsynced.keepsName hlisted' hagrees hm' (hnone m' hm') hcomplete hcounterpart
    refine ⟨?_, hkeeps⟩
    rcases (hsynced.mem_modules h).1 hm' with ⟨m, hm, hsettled⟩ | ⟨d', hd', rfl⟩
    · rw [hsynced.counterpart_settled hissues h hm hsettled] at hcounterpart
      exact (hunlisted m hm (deviceId_of_counterpart hcounterpart).symm).elim
    · obtain ⟨rfl, hkind⟩ := (hsynced.counterpart_new hissues hd').1 hcounterpart
      cases d with
      | zone i => exact mem_zoneTypes_iff.2 ⟨hcomplete.2.1, hkind⟩
      | scene i => exact hreached
  · by_contra hnot
    have hwanted := h.about m hm
    rw [requestsFor_report (hlisted.length m hm), if_neg hnot, wantedFor,
      requestsAbout_none hhub hcounterpart] at hwanted
    cases hwanted
  · obtain ⟨hmem, hcounterpart'⟩ := hsynced.mem_settled hissues h hm hcounterpart
    refine hsynced.keepsName hlisted' hagrees hmem (hnone _ hmem) ⟨hcomplete.1, hcomplete.2.1, ?_⟩
      hcounterpart'
    exact (stored_of_counterpart hcounterpart).sanitizedName_ne_nil

/-- The members of an object about a module. -/
def Module.members (m : Module) : List Member :=
  [⟨idKey, m.id.chars⟩, ⟨typeKey, m.deviceType⟩, ⟨nameKey, m.name⟩]

/-- A response with a list. -/
def listing (modules : List Module) : Response :=
  ⟨eliotHttpOk, [delimiter ++ arrayText (modules.map Module.members)]⟩

theorem isHeader_delimiter : IsHeader delimiter := by
  refine ⟨List.suffix_refl _, fun n hn hsuffix => ?_⟩
  have hlength := hsuffix.length_le
  rw [List.length_take] at hlength
  omega

theorem describes_members (h : Plain m.id.chars ∧ Plain m.deviceType ∧ Plain m.name) :
    Describes m m.members := by
  have hkeys : ∀ k ∈ [idKey, typeKey, nameKey], Plain k ∧ k ≠ [] := by
    unfold Plain
    simp only [texts_eq]
    decide
  have hdistinct : idKey ≠ typeKey ∧ idKey ≠ nameKey ∧ typeKey ≠ nameKey := by
    simp only [texts_eq]
    decide
  simp only [List.forall_mem_cons, List.not_mem_nil, false_imp_iff, implies_true, and_true] at hkeys
  obtain ⟨hid, htype, hname⟩ := hkeys
  refine ⟨?_, ?_, ?_, ?_⟩
  · simp only [Module.members, List.forall_mem_cons, List.not_mem_nil, false_imp_iff, implies_true,
      and_true]
    exact ⟨⟨hid.1, h.1, hid.2⟩, ⟨htype.1, h.2.1, htype.2⟩, hname.1, h.2.2, hname.2⟩
  · simp [Module.members, Ne.symm hdistinct.1, Ne.symm hdistinct.2.1]
  · simp [Module.members, hdistinct, Ne.symm hdistinct.2.2]
  · simp [Module.members, hdistinct]

theorem Listed.lists_listing (h : Listed modules) : Lists (listing modules) modules := by
  refine ⟨.inl rfl, delimiter, modules.map Module.members, isHeader_delimiter, ?_, ?_,
    List.flatten_singleton⟩
  · rw [List.forall₂_map_right_iff, List.forall₂_same]
    exact fun m hm => describes_members (h.plain m hm)
  · intro o ho x hx
    rw [List.head?_map] at ho
    obtain ⟨m, hm, rfl⟩ := Option.map_eq_some_iff.1 ho
    obtain rfl := Option.some.inj hx
    have hlength := h.length m (List.mem_of_mem_head? hm)
    exact List.ne_nil_of_length_pos (hlength ▸ (by decide : 0 < eliotDeviceIdSize - 1))

/-- A synchronization is quiet if there is nothing to do. -/
theorem Listed.quiet_iff (answers : Answers) (stack : Stack)
    (hready : account.plantId ≠ [] ∧ account.userToken ≠ []) (hlisted : Listed p.modules) :
    Quiet account p ↔ madeRequests account.moduleId p.house p.modules = [] := by
  constructor
  · intro h
    have hsynced : Synced account.moduleId answers p
        (syncDevices account answers stack (some (listing p.modules)) p) :=
      syncDevices_synced hready hlisted.lists_listing hlisted
    have hrequests := hsynced.requests
    rw [h answers stack _ hlisted.lists_listing] at hrequests
    exact List.self_eq_append_right.1 hrequests
  · intro h answers stack response hresponse
    rw [(syncDevices_synced hready hresponse hlisted).requests, h, List.append_nil]

theorem Converges.convergent (h : Converges account answers stack response p)
    (hready : account.plantId ≠ [] ∧ account.userToken ≠ [])
    (hresponse : Lists response p.modules) (hlisted : Listed p.modules)
    (hissues : Issues answers p) : Convergent account.moduleId p.house p.modules := by
  have hsynced : Synced account.moduleId answers p
      (syncDevices account answers stack (some response) p) :=
    syncDevices_synced hready hresponse hlisted
  obtain ⟨rs, hrequests, -, hrs⟩ := h.requests
  obtain rfl := List.append_cancel_left (hrequests.symm.trans hsynced.requests)
  have hwanted := (made_iff_wanted hlisted).1 hrs
  have hlisted' := hsynced.listed hissues hlisted hwanted
  have hquiet := (hlisted'.quiet_iff answers stack hready).1 h.quiet
  exact hwanted.convergent hlisted hissues hsynced h.agrees hquiet

/-- **A synchronization converges exactly if** every device in the list that belongs there is the
one that is found for a complete module, every other one is reached and has a type that the cloud
knows, and no name of a zone has to be sanitized. -/
theorem converges_iff (hready : account.plantId ≠ [] ∧ account.userToken ≠ [])
    (hresponse : Lists response p.modules) (hlisted : Listed p.modules)
    (hissues : Issues answers p) :
    Converges account answers stack response p ↔
      Convergent account.moduleId p.house p.modules := by
  refine ⟨fun h => h.convergent hready hresponse hlisted hissues, fun h => ?_⟩
  have hsynced : Synced account.moduleId answers p
      (syncDevices account answers stack (some response) p) :=
    syncDevices_synced hready hresponse hlisted
  have hwanted := h.asWanted hlisted
  refine ⟨⟨_, hsynced.requests, nodup_madeRequests hlisted, (made_iff_wanted hlisted).2 hwanted⟩,
    h.agrees hlisted hissues hsynced, ?_⟩
  have hlisted' := hsynced.listed hissues hlisted hwanted
  exact (hlisted'.quiet_iff answers stack hready).2 (h.madeRequests_eq_nil hlisted hissues hsynced)

end Convergent

/-! ### Two plants -/

theorem cloudId_byte {k : ℕ} {c : Byte} (h : c ∈ List.replicate 34 (BitVec.ofNat 8 0x30) ++
    [BitVec.ofNat 8 (0x40 + k / 16 % 16), BitVec.ofNat 8 (0x40 + k % 16)]) : 0x30 ≤ c.toNat := by
  simp only [List.mem_append, List.mem_replicate, List.mem_cons, List.not_mem_nil, or_false] at h
  rcases h with ⟨-, rfl⟩ | rfl | rfl
  · exact Nat.le_refl 0x30
  · rw [BitVec.toNat_ofNat]
    omega
  · rw [BitVec.toNat_ofNat]
    omega

theorem cloudId_noNul (k : ℕ) : 0 ∉ List.replicate 34 (BitVec.ofNat 8 0x30) ++
    [BitVec.ofNat 8 (0x40 + k / 16 % 16), BitVec.ofNat 8 (0x40 + k % 16)] := fun hmem =>
  absurd (cloudId_byte hmem) (by decide)

/-- An id, for each number below 256. -/
def cloudId (k : ℕ) : CString eliotDeviceIdSize where
  chars := List.replicate 34 (BitVec.ofNat 8 0x30) ++
    [BitVec.ofNat 8 (0x40 + k / 16 % 16), BitVec.ofNat 8 (0x40 + k % 16)]
  noNul := cloudId_noNul k
  fits := Nat.lt_succ_self 36

theorem cloudId_inj {j k : ℕ} (hj : j < 256) (hk : k < 256) (h : cloudId j = cloudId k) :
    j = k := by
  have hchars := List.append_cancel_left (congrArg CString.chars h)
  simp only [List.cons.injEq, and_true, BitVec.toNat_eq, BitVec.toNat_ofNat] at hchars
  omega

/-- The first answers are new where the ids that are there come later. -/
theorem issues_cloudId {p : Plant} (hadded : p.added = 0)
    (hmodules : ∀ m ∈ p.modules, ∃ k < 256, 200 ≤ k ∧ m.id = cloudId k)
    (hdevices : ∀ d, deviceId p.house d = [] ∨
      ∃ k < 256, 200 ≤ k ∧ deviceId p.house d = (cloudId k).chars) : Issues cloudId p := by
  have hne : ∀ k, (cloudId k).chars ≠ [] := fun k h => by
    have hlength : 36 = 0 := congrArg List.length h
    omega
  refine ⟨fun k => ⟨fun hmem => absurd (cloudId_byte hmem) (by decide), (cloudId k).noNul⟩,
    fun k => rfl, fun j k hj hjk hk heq => ?_, fun k hk hlt m hm heq => ?_,
    fun k hk hlt d heq => ?_⟩
  · rw [hadded] at hk
    have hlt : k < 200 := hk
    exact absurd (cloudId_inj (by omega) (by omega) heq) (by omega)
  · rw [hadded] at hlt
    have hlt' : k < 200 := hlt
    obtain ⟨k', hk', hle, hid⟩ := hmodules m hm
    exact absurd (cloudId_inj hk' (by omega) (hid.symm.trans heq)) (by omega)
  · rw [hadded] at hlt
    have hlt' : k < 200 := hlt
    rcases hdevices d with hnil | ⟨k', hk', hle, hid⟩
    · exact hne k (heq.symm.trans hnil)
    · exact absurd (cloudId_inj hk' (by omega) (CString.ext (hid.symm.trans heq))) (by omega)

/-- The characters of the texts. -/
theorem exampleTexts_eq :
    JsonT.bytesOfString "plant" = [0x70, 0x6C, 0x61, 0x6E, 0x74] ∧
    JsonT.bytesOfString "token" = [0x74, 0x6F, 0x6B, 0x65, 0x6E] ∧
    JsonT.bytesOfString "LCM1" = [0x4C, 0x43, 0x4D, 0x31] ∧
    JsonT.bytesOfString "Hall" = [0x48, 0x61, 0x6C, 0x6C] ∧
    JsonT.bytesOfString "Garage" = [0x47, 0x61, 0x72, 0x61, 0x67, 0x65] ∧
    JsonT.bytesOfString "A_B" = [0x41, 0x5F, 0x42] := by
  decide +kernel

/-- The zone in the first slot is the counterpart of each dimmer with its id. -/
theorem counterpart_dimmer {st : House.State} {k : ℕ} {name : List Byte}
    (h : deviceId st (.zone 0) = (cloudId k).chars) :
    counterpart st ⟨cloudId k, eliotCloudDimmer, name⟩ = some (.zone 0) := by
  refine counterpart_eq_some.2 ⟨?_, List.append_ne_nil_of_right_ne_nil _ (List.cons_ne_nil _ _), h,
    fun d' hbefore => ?_⟩
  · simp only [Module.OfKind, texts_eq]
    decide
  · cases d' with
    | zone i => exact absurd hbefore (Nat.not_lt_zero i)
    | scene i => exact hbefore.elim

/-- An account with a plant. -/
def exampleAccount : Account :=
  ⟨JsonT.bytesOfString "plant", JsonT.bytesOfString "token", cloudId 255⟩

theorem exampleAccount_ready : exampleAccount.plantId ≠ [] ∧ exampleAccount.userToken ≠ [] := by
  simp only [exampleAccount, exampleTexts_eq]
  decide

/-- What is on the stack. -/
def exampleStack : Stack :=
  ⟨fun _ => 0, fun _ => 0, fun _ _ => 0, fun _ => 0, fun _ => 0, exampleScene⟩

/-- Two zones, one of them with an id, and modules for it and for a zone that is gone. -/
def examplePlant : Plant where
  house := { State.initial with
    zones := (State.initial.zones.set 0 { Zones.exampleZone with
      deviceType := dimmerType, EliotDeviceId := cloudId 250 }).set 1 { Zones.exampleZone with
        deviceType := switchType, EliotDeviceId := CString.empty eliotDeviceIdSize_pos } }
  modules := [⟨cloudId 255, lc7001Hub, JsonT.bytesOfString "LCM1"⟩,
    ⟨cloudId 250, eliotCloudDimmer, JsonT.bytesOfString "Hall"⟩,
    ⟨cloudId 251, eliotCloudSwitch, JsonT.bytesOfString "Garage"⟩]
  requests := []
  added := 0

theorem listed_examplePlant : Listed examplePlant.modules := by
  simp only [examplePlant, exampleTexts_eq, texts_eq]
  refine ⟨?_, by decide, by decide⟩
  unfold Plain
  decide

/-- The devices that are stored. -/
theorem stored_examplePlant {d : Device} (h : Stored examplePlant.house d) :
    d = .zone 0 ∨ d = .zone 1 := by
  cases d with
  | zone i =>
    obtain ⟨q, hq⟩ := h
    by_contra hne
    have hi : i ≠ 0 ∧ i ≠ 1 := by simpa using hne
    have hget : examplePlant.house.zones.get i = none :=
      (Table.get_set_ne hi.2).trans (Table.get_set_ne hi.1)
    rw [hget] at hq
    cases hq
  | scene i =>
    obtain ⟨q, hq⟩ := h
    cases hq

theorem deviceId_examplePlant (d : Device) : deviceId examplePlant.house d = [] ∨
    ∃ k < 256, 200 ≤ k ∧ deviceId examplePlant.house d = (cloudId k).chars := by
  by_cases hnil : deviceId examplePlant.house d = []
  · exact .inl hnil
  · rcases stored_examplePlant (stored_of_deviceId hnil) with rfl | rfl
    · exact .inr ⟨250, by decide, by decide, rfl⟩
    · exact absurd rfl hnil

theorem convergent_examplePlant :
    Convergent exampleAccount.moduleId examplePlant.house examplePlant.modules := by
  have hcomplete : ∀ m ∈ examplePlant.modules, m.Complete := by
    simp only [examplePlant, exampleTexts_eq, texts_eq]
    decide
  have hkeeps : ∀ {d}, Stored examplePlant.house d → KeepsName examplePlant.house d := by
    intro d hd
    rcases stored_examplePlant hd with rfl | rfl
    · rfl
    · rfl
  refine ⟨fun d hd hlisted => ?_, fun d hd hunlisted => ⟨?_, hkeeps hd.stored⟩,
    fun m hm _ _ => hcomplete m hm, fun m hm d hd _ => hkeeps (stored_of_counterpart hd),
    fun m hm d _ hnot => absurd (hcomplete m hm) hnot⟩
  · rcases stored_examplePlant hd.stored with rfl | rfl
    · refine ⟨⟨cloudId 250, eliotCloudDimmer, JsonT.bytesOfString "Hall"⟩, ?_, ?_, ?_⟩
      · simp [examplePlant]
      · exact hcomplete _ (by simp [examplePlant])
      · exact counterpart_dimmer rfl
    · refine absurd ?_ hlisted
      unfold Unlisted
      decide
  · rcases stored_examplePlant hd.stored with rfl | rfl
    · unfold Addable
      decide
    · unfold Addable
      decide

theorem modules_examplePlant :
    ∀ m ∈ examplePlant.modules, ∃ k < 256, 200 ≤ k ∧ m.id = cloudId k := by
  simp only [examplePlant, List.forall_mem_cons]
  exact ⟨⟨255, by decide, by decide, rfl⟩, ⟨250, by decide, by decide, rfl⟩,
    ⟨251, by decide, by decide, rfl⟩, List.forall_mem_nil _⟩

/-- A module is renamed, one is deleted and one is added, and then there is nothing to do. -/
theorem converges_examplePlant : Converges exampleAccount cloudId exampleStack
    (listing examplePlant.modules) examplePlant :=
  (converges_iff exampleAccount_ready listed_examplePlant.lists_listing listed_examplePlant
    (issues_cloudId rfl modules_examplePlant deviceId_examplePlant)).2 convergent_examplePlant

theorem ampersand_noNul : (0 : Byte) ∉ ([0x41, 0x26, 0x42] : List Byte) := by decide

theorem ampersand_fits : ([0x41, 0x26, 0x42] : List Byte).length < maxSizeNameString := by decide

/-- A dimmer called `A&B`, and its module. -/
def ampersandPlant : Plant where
  house := { State.initial with
    zones := State.initial.zones.set 0 { Zones.exampleZone with
      deviceType := dimmerType
      ZoneNameString := ⟨[0x41, 0x26, 0x42], ampersand_noNul, ampersand_fits⟩
      EliotDeviceId := cloudId 250 } }
  modules := [⟨cloudId 250, eliotCloudDimmer, JsonT.bytesOfString "A_B"⟩]
  requests := []
  added := 0

theorem listed_ampersandPlant : Listed ampersandPlant.modules := by
  simp only [ampersandPlant, exampleTexts_eq, texts_eq]
  refine ⟨?_, by decide, by decide⟩
  unfold Plain
  decide

theorem deviceId_ampersandPlant (d : Device) : deviceId ampersandPlant.house d = [] ∨
    ∃ k < 256, 200 ≤ k ∧ deviceId ampersandPlant.house d = (cloudId k).chars := by
  cases d with
  | zone i =>
    by_cases hi : i = 0
    · subst hi
      exact .inr ⟨250, by decide, by decide, rfl⟩
    · have hget : ampersandPlant.house.zones.get i = none := Table.get_set_ne hi
      rw [deviceId, hget]
      exact .inl rfl
  | scene i => exact .inl rfl

theorem modules_ampersandPlant :
    ∀ m ∈ ampersandPlant.modules, ∃ k < 256, 200 ≤ k ∧ m.id = cloudId k := by
  simp only [ampersandPlant, List.forall_mem_cons]
  exact ⟨⟨250, by decide, by decide, rfl⟩, List.forall_mem_nil _⟩

/-- **The module of a zone is renamed** to the name it has, each time. -/
theorem not_converges_ampersandPlant : ¬ Converges exampleAccount cloudId exampleStack
    (listing ampersandPlant.modules) ampersandPlant := by
  intro h
  have hconvergent := h.convergent exampleAccount_ready listed_ampersandPlant.lists_listing
    listed_ampersandPlant (issues_cloudId rfl modules_ampersandPlant deviceId_ampersandPlant)
  have hmem : ⟨cloudId 250, eliotCloudDimmer, JsonT.bytesOfString "A_B"⟩ ∈
      ampersandPlant.modules := List.mem_singleton.2 rfl
  have hcomplete : ∀ m ∈ ampersandPlant.modules, m.Complete := by
    simp only [ampersandPlant, exampleTexts_eq, texts_eq]
    decide
  have hkeeps := hconvergent.complete _ hmem (.zone 0) (counterpart_dimmer rfl) (hcomplete _ hmem)
  exact absurd hkeeps (by unfold KeepsName; decide)

end Eliot

end Lcm
