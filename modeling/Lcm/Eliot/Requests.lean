import Lcm.Eliot.Listing

/-!
# The requests of a synchronization

What `Eliot_SyncDevices` does, in one formula for each of its loops: the requests that the modules
in the list call for, and then those for the devices that have not been found.

## Main definitions

* `requestsFor`, `foundBy` : what is done about a module in the list.
* `notFound` : the devices that are added.
* `Adds` : what adding devices does.

## Main results

* `foldl_compareModule` : the loop over the list.
* `foldl_addZone`, `addScenes_adds` : the loops over the devices.
* `syncDevices_adds` : all of it.
-/

namespace Lcm

namespace Eliot

open House Scenes Jsr

/-! ### Lookups -/

section Lookup

variable {P : Type*} {named : P → Bool} {n : ℕ} {t : Table P named n}
  {eliotDeviceId : P → CString eliotDeviceIdSize} {deviceId : List Byte} {i : ℕ}

/-- **A device is found** if it is the first one with the id. -/
theorem findIndexById_eq_some : findIndexById t eliotDeviceId deviceId = some i ↔
    deviceId ≠ [] ∧ (∃ p, t.get i = some p ∧ (eliotDeviceId p).chars = deviceId) ∧
      ∀ j < i, ∀ q, t.get j = some q → (eliotDeviceId q).chars ≠ deviceId := by
  have hkind : ∀ j p, t.get j = some p → ((named p && (eliotDeviceId p).chars ≠ [] &&
      (eliotDeviceId p).chars = deviceId) = true ↔
        deviceId ≠ [] ∧ (eliotDeviceId p).chars = deviceId) := by
    intro j p hp
    simp only [t.named_of_get j p hp, Bool.true_and, Bool.and_eq_true, decide_eq_true_eq]
    constructor
    · rintro ⟨hne, rfl⟩
      exact ⟨hne, rfl⟩
    · rintro ⟨hne, rfl⟩
      exact ⟨hne, rfl⟩
  rw [findIndexById]
  constructor
  · intro h
    split at h
    · rename_i hlt
      obtain rfl := Option.some.inj h
      obtain ⟨⟨p, hp, hpKind⟩, hbefore⟩ := (Table.find_eq_iff hlt).1 rfl
      obtain ⟨hne, hid⟩ := (hkind _ p hp).1 hpKind
      refine ⟨hne, ⟨p, hp, hid⟩, fun j hj q hq heq => ?_⟩
      have hfalse := hbefore j hj q hq
      rw [(hkind j q hq).2 ⟨hne, heq⟩] at hfalse
      cases hfalse
    · cases h
  · rintro ⟨hne, ⟨p, hp, hid⟩, hbefore⟩
    have hlt := Table.lt_of_get hp
    have hfind : t.find (fun p => named p && (eliotDeviceId p).chars ≠ [] &&
        (eliotDeviceId p).chars = deviceId) = i := by
      refine (Table.find_eq_iff hlt).2 ⟨⟨p, hp, (hkind i p hp).2 ⟨hne, hid⟩⟩, fun j hj q hq => ?_⟩
      exact Bool.eq_false_iff.2 fun htrue => hbefore j hj q hq ((hkind j q hq).1 htrue).2
    rw [hfind, if_pos hlt]

end Lookup

/-! ### The modules in the list -/

/-- The name of a device. -/
def deviceName (st : House.State) : Device → List Byte
  | .zone index => (st.zones.get index).elim [] (·.ZoneNameString.chars)
  | .scene index => (st.scenes.get index).elim [] (·.SceneNameString.chars)

/-- What the name in the list is compared with. -/
def comparedName (st : House.State) : Device → List Byte
  | .zone index => deviceName st (.zone index)
  | .scene index => (sanitizedName (deviceName st (.scene index))).chars

/-- What `Eliot_RenameDevice` requests. -/
def renameRequests (deviceId name : List Byte) : List Request :=
  if deviceId.length ≠ eliotDeviceIdSize - 1 then [] else [.rename deviceId (sanitizedName name)]

/-- The device that has been found for a module. -/
def foundBy (st : House.State) (r : Report) : Option Device :=
  if r.id ≠ [] ∧ r.deviceType ≠ [] ∧ r.name ≠ [] then
    if r.deviceType = lc7001Hub then none
    else if r.deviceType = lc7001Scene then (findSceneIndexById st r.id).map .scene
    else (findZoneIndexById st r.id).map .zone
  else none

/-- The requests that a module calls for. -/
def requestsFor (moduleId : CString eliotDeviceIdSize) (st : House.State) (r : Report) :
    List Request :=
  if r.id ≠ [] ∧ r.deviceType ≠ [] ∧ r.name ≠ [] then
    if r.deviceType = lc7001Hub ∧ r.id = moduleId.chars then []
    else
      match foundBy st r with
      | some d => if comparedName st d ≠ r.name then renameRequests r.id (deviceName st d) else []
      | none => [.delete r.id]
  else []

/-- Requests are made one after the other. -/
def Plant.requestAll (answers : Answers) (p : Plant) (rs : List Request) : Plant :=
  rs.foldl (Plant.request answers) p

/-- A device has been found. -/
def Found.insert (found : Found) (d : Option Device) : Found :=
  d.elim found fun d => Function.update found d true

variable {answers : Answers} {moduleId : CString eliotDeviceIdSize} {p : Plant} {found : Found}

@[simp] theorem house_requestAll (rs : List Request) :
    (p.requestAll answers rs).house = p.house := by
  induction rs generalizing p with
  | nil => rfl
  | cons r rs ih => exact ih

@[simp] theorem requests_requestAll (rs : List Request) :
    (p.requestAll answers rs).requests = p.requests ++ rs := by
  induction rs generalizing p with
  | nil => exact (List.append_nil _).symm
  | cons r rs ih => exact ih.trans (List.append_assoc ..)

theorem requestAll_append (rs rs' : List Request) :
    p.requestAll answers (rs ++ rs') = (p.requestAll answers rs).requestAll answers rs' :=
  List.foldl_append

theorem renameDevice_eq (deviceId name : List Byte) :
    renameDevice answers p deviceId name = p.requestAll answers (renameRequests deviceId name) := by
  rw [renameDevice, renameRequests]
  split
  · rfl
  · rfl

/-- **The body of the loop over the list.** -/
theorem compareModule_eq (r : Report) : compareModule answers moduleId (p, found) r =
    (p.requestAll answers (requestsFor moduleId p.house r), found.insert (foundBy p.house r)) := by
  have hsame : ∀ d, p.requestAll answers (if comparedName p.house d ≠ r.name then
      renameRequests r.id (deviceName p.house d) else []) =
      if comparedName p.house d ≠ r.name then
        renameDevice answers p r.id (deviceName p.house d) else p := by
    intro d
    rw [renameDevice_eq]
    split
    · rfl
    · rfl
  rw [compareModule, requestsFor, foundBy]
  dsimp only
  by_cases hr : r.id ≠ [] ∧ r.deviceType ≠ [] ∧ r.name ≠ []
  · rw [if_pos hr, if_pos hr, if_pos hr]
    by_cases hhub : r.deviceType = lc7001Hub
    · rw [if_pos hhub, if_pos hhub]
      by_cases hid : r.id = moduleId.chars
      · rw [if_pos hid, if_pos ⟨hhub, hid⟩]
        rfl
      · have hnot : ¬ (r.deviceType = lc7001Hub ∧ r.id = moduleId.chars) := fun hand => hid hand.2
        rw [if_neg hid, if_neg hnot]
        rfl
    · have hnot : ¬ (r.deviceType = lc7001Hub ∧ r.id = moduleId.chars) := fun hand => hhub hand.1
      rw [if_neg hhub, if_neg hhub, if_neg hnot]
      by_cases hscene : r.deviceType = lc7001Scene
      · rw [if_pos hscene, if_pos hscene]
        cases findSceneIndexById p.house r.id with
        | none => rfl
        | some index => exact congrArg (·, _) (hsame (.scene index)).symm
      · rw [if_neg hscene, if_neg hscene]
        cases findZoneIndexById p.house r.id with
        | none => rfl
        | some index => exact congrArg (·, _) (hsame (.zone index)).symm
  · rw [if_neg hr, if_neg hr, if_neg hr]
    rfl

/-- **The loop over the list.** -/
theorem foldl_compareModule (rs : List Report) :
    rs.foldl (compareModule answers moduleId) (p, found) =
      (p.requestAll answers (rs.flatMap (requestsFor moduleId p.house)),
        rs.foldl (fun found r => found.insert (foundBy p.house r)) found) := by
  induction rs generalizing p found with
  | nil => rfl
  | cons r rs ih =>
    rw [List.foldl_cons, compareModule_eq, ih, house_requestAll, List.flatMap_cons,
      requestAll_append]
    rfl

/-- A device has been found if it has been found for one of the modules. -/
theorem foldl_insert (st : House.State) (rs : List Report) (d : Device) :
    rs.foldl (fun found r => found.insert (foundBy st r)) found d = true ↔
      found d = true ∨ ∃ r ∈ rs, foundBy st r = some d := by
  induction rs generalizing found with
  | nil => simp
  | cons r rs ih =>
    have hinsert : (found.insert (foundBy st r)) d = true ↔
        found d = true ∨ foundBy st r = some d := by
      cases foundBy st r with
      | none => simp [Found.insert]
      | some d' =>
        by_cases hd : d = d'
        · subst hd
          simp [Found.insert]
        · simp [Found.insert, hd, Ne.symm hd]
    rw [List.foldl_cons, ih, hinsert, List.exists_mem_cons_iff, or_assoc]

/-! ### What the requests do to the list -/

/-- What a request does to a module. -/
def Request.effect : Request → Module → Option Module
  | .rename deviceId name, m =>
    some (if m.id.chars = deviceId then { m with name := name.chars } else m)
  | .delete deviceId, m => if m.id.chars ≠ deviceId then some m else none
  | .add .., m => some m

/-- What requests do to a module. -/
def after (rs : List Request) (m : Module) : Option Module :=
  rs.foldlM (fun m (r : Request) => r.effect m) m

/-- The device that a request adds. -/
def Request.addedDevice : Request → Option Device
  | .add device _ _ => some device
  | _ => none

theorem applyRequest_eq {r : Request} (hr : r.addedDevice = none) (id : CString eliotDeviceIdSize)
    (ms : List Module) : applyRequest id r ms = ms.filterMap r.effect := by
  cases r with
  | rename deviceId name =>
    rw [applyRequest, ← List.filterMap_eq_map]
    rfl
  | delete deviceId =>
    rw [applyRequest, ← List.filterMap_eq_filter]
    refine List.filterMap_congr fun m _ => ?_
    simp only [Request.effect, Option.guard, decide_eq_true_eq]
  | add device deviceType name => cases hr

theorem modules_requestAll {rs : List Request} (hrs : ∀ r ∈ rs, r.addedDevice = none) :
    (p.requestAll answers rs).modules = p.modules.filterMap (after rs) ∧
      (p.requestAll answers rs).added = p.added := by
  induction rs generalizing p with
  | nil => exact ⟨List.filterMap_some.symm, rfl⟩
  | cons r rs ih =>
    obtain ⟨hr, hrs⟩ := List.forall_mem_cons.1 hrs
    obtain ⟨hmodules, hadded⟩ := ih (p := p.request answers r) hrs
    have hfirst : (p.request answers r).modules = p.modules.filterMap r.effect :=
      applyRequest_eq hr _ _
    have hcount : (p.request answers r).added = p.added := by
      cases r with
      | rename deviceId name => rfl
      | delete deviceId => rfl
      | add device deviceType name => cases hr
    refine ⟨hmodules.trans ?_, hadded.trans hcount⟩
    rw [hfirst, List.filterMap_filterMap]
    rfl

theorem Request.effect_id {r : Request} {m m' : Module} (h : r.effect m = some m') :
    m'.id = m.id := by
  cases r with
  | rename deviceId name =>
    obtain rfl := Option.some.inj h
    split
    · rfl
    · rfl
  | delete deviceId =>
    rw [Request.effect] at h
    split at h
    · obtain rfl := Option.some.inj h
      rfl
    · cases h
  | add device deviceType name =>
    obtain rfl := Option.some.inj h
    rfl

theorem after_append (rs rs' : List Request) (m : Module) :
    after (rs ++ rs') m = (after rs m).bind (after rs') := List.foldlM_append

theorem after_id {rs : List Request} {m m' : Module} (h : after rs m = some m') :
    m'.id = m.id := by
  induction rs generalizing m with
  | nil =>
    obtain rfl := Option.some.inj h
    rfl
  | cons r rs ih =>
    obtain ⟨m'', hfirst, hrest⟩ := Option.bind_eq_some_iff.1 h
    exact (ih hrest).trans (Request.effect_id hfirst)

theorem after_other {rs : List Request} {m : Module} (h : ∀ r ∈ rs, r.effect m = some m) :
    after rs m = some m := by
  induction rs with
  | nil => rfl
  | cons r rs ih =>
    obtain ⟨hr, hrs⟩ := List.forall_mem_cons.1 h
    change (r.effect m).bind (after rs) = some m
    rw [hr, Option.bind_some, ih hrs]

/-- **Requests about modules with different ids do not disturb each other.** -/
theorem after_flatMap {ms : List Module} (hnodup : (ms.map Module.id).Nodup)
    {f : Module → List Request}
    (hf : ∀ m, ∀ r ∈ f m, ∀ m' : Module, m'.id ≠ m.id → r.effect m' = some m')
    {m : Module} (hm : m ∈ ms) : after (ms.flatMap f) m = after (f m) m := by
  induction ms with
  | nil => cases hm
  | cons a ms ih =>
    rw [List.map_cons, List.nodup_cons] at hnodup
    rw [List.flatMap_cons, after_append]
    rcases List.mem_cons.1 hm with rfl | hmem
    · -- the requests about the modules that follow
      have hrest : ∀ m', m'.id = m.id → after (ms.flatMap f) m' = some m' := by
        intro m' hid
        refine after_other fun r hr => ?_
        obtain ⟨b, hb, hr⟩ := List.mem_flatMap.1 hr
        refine hf b r hr m' fun heq => hnodup.1 ?_
        exact List.mem_map.2 ⟨b, hb, heq.symm.trans hid⟩
      cases hafter : after (f m) m with
      | none => rfl
      | some m' => exact hrest m' (after_id hafter)
    · have hne : m.id ≠ a.id := fun heq => hnodup.1 (heq ▸ List.mem_map_of_mem hmem)
      rw [after_other fun r hr => hf a r hr m hne, Option.bind_some]
      exact ih hnodup.2 hmem

theorem mem_requestsFor {st : House.State} {rep : Report} {r : Request}
    (h : r ∈ requestsFor moduleId st rep) :
    rep.id ≠ [] ∧ (r = .delete rep.id ∨ ∃ name, r = .rename rep.id name) := by
  rw [requestsFor] at h
  split at h
  · rename_i hrep
    refine ⟨hrep.1, ?_⟩
    split at h
    · cases h
    · split at h
      · rename_i d _
        rw [renameRequests] at h
        split at h
        · split at h
          · cases h
          · exact .inr ⟨_, List.mem_singleton.1 h⟩
        · cases h
      · exact .inl (List.mem_singleton.1 h)
  · cases h

theorem addedDevice_requestsFor {st : House.State} {rep : Report} {r : Request}
    (h : r ∈ requestsFor moduleId st rep) : r.addedDevice = none := by
  rcases (mem_requestsFor h).2 with rfl | ⟨name, rfl⟩
  · rfl
  · rfl

theorem effect_requestsFor {st : House.State} {m m' : Module} {r : Request}
    (h : r ∈ requestsFor moduleId st m.report) (hne : m'.id ≠ m.id) : r.effect m' = some m' := by
  have hchars : m'.id.chars ≠ m.id.chars := fun heq => hne (CString.ext heq)
  rcases (mem_requestsFor h).2 with rfl | ⟨name, rfl⟩
  · exact if_pos hchars
  · exact congrArg some (if_neg hchars)

/-! ### The devices that have not been found -/

/-- The type with which a device is added. -/
def deviceTypeOf (st : House.State) : Device → Byte
  | .zone index => (st.zones.get index).elim noType (·.deviceType)
  | .scene _ => sceneType

/-- The request that adds a device. -/
def addRequest (st : House.State) (d : Device) : Request :=
  .add d (cloudType (deviceTypeOf st d)) (sanitizedName (deviceName st d))

/-- The module of a device that has been added. -/
def addedModule (st : House.State) (id : CString eliotDeviceIdSize) (d : Device) : Module :=
  ⟨id, cloudType (deviceTypeOf st d), (sanitizedName (deviceName st d)).chars⟩

/-- The id of a device, if devices are added; the answers before have been used. -/
def newId (answers : Answers) (base : ℕ) (ds : List Device) (d : Device)
    (id : CString eliotDeviceIdSize) : CString eliotDeviceIdSize :=
  if d ∈ ds then answers (base + ds.idxOf d) else id

/-- **Devices are added**: there are requests for them, and they have the ids of their modules. -/
structure Adds (answers : Answers) (p : Plant) (ds : List Device) (p' : Plant) : Prop where
  requests : p'.requests = p.requests ++ ds.map (addRequest p.house)
  modules : p'.modules = p.modules ++
    ds.mapIdx fun k d => addedModule p.house (answers (p.added + k)) d
  added : p'.added = p.added + ds.length
  zones : ∀ i, p'.house.zones.get i = (p.house.zones.get i).map fun q =>
    { q with EliotDeviceId := newId answers p.added ds (.zone i) q.EliotDeviceId }
  scenes : ∀ i, p'.house.scenes.get i = (p.house.scenes.get i).map fun q =>
    { q with EliotDeviceId := newId answers p.added ds (.scene i) q.EliotDeviceId }

/-- The zones below an index that are added. -/
def zonesNotFound (found : Found) (st : House.State) (k : ℕ) : List Device :=
  ((List.range k).filter fun i =>
    (st.zones.get i).any (·.deviceType ≠ noType) && !found (.zone i)).map .zone

/-- The scenes below an index that are added. -/
def scenesNotFound (found : Found) (k : ℕ) : List Device :=
  ((List.range k).filter fun i => !found (.scene i)).map .scene

/-- The devices that are added. -/
def notFound (found : Found) (st : House.State) : List Device :=
  zonesNotFound found st maxNumberOfZones ++ scenesNotFound found st.scenes.available

section Adds

variable {ds : List Device} {p' : Plant} {d : Device} {i k base : ℕ}
  {id : CString eliotDeviceIdSize}

theorem newId_of_notMem (h : d ∉ ds) : newId answers base ds d id = id := if_neg h

theorem newId_concat_self (h : d ∉ ds) :
    newId answers base (ds ++ [d]) d id = answers (base + ds.length) := by
  simp [newId, List.idxOf_append, h]

theorem newId_concat_ne {d' : Device} (h : d' ≠ d) :
    newId answers base (ds ++ [d]) d' id = newId answers base ds d' id := by
  by_cases hmem : d' ∈ ds
  · simp [newId, List.idxOf_append, hmem]
  · simp [newId, hmem, h]

theorem zone_mem_zonesNotFound : Device.zone i ∈ zonesNotFound found p.house k ↔
    i < k ∧ (p.house.zones.get i).any (·.deviceType ≠ noType) = true ∧ found (.zone i) = false := by
  simp [zonesNotFound]

theorem scene_mem_scenesNotFound :
    Device.scene i ∈ scenesNotFound found k ↔ i < k ∧ found (.scene i) = false := by
  simp [scenesNotFound]

theorem zonesNotFound_succ (st : House.State) : zonesNotFound found st (k + 1) =
    zonesNotFound found st k ++
      if ((st.zones.get k).any (·.deviceType ≠ noType) && !found (.zone k)) = true
        then [.zone k] else [] := by
  rw [zonesNotFound, List.range_succ, List.filter_append, List.map_append, zonesNotFound]
  congr 1
  rw [List.filter_cons]
  split
  · rfl
  · rfl

theorem scenesNotFound_succ : scenesNotFound found (k + 1) =
    scenesNotFound found k ++ if found (.scene k) = true then [] else [.scene k] := by
  cases hfound : found (.scene k) with
  | false => simp [scenesNotFound, List.range_succ, hfound]
  | true => simp [scenesNotFound, List.range_succ, hfound]

theorem Adds.nil : Adds answers p [] p := by
  refine ⟨by simp, by simp, rfl, fun i => ?_, fun i => ?_⟩
  · simp [newId]
  · simp [newId]

/-- A zone that has not been added is as it was. -/
theorem Adds.zone_notMem (h : Adds answers p ds p') (hi : Device.zone i ∉ ds) :
    p'.house.zones.get i = p.house.zones.get i := by
  rw [h.zones]
  simp [newId_of_notMem hi]

/-- A scene that has not been added is as it was. -/
theorem Adds.scene_notMem (h : Adds answers p ds p') (hi : Device.scene i ∉ ds) :
    p'.house.scenes.get i = p.house.scenes.get i := by
  rw [h.scenes]
  simp [newId_of_notMem hi]

/-- A free slot for a scene stays free, so that the first one does. -/
theorem Adds.available (h : Adds answers p ds p') :
    p'.house.scenes.available = p.house.scenes.available := by
  simp [Table.available, h.scenes]

/-- **One more device is added.** -/
theorem Adds.concat (h : Adds answers p ds p') {st : House.State}
    (hzones : ∀ i, st.zones.get i = (p.house.zones.get i).map fun q =>
      { q with EliotDeviceId := newId answers p.added (ds ++ [d]) (.zone i) q.EliotDeviceId })
    (hscenes : ∀ i, st.scenes.get i = (p.house.scenes.get i).map fun q =>
      { q with EliotDeviceId := newId answers p.added (ds ++ [d]) (.scene i) q.EliotDeviceId }) :
    Adds answers p (ds ++ [d])
      { p'.request answers (addRequest p.house d) with house := st } := by
  refine ⟨?_, ?_, ?_, hzones, hscenes⟩
  · simp [Plant.request, h.requests]
  · simp [Plant.request, addRequest, applyRequest, h.modules, h.added, addedModule]
  · simp [Plant.request, addRequest, h.added, Nat.add_assoc]

theorem addDevice_eq {deviceType : Byte} (h : deviceType ≠ noType) (name : List Byte) :
    addDevice answers p d deviceType id name =
      (p.request answers (.add d (cloudType deviceType) (sanitizedName name)),
        answers p.added) := if_neg h

/-- One more zone is added. -/
theorem Adds.concat_zone (h : Adds answers p ds p') (hi : Device.zone i ∉ ds) {q : ZoneProperties}
    (hq : p.house.zones.get i = some q) (htype : q.deviceType ≠ noType)
    (hfound : found (.zone i) = false) :
    Adds answers p (ds ++ [.zone i]) (addZone answers found p' i) := by
  have hq' : p'.house.zones.get i = some q := (h.zone_notMem hi).trans hq
  have hrequest : Request.add (.zone i) (cloudType q.deviceType)
      (sanitizedName q.ZoneNameString.chars) = addRequest p.house (.zone i) := by
    simp [addRequest, deviceTypeOf, deviceName, hq]
  simp only [addZone, hq', hfound, addDevice_eq htype, hrequest, Bool.false_eq_true, if_false]
  refine h.concat (fun j => ?_) fun j => ?_
  · by_cases hj : j = i
    · subst hj
      have hnamed : zoneNamed { q with EliotDeviceId := answers p'.added } = true :=
        p.house.zones.named_of_get j q hq
      dsimp only [Plant.request]
      rw [Table.get_set_named (Table.lt_of_get hq) hnamed, hq,
        Option.map_some, newId_concat_self hi, h.added]
    · have hne : Device.zone j ≠ Device.zone i := by simpa using hj
      simp only [newId_concat_ne hne, Table.get_set_ne hj]
      exact h.zones j
  · simp only [newId_concat_ne (show Device.scene j ≠ Device.zone i by simp)]
    exact h.scenes j

/-- One more scene is added. -/
theorem Adds.concat_scene (h : Adds answers p ds p') (hi : Device.scene i ∉ ds)
    {q garbage : SceneProperties} (hq : p.house.scenes.get i = some q)
    (hfound : found (.scene i) = false) :
    Adds answers p (ds ++ [.scene i]) (addScene answers garbage found p' i) := by
  have hq' : p'.house.scenes.get i = some q := (h.scene_notMem hi).trans hq
  have htype : sceneType ≠ noType := by decide
  have hrequest : Request.add (.scene i) (cloudType sceneType)
      (sanitizedName q.SceneNameString.chars) = addRequest p.house (.scene i) := by
    simp [addRequest, deviceTypeOf, deviceName, hq]
  simp only [addScene, hq', hfound, Option.getD_some, addDevice_eq htype, hrequest,
    Bool.false_eq_true, if_false]
  refine h.concat (fun j => ?_) fun j => ?_
  · simp only [newId_concat_ne (show Device.zone j ≠ Device.scene i by simp)]
    exact h.zones j
  · by_cases hj : j = i
    · subst hj
      have hnamed : sceneNamed { q with EliotDeviceId := answers p'.added } = true :=
        p.house.scenes.named_of_get j q hq
      dsimp only [Plant.request]
      rw [Table.get_set_named (Table.lt_of_get hq) hnamed, hq,
        Option.map_some, newId_concat_self hi, h.added]
    · have hne : Device.scene j ≠ Device.scene i := by simpa using hj
      simp only [newId_concat_ne hne, Table.get_set_ne hj]
      exact h.scenes j

/-- Storing a zone as it is changes nothing. -/
theorem Adds.set_same (h : Adds answers p ds p') {q : ZoneProperties}
    (hq : p'.house.zones.get i = some q) :
    Adds answers p ds { p' with house := { p'.house with zones := p'.house.zones.set i q } } := by
  refine ⟨h.requests, h.modules, h.added, fun j => ?_, h.scenes⟩
  by_cases hj : j = i
  · subst hj
    rw [Table.get_set_named (Table.lt_of_get hq) (p'.house.zones.named_of_get j q hq), ← hq,
      h.zones]
  · rw [Table.get_set_ne hj, h.zones]

/-- **The loop over the zones.** -/
theorem foldl_addZone : Adds answers p (zonesNotFound found p.house k)
    ((List.range k).foldl (addZone answers found) p) := by
  induction k with
  | zero => exact .nil
  | succ k ih =>
    rw [List.range_succ, List.foldl_append, List.foldl_cons, List.foldl_nil]
    have hnot : Device.zone k ∉ zonesNotFound found p.house k := by
      simp [zone_mem_zonesNotFound]
    have hslot := ih.zone_notMem hnot
    rw [zonesNotFound_succ]
    split
    · rename_i hadd
      obtain ⟨hany, hfound⟩ := Bool.and_eq_true_iff.1 hadd
      obtain ⟨q, hq, htype⟩ := (Option.any_eq_true ..).1 hany
      exact ih.concat_zone hnot hq (of_decide_eq_true htype) (by simpa using hfound)
    · rename_i hadd
      rw [List.append_nil, addZone]
      cases hq : p.house.zones.get k with
      | none => simpa only [hslot, hq] using ih
      | some q =>
        simp only [hslot, hq]
        split
        · exact ih
        · -- it is a remote, and its properties are stored as they are
          rename_i hfound
          have htype : q.deviceType = noType := by
            simpa [hq, hfound] using hadd
          simp only [addDevice, if_pos htype]
          exact ih.set_same (hslot.trans hq)

/-- **The loop over the scenes**, from an index up to the first free slot. -/
theorem addScenes_adds (garbage : SceneProperties) {left : ℕ} (hleft : left ≤ maxNumberOfScenes)
    (hstart : maxNumberOfScenes - left ≤ p.house.scenes.available)
    (hds : ∀ i, Device.scene i ∉ ds)
    (h : Adds answers p (ds ++ scenesNotFound found (maxNumberOfScenes - left)) p') :
    Adds answers p (ds ++ scenesNotFound found p.house.scenes.available)
      (addScenes answers garbage found left p') := by
  induction left generalizing p' with
  | zero =>
    have hend : p.house.scenes.available = maxNumberOfScenes :=
      Nat.le_antisymm Table.available_le hstart
    rw [addScenes, hend]
    exact h
  | succ left ih =>
    rw [addScenes, h.available]
    have hnext : maxNumberOfScenes - left = maxNumberOfScenes - (left + 1) + 1 := by omega
    generalize hindex : maxNumberOfScenes - (left + 1) = index at *
    split
    · rename_i hlt
      have hnot : Device.scene index ∉ ds ++ scenesNotFound found index := by
        simp [hds, scene_mem_scenesNotFound]
      refine ih (by omega) (by omega) ?_
      rw [hnext, scenesNotFound_succ]
      split
      · rename_i hfound
        simpa only [List.append_nil, addScene, if_pos hfound] using h
      · rename_i hfound
        obtain ⟨q, hq⟩ := Option.isSome_iff_exists.1 (Table.isSome_get hlt)
        rw [← List.append_assoc]
        exact h.concat_scene hnot hq (Bool.eq_false_iff.2 hfound)
    · rename_i hnlt
      have hend : p.house.scenes.available = index := by omega
      rw [hend]
      exact h

end Adds

/-! ### All of it -/

/-- What has been found when the list has been read. -/
def foundIn (st : House.State) (rs : List Report) : Found :=
  rs.foldl (fun found r => found.insert (foundBy st r)) noneFound

theorem foundIn_eq_true {st : House.State} {rs : List Report} {d : Device} :
    foundIn st rs d = true ↔ ∃ r ∈ rs, foundBy st r = some d := by
  simp [foundIn, foldl_insert, noneFound]

theorem Lists.flatten_ne_nil {response : Response} {modules : List Module}
    (h : Lists response modules) : response.buffers.flatten ≠ [] := by
  obtain ⟨header, objects, -, -, -, htext⟩ := h.text
  rw [htext, arrayText]
  simp

/-- **The synchronization**: the requests that the list calls for, and then those for the devices
that have not been found in it. -/
theorem syncDevices_adds {account : Account} {stack : Stack} {response : Response}
    {modules : List Module} (hready : account.plantId ≠ [] ∧ account.userToken ≠ [])
    (hresponse : Lists response modules) :
    Adds answers
      (p.requestAll answers
        ((reports stack response).flatMap (requestsFor account.moduleId p.house)))
      (notFound (foundIn p.house (reports stack response)) p.house)
      (syncDevices account answers stack (some response) p) := by
  have hnot : ¬ (account.plantId = [] ∨ account.userToken = []) := fun h =>
    h.elim hready.1 hready.2
  simp only [syncDevices, if_neg hnot, if_pos hresponse.status, if_neg hresponse.flatten_ne_nil,
    foldl_compareModule]
  set q := p.requestAll answers
    ((reports stack response).flatMap (requestsFor account.moduleId p.house)) with hq
  have hhouse : q.house = p.house := house_requestAll _
  have hzones : Adds answers q
      (zonesNotFound (foundIn p.house (reports stack response)) q.house maxNumberOfZones ++
        scenesNotFound (foundIn p.house (reports stack response))
          (maxNumberOfScenes - maxNumberOfScenes))
      ((List.range maxNumberOfZones).foldl
        (addZone answers (foundIn p.house (reports stack response))) q) := by
    simpa [scenesNotFound] using foldl_addZone
  have hscenes := addScenes_adds stack.properties (Nat.le_refl _) (by simp)
    (by simp [zonesNotFound]) hzones
  rwa [hhouse] at hscenes

end Eliot

end Lcm
