import Lcm.Eliot.Requests
import Mathlib.Data.List.Nodup

/-!
# The requests that are wanted

A synchronization is to make the list of modules agree with the store: modules that stand for
nothing are deleted, those with another name are renamed, and devices whose ids are not in the list
are added.  What `Eliot_SyncDevices` requests instead is known module by module, and for the
devices.

## Main definitions

* `counterpart` : the device that a module stands for.
* `Wanted` : the requests that are wanted.
* `madeRequests` : the requests that are made.

## Main results

* `requestsFor_report` : the requests about a module.
* `made_iff_wanted` : when what is made is what is wanted.
-/

namespace Lcm

namespace Eliot

open House Scenes Jsr

/-! ### Devices and modules -/

/-- The id of a device in the cloud, empty if it has none. -/
def deviceId (st : House.State) : Device → List Byte
  | .zone index => (st.zones.get index).elim [] (·.EliotDeviceId.chars)
  | .scene index => (st.scenes.get index).elim [] (·.EliotDeviceId.chars)

/-- A device belongs in the cloud: a zone that is not a remote, or a scene. -/
def Belongs (st : House.State) : Device → Prop
  | .zone index => ∃ q, st.zones.get index = some q ∧ q.deviceType ≠ noType
  | .scene index => ∃ q, st.scenes.get index = some q

/-- The id of a device is not in the list. -/
def Unlisted (st : House.State) (modules : List Module) (d : Device) : Prop :=
  ∀ m ∈ modules, m.id.chars ≠ deviceId st d

/-- The module of the controller itself. -/
def Module.IsHub (moduleId : CString eliotDeviceIdSize) (m : Module) : Prop :=
  m.deviceType = lc7001Hub ∧ m.id = moduleId

instance Module.decidableIsHub (moduleId : CString eliotDeviceIdSize) (m : Module) :
    Decidable (m.IsHub moduleId) :=
  inferInstanceAs (Decidable (_ ∧ _))

/-- The device that a module stands for: the first one of its kind with its id. -/
def counterpart (st : House.State) (m : Module) : Option Device :=
  if m.deviceType = lc7001Hub then none
  else if m.deviceType = lc7001Scene then (findSceneIndexById st m.id.chars).map .scene
  else (findZoneIndexById st m.id.chars).map .zone

/-- The requests that make the list agree with the store: modules that stand for nothing are
deleted, those with another name are renamed, and devices whose id is not there are added. -/
inductive Wanted (moduleId : CString eliotDeviceIdSize) (st : House.State) (modules : List Module) :
    Request → Prop
  | delete {m : Module} (hm : m ∈ modules) (hhub : ¬ m.IsHub moduleId)
    (h : counterpart st m = none) : Wanted moduleId st modules (.delete m.id.chars)
  | rename {m : Module} {d : Device} (hm : m ∈ modules) (h : counterpart st m = some d)
    (hname : m.name ≠ (sanitizedName (deviceName st d)).chars) :
    Wanted moduleId st modules (.rename m.id.chars (sanitizedName (deviceName st d)))
  | add {d : Device} (hd : Belongs st d) (h : Unlisted st modules d) :
    Wanted moduleId st modules (addRequest st d)

/-- A module has an id, a type and a name. -/
def Module.Complete (m : Module) : Prop := m.id.chars ≠ [] ∧ m.deviceType ≠ [] ∧ m.name ≠ []

instance Module.decidableComplete (m : Module) : Decidable m.Complete :=
  inferInstanceAs (Decidable (_ ∧ _))

/-! ### Counterparts -/

section Counterpart

variable {st st' : House.State} {m m' : Module} {d d' : Device}

/-- A module is of the kind of a device. -/
def Module.OfKind (m : Module) : Device → Prop
  | .zone _ => m.deviceType ≠ lc7001Hub ∧ m.deviceType ≠ lc7001Scene
  | .scene _ => m.deviceType = lc7001Scene

/-- A device is stored before another one of its kind. -/
def Device.Before : Device → Device → Prop
  | .zone i, .zone j => i < j
  | .scene i, .scene j => i < j
  | _, _ => False

theorem elim_eq_iff {P : Type*} {o : Option P} {f : P → List Byte} {l : List Byte} (hl : l ≠ []) :
    o.elim [] f = l ↔ ∃ p, o = some p ∧ f p = l := by
  cases o with
  | none => simp [Ne.symm hl]
  | some p => simp

theorem findIndexById_iff {P : Type*} {named : P → Bool} {n : ℕ} {t : Table P named n}
    {eliotDeviceId : P → CString eliotDeviceIdSize} {id : List Byte} {i : ℕ} :
    findIndexById t eliotDeviceId id = some i ↔ id ≠ [] ∧
      (t.get i).elim [] (fun p => (eliotDeviceId p).chars) = id ∧
        ∀ j < i, (t.get j).elim [] (fun p => (eliotDeviceId p).chars) ≠ id := by
  rw [findIndexById_eq_some]
  refine and_congr_right fun hid => ?_
  simp only [Ne, elim_eq_iff hid, not_exists, not_and]

/-- **The counterpart of a module** is the first device of its kind with its id. -/
theorem counterpart_eq_some : counterpart st m = some d ↔ m.OfKind d ∧ m.id.chars ≠ [] ∧
    deviceId st d = m.id.chars ∧ ∀ d', d'.Before d → deviceId st d' ≠ m.id.chars := by
  have hne : lc7001Scene ≠ lc7001Hub := by
    simp only [texts_eq]
    decide
  have hzone : ∀ i, findZoneIndexById st m.id.chars = some i ↔ m.id.chars ≠ [] ∧
      deviceId st (.zone i) = m.id.chars ∧
        ∀ d', d'.Before (.zone i) → deviceId st d' ≠ m.id.chars := by
    intro i
    rw [findZoneIndexById, findIndexById_iff]
    refine and_congr_right' (and_congr_right' ⟨fun h d' hbefore => ?_, fun h j => h (.zone j)⟩)
    cases d' with
    | zone j => exact h j hbefore
    | scene j => exact hbefore.elim
  have hscene : ∀ i, findSceneIndexById st m.id.chars = some i ↔ m.id.chars ≠ [] ∧
      deviceId st (.scene i) = m.id.chars ∧
        ∀ d', d'.Before (.scene i) → deviceId st d' ≠ m.id.chars := by
    intro i
    rw [findSceneIndexById, findIndexById_iff]
    refine and_congr_right' (and_congr_right' ⟨fun h d' hbefore => ?_, fun h j => h (.scene j)⟩)
    cases d' with
    | zone j => exact hbefore.elim
    | scene j => exact h j hbefore
  rw [counterpart]
  split
  · rename_i hhub
    cases d with
    | zone i => simp [Module.OfKind, hhub]
    | scene i => simp [Module.OfKind, hhub, Ne.symm hne]
  · rename_i hhub
    split
    · rename_i htype
      cases d with
      | zone i => simp [Module.OfKind, htype]
      | scene i => simp [Module.OfKind, htype, hscene]
    · rename_i htype
      cases d with
      | zone i => simp [Module.OfKind, hhub, htype, hzone]
      | scene i => simp [Module.OfKind, htype]

theorem deviceId_of_counterpart (h : counterpart st m = some d) : deviceId st d = m.id.chars :=
  (counterpart_eq_some.1 h).2.2.1

/-- The counterpart depends on the id and the type of the module, and on which devices have the
id. -/
theorem counterpart_congr (hid : m'.id = m.id) (htype : m'.deviceType = m.deviceType)
    (h : ∀ d, deviceId st' d = m.id.chars ↔ deviceId st d = m.id.chars) :
    counterpart st' m' = counterpart st m := by
  refine Option.ext fun d => ?_
  have hkind : m'.OfKind d ↔ m.OfKind d := by
    cases d with
    | zone i => simp [Module.OfKind, htype]
    | scene i => simp [Module.OfKind, htype]
  rw [counterpart_eq_some, counterpart_eq_some, hkind, hid, h d]
  simp only [Ne, h]

/-- The only device with the id of a module is its counterpart, if it is of its kind. -/
theorem counterpart_of_unique (hid : m.id.chars ≠ [])
    (h : ∀ d', deviceId st d' = m.id.chars ↔ d' = d) :
    counterpart st m = some d' ↔ d' = d ∧ m.OfKind d := by
  rw [counterpart_eq_some, h]
  constructor
  · rintro ⟨hkind, -, rfl, -⟩
    exact ⟨rfl, hkind⟩
  · rintro ⟨rfl, hkind⟩
    refine ⟨hkind, hid, rfl, fun d'' hbefore heq => ?_⟩
    rw [(h d'').1 heq] at hbefore
    cases d' with
    | zone i => exact Nat.lt_irrefl i hbefore
    | scene i => exact Nat.lt_irrefl i hbefore

end Counterpart

/-! ### What is seen of a module -/

section Report

variable {moduleId : CString eliotDeviceIdSize} {st : House.State} {m : Module} {d : Device}

theorem Module.complete_report : (m.report.id ≠ [] ∧ m.report.deviceType ≠ [] ∧
    m.report.name ≠ []) ↔ m.Complete := by
  rw [Module.Complete, Module.report, Ne, Ne, Ne, take_eq_iff (by decide), take_eq_iff (by decide)]

theorem length_hub_lt : lc7001Hub.length < 16 := by
  simp only [texts_eq]
  decide

theorem length_scene_lt : lc7001Scene.length < 16 := by
  simp only [texts_eq]
  decide

/-- What has been found for a module is its counterpart, if it is complete. -/
theorem foundBy_report :
    foundBy st m.report = if m.Complete then counterpart st m else none := by
  have hhub : m.report.deviceType = lc7001Hub ↔ m.deviceType = lc7001Hub :=
    take_eq_iff length_hub_lt
  have hscene : m.report.deviceType = lc7001Scene ↔ m.deviceType = lc7001Scene :=
    take_eq_iff length_scene_lt
  simp only [foundBy, Module.complete_report, hhub, hscene]
  rfl

theorem length_deviceName_lt : (deviceName st d).length < 32 := by
  cases d with
  | zone i =>
    rw [deviceName]
    cases st.zones.get i with
    | none => exact Nat.zero_lt_succ _
    | some q => exact Nat.lt_of_lt_of_le q.ZoneNameString.fits (by decide)
  | scene i =>
    rw [deviceName]
    cases st.scenes.get i with
    | none => exact Nat.zero_lt_succ _
    | some q => exact Nat.lt_of_lt_of_le q.SceneNameString.fits (by decide)

theorem length_comparedName_lt : (comparedName st d).length < 32 := by
  cases d with
  | zone i => exact (length_deviceName_lt : (deviceName st (.zone i)).length < 32)
  | scene i => exact Nat.lt_of_lt_of_le (CString.fits _) (by decide)

/-- The requests about a module, if the names of devices are compared as given. -/
def requestsAbout (moduleId : CString eliotDeviceIdSize) (st : House.State)
    (compared : Device → List Byte) (m : Module) : List Request :=
  if m.IsHub moduleId then []
  else
    (counterpart st m).elim [.delete m.id.chars] fun d =>
      if compared d ≠ m.name then [.rename m.id.chars (sanitizedName (deviceName st d))] else []

/-- The requests that are wanted about a module. -/
def wantedFor (moduleId : CString eliotDeviceIdSize) (st : House.State) (m : Module) :
    List Request :=
  requestsAbout moduleId st (fun d => (sanitizedName (deviceName st d)).chars) m

/-- **The requests that a module calls for**, if it is complete. -/
theorem requestsFor_report (hlength : m.id.chars.length = eliotDeviceIdSize - 1) :
    requestsFor moduleId st m.report =
      if m.Complete then requestsAbout moduleId st (comparedName st) m else [] := by
  have hhub : (m.report.deviceType = lc7001Hub ∧ m.report.id = moduleId.chars) ↔
      m.IsHub moduleId := by
    rw [Module.IsHub, CString.ext_iff]
    exact and_congr_left' (take_eq_iff length_hub_lt)
  have hname : ∀ d, comparedName st d ≠ m.report.name ↔ comparedName st d ≠ m.name := fun d =>
    not_congr (eq_comm.trans ((take_eq_iff length_comparedName_lt).trans eq_comm))
  have hrename : ∀ name, renameRequests m.report.id name =
      [.rename m.id.chars (sanitizedName name)] := fun name => if_neg (not_not.2 hlength)
  simp only [requestsFor, Module.complete_report, foundBy_report, hhub, hname, hrename,
    requestsAbout]
  by_cases hcomplete : m.Complete
  · simp only [if_pos hcomplete]
    cases counterpart st m with
    | none => rfl
    | some d => rfl
  · simp only [if_neg hcomplete]

theorem requestsAbout_hub {compared : Device → List Byte} (h : m.IsHub moduleId) :
    requestsAbout moduleId st compared m = [] := if_pos h

theorem requestsAbout_none {compared : Device → List Byte} (hhub : ¬ m.IsHub moduleId)
    (h : counterpart st m = none) :
    requestsAbout moduleId st compared m = [.delete m.id.chars] := by
  rw [requestsAbout, if_neg hhub, h, Option.elim_none]

/-- A module of the controller itself has no counterpart. -/
theorem not_isHub_of_counterpart (h : counterpart st m = some d) : ¬ m.IsHub moduleId := by
  intro hhub
  rw [counterpart, if_pos hhub.1] at h
  cases h

theorem requestsAbout_some {compared : Device → List Byte} (h : counterpart st m = some d) :
    requestsAbout moduleId st compared m = if compared d ≠ m.name then
      [.rename m.id.chars (sanitizedName (deviceName st d))] else [] := by
  rw [requestsAbout, if_neg (not_isHub_of_counterpart h), h, Option.elim_some]

end Report

/-! ### The devices that are added -/

section New

variable {st : House.State} {modules : List Module} {found : Found} {m : Module} {d : Device}

/-- A device is reached by the loops. -/
def Reached (st : House.State) : Device → Prop
  | .zone _ => True
  | .scene index => index < st.scenes.available

/-- The devices that are added. -/
def newDevices (st : House.State) (modules : List Module) : List Device :=
  notFound (foundIn st (modules.map Module.report)) st

theorem mem_notFound :
    d ∈ notFound found st ↔ Belongs st d ∧ Reached st d ∧ found d = false := by
  cases d with
  | zone i =>
    have hbelongs : (i < maxNumberOfZones ∧ (st.zones.get i).any (·.deviceType ≠ noType) = true) ↔
        Belongs st (.zone i) := by
      simp only [Belongs, Option.any_eq_true, decide_eq_true_eq]
      refine ⟨And.right, fun h => ?_⟩
      obtain ⟨q, hq, htype⟩ := h
      exact ⟨Table.lt_of_get hq, q, hq, htype⟩
    rw [← hbelongs]
    simp [notFound, zonesNotFound, scenesNotFound, Reached, and_assoc]
  | scene i =>
    have hbelongs : i < st.scenes.available → Belongs st (.scene i) := fun hlt =>
      Option.isSome_iff_exists.1 (Table.isSome_get hlt)
    simp only [notFound, zonesNotFound, scenesNotFound, Reached, List.mem_append, List.mem_map,
      List.mem_filter, List.mem_range, reduceCtorEq, and_false, exists_false, false_or,
      Device.scene.injEq, exists_eq_right, Bool.not_eq_true']
    exact ⟨fun h => ⟨hbelongs h.1, h.1, h.2⟩, And.right⟩

/-- **The devices that are added** are those that are reached and not found. -/
theorem mem_newDevices : d ∈ newDevices st modules ↔ Belongs st d ∧ Reached st d ∧
    ∀ m ∈ modules, m.Complete → counterpart st m ≠ some d := by
  rw [newDevices, mem_notFound, ← Bool.not_eq_true, foundIn_eq_true]
  refine and_congr_right' (and_congr_right' ?_)
  simp only [not_exists, not_and, List.forall_mem_map, foundBy_report]
  refine forall₂_congr fun m _ => ?_
  split
  · rename_i hcomplete
    simp [hcomplete]
  · rename_i hcomplete
    simp [hcomplete]

theorem nodup_newDevices : (newDevices st modules).Nodup := by
  have hzones : Function.Injective Device.zone := fun i j h => by simpa using h
  have hscenes : Function.Injective Device.scene := fun i j h => by simpa using h
  refine List.nodup_append.2 ⟨(List.nodup_range.filter _).map hzones,
    (List.nodup_range.filter _).map hscenes, fun d hd d' hd' heq => ?_⟩
  obtain ⟨i, -, rfl⟩ := List.mem_map.1 hd
  obtain ⟨j, -, rfl⟩ := List.mem_map.1 hd'
  cases heq

theorem length_newDevices_le :
    (newDevices st modules).length ≤ maxNumberOfZones + maxNumberOfScenes := by
  rw [newDevices, notFound, List.length_append, zonesNotFound, scenesNotFound, List.length_map,
    List.length_map]
  refine Nat.add_le_add ((List.length_filter_le _ _).trans ?_)
    ((List.length_filter_le _ _).trans ?_)
  · rw [List.length_range]
  · rw [List.length_range]
    exact Table.available_le

end New

/-! ### The requests -/

section Requests

variable {moduleId : CString eliotDeviceIdSize} {st : House.State} {modules : List Module}
  {m m' : Module} {r : Request} {d : Device} {compared : Device → List Byte}

/-- A request is about a module in the list. -/
def Request.About (r : Request) (m : Module) : Prop :=
  r = .delete m.id.chars ∨ ∃ name, r = .rename m.id.chars name

theorem Request.About.id_eq (h : r.About m) (h' : r.About m') : m.id = m'.id := by
  refine CString.ext ?_
  rcases h with rfl | ⟨name, rfl⟩
  · rcases h' with h' | ⟨name, h'⟩
    · exact Request.delete.inj h'
    · cases h'
  · rcases h' with h' | ⟨name', h'⟩
    · cases h'
    · exact (Request.rename.inj h').1

theorem not_about_addRequest : ¬ (addRequest st d).About m := by
  rintro (h | ⟨name, h⟩)
  · cases h
  · cases h

theorem about_of_mem_requestsAbout (h : r ∈ requestsAbout moduleId st compared m) :
    r.About m := by
  rw [requestsAbout] at h
  split at h
  · cases h
  · cases hcounterpart : counterpart st m with
    | none =>
      rw [hcounterpart] at h
      exact .inl (List.mem_singleton.1 h)
    | some d =>
      rw [hcounterpart, Option.elim_some] at h
      split at h
      · exact .inr ⟨_, List.mem_singleton.1 h⟩
      · cases h

theorem about_of_mem_requestsFor (h : r ∈ requestsFor moduleId st m.report) : r.About m :=
  (mem_requestsFor h).2

theorem length_requestsAbout_le : (requestsAbout moduleId st compared m).length ≤ 1 := by
  rw [requestsAbout]
  split
  · exact Nat.zero_le 1
  · cases counterpart st m with
    | none => exact Nat.le_refl 1
    | some d =>
      rw [Option.elim_some]
      split
      · exact Nat.le_refl 1
      · exact Nat.zero_le 1

theorem length_requestsFor_le (hlength : m.id.chars.length = eliotDeviceIdSize - 1) :
    (requestsFor moduleId st m.report).length ≤ 1 := by
  rw [requestsFor_report hlength]
  split
  · exact length_requestsAbout_le
  · exact Nat.zero_le 1

/-- Lists with an element at most are the same if they have the same one. -/
theorem eq_of_mem_iff {α : Type*} {l l' : List α} (hl : l.length ≤ 1) (hl' : l'.length ≤ 1)
    (h : ∀ a, a ∈ l ↔ a ∈ l') : l = l' := by
  have hcases : ∀ {l : List α}, l.length ≤ 1 → l = [] ∨ ∃ a, l = [a] := fun hl =>
    (Nat.le_one_iff_eq_zero_or_eq_one.1 hl).imp List.eq_nil_of_length_eq_zero
      List.length_eq_one_iff.1
  rcases hcases hl with rfl | ⟨a, rfl⟩
  · rcases hcases hl' with rfl | ⟨b, rfl⟩
    · rfl
    · exact absurd ((h b).2 (List.mem_singleton_self b)) List.not_mem_nil
  · rcases hcases hl' with rfl | ⟨b, rfl⟩
    · exact absurd ((h a).1 (List.mem_singleton_self a)) List.not_mem_nil
    · rw [List.mem_singleton.1 ((h a).1 (List.mem_singleton_self a))]

/-- The requests that are made. -/
def madeRequests (moduleId : CString eliotDeviceIdSize) (st : House.State)
    (modules : List Module) : List Request :=
  (modules.flatMap fun m => requestsFor moduleId st m.report) ++
    (newDevices st modules).map (addRequest st)

/-- **What is wanted**, module by module, and then for the devices. -/
theorem wanted_iff : Wanted moduleId st modules r ↔
    (∃ m ∈ modules, r ∈ wantedFor moduleId st m) ∨
      ∃ d, (Belongs st d ∧ Unlisted st modules d) ∧ addRequest st d = r := by
  constructor
  · intro h
    cases h with
    | @delete m hm hhub h =>
      refine .inl ⟨m, hm, ?_⟩
      rw [wantedFor, requestsAbout_none hhub h]
      exact List.mem_singleton_self _
    | @rename m d hm h hname =>
      refine .inl ⟨m, hm, ?_⟩
      rw [wantedFor, requestsAbout_some h, if_pos (Ne.symm hname)]
      exact List.mem_singleton_self _
    | @add d hd h => exact .inr ⟨d, ⟨hd, h⟩, rfl⟩
  · rintro (⟨m, hm, hr⟩ | ⟨d, ⟨hd, h⟩, rfl⟩)
    · have hhub : ¬ m.IsHub moduleId := fun hhub => by
        rw [wantedFor, requestsAbout_hub hhub] at hr
        cases hr
      cases hcounterpart : counterpart st m with
      | none =>
        rw [wantedFor, requestsAbout_none hhub hcounterpart] at hr
        rw [List.mem_singleton.1 hr]
        exact .delete hm hhub hcounterpart
      | some d =>
        rw [wantedFor, requestsAbout_some hcounterpart] at hr
        split at hr
        · rename_i hname
          rw [List.mem_singleton.1 hr]
          exact .rename hm hcounterpart (Ne.symm hname)
        · cases hr
    · exact .add hd h

theorem mem_madeRequests : r ∈ madeRequests moduleId st modules ↔
    (∃ m ∈ modules, r ∈ requestsFor moduleId st m.report) ∨
      ∃ d ∈ newDevices st modules, addRequest st d = r := by
  rw [madeRequests, List.mem_append, List.mem_flatMap, List.mem_map]

theorem addRequest_inj {d' : Device} : addRequest st d = addRequest st d' ↔ d = d' :=
  ⟨fun h => (Request.add.inj h).1, fun h => h ▸ rfl⟩

/-- The list has one module with each id. -/
theorem Listed.eq_of_id (h : Listed modules) (hm : m ∈ modules) (hm' : m' ∈ modules)
    (hid : m.id = m'.id) : m = m' := List.inj_on_of_nodup_map h.nodup hm hm' hid

/-- The requests are the ones that are wanted, about each module and for the devices. -/
structure AsWanted (moduleId : CString eliotDeviceIdSize) (st : House.State)
    (modules : List Module) : Prop where
  about : ∀ m ∈ modules, requestsFor moduleId st m.report = wantedFor moduleId st m
  added : ∀ d, d ∈ newDevices st modules ↔ Belongs st d ∧ Unlisted st modules d

/-- **What is made is what is wanted.** -/
theorem made_iff_wanted (hlisted : Listed modules) :
    (∀ r, r ∈ madeRequests moduleId st modules ↔ Wanted moduleId st modules r) ↔
      AsWanted moduleId st modules := by
  simp only [mem_madeRequests, wanted_iff]
  constructor
  · intro h
    refine ⟨fun m hm => ?_, fun d => ?_⟩
    · refine eq_of_mem_iff (length_requestsFor_le (hlisted.length m hm)) length_requestsAbout_le
        fun r => ⟨fun hr => ?_, fun hr => ?_⟩
      · have habout := about_of_mem_requestsFor hr
        rcases (h r).1 (.inl ⟨m, hm, hr⟩) with ⟨m', hm', hr'⟩ | ⟨d, -, rfl⟩
        · obtain rfl := hlisted.eq_of_id hm hm' (habout.id_eq (about_of_mem_requestsAbout hr'))
          exact hr'
        · exact (not_about_addRequest habout).elim
      · have habout := about_of_mem_requestsAbout hr
        rcases (h r).2 (.inl ⟨m, hm, hr⟩) with ⟨m', hm', hr'⟩ | ⟨d, -, rfl⟩
        · obtain rfl := hlisted.eq_of_id hm hm' (habout.id_eq (about_of_mem_requestsFor hr'))
          exact hr'
        · exact (not_about_addRequest habout).elim
    · constructor
      · intro hd
        rcases (h _).1 (.inr ⟨d, hd, rfl⟩) with ⟨m, -, hr⟩ | ⟨d', hd', heq⟩
        · exact (not_about_addRequest (about_of_mem_requestsAbout hr)).elim
        · exact addRequest_inj.1 heq ▸ hd'
      · intro hd
        rcases (h _).2 (.inr ⟨d, hd, rfl⟩) with ⟨m, -, hr⟩ | ⟨d', hd', heq⟩
        · exact (not_about_addRequest (about_of_mem_requestsFor hr)).elim
        · exact addRequest_inj.1 heq ▸ hd'
  · rintro ⟨habout, hadded⟩ r
    refine or_congr (exists_congr fun m => and_congr_right fun hm => ?_)
      (exists_congr fun d => and_congr_left' (hadded d))
    rw [habout m hm]

theorem nodup_madeRequests (hlisted : Listed modules) :
    (madeRequests moduleId st modules).Nodup := by
  have hone : ∀ {l : List Request}, l.length ≤ 1 → l.Nodup := fun hl => by
    rcases Nat.le_one_iff_eq_zero_or_eq_one.1 hl with hzero | hone
    · rw [List.eq_nil_of_length_eq_zero hzero]
      exact List.nodup_nil
    · obtain ⟨a, rfl⟩ := List.length_eq_one_iff.1 hone
      exact List.nodup_singleton a
  refine List.nodup_append.2 ⟨List.nodup_flatMap.2 ⟨fun m hm => ?_, ?_⟩,
    nodup_newDevices.map fun d d' => addRequest_inj.1, fun r hr r' hr' heq => ?_⟩
  · exact hone (length_requestsFor_le (hlisted.length m hm))
  · refine (List.pairwise_map.1 hlisted.nodup).imp fun hne r hr hr' => hne ?_
    exact (about_of_mem_requestsFor hr).id_eq (about_of_mem_requestsFor hr')
  · obtain ⟨m, -, hr⟩ := List.mem_flatMap.1 hr
    obtain ⟨d, -, rfl⟩ := List.mem_map.1 hr'
    exact not_about_addRequest (heq ▸ about_of_mem_requestsFor hr)

end Requests

end Eliot

end Lcm
