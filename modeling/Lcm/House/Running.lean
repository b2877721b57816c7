import Lcm.House.Tasks

/-!
# Running scenes

A scene is marked as running when it is executed, and it stays marked until the transmit task has
processed the ramp with which the scene is complete.  That ramp is pending as long as the scene is
marked, unless the scene has no zones, the ramp could not be sent, or nothing came of it.

## Main definitions

* `RunningAgrees` : a scene none of whose ramps is pending is not marked.
* `keepsRunning` : the condition on the steps.
* `Owed`, `RunningInv` : the last ramp is pending; the invariant.

## Main results

* `allStates_runningAgrees` : it holds as long as the steps meet the condition.
* `not_allStates_runningAgrees` : it does not always hold.
-/

namespace Lcm

namespace House

open Scenes SceneControllers
open Services (Error)

namespace Tasks

/-- A task executes the scene. -/
def Executes (s : Tasks) (sceneIndex : ℕ) : Prop :=
  ∃ a, s.executing = some a ∧ a.x.sceneIndex.toNat = sceneIndex

/-- The message is in the queue, or the transmit task has it. -/
def Pending (s : Tasks) (m : RampMessage) : Prop :=
  m ∈ s.house.transmitQueue ∨ ∃ t, s.transmitting = some t ∧ t.message = m

/-- No message of the last run of the scene is being built or pending. -/
def Drained (s : Tasks) (sceneIndex : ℕ) : Prop :=
  ¬ s.Executes sceneIndex ∧
    ∀ m, s.Pending m → ¬ (m.sceneId.toNat = sceneIndex ∧ m.run = s.current sceneIndex)

/-- **The property**: such a scene is not marked as running, and can be run again. -/
def RunningAgrees (s : Tasks) : Prop :=
  s.house.scenes.All fun i p =>
    s.Drained i → p.running = 0 ∧ ∀ objects : Objects, objects.both = true → starts objects p = true

/-! ### The condition -/

/-- The message with which the last run of a scene is complete, and the scene still waits for it. -/
def isLast (s : Tasks) (t : Transmitting) : Bool :=
  t.message.scenePercent = 100 && t.message.run = s.current t.message.sceneId.toNat &&
    !t.allocated

/-- The scene is marked as running, or about to be. -/
def isMarked (s : Tasks) (sceneIndex : Byte) : Bool :=
  (s.house.getSceneProperties sceneIndex).any (fun p => p.running ≠ 0) ||
    s.executing.any fun a => a.x.sceneIndex = sceneIndex

/-- The last zone of a scene gets its command; or it is missing, and the end is broadcast. -/
def endsWell (s : Tasks) (a : Executing) (round : Round) : Bool :=
  match a.scene.zoneData[a.zoneIndex]? with
  | none => true
  | some zone =>
    let found := (s.house.getZoneProperties zone.zoneId).isSome
    a.zoneIndex + 1 ≠ a.scene.zoneData.length ||
      match a.stage with
      | .get => found || round.objects.both
      | .set _ => true
      | .send => found && round.sending.allocated && round.sending.sent

/-- The steps after which the flags agree. -/
def keepsRunning (s : Tasks) : TaskEvent → Bool
  | .start caller objects =>
    (job s.house caller).all fun j => !(j.starts objects && j.scene.zoneData.isEmpty)
  | .execute round => s.executing.all fun a => s.endsWell a round
  | .transmit _ ackByte => s.transmitting.all fun t =>
    match t.part with
    | .zone => (transmitRamp t.message s.house).isSome ||
        !(s.isLast t && s.isMarked t.message.sceneId)
    | .scene => true
    | .ack => !(t.ends ackByte && s.isLast t && s.isMarked t.message.sceneId)
  | _ => true

/-! ### The invariant -/

/-- The message with which the last run of the scene is complete is pending, and the scene waits
for it. -/
def Owed (s : Tasks) (sceneIndex : ℕ) : Prop :=
  ∃ m : RampMessage,
    (m ∈ s.house.transmitQueue ∨
      ∃ t, s.transmitting = some t ∧ t.allocated = false ∧ t.message = m) ∧
    m.sceneId.toNat = sceneIndex ∧ m.scenePercent = 100 ∧ m.run = s.current sceneIndex

/-- What holds of the task that executes a scene. -/
structure CopyInv (s : Tasks) (a : Executing) : Prop where
  /-- There are no more zones. -/
  zoneIndex_le : a.zoneIndex ≤ a.scene.zoneData.length
  /-- It is the last run. -/
  number : a.number = s.current a.x.sceneIndex.toNat
  /-- After the last zone, the copy is not marked, or its last message is pending. -/
  running : a.scene.running = 0 ∨ a.scene.running = 1 ∧
    (a.zoneIndex = a.scene.zoneData.length → s.Owed a.x.sceneIndex.toNat)

/-- **The invariant**: a scene that is marked is executed, or its last message is pending. -/
structure RunningInv (s : Tasks) : Prop where
  scenes : s.house.scenes.All fun i p =>
    p.running = 0 ∨ p.running = 1 ∧ (s.Executes i ∨ s.Owed i)
  copy : ∀ a, s.executing = some a → s.CopyInv a

variable {s s' : Tasks}

/-- **What the invariant is for.** -/
theorem RunningInv.agrees (h : s.RunningInv) : s.RunningAgrees := by
  intro i p hp hdrained
  have hrunning : p.running = 0 := by
    obtain hzero | ⟨-, hexecutes | ⟨m, hm, hid, -, hrun⟩⟩ := h.scenes i p hp
    · exact hzero
    · exact absurd hexecutes hdrained.1
    · refine absurd ⟨hid, hrun⟩ (hdrained.2 m ?_)
      obtain hm | ⟨t, ht, -, htm⟩ := hm
      · exact .inl hm
      · exact .inr ⟨t, ht, htm⟩
  refine ⟨hrunning, fun objects hobjects => ?_⟩
  rw [starts, hobjects, hrunning]
  rfl

/-- A message that was owed still is, when no message is lost and no run begun. -/
theorem Owed.mono {i : ℕ} (h : s.Owed i)
    (hqueue : ∀ m ∈ s.house.transmitQueue, m ∈ s'.house.transmitQueue)
    (htransmitting : s'.transmitting = s.transmitting) (hcurrent : s'.current i = s.current i) :
    s'.Owed i := by
  obtain ⟨m, hm, hid, hpercent, hrun⟩ := h
  refine ⟨m, ?_, hid, hpercent, hrun.trans hcurrent.symm⟩
  obtain hm | ⟨t, ht, hallocated, htm⟩ := hm
  · exact .inl (hqueue m hm)
  · exact .inr ⟨t, htransmitting.trans ht, hallocated, htm⟩

/-- What is said about the task that executes a scene stays true in the same way. -/
theorem CopyInv.mono {a : Executing} (h : s.CopyInv a)
    (hcurrent : s'.current = s.current) (howed : ∀ i, s.Owed i → s'.Owed i) : s'.CopyInv a where
  zoneIndex_le := h.zoneIndex_le
  number := by rw [hcurrent, h.number]
  running := h.running.imp_right fun h => ⟨h.1, fun hlast => howed _ (h.2 hlast)⟩

/-- **What spares the flags and the messages** keeps the invariant. -/
theorem RunningInv.of_sparing (h : s.RunningInv) {house : State} (hspare : Sparing s.house house) :
    RunningInv { s with house := house } := by
  have howed (i : ℕ) (howed : s.Owed i) : Owed { s with house := house } i :=
    howed.mono hspare.transmitQueue rfl rfl
  refine ⟨fun i p' hp' => ?_, fun a ha => (h.copy a ha).mono rfl howed⟩
  obtain ⟨p, hp, -, hrunning⟩ := hspare.scenes i p' hp'
  rw [hrunning]
  exact (h.scenes i p hp).imp_right fun h => ⟨h.1, h.2.imp_right (howed i)⟩

/-- The properties of a scene are stored; the flag is that of the properties that were there, or it
is not set. -/
theorem RunningInv.setSceneProperties (h : s.RunningInv) {sceneIndex : Byte}
    {p : SceneProperties}
    (hp : p.running = 0 ∨ ∃ q, s.house.getSceneProperties sceneIndex = some q ∧
      p.running = q.running) :
    RunningInv { s with house := s.house.setSceneProperties sceneIndex p } where
  scenes := by
    refine Table.All.set h.scenes fun _ => ?_
    obtain hzero | ⟨q, hq, hrunning⟩ := hp
    · exact .inl hzero
    · rw [hrunning]
      exact h.scenes _ q hq
  copy a ha := (h.copy a ha).mono rfl fun _ howed => howed

/-! ### Operations -/

theorem RunningInv.operation (h : s.RunningInv) {e : Event} (hs : s.step (.operation e) = some s') :
    s'.RunningInv := by
  simp only [step] at hs
  split at hs
  · cases hs
  rename_i hpossible
  rw [Bool.or_eq_true, not_or] at hpossible
  split at hs
  · rename_i hreboot
    cases hs
    cases e with
    | reboot addASceneController idString =>
      refine ⟨fun i p hp => ?_, fun a ha => (by cases ha)⟩
      -- no flag survives a start
      obtain ⟨q, -, rfl⟩ := Option.map_eq_some_iff.1 hp
      exact .inl rfl
    | _ => cases hreboot
  · rename_i hreboot
    cases hs
    cases hsets : e.setsZones with
    | false =>
      exact h.of_sparing (next_sparing s.house (Bool.eq_false_iff.2 hpossible.1) hsets
        (Bool.eq_false_iff.2 hreboot))
    | true =>
      cases e with
      | createScene root garbage nextTriggerTime =>
        obtain heq | ⟨p, -, hedit, heq⟩ :=
          handleCreateScene_cases s.house root garbage nextTriggerTime
        · rw [next, heq]
          exact h
        · rw [next, heq]
          exact h.setSceneProperties (.inl (editScene_cases hedit).2)
      | setSceneProperties root nextTriggerTime =>
        obtain heq | ⟨sceneIndex, p, p', hscene, hedit, heq⟩ :=
          handleSetSceneProperties_cases s.house root nextTriggerTime
        · rw [next, heq]
          exact h
        · rw [next, heq]
          exact h.setSceneProperties
            (.inr ⟨p, sceneOfRequest_ok hscene, (editScene_cases hedit).2⟩)
      | _ => cases hsets

/-! ### Executing a scene -/

theorem RunningInv.start (h : s.RunningInv) (hfree : s.executing = none) {caller : Caller}
    {objects : Objects} (hkeeps : s.keepsRunning (.start caller objects) = true)
    (hs : s.step (.start caller objects) = some s') : s'.RunningInv := by
  simp only [step, hfree, Option.isSome_none, Bool.false_eq_true, if_false] at hs
  cases hs
  cases hjob : job s.house caller with
  | none => exact h
  | some j =>
    simp only [keepsRunning, hjob, Option.all_some] at hkeeps
    obtain ⟨p, hp, -, hrunning⟩ := job_cases hjob
    simp only [Option.elim_some, Tasks.start]
    split
    · rename_i hstarts
      refine ⟨fun i q hq => ?_, fun a ha => ?_⟩
      · by_cases hi : i = j.x.sceneIndex.toNat
        · by_cases hzero : q.running = 0
          · exact .inl hzero
          · -- a flag that is set is 1
            obtain hnot | ⟨hone, -⟩ := h.scenes i q hq
            · exact absurd hnot hzero
            · exact .inr ⟨hone, .inl ⟨_, rfl, hi.symm⟩⟩
        · refine (h.scenes i q hq).imp_right fun hor => ⟨hor.1, .inr ?_⟩
          obtain ⟨a, ha, -⟩ | howed := hor.2
          · rw [hfree] at ha
            cases ha
          · exact howed.mono (fun _ hm => hm) rfl (Function.update_of_ne hi _ _)
      · cases ha
        refine ⟨Nat.zero_le _, by simp, .inr ⟨rfl, fun hlast => ?_⟩⟩
        have hempty : j.scene.zoneData = [] := List.eq_nil_of_length_eq_zero hlast.symm
        rw [hstarts, hempty] at hkeeps
        cases hkeeps
    · refine h.setSceneProperties (.inr ⟨p, hp, ?_⟩)
      rw [running_triggered, hrunning]

/-- The last zone makes the percentage 100. -/
theorem scenePercent_last {zoneIndex numZonesInScene : ℕ} (h : zoneIndex + 1 = numZonesInScene) :
    scenePercent zoneIndex numZonesInScene = 100 := by
  rw [scenePercent, h, Nat.mul_div_cancel_left 100 (by omega)]
  rfl

theorem sparing_markToggled (x : Execution) (st : State) : Sparing st (markToggled x st) := by
  simp only [markToggled]
  split
  · exact .refl st
  · split
    · exact .refl st
    · exact .of_eq rfl rfl

/-- The copy is stored. -/
theorem RunningInv.finish (h : s.RunningInv) {a : Executing} (ha : s.executing = some a)
    (hlast : a.scene.zoneData[a.zoneIndex]? = none) : (s.finish a).RunningInv := by
  have hcopy := h.copy a ha
  have hend : a.zoneIndex = a.scene.zoneData.length :=
    Nat.le_antisymm hcopy.zoneIndex_le (List.getElem?_eq_none_iff.1 hlast)
  have hspare := sparing_markToggled a.x s.house
  have howed {i : ℕ} (h : s.Owed i) : (s.finish a).Owed i :=
    h.mono hspare.transmitQueue rfl rfl
  refine ⟨fun i p hp => ?_, fun b hb => (nomatch hb)⟩
  have hold (hi : i ≠ a.x.sceneIndex.toNat)
      (hp : (markToggled a.x s.house).scenes.get i = some p) :
      p.running = 0 ∨ p.running = 1 ∧ ((s.finish a).Executes i ∨ (s.finish a).Owed i) := by
    obtain ⟨q, hq, -, hrunning⟩ := hspare.scenes i p hp
    rw [hrunning]
    refine (h.scenes i q hq).imp_right fun ⟨hone, hor⟩ => ⟨hone, .inr ?_⟩
    obtain ⟨b, hb, hbi⟩ | h := hor
    · rw [ha] at hb
      cases hb
      exact absurd hbi.symm hi
    · exact howed h
  obtain ⟨rfl, rfl, -⟩ | ⟨hi, hp⟩ | ⟨hi, hp⟩ := Table.set_cases hp
  · dsimp only
    rw [running_triggered]
    exact hcopy.running.imp_right fun ⟨hone, h⟩ => ⟨hone, .inr (howed (h hend))⟩
  · exact hold hi hp
  · exact hold (fun heq => hi (heq ▸ Table.lt_of_get hp)) hp

theorem RunningInv.execute (h : s.RunningInv) {a : Executing} (ha : s.executing = some a)
    (round : Round) (hkeeps : s.endsWell a round = true) : (s.execute a round).RunningInv := by
  have hcopy := h.copy a ha
  -- the scenes do not depend on how far the task is
  have hscenes {b : Executing} (hb : b.x = a.x) {house : State} (hspare : Sparing s.house house) :
      house.scenes.All fun i p => p.running = 0 ∨ p.running = 1 ∧
        (Executes { s with house := house, executing := some b } i ∨
          Owed { s with house := house, executing := some b } i) := by
    intro i p hp
    refine ((h.of_sparing hspare).scenes i p hp).imp_right fun ⟨hone, hor⟩ => ⟨hone, ?_⟩
    refine hor.imp_left ?_
    rintro ⟨c, hc, hi⟩
    have hca : a = c := Option.some.inj (ha.symm.trans hc)
    exact ⟨b, rfl, by rw [hb, hca, hi]⟩
  unfold Tasks.execute
  unfold endsWell at hkeeps
  split
  · rename_i hlast
    exact h.finish ha hlast
  rename_i zone hzone
  have hlt : a.zoneIndex < a.scene.zoneData.length := (List.getElem?_eq_some_iff.1 hzone).1
  rw [hzone] at hkeeps
  dsimp only at hkeeps ⊢
  split
  · rename_i hstage
    split
    · refine ⟨hscenes (by rfl) (.refl _), ?_⟩
      rintro b ⟨⟩
      exact ⟨hcopy.zoneIndex_le, hcopy.number, hcopy.running⟩
    · rename_i hmissing
      refine ⟨hscenes (by rfl) (.refl _), ?_⟩
      rintro b ⟨⟩
      refine ⟨hlt, hcopy.number, ?_⟩
      simp only [missingZone]
      split
      · exact .inl rfl
      · rename_i hnot
        refine hcopy.running.imp_right fun ⟨hone, _⟩ => ⟨hone, fun hlast => absurd ?_ hnot⟩
        rw [hstage, hmissing] at hkeeps
        have hlast : a.zoneIndex + 1 = a.scene.zoneData.length := hlast
        exact ⟨scenePercent_last hlast, by simpa [hlast] using hkeeps⟩
  · refine ⟨hscenes (by rfl) (sparing_setZoneProperties ..), ?_⟩
    rintro b ⟨⟩
    exact ⟨hcopy.zoneIndex_le, hcopy.number, hcopy.running⟩
  · rename_i hstage
    have hspare := sparing_sendRampCommandToTransmitTask s.house zone.zoneId a.x.sceneIndex
      (scenePercent a.zoneIndex a.scene.zoneData.length) lowPriority a.number round.sending
    refine ⟨hscenes (by rfl) hspare, ?_⟩
    rintro b ⟨⟩
    refine ⟨hlt, hcopy.number, hcopy.running.imp_right fun ⟨hone, _⟩ => ⟨hone, fun hlast => ?_⟩⟩
    -- the last command is in the queue now
    have hlast : a.zoneIndex + 1 = a.scene.zoneData.length := hlast
    rw [hstage] at hkeeps
    simp only [hlast, ne_eq, not_true_eq_false, decide_false, Bool.false_or,
      Bool.and_eq_true] at hkeeps
    obtain ⟨⟨hfound, hallocated⟩, hsent⟩ := hkeeps
    obtain ⟨p, hp⟩ := Option.isSome_iff_exists.1 hfound
    refine ⟨⟨lowPriority, p.groupId, p.buildingId, p.houseId, a.x.sceneIndex, 100, a.number⟩,
      .inl ?_, rfl, rfl, hcopy.number⟩
    simp only [State.sendRampCommandToTransmitTask, hallocated, hp, hsent, if_true,
      scenePercent_last hlast]
    exact mem_enqueue.2 (.inl rfl)

/-! ### The transmit task -/

theorem RunningInv.receive (h : s.RunningInv) (hs : s.step .receive = some s') :
    s'.RunningInv := by
  simp only [step] at hs
  split at hs
  · rename_i m transmitQueue hidle hqueue
    cases hs
    have howed (i : ℕ) : s.Owed i → Owed { s with
        house := { s.house with transmitQueue := transmitQueue }
        transmitting := some ⟨m, 0, .zone, false⟩ } i := by
      rintro ⟨m', hm' | ⟨t, ht, -⟩, hrest⟩
      · rw [hqueue, List.mem_cons] at hm'
        obtain rfl | hm' := hm'
        · exact ⟨m', .inr ⟨_, rfl, rfl, rfl⟩, hrest⟩
        · exact ⟨m', .inl hm', hrest⟩
      · rw [hidle] at ht
        cases ht
    refine ⟨fun i p hp => ?_, fun a ha => (h.copy a ha).mono rfl howed⟩
    exact (h.scenes i p hp).imp_right fun hor => ⟨hor.1, hor.2.imp_right (howed i)⟩
  · cases hs

/-- The transmit task goes on with its message. -/
theorem RunningInv.goOn (h : s.RunningInv) {t t' : Transmitting} (ht : s.transmitting = some t)
    (hmessage : t'.message = t.message) (hallocated : t'.allocated = t.allocated) :
    RunningInv { s with transmitting := some t' } := by
  have howed (i : ℕ) : s.Owed i → Owed { s with transmitting := some t' } i := by
    rintro ⟨m, hm | ⟨u, hu, hnot, hum⟩, hrest⟩
    · exact ⟨m, .inl hm, hrest⟩
    · obtain rfl : t = u := Option.some.inj (ht.symm.trans hu)
      exact ⟨m, .inr ⟨t', rfl, hallocated.trans hnot, hmessage.trans hum⟩, hrest⟩
  refine ⟨fun i p hp => ?_, fun a ha => (h.copy a ha).mono rfl howed⟩
  exact (h.scenes i p hp).imp_right fun ⟨hone, hor⟩ => ⟨hone, hor.imp_right (howed i)⟩

/-- The message that is with the transmit task is not owed to a scene that is not marked. -/
theorem Owed.of_not_isLast {i : ℕ} (h : s.Owed i) {t : Transmitting}
    (ht : s.transmitting = some t)
    (hlast : s.isLast t = true → t.message.sceneId.toNat ≠ i) :
    Owed { s with transmitting := none } i := by
  obtain ⟨m, hm | ⟨u, hu, hnot, rfl⟩, hid, hpercent, hrun⟩ := h
  · exact ⟨m, .inl hm, hid, hpercent, hrun⟩
  · obtain rfl : t = u := Option.some.inj (ht.symm.trans hu)
    refine absurd hid (hlast ?_)
    simp [isLast, hpercent, hrun, hid, hnot]

/-- The transmit task is done with a message that no marked scene waits for. -/
theorem RunningInv.drop (h : s.RunningInv) {t : Transmitting} (ht : s.transmitting = some t)
    (hkeeps : ¬ (s.isLast t = true ∧ s.isMarked t.message.sceneId = true)) :
    RunningInv { s with transmitting := none } where
  scenes i p hp := by
    refine (h.scenes i p hp).imp_right fun ⟨hone, hor⟩ => ⟨hone, hor.imp_right fun howed => ?_⟩
    refine howed.of_not_isLast ht fun hlast hid => hkeeps ⟨hlast, ?_⟩
    have hget : s.house.getSceneProperties t.message.sceneId = some p := by
      rwa [State.getSceneProperties, hid]
    simp [isMarked, hget, hone]
  copy a ha := by
    have hcopy := h.copy a ha
    refine ⟨hcopy.zoneIndex_le, hcopy.number, ?_⟩
    refine hcopy.running.imp_right fun ⟨hone, howed⟩ => ⟨hone, fun hend => ?_⟩
    refine (howed hend).of_not_isLast ht fun hlast hid => hkeeps ⟨hlast, ?_⟩
    have ha : s.executing = some a := ha
    have hindex : a.x.sceneIndex = t.message.sceneId := BitVec.eq_of_toNat_eq hid.symm
    simp [isMarked, ha, hindex]

theorem transmitQueue_finishScene (m : RampMessage) (objects : Objects) (st : State) :
    (finishScene m objects st).transmitQueue = st.transmitQueue := by
  unfold finishScene
  split
  · split
    · split <;> rfl
    · rfl
  · rfl

/-- A flag that is still set at the end of a scene is not that of the scene. -/
theorem RunningInv.scenes_finishScene (h : s.RunningInv) {m : RampMessage} {objects : Objects}
    (hboth : objects.both = true) {i : ℕ} {q : SceneProperties}
    (hq : (finishScene m objects s.house).scenes.get i = some q) (hset : q.running ≠ 0) :
    s.house.scenes.get i = some q ∧ (m.scenePercent = 100 → m.sceneId.toNat ≠ i) := by
  simp only [finishScene, hboth, and_true] at hq
  split at hq
  · rename_i hscene
    split at hq
    · rename_i p hp
      split at hq
      · obtain ⟨-, rfl, -⟩ | ⟨hi, hq⟩ | ⟨hi, -⟩ := Table.set_cases hq
        · exact absurd rfl hset
        · exact ⟨hq, fun _ hid => hi hid.symm⟩
        · exact absurd hscene hi
      · rename_i hnot
        refine ⟨hq, fun hpercent hid => hnot ⟨?_, hpercent⟩⟩
        subst hid
        obtain rfl : p = q := Option.some.inj (hp.symm.trans hq)
        exact ((h.scenes _ p hq).resolve_left hset).1
    · rename_i hnone
      refine ⟨hq, fun _ hid => ?_⟩
      subst hid
      exact Option.some_ne_none q (hq.symm.trans hnone)
  · rename_i hscene
    exact ⟨hq, fun _ hid => hscene (hid ▸ Table.lt_of_get hq)⟩

/-- The end of a scene: if both objects are allocated, its flag is cleared. -/
theorem RunningInv.scenePart (h : s.RunningInv) (hfree : s.executing = none) {t : Transmitting}
    (ht : s.transmitting = some t) (objects : Objects) : (s.scenePart t objects).RunningInv := by
  cases hboth : objects.both with
  | false =>
    have hsame : finishScene t.message objects s.house = s.house := by
      simp only [finishScene, hboth, Bool.false_eq_true, and_false, if_false]
      split
      · split <;> rfl
      · rfl
    rw [Tasks.scenePart, hsame, hboth]
    exact h.goOn ht rfl (Bool.or_false _)
  | true =>
    refine ⟨fun i q hq => ?_, fun a ha => ?_⟩
    · by_cases hzero : q.running = 0
      · exact .inl hzero
      obtain ⟨hq, hother⟩ := h.scenes_finishScene hboth hq hzero
      refine (h.scenes i q hq).imp_right fun ⟨hone, hor⟩ => ⟨hone, .inr ?_⟩
      obtain ⟨a, ha, -⟩ | ⟨m, hm | ⟨u, hu, -, rfl⟩, hid, hpercent, hrun⟩ := hor
      · rw [hfree] at ha
        cases ha
      · refine ⟨m, .inl ?_, hid, hpercent, hrun⟩
        rwa [Tasks.scenePart, transmitQueue_finishScene]
      · obtain rfl : t = u := Option.some.inj (ht.symm.trans hu)
        exact absurd hid (hother hpercent)
    · rw [Tasks.scenePart, hfree] at ha
      cases ha

theorem sparing_transmitRamp {m : RampMessage} {st st' : State}
    (h : transmitRamp m st = some st') : Sparing st st' := by
  simp only [transmitRamp] at h
  split at h
  · obtain ⟨p, -, rfl⟩ := Option.map_eq_some_iff.1 h
    exact sparing_setZoneProperties ..
  · cases h

theorem RunningInv.transmit (h : s.RunningInv) {objects : Objects} {ackByte : Bool}
    (hkeeps : s.keepsRunning (.transmit objects ackByte) = true)
    (hs : s.step (.transmit objects ackByte) = some s') : s'.RunningInv := by
  obtain ⟨t, ht, hs⟩ := Option.bind_eq_some_iff.1 hs
  rw [keepsRunning, ht, Option.all_some] at hkeeps
  cases hpart : t.part with
  | zone =>
    rw [hpart] at hs hkeeps
    dsimp only at hs hkeeps
    cases hs
    unfold Tasks.zonePart
    split
    · rename_i hramp
      refine h.drop ht fun ⟨hlast, hmarked⟩ => ?_
      rw [hramp, hlast, hmarked] at hkeeps
      cases hkeeps
    · rename_i house hramp
      exact (h.of_sparing (sparing_transmitRamp hramp)).goOn ht rfl rfl
  | scene =>
    rw [hpart] at hs
    dsimp only at hs
    split at hs
    · cases hs
    · rename_i hfree
      cases hs
      exact h.scenePart (by simpa using hfree) ht objects
  | ack =>
    rw [hpart] at hs hkeeps
    dsimp only at hs hkeeps
    cases hs
    unfold Tasks.acknowledge
    split
    · rename_i hends
      refine h.drop ht fun ⟨hlast, hmarked⟩ => ?_
      rw [hends, hlast, hmarked] at hkeeps
      cases hkeeps
    · exact h.goOn ht rfl rfl

/-! ### Runs -/

theorem runningInv_initial : initial.RunningInv where
  scenes := Table.all_empty
  copy _ ha := nomatch ha

/-- **A step** that meets the condition keeps the invariant. -/
theorem RunningInv.step (h : s.RunningInv) (e : TaskEvent) (hkeeps : s.keepsRunning e = true)
    (hs : s.step e = some s') : s'.RunningInv := by
  cases e with
  | operation e => exact h.operation hs
  | start caller objects =>
    cases hexecuting : s.executing with
    | none => exact h.start hexecuting hkeeps hs
    | some a =>
      simp only [Tasks.step, hexecuting] at hs
      cases hs
  | execute round =>
    obtain ⟨a, ha, rfl⟩ := Option.map_eq_some_iff.1 hs
    rw [keepsRunning, ha, Option.all_some] at hkeeps
    exact h.execute ha round hkeeps
  | receive => exact h.receive hs
  | transmit objects ackByte => exact h.transmit hkeeps hs

end Tasks

/-- A scene is created and run. -/
def runNewScene (members : List (String × JsonT)) : List TaskEvent :=
  [.operation (createScene (("Name", .string "Evening") :: members)),
    .start (.runScene (.object [("SID", .integer 0)])) ⟨true, true⟩]

/-- A dimmer is added, a scene with it is run, and its ramp is transmitted twice. -/
def runSceneOfDimmer : List TaskEvent :=
  [.operation (.addALight .true),
    .operation (.received ⟨.handleRampReceived 1 5 1 100 dimmerType, fullPower_le⟩ freeCall)] ++
  runNewScene [("ZoneList", .array [.object [("ZID", .integer 0), ("Lvl", .integer 50)]])] ++
  List.replicate 4 (.execute freeRound) ++
  .receive :: List.replicate 3 (.transmit ⟨true, false⟩ false) ++
  List.replicate 3 (.transmit ⟨true, true⟩ true)

end House

end Lcm
