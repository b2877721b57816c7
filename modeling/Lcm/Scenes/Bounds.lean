import Lcm.Run.Logged
import Lcm.Scenes.Store

/-!
# The bounds of the sector buffers of scenes

A scene that is changed is written through an array that has room for the records of a sector, and
its id through a second one.  Both arrays have nine elements, as many as a sector of scenes has
slots; but the sector of the ids has fifty.

## Main definitions

* `Access` : bytes of flash, or of an array.
* `readSector`, `writeSector`, `update`, `setSceneProperties` : the functions of the source with all
  that they access.
* `Call` : the functions that access the arrays.
* `Call.InBounds` : a call accesses nothing outside of the arrays and of the two regions of flash.
* `Call.Harmless` : the calls of which that is so.

## Main results

* `value_setSceneProperties` : what is computed does not depend on the log.
* `call_inBounds_iff` : exactly the harmless calls stay in bounds.
* `not_inBounds_of_id` : changing the id of a scene does not.
-/

namespace Lcm

namespace Scenes

namespace Bounds

open Flash Store

/-- What is accessed. -/
inductive Access
  /-- `n` bytes of flash, from the address `a` on. -/
  | flash (a n : ℕ)
  /-- `n` bytes of `nvSceneArray`, from the offset `o` on. -/
  | nvSceneArray (o n : ℕ)
  /-- `n` bytes of `nvEliotSceneArray`, from the offset `o` on. -/
  | nvEliotSceneArray (o n : ℕ)

/-- `NUM_SCENES_IN_FLASH_SECTOR`, the number of elements that both arrays are declared with -/
abbrev NUM_SCENES_IN_FLASH_SECTOR : ℕ := 9

/-- Bytes of flash in a region. -/
def InRegion (r : Region) (a n : ℕ) : Prop := r.startAddress ≤ a ∧ a + n ≤ r.endAddress + 1

/-- **In bounds**: in the regions of the scenes and of their ids, or in the declared array. -/
def Access.InBounds : Access → Prop
  | .flash a n => InRegion sceneRegion a n ∨ InRegion eliotSceneRegion a n
  | .nvSceneArray o n => o + n ≤ NUM_SCENES_IN_FLASH_SECTOR * nonvolatileSceneSize
  | .nvEliotSceneArray o n => o + n ≤ NUM_SCENES_IN_FLASH_SECTOR * eliotDeviceIdSize

instance (a : Access) : Decidable a.InBounds := by
  cases a <;> unfold Access.InBounds <;> try unfold InRegion
  all_goals infer_instance

/-! ### What the functions access -/

section Functions

variable (r : Region)

/-- `GetNV...PropertiesPtr`, which reads the checksum and the record. -/
def getPtr (m : Memory) (index : ℕ) (validateData : Bool) : Logged Access (Option ℕ) := do
  if index < r.maxNumber then
    Logged.touch (.flash (r.address index) 2)
    Logged.touch (.flash (r.address index + 8) r.recordSize)
  pure (r.getPtr m index validateData)

/-- `Write...PropertiesToFlash`; `read n` reads the first `n` bytes of the record, and the driver
reads whole phrases. -/
def write (read : ℕ → Logged Access Unit) (m : Memory) (index : ℕ) (record : ℕ → Byte) :
    Logged Access (Memory × Dword) := do
  if index < r.maxNumber then
    read r.recordSize
    if ¬ Uninitialized r.recordSize record ∧ r.startAddress ≤ r.address index ∧
        r.address index + 8 + flashSizeof r.recordSize ≤ r.endAddress then
      Logged.touch (.flash (r.address index) 8)
      read (flashSizeof r.recordSize)
      Logged.touch (.flash (r.address index + 8) (flashSizeof r.recordSize))
  pure (r.write m index record)

/-- `Erase...FromFlash` -/
def eraseSector (m : Memory) (index : ℕ) : Logged Access Memory := do
  Logged.touch (.flash (r.sectorAddress index) 0x1000)
  pure (r.eraseSector m index)

variable (buffer : ℕ → ℕ → Access)

/-- A round of `Read...PropertiesFromFlashSector`, which fills an element of the array. -/
def readSlot (m : Memory) (index : ℕ) (array : ℕ → Byte) (k : ℕ) : Logged Access (ℕ → Byte) := do
  let nvPropertiesPtr ← getPtr r m (k + index / r.perSector * r.perSector) true
  Logged.touch (buffer (r.recordSize * k) r.recordSize)
  match nvPropertiesPtr with
  | some dataPtr =>
    Logged.touch (.flash dataPtr r.recordSize)
    pure (overwrite array (r.recordSize * k) r.recordSize fun b =>
      m (dataPtr + (b - r.recordSize * k)))
  | none => pure (overwrite array (r.recordSize * k) r.recordSize fun _ => 0xFF)

/-- `Read...PropertiesFromFlashSector` -/
def readSector (m : Memory) (index : ℕ) (array : ℕ → Byte) : Logged Access (ℕ → Byte) :=
  (List.range r.perSector).foldlM (readSlot r buffer m index) array

/-- A round of `Write...PropertiesToFlashSector` -/
def writeSlot (index : ℕ) (array : ℕ → Byte) (m : Memory) (k : ℕ) : Logged Access Memory :=
  Prod.fst <$> write r (fun n => Logged.touch (buffer (r.recordSize * k) n)) m
    (k + index / r.perSector * r.perSector) (r.element array k)

/-- `Write...PropertiesToFlashSector` -/
def writeSector (m : Memory) (index : ℕ) (array : ℕ → Byte) : Logged Access Memory :=
  (List.range r.perSector).foldlM (writeSlot r buffer index array) m

variable {V : Type} (c : Codec V)

/-- A new record, in a local variable. -/
def create (m : Memory) (index : ℕ) (v : V) (stack : ℕ → Byte) : Logged Access (Memory × Bool) := do
  let (m, returnCode) ← write r (fun _ => pure ()) m index (c.assign v stack)
  pure (m, returnCode = FTFx_OK)

/-- The record that is written back: a value without a name is deleted. -/
def changed (v : V) (record : ℕ → Byte) : ℕ → Byte :=
  if c.named v then c.assign v record else fun _ => 0xFF

/-- A record that exists is compared, and replaced through the array if it is different. -/
def update (m : Memory) (index : ℕ) (v : V) (array : ℕ → Byte) : Logged Access (Memory × Bool) := do
  Logged.touch (.flash (r.address index + 8) r.recordSize)
  if c.same v (bytesAt m (r.address index + 8)) then pure (m, true)
  else do
    let indexInSector := index % r.perSector
    let array ← readSector r buffer m index array
    Logged.touch (buffer (r.recordSize * indexInSector) r.recordSize)
    let array := r.setElement array indexInSector (changed c v (r.element array indexInSector))
    let m ← eraseSector r m index
    let m ← writeSector r buffer m index array
    pure (m, c.named v)

end Functions

/-- A new scene is written into its slots. -/
def setNew (m : Memory) (index : ℕ) (p : SceneProperties) (garbage : Garbage) :
    Logged Access (Memory × Bool × Bool) :=
  if sceneCodec.named p.toNonvolatileSceneProperties then do
    let (m, written) ←
      create sceneRegion sceneCodec m index p.toNonvolatileSceneProperties garbage.record
    Logged.touch (.flash (eliotSceneRegion.address index + 8) eliotDeviceIdSize)
    if Uninitialized eliotDeviceIdSize (bytesAt m (eliotSceneRegion.address index + 8)) then
      if eliotCodec.named p.EliotDeviceId then do
        let (m, eliotWritten) ←
          create eliotSceneRegion eliotCodec m index p.EliotDeviceId garbage.eliotRecord
        pure (m, written, eliotWritten)
      else pure (m, written, false)
    else pure (m, written, false)
  else pure (m, false, false)

/-- A scene that exists is updated; nothing is computed if that writes behind an array. -/
def setOld (m : Memory) (index : ℕ) (p : SceneProperties) (garbage : Garbage) :
    Logged Access (Option (Memory × Bool × Bool)) := do
  let (m, written) ← update sceneRegion .nvSceneArray sceneCodec m index
    p.toNonvolatileSceneProperties garbage.nvArray
  let same := eliotCodec.same p.EliotDeviceId (bytesAt m (eliotSceneRegion.address index + 8))
  let (m, eliotWritten) ← update eliotSceneRegion .nvEliotSceneArray eliotCodec m index
    p.EliotDeviceId garbage.nvEliotArray
  pure (if same then some (m, written, eliotWritten) else none)

/-- `SetSceneProperties` -/
def setSceneProperties (st : State Byte) (index : ℕ) (p : SceneProperties) (garbage : Garbage) :
    Logged Access (Option (Bool × State Byte)) :=
  if index < 100 then do
    let nvScenePropertiesPtr ← getPtr sceneRegion st.memory index false
    let nvEliotScenePropertiesPtr ← getPtr eliotSceneRegion st.memory index false
    match nvScenePropertiesPtr, nvEliotScenePropertiesPtr with
    | some nvScenePropertiesPtr, some nvEliotScenePropertiesPtr => do
      Logged.touch (.flash nvScenePropertiesPtr nonvolatileSceneSize)
      let result ←
        if Uninitialized nonvolatileSceneSize (bytesAt st.memory nvScenePropertiesPtr) then
          some <$> setNew st.memory index p garbage
        else setOld st.memory index p garbage
      pure (result.map fun (memory, written, eliotWritten) =>
        (true,
          { memory := memory
            array := Function.update st.array index
              { volatile := p.running
                nvProperties := Kind.keep written nvScenePropertiesPtr
                nvEliotProperties := Kind.keep eliotWritten nvEliotScenePropertiesPtr } }))
    | _, _ => pure (some (false, st))
  else pure (some (false, st))

/-! ### What is computed -/

section Values

variable {r : Region} {buffer : ℕ → ℕ → Access} {m : Memory} {index : ℕ}

@[simp] theorem value_getPtr (validateData : Bool) :
    (getPtr r m index validateData).value = r.getPtr m index validateData := by
  unfold getPtr
  split_ifs <;> rfl

@[simp] theorem value_write (read : ℕ → Logged Access Unit) (record : ℕ → Byte) :
    (write r read m index record).value = r.write m index record := by
  unfold write
  split_ifs <;> rfl

theorem value_readSlot (array : ℕ → Byte) (k : ℕ) :
    (readSlot r buffer m index array k).value =
      overwrite array (r.recordSize * k) r.recordSize fun b =>
        match r.getPtr m (k + index / r.perSector * r.perSector) true with
        | some dataPtr => m (dataPtr + (b - r.recordSize * k))
        | none => 0xFF := by
  simp only [readSlot, Logged.value_bind, value_getPtr]
  split <;> rfl

@[simp] theorem value_readSector (array : ℕ → Byte) :
    (readSector r buffer m index array).value = r.readSector m index array := by
  rw [readSector, Logged.value_foldlM]
  simp only [value_readSlot]
  rfl

@[simp] theorem value_writeSector (array : ℕ → Byte) :
    (writeSector r buffer m index array).value = r.writeSector m index array := by
  rw [writeSector, Logged.value_foldlM]
  simp only [writeSlot, Logged.value_map, value_write]
  rfl

variable {V : Type} {c : Codec V}

@[simp] theorem value_create (v : V) (stack : ℕ → Byte) :
    (create r c m index v stack).value = r.create c m index v stack := by
  simp only [create, Logged.value_bind, value_write]
  rfl

@[simp] theorem value_update (v : V) (array : ℕ → Byte) :
    (update r buffer c m index v array).value = r.update c m index v array := by
  unfold update Region.update
  rw [Logged.value_bind]
  split_ifs with hsame hnamed
  · rfl
  · simp only [Logged.value_bind, value_readSector, value_writeSector, Logged.value_pure, changed,
      hnamed]
    rfl
  · simp only [Logged.value_bind, value_readSector, value_writeSector, Logged.value_pure, changed,
      hnamed]
    rfl

end Values

theorem value_setNew (m : Memory) (index : ℕ) (p : SceneProperties) (garbage : Garbage) :
    (setNew m index p garbage).value = scenes.setNew m index p garbage := by
  simp only [setNew, apply_ite Logged.value, Logged.value_bind, value_create, Logged.value_pure]
  rfl

theorem value_setOld (m : Memory) (index : ℕ) (p : SceneProperties) (garbage : Garbage) :
    (setOld m index p garbage).value = scenes.setOld m index p garbage := by
  have hroom : ¬ scenes.eliotRegion.perSector ≤ scenes.eliotArraySize := by decide
  simp only [setOld, Logged.value_bind, value_update, Logged.value_pure]
  simp only [Kind.setOld, or_iff_left hroom]
  rfl

/-- **What `SetSceneProperties` computes** does not depend on the log. -/
theorem value_setSceneProperties (st : State Byte) (index : ℕ) (p : SceneProperties)
    (garbage : Garbage) :
    (setSceneProperties st index p garbage).value = scenes.setProperties st index p garbage := by
  have hregion : scenes.region = sceneRegion := rfl
  have heliot : scenes.eliotRegion = eliotSceneRegion := rfl
  unfold setSceneProperties Kind.setProperties
  rw [hregion, heliot, apply_ite Logged.value]
  refine if_congr Iff.rfl ?_ rfl
  rw [Logged.value_bind, Logged.value_bind, value_getPtr, value_getPtr]
  cases sceneRegion.getPtr st.memory index false with
  | none => rfl
  | some nvScenePropertiesPtr =>
    cases eliotSceneRegion.getPtr st.memory index false with
    | none => rfl
    | some nvEliotScenePropertiesPtr =>
      have hsize : scenes.codec.size = nonvolatileSceneSize := rfl
      simp only [Logged.value_bind, Logged.value_pure, apply_ite Logged.value, Logged.value_map,
        value_setNew, value_setOld, hsize]
      split_ifs <;> rfl

/-! ### Bounds of the flash -/

variable {m : Memory} {index : ℕ} {array : ℕ → Byte}

theorem inRegion_scene (hi : index < 100) {o n : ℕ} (hn : o + n ≤ 448) :
    InRegion sceneRegion (sceneRegion.address index + o) n := by
  change 0xde000 ≤ 0xde000 + 0x1000 * (index / 9) + 0x1C0 * (index % 9) + o ∧
    0xde000 + 0x1000 * (index / 9) + 0x1C0 * (index % 9) + o + n ≤ 0xe9fff + 1
  omega

/-- The slot of an id lies in one of the two regions if it is one of the first fifty. -/
theorem inBounds_eliot_iff (hi : index < 100) {o n : ℕ} (hpos : 0 < n) (hn : o + n ≤ 48) :
    (Access.flash (eliotSceneRegion.address index + o) n).InBounds ↔ index < 50 := by
  change (0xde000 ≤ 0xed000 + 0x1000 * (index / 50) + 0x30 * (index % 50) + o ∧
      0xed000 + 0x1000 * (index / 50) + 0x30 * (index % 50) + o + n ≤ 0xe9fff + 1) ∨
    (0xed000 ≤ 0xed000 + 0x1000 * (index / 50) + 0x30 * (index % 50) + o ∧
      0xed000 + 0x1000 * (index / 50) + 0x30 * (index % 50) + o + n ≤ 0xedfff + 1) ↔ index < 50
  obtain hsector | hsector : index / 50 = 0 ∨ index / 50 = 1 := by omega
  · omega
  · omega

theorem inRegion_of_getPtr {r : Region} {validateData : Bool} {dataPtr : ℕ}
    (h : r.getPtr m index validateData = some dataPtr) : InRegion r dataPtr r.recordSize := by
  unfold Region.getPtr at h
  dsimp only at h
  split_ifs at h with _ _ hrange
  obtain rfl := Option.some.inj h
  exact ⟨hrange.1, Nat.le_succ_of_le hrange.2⟩

theorem all_getPtr_scene (validateData : Bool) :
    (getPtr sceneRegion m index validateData).All Access.InBounds := by
  unfold getPtr
  split_ifs with hi
  · have hcrc : InRegion sceneRegion (sceneRegion.address index) 2 :=
      inRegion_scene (o := 0) hi (by decide)
    have hrecord : InRegion sceneRegion (sceneRegion.address index + 8) sceneRegion.recordSize :=
      inRegion_scene hi (by decide)
    simp [Access.InBounds, hcrc, hrecord]
  · exact Logged.all_pure _

theorem all_getPtr_eliot_iff (hi : index < 100) (validateData : Bool) :
    (getPtr eliotSceneRegion m index validateData).All Access.InBounds ↔ index < 50 := by
  have hcrc := inBounds_eliot_iff (o := 0) (n := 2) hi (by decide) (by decide)
  have hrecord := inBounds_eliot_iff (o := 8) (n := eliotSceneRegion.recordSize) hi (by decide)
    (by decide)
  have hmax : index < eliotSceneRegion.maxNumber := hi
  rw [getPtr, if_pos hmax, Logged.all_bind, Logged.all_bind, Logged.all_touch, Logged.all_touch,
    hrecord]
  exact ⟨fun h => h.2.1, fun h => ⟨hcrc.2 h, h, Logged.all_pure _⟩⟩

/-! ### The array of scenes -/

/-- The last slot of the sector of a scene. -/
def lastOfSector (index : ℕ) : ℕ := 8 + index / 9 * 9

/-- The sector is read into the nine elements of the array. -/
theorem all_readSector_scene :
    (readSector sceneRegion .nvSceneArray m index array).All Access.InBounds := by
  refine (Logged.all_foldlM (Q := fun k => k < 9) (fun array k => ?_) _ _).2 fun k hk =>
    List.mem_range.1 hk
  have helement : (Access.nvSceneArray (436 * k) 436).InBounds ↔ k < 9 := by
    change 436 * k + 436 ≤ 9 * 436 ↔ k < 9
    omega
  rw [readSlot, Logged.all_bind, Logged.all_bind, Logged.all_touch, value_getPtr]
  refine ⟨fun h => helement.1 h.2.1, fun hk => ⟨all_getPtr_scene _, helement.2 hk, ?_⟩⟩
  split
  · rename_i dataPtr hptr
    exact (Logged.all_bind ..).2
      ⟨(Logged.all_touch _).2 (.inl (inRegion_of_getPtr hptr)), Logged.all_pure _⟩
  · exact Logged.all_pure _

/-- Writing a record stays in bounds if reading it does, as whole phrases if it is not erased. -/
theorem all_write_scene_iff {read : ℕ → Logged Access Unit} {record : ℕ → Byte} :
    (write sceneRegion read m index record).All Access.InBounds ↔
      (index < 100 → (read nonvolatileSceneSize).All Access.InBounds ∧
        (¬ Uninitialized nonvolatileSceneSize record → (read 440).All Access.InBounds)) := by
  by_cases hi : index < 100
  · by_cases hinit : Uninitialized nonvolatileSceneSize record
    · simp [write, hi, hinit, sceneRegion]
    · have hmax : index < sceneRegion.maxNumber := hi
      have hcrc : (Access.flash (sceneRegion.address index) 8).InBounds :=
        .inl (inRegion_scene (o := 0) hi (by decide))
      have hrecord : (Access.flash (sceneRegion.address index + 8)
          (flashSizeof sceneRegion.recordSize)).InBounds := .inl (inRegion_scene hi (by decide))
      have hwrite : ¬ Uninitialized sceneRegion.recordSize record ∧
          sceneRegion.startAddress ≤ sceneRegion.address index ∧ sceneRegion.address index + 8 +
            flashSizeof sceneRegion.recordSize ≤ sceneRegion.endAddress :=
        ⟨hinit, Region.le_address, (sceneRegion_inRange hi).2⟩
      rw [write, if_pos hmax, if_pos hwrite]
      simp only [Logged.all_bind, Logged.all_touch, Logged.all_pure, hcrc, hrecord, true_and,
        and_true]
      exact ⟨fun h _ => ⟨h.1, fun _ => h.2⟩, fun h => ⟨(h hi).1, (h hi).2 hinit⟩⟩
  · have hmax : ¬ index < sceneRegion.maxNumber := hi
    simp [write, hmax, hi]

/-- The elements of the array are written inside the array, unless the last one is. -/
theorem all_writeSector_scene_iff :
    (writeSector sceneRegion .nvSceneArray m index array).All Access.InBounds ↔
      (lastOfSector index < 100 →
        Uninitialized nonvolatileSceneSize (sceneRegion.element array 8)) := by
  have hslot : ∀ m k, (writeSlot sceneRegion .nvSceneArray index array m k).All Access.InBounds ↔
      (k + index / 9 * 9 < 100 → 436 * k + 436 ≤ 9 * 436 ∧
        (¬ Uninitialized nonvolatileSceneSize (sceneRegion.element array k) →
          436 * k + 440 ≤ 9 * 436)) := fun m k => by
    rw [writeSlot, Logged.all_map, all_write_scene_iff, Logged.all_touch, Logged.all_touch]
    exact Iff.rfl
  rw [writeSector, Logged.all_foldlM hslot]
  constructor
  · intro h hlast
    by_contra hinit
    have hread := (h 8 (List.mem_range.2 (by decide)) hlast).2 hinit
    omega
  · intro h k hk hindex
    have hk : k < 9 := List.mem_range.1 hk
    refine ⟨by omega, fun hinit => ?_⟩
    -- only the last element is too short for whole phrases
    have hne : k ≠ 8 := fun heq => by
      subst heq
      exact hinit (h hindex)
    omega

theorem all_eraseSector_scene (hi : index < 100) :
    (eraseSector sceneRegion m index).All Access.InBounds := by
  have hsector : InRegion sceneRegion (sceneRegion.sectorAddress index) 0x1000 := by
    change 0xde000 ≤ 0xde000 + 0x1000 * (index / 9) ∧
      0xde000 + 0x1000 * (index / 9) + 0x1000 ≤ 0xe9fff + 1
    omega
  exact (Logged.all_bind ..).2 ⟨(Logged.all_touch _).2 (.inl hsector), Logged.all_pure _⟩

/-- **The last slot of the sector is empty** when a scene has been changed: it holds no record with
a right checksum, or it is the slot of the scene, and the scene has no name. -/
def LastSlotEmpty (m : Memory) (index : ℕ) (p : NonvolatileSceneProperties) : Prop :=
  if index % 9 = 8 then p.SceneNameString.chars = []
  else ∀ dataPtr ∈ sceneRegion.getPtr m (lastOfSector index) true,
    Uninitialized nonvolatileSceneSize (bytesAt m dataPtr)

theorem uninitialized_congr {size : ℕ} {record record' : ℕ → Byte}
    (h : ∀ b < size, record b = record' b) :
    Uninitialized size record ↔ Uninitialized size record' :=
  forall₂_congr fun b hb => by rw [h b hb]

/-- What is read from the last slot of the sector. -/
theorem element_readSector_last {b : ℕ} (hb : b < nonvolatileSceneSize) :
    sceneRegion.element (sceneRegion.readSector m index array) 8 b =
      match sceneRegion.getPtr m (lastOfSector index) true with
      | some dataPtr => m (dataPtr + b)
      | none => 0xFF := by
  have hk : 8 < sceneRegion.perSector := by decide
  have hb : b < sceneRegion.recordSize := hb
  have hlast : 8 + index / sceneRegion.perSector * sceneRegion.perSector = lastOfSector index := rfl
  rw [Region.element, Region.readSector, Region.foldl_overwrite _ _ _ _ hk hb, hlast]
  cases sceneRegion.getPtr m (lastOfSector index) true with
  | none => rfl
  | some dataPtr => exact congrArg (fun n => m (dataPtr + n)) (Nat.add_sub_cancel_left ..)

theorem uninitialized_changed_iff (p : NonvolatileSceneProperties) (record : ℕ → Byte) :
    Uninitialized nonvolatileSceneSize (changed sceneCodec p record) ↔
      p.SceneNameString.chars = [] := by
  have hnamed : sceneCodec.named p = true ↔ p.SceneNameString.chars ≠ [] := decide_eq_true_iff
  unfold changed
  split_ifs with h
  · exact iff_of_false (sceneCodec.initialized_assign p record) (hnamed.1 h)
  · exact iff_of_true (fun _ _ => rfl) (not_not.1 (mt hnamed.2 h))

theorem lastSlotEmpty_iff (p : NonvolatileSceneProperties) (record : ℕ → Byte) :
    Uninitialized nonvolatileSceneSize (sceneRegion.element
      (sceneRegion.setElement (sceneRegion.readSector m index array) (index % 9)
        (changed sceneCodec p record)) 8) ↔ LastSlotEmpty m index p := by
  unfold LastSlotEmpty
  split_ifs with hlast
  · rw [hlast, ← uninitialized_changed_iff p record]
    exact uninitialized_congr fun b hb => Region.element_setElement_self _ _ _ hb
  · have hother : ∀ b < nonvolatileSceneSize, sceneRegion.element
        (sceneRegion.setElement (sceneRegion.readSector m index array) (index % 9)
          (changed sceneCodec p record)) 8 b =
        match sceneRegion.getPtr m (lastOfSector index) true with
        | some dataPtr => m (dataPtr + b)
        | none => 0xFF := fun b hb =>
      (Region.element_setElement_of_ne _ (Ne.symm hlast) _ hb).trans (element_readSector_last hb)
    rw [uninitialized_congr hother]
    cases sceneRegion.getPtr m (lastOfSector index) true with
    | none => exact iff_of_true (fun _ _ => rfl) nofun
    | some dataPtr => exact ⟨fun h _ hptr => Option.some.inj hptr ▸ h, fun h => h dataPtr rfl⟩

/-- A scene is updated in bounds if nothing is different, or the last slot of its sector is empty
afterwards. -/
theorem all_update_scene_iff (hi : index < 100) (p : NonvolatileSceneProperties) :
    (update sceneRegion .nvSceneArray sceneCodec m index p array).All Access.InBounds ↔
      sceneCodec.same p (bytesAt m (sceneRegion.address index + 8)) = true ∨
        (lastOfSector index < 100 → LastSlotEmpty m index p) := by
  have hcompare : (Access.flash (sceneRegion.address index + 8)
      sceneRegion.recordSize).InBounds := .inl (inRegion_scene hi (by decide))
  unfold update
  rw [Logged.all_bind, Logged.all_touch, and_iff_right hcompare]
  split_ifs with hsame
  · exact iff_of_true (Logged.all_pure _) (.inl hsame)
  · have helement : (Access.nvSceneArray (sceneRegion.recordSize * (index % sceneRegion.perSector))
        sceneRegion.recordSize).InBounds := by
      change 436 * (index % 9) + 436 ≤ 9 * 436
      omega
    dsimp only
    rw [Logged.all_bind, Logged.all_bind, Logged.all_touch, Logged.all_bind, Logged.all_bind,
      and_iff_right all_readSector_scene, and_iff_right helement,
      and_iff_right (all_eraseSector_scene hi), and_iff_left (Logged.all_pure _),
      all_writeSector_scene_iff, value_readSector, or_iff_right hsame]
    exact imp_congr_right fun _ => lastSlotEmpty_iff p _

/-! ### The array of ids -/

/-- The tenth id does not fit in the array. -/
theorem not_inBounds_nine {n : ℕ} (hpos : 0 < n) :
    ¬ (Access.nvEliotSceneArray (eliotSceneRegion.recordSize * 9) n).InBounds := by
  change ¬ 37 * 9 + n ≤ 9 * 37
  omega

theorem not_all_readSector_eliot :
    ¬ (readSector eliotSceneRegion .nvEliotSceneArray m index array).All Access.InBounds := by
  have hnine : 9 ∈ List.range eliotSceneRegion.perSector := List.mem_range.2 (by decide)
  refine Logged.not_all_foldlM hnine (fun array h => ?_) array
  rw [readSlot, Logged.all_bind, Logged.all_bind, Logged.all_touch] at h
  exact not_inBounds_nine (by decide) h.2.1

theorem not_all_writeSector_eliot (hi : index < 100) :
    ¬ (writeSector eliotSceneRegion .nvEliotSceneArray m index array).All Access.InBounds := by
  have hnine : 9 ∈ List.range eliotSceneRegion.perSector := List.mem_range.2 (by decide)
  refine Logged.not_all_foldlM hnine (fun m h => ?_) m
  have hmax : 9 + index / eliotSceneRegion.perSector * eliotSceneRegion.perSector <
      eliotSceneRegion.maxNumber := show 9 + index / 50 * 50 < 100 by omega
  rw [writeSlot, Logged.all_map, write, if_pos hmax] at h
  have hread : ∀ {α : Type} {f : Unit → Logged Access α}, ¬ (Logged.touch (.nvEliotSceneArray
      (eliotSceneRegion.recordSize * 9) eliotSceneRegion.recordSize) >>= f).All Access.InBounds :=
    fun h => not_inBounds_nine (by decide) ((Logged.all_touch _).1 ((Logged.all_bind ..).1 h).1)
  split_ifs at h
  · exact hread h
  · exact hread h

theorem all_eraseSector_eliot_iff (hi : index < 100) :
    (eraseSector eliotSceneRegion m index).All Access.InBounds ↔ index < 50 := by
  have hsector : (Access.flash (eliotSceneRegion.sectorAddress index) 0x1000).InBounds ↔
      index < 50 := by
    change (0xde000 ≤ 0xed000 + 0x1000 * (index / 50) ∧
        0xed000 + 0x1000 * (index / 50) + 0x1000 ≤ 0xe9fff + 1) ∨
      (0xed000 ≤ 0xed000 + 0x1000 * (index / 50) ∧
        0xed000 + 0x1000 * (index / 50) + 0x1000 ≤ 0xedfff + 1) ↔ index < 50
    omega
  rw [eraseSector, Logged.all_bind, Logged.all_touch, hsector]
  exact and_iff_left (Logged.all_pure _)

/-- An id is updated in bounds only if it is not different. -/
theorem all_update_eliot_iff (hi : index < 50) (id : CString eliotDeviceIdSize) :
    (update eliotSceneRegion .nvEliotSceneArray eliotCodec m index id array).All Access.InBounds ↔
      eliotCodec.same id (bytesAt m (eliotSceneRegion.address index + 8)) = true := by
  have hcompare : (Access.flash (eliotSceneRegion.address index + 8)
      eliotSceneRegion.recordSize).InBounds :=
    (inBounds_eliot_iff (by omega) (by decide) (by decide)).2 hi
  unfold update
  rw [Logged.all_bind, Logged.all_touch, and_iff_right hcompare]
  split_ifs with hsame
  · exact iff_of_true (Logged.all_pure _) hsame
  · refine iff_of_false (fun h => ?_) hsame
    exact not_all_readSector_eliot ((Logged.all_bind ..).1 h).1

/-! ### Scenes -/

theorem all_create_scene (p : NonvolatileSceneProperties) (stack : ℕ → Byte) :
    (create sceneRegion sceneCodec m index p stack).All Access.InBounds := by
  rw [create, Logged.all_bind, all_write_scene_iff]
  exact ⟨fun _ => ⟨Logged.all_pure _, fun _ => Logged.all_pure _⟩, Logged.all_pure _⟩

theorem all_create_eliot (hi : index < 50) (id : CString eliotDeviceIdSize) (stack : ℕ → Byte) :
    (create eliotSceneRegion eliotCodec m index id stack).All Access.InBounds := by
  have hcrc := (inBounds_eliot_iff (o := 0) (n := 8) (by omega) (by decide) (by decide)).2 hi
  have hrecord := (inBounds_eliot_iff (o := 8) (n := flashSizeof eliotSceneRegion.recordSize)
    (by omega) (by decide) (by decide)).2 hi
  rw [create, Logged.all_bind]
  refine ⟨?_, Logged.all_pure _⟩
  unfold write
  split_ifs
  · simp only [Logged.all_bind, Logged.all_touch, Logged.all_pure, and_true, true_and]
    exact ⟨hcrc, hrecord⟩
  · exact Logged.all_pure _
  · exact Logged.all_pure _

/-- A new scene does not need the arrays. -/
theorem all_setNew (hi : index < 50) (p : SceneProperties) (garbage : Garbage) :
    (setNew m index p garbage).All Access.InBounds := by
  have hread := (inBounds_eliot_iff (o := 8) (n := eliotDeviceIdSize) (by omega) (by decide)
    (by decide)).2 hi
  unfold setNew
  by_cases hnamed : sceneCodec.named p.toNonvolatileSceneProperties
  · rw [if_pos hnamed, Logged.all_bind]
    refine ⟨all_create_scene _ _, (Logged.all_bind ..).2 ⟨(Logged.all_touch _).2 hread, ?_⟩⟩
    split_ifs
    · exact (Logged.all_bind ..).2 ⟨all_create_eliot hi _ _, Logged.all_pure _⟩
    · exact Logged.all_pure _
    · exact Logged.all_pure _
  · rw [if_neg hnamed]
    exact Logged.all_pure _

/-- A scene that exists is updated in bounds if its id is not different, and its record is not or
the last slot of its sector is empty afterwards. -/
theorem all_setOld_iff (hi : index < 50) (p : SceneProperties) (garbage : Garbage) :
    (setOld m index p garbage).All Access.InBounds ↔
      (sceneCodec.same p.toNonvolatileSceneProperties
          (bytesAt m (sceneRegion.address index + 8)) = true ∨
        LastSlotEmpty m index p.toNonvolatileSceneProperties) ∧
      eliotCodec.same p.EliotDeviceId (bytesAt m (eliotSceneRegion.address index + 8)) = true := by
  have hlast : lastOfSector index < 100 := show 8 + index / 9 * 9 < 100 by omega
  -- the sector of the scene is another one than that of its id
  have hid : eliotCodec.same p.EliotDeviceId (bytesAt
      (sceneRegion.update sceneCodec m index p.toNonvolatileSceneProperties garbage.nvArray).1
      (eliotSceneRegion.address index + 8)) =
        eliotCodec.same p.EliotDeviceId (bytesAt m (eliotSceneRegion.address index + 8)) := by
    have hagree := Region.update_agree (m := m) (i := index) (c := sceneCodec)
      (v := p.toNonvolatileSceneProperties) sceneRegion_fits garbage.nvArray
    exact congrArg (eliotCodec.same p.EliotDeviceId)
      (scenes_fits.eliot_bytes (show index < 100 by omega) hagree index)
  simp only [setOld, Logged.all_bind, Logged.all_pure, and_true, value_update]
  rw [all_update_scene_iff (by omega), forall_prop_of_true hlast, all_update_eliot_iff hi, hid]

/-- **`SetSceneProperties` in bounds**: the id has to have a slot, and nothing may be written
through the array of ids. -/
theorem all_setSceneProperties_iff (st : State Byte) (hi : index < 100) (p : SceneProperties)
    (garbage : Garbage) :
    (setSceneProperties st index p garbage).All Access.InBounds ↔ index < 50 ∧
      (Uninitialized nonvolatileSceneSize (bytesAt st.memory (sceneRegion.address index + 8)) ∨
        (sceneCodec.same p.toNonvolatileSceneProperties
            (bytesAt st.memory (sceneRegion.address index + 8)) = true ∨
          LastSlotEmpty st.memory index p.toNonvolatileSceneProperties) ∧
        eliotCodec.same p.EliotDeviceId
          (bytesAt st.memory (eliotSceneRegion.address index + 8)) = true) := by
  have hread : (Access.flash (sceneRegion.address index + 8) nonvolatileSceneSize).InBounds :=
    .inl (inRegion_scene hi (by decide))
  rw [setSceneProperties, if_pos hi, Logged.all_bind, Logged.all_bind, value_getPtr, value_getPtr,
    and_iff_right (all_getPtr_scene false), all_getPtr_eliot_iff hi]
  refine and_congr_right fun hi' => ?_
  rw [Region.getPtr_unchecked (sceneRegion_inRange hi),
    Region.getPtr_unchecked (eliotSceneRegion_inRange_iff.2 hi')]
  dsimp only
  rw [Logged.all_bind, Logged.all_touch, and_iff_right hread]
  split_ifs with hinit
  · rw [Logged.all_bind, Logged.all_map]
    exact iff_of_true ⟨all_setNew hi' p garbage, Logged.all_pure _⟩ (.inl hinit)
  · rw [Logged.all_bind, and_iff_left (Logged.all_pure _), or_iff_right hinit]
    exact all_setOld_iff hi' p garbage

/-! ### Calls -/

/-- The calls that access the arrays or the sectors of an index. -/
inductive Call
  /-- `SetSceneProperties` -/
  | setSceneProperties (p : SceneProperties) (garbage : Garbage)
  /-- `ReadScenePropertiesFromFlashSector` -/
  | readScenes (nvSceneArray : ℕ → Byte)
  /-- `EraseScenesFromFlash` -/
  | eraseScenes
  /-- `WriteScenePropertiesToFlashSector` -/
  | writeScenes (nvSceneArray : ℕ → Byte)
  /-- `ReadEliotScenePropertiesFromFlashSector` -/
  | readEliotScenes (nvEliotSceneArray : ℕ → Byte)
  /-- `EraseEliotScenePropertiesFromFlash` -/
  | eraseEliotScenes
  /-- `WriteEliotScenePropertiesToFlashSector` -/
  | writeEliotScenes (nvEliotSceneArray : ℕ → Byte)

/-- A call stays in bounds. -/
def Call.InBounds (st : State Byte) (index : ℕ) : Call → Prop
  | .setSceneProperties p garbage =>
    (Bounds.setSceneProperties st index p garbage).All Access.InBounds
  | .readScenes array =>
    (readSector sceneRegion .nvSceneArray st.memory index array).All Access.InBounds
  | .eraseScenes => (eraseSector sceneRegion st.memory index).All Access.InBounds
  | .writeScenes array =>
    (writeSector sceneRegion .nvSceneArray st.memory index array).All Access.InBounds
  | .readEliotScenes array =>
    (readSector eliotSceneRegion .nvEliotSceneArray st.memory index array).All Access.InBounds
  | .eraseEliotScenes => (eraseSector eliotSceneRegion st.memory index).All Access.InBounds
  | .writeEliotScenes array =>
    (writeSector eliotSceneRegion .nvEliotSceneArray st.memory index array).All Access.InBounds

/-- The calls that do no harm: the id has its slot in the first sector, nothing is read from the
array of ids or written to it, and the ninth element of the array of scenes is not written to flash
unless it is erased. -/
def Call.Harmless (st : State Byte) (index : ℕ) : Call → Prop
  | .setSceneProperties p _ => index < 50 ∧
      (Uninitialized nonvolatileSceneSize (bytesAt st.memory (sceneRegion.address index + 8)) ∨
        (sceneCodec.same p.toNonvolatileSceneProperties
            (bytesAt st.memory (sceneRegion.address index + 8)) = true ∨
          LastSlotEmpty st.memory index p.toNonvolatileSceneProperties) ∧
        eliotCodec.same p.EliotDeviceId
          (bytesAt st.memory (eliotSceneRegion.address index + 8)) = true)
  | .readScenes _ => True
  | .eraseScenes => True
  | .writeScenes array => lastOfSector index < 100 →
      Uninitialized nonvolatileSceneSize (sceneRegion.element array 8)
  | .readEliotScenes _ => False
  | .eraseEliotScenes => index < 50
  | .writeEliotScenes _ => False

/-- **Exactly the harmless calls stay in bounds**, whatever the flash and the arrays hold. -/
theorem call_inBounds_iff (st : State Byte) (hi : index < 100) (call : Call) :
    call.InBounds st index ↔ call.Harmless st index := by
  cases call with
  | setSceneProperties p garbage => exact all_setSceneProperties_iff st hi p garbage
  | readScenes array => exact iff_of_true all_readSector_scene trivial
  | eraseScenes => exact iff_of_true (all_eraseSector_scene hi) trivial
  | writeScenes array => exact all_writeSector_scene_iff
  | readEliotScenes array => exact iff_of_false not_all_readSector_eliot id
  | eraseEliotScenes => exact all_eraseSector_eliot_iff hi
  | writeEliotScenes array => exact iff_of_false (not_all_writeSector_eliot hi) id

/-- A new scene is set in bounds. -/
theorem call_inBounds_iff_new :
    (Call.setSceneProperties exampleScene ⟨fun _ => 0, fun _ => 0, fun _ => 0, fun _ => 0⟩).InBounds
      ⟨fun _ => erased, fun _ => ⟨0, none, none⟩⟩ 0 :=
  (call_inBounds_iff _ (by decide) _).2 ⟨by decide, .inl fun _ _ => rfl⟩

/-- Flash that holds a scene called `A` without an id, and nothing else. -/
def oneScene : Memory :=
  (sceneRegion.create sceneCodec (fun _ => erased) 0 exampleScene.toNonvolatileSceneProperties
    fun _ => 0).1

theorem models_oneScene : sceneRegion.Models sceneCodec oneScene
    (Function.update (fun _ => none) 0 (some exampleScene.toNonvolatileSceneProperties)) := by
  have hblank := Region.models_erased (r := sceneRegion) (m := fun _ => erased) sceneCodec
    fun _ _ _ => rfl
  have hnamed : sceneCodec.named exampleScene.toNonvolatileSceneProperties = true := by decide
  exact (hblank.create sceneRegion_fits rfl (sceneRegion_inRange (by decide)) rfl hnamed _).1

theorem initialized_oneScene :
    ¬ Uninitialized nonvolatileSceneSize (bytesAt oneScene (sceneRegion.address 0 + 8)) := by
  intro hinit
  have hnone := (models_oneScene.uninitialized_iff (sceneRegion_inRange (by decide))).1 hinit
  rw [Function.update_self] at hnone
  cases hnone

theorem oneScene_eliot {b : ℕ} : bytesAt oneScene (eliotSceneRegion.address 0 + 8) b = erased := by
  have hagree : AgreeOutside (sceneRegion.address 0) (8 + flashSizeof sceneRegion.recordSize)
    (fun _ => erased) oneScene := Region.create_agree
  have hbehind : sceneRegion.address 0 + (8 + flashSizeof sceneRegion.recordSize) ≤
    eliotSceneRegion.address 0 + 8 + b := Nat.le_add_right_of_le (by decide)
  exact hagree _ fun h => absurd h.2 (Nat.not_lt.2 hbehind)

/-- Giving an id to a scene that is in flash is not: fifty ids are read into the array. -/
theorem not_inBounds_of_id :
    ¬ (Call.setSceneProperties { exampleScene with EliotDeviceId := ⟨[0x42], by decide, by decide⟩ }
      ⟨fun _ => 0, fun _ => 0, fun _ => 0, fun _ => 0⟩).InBounds
        ⟨oneScene, fun _ => ⟨0, none, none⟩⟩ 0 := by
  rw [Call.InBounds, all_setSceneProperties_iff _ (by decide)]
  dsimp only
  rintro ⟨-, hinit | ⟨-, hsame⟩⟩
  · exact initialized_oneScene hinit
  · exact eliotCodec.initialized_of_same hsame fun _ _ => oneScene_eliot

end Bounds

end Scenes

end Lcm
