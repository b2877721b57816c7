import Lcm.Flash.Records

/-!
# Values in records

A `Codec` says how values of a type are assigned to the fields of a record, compared with a record
and read from it.  With it, a region of records is a map from indices to values; a value without a
name is never stored, since setting one deletes the record.

## Main definitions

* `Codec` : the fields of a record.
* `Region.create`, `Region.update` : how a value is set for a slot that is erased, or that holds a
  record.
* `Region.Models` : the values that a region holds.

## Main results

* `Region.Models.create`, `Region.Models.update` : they set the value and no other.
-/

namespace Lcm

namespace Flash

/-- How values are kept in records. -/
structure Codec (V : Type*) where
  /-- The size of a record. -/
  size : ℕ
  /-- The value has a name. -/
  named : V → Bool
  /-- The record after the fields are assigned. -/
  assign : V → (ℕ → Byte) → ℕ → Byte
  /-- No field is different. -/
  same : V → (ℕ → Byte) → Bool
  /-- The value of the fields. -/
  decode : (ℕ → Byte) → V
  /-- The value depends on the record alone. -/
  decode_congr : ∀ {record record' : ℕ → Byte}, (∀ b < size, record b = record' b) →
    decode record = decode record'
  /-- What is assigned is read. -/
  decode_assign : ∀ v record, decode (assign v record) = v
  /-- What compares equal is equal. -/
  decode_of_same : ∀ {v record}, same v record = true → decode record = v
  /-- A record of erased bytes does not compare equal. -/
  initialized_of_same : ∀ {v record}, same v record = true → ¬ Uninitialized size record
  /-- A record is never one of erased bytes after its fields are assigned. -/
  initialized_assign : ∀ v record, ¬ Uninitialized size (assign v record)

/-- What is stored when a value is set: nothing if it has no name. -/
def Codec.stored {V : Type*} (c : Codec V) (v : V) : Option V := if c.named v then some v else none

namespace Region

variable {V : Type*} (r : Region) (c : Codec V)

/-- The value of a new record is written: the flash, and whether that succeeds.  The record is a
local variable; `stack` is what is there before. -/
def create (m : Memory) (index : ℕ) (v : V) (stack : ℕ → Byte) : Memory × Bool :=
  let (m, returnCode) := r.write m index (c.assign v stack)
  (m, returnCode = FTFx_OK)

/-- The value of a record is updated if it is different, through `array`: the flash, and whether
the record still exists. -/
def update (m : Memory) (index : ℕ) (v : V) (array : ℕ → Byte) : Memory × Bool :=
  if c.same v (bytesAt m (r.address index + 8)) then (m, true)
  else
    let indexInSector := index % r.perSector
    let array := r.readSector m index array
    if c.named v then
      let array := r.setElement array indexInSector (c.assign v (r.element array indexInSector))
      (r.writeSector (r.eraseSector m index) index array, true)
    else
      let array := r.setElement array indexInSector fun _ => 0xFF
      (r.writeSector (r.eraseSector m index) index array, false)

/-- **What a region holds**: a value with a name or nothing in each of its slots. -/
def Models (m : Memory) (values : ℕ → Option V) : Prop :=
  ∃ content, r.Represents m content ∧ ∀ index, values index = (content index).map c.decode ∧
    ∀ v, values index = some v → c.named v = true

variable {r c} {m m' : Memory} {values : ℕ → Option V} {i j : ℕ} {v : V}

/-! ### Reading -/

theorem Models.frame {a n : ℕ} (h : r.Models c m values) (hagree : AgreeOutside a n m m')
    (hdisjoint : r.endAddress ≤ a ∨ a + n ≤ r.startAddress) : r.Models c m' values := by
  obtain ⟨content, hcontent, hvalues⟩ := h
  exact ⟨content, hcontent.frame hagree hdisjoint, hvalues⟩

theorem Models.named (h : r.Models c m values) (hv : values i = some v) : c.named v = true := by
  obtain ⟨_, -, hvalues⟩ := h
  exact (hvalues i).2 v hv

theorem Models.uninitialized_iff (h : r.Models c m values) (hrange : r.InRange i) :
    Uninitialized r.recordSize (bytesAt m (r.address i + 8)) ↔ values i = none := by
  obtain ⟨content, hcontent, hvalues⟩ := h
  rw [(hcontent i hrange).uninitialized_iff, (hvalues i).1, Option.map_eq_none_iff]

theorem Models.getPtr (h : r.Models c m values) (hfits : r.Fits) (hrange : r.InRange i) :
    r.getPtr m i true = (values i).map fun _ => r.address i + 8 := by
  obtain ⟨content, hcontent, hvalues⟩ := h
  rw [(hcontent i hrange).getPtr hfits hrange, (hvalues i).1, Option.map_map]
  rfl

/-- A value is read through the pointer to its record. -/
theorem Models.decode (h : r.Models c m values) (hsize : c.size = r.recordSize)
    (hrange : r.InRange i) (hv : values i = some v) :
    c.decode (bytesAt m (r.address i + 8)) = v := by
  obtain ⟨content, hcontent, hvalues⟩ := h
  have hi := (hvalues i).1
  have hholds := hcontent i hrange
  cases hrecord : content i with
  | none => rw [hrecord, hv] at hi; cases hi
  | some record =>
    rw [hrecord, hv, Option.map_some] at hi
    rw [hrecord] at hholds
    rw [Option.some.inj hi]
    exact c.decode_congr fun b hb => hholds.2.1 b (hsize ▸ hb)

/-- Erased flash holds no value. -/
theorem models_erased (c : Codec V)
    (h : ∀ a, r.startAddress ≤ a → a < r.endAddress → m a = erased) :
    r.Models c m fun _ => none := by
  refine ⟨fun _ => none, fun i hrange b hb => ?_, fun i => ⟨rfl, nofun⟩⟩
  have hstart := le_address (r := r) (i := i)
  have hend := hrange.2
  exact h _ (by omega) (by omega)

/-! ### Writing -/

/-- After the record of an index is written, the region holds its value. -/
theorem models_of_represents {content : ℕ → Option (ℕ → Byte)}
    (hvalues : ∀ index, values index = (content index).map c.decode ∧
      ∀ v, values index = some v → c.named v = true)
    {o : Option (ℕ → Byte)} {ov : Option V} (ho : ov = o.map c.decode)
    (hnamed : ∀ v, ov = some v → c.named v = true)
    (h : r.Represents m' (Function.update content i o)) :
    r.Models c m' (Function.update values i ov) := by
  refine ⟨_, h, fun j => ?_⟩
  by_cases hij : j = i
  · subst hij
    rw [Function.update_self, Function.update_self]
    exact ⟨ho, hnamed⟩
  · rw [Function.update_of_ne hij, Function.update_of_ne hij]
    exact hvalues j

theorem written_assign (hsize : c.size = r.recordSize) (v : V) (record : ℕ → Byte) :
    r.written (c.assign v record) = some (c.assign v record) :=
  if_neg (hsize ▸ c.initialized_assign v record)

/-- **A new record gets its value.** -/
theorem Models.create (h : r.Models c m values) (hfits : r.Fits) (hsize : c.size = r.recordSize)
    (hrange : r.InRange i) (hi : values i = none) (hv : c.named v = true) (stack : ℕ → Byte) :
    r.Models c (r.create c m i v stack).1 (Function.update values i (some v)) ∧
      (r.create c m i v stack).2 = true := by
  obtain ⟨content, hcontent, hvalues⟩ := h
  have hnone : content i = none := by
    have hmap := (hvalues i).1
    rw [hi] at hmap
    exact Option.map_eq_none_iff.1 hmap.symm
  have hwritten := hcontent.write hfits hrange hnone (c.assign v stack)
  rw [written_assign hsize] at hwritten
  refine ⟨models_of_represents hvalues ?_ ?_ hwritten, ?_⟩
  · rw [Option.map_some, c.decode_assign]
  · rintro _ ⟨⟩
    exact hv
  · simp only [Region.create, write_eq hrange (hsize ▸ c.initialized_assign v stack), decide_true]

theorem create_agree {stack : ℕ → Byte} :
    AgreeOutside (r.address i) (8 + flashSizeof r.recordSize) m (r.create c m i v stack).1 :=
  write_agree

/-- **A record gets another value**, or is deleted; it may also be a new one. -/
theorem Models.update (h : r.Models c m values) (hfits : r.Fits) (hsize : c.size = r.recordSize)
    (hrange : r.InRange i) (v : V) (array : ℕ → Byte) :
    r.Models c (r.update c m i v array).1 (Function.update values i (c.stored v)) ∧
      (r.update c m i v array).2 = c.named v := by
  unfold Region.update
  by_cases hsame : c.same v (bytesAt m (r.address i + 8)) = true
  · -- what is stored is the value already
    have hi : values i ≠ none := fun hi => c.initialized_of_same hsame
      (hsize ▸ (h.uninitialized_iff hrange).2 hi)
    obtain ⟨old, hold⟩ := Option.ne_none_iff_exists'.1 hi
    have heq : old = v := (h.decode hsize hrange hold).symm.trans (c.decode_of_same hsame)
    subst heq
    have hnamed := h.named hold
    rw [if_pos hsame, Codec.stored, if_pos hnamed, ← hold, Function.update_eq_self]
    exact ⟨h, hnamed.symm⟩
  · obtain ⟨content, hcontent, hvalues⟩ := h
    rw [if_neg hsame]
    by_cases hnamed : c.named v = true
    · rw [if_pos hnamed, Codec.stored, if_pos hnamed]
      have hreplaced := hcontent.replace hfits i array
        (c.assign v (r.element (r.readSector m i array) (i % r.perSector)))
      rw [written_assign hsize] at hreplaced
      refine ⟨models_of_represents hvalues ?_ ?_ hreplaced, hnamed.symm⟩
      · rw [Option.map_some, c.decode_assign]
      · rintro _ ⟨⟩
        exact hnamed
    · rw [if_neg hnamed, Codec.stored, if_neg hnamed]
      have hreplaced := hcontent.replace hfits i array fun _ => 0xFF
      rw [written_erased] at hreplaced
      refine ⟨models_of_represents hvalues rfl ?_ hreplaced, ?_⟩
      · rintro _ ⟨⟩
      · exact (Bool.not_eq_true _ ▸ hnamed).symm

theorem update_agree (hfits : r.Fits) (array : ℕ → Byte) :
    AgreeOutside (r.sectorAddress i) 0x1000 m (r.update c m i v array).1 := by
  unfold Region.update
  split
  · exact .refl m
  · dsimp only
    split
    · exact (writeSector_spec hfits m i _).1
    · exact (writeSector_spec hfits m i _).1

end Region

end Flash

end Lcm
