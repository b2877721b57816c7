import Lcm.Jansson
import Lcm.RefCount

/-!
# JSON values in memory

The functions of the Jansson library that make, read and free values.  `json_delete` frees a value
whatever its count is; `json_object_get` returns a reference that is not counted;
`json_object_set_new` and the format `o` of `json_pack` take over a reference, also where they fail.
Whether there is enough memory is a parameter of each call.

What the library allocates and frees within one call is left out, and so are the tables of the
objects.

## Main definitions

* `Kind`, `Values` : what a value is, and the memory.
* `Format`, `pack` : values as `json_pack` and `json_loads` build them.
* `jsonLoads`, `jsonObject`, `jsonObjectGet`, `jsonObjectSetNew`, `jsonObjectUpdateMissing`,
  `jsonDelete` : the functions of the library.

## Main results

* `held_pack` : a value that is built takes over its members.
* `held_jsonObjectSetNew`, `held_jsonObjectUpdateMissing`, `held_jsonDelete` : what the variables
  hold after the calls.
-/

namespace Lcm

namespace Jansson

open JsonT (bytesOfString)

/-- What a `json_t` is that is allocated. -/
inductive Kind
  | object
  | array
  | integer (value : BitVec 64)
  | real (text : String)
  | string (value : List Byte)
  deriving DecidableEq

instance instInhabitedKind : Inhabited Kind := ⟨.object⟩

/-- The memory; an element of an array has no key. -/
abbrev Values := Store (Option String) Kind

/-- The members of an object, or the elements of an array. -/
abbrev Members := List (Option String × Ref)

/-! ### Building values -/

/-- A value that is to be built. -/
inductive Format
  /-- `true`, `false` or `null`, which are there for ever. -/
  | constant
  /-- A string or a number. -/
  | value (kind : Kind)
  | array (elements : List Format)
  | object (members : List (String × Format))
  /-- `o` -/
  | taken (r : Ref)

mutual

/-- A value is built, from the inside to the outside. -/
def pack : Format → Values → Ref × Values
  | .constant, s => (.static, s)
  | .value kind, s => (.block s.next, s.new kind [])
  | .array elements, s =>
    let (members, s) := packElements elements s
    (.block s.next, s.new .array members)
  | .object members, s =>
    let (members, s) := packMembers members s
    (.block s.next, s.new .object members)
  | .taken r, s => (r, s)

/-- The elements of an array. -/
def packElements : List Format → Values → Members × Values
  | [], s => ([], s)
  | f :: elements, s =>
    let (r, s) := pack f s
    let (members, s) := packElements elements s
    ((none, r) :: members, s)

/-- The members of an object. -/
def packMembers : List (String × Format) → Values → Members × Values
  | [], s => ([], s)
  | (key, f) :: members, s =>
    let (r, s) := pack f s
    let (members, s) := packMembers members s
    ((some key, r) :: members, s)

end

mutual

/-- The references that are taken over. -/
def Format.takes : Format → Multiset ℕ
  | .constant => 0
  | .value _ => 0
  | .array elements => elementsTake elements
  | .object members => membersTake members
  | .taken r => r.owned

/-- The references that elements take over. -/
def elementsTake : List Format → Multiset ℕ
  | [] => 0
  | f :: elements => f.takes + elementsTake elements

/-- The references that members take over. -/
def membersTake : List (String × Format) → Multiset ℕ
  | [] => 0
  | (_, f) :: members => f.takes + membersTake members

end

mutual

/-- A parsed value. -/
def formatOf : JsonT → Format
  | .null => .constant
  | .true => .constant
  | .false => .constant
  | .integer v => .value (.integer v)
  | .real text => .value (.real text)
  | .string v => .value (.string (bytesOfString v))
  | .array elements => .array (formatsOf elements)
  | .object members => .object (memberFormatsOf members)

/-- The elements of a parsed array. -/
def formatsOf : List JsonT → List Format
  | [] => []
  | json :: elements => formatOf json :: formatsOf elements

/-- The members of a parsed object. -/
def memberFormatsOf : List (String × JsonT) → List (String × Format)
  | [] => []
  | (key, json) :: members => (key, formatOf json) :: memberFormatsOf members

end

/-! ### The functions of the library -/

/-- `json_loads`, for what it finds in the text -/
def jsonLoads (json : Option JsonT) (s : Values) : Option Ref × Values :=
  match json with
  | none => (none, s)
  | some json =>
    let (r, s) := pack (formatOf json) s
    (some r, s)

/-- `json_pack`, without a format `o` -/
def jsonPack (made : Bool) (f : Format) (s : Values) : Option Ref × Values :=
  if made then
    let (r, s) := pack f s
    (some r, s)
  else (none, s)

/-- How `json_pack` ends, with one format `o`. -/
inductive PackResult
  | packed
  /-- It fails before it has got to the `o`. -/
  | failed
  /-- It fails later, and gives up what it has taken over. -/
  | givenUp
  deriving DecidableEq

/-- `json_pack`, with one format `o`, which must not be a null pointer -/
def jsonPackTaking (result : PackResult) (f : Ref → Format) (value : Option Ref) (s : Values) :
    Option Ref × Values :=
  match value with
  | none => (none, s)
  | some value =>
    match result with
    | .packed =>
      let (r, s) := pack (f value) s
      (some r, s)
    | .failed => (none, s)
    | .givenUp => (none, s.release value)

/-- `json_string`, `json_integer` or `json_object` -/
def jsonNew (made : Bool) (kind : Kind) (s : Values) : Option Ref × Values :=
  if made then (some (.block s.next), s.new kind []) else (none, s)

/-- A value is read. -/
def useValue (json : Option Ref) (s : Values) : Values :=
  match json with
  | some (.block x) => s.touch x
  | _ => s

/-- `json_is_object` -/
def isObject (s : Values) (json : Option Ref) : Bool :=
  match json with
  | some (.block x) => (s.cell x).tag = .object
  | _ => false

/-- `json_object_get` -/
def jsonObjectGet (json : Option Ref) (key : String) (s : Values) : Option Ref × Values :=
  match json with
  | some (.block x) =>
    (if (s.cell x).tag = .object then (s.cell x).members.lookup (some key) else none, s.touch x)
  | _ => (none, s)

/-- `json_string_value` -/
def jsonStringValue (json : Option Ref) (s : Values) : Option (List Byte) × Values :=
  match json with
  | some (.block x) =>
    (match (s.cell x).tag with
      | .string v => some v
      | _ => none, s.touch x)
  | _ => (none, s)

/-- The first member with a key gets another value. -/
def replaceMember (key : String) (r : Ref) : Members → Members
  | [] => []
  | m :: members =>
    if m.1 = some key then (m.1, r) :: members else m :: replaceMember key r members

/-- `hashtable_set`; the value that has been there does not refer to the object, so that it does not
matter that its reference is given up before the new one is stored. -/
def hashtableSet (x : ℕ) (key : String) (r : Ref) (s : Values) : Values :=
  match (s.cell x).members.lookup (some key) with
  | some old => (s.setMembers x (replaceMember key r (s.cell x).members)).release old
  | none => s.setMembers x ((s.cell x).members ++ [(some key, r)])

/-- `json_object_set_new` -/
def jsonObjectSetNew (stored : Bool) (json : Option Ref) (key : String) (value : Option Ref)
    (s : Values) : Values :=
  match value with
  | none => s
  | some value =>
    match json with
    | some (.block x) =>
      let s := s.touch x
      if (s.cell x).tag = .object ∧ value ≠ .block x ∧ stored then hashtableSet x key value s
      else s.release value
    | _ => s.release value

/-- The loop of `json_object_update_missing`. -/
def updateMissing (stored : String → Bool) (object : Ref) : Members → Values → Values
  | [], s => s
  | (none, _) :: members, s => updateMissing stored object members s
  | (some key, value) :: members, s =>
    let (found, s) := jsonObjectGet (some object) key s
    let s := if found.isSome then s
      else jsonObjectSetNew (stored key) (some object) key (some value) (s.incref value)
    updateMissing stored object members s

/-- `json_object_update_missing` -/
def jsonObjectUpdateMissing (stored : String → Bool) (object other : Option Ref) (s : Values) :
    Values :=
  match object, other with
  | some object, some (.block y) =>
    let s := (useValue (some object) s).touch y
    if isObject s (some object) && isObject s (some (.block y)) then
      updateMissing stored object (s.cell y).members s
    else s
  | _, _ => s

/-- `json_delete` -/
def jsonDelete (json : Option Ref) (s : Values) : Values :=
  match json with
  | some r => s.delete r
  | none => s

/-- The blocks that a variable holds. -/
def owned (json : Option Ref) : Multiset ℕ := json.elim 0 Ref.owned

variable {s : Values} {loose held : Multiset ℕ} {n x : ℕ}

/-! ### Values that are built -/

section Build

mutual

theorem grows_pack (f : Format) (s : Values) : Grows s (pack f s).2 := by
  match f with
  | .constant => exact .refl s
  | .value kind => exact .new s kind []
  | .array elements => exact (grows_packElements elements s).trans (.new ..)
  | .object members => exact (grows_packMembers members s).trans (.new ..)
  | .taken r => exact .refl s

theorem grows_packElements (elements : List Format) (s : Values) :
    Grows s (packElements elements s).2 := by
  match elements with
  | [] => exact .refl s
  | f :: elements => exact (grows_pack f s).trans (grows_packElements elements _)

theorem grows_packMembers (members : List (String × Format)) (s : Values) :
    Grows s (packMembers members s).2 := by
  match members with
  | [] => exact .refl s
  | (_, f) :: members => exact (grows_pack f s).trans (grows_packMembers members _)

end

/-- One element after the other. -/
theorem held_cons {f : Format} {takes blocks : Multiset ℕ} {s' s'' : Values} {r : Ref}
    (hfirst : ∀ loose, Held s (f.takes + loose) held → Held s' (r.owned + loose) held)
    (hrest : ∀ loose, Held s' (takes + loose) held → Held s'' (blocks + loose) held)
    (h : Held s (f.takes + takes + loose) held) : Held s'' (r.owned + blocks + loose) held := by
  rw [add_assoc] at h
  have h' := hfirst _ h
  rw [add_left_comm] at h'
  have h'' := hrest _ h'
  rwa [add_left_comm, ← add_assoc] at h''

mutual

/-- **A value that is built** takes over its members. -/
theorem held_pack (f : Format) (s : Values) (loose : Multiset ℕ)
    (h : Held s (f.takes + loose) held) :
    Held (pack f s).2 ((pack f s).1.owned + loose) held := by
  match f with
  | .constant => exact h
  | .value kind =>
    rw [Format.takes, zero_add] at h
    exact (h.newLeaf kind).handOver
  | .array elements => exact ((held_packElements elements s loose h).new .array).handOver
  | .object members => exact ((held_packMembers members s loose h).new .object).handOver
  | .taken r => exact h

theorem held_packElements (elements : List Format) (s : Values) (loose : Multiset ℕ)
    (h : Held s (elementsTake elements + loose) held) :
    Held (packElements elements s).2 (blocksOf (packElements elements s).1 + loose) held := by
  match elements with
  | [] => exact h
  | f :: elements =>
    simp only [packElements, blocksOf_cons]
    exact held_cons (fun loose => held_pack f s loose)
      (fun loose => held_packElements elements _ loose) h

theorem held_packMembers (members : List (String × Format)) (s : Values) (loose : Multiset ℕ)
    (h : Held s (membersTake members + loose) held) :
    Held (packMembers members s).2 (blocksOf (packMembers members s).1 + loose) held := by
  match members with
  | [] => exact h
  | (_, f) :: members =>
    simp only [packMembers, blocksOf_cons]
    exact held_cons (fun loose => held_pack f s loose)
      (fun loose => held_packMembers members _ loose) h

end

mutual

theorem takes_formatOf (json : JsonT) : (formatOf json).takes = 0 := by
  match json with
  | .null | .true | .false | .integer _ | .real _ | .string _ => rfl
  | .array elements => exact takes_formatsOf elements
  | .object members => exact takes_memberFormatsOf members

theorem takes_formatsOf (elements : List JsonT) : elementsTake (formatsOf elements) = 0 := by
  match elements with
  | [] => rfl
  | json :: elements =>
    rw [formatsOf, elementsTake, takes_formatOf json, takes_formatsOf elements, zero_add]

theorem takes_memberFormatsOf (members : List (String × JsonT)) :
    membersTake (memberFormatsOf members) = 0 := by
  match members with
  | [] => rfl
  | (_, json) :: members =>
    rw [memberFormatsOf, membersTake, takes_formatOf json, takes_memberFormatsOf members, zero_add]

end

/-- What a parsed value is in memory, or nothing if it is there for ever. -/
def kindOf : JsonT → Option Kind
  | .null => none
  | .true => none
  | .false => none
  | .integer v => some (.integer v)
  | .real text => some (.real text)
  | .string v => some (.string (bytesOfString v))
  | .array _ => some .array
  | .object _ => some .object

/-- The text of a parsed string. -/
def textOf : JsonT → Option (List Byte)
  | .string v => some (bytesOfString v)
  | _ => none

/-- The reference is one to a parsed value. -/
def Shows (s : Values) (json : JsonT) (r : Ref) : Prop :=
  (kindOf json).elim (r = .static) fun kind =>
    ∃ x < s.next, r = .block x ∧ (s.cell x).tag = kind

theorem Shows.grows {s' : Values} {json : JsonT} {r : Ref} (h : Shows s json r)
    (hgrows : Grows s s') : Shows s' json r := by
  unfold Shows at h ⊢
  cases hkind : kindOf json with
  | none => simpa [hkind] using h
  | some kind =>
    rw [hkind] at h
    obtain ⟨x, hx, hr, htag⟩ := h
    exact ⟨x, Nat.lt_of_lt_of_le hx hgrows.next, hr, by rwa [hgrows.cell x hx]⟩

theorem shows_pack (json : JsonT) (s : Values) :
    Shows (pack (formatOf json) s).2 json (pack (formatOf json) s).1 := by
  have hnew {s : Values} {kind : Kind} {members : Members} :
      ∃ x < (s.new kind members).next,
        Ref.block s.next = .block x ∧ ((s.new kind members).cell x).tag = kind :=
    ⟨s.next, Nat.lt_succ_self _, rfl, by rw [Store.cell_new_self]⟩
  cases json with
  | null | «true» | «false» => exact rfl
  | integer | real | string | array | object => exact hnew

/-- **A member of an object** that has been parsed. -/
theorem lookup_packMembers (members : List (String × JsonT)) (key : String) (s : Values) :
    match members.lookup key with
    | none => (packMembers (memberFormatsOf members) s).1.lookup (some key) = none
    | some json => ∃ r, (packMembers (memberFormatsOf members) s).1.lookup (some key) = some r ∧
        Shows (packMembers (memberFormatsOf members) s).2 json r := by
  induction members generalizing s with
  | nil => rfl
  | cons m members ih =>
    obtain ⟨key', json⟩ := m
    simp only [memberFormatsOf, packMembers, List.lookup_cons]
    by_cases hkey : key = key'
    · subst hkey
      simp only [beq_self_eq_true]
      exact ⟨_, rfl, (shows_pack json s).grows (grows_packMembers ..)⟩
    · have hne : (some key == some key') = false := by simpa using hkey
      simp only [beq_false_of_ne hkey, hne]
      exact ih _

/-- **A member of a value** that has been parsed: a reference that is not counted, to a member of
the block. -/
theorem jsonObjectGet_pack (json : JsonT) (key : String) (s : Values) :
    match json.get key with
    | none => (jsonObjectGet (some (pack (formatOf json) s).1) key (pack (formatOf json) s).2).1 =
        none
    | some value => ∃ x r, (pack (formatOf json) s).1 = .block x ∧
        (jsonObjectGet (some (pack (formatOf json) s).1) key (pack (formatOf json) s).2).1 =
          some r ∧ Shows (pack (formatOf json) s).2 value r ∧
        ∀ y, r = .block y → y ∈ (pack (formatOf json) s).2.blocks x := by
  cases json with
  | object members =>
    have hget : (JsonT.object members).get key = members.lookup key := rfl
    have hlookup := lookup_packMembers members key s
    have hcell := Store.cell_new_self (packMembers (memberFormatsOf members) s).2 Kind.object
      (packMembers (memberFormatsOf members) s).1
    rw [hget]
    cases h : members.lookup key with
    | none =>
      rw [h] at hlookup
      simp [formatOf, pack, jsonObjectGet, hcell, hlookup]
    | some value =>
      rw [h] at hlookup
      obtain ⟨r, hr, hshows⟩ := hlookup
      refine ⟨_, r, rfl, ?_, hshows.grows (.new ..), fun y hy => ?_⟩
      · simp [formatOf, pack, jsonObjectGet, hcell, hr]
      · subst hy
        change y ∈ Store.blocks (Store.new _ _ _) _
        rw [Store.blocks, hcell]
        obtain ⟨pre, post, hsplit, -⟩ := List.lookup_eq_some_iff.1 hr
        exact mem_blocksOf.2 ⟨(some key, .block y), by rw [hsplit]; simp, rfl⟩
  | array elements =>
    have hcell := Store.cell_new_self (packElements (formatsOf elements) s).2 Kind.array
      (packElements (formatsOf elements) s).1
    simp [JsonT.get, JsonT.members, formatOf, pack, jsonObjectGet, hcell]
  | null | «true» | «false» => rfl
  | integer | real | string =>
    simp [JsonT.get, JsonT.members, formatOf, pack, jsonObjectGet, Store.cell_new_self]

end Build

/-! ### Reading -/

theorem jsonStringValue_of_shows {json : JsonT} {r : Ref} (h : Shows s json r)
    (hlive : ∀ y, r = .block y → s.freeCount y = 0) :
    jsonStringValue (some r) s = (textOf json, s) := by
  unfold Shows at h
  cases json with
  | null | «true» | «false» =>
    obtain rfl : r = .static := h
    rfl
  | integer | real | string | array | object =>
    obtain ⟨x, -, rfl, htag⟩ := h
    simp [jsonStringValue, htag, textOf, Store.touch_eq_self (hlive x rfl)]

theorem useValue_block (h : s.freeCount x = 0) : useValue (some (.block x)) s = s :=
  Store.touch_eq_self h

theorem useValue_eq_self {json : Option Ref} (h : Held s loose (owned json + held)) :
    useValue json s = s := by
  match json with
  | none | some .static => rfl
  | some (.block x) => exact h.touch_eq_self (Multiset.mem_cons_self x held)

theorem frees_useValue (json : Option Ref) (s : Values) : Frees s (useValue json s) := by
  match json with
  | none | some .static => exact .refl s
  | some (.block x) => exact .touch s x

theorem frees_jsonObjectGet (json : Option Ref) (key : String) (s : Values) :
    Frees s (jsonObjectGet json key s).2 := by
  match json with
  | none | some .static => exact .refl s
  | some (.block x) => exact .touch s x

theorem frees_jsonDelete (json : Option Ref) (s : Values) : Frees s (jsonDelete json s) := by
  cases json with
  | none => exact .refl s
  | some r => exact .delete s r

/-! ### Writing -/

/-- The first member with a key is exchanged. -/
theorem blocksOf_replaceMember {members : Members} {key : String} {old : Ref}
    (h : members.lookup (some key) = some old) (r : Ref) :
    blocksOf (replaceMember key r members) + old.owned = blocksOf members + r.owned := by
  induction members with
  | nil => simp at h
  | cons m members ih =>
    obtain ⟨key', value⟩ := m
    rw [replaceMember]
    by_cases hkey : key' = some key
    · subst hkey
      obtain rfl : value = old := by simpa using h
      rw [if_pos rfl, blocksOf_cons, blocksOf_cons]
      change r.owned + blocksOf members + value.owned = value.owned + blocksOf members + r.owned
      ac_rfl
    · have hne : (some key == key') = false := by simpa using Ne.symm hkey
      rw [List.lookup_cons, hne] at h
      have ih := ih h
      rw [if_neg hkey, blocksOf_cons, blocksOf_cons, add_assoc, ih, add_assoc]

theorem held_hashtableSet {r : Ref} (key : String)
    (h : Held s (r.owned + loose) (x ::ₘ held)) :
    Held (hashtableSet x key r s) loose (x ::ₘ held) := by
  unfold hashtableSet
  split
  next old hold =>
    exact (h.setMembers (blocksOf_replaceMember hold r)).release
  next =>
    have hswap : blocksOf ((s.cell x).members ++ [(some key, r)]) + 0 = s.blocks x + r.owned := by
      simp [Store.blocks]
    simpa using h.setMembers hswap

/-- **`json_object_set_new` takes over the value**, whether it is stored or not. -/
theorem held_jsonObjectSetNew {json : Option Ref} (stored : Bool) (key : String)
    {value : Option Ref} (hheld : ∀ y, json = some (.block y) → y ∈ held)
    (h : Held s (owned value + loose) held) :
    Held (jsonObjectSetNew stored json key value s) loose held := by
  cases value with
  | none => simpa [jsonObjectSetNew, owned] using h
  | some value =>
    match json with
    | none | some .static => exact h.release
    | some (.block y) =>
      have hy := hheld y rfl
      obtain ⟨held', rfl⟩ := Multiset.exists_cons_of_mem hy
      simp only [jsonObjectSetNew, h.touch_eq_self hy]
      split
      · exact held_hashtableSet key h
      · exact h.release

theorem writes_hashtableSet (x : ℕ) (key : String) (r : Ref) (s : Values) :
    Writes x s (hashtableSet x key r s) := by
  unfold hashtableSet
  split
  · exact (Writes.setMembers ..).trans ((Frees.release ..).writes x)
  · exact .setMembers ..

theorem writes_jsonObjectSetNew (stored : Bool) (x : ℕ) (key : String) (value : Option Ref)
    (s : Values) : Writes x s (jsonObjectSetNew stored (some (.block x)) key value s) := by
  cases value with
  | none => exact (Frees.refl s).writes x
  | some value =>
    have htouch : Writes x s (s.touch x) := (Frees.touch s x).writes x
    simp only [jsonObjectSetNew]
    split
    · exact htouch.trans (writes_hashtableSet ..)
    · exact htouch.trans ((Frees.release ..).writes x)

theorem writes_updateMissing (stored : String → Bool) (x : ℕ) (members : Members) (s : Values) :
    Writes x s (updateMissing stored (.block x) members s) := by
  induction members generalizing s with
  | nil => exact (Frees.refl s).writes x
  | cons m members ih =>
    obtain ⟨_ | key, value⟩ := m
    · exact ih s
    · simp only [updateMissing]
      have hget := (frees_jsonObjectGet (some (.block x)) key s).writes x
      split
      · exact hget.trans (ih _)
      · exact (hget.trans (((Frees.incref ..).writes x).trans
          (writes_jsonObjectSetNew ..))).trans (ih _)

/-- By induction on the members that are left: all of them are members of the other object. -/
theorem held_updateMissing {y : ℕ} (stored : String → Bool) {members : Members}
    (hx : x ∈ held) (hy : y ∈ held) (hne : y ≠ x) (h : Held s loose held)
    (hmembers : ∀ m ∈ members, m ∈ (s.cell y).members) :
    Held (updateMissing stored (.block x) members s) loose held := by
  induction members generalizing s with
  | nil => exact h
  | cons m members ih =>
    obtain ⟨_ | key, value⟩ := m
    · exact ih h fun m hm => hmembers m (List.mem_cons_of_mem _ hm)
    · have hget : (jsonObjectGet (some (.block x)) key s).2 = s := h.touch_eq_self hx
      simp only [updateMissing, hget]
      split
      · exact ih h fun m hm => hmembers m (List.mem_cons_of_mem _ hm)
      · have hvalue := hmembers _ (List.mem_cons_self ..)
        have hincref : Held (s.incref value) (value.owned + loose) held :=
          h.incref hy fun z hz => mem_blocksOf.2 ⟨_, hvalue, hz⟩
        refine ih (held_jsonObjectSetNew (stored key) key (fun z hz => ?_) hincref) fun m hm => ?_
        · obtain rfl : x = z := by simpa using hz
          exact hx
        · rw [((Frees.incref s value).writes x |>.trans (writes_jsonObjectSetNew ..)).members y hne]
          exact hmembers m (List.mem_cons_of_mem _ hm)

/-- **`json_object_update_missing` keeps what the variables hold**. -/
theorem held_jsonObjectUpdateMissing (stored : String → Bool) {object other : Option Ref}
    (hobject : ∀ x, object = some (.block x) → x ∈ held)
    (hother : ∀ y, other = some (.block y) → y ∈ held)
    (hne : ∀ x, object = some (.block x) → other ≠ some (.block x))
    (h : Held s loose held) :
    Held (jsonObjectUpdateMissing stored object other s) loose held := by
  match object, other with
  | none, _ | some _, none | some _, some .static => exact h
  | some .static, some (.block y) =>
    simpa [jsonObjectUpdateMissing, useValue, isObject, h.touch_eq_self (hother y rfl)] using h
  | some (.block x), some (.block y) =>
    have hx := hobject x rfl
    have hy := hother y rfl
    have huse : (useValue (some (.block x)) s).touch y = s := by
      rw [useValue_block (h.live hx).2, h.touch_eq_self hy]
    simp only [jsonObjectUpdateMissing, huse]
    split
    · refine held_updateMissing stored hx hy (fun heq => hne x rfl ?_) h fun m hm => hm
      rw [heq]
    · exact h

/-- **`json_delete` frees what a variable holds**. -/
theorem held_jsonDelete {json : Option Ref} (h : Held s loose (owned json + held)) :
    Held (jsonDelete json s) loose held := by
  match json with
  | none | some .static => simpa [jsonDelete, owned, Store.delete] using h
  | some (.block x) => exact h.delete

/-! ### New values -/

/-- A variable refers to a value that is not one of the first `n`. -/
def Fresh (n : ℕ) (json : Option Ref) : Prop := ∀ x, json = some (.block x) → n ≤ x

theorem fresh_none (n : ℕ) : Fresh n none := fun x hx => by simp at hx

theorem held_handOver {json : Option Ref} (h : Held s loose (owned json + held)) :
    Held s (owned json + loose) held := by
  match json with
  | none | some .static => simpa [owned] using h
  | some (.block x) => exact Held.handOver h

/-- A value that `json_pack` builds, and that a variable holds. -/
theorem held_pack_root {f : Format} (hf : ∀ r, f ≠ .taken r)
    (h : Held s (f.takes + loose) held) :
    Held (pack f s).2 loose ((pack f s).1.owned + held) := by
  cases f with
  | constant => simpa [pack, Format.takes] using h
  | value kind =>
    rw [Format.takes, zero_add] at h
    exact h.newLeaf kind
  | array elements => exact (held_packElements elements s loose h).new .array
  | object members => exact (held_packMembers members s loose h).new .object
  | taken r => exact absurd rfl (hf r)

theorem fresh_pack {f : Format} (hf : ∀ r, f ≠ .taken r) (hn : n ≤ s.next) :
    Fresh n (some (pack f s).1) := by
  intro x hx
  cases f with
  | constant => simp [pack] at hx
  | value kind =>
    obtain rfl : s.next = x := by simpa [pack] using hx
    exact hn
  | array elements =>
    obtain rfl : (packElements elements s).2.next = x := by simpa [pack] using hx
    exact Nat.le_trans hn (grows_packElements elements s).next
  | object members =>
    obtain rfl : (packMembers members s).2.next = x := by simpa [pack] using hx
    exact Nat.le_trans hn (grows_packMembers members s).next
  | taken r => exact absurd rfl (hf r)

theorem formatOf_ne_taken (json : JsonT) (r : Ref) : formatOf json ≠ .taken r := by
  cases json <;> simp [formatOf]

theorem held_jsonLoads (json : Option JsonT) (h : Held s loose held) :
    Held (jsonLoads json s).2 loose (owned (jsonLoads json s).1 + held) := by
  cases json with
  | none => simpa [jsonLoads, owned] using h
  | some json =>
    refine held_pack_root (formatOf_ne_taken json) ?_
    rwa [takes_formatOf, zero_add]

/-- A reference to a member of a value, which is not counted. -/
structure Borrowed (s : Values) (json : Ref) (value : JsonT) (r : Ref) : Prop where
  shows : Shows s value r
  live : ∀ y, r = .block y → s.freeCount y = 0
  member : ∃ x < s.next, json = .block x ∧ ∀ y, r = .block y → y ∈ s.blocks x

/-- What `json_object_get` returns for a value that has been parsed. -/
structure Loaded (json : JsonT) (r : Ref) (s : Values) : Prop where
  get_none : ∀ key, json.get key = none → jsonObjectGet (some r) key s = (none, s)
  get_some : ∀ key value, json.get key = some value →
    ∃ q, jsonObjectGet (some r) key s = (some q, s) ∧ Borrowed s r value q

theorem jsonObjectGet_snd {r : Ref} (h : Held s loose (r.owned + held)) (key : String) :
    (jsonObjectGet (some r) key s).2 = s := by
  cases r with
  | static => rfl
  | block x => exact h.touch_eq_self (Multiset.mem_cons_self x held)

/-- **A value that has been parsed** is in memory as it should be. -/
theorem loaded (json : JsonT) (h : Held s loose held) :
    Loaded json (pack (formatOf json) s).1 (pack (formatOf json) s).2 := by
  have hheld : Held (pack (formatOf json) s).2 loose ((pack (formatOf json) s).1.owned + held) :=
    held_pack_root (formatOf_ne_taken json) (by rwa [takes_formatOf, zero_add])
  constructor
  · intro key hget
    have hfst := jsonObjectGet_pack json key s
    rw [hget] at hfst
    exact Prod.ext hfst (jsonObjectGet_snd hheld key)
  · intro key value hget
    have hfst := jsonObjectGet_pack json key s
    rw [hget] at hfst
    obtain ⟨x, q, hx, hq, hshows, hmember⟩ := hfst
    rw [hx] at hheld
    have hlive := hheld.live (Multiset.mem_add.2 (.inl (Multiset.mem_singleton_self x)))
    refine ⟨q, Prod.ext hq ?_, hshows, fun y hy => ?_, x, hlive.1, hx, hmember⟩
    · rw [hx]
      exact jsonObjectGet_snd hheld key
    · have hin := hheld.counted.members x
        (Store.mem_inUse.2 ⟨hlive, Finset.notMem_empty x⟩) y (hmember y hy)
      exact (Store.mem_inUse.1 hin).1.2

theorem Borrowed.useValue_eq_self {json r : Ref} {value : JsonT} (h : Borrowed s json value r) :
    useValue (some r) s = s := by
  cases r with
  | static => rfl
  | block y => exact useValue_block (h.live y rfl)

theorem Borrowed.jsonStringValue {json r : Ref} {value : JsonT} (h : Borrowed s json value r) :
    jsonStringValue (some r) s = (textOf value, s) :=
  jsonStringValue_of_shows h.shows h.live

/-- `true`, `false` and `null` are not freed. -/
theorem Borrowed.jsonDelete_eq_self {json r : Ref} {value : JsonT} (h : Borrowed s json value r)
    (hkind : kindOf value = none) : jsonDelete (some r) s = s := by
  have hshows := h.shows
  rw [Shows, hkind] at hshows
  obtain rfl : r = .static := hshows
  rfl

/-- **A member that has been freed** is freed again together with the value that it belongs to. -/
theorem Borrowed.fault {json r : Ref} {value : JsonT} (h : Borrowed s json value r)
    (hkind : kindOf value ≠ none) {s' : Values}
    (honward : Onward s.next (jsonDelete (some r) s) s') :
    (jsonDelete (some json) s').fault = true := by
  have hshows := h.shows
  obtain ⟨kind, hkind⟩ := Option.ne_none_iff_exists'.1 hkind
  rw [Shows, hkind] at hshows
  obtain ⟨y, -, rfl, -⟩ := hshows
  obtain ⟨x, hx, rfl, hmember⟩ := h.member
  have hfrees := frees_jsonDelete (some (.block y)) s
  have hblocks : s'.blocks x = s.blocks x := by
    rw [Store.blocks, honward.members x hx, hfrees.members, Store.blocks]
  have hfreed : s'.freeCount y ≠ 0 := Nat.ne_of_gt
    (Nat.lt_of_lt_of_le (Nat.pos_of_ne_zero (freeCount_delete_self s y)) (honward.freeCount y))
  have hnext : 0 < s'.next :=
    Nat.lt_of_lt_of_le (Nat.zero_lt_of_lt hx) (hfrees.next ▸ honward.next)
  exact fault_delete_of_member (hblocks ▸ hmember y rfl) hfreed hnext

theorem held_jsonPack (made : Bool) {f : Format} (hf : ∀ r, f ≠ .taken r) (htakes : f.takes = 0)
    (h : Held s loose held) :
    Held (jsonPack made f s).2 loose (owned (jsonPack made f s).1 + held) := by
  cases made with
  | false => simpa [jsonPack, owned] using h
  | true =>
    refine held_pack_root hf ?_
    rwa [htakes, zero_add]

theorem grows_jsonPack (made : Bool) (f : Format) (s : Values) : Grows s (jsonPack made f s).2 := by
  cases made with
  | false => exact .refl s
  | true => exact grows_pack ..

theorem fresh_jsonPack (made : Bool) {f : Format} (hf : ∀ r, f ≠ .taken r) (hn : n ≤ s.next) :
    Fresh n (jsonPack made f s).1 := by
  cases made with
  | false => exact fresh_none n
  | true => exact fresh_pack hf hn

theorem jsonPackTaking_failed {result : PackResult} {value : Option Ref}
    (h : value.isSome = true → result = .failed) (f : Ref → Format) (s : Values) :
    jsonPackTaking result f value s = (none, s) := by
  cases value with
  | none => rfl
  | some r =>
    obtain rfl := h rfl
    rfl

/-- **The format `o` takes over the value**, unless `json_pack` does not get there. -/
theorem held_jsonPackTaking {result : PackResult} (hresult : result ≠ .failed) {f : Ref → Format}
    {r : Ref} (hf : ∀ q, f r ≠ .taken q) (htakes : (f r).takes = r.owned)
    (h : Held s loose (owned (some r) + held)) :
    Held (jsonPackTaking result f (some r) s).2 loose
      (owned (jsonPackTaking result f (some r) s).1 + held) := by
  have htaken := held_handOver h
  cases result with
  | packed =>
    refine held_pack_root hf ?_
    rwa [htakes]
  | failed => exact absurd rfl hresult
  | givenUp =>
    have hreleased := htaken.release
    rwa [← zero_add held] at hreleased

theorem onward_jsonPackTaking (result : PackResult) (f : Ref → Format) (value : Option Ref)
    (hn : n ≤ s.next) : Onward n s (jsonPackTaking result f value s).2 := by
  match value, result with
  | none, _ | some r, .failed => exact .refl n s
  | some r, .packed => exact .of_grows (grows_pack ..) hn
  | some r, .givenUp => exact (Frees.release s r).onward n

theorem held_jsonNew (made : Bool) (kind : Kind) (h : Held s loose held) :
    Held (jsonNew made kind s).2 loose (owned (jsonNew made kind s).1 + held) := by
  cases made with
  | false => simpa [jsonNew, owned] using h
  | true => exact h.newLeaf kind

theorem grows_jsonNew (made : Bool) (kind : Kind) (s : Values) :
    Grows s (jsonNew made kind s).2 := by
  cases made with
  | false => exact .refl s
  | true => exact .new s kind []

theorem fresh_jsonNew (made : Bool) (kind : Kind) (hn : n ≤ s.next) :
    Fresh n (jsonNew made kind s).1 := by
  cases made with
  | false => exact fresh_none n
  | true =>
    intro x hx
    obtain rfl : s.next = x := by simpa [jsonNew] using hx
    exact hn

theorem onward_jsonObjectSetNew (stored : Bool) {json : Option Ref} (hjson : Fresh n json)
    (key : String) (value : Option Ref) (s : Values) :
    Onward n s (jsonObjectSetNew stored json key value s) := by
  match json, value with
  | _, none => exact .refl n s
  | none, some value | some .static, some value => exact (Frees.release s value).onward n
  | some (.block x), some value =>
    exact .of_writes (writes_jsonObjectSetNew stored x key _ s) (hjson x rfl)

theorem onward_jsonObjectUpdateMissing (stored : String → Bool) {object : Option Ref}
    (hobject : Fresh n object) (other : Option Ref) (s : Values) :
    Onward n s (jsonObjectUpdateMissing stored object other s) := by
  match object, other with
  | none, _ | some _, none | some _, some .static => exact .refl n s
  | some .static, some (.block y) =>
    simpa [jsonObjectUpdateMissing, useValue, isObject] using (Frees.touch s y).onward n
  | some (.block x), some (.block y) =>
    have huse := ((frees_useValue (some (.block x)) s).trans (.touch _ y)).onward n
    simp only [jsonObjectUpdateMissing]
    split
    · exact huse.trans (.of_writes (writes_updateMissing ..) (hobject x rfl))
    · exact huse

/-- A new value is put into an object. -/
theorem held_setNew {json : Option Ref} (made stored : Bool) (kind : Kind) (key : String)
    (hheld : ∀ y, json = some (.block y) → y ∈ held) (h : Held s loose held) :
    Held (jsonObjectSetNew stored json key (jsonNew made kind s).1 (jsonNew made kind s).2) loose
      held :=
  held_jsonObjectSetNew stored key hheld (held_handOver (held_jsonNew made kind h))

theorem onward_setNew {json : Option Ref} (made stored : Bool) (kind : Kind) (key : String)
    (hjson : Fresh n json) (hn : n ≤ s.next) :
    Onward n s
      (jsonObjectSetNew stored json key (jsonNew made kind s).1 (jsonNew made kind s).2) :=
  (Onward.of_grows (grows_jsonNew made kind s) hn).trans (onward_jsonObjectSetNew _ hjson ..)

end Jansson

end Lcm
