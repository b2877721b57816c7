import Lcm.Eliot.Devices

/-!
# Reading the list of modules

The response to the request for the list has an object for each module.  The streaming reader
captures its id, its type and its name, in buffers that are too small for some types and names,
which are then not terminated; but nothing that is compared with them is as long.

## Main definitions

* `Describes`, `Lists` : an object about a module, and a response with a list.
* `Module.report` : what is seen of a module.

## Main results

* `reports_eq` : what is read of the list.
-/

namespace Lcm

namespace Eliot

open House Scenes Jsr

/-! ### The list -/

/-- `id` -/
def idKey : List Byte := JsonT.bytesOfString "id"

/-- `deviceType` -/
def typeKey : List Byte := JsonT.bytesOfString "deviceType"

/-- `name` -/
def nameKey : List Byte := JsonT.bytesOfString "name"

/-- An object is about a module: one of its members has the id, one the type and one the name. -/
structure Describes (m : Module) (object : List Member) : Prop where
  plain : ∀ x ∈ object, x.Plain
  id : object.filter (·.key = idKey) = [⟨idKey, m.id.chars⟩]
  deviceType : object.filter (·.key = typeKey) = [⟨typeKey, m.deviceType⟩]
  name : object.filter (·.key = nameKey) = [⟨nameKey, m.name⟩]

/-- A response lists modules; the first string in it is not empty. -/
structure Lists (response : Response) (modules : List Module) : Prop where
  status : response.status = eliotHttpOk ∨ response.status = eliotHttpNoContent
  text : ∃ header objects, IsHeader header ∧ List.Forall₂ Describes modules objects ∧
    (∀ o ∈ objects.head?, ∀ x ∈ o.head?, x.value ≠ []) ∧
      response.buffers.flatten = header ++ arrayText objects

/-- Nothing in the list would have to be escaped, the ids have their length, and no two modules
have the same id. -/
structure Listed (modules : List Module) : Prop where
  plain : ∀ m ∈ modules, Plain m.id.chars ∧ Plain m.deviceType ∧ Plain m.name
  length : ∀ m ∈ modules, m.id.chars.length = eliotDeviceIdSize - 1
  nodup : (modules.map Module.id).Nodup

/-- What `Eliot_SyncDevices` sees of a module. -/
def Module.report (m : Module) : Report := ⟨m.id.chars, m.deviceType.take 16, m.name.take 32⟩

theorem chars_ne_zero {l : List Byte} (hl : 0 ∉ l) {i : ℕ} (hi : i < l.length) :
    chars l i ≠ 0 := by
  have hget : chars l i = l[i] := List.getD_eq_getElem _ _ hi
  rw [hget]
  exact fun hzero => hl (hzero ▸ List.getElem_mem hi)

theorem strcmpEq_chars {l l' : List Byte} (hl : 0 ∉ l) (hl' : 0 ∉ l')
    (hlength : l.length < 2 ^ 32) :
    strcmpEq (chars l) (chars l') = true ↔ l = l' := by
  constructor
  · intro h
    rw [strcmpEq, strncmpEq_iff] at h
    have hsame : ∀ i ≤ l.length, chars l' i = l.getD i 0 := fun i hi =>
      (h i (by omega) fun j hj => chars_ne_zero hl (by omega)).symm
    have hread : takeChars (l.length + l'.length) (chars l') = l :=
      takeChars_eq (Nat.le_add_right _ _) hl hsame
    have hread' : takeChars (l.length + l'.length) (chars l') = l' :=
      takeChars_eq (Nat.le_add_left _ _) hl' fun _ _ => rfl
    exact hread.symm.trans hread'
  · rintro rfl
    rw [strcmpEq, strncmpEq_iff]
    exact fun _ _ _ => rfl

/-- Comparing with a shorter string does not notice that the end has been cut off. -/
theorem take_eq_iff {l s : List Byte} {n : ℕ} (hs : s.length < n) : l.take n = s ↔ l = s := by
  constructor
  · rintro rfl
    rw [List.length_take, min_lt_iff, or_iff_right (Nat.lt_irrefl n)] at hs
    exact (List.take_of_length_le (Nat.le_of_lt hs)).symm
  · rintro rfl
    exact List.take_of_length_le (Nat.le_of_lt hs)

theorem takeChars_chars {s : List Byte} (hs : 0 ∉ s) (n : ℕ) :
    takeChars n (chars s) = s.take n := by
  induction s generalizing n with
  | nil =>
    cases n with
    | zero => rfl
    | succ n => rfl
  | cons c s ih =>
    obtain ⟨hc, hs⟩ := not_or.1 (mt List.mem_cons.2 hs)
    cases n with
    | zero => rfl
    | succ n =>
      rw [takeChars, if_neg (show chars (c :: s) 0 ≠ 0 from Ne.symm hc), List.take_succ_cons]
      exact congrArg (List.cons c) (ih hs n)

theorem takeChars_strncpy {s : List Byte} (hs : 0 ∉ s) (dest : ℕ → Byte) (n : Dword) :
    takeChars n.toNat (strncpy dest (chars s) n) = s.take n.toNat := by
  rw [← takeChars_chars hs]
  refine takeChars_congr fun i hi => ?_
  rw [strncpy, if_pos hi]
  by_cases hlt : i < s.length
  · exact if_pos fun j hj => chars_ne_zero hs (by omega)
  · have hend : chars s i = 0 := List.getD_eq_default _ _ (by omega)
    rw [hend, ite_self]

/-! ### The pairs -/

/-- The pairs of `Eliot_SyncDevices`, whatever they have captured. -/
def IsSyncPairs (pairs : List JsrPair) : Prop :=
  pairs.map (fun pair => (pair.keyStr, pair.valueMaxLength)) =
    [(chars idKey, 37), (chars typeKey, 16), (chars nameKey, 32)]

theorem IsSyncPairs.captureMember {pairs : List JsrPair} (h : IsSyncPairs pairs)
    (keyMaxLength valueMaxLength : Dword) (m : Member) :
    IsSyncPairs (captureMember keyMaxLength valueMaxLength pairs m) := by
  rw [IsSyncPairs, ← h, Jsr.captureMember, List.map_map]
  refine List.map_congr_left fun pair _ => ?_
  rw [Function.comp_apply, capture]
  split
  · rfl
  · rfl

theorem IsSyncPairs.captureObject {pairs : List JsrPair} (h : IsSyncPairs pairs)
    (keyMaxLength valueMaxLength : Dword) (ms : List Member) :
    IsSyncPairs (captureObject keyMaxLength valueMaxLength pairs ms) := by
  induction ms generalizing pairs with
  | nil => exact h
  | cons m ms ih => exact ih (h.captureMember keyMaxLength valueMaxLength m)

/-- The characters of the keys and of the types. -/
theorem texts_eq :
    idKey = [0x69, 0x64] ∧
    typeKey = [0x64, 0x65, 0x76, 0x69, 0x63, 0x65, 0x54, 0x79, 0x70, 0x65] ∧
    nameKey = [0x6E, 0x61, 0x6D, 0x65] ∧
    lc7001Hub = [0x52, 0x46, 0x4C, 0x43, 0x2D, 0x4C, 0x43, 0x4D] ∧
    lc7001Scene = [0x52, 0x46, 0x4C, 0x43, 0x2D, 0x73, 0x63, 0x65, 0x6E, 0x65] ∧
    eliotCloudSwitch = [0x52, 0x46, 0x4C, 0x43, 0x2D, 0x73, 0x77, 0x69, 0x74, 0x63, 0x68] ∧
    eliotCloudDimmer = [0x52, 0x46, 0x4C, 0x43, 0x2D, 0x64, 0x69, 0x6D, 0x6D, 0x65, 0x72] ∧
    eliotCloudFan = [0x52, 0x46, 0x4C, 0x43, 0x2D, 0x66, 0x61, 0x6E] ∧
    eliotCloudShade = [0x52, 0x46, 0x4C, 0x43, 0x2D, 0x73, 0x68, 0x61, 0x64, 0x65] ∧
    eliotCloudShadeGroup = [0x52, 0x46, 0x4C, 0x43, 0x2D, 0x73, 0x68, 0x61, 0x64, 0x65, 0x2D,
      0x67, 0x72, 0x6F, 0x75, 0x70] := by
  decide +kernel

/-- A key of a pair is shorter than the buffer for keys. -/
structure ShortKey (k : List Byte) : Prop where
  noNul : 0 ∉ k
  length : k.length < 15

theorem shortKey_id : ShortKey idKey := by
  simp only [texts_eq]
  exact ⟨by decide, by decide⟩

theorem shortKey_type : ShortKey typeKey := by
  simp only [texts_eq]
  exact ⟨by decide, by decide⟩

theorem shortKey_name : ShortKey nameKey := by
  simp only [texts_eq]
  exact ⟨by decide, by decide⟩

/-- A pair matches its own key, and no other. -/
theorem ShortKey.strcmpEq_iff {k : List Byte} (hk : ShortKey k) {x : Member} (hx : x.Plain) :
    strcmpEq (chars k) (chars (stored 16 x.key)) = true ↔ x.key = k := by
  have hstored : 0 ∉ stored 16 x.key := fun hmem => hx.key.2 (List.mem_of_mem_take hmem)
  have hlength : k.length < 2 ^ 32 := Nat.lt_trans hk.length (by decide)
  rw [strcmpEq_chars hk.noNul hstored hlength, eq_comm]
  exact take_eq_iff hk.length

/-- As many keys match as there are members with one of the three. -/
theorem matchesIn_eq {pairs : List JsrPair} (h : IsSyncPairs pairs) {o : List Member}
    (hplain : ∀ x ∈ o, x.Plain) :
    matchesIn 16 pairs o = BitVec.ofNat 8 (o.countP (·.key = idKey) +
      o.countP (·.key = typeKey) + o.countP (·.key = nameKey)) := by
  induction o with
  | nil => rfl
  | cons x o ih =>
    obtain ⟨hx, hplain⟩ := List.forall_mem_cons.1 hplain
    have hcount : keyCount (chars (stored 16 x.key)) pairs = BitVec.ofNat 8 ((pairs.map fun pair =>
        (pair.keyStr, pair.valueMaxLength)).countP fun k =>
          strcmpEq k.1 (chars (stored 16 x.key))) := by
      rw [keyCount, List.countP_map]
      rfl
    rw [IsSyncPairs] at h
    rw [matchesIn, ih hplain, hcount, h, ← BitVec.ofNat_add]
    simp only [List.countP_cons, List.countP_nil, shortKey_id.strcmpEq_iff hx,
      shortKey_type.strcmpEq_iff hx, shortKey_name.strcmpEq_iff hx, decide_eq_true_eq]
    congr 1
    omega

theorem Describes.matchesIn {pairs : List JsrPair} (h : IsSyncPairs pairs) {m : Module}
    {o : List Member} (ho : Describes m o) : matchesIn 16 pairs o = 3 := by
  rw [matchesIn_eq h ho.plain, List.countP_eq_length_filter, List.countP_eq_length_filter,
    List.countP_eq_length_filter, ho.id, ho.deviceType, ho.name]
  rfl

/-- What a pair captures of the members of an object, one after the other. -/
def capturePair (pair : JsrPair) (x : Member) : JsrPair :=
  capture (chars (stored 16 x.key)) (chars (stored 64 x.value)) 1 pair

theorem captureObject_eq (pairs : List JsrPair) (o : List Member) :
    captureObject 16 64 pairs o = pairs.map fun pair => o.foldl capturePair pair := by
  induction o generalizing pairs with
  | nil => exact (List.map_id' pairs).symm
  | cons x o ih =>
    have hrest := ih (captureMember 16 64 pairs x)
    rw [Jsr.captureMember, List.map_map] at hrest
    exact hrest

/-- A pair captures only the values of its own key. -/
theorem foldl_capturePair {k : List Byte} (hk : ShortKey k) {pair : JsrPair}
    (hpair : pair.keyStr = chars k) {o : List Member} (hplain : ∀ x ∈ o, x.Plain) :
    o.foldl capturePair pair = (o.filter (·.key = k)).foldl capturePair pair := by
  induction o generalizing pair with
  | nil => rfl
  | cons x o ih =>
    obtain ⟨hx, hplain⟩ := List.forall_mem_cons.1 hplain
    by_cases hkey : x.key = k
    · have hfilter : (x :: o).filter (·.key = k) = x :: o.filter (·.key = k) :=
        List.filter_cons_of_pos (decide_eq_true hkey)
      rw [hfilter, List.foldl_cons, List.foldl_cons]
      exact ih ((capture_keyStr _ _ _ _).trans hpair) hplain
    · have hother : capturePair pair x = pair :=
        if_neg fun htrue => hkey ((hk.strcmpEq_iff hx).1 (hpair ▸ htrue))
      have hfilter : (x :: o).filter (·.key = k) = o.filter (·.key = k) :=
        List.filter_cons_of_neg (by simpa using hkey)
      rw [hfilter, List.foldl_cons, hother]
      exact ih hpair hplain

/-- A pair captures the only value of its key. -/
theorem foldl_capturePair_of_filter {k value : List Byte} (hk : ShortKey k) {pair : JsrPair}
    (hpair : pair.keyStr = chars k) {o : List Member} (hplain : ∀ x ∈ o, x.Plain)
    (hfilter : o.filter (·.key = k) = [⟨k, value⟩]) :
    o.foldl capturePair pair = { pair with
      depth := 1
      valueStr := strncpy pair.valueStr (chars (stored 64 value)) pair.valueMaxLength } := by
  have hmem : (⟨k, value⟩ : Member) ∈ o.filter (·.key = k) := by
    rw [hfilter]
    exact List.mem_singleton_self _
  have hx := hplain _ (List.mem_of_mem_filter hmem)
  rw [foldl_capturePair hk hpair hplain, hfilter]
  exact if_pos (hpair ▸ (hk.strcmpEq_iff hx).2 rfl)

theorem Describes.plainModule {m : Module} {o : List Member} (ho : Describes m o) :
    Plain m.id.chars ∧ Plain m.deviceType ∧ Plain m.name := by
  have hvalue : ∀ {k value : List Byte}, o.filter (·.key = k) = [⟨k, value⟩] → Plain value := by
    intro k value hfilter
    have hmem : (⟨k, value⟩ : Member) ∈ o.filter (·.key = k) := by
      rw [hfilter]
      exact List.mem_singleton_self _
    exact (ho.plain _ (List.mem_of_mem_filter hmem)).value
  exact ⟨hvalue ho.id, hvalue ho.deviceType, hvalue ho.name⟩

/-- What the pairs have captured after a module. -/
theorem reportOfPairs_captureObject {pairs : List JsrPair} (h : IsSyncPairs pairs) {m : Module}
    {o : List Member} (ho : Describes m o) :
    reportOfPairs (captureObject 16 64 pairs o) = m.report := by
  obtain ⟨p, q, r, rfl⟩ : ∃ p q r, pairs = [p, q, r] := by
    refine List.length_eq_three.1 ?_
    have hlength := congrArg List.length h
    rwa [List.length_map] at hlength
  simp only [IsSyncPairs, List.map_cons, List.map_nil, List.cons.injEq, Prod.mk.injEq,
    and_true] at h
  obtain ⟨⟨hp, hpMax⟩, ⟨hq, hqMax⟩, hr, hrMax⟩ := h
  obtain ⟨hid, htype, hname⟩ := ho.plainModule
  have hstored : ∀ {s : List Byte}, Plain s → 0 ∉ stored 64 s := fun hs hmem =>
    hs.2 (List.mem_of_mem_take hmem)
  have htake : ∀ (s : List Byte) (n : Dword), n.toNat ≤ 63 →
      (stored 64 s).take n.toNat = s.take n.toNat := by
    intro s n hn
    rw [stored, List.take_take]
    congr 1
    exact Nat.min_eq_left hn
  have hlength : m.id.chars.length ≤ (37 : Dword).toNat := Nat.le_of_lt m.id.fits
  rw [captureObject_eq, List.map_cons, List.map_cons, List.map_cons, List.map_nil,
    foldl_capturePair_of_filter shortKey_id hp ho.plain ho.id,
    foldl_capturePair_of_filter shortKey_type hq ho.plain ho.deviceType,
    foldl_capturePair_of_filter shortKey_name hr ho.plain ho.name, reportOfPairs]
  simp only [hpMax, hqMax, hrMax, takeChars_strncpy (hstored hid),
    takeChars_strncpy (hstored htype), takeChars_strncpy (hstored hname)]
  rw [htake _ 37 (by decide), htake _ 16 (by decide), htake _ 32 (by decide),
    List.take_of_length_le hlength]
  rfl

theorem reportOfPairs_captureObjects {pairs : List JsrPair} (h : IsSyncPairs pairs)
    {modules : List Module} {objects : List (List Member)}
    (hobjects : List.Forall₂ Describes modules objects) :
    (captureObjects 16 64 pairs objects).map reportOfPairs = modules.map Module.report := by
  induction hobjects generalizing pairs with
  | nil => rfl
  | cons ho _ ih =>
    rw [captureObjects, List.map_cons, List.map_cons, ih (h.captureObject 16 64 _),
      reportOfPairs_captureObject h ho]

/-! ### The response -/

/-- The reader of `Eliot_SyncDevices`, behind the header. -/
def syncView (stack : Stack) : View where
  phase := .idle
  keyStr := stack.tempKey
  valueStr := stack.tempValue
  keyMaxLength := 16
  valueMaxLength := 64
  writeIdx := 0
  depth := 0
  matchThreshold := 3
  matchCount := Function.update (fun _ => 0) JSR_MAX_DEPTH 3
  pairs := syncPairs stack

theorem isSyncPairs_syncPairs (stack : Stack) : IsSyncPairs (syncPairs stack) := rfl

theorem syncView_good (stack : Stack) : (syncView stack).Good := by
  refine ⟨?_, rfl, Nat.le_of_ble_eq_true rfl, Nat.le_of_ble_eq_true rfl⟩
  · intro pair hmem
    simp only [syncView, syncPairs, List.mem_cons, List.not_mem_nil, or_false] at hmem
    obtain rfl | rfl | rfl := hmem
    · rfl
    · rfl
    · rfl

theorem exists_describes {modules : List Module} {objects : List (List Member)}
    (h : List.Forall₂ Describes modules objects) : ∀ o ∈ objects, ∃ m, Describes m o := by
  induction h with
  | nil => exact fun o ho => absurd ho List.not_mem_nil
  | cons ho _ ih => exact List.forall_mem_cons.2 ⟨⟨_, ho⟩, ih⟩

/-- **The list is read**, however it is cut into buffers. -/
theorem reports_eq {stack : Stack} {response : Response} {modules : List Module}
    (h : Lists response modules) : reports stack response = modules.map Module.report := by
  obtain ⟨header, objects, hheader, hobjects, hfirst, hbuffers⟩ := h.text
  have hreturns : ∀ o ∈ objects, Returns (syncView stack) o := by
    intro o ho
    obtain ⟨m, hm⟩ := exists_describes hobjects o ho
    refine ⟨?_, hm.plain, ?_⟩
    · rintro rfl
      cases hm.id
    · exact BitVec.le_of_eq (hm.matchesIn (isSyncPairs_syncPairs stack)).symm
  have hread : (readAll (syncEnv stack) response.buffers).value.2.map JsrState.pairs =
      (captureObjects 16 64 (syncPairs stack) objects).map some :=
    readAll_array (v := syncView stack) (n := ⟨0, 0, 0, 0, 0⟩) (syncView_good stack) rfl rfl rfl rfl
      hheader hreturns hfirst hbuffers
  have hcompose : reportOf = (fun o : Option (List JsrPair) =>
      (o.map reportOfPairs).getD ⟨[], [], []⟩) ∘ JsrState.pairs := rfl
  rw [reports, hcompose, ← List.map_map, hread, List.map_map]
  exact reportOfPairs_captureObjects (isSyncPairs_syncPairs stack) hobjects

end Eliot

end Lcm
