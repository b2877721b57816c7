import Lcm.House.SettingPass

/-!
# The location of the house

The property `Location` has a latitude and a longitude, objects with the keys `Deg`, `Min` and
`Sec`.  `ValidateLocationProperty` keeps each integer in a variable of 16 or 8 bits before it tests
the range.

## Main definitions

* `validateLocationProperty`, `handleLocation` : the functions of the source.
* `HasFields`, `IsLocation` : the objects with precisely the three keys, and those in range.
* `Validates` : the locations are accepted and stored, and nothing else is accepted.

## Main results

* `validateLocationProperty_ok_iff` : what is accepted.
* `stores_of_ok` : what an accepted property leaves.
* `validates_iff` : the values that are validated as they should be.
-/

namespace Lcm

namespace System

namespace Location

open House (DistinctKeys elim_lookup_cons lookup_eq_none lookup_eq_some_iff)
open Services (Error)

/-! ### The functions -/

/-- `locationDMS_t`, and the variables of `ValidateLocationProperty` -/
structure LocationDMS where
  /-- `degrees` -/
  degrees : Word
  /-- `minutes` -/
  minutes : Byte
  /-- `seconds` -/
  seconds : Byte
  deriving DecidableEq

/-- The values that mark a missing key. -/
def unset : LocationDMS := ⟨181, 61, 61⟩

/-- The largest number of degrees. -/
def maxDegrees (isLatitude : Bool) : ℤ := if isLatitude then 90 else 180

/-- A property that is kept in a byte and has to be below 60. -/
def sixtiethProperty (notAnInteger outOfRange : Error) (set : Byte → LocationDMS)
    (locationValueObject : JsonT) : Except Error LocationDMS :=
  if !locationValueObject.isInteger then .error notAnInteger
  else if locationValueObject.integerValue.setWidth 8 > 59 then .error outOfRange
  else .ok (set (locationValueObject.integerValue.setWidth 8))

/-- One round of the loop of `ValidateLocationProperty`. -/
def locationProperty (isLatitude : Bool) (dms : LocationDMS) (property : String × JsonT) :
    Except Error LocationDMS :=
  let (locationKeyPtr, locationValueObject) := property
  if locationKeyPtr = "Deg" then
    if !locationValueObject.isInteger then .error ⟨"PropertyList, Deg must be an integer", 2052⟩
    else
      let degrees := locationValueObject.integerValue.setWidth 16
      if degrees.toInt < -maxDegrees isLatitude ∨ degrees.toInt > maxDegrees isLatitude then
        .error ⟨"PropertyList, Deg is out of range", 2051⟩
      else .ok { dms with degrees := degrees }
  else if locationKeyPtr = "Min" then
    sixtiethProperty ⟨"PropertyList, Min must be an integer", 2059⟩
      ⟨"PropertyList, Min is out of range", 2058⟩ (fun minutes => { dms with minutes := minutes })
      locationValueObject
  else if locationKeyPtr = "Sec" then
    sixtiethProperty ⟨"PropertyList, Sec must be an integer", 2070⟩
      ⟨"PropertyList, Sec is out of range", 2069⟩ (fun seconds => { dms with seconds := seconds })
      locationValueObject
  else .error ⟨"PropertyList, Unknown Property not handled", 2071⟩

/-- `ValidateLocationProperty` -/
def validateLocationProperty (isLatitude : Bool) (valueObject : JsonT) : Except Error Unit := do
  if !valueObject.isObject then .error ⟨"PropertyList, Location must be an object.", 2055⟩
  else
    let dms ← valueObject.members.foldlM (locationProperty isLatitude) unset
    if dms.degrees = 181 ∨ dms.minutes = 61 ∨ dms.seconds = 61 then
      .error ⟨"PropertyList, Not all location objects were set", 2062⟩
    else .ok ()

/-- `json_integer_value` of `json_object_get` -/
def integerOf (json : JsonT) (key : String) : BitVec 64 := (json.get key).elim 0 JsonT.integerValue

/-- The fields of a location that has been validated. -/
def readLocation (locationValueObject : JsonT) : LocationDMS where
  degrees := (integerOf locationValueObject "Deg").setWidth 16
  minutes := (integerOf locationValueObject "Min").setWidth 8
  seconds := (integerOf locationValueObject "Sec").setWidth 8

/-- The location in `systemProperties`. -/
structure Properties where
  /-- `latitude` -/
  latitude : LocationDMS
  /-- `longitude` -/
  longitude : LocationDMS
  /-- `gotLatOrLong`: the sun times will be adjusted. -/
  gotLatOrLong : Bool

/-- The loop over the property `Location`, which ends with the first error. -/
def locationLoop (setFlag : Bool) : List (String × JsonT) → Properties → Option Error × Properties
  | [], p => (none, p)
  | (locationKeyPtr, locationValueObject) :: members, p =>
    if locationKeyPtr = "Lat" then
      match validateLocationProperty true locationValueObject with
      | .error e => (some e, p)
      | .ok () =>
        locationLoop setFlag members
          (if setFlag then
            { p with latitude := readLocation locationValueObject, gotLatOrLong := true }
          else p)
    else if locationKeyPtr = "Long" then
      match validateLocationProperty false locationValueObject with
      | .error e => (some e, p)
      | .ok () =>
        locationLoop setFlag members
          (if setFlag then
            { p with longitude := readLocation locationValueObject, gotLatOrLong := true }
          else p)
    else (some ⟨"PropertyList, Location Property not handled.", 2056⟩, p)

/-- The branch `Location` of `HandleIndividualSystemProperty`. -/
def handleLocation (setFlag : Bool) (valueObject : JsonT) (p : Properties) :
    Option Error × Properties :=
  if !valueObject.isObject then (some ⟨"PropertyList, Location must be an object.", 2055⟩, p)
  else locationLoop setFlag valueObject.members p

/-! ### What should be accepted -/

/-- A value as it comes from the JSON library: the keys of an object are different ones. -/
structure LocationValue where
  /-- The value. -/
  json : JsonT
  /-- Its keys are different ones. -/
  distinct : DistinctKeys json.members

/-- An object with precisely the keys `Deg`, `Min` and `Sec`, in any order, and integers with the
given properties. -/
structure HasFields (deg min sec : BitVec 64 → Prop) (value : JsonT) : Prop where
  /-- It is an object. -/
  object : value.isObject = true
  /-- Its keys. -/
  keys : (value.members.map Prod.fst).Perm ["Deg", "Min", "Sec"]
  /-- Its degrees. -/
  deg : ∃ d, value.get "Deg" = some (.integer d) ∧ deg d
  /-- Its minutes. -/
  min : ∃ m, value.get "Min" = some (.integer m) ∧ min m
  /-- Its seconds. -/
  sec : ∃ s, value.get "Sec" = some (.integer s) ∧ sec s

/-- A number of degrees. -/
def DegreesInRange (isLatitude : Bool) (x : ℤ) : Prop :=
  -maxDegrees isLatitude ≤ x ∧ x ≤ maxDegrees isLatitude
deriving Decidable

/-- A number of minutes or seconds. -/
def SixtiethInRange (x : ℤ) : Prop := 0 ≤ x ∧ x ≤ 59
deriving Decidable

/-- **A location**: all numbers are in range. -/
def IsLocation (isLatitude : Bool) : JsonT → Prop :=
  HasFields (fun d => DegreesInRange isLatitude d.toInt) (fun m => SixtiethInRange m.toInt)
    fun s => SixtiethInRange s.toInt

/-- All numbers are in range as they are kept. -/
def LooksLikeLocation (isLatitude : Bool) : JsonT → Prop :=
  HasFields (fun d => DegreesInRange isLatitude (d.setWidth 16).toInt)
    (fun m => SixtiethInRange (m.setWidth 8).toNat) fun s => SixtiethInRange (s.setWidth 8).toNat

/-- The key of the latitude or the longitude. -/
def locationKey (isLatitude : Bool) : String := if isLatitude then "Lat" else "Long"

/-- The latitude or the longitude. -/
def Properties.dms (p : Properties) (isLatitude : Bool) : LocationDMS :=
  if isLatitude then p.latitude else p.longitude

/-- What is stored are the integers of a value. -/
structure Stored (value : JsonT) (dms : LocationDMS) : Prop where
  /-- The degrees. -/
  degrees : dms.degrees.toInt = (integerOf value "Deg").toInt
  /-- The minutes. -/
  minutes : (dms.minutes.toNat : ℤ) = (integerOf value "Min").toInt
  /-- The seconds. -/
  seconds : (dms.seconds.toNat : ℤ) = (integerOf value "Sec").toInt

/-- **Locations and nothing else are accepted**, and what has been set is what was given. -/
structure Validates (isLatitude : Bool) (value : JsonT) : Prop where
  /-- What is accepted is a location. -/
  accepts : validateLocationProperty isLatitude value = .ok () ↔ IsLocation isLatitude value
  /-- After a property has been set with it, it is stored. -/
  stores : ∀ members p, DistinctKeys members → (locationKey isLatitude, value) ∈ members →
    (handleLocation true (.object members) p).1 = none →
    Stored value ((handleLocation true (.object members) p).2.dms isLatitude)

/-! ### The loop over the fields -/

variable {isLatitude : Bool} {dms dms' : LocationDMS} {members : List (String × JsonT)}

theorem isInteger_iff {json : JsonT} : json.isInteger = true ↔ ∃ x, json = .integer x := by
  cases json <;> simp [JsonT.isInteger]

theorem not_isInteger_integer (x : BitVec 64) : ¬ (!(JsonT.integer x).isInteger) = true :=
  Bool.false_ne_true

theorem sixtiethInRange_toNat {x : Byte} : SixtiethInRange x.toNat ↔ ¬ x > 59 := by
  have hlimit : (59 : Byte).toNat = 59 := rfl
  rw [SixtiethInRange, gt_iff_lt, BitVec.lt_def, hlimit]
  omega

/-- A property is accepted. -/
inductive Accepts (isLatitude : Bool) : String × JsonT → Prop
  | deg (d : BitVec 64) (h : DegreesInRange isLatitude (d.setWidth 16).toInt) :
    Accepts isLatitude ("Deg", .integer d)
  | min (m : BitVec 64) (h : SixtiethInRange (m.setWidth 8).toNat) :
    Accepts isLatitude ("Min", .integer m)
  | sec (s : BitVec 64) (h : SixtiethInRange (s.setWidth 8).toNat) :
    Accepts isLatitude ("Sec", .integer s)

/-- The value of an accepted key. -/
theorem Accepts.value {key : String} {json : JsonT} (h : Accepts isLatitude (key, json)) :
    ∃ x, json = .integer x ∧ (key = "Deg" → DegreesInRange isLatitude (x.setWidth 16).toInt) ∧
      (key ≠ "Deg" → SixtiethInRange (x.setWidth 8).toNat) := by
  cases h with
  | deg d hd => exact ⟨d, rfl, fun _ => hd, fun hne => absurd rfl hne⟩
  | min m hm => exact ⟨m, rfl, fun heq => absurd heq (by decide), fun _ => hm⟩
  | sec s hs => exact ⟨s, rfl, fun heq => absurd heq (by decide), fun _ => hs⟩

/-- What a property makes of the fields. -/
def assign (dms : LocationDMS) (property : String × JsonT) : LocationDMS where
  degrees := House.fieldAfter "Deg" (fun v => v.integerValue.setWidth 16) dms.degrees property
  minutes := House.fieldAfter "Min" (fun v => v.integerValue.setWidth 8) dms.minutes property
  seconds := House.fieldAfter "Sec" (fun v => v.integerValue.setWidth 8) dms.seconds property

theorem sixtiethProperty_ok_iff {notAnInteger outOfRange : Error} {set : Byte → LocationDMS}
    {json : JsonT} : sixtiethProperty notAnInteger outOfRange set json = .ok dms' ↔
      ∃ x, json = .integer x ∧ SixtiethInRange (x.setWidth 8).toNat ∧ dms' = set (x.setWidth 8) := by
  rw [sixtiethProperty]
  constructor
  · intro h
    split at h
    · cases h
    · rename_i hinteger
      obtain ⟨x, rfl⟩ := isInteger_iff.1 (by simpa using hinteger)
      split at h
      · cases h
      · rename_i hrange
        cases h
        exact ⟨x, rfl, sixtiethInRange_toNat.2 hrange, rfl⟩
  · rintro ⟨x, rfl, hx, rfl⟩
    rw [if_neg (not_isInteger_integer x)]
    exact if_neg (sixtiethInRange_toNat.1 hx)

theorem degreesInRange_iff {x : ℤ} : DegreesInRange isLatitude x ↔
    ¬ (x < -maxDegrees isLatitude ∨ x > maxDegrees isLatitude) := by
  rw [DegreesInRange]
  omega

/-- **A round** checks its property, and assigns it. -/
theorem locationProperty_ok_iff {property : String × JsonT} :
    locationProperty isLatitude dms property = .ok dms' ↔
      Accepts isLatitude property ∧ dms' = assign dms property := by
  obtain ⟨key, json⟩ := property
  rw [locationProperty]
  constructor
  · intro h
    dsimp only at h
    split_ifs at h with hdeg hinteger hrange hmin hsec
    · obtain ⟨d, rfl⟩ := isInteger_iff.1 (by simpa using hinteger)
      cases h
      subst hdeg
      exact ⟨.deg d (degreesInRange_iff.2 hrange), rfl⟩
    · obtain ⟨m, rfl, hm, rfl⟩ := sixtiethProperty_ok_iff.1 h
      subst hmin
      exact ⟨.min m hm, rfl⟩
    · obtain ⟨x, rfl, hx, rfl⟩ := sixtiethProperty_ok_iff.1 h
      subst hsec
      exact ⟨.sec x hx, rfl⟩
  · rintro ⟨haccepts, rfl⟩
    cases haccepts with
    | deg d hd =>
      rw [if_pos rfl, if_neg (not_isInteger_integer d)]
      exact if_neg (degreesInRange_iff.1 hd)
    | min m hm =>
      rw [if_neg (by decide), if_pos rfl]
      exact sixtiethProperty_ok_iff.2 ⟨m, rfl, hm, rfl⟩
    | sec x hx =>
      rw [if_neg (by decide), if_neg (by decide), if_pos rfl]
      exact sixtiethProperty_ok_iff.2 ⟨x, rfl, hx, rfl⟩

/-- The fields after the loop. -/
theorem foldl_assign (hdistinct : DistinctKeys members) (dms : LocationDMS) :
    members.foldl assign dms =
      { degrees := (members.lookup "Deg").elim dms.degrees fun v => v.integerValue.setWidth 16
        minutes := (members.lookup "Min").elim dms.minutes fun v => v.integerValue.setWidth 8
        seconds := (members.lookup "Sec").elim dms.seconds fun v => v.integerValue.setWidth 8 } := by
  induction members generalizing dms with
  | nil => rfl
  | cons a members ih =>
    have hfield {α : Type} (key : String) (read : JsonT → α) (field : α) :
        House.fieldAfter key read field a = ([a].lookup key).elim field read := by
      rw [House.fieldAfter, List.lookup_cons]
      by_cases hkey : a.1 = key
      · rw [if_pos hkey, beq_iff_eq.2 hkey.symm]
        rfl
      · rw [if_neg hkey, beq_eq_false_iff_ne.2 (Ne.symm hkey)]
        rfl
    rw [List.foldl_cons, ih hdistinct.tail, elim_lookup_cons hdistinct, elim_lookup_cons hdistinct,
      elim_lookup_cons hdistinct, ← hfield, ← hfield, ← hfield]
    rfl

/-! ### What is accepted -/

theorem ne_unset_degrees {x : Word} (h : DegreesInRange isLatitude x.toInt) : x ≠ 181 := by
  rintro rfl
  have hle : (181 : ℤ) ≤ maxDegrees isLatitude := h.2
  revert hle
  cases isLatitude <;> decide

theorem ne_unset_sixtieth {x : Byte} (h : SixtiethInRange x.toNat) : x ≠ 61 := by
  rintro rfl
  exact absurd h.2 (by decide)

theorem lookup_of_accepts {key : String} {json : JsonT} (hdistinct : DistinctKeys members)
    (hall : ∀ a ∈ members, Accepts isLatitude a) (h : members.lookup key = some json) :
    Accepts isLatitude (key, json) := hall _ ((lookup_eq_some_iff hdistinct).1 h)

/-- The keys of an object whose properties are accepted, with none missing. -/
theorem keys_of_accepts (hdistinct : DistinctKeys members)
    (hall : ∀ a ∈ members, Accepts isLatitude a)
    (hset : ∀ key ∈ ["Deg", "Min", "Sec"], ∃ json, members.lookup key = some json) :
    (members.map Prod.fst).Perm ["Deg", "Min", "Sec"] := by
  refine (List.perm_ext_iff_of_nodup hdistinct (by decide)).2 fun key => ⟨fun hkey => ?_, ?_⟩
  · obtain ⟨a, ha, rfl⟩ := List.mem_map.1 hkey
    cases hall a ha <;> simp
  · intro hkey
    obtain ⟨json, hjson⟩ := hset key hkey
    exact List.mem_map.2 ⟨(key, json), (lookup_eq_some_iff hdistinct).1 hjson, rfl⟩

/-- All properties of a location that looks like one are accepted. -/
theorem accepts_of_hasFields (hdistinct : DistinctKeys members)
    (h : LooksLikeLocation isLatitude (.object members)) :
    ∀ a ∈ members, Accepts isLatitude a := by
  rintro ⟨key, json⟩ ha
  have hlookup := (lookup_eq_some_iff hdistinct).2 ha
  have hkey : key ∈ ["Deg", "Min", "Sec"] := h.keys.mem_iff.1 (List.mem_map_of_mem ha)
  simp only [List.mem_cons, List.not_mem_nil, or_false] at hkey
  obtain rfl | rfl | rfl := hkey
  · obtain ⟨d, hget, hd⟩ := h.deg
    cases hlookup.symm.trans hget
    exact .deg d hd
  · obtain ⟨m, hget, hm⟩ := h.min
    cases hlookup.symm.trans hget
    exact .min m hm
  · obtain ⟨x, hget, hx⟩ := h.sec
    cases hlookup.symm.trans hget
    exact .sec x hx

/-- **The loop over the fields** checks them, and assigns them. -/
theorem locationProperties_ok_iff : members.foldlM (locationProperty isLatitude) dms = .ok dms' ↔
    (∀ a ∈ members, Accepts isLatitude a) ∧ dms' = members.foldl assign dms :=
  foldlM_ok_iff (P := Accepts isLatitude) (g := assign) fun _ _ _ => locationProperty_ok_iff

/-- The fields of a location that looks like one are what it leaves in the variables. -/
theorem foldl_assign_of_hasFields (hdistinct : DistinctKeys members)
    (h : LooksLikeLocation isLatitude (.object members)) :
    ∃ d m s : BitVec 64, DegreesInRange isLatitude (d.setWidth 16).toInt ∧
      SixtiethInRange (m.setWidth 8).toNat ∧ SixtiethInRange (s.setWidth 8).toNat ∧
      members.foldl assign unset = ⟨d.setWidth 16, m.setWidth 8, s.setWidth 8⟩ := by
  obtain ⟨d, hdeg, hd⟩ := h.deg
  obtain ⟨m, hmin, hm⟩ := h.min
  obtain ⟨s, hsec, hs⟩ := h.sec
  have hdeg : members.lookup "Deg" = some (.integer d) := hdeg
  have hmin : members.lookup "Min" = some (.integer m) := hmin
  have hsec : members.lookup "Sec" = some (.integer s) := hsec
  refine ⟨d, m, s, hd, hm, hs, ?_⟩
  rw [foldl_assign hdistinct, hdeg, hmin, hsec]
  rfl

/-- An object whose fields have been accepted, with none missing, looks like a location. -/
theorem looksLikeLocation_of_accepts (hdistinct : DistinctKeys members)
    (hall : ∀ a ∈ members, Accepts isLatitude a)
    (hset : ∀ key ∈ ["Deg", "Min", "Sec"], ∃ json, members.lookup key = some json) :
    LooksLikeLocation isLatitude (.object members) := by
  have haccepts (key : String) (hkey : key ∈ ["Deg", "Min", "Sec"]) :
      ∃ json, members.lookup key = some json ∧ Accepts isLatitude (key, json) := by
    obtain ⟨json, hjson⟩ := hset key hkey
    exact ⟨json, hjson, lookup_of_accepts hdistinct hall hjson⟩
  refine ⟨rfl, keys_of_accepts hdistinct hall hset, ?_, ?_, ?_⟩
  · obtain ⟨json, hjson, haccept⟩ := haccepts "Deg" (by simp)
    obtain ⟨d, rfl, hd, -⟩ := haccept.value
    exact ⟨d, hjson, hd rfl⟩
  · obtain ⟨json, hjson, haccept⟩ := haccepts "Min" (by simp)
    obtain ⟨m, rfl, -, hm⟩ := haccept.value
    exact ⟨m, hjson, hm (by decide)⟩
  · obtain ⟨json, hjson, haccept⟩ := haccepts "Sec" (by simp)
    obtain ⟨s, rfl, -, hs⟩ := haccept.value
    exact ⟨s, hjson, hs (by decide)⟩

/-- A key that marks its variable as set is there. -/
theorem lookup_of_set {members : List (String × JsonT)} {key : String} {α : Type*} {x : α}
    {f : JsonT → α} (h : ¬ (members.lookup key).elim x f = x) :
    ∃ json, members.lookup key = some json := by
  cases hlookup : members.lookup key with
  | none =>
    rw [hlookup] at h
    exact absurd rfl h
  | some json => exact ⟨json, rfl⟩

/-- **What is accepted** are the objects whose numbers are in range as they are kept. -/
theorem validateLocationProperty_ok_iff (value : LocationValue) :
    validateLocationProperty isLatitude value.json = .ok () ↔
      LooksLikeLocation isLatitude value.json := by
  obtain ⟨json, hdistinct⟩ := value
  show validateLocationProperty isLatitude json = .ok () ↔ LooksLikeLocation isLatitude json
  rw [validateLocationProperty]
  by_cases hobject : json.isObject = true
  · obtain ⟨members, rfl⟩ : ∃ members, json = .object members := by
      cases json with
      | object members => exact ⟨members, rfl⟩
      | _ => cases hobject
    have hassigned := foldl_assign hdistinct unset
    rw [if_neg (show ¬ (!(JsonT.object members).isObject) = true from Bool.false_ne_true),
      bind_eq_ok]
    constructor
    · rintro ⟨dms, hdms, hok⟩
      obtain ⟨hall, rfl⟩ := locationProperties_ok_iff.1 hdms
      split at hok
      · cases hok
      · rename_i hset
        rw [not_or, not_or, hassigned] at hset
        obtain ⟨hdeg, hmin, hsec⟩ := hset
        refine looksLikeLocation_of_accepts hdistinct hall fun key hkey => ?_
        simp only [List.mem_cons, List.not_mem_nil, or_false] at hkey
        obtain rfl | rfl | rfl := hkey
        · exact lookup_of_set hdeg
        · exact lookup_of_set hmin
        · exact lookup_of_set hsec
    · intro h
      obtain ⟨d, m, s, hd, hm, hs, hfields⟩ := foldl_assign_of_hasFields hdistinct h
      refine ⟨(JsonT.object members).members.foldl assign unset,
        locationProperties_ok_iff.2 ⟨accepts_of_hasFields hdistinct h, rfl⟩, if_neg ?_⟩
      rw [hfields, not_or, not_or]
      exact ⟨ne_unset_degrees hd, ne_unset_sixtieth hm, ne_unset_sixtieth hs⟩
  · have hnot : (!json.isObject) = true := by simpa using hobject
    rw [if_pos hnot]
    constructor
    · intro h
      cases h
    · intro h
      exact absurd h.object hobject

/-! ### What is stored -/

variable {value : JsonT} {p : Properties}

/-- A location that is set. -/
def Properties.setDms (p : Properties) (isLatitude : Bool) (dms : LocationDMS) : Properties :=
  if isLatitude then { p with latitude := dms, gotLatOrLong := true }
  else { p with longitude := dms, gotLatOrLong := true }

theorem setDms_dms (p : Properties) (isLatitude : Bool) (dms : LocationDMS) :
    (p.setDms isLatitude dms).dms isLatitude = dms := by cases isLatitude <;> rfl

theorem setDms_dms_ne {a b : Bool} (hne : b ≠ a) (p : Properties) (dms : LocationDMS) :
    (p.setDms b dms).dms a = p.dms a := by
  cases a <;> cases b <;> first | rfl | exact absurd rfl hne

/-- A round of the loop that sets the locations. -/
theorem locationLoop_cons {key : String} (h : (locationLoop true ((key, value) :: members) p).1 =
    none) : ∃ isLatitude, key = locationKey isLatitude ∧
      validateLocationProperty isLatitude value = .ok () ∧
      locationLoop true ((key, value) :: members) p =
        locationLoop true members (p.setDms isLatitude (readLocation value)) := by
  rw [locationLoop] at h ⊢
  by_cases hlat : key = "Lat"
  · rw [if_pos hlat] at h ⊢
    cases hvalid : validateLocationProperty true value with
    | error e =>
      rw [hvalid] at h
      cases h
    | ok u => exact ⟨true, hlat, hvalid, rfl⟩
  · rw [if_neg hlat] at h ⊢
    by_cases hlong : key = "Long"
    · rw [if_pos hlong] at h ⊢
      cases hvalid : validateLocationProperty false value with
      | error e =>
        rw [hvalid] at h
        cases h
      | ok u => exact ⟨false, hlong, hvalid, rfl⟩
    · rw [if_neg hlong] at h
      cases h

theorem locationKey_inj {a b : Bool} (h : locationKey a = locationKey b) : a = b := by
  revert h
  cases a <;> cases b <;> decide

/-- A location whose key is not in the list stays as it is. -/
theorem locationLoop_dms (hnone : ∀ a ∈ members, a.1 ≠ locationKey isLatitude)
    (h : (locationLoop true members p).1 = none) :
    (locationLoop true members p).2.dms isLatitude = p.dms isLatitude := by
  induction members generalizing p with
  | nil => rfl
  | cons a members ih =>
    obtain ⟨key, value⟩ := a
    obtain ⟨b, rfl, -, hloop⟩ := locationLoop_cons h
    have hne : b ≠ isLatitude := fun heq => hnone _ List.mem_cons_self (congrArg locationKey heq)
    rw [hloop] at h ⊢
    rw [ih (fun a ha => hnone a (List.mem_cons_of_mem _ ha)) h]
    exact setDms_dms_ne hne p _

/-- **What an accepted property leaves**: the fields of its values, each of them validated. -/
theorem stores_of_ok (hdistinct : DistinctKeys members)
    (hmem : (locationKey isLatitude, value) ∈ members)
    (h : (locationLoop true members p).1 = none) :
    validateLocationProperty isLatitude value = .ok () ∧
      (locationLoop true members p).2.dms isLatitude = readLocation value := by
  induction members generalizing p with
  | nil => exact absurd hmem List.not_mem_nil
  | cons a members ih =>
    obtain ⟨key, value'⟩ := a
    obtain ⟨b, rfl, hvalid, hloop⟩ := locationLoop_cons h
    rw [hloop] at h ⊢
    obtain heq | hmem := List.mem_cons.1 hmem
    · obtain ⟨hkey, rfl⟩ := Prod.mk.inj heq
      obtain rfl := locationKey_inj hkey
      rw [locationLoop_dms (fun a ha => hdistinct.head_ne ha) h, setDms_dms]
      exact ⟨hvalid, rfl⟩
    · exact ih hdistinct.tail hmem h

/-! ### Numbers as they are kept -/

theorem toInt_setWidth_degrees {d : BitVec 64} (h : DegreesInRange isLatitude d.toInt) :
    (d.setWidth 16).toInt = d.toInt := by
  have hmax : maxDegrees isLatitude ≤ 180 := by cases isLatitude <;> decide
  obtain ⟨hlow, hhigh⟩ := h
  rw [BitVec.toInt_eq_toNat_cond] at hlow hhigh
  rw [BitVec.toInt_eq_toNat_cond, BitVec.toInt_eq_toNat_cond, BitVec.toNat_setWidth]
  split_ifs at hlow hhigh ⊢ <;> omega

theorem toNat_setWidth_sixtieth {m : BitVec 64} (h : SixtiethInRange m.toInt) :
    ((m.setWidth 8).toNat : ℤ) = m.toInt := by
  obtain ⟨hlow, hhigh⟩ := h
  rw [BitVec.toInt_eq_toNat_cond] at hlow hhigh ⊢
  rw [BitVec.toNat_setWidth]
  split_ifs at hlow hhigh ⊢ <;> omega

theorem HasFields.imp {deg min sec deg' min' sec' : BitVec 64 → Prop}
    (h : HasFields deg min sec value) (hdeg : ∀ d, deg d → deg' d) (hmin : ∀ m, min m → min' m)
    (hsec : ∀ s, sec s → sec' s) : HasFields deg' min' sec' value := by
  obtain ⟨hobject, hkeys, ⟨d, hget, hd⟩, ⟨m, hgetm, hm⟩, ⟨s, hgets, hs⟩⟩ := h
  exact ⟨hobject, hkeys, ⟨d, hget, hdeg d hd⟩, ⟨m, hgetm, hmin m hm⟩, ⟨s, hgets, hsec s hs⟩⟩

/-- A location looks like one. -/
theorem IsLocation.looksLike (h : IsLocation isLatitude value) :
    LooksLikeLocation isLatitude value := by
  refine HasFields.imp h (fun d hd => ?_) (fun m hm => ?_) fun s hs => ?_
  · rw [toInt_setWidth_degrees hd]
    exact hd
  · rw [toNat_setWidth_sixtieth hm]
    exact hm
  · rw [toNat_setWidth_sixtieth hs]
    exact hs

theorem integerOf_eq {key : String} {x : BitVec 64} (h : value.get key = some (.integer x)) :
    integerOf value key = x := by
  rw [integerOf, h]
  rfl

/-- The fields of a location are its integers. -/
theorem IsLocation.stored (h : IsLocation isLatitude value) :
    Stored value (readLocation value) := by
  obtain ⟨d, hdeg, hd⟩ := h.deg
  obtain ⟨m, hmin, hm⟩ := h.min
  obtain ⟨s, hsec, hs⟩ := h.sec
  have hfields : readLocation value = ⟨d.setWidth 16, m.setWidth 8, s.setWidth 8⟩ := by
    rw [readLocation, integerOf_eq hdeg, integerOf_eq hmin, integerOf_eq hsec]
  rw [hfields]
  refine ⟨?_, ?_, ?_⟩
  · rw [integerOf_eq hdeg]
    exact toInt_setWidth_degrees hd
  · rw [integerOf_eq hmin]
    exact toNat_setWidth_sixtieth hm
  · rw [integerOf_eq hsec]
    exact toNat_setWidth_sixtieth hs

/-- **Values that are validated as they should be** are those that are no location only if they do
not look like one: none of their integers is out of range, unless another test fails. -/
theorem validates_iff (isLatitude : Bool) (value : LocationValue) :
    Validates isLatitude value.json ↔
      (LooksLikeLocation isLatitude value.json → IsLocation isLatitude value.json) := by
  constructor
  · intro h hlooks
    exact h.accepts.1 ((validateLocationProperty_ok_iff value).2 hlooks)
  · intro h
    constructor
    · rw [validateLocationProperty_ok_iff value]
      exact ⟨h, IsLocation.looksLike⟩
    · intro members p hdistinct hmem hok
      obtain ⟨hvalid, hdms⟩ := stores_of_ok hdistinct hmem hok
      have hlocation := h ((validateLocationProperty_ok_iff value).1 hvalid)
      rw [show (handleLocation true (.object members) p).2.dms isLatitude = readLocation value.json
        from hdms]
      exact hlocation.stored

/-- A latitude of 65536 degrees. -/
def tooFarNorth : JsonT :=
  .object [("Deg", .integer 65536), ("Min", .integer 0), ("Sec", .integer 0)]

/-- It is accepted, and 0 degrees are stored. -/
theorem tooFarNorth_accepted : validateLocationProperty true tooFarNorth = .ok () ∧
    (handleLocation true (.object [("Lat", tooFarNorth)]) ⟨⟨45, 0, 0⟩, ⟨0, 0, 0⟩, false⟩).2.latitude =
      ⟨0, 0, 0⟩ ∧ ¬ Validates true tooFarNorth := by
  have hok : validateLocationProperty true tooFarNorth = .ok () := by
    refine (validateLocationProperty_ok_iff ⟨tooFarNorth, ?_⟩).2 ?_
    · decide
    · exact ⟨rfl, .refl _, ⟨65536, rfl, by decide⟩, ⟨0, rfl, by decide⟩, ⟨0, rfl, by decide⟩⟩
  refine ⟨hok, rfl, fun hvalidates => ?_⟩
  obtain ⟨d, hget, -, hhigh⟩ := (hvalidates.accepts.1 hok).deg
  cases hget
  exact absurd hhigh (by decide)

end Location

end System

end Lcm
