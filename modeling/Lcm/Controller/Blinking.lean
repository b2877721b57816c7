import Lcm.Controller.Timers
import Mathlib.Data.Nat.Digits.Lemmas

/-!
# The LED that blinks

The blue LED shows the third part of the firmware version: for each decimal digit it flashes as
often as the digit says, ten times and faster for a 0, with a pause of a second between the digits
and of two seconds after the last one, and then all over again.

## Main definitions

* `digitFlashes`, `showDigits` : the flashes for a digit and for a number, each change of the LED
  with the time until the next one.
* `rest` : the changes that are still to come until the number has been shown.
* `changes` : the changes in a round.

## Main results

* `rest_change` : one change.
* `changes_isPrefix` : a run.
-/

namespace Lcm

namespace Controller

variable {s s' s₀ : State} {es : List Event} {e : Event} {i : Inputs} {b : Blink}

/-! ### What is to be shown -/

/-- A change of the LED, with the time until the next. -/
abbrev Change := Bool × Word

/-- Flashes of the same length, the last one with a pause after it. -/
def flashes (time pause : Word) : ℕ → List Change
  | 0 => []
  | 1 => [(true, time), (false, pause)]
  | n + 2 => (true, time) :: (false, time) :: flashes time pause (n + 1)

/-- How often the LED flashes for a digit. -/
def flashCount (digit : ℕ) : ℕ := if digit = 0 then 10 else digit

/-- The flashes for a digit. -/
def digitFlashes (digit : ℕ) (pause : Word) : List Change :=
  flashes (if digit = 0 then 62 else 250) pause (flashCount digit)

/-- The flashes for a number, of which the digits are given. -/
def showDigits : List ℕ → List Change
  | [] => []
  | digit :: digits =>
    digitFlashes digit (if digits = [] then 2000 else 1000) ++ showDigits digits

/-- The digits of a number, as it is written. -/
def shownDigits (n : ℕ) : List ℕ := if n = 0 then [0] else (Nat.digits 10 n).reverse

/-! ### Digits -/

/-- The digit at a place. -/
def digitAt (n place : ℕ) : ℕ := n / 10 ^ place % 10

/-- The digits below a place, as they are written. -/
def digitsBelow (n : ℕ) : ℕ → List ℕ
  | 0 => []
  | place + 1 => digitAt n place :: digitsBelow n place

theorem digitsBelow_eq (n place : ℕ) :
    digitsBelow n place = ((List.range place).map (digitAt n)).reverse := by
  induction place with
  | zero => rfl
  | succ place ih => simp [digitsBelow, ih, List.range_succ]

theorem shownDigits_eq (n : ℕ) : shownDigits n = digitsBelow n (Nat.log 10 n + 1) := by
  by_cases hn : n = 0
  · subst hn
    rfl
  · rw [shownDigits, if_neg hn, digitsBelow_eq, List.reverse_inj]
    refine List.ext_getElem ?_ ?_
    · simp [Nat.length_digits 10 n (by decide) hn]
    · intro k hk _
      have hdigit := Nat.getD_digits n k (b := 10) (by decide)
      rw [List.getD_eq_getElem?_getD, List.getElem?_eq_getElem hk, Option.getD_some] at hdigit
      simpa [digitAt] using hdigit

theorem toNat_dropDigits (c : Dword) (place : ℕ) :
    (dropDigits c place).toNat = c.toNat / 10 ^ place := by
  induction place generalizing c with
  | zero => simp [dropDigits]
  | succ place ih =>
    rw [dropDigits, ih, BitVec.toNat_udiv, Nat.div_div_eq_div_mul, Nat.pow_succ']
    rfl

/-- `GetDigit` finds how often to flash. -/
theorem toNat_GetDigit (c : Dword) (place : Byte) :
    (GetDigit c place).toNat = flashCount (digitAt c.toNat place.toNat) := by
  have hdigit : (dropDigits c place.toNat % 10).toNat = digitAt c.toNat place.toNat := by
    rw [BitVec.toNat_umod, toNat_dropDigits]
    rfl
  have hlt : digitAt c.toNat place.toNat < 10 := Nat.mod_lt _ (by decide)
  have hzero : dropDigits c place.toNat % 10 = 0 ↔ digitAt c.toNat place.toNat = 0 := by
    rw [← hdigit, ← BitVec.toNat_inj]
    rfl
  rw [GetDigit, flashCount]
  by_cases h : digitAt c.toNat place.toNat = 0
  · rw [if_pos (hzero.2 h), if_pos h]
    rfl
  · rw [if_neg (mt hzero.1 h), if_neg h, BitVec.toNat_setWidth, hdigit]
    exact Nat.mod_eq_of_lt (by omega)

theorem countDigits_eq (c : Dword) (index : Byte) :
    countDigits c index = index + .ofNat 8 (Nat.digits 10 c.toNat).length := by
  fun_induction countDigits c index with
  | case1 index => simp
  | case2 c index hne ih =>
    have hpos : 0 < c.toNat := Nat.pos_of_ne_zero fun h => hne (BitVec.eq_of_toNat_eq h)
    have hdiv : (c / 10).toNat = c.toNat / 10 := BitVec.toNat_udiv ..
    rw [ih, hdiv, Nat.digits_def' (by decide) hpos, List.length_cons, BitVec.ofNat_add,
      BitVec.add_assoc, BitVec.add_comm 1]
    rfl

/-- `FindFirstDigit` finds the first place. -/
theorem toNat_FindFirstDigit (c : Dword) : (FindFirstDigit c).toNat = Nat.log 10 c.toNat := by
  rw [FindFirstDigit]
  by_cases hzero : c = 0
  · subst hzero
    rfl
  · have hne : c.toNat ≠ 0 := fun h => hzero (BitVec.eq_of_toNat_eq h)
    have hlog : Nat.log 10 c.toNat < 10 :=
      Nat.log_lt_of_lt_pow hne (Nat.lt_trans c.isLt (by decide))
    have hsub : (0 : Byte) + .ofNat 8 (Nat.log 10 c.toNat + 1) - 1 =
        .ofNat 8 (Nat.log 10 c.toNat) := by
      rw [BitVec.ofNat_add]
      bv_omega
    rw [if_neg hzero, countDigits_eq, Nat.length_digits 10 _ (by decide) hne, hsub,
      BitVec.toNat_ofNat]
    exact Nat.mod_eq_of_lt (by omega)

/-! ### What is still to be shown -/

/-- How long the LED stays off after a digit. -/
def pauseAt (place : ℕ) : Word := if place = 0 then 2000 else 1000

theorem digitsBelow_eq_nil (n place : ℕ) : digitsBelow n place = [] ↔ place = 0 := by
  cases place <;> simp [digitsBelow]

theorem showDigits_digitsBelow_succ (n place : ℕ) :
    showDigits (digitsBelow n (place + 1)) =
      digitFlashes (digitAt n place) (pauseAt place) ++ showDigits (digitsBelow n place) := by
  rw [digitsBelow, showDigits, pauseAt]
  simp only [digitsBelow_eq_nil]

/-- The changes of an LED that are still to come until its number has been shown. -/
def rest (b : Blink) : List Change :=
  let time := flashTime b.BlinkDisplayDigitCountDestination
  let pause := pauseAt b.BlinkCountDigitIndex.toNat
  let done := b.BlinkDisplayDigitCount.toNat
  let total := b.BlinkDisplayDigitCountDestination.toNat
  let below := showDigits (digitsBelow b.BlinkDisplayCount.toNat b.BlinkCountDigitIndex.toNat)
  if b.BlinkDisplayLEDState then
    if total ≤ done + 1 then (false, pause) :: below
    else (false, time) :: (flashes time pause (total - (done + 1)) ++ below)
  else flashes time pause (total - done) ++ below

/-- The number as a whole. -/
def display (c : Dword) : List Change := showDigits (shownDigits c.toNat)

/-- The flashes are counted up to at most ten, and an LED that is off has one to come. -/
structure Good (b : Blink) : Prop where
  total : b.BlinkDisplayDigitCountDestination.toNat ≤ 10
  done : b.BlinkDisplayDigitCount.toNat ≤ 10
  off : b.BlinkDisplayLEDState = false →
    b.BlinkDisplayDigitCount.toNat < b.BlinkDisplayDigitCountDestination.toNat

/-- What is behind the digit that is being shown. -/
def below (b : Blink) : List Change :=
  showDigits (digitsBelow b.BlinkDisplayCount.toNat b.BlinkCountDigitIndex.toNat)

theorem rest_off (hoff : b.BlinkDisplayLEDState = false) :
    rest b = flashes (flashTime b.BlinkDisplayDigitCountDestination)
      (pauseAt b.BlinkCountDigitIndex.toNat)
      (b.BlinkDisplayDigitCountDestination.toNat - b.BlinkDisplayDigitCount.toNat) ++ below b := by
  simp only [rest, hoff, Bool.false_eq_true, if_false, below]

theorem rest_on_last (hon : b.BlinkDisplayLEDState = true)
    (hlast : b.BlinkDisplayDigitCountDestination.toNat ≤ b.BlinkDisplayDigitCount.toNat + 1) :
    rest b = (false, pauseAt b.BlinkCountDigitIndex.toNat) :: below b := by
  simp only [rest, hon, if_true, if_pos hlast, below]

theorem rest_on_more (hon : b.BlinkDisplayLEDState = true)
    (hlast : ¬ b.BlinkDisplayDigitCountDestination.toNat ≤ b.BlinkDisplayDigitCount.toNat + 1) :
    rest b = (false, flashTime b.BlinkDisplayDigitCountDestination) ::
      (flashes (flashTime b.BlinkDisplayDigitCountDestination)
        (pauseAt b.BlinkCountDigitIndex.toNat)
        (b.BlinkDisplayDigitCountDestination.toNat - (b.BlinkDisplayDigitCount.toNat + 1)) ++
        below b) := by
  simp only [rest, hon, if_true, if_neg hlast, below]

/-- **The LED is turned on.** -/
theorem rest_turnOn (h : Good b) (hoff : b.BlinkDisplayLEDState = false) :
    rest b = (true, (turnOn b).BlinkDisplayTimer) :: rest (turnOn b) ∧ Good (turnOn b) := by
  refine ⟨?_, h.total, h.done, ?_⟩
  · have hlt := h.off hoff
    by_cases hlast : b.BlinkDisplayDigitCountDestination.toNat ≤
        b.BlinkDisplayDigitCount.toNat + 1
    · have hone : b.BlinkDisplayDigitCountDestination.toNat -
          b.BlinkDisplayDigitCount.toNat = 1 := by omega
      rw [rest_off hoff, rest_on_last (b := turnOn b) rfl hlast, hone, flashes]
      rfl
    · obtain ⟨n, hn⟩ : ∃ n, b.BlinkDisplayDigitCountDestination.toNat -
          b.BlinkDisplayDigitCount.toNat = n + 2 :=
        ⟨b.BlinkDisplayDigitCountDestination.toNat - b.BlinkDisplayDigitCount.toNat - 2, by omega⟩
      have hnext : (turnOn b).BlinkDisplayDigitCountDestination.toNat -
          ((turnOn b).BlinkDisplayDigitCount.toNat + 1) = n + 1 := by
        change b.BlinkDisplayDigitCountDestination.toNat -
          (b.BlinkDisplayDigitCount.toNat + 1) = n + 1
        omega
      rw [rest_off hoff, rest_on_more (b := turnOn b) rfl hlast, hn, hnext, flashes]
      rfl
  · intro hon
    cases hon

/-- The state of an LED at the beginning of a digit. -/
theorem rest_digit {place : Byte} (hon : b.BlinkDisplayLEDState = false)
    (hdone : b.BlinkDisplayDigitCount = 0) (hplace : b.BlinkCountDigitIndex = place)
    (htotal : b.BlinkDisplayDigitCountDestination = GetDigit b.BlinkDisplayCount place) :
    rest b = showDigits (digitsBelow b.BlinkDisplayCount.toNat (place.toNat + 1)) ∧ Good b := by
  have hcount := toNat_GetDigit b.BlinkDisplayCount place
  have hlt : digitAt b.BlinkDisplayCount.toNat place.toNat < 10 := Nat.mod_lt _ (by decide)
  have hpos : 0 < flashCount (digitAt b.BlinkDisplayCount.toNat place.toNat) ∧
      flashCount (digitAt b.BlinkDisplayCount.toNat place.toNat) ≤ 10 := by
    rw [flashCount]
    split <;> omega
  have htime : flashTime (GetDigit b.BlinkDisplayCount place) =
      if digitAt b.BlinkDisplayCount.toNat place.toNat = 0 then 62 else 250 := by
    have hten : GetDigit b.BlinkDisplayCount place = 10 ↔
        digitAt b.BlinkDisplayCount.toNat place.toNat = 0 := by
      rw [← BitVec.toNat_inj, hcount, flashCount]
      change _ = 10 ↔ _
      split <;> omega
    rw [flashTime]
    simp only [hten]
  refine ⟨?_, by rw [htotal, hcount]; exact hpos.2, by rw [hdone]; decide, ?_⟩
  · rw [showDigits_digitsBelow_succ, digitFlashes, ← htime, ← hcount]
    rw [rest_off hon, below, hdone, hplace, htotal]
    rfl
  · intro _
    rw [hdone, htotal, hcount]
    exact hpos.1

theorem turnOff_flash
    (hlast : ¬ b.BlinkDisplayDigitCountDestination ≤ b.BlinkDisplayDigitCount + 1) :
    turnOff b =
      { b with
        BlinkDisplayLEDState := false
        BlinkDisplayDigitCount := b.BlinkDisplayDigitCount + 1
        BlinkDisplayTimer := flashTime b.BlinkDisplayDigitCountDestination } := if_neg hlast

theorem turnOff_digit
    (hlast : b.BlinkDisplayDigitCountDestination ≤ b.BlinkDisplayDigitCount + 1)
    (hplace : b.BlinkCountDigitIndex ≠ 0) :
    turnOff b =
      { b with
        BlinkDisplayLEDState := false
        BlinkDisplayDigitCount := 0
        BlinkCountDigitIndex := b.BlinkCountDigitIndex - 1
        BlinkDisplayDigitCountDestination :=
          GetDigit b.BlinkDisplayCount (b.BlinkCountDigitIndex - 1)
        BlinkDisplayTimer := 1000 } := (if_pos hlast).trans (if_neg hplace)

theorem turnOff_number
    (hlast : b.BlinkDisplayDigitCountDestination ≤ b.BlinkDisplayDigitCount + 1)
    (hplace : b.BlinkCountDigitIndex = 0) :
    turnOff b =
      { b with
        BlinkDisplayLEDState := false
        BlinkDisplayDigitCount := 0
        BlinkCountDigitIndex := FindFirstDigit b.BlinkDisplayCount
        BlinkDisplayDigitCountDestination :=
          GetDigit b.BlinkDisplayCount (FindFirstDigit b.BlinkDisplayCount)
        BlinkDisplayTimer := 2000 } := (if_pos hlast).trans (if_pos hplace)

/-- **The LED is turned off**: it goes on with what is still to come, or with the number from the
beginning. -/
theorem rest_turnOff (h : Good b) (hon : b.BlinkDisplayLEDState = true) :
    (rest b = (false, (turnOff b).BlinkDisplayTimer) :: rest (turnOff b) ∨
      rest b = [(false, (turnOff b).BlinkDisplayTimer)] ∧
        rest (turnOff b) = display b.BlinkDisplayCount) ∧ Good (turnOff b) := by
  have hdone : (b.BlinkDisplayDigitCount + 1).toNat = b.BlinkDisplayDigitCount.toNat + 1 := by
    rw [BitVec.toNat_add]
    change (b.BlinkDisplayDigitCount.toNat + 1) % 256 = _
    have hle := h.done
    omega
  have hlast_iff : b.BlinkDisplayDigitCountDestination ≤ b.BlinkDisplayDigitCount + 1 ↔
      b.BlinkDisplayDigitCountDestination.toNat ≤ b.BlinkDisplayDigitCount.toNat + 1 := by
    rw [BitVec.le_def, hdone]
  by_cases hlast : b.BlinkDisplayDigitCountDestination ≤ b.BlinkDisplayDigitCount + 1
  · have hbefore : rest b = (false, pauseAt b.BlinkCountDigitIndex.toNat) ::
        showDigits (digitsBelow b.BlinkDisplayCount.toNat b.BlinkCountDigitIndex.toNat) :=
      rest_on_last hon (hlast_iff.1 hlast)
    by_cases hplace : b.BlinkCountDigitIndex = 0
    · rw [turnOff_number hlast hplace]
      obtain ⟨hrest, hgood⟩ := rest_digit (b := { b with
          BlinkDisplayLEDState := false
          BlinkDisplayDigitCount := 0
          BlinkCountDigitIndex := FindFirstDigit b.BlinkDisplayCount
          BlinkDisplayDigitCountDestination :=
            GetDigit b.BlinkDisplayCount (FindFirstDigit b.BlinkDisplayCount)
          BlinkDisplayTimer := 2000 }) rfl rfl rfl rfl
      refine ⟨.inr ⟨?_, ?_⟩, hgood⟩
      · rw [hbefore, hplace]
        rfl
      · rw [hrest, toNat_FindFirstDigit, display, shownDigits_eq]
    · rw [turnOff_digit hlast hplace]
      obtain ⟨hrest, hgood⟩ := rest_digit (b := { b with
          BlinkDisplayLEDState := false
          BlinkDisplayDigitCount := 0
          BlinkCountDigitIndex := b.BlinkCountDigitIndex - 1
          BlinkDisplayDigitCountDestination :=
            GetDigit b.BlinkDisplayCount (b.BlinkCountDigitIndex - 1)
          BlinkDisplayTimer := 1000 }) rfl rfl rfl rfl
      have hne : b.BlinkCountDigitIndex.toNat ≠ 0 := fun h0 => hplace (BitVec.eq_of_toNat_eq h0)
      have hsucc : (b.BlinkCountDigitIndex - 1).toNat + 1 = b.BlinkCountDigitIndex.toNat := by
        bv_omega
      refine ⟨.inl ?_, hgood⟩
      rw [hbefore, hrest, hsucc, pauseAt, if_neg hne]
  · have hnot := mt hlast_iff.2 hlast
    rw [turnOff_flash hlast]
    refine ⟨.inl ?_, h.total, ?_, ?_⟩
    · rw [rest_on_more hon hnot, rest_off rfl, hdone]
      rfl
    · rw [hdone]
      have htotal := h.total
      omega
    · intro _
      rw [hdone]
      exact Nat.lt_of_not_le hnot

/-- An LED does not forget its number. -/
theorem BlinkDisplayCount_after (tickCount : Dword) (b : Blink) :
    (b.after tickCount).BlinkDisplayCount = b.BlinkDisplayCount ∧
      (b.after tickCount).BlinkDisplayFlag = b.BlinkDisplayFlag := by
  simp only [Blink.after, turnOff, turnOn]
  split_ifs <;> exact ⟨rfl, rfl⟩

/-! ### Runs -/

/-- The changes of an LED; the blue one is the first. -/
def changes (ledIndex : Fin 3) (s : State) : Event → List Change
  | .pass i =>
    if i.tickCount = 0 ∨ ¬ Stays s i ∨
        i.tickCount.toNat < (s.blink ledIndex).BlinkDisplayTimer.toNat then []
    else
      let b := (s.blink ledIndex).after i.tickCount
      [(b.BlinkDisplayLEDState, b.BlinkDisplayTimer)]
  | _ => []

/-- The LED blinks, and what it shows is its number. -/
structure Blinks (c : Dword) (s : State) : Prop where
  flag : (s.blink 0).BlinkDisplayFlag = true
  count : (s.blink 0).BlinkDisplayCount = c
  good : Good (s.blink 0)

variable {c : Dword}

theorem blinks_initial (version : Word) (cloudState defaultState : Bool) :
    Blinks (version.setWidth 32) (State.initial version cloudState defaultState) := by
  refine ⟨rfl, rfl, ⟨Nat.zero_le _, Nat.zero_le _, ?_⟩⟩
  intro hoff
  cases hoff

theorem rest_initial (version : Word) (cloudState defaultState : Bool) :
    rest ((State.initial version cloudState defaultState).blink 0) = [(false, 2000)] := rfl

/-- The LED after a time that is too short for a change. -/
theorem after_waiting {tickCount : Dword} (hflag : b.BlinkDisplayFlag = true)
    (hlt : tickCount.toNat < b.BlinkDisplayTimer.toNat) (hgood : Good b) :
    rest (b.after tickCount) = rest b ∧ Good (b.after tickCount) := by
  have hafter : b.after tickCount =
      { b with BlinkDisplayTimer := b.BlinkDisplayTimer - tickCount.setWidth 16 } := by
    rw [Blink.after, if_pos hflag, if_pos hlt]
  rw [hafter]
  exact ⟨rfl, hgood.total, hgood.done, hgood.off⟩

/-- **One change.** -/
theorem rest_change {tickCount : Dword} (hflag : b.BlinkDisplayFlag = true)
    (hle : ¬ tickCount.toNat < b.BlinkDisplayTimer.toNat) (hgood : Good b) :
    (rest b = ((b.after tickCount).BlinkDisplayLEDState, (b.after tickCount).BlinkDisplayTimer) ::
        rest (b.after tickCount) ∨
      rest b = [((b.after tickCount).BlinkDisplayLEDState,
          (b.after tickCount).BlinkDisplayTimer)] ∧
        rest (b.after tickCount) = display b.BlinkDisplayCount) ∧ Good (b.after tickCount) := by
  cases hon : b.BlinkDisplayLEDState with
  | true =>
    have hafter : b.after tickCount = turnOff b := by
      rw [Blink.after, if_pos hflag, if_neg hle, if_pos hon]
    have hoff : (turnOff b).BlinkDisplayLEDState = false := by
      simp only [turnOff]
      split_ifs <;> rfl
    rw [hafter, hoff]
    exact rest_turnOff hgood hon
  | false =>
    have hafter : b.after tickCount = turnOn b := by
      rw [Blink.after, if_pos hflag, if_neg hle, if_neg (by rw [hon]; decide)]
    obtain ⟨hrest, hgood'⟩ := rest_turnOn hgood hon
    rw [hafter]
    exact ⟨.inl hrest, hgood'⟩

/-- **One event**: it is what is to come, and after the number the number comes again. -/
theorem Blinks.stepState (h : Blinks c s) (hs : s.restarting = false) (e : Event) :
    Blinks c (Controller.stepState s e) ∧
      (rest (s.blink 0) = changes 0 s e ++ rest ((Controller.stepState s e).blink 0) ∨
        rest (s.blink 0) = changes 0 s e ∧
          rest ((Controller.stepState s e).blink 0) = display c) := by
  cases e with
  | pass i =>
    by_cases htick : i.tickCount = 0
    · have hsame : Controller.stepState s (.pass i) = s := by
        rw [Controller.stepState, pass, if_pos htick]
        rfl
      rw [hsame, changes, if_pos (.inl htick)]
      exact ⟨h, .inl rfl⟩
    · by_cases hexpired : expired s.timers.restartSystemTimer i.tickCount = true
      · have hnot : ¬ Stays s i := by
          intro hstays
          rw [hstays.2] at hexpired
          cases hexpired
        have hblink : (Controller.stepState s (.pass i)).blink = s.blink := by
          rw [Controller.stepState, value_pass_restart hexpired]
          rfl
        rw [hblink, changes, if_pos (.inr (.inl hnot))]
        exact ⟨⟨hblink ▸ h.flag, hblink ▸ h.count, hblink ▸ h.good⟩, .inl rfl⟩
      · have hstays : Stays s i := ⟨hs, Bool.eq_false_iff.2 hexpired⟩
        have hblink : (Controller.stepState s (.pass i)).blink 0 =
            (s.blink 0).after i.tickCount := by
          rw [Controller.stepState, value_pass htick hstays, blink_passRest]
          rfl
        obtain ⟨hcount, hflag⟩ := BlinkDisplayCount_after i.tickCount (s.blink 0)
        rw [hblink]
        -- the LED changes only when its time is over
        by_cases hlt : i.tickCount.toNat < (s.blink 0).BlinkDisplayTimer.toNat
        · obtain ⟨hrest, hgood⟩ := after_waiting h.flag hlt h.good
          rw [changes, if_pos (.inr (.inr hlt)), hrest]
          exact ⟨⟨by rw [hblink, hflag, h.flag], by rw [hblink, hcount, h.count],
            by rw [hblink]; exact hgood⟩, .inl rfl⟩
        · obtain ⟨hrest, hgood⟩ := rest_change h.flag hlt h.good
          have hchanges : changes 0 s (.pass i) =
              [(((s.blink 0).after i.tickCount).BlinkDisplayLEDState,
                ((s.blink 0).after i.tickCount).BlinkDisplayTimer)] := by
            refine if_neg ?_
            rintro (h0 | hnot | hshort)
            · exact htick h0
            · exact hnot hstays
            · exact hlt hshort
          rw [hchanges]
          refine ⟨⟨by rw [hblink, hflag, h.flag], by rw [hblink, hcount, h.count],
            by rw [hblink]; exact hgood⟩, ?_⟩
          rw [h.count] at hrest
          exact hrest
  | setTimer timer value => exact ⟨⟨h.flag, h.count, h.good⟩, .inl rfl⟩
  | countTask j => exact ⟨⟨h.flag, h.count, h.good⟩, .inl rfl⟩
  | heartbeat bits => exact ⟨⟨h.flag, h.count, h.good⟩, .inl rfl⟩
  | resetSocket => exact ⟨⟨h.flag, h.count, h.good⟩, .inl rfl⟩
  | setLed1GreenDefaultState on => exact ⟨⟨h.flag, h.count, h.good⟩, .inl rfl⟩

/-- A number that is shown again and again. -/
def cycles (c : Dword) (n : ℕ) : List Change := (List.replicate n (display c)).flatten

theorem cycles_succ (c : Dword) (n : ℕ) : cycles c (n + 1) = display c ++ cycles c n := rfl

theorem cycles_succ' (c : Dword) (n : ℕ) : cycles c (n + 1) = cycles c n ++ display c := by
  simp [cycles, List.replicate_succ']

theorem changes_isPrefix_from (h : Blinks c s) (hrun : controller.run s es = some s') :
    controller.trace (changes 0) s es <+: rest (s.blink 0) ++ cycles c es.length := by
  induction es generalizing s with
  | nil => exact List.nil_prefix
  | cons e es ih =>
    obtain ⟨t, ht, hrun⟩ := Option.bind_eq_some_iff.1 hrun
    obtain ⟨hs, rfl⟩ := step_eq ht
    obtain ⟨hblinks, hrest⟩ := h.stepState hs e
    have htail := ih hblinks hrun
    rw [Machine.trace, ht, Option.elim_some, List.length_cons]
    -- the number may have been shown once more by this event
    rcases hrest with hrest | ⟨hrest, hagain⟩
    · rw [hrest, List.append_assoc, List.prefix_append_right_inj]
      refine htail.trans ?_
      rw [List.prefix_append_right_inj, cycles_succ']
      exact List.prefix_append ..
    · rw [hrest, List.prefix_append_right_inj, cycles_succ, ← hagain]
      exact htail

/-- **The blue LED shows the firmware version**: after a pause its changes are those of the number,
again and again, in every run. -/
theorem changes_isPrefix (version : Word) (cloudState defaultState : Bool)
    (hrun : controller.run (State.initial version cloudState defaultState) es = some s) :
    controller.trace (changes 0) (State.initial version cloudState defaultState) es <+:
      (false, 2000) :: cycles (version.setWidth 32) es.length := by
  have hprefix := changes_isPrefix_from (blinks_initial version cloudState defaultState) hrun
  rwa [rest_initial] at hprefix

/-- The first change: the LED, which was on, is turned off for two seconds. -/
theorem changes_isPrefix_first :
    controller.trace (changes 0) (State.initial 17 true true)
        [.pass ⟨1, false, true, true, true, 0⟩] <+:
      (false, 2000) :: cycles 17 1 :=
  changes_isPrefix 17 true true rfl

/-- Version 10 is shown by one flash and, a second later, by ten fast ones. -/
example : (display 10).take 4 = [(true, 250), (false, 1000), (true, 62), (false, 62)] := by
  simp [display, shownDigits, showDigits, digitFlashes, flashCount, flashes]

end Controller

end Lcm
