import Lcm.Jansson
import Lcm.Run.Basic
import Mathlib.Data.List.Perm.Basic

/-!
# Repeated events

`Eliot_Event_CB` does not execute an event that it takes for a repetition of the one before it.  It
compares a checksum, the sum of the words of the message, and the time that has passed.

## Main definitions

* `checksum` : what is compared.
* `eliotEventIsDuplicate` : the function of the source.
* `machine` : messages and log-outs in any order.
* `OnlyRepeats` : a message that is suppressed is a repetition.
* `Separated` : the condition on a message.

## Main results

* `checksum_of_perm`, `checksum_concat` : what the checksum does not tell apart.
* `allSteps_onlyRepeats_iff` : the runs in which only repetitions are suppressed.
-/

namespace Lcm

namespace Mqtt

namespace Duplicates

/-! ### The filter -/

/-- `ELIOT_REPEAT_TIME_EXPIRE_SEC` -/
abbrev eliotRepeatTimeExpireSec : Dword := 2

/-- The words that the loop adds up; the last byte of a message of odd length is in none. -/
def words : List Byte → List Word
  | low :: high :: bytes => wordOfBytes high low :: words bytes
  | _ => []

/-- `acc` after the loop. -/
def checksum (buffer : List Byte) : Dword :=
  (words buffer).foldl (fun acc word => acc + word.setWidth 32) 0

/-- `MqttMessage`, and when it arrives. -/
structure Message where
  /-- `buffer`, as long as `buffer_len` says. -/
  buffer : List Byte
  /-- `Eliot_TimeNow()` -/
  now : Dword

/-- What the filter keeps. -/
structure Filter where
  /-- `eliot_event_last_checksum` -/
  eliotEventLastChecksum : Dword
  /-- `eliot_mqtt_event_last` -/
  eliotMqttEventLast : Dword

/-- `Eliot_EventIsDuplicate` -/
def eliotEventIsDuplicate (f : Filter) (msg : Message) : Bool × Filter :=
  if msg.buffer = [] then (true, f)
  else if checksum msg.buffer = f.eliotEventLastChecksum ∧
      msg.now - f.eliotMqttEventLast ≤ eliotRepeatTimeExpireSec then (true, f)
  else (false, ⟨checksum msg.buffer, msg.now⟩)

/-! ### Events in a row -/

/-- What happens. -/
inductive Event
  /-- `Eliot_Event_CB` is called. -/
  | message (msg : Message)
  /-- `Eliot_LogOut` is called. -/
  | logOut

/-- The filter, and the message that has been executed last since the last log-out. -/
structure State where
  /-- The filter. -/
  filter : Filter
  /-- The message. -/
  previous : Option Message

/-- Nothing has been received. -/
def start : State := ⟨⟨0, 0⟩, none⟩

/-- A message is executed unless it is taken for a duplicate; a log-out invalidates the time of the
last one. -/
def machine : Machine State Event where
  init s := s = start
  step s
    | .message msg =>
      let (duplicate, filter) := eliotEventIsDuplicate s.filter msg
      some ⟨filter, if duplicate then s.previous else some msg⟩
    | .logOut => some ⟨{ s.filter with eliotMqttEventLast := 0 }, none⟩

/-- **Only repetitions are suppressed**: the message executed before has the same bytes, and was
received shortly before. -/
def OnlyRepeats (s : State) : Event → Prop
  | .message msg => msg.buffer ≠ [] → (eliotEventIsDuplicate s.filter msg).1 = true →
    ∃ previous ∈ s.previous, previous.buffer = msg.buffer ∧
      msg.now - previous.now ≤ eliotRepeatTimeExpireSec
  | .logOut => True

/-- **The checksum separates** a message from the one executed shortly before it, if they differ.
Where there is none, it separates the message from what the filter was left with, unless the clock
has been started more than two seconds ago. -/
def Separated (s : State) : Event → Prop
  | .message msg => msg.buffer ≠ [] →
    match s.previous with
    | some previous => previous.buffer ≠ msg.buffer →
      msg.now - previous.now ≤ eliotRepeatTimeExpireSec →
        checksum msg.buffer ≠ checksum previous.buffer
    | none => msg.now ≤ eliotRepeatTimeExpireSec →
      checksum msg.buffer ≠ s.filter.eliotEventLastChecksum
  | .logOut => True

/-! ### What the checksum does not tell apart -/

/-- The order of the words does not count. -/
theorem checksum_of_perm {buffer buffer' : List Byte} (h : (words buffer).Perm (words buffer')) :
    checksum buffer = checksum buffer' := by
  refine h.foldl_eq' (fun x _ y _ acc => ?_) 0
  rw [BitVec.add_assoc, BitVec.add_comm (x.setWidth 32), BitVec.add_assoc]

/-- The last byte of a message of odd length does not count. -/
theorem words_concat : ∀ {buffer : List Byte}, buffer.length % 2 = 0 → ∀ last : Byte,
    words (buffer ++ [last]) = words buffer
  | [], _, _ => rfl
  | [_], h, _ => absurd h Nat.one_ne_zero
  | low :: high :: buffer, h, last => by
    have hrest : buffer.length % 2 = 0 := by
      rw [List.length_cons, List.length_cons] at h
      omega
    rw [List.cons_append, List.cons_append, words, words, words_concat hrest last]

theorem checksum_concat {buffer : List Byte} (h : buffer.length % 2 = 0) (last : Byte) :
    checksum (buffer ++ [last]) = checksum buffer := by
  rw [checksum, words_concat h, checksum]

/-! ### Runs -/

/-- What the filter keeps belongs to the message executed last. -/
def Consistent (s : State) : Prop :=
  match s.previous with
  | some previous => s.filter = ⟨checksum previous.buffer, previous.now⟩
  | none => s.filter.eliotMqttEventLast = 0

variable {s s' : State} {e : Event}

/-- When a message is suppressed. -/
theorem isDuplicate_iff {f : Filter} {msg : Message} (hne : msg.buffer ≠ []) :
    (eliotEventIsDuplicate f msg).1 = true ↔ checksum msg.buffer = f.eliotEventLastChecksum ∧
      msg.now - f.eliotMqttEventLast ≤ eliotRepeatTimeExpireSec := by
  rw [eliotEventIsDuplicate, if_neg hne]
  split
  · rename_i h
    exact iff_of_true rfl h
  · rename_i h
    exact iff_of_false Bool.false_ne_true h

/-- A message that is suppressed changes nothing. -/
theorem step_suppressed {msg : Message} (h : (eliotEventIsDuplicate s.filter msg).1 = true) :
    machine.step s (.message msg) = some s := by
  have hfilter : (eliotEventIsDuplicate s.filter msg).2 = s.filter := by
    revert h
    rw [eliotEventIsDuplicate]
    split
    · exact fun _ => rfl
    · split
      · exact fun _ => rfl
      · exact fun h => absurd h Bool.false_ne_true
  rw [machine]
  dsimp only
  rw [hfilter, if_pos h]

/-- A message that is executed is kept. -/
theorem step_executed (msg : Message) (h : (eliotEventIsDuplicate s.filter msg).1 = false) :
    machine.step s (.message msg) =
      some ⟨⟨checksum msg.buffer, msg.now⟩, some msg⟩ := by
  have hfilter : (eliotEventIsDuplicate s.filter msg).2 = ⟨checksum msg.buffer, msg.now⟩ := by
    revert h
    rw [eliotEventIsDuplicate]
    split
    · exact fun h => absurd h.symm Bool.false_ne_true
    · split
      · exact fun h => absurd h.symm Bool.false_ne_true
      · exact fun _ => rfl
  rw [machine]
  dsimp only
  rw [hfilter, h]
  rfl

/-- Every event leaves the filter consistent. -/
theorem Consistent.step (h : Consistent s) (hs : machine.step s e = some s') : Consistent s' := by
  cases e with
  | message msg =>
    cases hduplicate : (eliotEventIsDuplicate s.filter msg).1 with
    | true =>
      rw [step_suppressed hduplicate] at hs
      exact Option.some.inj hs ▸ h
    | false =>
      rw [step_executed msg hduplicate] at hs
      obtain rfl := Option.some.inj hs
      rfl
  | logOut =>
    obtain rfl := Option.some.inj hs
    rfl

/-- **A step suppresses only repetitions** exactly if the checksum separates. -/
theorem onlyRepeats_iff (h : Consistent s) : OnlyRepeats s e ↔ Separated s e := by
  cases e with
  | logOut => exact Iff.rfl
  | message msg =>
    refine forall_congr' fun hne => ?_
    rw [isDuplicate_iff hne]
    cases hprevious : s.previous with
    | some previous =>
      rw [Consistent, hprevious] at h
      simp only [h, Option.mem_some_iff, exists_eq_left']
      constructor
      · intro hrepeat hdiffer htime heq
        exact hdiffer (hrepeat ⟨heq, htime⟩).1
      · rintro hseparated ⟨heq, htime⟩
        refine ⟨?_, htime⟩
        by_contra hdiffer
        exact hseparated hdiffer htime heq
    | none =>
      rw [Consistent, hprevious] at h
      rw [h, show msg.now - 0 = msg.now from BitVec.sub_zero _]
      constructor
      · intro hrepeat htime heq
        obtain ⟨previous, hmem, -⟩ := hrepeat ⟨heq, htime⟩
        cases hmem
      · rintro hseparated ⟨heq, htime⟩
        exact absurd heq (hseparated htime)

/-- **The duplicate filter drops only repetitions**, over every sequence of messages, arrival times
and log-outs, exactly if the checksum separates each message from the one before it. -/
theorem allSteps_onlyRepeats_iff (es : List Event) :
    machine.AllSteps OnlyRepeats start es ↔ machine.AllSteps Separated start es :=
  Machine.allSteps_congr (I := Consistent) (fun _ _ _ h _ hs => h.step hs)
    (fun _ _ h => onlyRepeats_iff h) rfl

/-- **An event is lost** that differs from the one before it: two devices are switched on within a
second, and the words of their ids are the same in another order. -/
theorem not_allSteps_onlyRepeats : ¬ ∀ es, machine.AllSteps OnlyRepeats start es := by
  intro h
  let on (id : String) : List Byte :=
    JsonT.bytesOfString ("\x7b\"event\":\"on\",\"id\":\"" ++ id ++ "\"\x7d")
  have hfirst := step_executed (s := start) ⟨on "1020", 100⟩ (by decide +kernel)
  have hsecond := ((h [.message ⟨on "1020", 100⟩, .message ⟨on "2010", 101⟩] _ hfirst).2 _ rfl).1
  obtain ⟨previous, hmem, hsame, -⟩ := hsecond (by decide +kernel) (by decide +kernel)
  obtain rfl := Option.some.inj hmem
  exact absurd hsame (by decide +kernel)

end Duplicates

end Mqtt

end Lcm
