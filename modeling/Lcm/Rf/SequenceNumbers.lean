import Lcm.Rf.Framing

/-!
# Sequence numbers of scene-controller commands

A scene controller sends every command several times, with the same sequence number.  The receive
task remembers the sequence number of a scene request or adjustment, so that it executes it once;
it does not remember that of a master off.

## Main definitions

* `receivedCommand` : the scene-controller command that a byte completes, and its sequence number.
* `observed` : the receive task, together with the commands it has received.
* `Suppresses` : a command is executed exactly if it is not a repetition.
* `Distinct` : a command after a master off can be told from a repetition.

## Main results

* `executes_iff` : which commands are executed.
* `allSteps_suppresses_iff` : the runs in which exactly the repetitions are suppressed.
-/

namespace Lcm

namespace Rf

/-! ### Scene-controller commands -/

/-- Where the sequence number of a scene-controller command is among its parameters. -/
def Command.sequenceOffset : Command → Option ℕ
  | .sceneControllerMasterOff => some 1
  | .sceneRequested => some 3
  | .sceneAdjust => some 3
  | _ => none

/-- A packet with a good checksum and a group address, outside of manufacturing test mode. -/
def IsCommand (s : Receiver) : Prop :=
  (checkPacket s.receivedPacket (s.receivedPacket 1)
      (topdogFamilyOf (s.receivedPacket 3))).value = true ∧
    s.manufacturingTestModeFlag = false ∧
    (topdogAddressModeOf (s.receivedPacket 3) = tdamBroadcast ∨
      topdogAddressModeOf (s.receivedPacket 3) = tdamAnonMulticast ∨
      topdogAddressModeOf (s.receivedPacket 3) = tdamMulticast) ∧
    s.receivedPacket 5 &&& 0x10 = 0

instance (s : Receiver) : Decidable (IsCommand s) := inferInstanceAs (Decidable (_ ∧ _))

/-- The scene-controller command in a complete packet, and its sequence number.  In manufacturing
test mode, packets are not commands. -/
def sceneControllerCommand (s : Receiver) : Option (Command × Byte) :=
  if IsCommand s then do
    let command := (readCommand s.receivedPacket).value
    let c ← Command.ofWord command.1
    let offset ← c.sequenceOffset
    pure (c, s.receivedPacket (command.2 + offset))
  else none

/-- The scene-controller command in the packet that a byte completes. -/
def receivedCommand (s : Receiver) (inByte : Byte) : Option (Command × Byte) :=
  let s := awaitByte s
  if isAck s inByte then none
  else
    let (s, gotAPacketFlag) := buildReceivedPacket s inByte
    if gotAPacketFlag then sceneControllerCommand s else none

/-- The scene-controller command that a call executes. -/
def Call.command : Call → Option Command
  | .handleSceneControllerMasterOff .. => some .sceneControllerMasterOff
  | .handleSceneControllerSceneRequest .. => some .sceneRequested
  | .handleSceneControllerSceneAdjust .. => some .sceneAdjust
  | _ => none

/-- One of the calls executes the command. -/
def Executes (calls : List Call) (c : Command) : Prop := ∃ call ∈ calls, call.command = some c

instance (calls : List Call) (c : Command) : Decidable (Executes calls c) :=
  inferInstanceAs (Decidable (∃ call ∈ calls, call.command = some c))

/-! ### Commands in a row -/

/-- The receive task, and what it has received. -/
structure Observed where
  /-- The receive task. -/
  receiver : Receiver
  /-- The last scene-controller command, and its sequence number. -/
  previous : Option (Command × Byte)
  /-- The sequence number of the last scene request or adjustment, 0 if there was none. -/
  selected : Byte

/-- The scene-controller command that an event completes. -/
def Event.command (s : Receiver) : Event → Option (Command × Byte)
  | .byte inByte => receivedCommand s inByte
  | _ => none

/-- What is known of the commands after another one. -/
def Observed.next (s : Observed) (receiver : Receiver) : Option (Command × Byte) → Observed
  | none => { s with receiver := receiver }
  | some (c, n) =>
    { receiver := receiver
      previous := some (c, n)
      selected := if c = .sceneControllerMasterOff then s.selected else n }

/-- The receive task from its start on. -/
def observed : Machine Observed Event where
  init s := s.receiver.currentReceiveState = .idle ∧ s.receiver.oldSequenceNumber = 0 ∧
    s.previous = none ∧ s.selected = 0
  step s e := (receiveStep s.receiver e).map fun receiver => s.next receiver (e.command s.receiver)

/-- **A command that repeats the sequence number of the previous one is not executed again, unless
the number is zero, and a command with another number is executed.** -/
def Suppresses (s : Observed) : Event → Prop
  | .byte inByte =>
    ∀ p ∈ receivedCommand s.receiver inByte,
      (s.previous.map Prod.snd ≠ some p.2 → Executes (receiveByte s.receiver inByte).calls p.1) ∧
      (s.previous.map Prod.snd = some p.2 → p.2 ≠ 0 →
        ¬ Executes (receiveByte s.receiver inByte).calls p.1)
  | _ => True

instance (s : Observed) : (e : Event) → Decidable (Suppresses s e)
  | .byte inByte => inferInstanceAs (Decidable (∀ p ∈ receivedCommand s.receiver inByte, _))
  | .timeout | .setManufacturingTestMode _ | .setSentQueue _ | .setMemory _ => .isTrue trivial

/-- **A command after a master off can be told from a repetition**: if its sequence number is not
zero, it is that of the master off exactly if it is that of the last scene request or adjustment
before. -/
def Distinct (s : Observed) (e : Event) : Prop :=
  ∀ p ∈ e.command s.receiver, ∀ n, s.previous = some (.sceneControllerMasterOff, n) →
    p.2 ≠ 0 → (p.2 = n ↔ p.2 = s.selected)

/-! ### One packet -/

/-- What happens to a command with the given sequence number. -/
structure Handled (s : Receiver) (c : Command) (n : Byte) (r : Receiver × List Call) : Prop where
  /-- It is executed if the number is not the one that is remembered. -/
  executes : Executes r.2 c ↔ n ≠ s.oldSequenceNumber ∨ n = 0
  /-- Its number is remembered, except for a master off. -/
  remembers : r.1.oldSequenceNumber =
    if c = .sceneControllerMasterOff then s.oldSequenceNumber else n

variable {s : Receiver} {c : Command} {k packIdx : ℕ} {timeToLive : Byte} {a : Address}

theorem executes_singleton (call : Call) : Executes [call] c ↔ call.command = some c := by
  simp [Executes]

theorem not_executes_nil : ¬ Executes [] c := by simp [Executes]

theorem newSequence_iff : newSequence s = true ↔
    s.newSequenceNumber ≠ s.oldSequenceNumber ∨ s.newSequenceNumber = 0 := decide_eq_true_iff

/-- A command whose sequence number is not new has the one that is remembered. -/
theorem eq_of_not_newSequence (h : ¬ newSequence s = true) :
    s.newSequenceNumber = s.oldSequenceNumber := by
  by_contra hne
  exact h (newSequence_iff.2 (.inl hne))

/-- The commands with a sequence number. -/
theorem processCommand_handled (hoffset : c.sequenceOffset = some k) :
    Handled s c (s.receivedPacket (packIdx + k))
      (processCommand s timeToLive a packIdx c).value := by
  cases c with
  | ramp | status => cases hoffset
  | sceneControllerMasterOff =>
    cases hoffset
    simp only [processCommand, Reading.value_bind, Reading.value_ite]
    split
    · rename_i hnew
      exact ⟨iff_of_true ((executes_singleton _).2 rfl) (newSequence_iff.1 hnew), rfl⟩
    · rename_i hnew
      exact ⟨iff_of_false not_executes_nil fun h => hnew (newSequence_iff.2 h), rfl⟩
  | sceneRequested =>
    cases hoffset
    simp only [processCommand, Reading.value_bind, Reading.value_ite]
    split
    · rename_i hnew
      exact ⟨iff_of_true ((executes_singleton _).2 rfl) (newSequence_iff.1 hnew), rfl⟩
    · rename_i hnew
      refine ⟨iff_of_false not_executes_nil fun h => hnew (newSequence_iff.2 h), ?_⟩
      exact (eq_of_not_newSequence hnew).symm
  | sceneAdjust =>
    cases hoffset
    simp only [processCommand, Reading.value_bind, Reading.value_ite]
    split
    · rename_i hnew
      exact ⟨iff_of_true ((executes_singleton _).2 rfl) (newSequence_iff.1 hnew), rfl⟩
    · rename_i hnew
      refine ⟨iff_of_false not_executes_nil fun h => hnew (newSequence_iff.2 h), ?_⟩
      exact (eq_of_not_newSequence hnew).symm

/-- The other commands. -/
theorem processCommand_other (hoffset : c.sequenceOffset = none) :
    (processCommand s timeToLive a packIdx c).value.1.oldSequenceNumber = s.oldSequenceNumber := by
  cases c with
  | ramp =>
    simp only [processCommand, Reading.value_bind, Reading.value_ite]
    split_ifs <;> rfl
  | status => rfl
  | sceneControllerMasterOff | sceneRequested | sceneAdjust => cases hoffset

theorem processReceivedPacket_of_isCommand (h : IsCommand s) :
    (processReceivedPacket s).value =
      match Command.ofWord (readCommand s.receivedPacket).value.1 with
      | some c => (processCommand s (timeToLiveOf (s.receivedPacket 3))
        (readAddress s.receivedPacket).value (readCommand s.receivedPacket).value.2 c).value
      | none => (s, []) := by
  obtain ⟨hvalid, htest, hmode, hgroup⟩ := h
  simp only [processReceivedPacket, processValidPacket, Reading.value_bind, hvalid, htest, hmode,
    hgroup, if_true, Bool.false_eq_true, if_false]
  cases Command.ofWord (readCommand s.receivedPacket).value.1 with
  | none => rfl
  | some c => rfl

/-- Other packets do not change what is remembered. -/
theorem processReceivedPacket_of_not_isCommand (h : ¬ IsCommand s) :
    (processReceivedPacket s).value.1.oldSequenceNumber = s.oldSequenceNumber := by
  simp only [processReceivedPacket, processValidPacket, Reading.value_bind, Reading.value_ite]
  split
  · rename_i hvalid
    split
    · rfl
    · rename_i htest
      split
      · rename_i hmode
        split
        · rename_i hgroup
          exact absurd ⟨hvalid, Bool.eq_false_iff.2 htest, hmode, hgroup⟩ h
        · rfl
      · rfl
  · rfl

/-- What happens to a scene-controller command. -/
theorem processReceivedPacket_handled {p : Command × Byte} (h : sceneControllerCommand s = some p) :
    Handled s p.1 p.2 (processReceivedPacket s).value := by
  unfold sceneControllerCommand at h
  split_ifs at h with hcommand
  obtain ⟨c, hc, h⟩ := Option.bind_eq_some_iff.1 h
  obtain ⟨k, hoffset, h⟩ := Option.bind_eq_some_iff.1 h
  cases h
  rw [processReceivedPacket_of_isCommand hcommand, hc]
  exact processCommand_handled hoffset

/-- Any other packet does not change what is remembered. -/
theorem processReceivedPacket_other (h : sceneControllerCommand s = none) :
    (processReceivedPacket s).value.1.oldSequenceNumber = s.oldSequenceNumber := by
  by_cases hcommand : IsCommand s
  · rw [processReceivedPacket_of_isCommand hcommand]
    cases hc : Command.ofWord (readCommand s.receivedPacket).value.1 with
    | none => rfl
    | some c =>
      refine processCommand_other ?_
      rw [sceneControllerCommand, if_pos hcommand] at h
      cases hoffset : c.sequenceOffset with
      | none => rfl
      | some k =>
        dsimp only at h
        rw [hc, Option.bind_eq_bind, Option.bind_some, hoffset] at h
        cases h
  · exact processReceivedPacket_of_not_isCommand hcommand

/-! ### One byte -/

theorem buildReceivedPacket_oldSequenceNumber (s : Receiver) (inByte : Byte) :
    (buildReceivedPacket s inByte).1.oldSequenceNumber = s.oldSequenceNumber := by
  unfold buildReceivedPacket
  dsimp only
  split
  · rfl
  · split
    · split <;> rfl
    · split <;> rfl
    · rfl
    · split <;> rfl

theorem awaitByte_oldSequenceNumber (s : Receiver) :
    (awaitByte s).oldSequenceNumber = s.oldSequenceNumber := by
  unfold awaitByte
  split_ifs <;> rfl

/-- **Which commands are executed, and which are remembered.** -/
theorem receiveByte_handled {inByte : Byte} {p : Command × Byte}
    (h : receivedCommand s inByte = some p) :
    Handled s p.1 p.2 ((receiveByte s inByte).receiver, (receiveByte s inByte).calls) := by
  unfold receivedCommand at h
  unfold receiveByte
  dsimp only at h ⊢
  split_ifs at h ⊢ with hack hpacket
  have hhandled := processReceivedPacket_handled h
  refine ⟨hhandled.executes.trans ?_, hhandled.remembers.trans ?_⟩
  · rw [buildReceivedPacket_oldSequenceNumber, awaitByte_oldSequenceNumber]
  · rw [buildReceivedPacket_oldSequenceNumber, awaitByte_oldSequenceNumber]

theorem receiveByte_other {inByte : Byte} (h : receivedCommand s inByte = none) :
    (receiveByte s inByte).receiver.oldSequenceNumber = s.oldSequenceNumber := by
  unfold receivedCommand at h
  unfold receiveByte
  dsimp only at h ⊢
  split_ifs at h ⊢ with hack hpacket
  · exact awaitByte_oldSequenceNumber s
  · refine (processReceivedPacket_other h).trans ?_
    rw [buildReceivedPacket_oldSequenceNumber, awaitByte_oldSequenceNumber]
  · rw [buildReceivedPacket_oldSequenceNumber, awaitByte_oldSequenceNumber]

/-- What is remembered after a command, or none. -/
def remember (oldSequenceNumber : Byte) : Option (Command × Byte) → Byte
  | none => oldSequenceNumber
  | some (c, n) => if c = .sceneControllerMasterOff then oldSequenceNumber else n

/-- What is remembered after any event. -/
theorem receiveStep_oldSequenceNumber {e : Event} {s' : Receiver} (h : receiveStep s e = some s') :
    s'.oldSequenceNumber = remember s.oldSequenceNumber (e.command s) := by
  cases e with
  | byte inByte =>
    cases h
    change _ = remember s.oldSequenceNumber (receivedCommand s inByte)
    cases hcommand : receivedCommand s inByte with
    | none => exact receiveByte_other hcommand
    | some p => exact (receiveByte_handled hcommand).remembers
  | timeout =>
    simp only [receiveStep] at h
    split_ifs at h
    cases h
    rfl
  | setManufacturingTestMode | setSentQueue | setMemory =>
    cases h
    rfl

/-! ### Whole runs -/

/-- **The invariant**: what the receive task remembers is the number of the last scene request or
adjustment, which is the last command unless that is a master off. -/
structure SequenceInv (s : Observed) : Prop where
  /-- What is remembered. -/
  remembered : s.receiver.oldSequenceNumber = s.selected
  /-- At the beginning, nothing is. -/
  first : s.previous = none → s.selected = 0
  /-- The last command. -/
  last : ∀ c n, s.previous = some (c, n) → c ≠ .sceneControllerMasterOff → n = s.selected

theorem SequenceInv.step {s s' : Observed} {e : Event} (h : SequenceInv s)
    (hs : observed.step s e = some s') : SequenceInv s' := by
  obtain ⟨receiver, hreceiver, rfl⟩ := Option.map_eq_some_iff.1 hs
  have hremembered := receiveStep_oldSequenceNumber hreceiver
  cases hcommand : e.command s.receiver with
  | none =>
    rw [hcommand] at hremembered
    exact ⟨hremembered.trans h.remembered, h.first, h.last⟩
  | some p =>
    obtain ⟨c, n⟩ := p
    rw [hcommand] at hremembered
    refine ⟨hremembered.trans ?_, (nomatch ·), ?_⟩
    · rw [h.remembered]
      rfl
    · rintro _ _ ⟨⟩ hne
      exact (if_neg hne).symm

/-- Which steps suppress exactly the repetitions. -/
theorem SequenceInv.suppresses_iff {s : Observed} {e : Event} (h : SequenceInv s) :
    Suppresses s e ↔ Distinct s e := by
  cases e with
  | byte inByte =>
    refine forall₂_congr fun p hp => ?_
    have hexecutes := (receiveByte_handled hp).executes
    rw [h.remembered] at hexecutes
    rw [hexecutes]
    cases hprevious : s.previous with
    | none =>
      -- the first command is executed, as nothing is remembered
      rw [h.first hprevious]
      exact iff_of_true ⟨fun _ => (em (p.2 = 0)).symm, nofun⟩ nofun
    | some previous =>
      obtain ⟨c, n⟩ := previous
      by_cases hc : c = .sceneControllerMasterOff
      · subst hc
        simp only [Option.map_some, Option.some.injEq, Prod.mk.injEq, true_and, forall_eq']
        grind
      · obtain rfl := h.last _ _ hprevious hc
        simp only [Option.map_some, Option.some.injEq, Prod.mk.injEq, hc]
        grind
  | _ => exact iff_of_true trivial fun _ hp => nomatch hp

/-- **Which runs suppress exactly the repetitions**: those in which every command after a master
off can be told from a repetition. -/
theorem allSteps_suppresses_iff (s : Observed) (es : List Event) (hs : observed.init s) :
    observed.AllSteps Suppresses s es ↔ observed.AllSteps Distinct s es := by
  obtain ⟨-, hremembered, hprevious, hselected⟩ := hs
  refine Machine.allSteps_congr (I := SequenceInv) (fun _ _ _ hinv _ hs => hinv.step hs)
    (fun _ _ hinv => hinv.suppresses_iff) ⟨hremembered.trans hselected.symm, fun _ => hselected, ?_⟩
  intro c n h
  cases hprevious.symm.trans h

/-- The receive task at its start. -/
def Observed.start : Observed := ⟨.start, none, 0⟩

/-- A master off with the sequence number 5. -/
def masterOffFrame : List Byte := [0xb2, 9, 0, 0x20, 0, 0, 0, 0x2F, 0, 5, 0, 0xbd]

theorem allSteps_suppresses_iff_masterOff :
    observed.AllSteps Suppresses .start (masterOffFrame.map .byte) ↔
      observed.AllSteps Distinct .start (masterOffFrame.map .byte) :=
  allSteps_suppresses_iff .start _ ⟨rfl, rfl, rfl, rfl⟩

/-- A master off that is repeated is executed again. -/
theorem not_allSteps_suppresses :
    ¬ ∀ s es, observed.init s → observed.AllSteps Suppresses s es := by
  intro h
  have hrun := h .start ((masterOffFrame ++ masterOffFrame).map .byte) ⟨rfl, rfl, rfl, rfl⟩
  exact absurd hrun (by decide +kernel)

end Rf

end Lcm
