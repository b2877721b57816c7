import Lcm.Crc
import Lcm.Memory
import Lcm.Run.Basic
import Lcm.Run.Logged
import Mathlib.Algebra.BigOperators.Group.Finset.Basic

/-!
# Reading from the socket of the MQTT client

`Eliot_Read_CB` receives until it has as many bytes as it is asked for.  A poll that finds no data
ends the call at once, and the call then reports that it has read nothing, also when it has already
received some of the bytes: these are lost.

## Main definitions

* `eliotReadCB` : the function of the source, with all it writes.
* `machine` : a stream is read by one call after the other.
* `Accounted` : all that has been received has been reported.
* `Uninterrupted` : the condition on the polls of a call.

## Main results

* `readLoop_spec` : what the loop leaves in the buffer.
* `readLoop_reports_iff` : when it reports all that it has received.
* `allStates_accounted_iff` : the runs that lose nothing.
-/

namespace Lcm

namespace Mqtt

namespace ReadCallback

/-! ### A call -/

/-- `MAX_BUFFER_SIZE` -/
abbrev maxBufferSize : ℤ := 1024

/-- `MQTT_CODE_ERROR_BAD_ARG` -/
abbrev mqttCodeErrorBadArg : ℤ := -1

/-- `MQTT_CODE_ERROR_TIMEOUT` -/
abbrev mqttCodeErrorTimeout : ℤ := -7

/-- `MQTT_CODE_ERROR_NETWORK` -/
abbrev mqttCodeErrorNetwork : ℤ := -8

/-- What a round of the loop finds at the socket. -/
inductive Poll
  /-- There is data, and `recv` gets `n + 1` bytes of it if there is room for as many. -/
  | data (n : ℕ)
  /-- `RTCS_selectset` returns 0. -/
  | noData
  /-- `RTCS_selectset` returns `RTCS_SOCKET_ERROR`. -/
  | selectError
  /-- `recv` returns 0 or an error. -/
  | recvError

/-- How many bytes there are to be received. -/
def Poll.size : Poll → ℕ
  | data n => n + 1
  | _ => 0

/-- What `recv` writes into the buffer. -/
structure Write where
  /-- The first index. -/
  start : ℕ
  /-- The number of bytes. -/
  length : ℕ

/-- What a call leaves. -/
structure Outcome where
  /-- What it returns. -/
  rc : ℤ
  /-- `bytes`, which it has received. -/
  bytes : ℕ
  /-- `buf` -/
  buf : ℕ → Byte

/-- The loop, with the polls that are still to come; every round but the last receives a byte, so
that as many rounds as bytes are enough.  `stream` is what has not been received before the call. -/
def readLoop (stream : ℕ → Byte) (bufLen : ℕ) :
    ℕ → (ℕ → Poll) → ℕ → (ℕ → Byte) → Logged Write Outcome
  | 0, _, bytes, buf => pure ⟨bytes, bytes, buf⟩
  | rounds + 1, polls, bytes, buf =>
    if bytes < bufLen then
      match polls 0 with
      | .noData => pure ⟨0, bytes, buf⟩
      | .selectError => pure ⟨mqttCodeErrorTimeout, bytes, buf⟩
      | .recvError => pure ⟨mqttCodeErrorNetwork, bytes, buf⟩
      | .data n => do
        let rc := min (n + 1) (bufLen - bytes)
        Logged.touch ⟨bytes, rc⟩
        readLoop stream bufLen rounds (fun i => polls (i + 1)) (bytes + rc)
          (writeList buf bytes ((List.range rc).map fun i => stream (bytes + i)))
    else pure ⟨bytes, bytes, buf⟩

/-- How many bytes a call tries to receive. -/
def limit (bufLen : ℤ) : ℤ := if bufLen > maxBufferSize then maxBufferSize / 2 else bufLen

/-- `Eliot_Read_CB` -/
def eliotReadCB (stream : ℕ → Byte) (buf : ℕ → Byte) (bufLen : ℤ) (polls : ℕ → Poll) :
    Logged Write Outcome :=
  if limit bufLen ≤ 0 then pure ⟨mqttCodeErrorBadArg, 0, buf⟩
  else readLoop stream (limit bufLen).toNat (limit bufLen).toNat polls 0 buf

/-! ### Calls in a row -/

/-- What has become of the stream. -/
structure State where
  /-- The number of bytes that have been received from the socket. -/
  received : ℕ
  /-- The bytes that the calls have reported as read. -/
  reported : List Byte

/-- A call: its arguments, and what its polls find. -/
structure Call where
  /-- `buf`, before the call -/
  buf : ℕ → Byte
  /-- `buf_len` -/
  bufLen : ℤ
  /-- The rounds of the loop. -/
  polls : ℕ → Poll

/-- Nothing has been received. -/
def start : State := ⟨0, []⟩

/-- What a call does to the rest of the stream. -/
def Call.run (c : Call) (stream : ℕ → Byte) (s : State) : Logged Write Outcome :=
  eliotReadCB (fun i => stream (s.received + i)) c.buf c.bufLen c.polls

/-- The state after a call: it reports as many bytes of the buffer as it returns. -/
def State.after (s : State) (o : Outcome) : State where
  received := s.received + o.bytes
  reported := s.reported ++ (List.range o.rc.toNat).map o.buf

/-- A stream is read by one call after the other. -/
def machine (stream : ℕ → Byte) : Machine State Call where
  init s := s = start
  step s c := some (s.after (c.run stream s).value)

/-- **All that has been received has been reported**, in order and without gaps. -/
def Accounted (stream : ℕ → Byte) (s : State) : Prop :=
  s.reported = (List.range s.received).map stream

/-- A call writes no more than it is asked for. -/
def WritesInside (stream : ℕ → Byte) (s : State) (c : Call) : Prop :=
  (c.run stream s).All fun w => (w.start + w.length : ℤ) ≤ c.bufLen

/-- **A call is not interrupted**: once it has received bytes, every poll finds more of them, until
there are as many as it tries to receive. -/
def Call.Uninterrupted (c : Call) : Prop :=
  ∀ k, 0 < ∑ i ∈ Finset.range k, (c.polls i).size → (∀ i < k, 0 < (c.polls i).size) →
    ((∑ i ∈ Finset.range k, (c.polls i).size : ℕ) : ℤ) < limit c.bufLen → 0 < (c.polls k).size

/-! ### The loop -/

section Loop

variable {stream : ℕ → Byte} {bufLen rounds bytes : ℕ} {polls : ℕ → Poll} {buf : ℕ → Byte}

/-- One more piece of the stream is in the buffer. -/
theorem writeList_stream (hbuf : ∀ i < bytes, buf i = stream i) (n : ℕ) :
    ∀ i < bytes + n, writeList buf bytes ((List.range n).map fun i => stream (bytes + i)) i =
      stream i := by
  intro i hi
  rcases Nat.lt_or_ge i bytes with hlt | hge
  · rw [writeList, if_neg (Nat.not_le.2 hlt), hbuf i hlt]
  · obtain ⟨j, rfl⟩ := Nat.exists_eq_add_of_le hge
    have hj : j < n := Nat.lt_of_add_lt_add_left hi
    simp [writeList, hj]

/-- **What the loop does**: it writes inside the buffer, has the beginning of the stream there
afterwards, and reports no more than that. -/
theorem readLoop_spec (stream : ℕ → Byte) (rounds : ℕ) (polls : ℕ → Poll) (buf : ℕ → Byte)
    (hbytes : bytes ≤ bufLen) (hbuf : ∀ i < bytes, buf i = stream i) :
    (readLoop stream bufLen rounds polls bytes buf).All (fun w => w.start + w.length ≤ bufLen) ∧
      (readLoop stream bufLen rounds polls bytes buf).value.rc.toNat ≤
        (readLoop stream bufLen rounds polls bytes buf).value.bytes ∧
      ∀ i < (readLoop stream bufLen rounds polls bytes buf).value.bytes,
        (readLoop stream bufLen rounds polls bytes buf).value.buf i = stream i := by
  induction rounds generalizing polls bytes buf with
  | zero => exact ⟨Logged.all_pure _, Nat.le_refl _, hbuf⟩
  | succ rounds ih =>
    rw [readLoop]
    split
    · cases polls 0 with
      | data n =>
        have hroom : bytes + min (n + 1) (bufLen - bytes) ≤ bufLen := by omega
        obtain ⟨hwrites, hreport, hstream⟩ := ih _ _ hroom (writeList_stream hbuf _)
        exact ⟨(Logged.all_bind _ _).2 ⟨(Logged.all_touch _).2 hroom, hwrites⟩, hreport, hstream⟩
      | noData => exact ⟨Logged.all_pure _, Nat.zero_le _, hbuf⟩
      | selectError => exact ⟨Logged.all_pure _, Nat.zero_le _, hbuf⟩
      | recvError => exact ⟨Logged.all_pure _, Nat.zero_le _, hbuf⟩
    · exact ⟨Logged.all_pure _, Nat.le_refl _, hbuf⟩

/-- The polls find data as long as some of the bytes, but not all, have been received. -/
def Continues (polls : ℕ → Poll) (bufLen bytes : ℕ) : Prop :=
  ∀ k, 0 < bytes + ∑ i ∈ Finset.range k, (polls i).size → (∀ i < k, 0 < (polls i).size) →
    bytes + ∑ i ∈ Finset.range k, (polls i).size < bufLen → 0 < (polls k).size

theorem continues_of_le (h : bufLen ≤ bytes) : Continues polls bufLen bytes :=
  fun _ _ _ hlt => absurd hlt (by omega)

/-- A poll without data may be the first one only. -/
theorem continues_iff_of_size_eq_zero (h : (polls 0).size = 0) (hlt : bytes < bufLen) :
    Continues polls bufLen bytes ↔ bytes = 0 := by
  constructor
  · intro hcontinues
    by_contra hne
    have hfirst := hcontinues 0 (by simpa using Nat.pos_of_ne_zero hne)
      (fun i hi => absurd hi (Nat.not_lt_zero i)) (by simpa using hlt)
    omega
  · rintro rfl k hpos hall -
    cases k with
    | zero => exact absurd hpos (by simp)
    | succ k => exact absurd (hall 0 (Nat.succ_pos k)) (by omega)

/-- A poll with data leaves it to those behind it. -/
theorem continues_iff_of_data {n : ℕ} (h : polls 0 = .data n) :
    Continues polls bufLen bytes ↔
      Continues (fun i => polls (i + 1)) bufLen (bytes + min (n + 1) (bufLen - bytes)) := by
  have hsize : (polls 0).size = n + 1 := by rw [h]; rfl
  have hsum : ∀ k, bytes + ∑ i ∈ Finset.range (k + 1), (polls i).size =
      bytes + (n + 1) + ∑ i ∈ Finset.range k, (polls (i + 1)).size := by
    intro k
    rw [Finset.sum_range_succ', hsize]
    omega
  rcases Nat.lt_or_ge (bufLen - bytes) (n + 1) with hmore | hfits
  · -- there is more than what is asked for
    refine iff_of_true (fun k hpos hall hlt => ?_) (continues_of_le (by omega))
    cases k with
    | zero => omega
    | succ k =>
      rw [hsum] at hlt
      omega
  · rw [Nat.min_eq_left hfits]
    constructor
    · intro hcontinues k hpos hall hlt
      refine hcontinues (k + 1) (by rwa [hsum]) (fun i hi => ?_) (by rwa [hsum])
      cases i with
      | zero => omega
      | succ i => exact hall i (Nat.lt_of_succ_lt_succ hi)
    · intro hcontinues k hpos hall hlt
      cases k with
      | zero => omega
      | succ k =>
        rw [hsum] at hpos hlt
        exact hcontinues k hpos (fun i hi => hall (i + 1) (Nat.succ_lt_succ hi)) hlt

/-- **The loop reports all that it has received** exactly if no poll after the first bytes is
without data. -/
theorem readLoop_reports_iff (hrounds : bufLen ≤ bytes + rounds) :
    (readLoop stream bufLen rounds polls bytes buf).value.rc.toNat =
        (readLoop stream bufLen rounds polls bytes buf).value.bytes ↔
      Continues polls bufLen bytes := by
  induction rounds generalizing polls bytes buf with
  | zero => exact iff_of_true rfl (continues_of_le hrounds)
  | succ rounds ih =>
    rw [readLoop]
    split
    · rename_i hlt
      cases hpoll : polls 0 with
      | data n =>
        rw [continues_iff_of_data hpoll]
        exact ih (by omega)
      | noData =>
        rw [continues_iff_of_size_eq_zero (by rw [hpoll]; rfl) hlt]
        exact eq_comm
      | selectError =>
        rw [continues_iff_of_size_eq_zero (by rw [hpoll]; rfl) hlt]
        exact eq_comm
      | recvError =>
        rw [continues_iff_of_size_eq_zero (by rw [hpoll]; rfl) hlt]
        exact eq_comm
    · rename_i hlt
      exact iff_of_true rfl (continues_of_le (Nat.le_of_not_lt hlt))

end Loop

/-! ### A call, and calls in a row -/

variable {stream : ℕ → Byte} {s : State} {c : Call}

theorem limit_le (bufLen : ℤ) : limit bufLen ≤ bufLen := by
  unfold limit
  split
  · rename_i hlarge
    exact Int.le_of_lt (Int.lt_trans (by decide) hlarge)
  · exact Int.le_refl _

theorem uninterrupted_iff : c.Uninterrupted ↔ Continues c.polls (limit c.bufLen).toNat 0 := by
  simp only [Call.Uninterrupted, Continues, Nat.zero_add, Int.lt_toNat]

/-- What a call leaves in the buffer, and what it returns. -/
theorem run_spec : WritesInside stream s c ∧
    (∀ i < (c.run stream s).value.bytes,
      (c.run stream s).value.buf i = stream (s.received + i)) ∧
    (c.run stream s).value.rc.toNat ≤ (c.run stream s).value.bytes ∧
    ((c.run stream s).value.rc.toNat = (c.run stream s).value.bytes ↔ c.Uninterrupted) := by
  rw [WritesInside, uninterrupted_iff, Call.run, eliotReadCB]
  split
  · rename_i hnone
    refine ⟨Logged.all_pure _, fun i hi => absurd hi (Nat.not_lt_zero i), Nat.le_refl _, ?_⟩
    exact iff_of_true rfl (continues_of_le (by omega))
  · rename_i hsome
    obtain ⟨hwrites, hreport, hbuf⟩ := readLoop_spec
      (fun i => stream (s.received + i)) (limit c.bufLen).toNat c.polls c.buf
      (Nat.zero_le (limit c.bufLen).toNat) fun i hi => absurd hi (Nat.not_lt_zero i)
    refine ⟨fun w hw => ?_, hbuf, hreport, readLoop_reports_iff (Nat.le_add_left _ _)⟩
    have hinside := hwrites w hw
    have hlimit := limit_le c.bufLen
    omega

/-- **A call keeps the stream accounted for** exactly if it is not interrupted. -/
theorem accounted_after_iff (h : Accounted stream s) :
    Accounted stream (s.after (c.run stream s).value) ↔ c.Uninterrupted := by
  obtain ⟨-, hbuf, hreport, hiff⟩ := @run_spec stream s c
  rw [← hiff]
  generalize (c.run stream s).value = o at hbuf hreport
  have hread : (List.range o.rc.toNat).map o.buf =
      (List.range o.rc.toNat).map fun i => stream (s.received + i) :=
    List.map_congr_left fun i hi =>
      hbuf i (Nat.lt_of_lt_of_le (List.mem_range.1 hi) hreport)
  have hreported : (s.after o).reported = (List.range (s.received + o.rc.toNat)).map stream := by
    rw [State.after, h, hread, List.range_add, List.map_append, List.map_map]
    rfl
  rw [Accounted, hreported]
  constructor
  · intro heq
    have hlength := congrArg List.length heq
    simp only [List.length_map, List.length_range, State.after] at hlength
    exact Nat.add_left_cancel hlength
  · intro heq
    rw [heq]
    rfl

/-- **The read callback loses no bytes**, for any stream, any pieces in which it arrives and any
lengths that are asked for, exactly if no call is interrupted after it has received bytes; and it
never writes more than it is asked for. -/
theorem allStates_accounted_iff (stream : ℕ → Byte) (calls : List Call) :
    ((machine stream).AllStates (Accounted stream) start calls ↔
      (machine stream).AllSteps (fun _ c => c.Uninterrupted) start calls) ∧
    (machine stream).AllSteps (WritesInside stream) start calls := by
  constructor
  · refine Machine.allStates_iff_allSteps (I := Accounted stream) (fun _ h => h) ?_ ?_ rfl
    · intro s c s' h hc hs
      obtain rfl := Option.some.inj hs
      exact (accounted_after_iff h).2 hc
    · intro s c s' h hs hgood
      obtain rfl := Option.some.inj hs
      exact (accounted_after_iff h).1 hgood
  · exact Machine.allSteps_of_step (I := fun _ => True) (fun _ _ _ _ _ => trivial)
      (fun _ _ _ _ _ => run_spec.1) trivial calls

/-- **A byte is lost**: one of two bytes arrives, and the next poll finds no data. -/
theorem not_allStates_accounted : ¬ ∀ (stream : ℕ → Byte) (calls : List Call),
    (machine stream).AllStates (Accounted stream) start calls := by
  intro h
  have hafter := (h (fun _ => 0x41)
    [⟨fun _ => 0, 2, fun k => if k = 0 then .data 0 else .noData⟩]).2 _ rfl
  have hlost : ([] : List Byte) = [0x41] := hafter
  cases hlost

end ReadCallback

end Mqtt

end Lcm
