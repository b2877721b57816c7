import Lcm.Jsr.Reader

/-!
# The streaming JSON reader does not depend on the buffers

Whatever the reader knows is in its state, and its place in the buffer is all that depends on the
buffer: reading a stream of buffers is reading its characters one after the other.

## Main definitions

* `consume` : reading characters one after the other.

## Main results

* `readAll_eq_consume` : a stream of buffers is read so.
* `readAll_flatten` : it is read as if it were one buffer.
-/

namespace Lcm

namespace Jsr

/-- The characters of a stream, one after the other: the last state, and the states in which
`jsr_read` returns as an object has ended. -/
def consume (s : JsrState) : List Byte → Logged Access (JsrState × List JsrState)
  | [] => pure (s, [])
  | c :: cs => do
    let (s, ended) ← readChar s c
    let (s', events) ← consume s cs
    pure (s', if ended then s :: events else events)

/-- The reader at the beginning of a buffer, with the events so far. -/
def atStart (r : JsrState × List JsrState) : JsrEnv × List JsrState :=
  ({ r.1 with readIdx := 0 }, r.2)

/-- Reading two streams, one after the other. -/
theorem consume_append (s : JsrState) (stream stream' : List Byte) :
    consume s (stream ++ stream') = (do
      let (s, events) ← consume s stream
      let (s, events') ← consume s stream'
      pure (s, events ++ events')) := by
  induction stream generalizing s with
  | nil => simp [consume]
  | cons c cs ih =>
    simp only [List.cons_append, consume, ih, bind_assoc, pure_bind]
    refine bind_congr fun r => bind_congr fun r' => bind_congr fun r'' => ?_
    split <;> rfl

/-- What the caller does when `jsr_read` has returned. -/
def continueReading (buffer : List Byte) (r : JsrEnv × JsrRet) :
    Logged Access (JsrEnv × List JsrState) :=
  if r.2 = .endObject then do
    let (env, events) ← readBuffer r.1 buffer
    pure (env, r.1.toJsrState :: events)
  else pure (r.1, [])

theorem readBuffer_eq (env : JsrEnv) (buffer : List Byte) :
    readBuffer env buffer = jsrRead env buffer >>= continueReading buffer := by
  rw [readBuffer]
  dsimp only
  refine Logged.ext ?_ ?_
  · rw [Logged.value_bind, continueReading]
    split <;> rfl
  · rw [Logged.log_bind, continueReading]
    split
    · simp
    · simp

/-- What is left of a buffer is read one character after the other. -/
theorem jsrReadFrom_eq_consume (env : JsrEnv) (buffer rest : List Byte)
    (hrest : buffer.drop env.readIdx = rest) :
    jsrReadFrom env rest >>= continueReading buffer = atStart <$> consume env.toJsrState rest := by
  induction rest generalizing env with
  | nil => rfl
  | cons c rest ih =>
    have hnext : buffer.drop (env.readIdx + 1) = rest := by
      rw [← List.drop_drop, hrest]
      rfl
    simp only [jsrReadFrom, consume, bind_assoc, map_bind]
    refine bind_congr fun r => ?_
    have ih := ih { r.1 with readIdx := env.readIdx + 1 } hnext
    obtain ⟨s, ended⟩ := r
    cases ended with
    | true =>
      -- the caller calls again, on the same buffer
      have hagain : readBuffer { s with readIdx := env.readIdx + 1 } buffer =
          atStart <$> consume s rest := by
        rw [readBuffer_eq, jsrRead]
        dsimp only
        rw [hnext]
        exact ih
      simp only [if_true, pure_bind, continueReading, hagain]
      simp only [map_eq_pure_bind, bind_assoc, pure_bind]
      rfl
    | false =>
      refine ih.trans ?_
      simp only [map_eq_pure_bind]
      rfl

/-- What is left of a buffer is read one character after the other. -/
theorem readBuffer_eq_consume (env : JsrEnv) (buffer : List Byte) :
    readBuffer env buffer = atStart <$> consume env.toJsrState (buffer.drop env.readIdx) :=
  (readBuffer_eq env buffer).trans (jsrReadFrom_eq_consume env buffer _ rfl)

/-- **A stream of buffers is read one character after the other.** -/
theorem readAll_eq_consume (env : JsrEnv) (hstart : env.readIdx = 0) (buffers : List (List Byte)) :
    readAll env buffers = atStart <$> consume env.toJsrState buffers.flatten := by
  induction buffers generalizing env with
  | nil =>
    obtain ⟨s, readIdx⟩ := env
    obtain rfl : readIdx = 0 := hstart
    rfl
  | cons buffer buffers ih =>
    rw [readAll, readBuffer_eq_consume, hstart, List.drop_zero, List.flatten_cons, consume_append]
    simp only [map_bind, bind_map_left]
    refine bind_congr fun r => ?_
    rw [ih _ rfl]
    simp only [map_eq_pure_bind, bind_assoc, pure_bind]
    rfl

end Jsr

end Lcm
