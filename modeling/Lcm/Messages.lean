import Mathlib.Data.List.Chain

/-!
# Streams cut at a terminator

A stream carries messages, each followed by a terminator.  Where several senders write to one
stream, the messages of the stream are those of the senders, as long as one sender takes over from
another only after a terminator.

## Main definitions

* `messages` : the messages of a stream; what follows the last terminator is not one yet.
* `AtBoundary` : a stream that does not end inside a message.
* `messagesAfter` : the messages that start at or after a position.
* `TakesOver` : one sender's item may follow another's.

## Main results

* `messages_isPrefix` : what has been cut off stays as it is when more arrives.
* `exists_log_of_takesOver` : the messages of a stream with several senders, and who sent each.
-/

namespace Lcm

variable {α β : Type*} [DecidableEq α] [DecidableEq β] {nul : α}

/-- The messages of a stream of which `m` has been read. -/
def messagesFrom (nul : α) (m : List α) : List α → List (List α)
  | [] => []
  | a :: as => if a = nul then m :: messagesFrom nul [] as else messagesFrom nul (m ++ [a]) as

/-- The messages of a stream, without the terminators. -/
def messages (nul : α) (xs : List α) : List (List α) := messagesFrom nul [] xs

/-- The stream does not end inside a message. -/
def AtBoundary (nul : α) (xs : List α) : Prop := ∀ a ∈ xs.getLast?, a = nul

omit [DecidableEq α] in
theorem atBoundary_nil : AtBoundary nul ([] : List α) := nofun

instance (xs : List α) : Decidable (AtBoundary nul xs) :=
  inferInstanceAs (Decidable (∀ a ∈ xs.getLast?, a = nul))

/-- The messages of a stream that start at the position or after it. -/
def messagesAfter (nul : α) (n : ℕ) (xs : List α) : List (List α) :=
  if AtBoundary nul (xs.take n) then messages nul (xs.drop n)
  else (messages nul (xs.drop n)).tail

theorem messagesAfter_of_atBoundary {n : ℕ} {xs : List α} (h : AtBoundary nul (xs.take n)) :
    messagesAfter nul n xs = messages nul (xs.drop n) := if_pos h

/-- **What has been cut off stays as it is** when more arrives. -/
theorem messagesFrom_isPrefix (m xs ys : List α) :
    messagesFrom nul m xs <+: messagesFrom nul m (xs ++ ys) := by
  induction xs generalizing m with
  | nil => exact List.nil_prefix
  | cons a xs ih =>
    simp only [List.cons_append, messagesFrom]
    split
    · exact List.cons_prefix_cons.2 ⟨rfl, ih []⟩
    · exact ih (m ++ [a])

theorem messages_isPrefix {xs ys : List α} (h : xs <+: ys) :
    messages nul xs <+: messages nul ys := by
  obtain ⟨zs, rfl⟩ := h
  exact messagesFrom_isPrefix [] xs zs

/-- An item of one sender may follow one of another only after a terminator. -/
def TakesOver (nul : α) (x y : β × α) : Prop := x.2 = nul ∨ x.1 = y.1

/-- The items of one sender. -/
def sentBy (p : β) (xs : List (β × α)) : List α := (xs.filter (·.1 = p)).map Prod.snd

/-- The messages of one sender. -/
def messagesBy (p : β) (log : List (β × List α)) : List (List α) :=
  (log.filter (·.1 = p)).map Prod.snd

section

variable {p q : β}
omit [DecidableEq α]

theorem sentBy_append (xs ys : List (β × α)) :
    sentBy p (xs ++ ys) = sentBy p xs ++ sentBy p ys := by
  simp [sentBy]

theorem sentBy_map_self (xs : List α) : sentBy p (xs.map fun a => (p, a)) = xs := by
  induction xs with
  | nil => rfl
  | cons a xs ih => simpa [sentBy] using ih

theorem sentBy_map_of_ne (h : q ≠ p) (xs : List α) : sentBy p (xs.map fun a => (q, a)) = [] := by
  induction xs with
  | nil => rfl
  | cons a xs ih => simp [sentBy, h]

theorem messagesBy_cons (m : List α) (log : List (β × List α)) :
    messagesBy p ((q, m) :: log) =
      if q = p then m :: messagesBy p log else messagesBy p log := by
  by_cases h : q = p <;> simp [messagesBy, h]

theorem sentBy_cons (a : α) (xs : List (β × α)) :
    sentBy p ((q, a) :: xs) = if q = p then a :: sentBy p xs else sentBy p xs := by
  by_cases h : q = p <;> simp [sentBy, h]

end

/-- The log of a stream of which `m` has been read, which came from `p`. -/
theorem exists_log_from (p : β) (m : List α) (xs : List (β × α)) (hxs : xs.IsChain (TakesOver nul))
    (hm : m ≠ [] → ∀ x ∈ xs.head?, x.1 = p) :
    ∃ log : List (β × List α), log.map Prod.snd = messagesFrom nul m (xs.map Prod.snd) ∧
      ∀ q, messagesBy q log = messagesFrom nul (if p = q then m else []) (sentBy q xs) := by
  induction xs generalizing p m with
  | nil => exact ⟨[], rfl, fun q => rfl⟩
  | cons x xs ih =>
    obtain ⟨p', a⟩ := x
    -- what has been read came from the sender of the next item, unless it is nothing
    have hread (q : β) : (if p = q then m else []) = if p' = q then m else [] := by
      by_cases hnil : m = []
      · simp [hnil]
      · have hp : p' = p := hm hnil (p', a) rfl
        rw [hp]
    by_cases ha : a = nul
    · obtain ⟨log, hlog, hby⟩ := ih p' [] hxs.tail (fun h => absurd rfl h)
      refine ⟨(p', m) :: log, ?_, fun q => ?_⟩
      · simp [messagesFrom, ha, hlog]
      · rw [messagesBy_cons, sentBy_cons, hread, hby]
        by_cases hq : p' = q
        · simp [hq, messagesFrom, ha]
        · simp [hq]
    · have hnext : ∀ y ∈ xs.head?, y.1 = p' := by
        intro y hy
        cases xs with
        | nil => cases hy
        | cons z zs =>
          obtain rfl : z = y := by simpa using hy
          rcases hxs.rel with h | h
          · exact absurd h ha
          · exact h.symm
      obtain ⟨log, hlog, hby⟩ := ih p' (m ++ [a]) hxs.tail fun _ => hnext
      refine ⟨log, ?_, fun q => ?_⟩
      · simp [messagesFrom, ha, hlog]
      · rw [sentBy_cons, hread, hby]
        by_cases hq : p' = q
        · simp [hq, messagesFrom, ha]
        · simp [hq]

/-- **Who sent which message**: if a sender takes over only after a terminator, the messages of the
stream are the messages of its senders, in the order of each. -/
theorem exists_log_of_takesOver {xs : List (β × α)} (hxs : xs.IsChain (TakesOver nul)) :
    ∃ log : List (β × List α), log.map Prod.snd = messages nul (xs.map Prod.snd) ∧
      ∀ q, messagesBy q log = messages nul (sentBy q xs) := by
  cases xs with
  | nil => exact ⟨[], rfl, fun q => rfl⟩
  | cons x xs =>
    obtain ⟨log, hlog, hby⟩ := exists_log_from x.1 [] (x :: xs) hxs (fun h => absurd rfl h)
    exact ⟨log, hlog, fun q => by simpa [messages] using hby q⟩

end Lcm
