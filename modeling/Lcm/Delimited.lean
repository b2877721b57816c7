import Mathlib.Data.List.Basic

/-!
# Delimited text

A text is read piece by piece, each up to a delimiter, which is left out.  At the end there is one
more piece only if something is left: a text that ends in a delimiter has no empty last piece.

## Main definitions

* `pieces` : the pieces of a text.
* `terminated` : pieces with a delimiter behind each of them.

## Main results

* `pieces_terminated_append` : the pieces are read again.
* `pieces_eq_splitOn` : the pieces are what the text is split into, unless one of them is empty.
-/

namespace Lcm

namespace Delimited

variable {α : Type*} [DecidableEq α] {delim : α} {piece last : List α}

/-- **The pieces of a text.** -/
def pieces (delim : α) : List α → List (List α)
  | [] => []
  | c :: text =>
    if c = delim then [] :: pieces delim text
    else
      match pieces delim text with
      | [] => [[c]]
      | piece :: rest => (c :: piece) :: rest

/-- The pieces, each with a delimiter behind it. -/
def terminated (delim : α) (parts : List (List α)) : List α := parts.flatMap (· ++ [delim])

/-- A piece is read up to its delimiter. -/
theorem pieces_append_cons (h : delim ∉ piece) (text : List α) :
    pieces delim (piece ++ delim :: text) = piece :: pieces delim text := by
  induction piece with
  | nil => exact if_pos rfl
  | cons c piece ih =>
    rw [List.mem_cons, not_or] at h
    obtain ⟨hc, hpiece⟩ := h
    rw [List.cons_append, pieces, if_neg (Ne.symm hc), ih hpiece]

/-- What is left at the end is a piece, unless it is empty. -/
theorem pieces_of_notMem (h : delim ∉ last) :
    pieces delim last = if last = [] then [] else [last] := by
  induction last with
  | nil => rfl
  | cons c last ih =>
    rw [List.mem_cons, not_or] at h
    obtain ⟨hc, hlast⟩ := h
    rw [pieces, if_neg (Ne.symm hc), ih hlast, if_neg (List.cons_ne_nil c last)]
    cases last with
    | nil => rfl
    | cons d last => rfl

/-- **The pieces are read again**, and what is left, unless it is empty. -/
theorem pieces_terminated_append {parts : List (List α)} (h : ∀ piece ∈ parts, delim ∉ piece)
    (hlast : delim ∉ last) :
    pieces delim (terminated delim parts ++ last) =
      parts ++ if last = [] then [] else [last] := by
  induction parts with
  | nil => exact pieces_of_notMem hlast
  | cons piece parts ih =>
    have hpiece := h piece List.mem_cons_self
    have hrest := ih fun piece hp => h piece (List.mem_cons_of_mem _ hp)
    have hcons : terminated delim (piece :: parts) ++ last =
        piece ++ delim :: (terminated delim parts ++ last) := by
      rw [terminated, List.flatMap_cons, List.append_assoc, List.append_assoc]
      rfl
    rw [hcons, pieces_append_cons hpiece, hrest, List.cons_append]

/-- Splitting the text leaves one more piece, if it is empty or ends in a delimiter. -/
theorem splitOn_eq (delim : α) (text : List α) :
    text.splitOn delim = pieces delim text ∨ text.splitOn delim = pieces delim text ++ [[]] := by
  induction text with
  | nil => exact .inr (List.splitOn_nil delim)
  | cons c text ih =>
    rw [List.splitOn, List.splitOnP_cons_eq_if_modifyHead, pieces, ← List.splitOn]
    by_cases hc : c = delim
    · rw [if_pos (beq_iff_eq.2 hc), if_pos hc]
      refine ih.imp (fun h => ?_) fun h => ?_
      · rw [h]
      · rw [h, List.cons_append]
    · rw [if_neg (mt beq_iff_eq.1 hc), if_neg hc]
      cases hpieces : pieces delim text with
      | nil =>
        have hsplit : text.splitOn delim = [[]] := by
          rw [hpieces] at ih
          exact ih.resolve_left (List.splitOnP_ne_nil _ _)
        rw [hsplit]
        exact .inl rfl
      | cons piece rest =>
        rw [hpieces] at ih
        refine ih.imp (fun h => ?_) fun h => ?_
        · rw [h, List.modifyHead_cons]
        · rw [h, List.cons_append, List.modifyHead_cons, List.cons_append]

/-- A text without empty pieces is split into its pieces. -/
theorem pieces_eq_splitOn {text : List α} (h : [] ∉ text.splitOn delim) :
    pieces delim text = text.splitOn delim := by
  obtain hsplit | hsplit := splitOn_eq delim text
  · exact hsplit.symm
  · rw [hsplit] at h
    exact absurd (List.mem_append_right _ List.mem_cons_self) h

end Delimited

end Lcm
