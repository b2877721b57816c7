import Lcm.Delimited
import Lcm.Jansson.RoundTrip
import Lcm.Json.ReceiveBuffer

/-!
# Values on a JSON connection

A value is sent as the text that `json_dumps` writes and a terminator.  The bytes of the texts are
received one by one, with pauses anywhere, and each text that ends is read by `json_loads`.

## Main definitions

* `outcomes` : what becomes of the messages that end.
* `loaded` : the value that a message is read as.

## Main results

* `outcomes_eq` : the messages are handed to the parser one by one, as they have been sent.
* `loaded_outcomes` : the values that have been sent are those that are received.
-/

namespace Lcm

namespace Json

namespace ReceiveBuffer

open Jansson

variable {st : State} {texts : List (List Byte)}

/-- The byte that an event brings. -/
def Event.bytes : Event → List Byte
  | .byte input => [input.rxbuf]
  | .pause => []

/-- What becomes of the message that ends with an event, if one does. -/
def outcome (st : State) : Event → Option Outcome
  | .byte input => (handleByte st.socket input).value.1
  | .pause => none

/-- What becomes of the messages that end. -/
def outcomes : State → List Event → List Outcome
  | _, [] => []
  | st, e :: es => (outcome st e).toList ++ ((step st e).map fun st' => outcomes st' es).getD []

/-- The value that a message is read as. -/
def loaded (jsonpStrtod : List Byte → Option String) : Outcome → Option JsonT
  | .parsed text _ => (jsonLoadsText jsonpStrtod text).toOption
  | _ => none

/-- No message ends with a character. -/
theorem outcome_of_ne_zero {input : Input} (hbyte : input.rxbuf ≠ 0) :
    outcome st (.byte input) = none := by
  rw [outcome, handleByte, Logged.value_bind, if_neg hbyte]
  rfl

/-- What has been received since the last terminator is the beginning of a text, or of what is
behind the texts. -/
theorem eq_of_append_terminated {received rest : List Byte} (hreceived : 0 ∉ received)
    (htexts : ∀ text ∈ texts, 0 ∉ text)
    (heq : received ++ 0 :: rest = Delimited.terminated 0 texts) :
    ∃ texts', texts = received :: texts' ∧ rest = Delimited.terminated 0 texts' := by
  cases texts with
  | nil => exact absurd heq (List.append_ne_nil_of_right_ne_nil _ (List.cons_ne_nil _ _))
  | cons text texts =>
    have hcons : Delimited.terminated 0 (text :: texts) =
        text ++ 0 :: Delimited.terminated 0 texts := by
      rw [Delimited.terminated, List.flatMap_cons, List.append_assoc]
      rfl
    rw [hcons] at heq
    have hpieces := congrArg (Delimited.pieces 0) heq
    rw [Delimited.pieces_append_cons hreceived,
      Delimited.pieces_append_cons (htexts text List.mem_cons_self)] at hpieces
    obtain ⟨rfl, -⟩ := List.cons.inj hpieces
    exact ⟨texts, rfl, (List.cons.inj (List.append_cancel_left heq)).2⟩

/-- **The messages are handed to the parser as they have been sent**, one by one, however they are
divided. -/
theorem outcomes_eq (hinv : Inv st) (es : List Event) (hharmless : machine.AllSteps Harmless st es)
    (htexts : ∀ text ∈ texts, 0 ∉ text ∧ text.length < socketReceiveBufferMaxSize)
    (hbytes : st.received ++ es.flatMap Event.bytes = Delimited.terminated 0 texts) :
    outcomes st es = texts.map fun text => .parsed text true := by
  induction es generalizing st texts with
  | nil =>
    cases texts with
    | nil => rfl
    | cons text texts =>
      rw [List.flatMap_nil, List.append_nil] at hbytes
      refine absurd ?_ hinv.noNul
      rw [hbytes, Delimited.terminated, List.flatMap_cons]
      simp
  | cons e es ih =>
    rw [List.flatMap_cons] at hbytes
    cases e with
    | pause =>
      obtain ⟨-, hes⟩ := hharmless st rfl
      exact ih hinv hes htexts hbytes
    | byte input =>
      obtain ⟨he, hes⟩ := hharmless ⟨_, _⟩ rfl
      have hnext := hinv.step he rfl
      have hcons : outcomes st (.byte input :: es) = (outcome st (.byte input)).toList ++
          outcomes ⟨(handleByte st.socket input).value.2,
            if input.rxbuf = 0 then [] else st.received ++ [input.rxbuf]⟩ es := rfl
      rw [hcons]
      by_cases hend : input.rxbuf = 0
      · rw [Event.bytes, hend, List.singleton_append] at hbytes
        obtain ⟨texts', rfl, hrest⟩ :=
          eq_of_append_terminated hinv.noNul (fun text ht => (htexts text ht).1) hbytes
        have hlength := (htexts st.received List.mem_cons_self).2
        have hparsed : outcome st (.byte input) = some (.parsed st.received true) := by
          have hhandled := ((hinv.handled_iff (.byte input)).2 he).2 hend
          rwa [if_pos hlength] at hhandled
        have hlater := ih hnext hes (fun text ht => htexts text (List.mem_cons_of_mem _ ht)) (by
          simp only [if_pos hend]
          exact hrest)
        rw [hparsed, hlater]
        rfl
      · rw [outcome_of_ne_zero hend]
        refine ih hnext hes htexts ?_
        simp only [if_neg hend]
        rw [List.append_assoc]
        exact hbytes

/-- **The values that have been sent are received**: none is lost, changed, doubled or moved. -/
theorem loaded_outcomes (flags : DumpFlags) (jsonpDtostr : String → Option (List Byte))
    (jsonpStrtod : List Byte → Option String) (bytes : ℕ → Byte) (httpSocket : Bool)
    (es : List Event) (sent : List (JsonT × List Byte))
    (hsent : ∀ message ∈ sent, Loadable jsonpDtostr jsonpStrtod message.1 ∧
      jsonDumps flags jsonpDtostr message.1 = some message.2 ∧
        message.2.length < socketReceiveBufferMaxSize)
    (hbytes : es.flatMap Event.bytes = Delimited.terminated 0 (sent.map Prod.snd))
    (hharmless : machine.AllSteps Harmless (start bytes httpSocket) es) :
    (outcomes (start bytes httpSocket) es).map (loaded jsonpStrtod) =
      sent.map fun message => some message.1 := by
  have hread : ∀ message ∈ sent, jsonLoadsText jsonpStrtod message.2 = .ok message.1 ∧
      0 ∉ message.2 := by
    intro message hmessage
    obtain ⟨hloadable, hdump, -⟩ := hsent message hmessage
    obtain ⟨text, htext, hnul, hload⟩ :=
      jsonLoadsText_jsonDumps flags jsonpDtostr jsonpStrtod message.1
        (container_of_jsonDumps flags jsonpDtostr hdump) hloadable
    obtain rfl := Option.some.inj (hdump.symm.trans htext)
    exact ⟨hload, hnul⟩
  have htexts : ∀ text ∈ sent.map Prod.snd,
      0 ∉ text ∧ text.length < socketReceiveBufferMaxSize := by
    intro text htext
    obtain ⟨message, hmessage, rfl⟩ := List.mem_map.1 htext
    exact ⟨(hread message hmessage).2, (hsent message hmessage).2.2⟩
  rw [outcomes_eq (inv_start bytes httpSocket) es hharmless htexts hbytes, List.map_map,
    List.map_map]
  refine List.map_congr_left ?_
  intro message hmessage
  have hload : (jsonLoadsText jsonpStrtod message.2).toOption = some message.1 := by
    rw [(hread message hmessage).1]
    rfl
  exact hload

/-- An empty object. -/
theorem loaded_outcomes_empty :
    (outcomes (start (fun _ => 0) false) [.byte (character 0x7B), .pause, .byte (character 0x7D),
      .byte (character 0)]).map (loaded fun _ => none) = [some (.object [])] := by
  refine loaded_outcomes compactFlags (fun _ => none) (fun _ => none) (fun _ => 0) false _
    [(.object [], [0x7B, 0x7D])] ?_ rfl ?_
  · intro message hmessage
    obtain rfl := List.mem_singleton.1 hmessage
    refine ⟨?_, rfl, by decide⟩
    simp [Loadable, LoadableMembers]
  · have hshort : ∀ b st, b ≠ 0 → st.socket.jsonReceiveMessage ≠ none →
        Harmless st (.byte (character b)) := by
      intro b st hb hbuffer
      exact ⟨fun _ => hbuffer, fun hzero => absurd hzero hb⟩
    refine .cons rfl (hshort _ _ (by decide) (Option.some_ne_none _)) (.cons rfl trivial
      (.cons rfl (hshort _ _ (by decide) (Option.some_ne_none _)) (.cons rfl ?_ trivial)))
    refine ⟨fun _ => Option.some_ne_none _, fun _ => ⟨rfl, ?_, ?_⟩⟩
    · intro hfails
      exact absurd hfails.2.2 (Option.some_ne_none _)
    · rintro (hsocket | hhttp)
      · cases hsocket
      · exact absurd hhttp (by decide)

end ReceiveBuffer

end Json

end Lcm
