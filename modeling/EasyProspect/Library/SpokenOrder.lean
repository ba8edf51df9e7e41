import EasyProspect.Library.Broadcast

namespace Broadcast

/-!
# What one speaker says to one receiver

A speaker hands out one broadcast after the other, and to each receiver a broadcast once.  So
the broadcasts that one receiver has from one speaker are in the order in which the speaker has
made them, each once, whatever the other speakers do.
-/

universe u v w

variable {Party : Type u} {Text : Type v} [DecidableEq Party]

/-- The broadcast of a speaker that is handed to a receiver. -/
def Event.spokenTo (speaker : Option Party) (receiver : Party) : Event Party Text -> Option Nat
  | .handed broadcast notice other =>
      if notice.speaker = speaker ∧ other = receiver then some broadcast else none
  | _ => none

def spoken (log : List (Event Party Text)) (speaker : Option Party) (receiver : Party) :
    List Nat :=
  log.filterMap (Event.spokenTo speaker receiver)

variable {log : List (Event Party Text)} {speaker : Option Party} {receiver : Party}

theorem spoken_handed {broadcast : Nat} {notice : Notice Party Text}
    (speaks : notice.speaker = speaker) :
    spoken (log ++ [.handed broadcast notice receiver]) speaker receiver =
      spoken log speaker receiver ++ [broadcast] := by
  have here : (Event.handed broadcast notice receiver).spokenTo speaker receiver =
      some broadcast := if_pos ⟨speaks, rfl⟩
  rw [spoken, filterMap_concat, here]
  rfl

theorem spoken_concat {event : Event Party Text}
    (silent : event.spokenTo speaker receiver = none) :
    spoken (log ++ [event]) speaker receiver = spoken log speaker receiver := by
  rw [spoken, filterMap_concat, silent]
  exact List.append_nil _

theorem mem_spoken {broadcast : Nat} :
    broadcast ∈ spoken log speaker receiver <-> Exists fun notice =>
      Event.handed broadcast notice receiver ∈ log ∧ notice.speaker = speaker := by
  rw [spoken, List.mem_filterMap]
  constructor
  · rintro ⟨event, member, told⟩
    cases event with
    | handed number notice other =>
        rcases Option.ite_none_right_eq_some.mp told with ⟨⟨speaks, same⟩, number⟩
        cases same
        cases number
        exact ⟨notice, member, speaks⟩
    | _ => cases told
  · rintro ⟨notice, member, speaks⟩
    exact ⟨_, member, if_pos ⟨speaks, rfl⟩⟩

namespace Room

variable {room next : Room Party Text}

/-- The broadcasts of a speaker come one after the other, and the one that it is handing out is
the last. -/
structure Ordered (room : Room Party Text) : Prop where
  increasing : forall speaker receiver,
    (spoken room.log speaker receiver).Pairwise (fun early late => early < late)
  latest : forall speaker broadcast notice rest,
    room.phase speaker = .handing broadcast notice rest -> rest.Nodup ∧
      forall receiver number, number ∈ spoken room.log speaker receiver ->
        number < broadcast ∨ number = broadcast ∧ receiver ∉ rest

/-- Only the broadcast that its speaker hands out is new. -/
theorem spoken_act {phase : Phase Party Text} {events : List (Event Party Text)}
    {members : List Party} (act : room.Act speaker phase events members)
    (delivering : room.Delivering) (teller : Option Party) (receiver : Party) :
    spoken (room.log ++ events) teller receiver = spoken room.log teller receiver ∨
      Exists fun broadcast => Exists fun notice => Exists fun rest =>
        room.phase speaker = .handing broadcast notice (receiver :: rest) ∧ teller = speaker ∧
          phase = .handing broadcast notice rest ∧
            spoken (room.log ++ events) teller receiver =
              spoken room.log teller receiver ++ [broadcast] := by
  cases act with
  | say => exact Or.inl (by rw [List.append_nil])
  | finish => exact Or.inl (by rw [List.append_nil])
  | hand broadcast notice other rest handing =>
      have speaks := (delivering.handing speaker broadcast notice _ handing).1.speaks
      by_cases here : speaker = teller ∧ other = receiver
      · rcases here with ⟨rfl, rfl⟩
        exact Or.inr ⟨broadcast, notice, rest, handing, rfl, rfl, spoken_handed speaks⟩
      · refine Or.inl (spoken_concat (if_neg fun both => here ⟨?_, both.2⟩))
        exact speaks.symm.trans both.1
  | _ => exact Or.inl (spoken_concat rfl)

/-- What has been handed out has an earlier place in the log. -/
theorem spoken_lt (delivering : room.Delivering) {number : Nat}
    (member : number ∈ spoken room.log speaker receiver) : number < room.log.length := by
  rcases mem_spoken.mp member with ⟨notice, handed, _⟩
  rcases delivering.sourced _ number notice handed rfl with ⟨snapshot, taken⟩
  exact (List.getElem?_eq_some_iff.mp taken).1

theorem ordered_act {phase : Phase Party Text} {events : List (Event Party Text)}
    {members : List Party} (ordered : room.Ordered) (delivering : room.Delivering)
    (roster : room.Roster) (act : room.Act speaker phase events members) :
    (room.after speaker phase events members).Ordered := by
  refine ⟨fun teller receiver => ?_, fun teller broadcast notice rest handing => ?_⟩
  · rcases spoken_act act delivering teller receiver with
      same | ⟨broadcast, notice, rest, before, rfl, _, longer⟩
    · change (spoken (room.log ++ events) teller receiver).Pairwise _
      rw [same]
      exact ordered.increasing teller receiver
    · change (spoken (room.log ++ events) teller receiver).Pairwise _
      rw [longer, List.pairwise_append]
      refine ⟨ordered.increasing teller receiver, List.pairwise_singleton _ _, ?_⟩
      intro early told late here
      rw [List.mem_singleton.mp here]
      rcases (ordered.latest teller broadcast notice _ before).2 receiver early told with
        less | ⟨_, absent⟩
      · exact less
      · exact absurd (List.mem_cons_self ..) absent
  · by_cases same : teller = speaker
    · subst same
      rw [after_phase_self] at handing
      cases act with
      | take announced announcing =>
          cases handing
          refine ⟨roster.nodup, fun receiver number member => Or.inl ?_⟩
          have silent : spoken (room.log ++ [.taken notice room.members]) teller receiver =
              spoken room.log teller receiver := spoken_concat rfl
          change number ∈ spoken (room.log ++ _) teller receiver at member
          rw [silent] at member
          exact spoken_lt delivering member
      | hand number announced other remaining before =>
          cases handing
          rcases ordered.latest teller broadcast notice _ before with ⟨distinct, earlier⟩
          have parts := List.nodup_cons.mp distinct
          have speaks := (delivering.handing teller broadcast notice _ before).1.speaks
          refine ⟨parts.2, fun receiver number member => ?_⟩
          change number ∈ spoken (room.log ++ _) teller receiver at member
          by_cases here : other = receiver
          · subst here
            rw [spoken_handed speaks] at member
            rcases List.mem_append.mp member with old | new
            · refine (earlier other number old).imp_right fun ⟨_, absent⟩ => ?_
              exact absurd (List.mem_cons_self ..) absent
            · exact Or.inr ⟨List.mem_singleton.mp new, parts.1⟩
          · have silent : (Event.handed broadcast notice other).spokenTo teller receiver = none :=
              if_neg fun both => here both.2
            rw [spoken_concat silent] at member
            refine (earlier receiver number member).imp_right fun ⟨own, absent⟩ => ?_
            exact ⟨own, fun among => absent (List.mem_cons_of_mem _ among)⟩
      | _ => cases handing
    · rw [after_phase_other same] at handing
      rcases ordered.latest teller broadcast notice rest handing with ⟨distinct, earlier⟩
      refine ⟨distinct, fun receiver number member => earlier receiver number ?_⟩
      change number ∈ spoken (room.log ++ events) teller receiver at member
      rcases spoken_act act delivering teller receiver with
        unchanged | ⟨_, _, _, _, own, _⟩
      · rw [unchanged] at member
        exact member
      · exact absurd own same

theorem ordered_reachable {Label : Type w}
    (reachable : (system Label : Transition.System (Room Party Text) Label).Reachable room) :
    room.Ordered := by
  refine reachable.invariant_reachable ?_ ?_
  · rintro room rfl
    exact ⟨fun _ _ => List.Pairwise.nil, nofun⟩
  · rintro room label next reached ordered ⟨act⟩
    exact ordered_act ordered (delivering_reachable reached) (roster_reachable reached) act

end Room

end Broadcast
