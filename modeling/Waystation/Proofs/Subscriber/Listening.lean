import Waystation.Proofs.Pipeline.Shape
import Waystation.Proofs.Subscriber.Session
/-!
What the listeners of a subscriber do to the messages that they take. However the steps of the listeners
and of those around them interleave, a message is worked on once, by one listener, and is acknowledged
once at most and behind its verdict; once the subscriber has stopped no more are taken, and once it has
given up nothing more is done. A hook that panics before it begins to run takes its listener with it: the
message stays unacknowledged, and the listener a member of its group.
-/
namespace Waystation

/-! Work under way. -/

namespace Pipeline

variable {p : Pipeline Handler} {c : Context} {d : Delivery} {t : List (Exchange WorkSignature)}

/-- Work on a message as far as it has come: hooks are called in order, and only behind the verdict
the message is acknowledged, once, and what failed is reported. Work that a panic breaks off comes to no
verdict. -/
def UnderWay (p : Pipeline Handler) (c : Context) (d : Delivery) (t : List (Exchange WorkSignature)) :
    Prop :=
  (∃ calls failure, p.ComesTo c d.message.payload calls failure
    ∧ (t <+: calls.flatMap Call.exchanged
      ∨ ∃ acked reports, t = calls.flatMap Call.exchanged ++ ⟨.acknowledge d.number, acked⟩ :: reports
        ∧ reports.map (·.1) <+: reportRequests c failure))
  ∨ ∃ calls panic, p.BreaksOff c d.message.payload calls panic ∧ t <+: calls.flatMap Call.exchanged

theorem exists_run (w : Work) : ∃ t r, w.Runs t r := by
  have hreply : ∀ r : WorkRequest, Nonempty r.Reply := fun r => (NodeRequest.work r).nonempty_reply
  exact ⟨_, _, Program.runs_play (fun _ r => Classical.choice (hreply r)) [] w⟩

/-- The delivery that an exchange acknowledges. -/
def acknowledged? (x : Exchange WorkSignature) : Option Nat :=
  match x.1 with
  | .acknowledge delivery => some delivery
  | .user _ => none

theorem filterMap_acknowledged (h : t.filter isAcknowledgement = []) : t.filterMap acknowledged? = [] := by
  refine List.filterMap_eq_nil_iff.2 fun ⟨r, reply⟩ hx => ?_
  have hnot := List.filter_eq_nil_iff.1 h _ hx
  cases r with
  | acknowledge delivery => exact absurd rfl hnot
  | user r => rfl

/-- Work on a message acknowledges that message once at most, and no other. -/
theorem UnderWay.acknowledged (h : p.UnderWay c d t) : (t.filterMap acknowledged?).Sublist [d.number] := by
  have hcalling : ∀ {calls : List Call}, t <+: calls.flatMap Call.exchanged →
      (t.filterMap acknowledged?).Sublist [d.number] := by
    intro calls hbefore
    have hnone := hbefore.sublist.filterMap acknowledged?
    rw [filterMap_acknowledged (filter_exchanged calls)] at hnone
    rw [List.sublist_nil.1 hnone]
    exact List.nil_sublist _
  rcases h with ⟨calls, failure, -, hbefore | ⟨acked, reports, rfl, hreports⟩⟩
    | ⟨calls, panic, -, hbefore⟩
  · exact hcalling hbefore
  · obtain ⟨rest, hrest⟩ := hreports
    have hreported : reports.filterMap acknowledged? = [] := by
      refine List.filterMap_eq_nil_iff.2 fun x hx => ?_
      have hrequest : x.1 ∈ reportRequests c failure :=
        hrest ▸ List.mem_append_left _ (List.mem_map_of_mem hx)
      obtain ⟨f, -, hf⟩ := List.mem_map.1 hrequest
      rw [acknowledged?, ← hf]
    have hlast : (⟨.acknowledge d.number, acked⟩ :: reports : List (Exchange WorkSignature)).filterMap
        acknowledged? = d.number :: reports.filterMap acknowledged? := rfl
    rw [List.filterMap_append, filterMap_acknowledged (filter_exchanged calls), List.nil_append, hlast,
      hreported]
  · exact hcalling hbefore

end Pipeline

namespace Machine

open Listener

variable {start : Conduct} {body : Program NodeSignature Turn} {m : Machine} {es : List Event} {s : Nat}

/-- A listener that takes messages reads a subscription that was made for it. -/
theorem Attended.reads_share (h : Attended (m.during es) (m.log es)) (hsound : Sound start body m [])
    (hbody : Driver start body) {k : Handling}
    (hk : k ∈ handlings (exchanged (.listener s) (m.log es))) :
    ∃ connection o, ⟨.subscribe connection o, .ok s⟩ ∈ exchanged .main (m.log es)
      ∧ ∃ sub ∈ (m.during es).node.network.broker.subscriptions,
        sub.id = s ∧ sub.subject = o.subject ∧ sub.group = o.group
          ∧ ((handlings (exchanged (.listener s) (m.log es))).map (·.delivery)).Sublist
            (((m.during es).node.network.broker.share sub).map Broker.delivery) := by
  have hnow := sound_during hbody hsound es
  cases h.goes s with
  | absent _ hnothing _ =>
    rw [hnothing] at hk
    cases hk
  | going hlisten _ _ _ _ =>
    obtain ⟨q, hleads⟩ := hnow.exists_leads
    have hlistens := (hbody.proper _ q hleads hnow.coherent).listens
    obtain ⟨before, rest, hsplit⟩ := List.append_of_mem hlisten
    obtain ⟨earlier, connection, o, rfl⟩ := hlistens before s _ () rest hsplit
    have hsubscribe : ⟨.subscribe connection o, .ok s⟩ ∈ exchanged .main (m.log es) := by
      rw [hsplit]
      exact List.mem_append_left _ (List.mem_append_right _ (List.mem_singleton.2 rfl))
    obtain ⟨sub, hsub, rfl, hsubject, hgroup⟩ := subscribed_of_exchanged hsubscribe
    exact ⟨connection, o, hsubscribe, sub, hsub, rfl, hsubject, hgroup, h.sublist hsub⟩

end Machine

namespace Subscriber

open Listener Machine

/-- The delivery that a move acknowledges. -/
def acknowledged? (x : Move) : Option Nat := (worked? x.exchange).bind Pipeline.acknowledged?

variable {p : Pipeline Handler} {c : Context} {log : List Move}

variable {m : Machine} {inputs : List String} {commands : List Command} {network : Network}
variable {es : List Event}

/-- What holds of the node of a subscriber at all times, given what was asked so far. -/
structure Standing (p : Pipeline Handler) (c : Context) (inputs : List String) (commands : List Command)
    (m : Machine) (log : List Move) : Prop where
  sound : Sound .idle (body c inputs commands) m log
  dismissed : Dismissed m log
  attended : Attended m log
  duties : m.duties.work = p.work

theorem standing_machine (p : Pipeline Handler) (c : Context) (inputs : List String)
    (commands : List Command) (hnetwork : network.broker.Orderly)
    (hreads : ∃ got, network.broker.InOrder got) :
    Standing p c inputs commands (machine p c inputs commands network) [] where
  sound := sound_machine p c inputs commands hnetwork
  dismissed := dismissed_nil rfl rfl
  attended := by
    refine attended_nil (fun t ht s => ?_) rfl hreads
    rw [List.mem_singleton.1 ht]
    exact nofun
  duties := rfl

theorem Standing.during (h : Standing p c inputs commands m log) (es : List Event) :
    Standing p c inputs commands (m.during es) (log ++ m.log es) where
  sound := sound_during (body_driver c inputs commands) h.sound es
  dismissed := dismissed_during (body_driver c inputs commands) h.sound h.dismissed es
  attended := attended_during (body_driver c inputs commands) h.sound h.attended es
  duties := (congrArg Duties.work (duties_during m es)).trans h.duties

theorem Standing.exists_course (h : Standing p c inputs commands m log) :
    ∃ t', Course c inputs (exchanged .main log ++ t') := by
  obtain ⟨q, hleads⟩ := h.sound.exists_leads
  exact Subscriber.exists_course hleads h.sound.coherent

/-- All listeners have the context of the session. -/
theorem Standing.context (h : Standing p c inputs commands m log) {s : Nat} (c' : Context)
    (hlisten : ⟨.listen s c', ()⟩ ∈ exchanged .main log) : c' = c := by
  obtain ⟨t', hcourse⟩ := h.exists_course
  exact hcourse.context hlisten

theorem Standing.inTurn (h : Standing p c inputs commands m log) (s : Nat) :
    InTurn (p.work c) (handlings (exchanged (.listener s) log))
      ∧ (exchanged (.listener s) log).filterMap worked?
        = (handlings (exchanged (.listener s) log)).flatMap (·.work) := by
  have hturn := h.attended.inTurn (s := s) h.context
  rwa [h.duties] at hturn

/-- A listener takes messages in the order of their numbers. -/
theorem Standing.numbers (h : Standing p c inputs commands m []) (es : List Event) (s : Nat) :
    ((handlings (exchanged (.listener s) (m.log es))).map (·.delivery.number)).Pairwise (· < ·) := by
  have hnow := h.during es
  cases hks : handlings (exchanged (.listener s) (m.log es)) with
  | nil => exact .nil
  | cons k ks =>
    have hk : k ∈ handlings (exchanged (.listener s) (m.log es)) := hks ▸ List.mem_cons_self
    obtain ⟨-, -, -, sub, -, rfl, -, -, hshare⟩ :=
      hnow.attended.reads_share h.sound (body_driver c inputs commands) hk
    rw [← hks]
    have hsorted : ((((m.during es).node.network.broker.share sub).map Broker.delivery).map
        (·.number)).Pairwise (· < ·) := by
      rw [List.map_map, List.pairwise_map]
      exact Broker.share_numbers hnow.sound.crew.orderly.sound sub
    have hown := hsorted.sublist (hshare.map _)
    rwa [List.map_map] at hown

/-- Two listeners take no message of one number. -/
theorem Standing.apart (h : Standing p c inputs commands m [])
    (hnumbered : Group.Numbered m.node.network.broker.groups) (es : List Event) (s s' : Nat) :
    ∀ k ∈ handlings (exchanged (.listener s) (m.log es)),
      ∀ k' ∈ handlings (exchanged (.listener s') (m.log es)),
        k.delivery.number = k'.delivery.number → s = s' := by
  have hnow := h.during es
  have hbody := body_driver c inputs commands
  have hgroups := (evolves_during m es).broker.numbered h.sound.crew.orderly hnumbered
  intro k hk k' hk' hnumber
  obtain ⟨-, -, -, sub, -, rfl, -, -, hshare⟩ := hnow.attended.reads_share h.sound hbody hk
  obtain ⟨-, -, -, sub', -, rfl, -, -, hshare'⟩ := hnow.attended.reads_share h.sound hbody hk'
  obtain ⟨x, hx, hxk⟩ := List.mem_map.1 (hshare.subset (List.mem_map_of_mem hk))
  obtain ⟨y, hy, hyk⟩ := List.mem_map.1 (hshare'.subset (List.mem_map_of_mem hk'))
  rw [← hxk, ← hyk] at hnumber
  exact (hnow.sound.crew.orderly.sound.eq_of_number hgroups hx hy hnumber).2

/-- A session goes on from where it has carried out some commands. -/
theorem leads_carryOut {t later : List (Exchange NodeSignature)} {before rest : List Command}
    (hbefore : (session c inputs before).Runs t ())
    (hruns : (session c inputs (before ++ rest)).Runs (t ++ later) ()) : (carryOut rest).Runs later () := by
  rw [session_append] at hruns
  obtain ⟨q, hleads, hlater⟩ := hruns.exists_leads
  have hthere := (Program.leads_iff_runs.2 hbefore).bind fun _ => carryOut rest
  rw [hthere.unique hleads] at hlater
  exact hlater

/-- A subscriber that has given up says that it is stopped. -/
theorem Standing.stopped {before rest : List Command}
    (h : Standing p c inputs (before ++ rest) m log) (hreturned : Returned c inputs before (exchanged .main log))
    (habort : .abort ∈ before) : m.node.subscriber = .stopped := by
  obtain ⟨t, ⟨later, hlater⟩, hruns⟩ := hreturned
  obtain ⟨q, hleads⟩ := h.sound.exists_leads
  obtain ⟨t', turn, hwhole, hcoherent⟩ := hleads.exists_run h.sound.coherent
  have hsession := (session_of_body hwhole).1
  rw [← hlater, List.append_assoc] at hsession hcoherent
  obtain ⟨hfirst, hsecond⟩ := coherent_append.1 hcoherent
  have hstopped := ((course_of_runs hruns hfirst).2.2 habort).2
  have htells := stays_stopped (leads_carryOut hruns hsession) hsecond hstopped
  have hconduct := h.sound.conduct
  rw [← hlater, List.foldl_append] at hconduct
  refine (congrArg Conduct.subscriber hconduct).trans (stopped_foldl (fun x hx => ?_) hstopped)
  exact htells x (List.mem_append_left _ hx)

end Subscriber
end Waystation
