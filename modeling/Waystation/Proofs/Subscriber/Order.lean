import Mathlib.Data.List.Perm.Subperm
import Waystation.Proofs.Subscriber.Listening
/-!
The order in which a subscriber works on messages. A listener works on the messages of its subscription
one after the other, in the order in which they are handed to it. A group has as many listeners of one
subscriber as the subject is named times among its inputs, so messages of one subject are worked on one
after the other where no subject is named twice.
-/
namespace Waystation

namespace Pipeline

variable {p : Pipeline Handler} {c : Context} {d : Delivery} {t : List (Exchange WorkSignature)}

/-- Work that has come to its end has acknowledged its message. -/
theorem acknowledged_of_runs (h : (p.work c d).Runs t (.ok ())) :
    d.number ∈ t.filterMap acknowledged? := by
  obtain ⟨calls, rest, rfl, ⟨-, failure, -, acked, reports, rfl, -⟩ | ⟨panic, hr, -⟩⟩ :=
    shape_of_work h
  · exact List.mem_filterMap.2 ⟨⟨.acknowledge d.number, acked⟩, by simp, rfl⟩
  · cases hr

theorem not_finished_of_unacknowledged {k : Handling} (h : k.work.filterMap acknowledged? = []) :
    ¬k.IsFinished (p.work c) := by
  intro hfinished
  have hacked := acknowledged_of_runs hfinished
  rw [h] at hacked
  cases hacked

end Pipeline

namespace Subscriber

open Listener Machine

variable {p : Pipeline Handler} {c : Context} {inputs : List String} {commands : List Command}
variable {m : Machine} {log : List Move} {es : List Event}

/-- Has a listener taken messages of a group? -/
def TakesFrom (m : Machine) (log : List Move) (group : String) (s : Nat) : Prop :=
  (∃ sub ∈ m.node.network.broker.subscriptions, sub.id = s ∧ sub.group = group)
    ∧ handlings (exchanged (.listener s) log) ≠ []

/-- A listener that takes messages of a group reads the subject of that group, and that is one of the
inputs. -/
theorem Standing.exists_subject (h : Standing p c inputs commands m [])
    (hfitting : m.node.network.broker.Fitting) (es : List Event) :
    ∃ joined : List (String × Nat), joined.map (·.1) <+: inputs
      ∧ ∀ group, ∃ subject, ∀ s, TakesFrom (m.during es) (m.log es) group s → (subject, s) ∈ joined := by
  have hnow : Standing p c inputs commands (m.during es) (m.log es) := h.during es
  have hfits := (evolves_during m es).broker.fitting h.sound.crew.orderly hfitting
  have hids := hnow.sound.crew.orderly.sound.ids
  obtain ⟨t', hcourse⟩ := hnow.exists_course
  obtain ⟨joined, hsubjects, hjoined, -⟩ := hcourse.joined
  refine ⟨joined, hsubjects, fun group => ?_⟩
  cases hgroup : (m.during es).node.network.broker.group? group with
  | none =>
    refine ⟨"", fun s htakes => ?_⟩
    obtain ⟨⟨sub, hsub, -, rfl⟩, -⟩ := htakes
    obtain ⟨g, hg, -⟩ := hfits sub hsub
    cases hg.symm.trans hgroup
  | some g =>
    refine ⟨g.filter, fun s htakes => ?_⟩
    obtain ⟨⟨sub, hsub, hid, rfl⟩, hsome⟩ := htakes
    obtain ⟨k, hk⟩ := List.exists_mem_of_ne_nil _ hsome
    obtain ⟨g', hg', hfilter⟩ := hfits sub hsub
    obtain rfl := Option.some.inj (hg'.symm.trans hgroup)
    obtain ⟨connection, o, hsubscribe, sub', hsub', hid', hsubject, -⟩ :=
      hnow.attended.reads_share h.sound (body_driver c inputs commands) hk
    obtain rfl := eq_of_nodup_map hids hsub hsub' (hid.trans hid'.symm)
    obtain ⟨subject, hmem, rfl⟩ := hjoined connection o s hsubscribe
    rw [hfilter, hsubject]
    exact hmem

/-- Named things of which there are several under one name. -/
theorem length_le_count {joined : List (String × Nat)} {subject : String} {ss : List Nat}
    (hnodup : ss.Nodup) (hmem : ∀ s ∈ ss, (subject, s) ∈ joined) :
    ss.length ≤ (joined.map (·.1)).count subject := by
  have hsubset : ss ⊆ (joined.filter (·.1 = subject)).map (·.2) := fun s hs =>
    List.mem_map.2 ⟨(subject, s), List.mem_filter.2 ⟨hmem s hs, by simp⟩, rfl⟩
  have hlength := (List.subperm_of_subset hnodup hsubset).length_le
  rw [List.length_map, ← List.countP_eq_length_filter] at hlength
  rw [List.count, List.countP_map]
  refine Nat.le_trans hlength (Nat.le_of_eq (List.countP_congr fun j hj => ?_))
  simp

/-- As many listeners take messages of a group at most as the inputs name its subject. -/
theorem Standing.takers_le_count (h : Standing p c inputs commands m [])
    (hfitting : m.node.network.broker.Fitting) (es : List Event) (group : String) :
    ∃ subject, ∀ ss : List Nat, ss.Nodup →
      (∀ s ∈ ss, TakesFrom (m.during es) (m.log es) group s) → ss.length ≤ inputs.count subject := by
  obtain ⟨joined, hsubjects, hjoined⟩ := h.exists_subject hfitting es
  obtain ⟨subject, hsubject⟩ := hjoined group
  refine ⟨subject, fun ss hnodup htakes => ?_⟩
  exact Nat.le_trans (length_le_count hnodup fun s hs => hsubject s (htakes s hs))
    (hsubjects.sublist.count_le subject)

theorem Standing.taker_unique (h : Standing p c inputs commands m [])
    (hfitting : m.node.network.broker.Fitting) (hinputs : inputs.Nodup) {group : String} {s s' : Nat}
    (hs : TakesFrom (m.during es) (m.log es) group s)
    (hs' : TakesFrom (m.during es) (m.log es) group s') : s = s' := by
  by_contra hne
  obtain ⟨subject, hcount⟩ := h.takers_le_count hfitting es group
  have htwo : 2 ≤ inputs.count subject := hcount [s, s'] (by simpa using hne) (by simp [hs, hs'])
  have hone := List.nodup_iff_count.1 hinputs subject
  omega

/-- Whatever happens to a subscriber and whatever it is told, each of its listeners works on the messages
that it takes one after the other, in the order in which they were handed to its subscription. At most as
many of its listeners take messages of one group as the inputs name a subject times. So where no subject
is named twice, all messages of a group that the subscriber takes are taken by one listener, and one of
them at most is being worked on. -/
theorem run_order (p : Pipeline Handler) (c : Context) (inputs : List String) (commands : List Command)
    (streams : List (String × Option Nat)) (buckets : List (String × Bucket))
    (ops : List Broker.Operation) (faults : Faults) (drawn : Nat) (es : List Event) :
    let m := machine p c inputs commands { broker := Broker.run { streams, buckets } ops, faults, drawn }
    let taken := fun s => handlings (exchanged (.listener s) (m.log es))
    let b := (m.during es).node.network.broker
    (∀ s, InTurn (p.work c) (taken s))
      ∧ (∀ sub ∈ b.subscriptions,
          ((taken sub.id).map (·.delivery)).Sublist ((b.share sub).map Broker.delivery)
            ∧ (b.share sub).Pairwise (·.delivery < ·.delivery))
      ∧ (∀ group, ∃ subject, ∀ ss : List Nat, ss.Nodup →
          (∀ s ∈ ss, TakesFrom (m.during es) (m.log es) group s) → ss.length ≤ inputs.count subject)
      ∧ (inputs.Nodup → ∀ sub ∈ b.subscriptions, ∀ sub' ∈ b.subscriptions, sub.group = sub'.group →
          ∀ k ∈ taken sub.id, ∀ k' ∈ taken sub'.id, sub.id = sub'.id
            ∧ (¬k.IsFinished (p.work c) → ¬k'.IsFinished (p.work c) → k = k')) := by
  intro m taken b
  obtain ⟨-, hfitting, hreads⟩ := Broker.run_apart streams buckets ops
  have h : Standing p c inputs commands m [] :=
    standing_machine p c inputs commands (Broker.orderly_run streams buckets ops) hreads
  have hnow : Standing p c inputs commands (m.during es) (m.log es) := h.during es
  refine ⟨fun s => (hnow.inTurn s).1, fun sub hsub => ?_, h.takers_le_count hfitting es,
    fun hinputs sub hsub sub' hsub' hgroup k hk k' hk' => ?_⟩
  · exact ⟨hnow.attended.sublist hsub, Broker.share_numbers hnow.sound.crew.orderly.sound sub⟩
  · have hsame : sub.id = sub'.id := h.taker_unique hfitting hinputs
      ⟨⟨sub, hsub, rfl, rfl⟩, List.ne_nil_of_mem hk⟩
      ⟨⟨sub', hsub', rfl, hgroup.symm⟩, List.ne_nil_of_mem hk'⟩
    refine ⟨hsame, fun hunfinished hunfinished' => ?_⟩
    rw [← hsame] at hk'
    have hlast := (hnow.inTurn sub.id).1.getLast?_eq hk hunfinished
    exact Option.some.inj (hlast.symm.trans ((hnow.inTurn sub.id).1.getLast?_eq hk' hunfinished'))

/-- A pipeline whose handler says that it has begun, and waits until it may end. -/
def held : Pipeline Handler where
  registry := Registry.empty.setDefault fun _ _ => .ok do
    (HookRequest.note (.text "begun")).ask
    (HookRequest.pass "end").ask
    return .succeeded

/-- A process by the first connection of its broker. -/
def scorer : Context where
  identity := { process := "scorer" }
  publisher := { connection := 1, stream := "workflow", output := "scorer.out", fromNode := "scorer" }
  settings := {}

/-- It starts, two messages of its subject come in, and every listener begins with one. -/
def throughTwo : List Event :=
  List.replicate 6 (.go 0 0)
    ++ List.replicate 2 (.broker (.inject { subject := "splitter.out", payload := [] }))
    ++ [.go 1 0, .go 0 0, .go 2 0, .go 0 0]

/-- A subscriber that is given a subject twice joins its group twice, and works on two messages of that
group at once. -/
theorem two_of_repeated :
    let m := machine held scorer ["splitter.out", "splitter.out"] []
      { broker := Broker.run { streams := [("workflow", none)], buckets := [] } [.connect "memory://test"] }
    let taken := fun s => handlings (exchanged (.listener s) (m.log throughTwo))
    (m.during throughTwo).node.network.broker.subscriptions.map (fun sub => (sub.id, sub.group))
        = [(2, "splitter-out-scorer"), (3, "splitter-out-scorer")]
      ∧ (m.during throughTwo).node.journal = [.text "begun", .text "begun"]
      ∧ ∃ k ∈ taken 2, ∃ k' ∈ taken 3, k.delivery.number ≠ k'.delivery.number
        ∧ ¬k.IsFinished (held.work scorer) ∧ ¬k'.IsFinished (held.work scorer) := by
  intro m taken
  -- each has taken one message, and has not acknowledged it
  have hfirst : (taken 2).map (fun k => (k.delivery.number, k.work.filterMap Pipeline.acknowledged?))
      = [(0, [])] := by decide +kernel
  have hsecond : (taken 3).map (fun k => (k.delivery.number, k.work.filterMap Pipeline.acknowledged?))
      = [(1, [])] := by decide +kernel
  obtain ⟨k, hk, hone⟩ := List.mem_map.1 (hfirst ▸ List.mem_singleton.2 rfl)
  obtain ⟨k', hk', htwo⟩ := List.mem_map.1 (hsecond ▸ List.mem_singleton.2 rfl)
  obtain ⟨hnumber, hnone⟩ := Prod.mk.inj hone
  obtain ⟨hnumber', hnone'⟩ := Prod.mk.inj htwo
  exact ⟨by decide +kernel, by decide +kernel, k, hk, k', hk', by omega,
    Pipeline.not_finished_of_unacknowledged hnone, Pipeline.not_finished_of_unacknowledged hnone'⟩

end Subscriber
end Waystation
