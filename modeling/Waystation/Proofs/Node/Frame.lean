import Waystation.Node.Request
import Waystation.Proofs.Broker.Evolution
import Waystation.Proofs.Correlation.Ages
import Waystation.Proofs.Program.Runs
/-!
What an answer changes. Work changes the network and what hooks share, and nothing of how the node is
run; each of the other requests changes one thing about that, whoever makes it.
-/
namespace Waystation

namespace Node

variable {n node : Node}

/-- What work can change of a node. -/
structure Works (n node : Node) : Prop where
  network : n.network.Evolves node.network
  correlation : n.correlation.Ages node.correlation
  rest : node = { n with
    network := node.network
    gates := node.gates
    journal := node.journal
    acknowledged := node.acknowledged
    correlation := node.correlation
    quiet := node.quiet }

theorem Works.refl (n : Node) : n.Works n := ⟨.refl _, .refl _, rfl⟩

theorem works_network {network : Network} (h : n.network.Evolves network) :
    n.Works { n with network } :=
  ⟨h, .refl _, rfl⟩

theorem works_correlation {correlation : Correlation Envelope}
    (h : n.correlation.Ages correlation) : n.Works { n with correlation } :=
  ⟨.refl _, h, rfl⟩

theorem node_of_single {α : Type} {reply a : α} {n' : Node} (h : (reply, node) ∈ [(a, n')]) :
    n' = node :=
  (Prod.mk.inj (List.mem_singleton.1 h)).2.symm

theorem node_of_once {α : Type} {condition : Bool} {reply a : α} {n' : Node}
    (h : (reply, node) ∈ once condition (a, n')) : n' = node := by
  rw [once] at h
  split at h
  · exact node_of_single h
  · cases h

theorem works_of_hookAnswers {r : HookRequest} {reply : r.Reply}
    (h : (reply, node) ∈ n.hookAnswers r) : n.Works node := by
  cases r with
  | publish p what => exact node_of_single h ▸ works_network (Network.evolves_send p what n.network)
  | get s key scope => exact node_of_single h ▸ .refl n
  | set s key value scope =>
    exact node_of_single h ▸ works_network (Network.evolves_of_broker (s.evolves_set key value scope _))
  | delete s key scope =>
    exact node_of_single h ▸ works_network (Network.evolves_of_broker (s.evolves_delete key scope _))
  | close connection => exact node_of_single h ▸ works_network (n.network.evolves_close connection)
  | note line => exact node_of_single h ▸ ⟨.refl _, .refl _, rfl⟩
  | pass gate => exact node_of_once h ▸ .refl n
  | unlock gate => exact node_of_single h ▸ ⟨.refl _, .refl _, rfl⟩
  | settle => exact node_of_once h ▸ ⟨.refl _, .refl _, rfl⟩
  | state => exact node_of_single h ▸ .refl n
  | deliver e => exact node_of_single h ▸ works_correlation (n.correlation.ages_deliver e.requestId e)
  | register id => exact node_of_single h ▸ works_correlation (n.correlation.ages_register id)
  | await id => exact node_of_single h ▸ works_correlation (n.correlation.ages_await id)
  | response w =>
    have hpoll := n.correlation.ages_poll w
    simp only [hookAnswers] at h
    split at h
    next e correlation hfound =>
      rw [hfound] at hpoll
      exact node_of_single h ▸ works_correlation hpoll
    next => cases h
  | release w => exact node_of_single h ▸ works_correlation (n.correlation.ages_release w)
  | status => exact node_of_single h ▸ .refl n
  | cancelled => exact node_of_once h ▸ .refl n

theorem works_of_workAnswers {r : WorkRequest} {reply : r.Reply}
    (h : (reply, node) ∈ n.workAnswers r) : n.Works node := by
  cases r with
  | user r => exact works_of_hookAnswers h
  | acknowledge delivery =>
    exact node_of_single h ▸ ⟨n.network.evolves_acknowledge delivery, .refl _, rfl⟩

theorem works_of_watched {r : WorkRequest} {reply : Option r.Reply}
    (h : (reply, node) ∈ n.answers (.watched r)) :
    n.Works node ∧ (reply = none → n.stopping = true ∧ n.workAnswers r = []) := by
  simp only [answers] at h
  split at h
  next hnone =>
    rw [once] at h
    split at h
    next hstopping =>
      obtain ⟨rfl, rfl⟩ := Prod.mk.inj (List.mem_singleton.1 h)
      exact ⟨.refl _, fun _ => ⟨hstopping, hnone⟩⟩
    next => cases h
  next answers _ =>
    obtain ⟨⟨reply', node'⟩, hmem, heq⟩ := List.mem_map.1 h
    obtain ⟨rfl, rfl⟩ := Prod.mk.inj heq
    exact ⟨works_of_workAnswers hmem, fun hnone => nomatch hnone⟩

theorem works_of_take {subscription : Nat} {taken : Taken}
    (h : (taken, node) ∈ n.takeAnswers subscription) :
    n.Works node ∧ (taken = .closed → n.network.broker.incoming subscription = .closed
      ∧ node = n) := by
  rw [takeAnswers] at h
  split at h
  · obtain ⟨rfl, rfl⟩ := Prod.mk.inj (List.mem_singleton.1 h)
    exact ⟨.refl _, fun hclosed => nomatch hclosed⟩
  · have hevolves := n.network.evolves_after (.next subscription)
    simp only [Broker.after] at hevolves
    split at h
    next d broker hnext =>
      obtain ⟨htaken, rfl⟩ := Prod.mk.inj (List.mem_singleton.1 h)
      rw [hnext] at hevolves
      refine ⟨works_network hevolves, fun hclosed => ?_⟩
      rw [hclosed] at htaken
      split at htaken <;> cases htaken
    next broker hnext =>
      obtain ⟨rfl, rfl⟩ := Prod.mk.inj (List.mem_singleton.1 h)
      refine ⟨.refl _, fun _ => ⟨?_, rfl⟩⟩
      rcases Broker.next_cases node.network.broker subscription with ⟨d, hd⟩ | ⟨-, hsame, -⟩
      · rw [Broker.next, hd] at hnext
        cases hnext
      · rw [← hsame, hnext]
    next => cases h

/-! What requests change about how the node is run. -/

/-- A node but for its network and what its hooks share. -/
def bare (n : Node) : Node :=
  { n with
    network := {}
    gates := []
    journal := []
    acknowledged := []
    correlation := {}
    quiet := false }

/-- What an exchange changes about how a node is run. -/
def obey (n : Node) (x : Exchange NodeSignature) : Node :=
  match x with
  | ⟨.tellLeft subscription, _⟩ => n.changeListener subscription fun l => { l with hasLeft := true }
  | ⟨.setSubscriber s, _⟩ => { n with subscriber := s }
  | ⟨.listen subscription c, _⟩ => { n with
      listeners := n.listeners ++ [{ subscription }]
      awaited := n.awaited ++ [subscription]
      starting := n.starting ++ [.listen subscription c]
      tasks := n.tasks + 1 }
  | ⟨.stopListeners, _⟩ => { n with stopping := true }
  | ⟨.awaitLeft, _⟩ => { n with awaited := [] }
  | ⟨.abortListeners, _⟩ => { n with
      ending := n.ending
        ++ (n.listeners.filter (!·.hasEnded)).map fun l => .listener l.subscription }
  | ⟨.setRunner s, _⟩ => { n with runner := some s }
  | ⟨.launch c, _⟩ => { n with starting := n.starting ++ [.launch c], tasks := n.tasks + 1 }
  | ⟨.returned r, _⟩ => { n with returned := some r }
  | ⟨.awaitEnd, .returned _⟩ => { n with returned := none }
  | ⟨.cancel, _⟩ => { n with cancelled := true }
  | ⟨.abortLaunched, _⟩ => { n with ending := n.ending ++ [.launched] }
  | ⟨.conclude r, _⟩ => { n with result := some r }
  | _ => n

theorem Works.bare (h : n.Works node) : node.bare = n.bare := by
  rw [h.rest]
  rfl

/-- What an exchange changes: what work may change, and what the request is about. -/
structure Answered (n : Node) (x : Exchange NodeSignature) (node : Node) : Prop where
  network : n.network.Evolves node.network
  correlation : n.correlation.Ages node.correlation
  bare : node.bare = n.bare.obey x

theorem Works.answered {x : Exchange NodeSignature} (h : n.Works node)
    (hx : n.bare.obey x = n.bare) : n.Answered x node :=
  ⟨h.network, h.correlation, h.bare.trans hx.symm⟩

theorem answered_awaitEnd {reply : End} (h : (reply, node) ∈ n.endAnswers) :
    n.Answered ⟨.awaitEnd, reply⟩ node := by
  rw [endAnswers] at h
  rcases List.mem_append.1 h with hearly | hreturned
  · rcases List.mem_append.1 hearly with hsignal | hexhausted
    · rw [once] at hsignal
      split at hsignal
      · obtain ⟨rfl, rfl⟩ := Prod.mk.inj (List.mem_singleton.1 hsignal)
        exact (Works.refl _).answered rfl
      · cases hsignal
    · rw [once] at hexhausted
      split at hexhausted
      · obtain ⟨rfl, rfl⟩ := Prod.mk.inj (List.mem_singleton.1 hexhausted)
        exact (Works.refl _).answered rfl
      · cases hexhausted
  · split at hreturned
    · obtain ⟨rfl, rfl⟩ := Prod.mk.inj (List.mem_singleton.1 hreturned)
      exact ⟨.refl _, .refl _, rfl⟩
    · cases hreturned

theorem answered_of_mem {r : NodeRequest} {reply : r.Reply} (h : (reply, node) ∈ n.answers r) :
    n.Answered ⟨r, reply⟩ node := by
  cases r with
  | work r => exact (works_of_workAnswers h).answered rfl
  | watched r => exact (works_of_watched h).1.answered rfl
  | take subscription => exact (works_of_take h).1.answered rfl
  | awaitEnd => exact answered_awaitEnd h
  | subscriber => exact Works.answered (node_of_single h ▸ .refl n) rfl
  | streamMax connection stream => exact Works.answered (node_of_single h ▸ .refl n) rfl
  | openSettings connection buckets => exact Works.answered (node_of_single h ▸ .refl n) rfl
  | awaitLeft =>
    simp only [answers, once] at h
    split at h
    · obtain ⟨-, rfl⟩ := Prod.mk.inj (List.mem_singleton.1 h)
      exact ⟨.refl _, .refl _, rfl⟩
    · cases h
  | awaitListeners => exact Works.answered (node_of_once h ▸ .refl _) rfl
  | awaitStop => exact Works.answered (node_of_once h ▸ .refl _) rfl
  | leave subscription =>
    exact Works.answered
      (node_of_single h ▸ works_network (n.network.evolves_unsubscribe subscription)) rfl
  | subscribe connection o =>
    exact Works.answered
      (node_of_single h ▸ works_network (n.network.evolves_subscribe connection o)) rfl
  | connect url =>
    exact Works.answered (node_of_single h ▸ works_network (n.network.evolves_connect url)) rfl
  | close connection =>
    exact Works.answered (node_of_single h ▸ works_network (n.network.evolves_close connection)) rfl
  | turnAway =>
    exact Works.answered (node_of_single h ▸ works_correlation n.correlation.ages_closeAll) rfl
  | tellLeft subscription | setSubscriber s | listen subscription c | stopListeners
  | abortListeners | setRunner s | launch c | returned r | cancel | abortLaunched | conclude r =>
    obtain ⟨-, rfl⟩ := Prod.mk.inj (List.mem_singleton.1 h)
    exact ⟨.refl _, .refl _, rfl⟩

end Node
end Waystation
