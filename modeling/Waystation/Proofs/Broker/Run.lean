import Waystation.Broker.Basic
import Waystation.Proofs.Broker.Group
import Waystation.Proofs.Steps
/-!
Runs of a broker: operations in any order, on any connections and subscriptions. What one operation
can do to groups and subscriptions is told once, and invariants are kept case by case.
-/
namespace Waystation.Broker

/-- What can be done to a broker. -/
inductive Operation
  | connect (url : String)
  | setOffline (offline : Bool)
  | setMaxPayload (limit : Nat)
  | setHistoryLimit (limit : Nat)
  | publish (connection : Nat) (m : Message)
  | inject (m : Message)
  | subscribe (connection : Nat) (o : ConsumerOptions)
  | next (subscription : Nat)
  | acknowledge (delivery : Nat)
  | unsubscribe (subscription : Nat)
  | drop (subscription : Nat)
  | close (connection : Nat)

/-- The broker after an operation, whatever it answers. -/
def after (b : Broker) : Operation → Broker
  | .connect url => (b.connect url).2
  | .setOffline offline => b.setOffline offline
  | .setMaxPayload limit => b.withMaxPayload limit
  | .setHistoryLimit limit => b.withHistoryLimit limit
  | .publish connection m => (b.publish connection m).2
  | .inject m => b.inject m
  | .subscribe connection o => (b.subscribe connection o).2
  | .next subscription => (b.next subscription).2
  | .acknowledge delivery => (b.acknowledge delivery).2
  | .unsubscribe subscription => b.unsubscribe subscription
  | .drop subscription => b.drop subscription
  | .close connection => b.close connection

/-- The blobs that an operation publishes. -/
def sent (b : Broker) : Operation → List Message
  | .publish connection m => match (b.publish connection m).1 with
    | .ok () => [m]
    | .error _ => []
  | .inject m => [m]
  | _ => []

/-- What the reader of a subscription gets by an operation. -/
def read (id : Nat) (b : Broker) : Operation → List Delivery
  | .next subscription =>
    if subscription = id then match (b.next subscription).1 with
      | .delivery d => [d]
      | .pending | .closed => []
    else []
  | _ => []

/-- The broker after operations, one after another. -/
def run (b : Broker) (ops : List Operation) : Broker := ops.foldl after b

/-- What operations come to, one after another. -/
def log {α : Type} (f : Broker → Operation → List α) (b : Broker) (ops : List Operation) : List α :=
  logged after f b ops

@[simp] theorem run_nil (b : Broker) : b.run [] = b := rfl

@[simp] theorem run_cons (b : Broker) (op : Operation) (ops : List Operation) :
    b.run (op :: ops) = (b.after op).run ops :=
  rfl

@[simp] theorem log_nil {α : Type} (f : Broker → Operation → List α) (b : Broker) :
    log f b [] = [] :=
  rfl

@[simp] theorem log_cons {α : Type} (f : Broker → Operation → List α) (b : Broker)
    (op : Operation) (ops : List Operation) :
    log f b (op :: ops) = f b op ++ log f (b.after op) ops :=
  rfl

/-! What an operation can do. -/

/-- The group that a subscription with some options finds or makes. -/
def joined (b : Broker) (o : ConsumerOptions) : Group := (b.group? o.group).getD (b.freshGroup o)

/-- A change to a group that removes members at most. -/
def LetsGo (g g' : Group) : Prop :=
  g' = g ∨ (∃ p, g' = g.dismiss p) ∨ ∃ id, g' = g.abandon id

/-- A subscription after the one of an identity has read a message. -/
def advance (id : Nat) (s : Subscription) : Subscription :=
  if s.id = id then { s with taken := s.taken + 1 } else s

@[simp] theorem advance_id (id : Nat) (s : Subscription) : (advance id s).id = s.id := by
  rw [advance]
  split <;> rfl

@[simp] theorem advance_group (id : Nat) (s : Subscription) : (advance id s).group = s.group := by
  rw [advance]
  split <;> rfl

/-- What an operation can do to groups and subscriptions. -/
inductive Effect (b : Broker) : Operation → Broker → Prop
  | quiet {op : Operation} {b' : Broker} (hgroups : b'.groups = b.groups)
      (hsubscriptions : b'.subscriptions = b.subscriptions)
      (hnext : b'.history.nextDelivery = b.history.nextDelivery) (hissued : b.issued ≤ b'.issued)
      (hsent : b.sent op = []) (hread : ∀ id, b.read id op = []) : Effect b op b'
  | members {op : Operation} {b' : Broker} {f : Group → Group} (hf : ∀ g, LetsGo g (f g))
      (hgroups : b'.groups = b.groups.map f) (hsubscriptions : b'.subscriptions = b.subscriptions)
      (hhistory : b'.history = b.history) (hissued : b'.issued = b.issued)
      (hsent : b.sent op = []) (hread : ∀ id, b.read id op = []) : Effect b op b'
  | published {op : Operation} {m : Message} (hsent : b.sent op = [m])
      (hread : ∀ id, b.read id op = []) : Effect b op (b.inject m)
  | attached {connection : Nat} {o : ConsumerOptions} (hopen : b.isOpen connection)
      (hfilter : (b.joined o).filter = o.subject) :
      Effect b (.subscribe connection o)
        ({ b with issued := b.issued + 1 }.attach connection (b.issued + 1) o (b.joined o))
  | delivered {id : Nat} {d : Delivery} (hincoming : b.incoming id = .delivery d) :
      Effect b (.next id) { b with subscriptions := b.subscriptions.map (advance id) }

theorem publish_cases (b : Broker) (connection : Nat) (m : Message) :
    (∃ err, b.publish connection m = (.error err, b))
      ∨ b.publish connection m = (.ok (), b.inject m) := by
  simp only [publish, whenOpen]
  split
  · split
    · exact .inl ⟨_, rfl⟩
    · exact .inr rfl
  · exact .inl ⟨_, rfl⟩

theorem subscribe_cases (b : Broker) (connection : Nat) (o : ConsumerOptions) :
    (b.isOpen connection = true ∧ (b.joined o).filter = o.subject
        ∧ (b.subscribe connection o).2
          = { b with issued := b.issued + 1 }.attach connection (b.issued + 1) o (b.joined o))
      ∨ ∃ issued, b.issued ≤ issued ∧ (b.subscribe connection o).2 = { b with issued } := by
  simp only [subscribe, whenOpen]
  split
  next hopen =>
    split
    next hfilter => exact .inl ⟨hopen, hfilter, rfl⟩
    next => exact .inr ⟨b.issued + 1, Nat.le_succ _, rfl⟩
  next => exact .inr ⟨b.issued, Nat.le_refl _, rfl⟩

theorem next_cases (b : Broker) (id : Nat) :
    (∃ d, b.incoming id = .delivery d)
      ∨ (b.next id).2 = b ∧ (b.next id).1 = b.incoming id ∧ ∀ d, b.incoming id ≠ .delivery d := by
  cases hincoming : b.incoming id with
  | delivery d => exact .inl ⟨d, rfl⟩
  | pending => simp [next, hincoming]
  | closed => simp [next, hincoming]

/-- A message that is taken was the next one. -/
theorem incoming_of_next {b b' : Broker} {id : Nat} {d : Delivery}
    (h : b.next id = (.delivery d, b')) : b.incoming id = .delivery d := by
  rcases b.next_cases id with ⟨other, hincoming⟩ | ⟨-, hanswer, -⟩
  · rw [next, hincoming] at h
    rw [hincoming, (Prod.mk.inj h).1]
  · rw [← hanswer, h]

theorem changeGroup_effect (b : Broker) (id : Nat) {op : Operation} {f : Group → Group}
    (hf : ∀ g, LetsGo g (f g)) (hsent : b.sent op = []) (hread : ∀ id, b.read id op = []) :
    Effect b op (b.changeGroup id f) := by
  rw [changeGroup]
  split
  next s _ =>
    refine .members (f := fun g => if g.name = s.group then f g else g) (fun g => ?_) rfl rfl rfl rfl
      hsent hread
    split
    · exact hf g
    · exact .inl rfl
  next => exact .quiet rfl rfl rfl (Nat.le_refl _) hsent hread

theorem after_effect (b : Broker) (op : Operation) : Effect b op (b.after op) := by
  cases op with
  | connect url =>
    rw [after, connect]
    split
    · exact .quiet rfl rfl rfl (Nat.le_refl _) rfl fun _ => rfl
    · exact .quiet rfl rfl rfl (Nat.le_succ _) rfl fun _ => rfl
  | setOffline offline => exact .quiet rfl rfl rfl (Nat.le_refl _) rfl fun _ => rfl
  | setMaxPayload limit => exact .quiet rfl rfl rfl (Nat.le_refl _) rfl fun _ => rfl
  | setHistoryLimit limit =>
    exact .quiet rfl rfl (b.history.nextDelivery_setLimit limit) (Nat.le_refl _) rfl fun _ => rfl
  | publish connection m =>
    rcases b.publish_cases connection m with ⟨err, h⟩ | h
    · rw [after, h]
      exact .quiet rfl rfl rfl (Nat.le_refl _) (by simp [sent, h]) fun _ => rfl
    · rw [after, h]
      exact .published (by simp [sent, h]) fun _ => rfl
  | inject m => exact .published rfl fun _ => rfl
  | subscribe connection o =>
    rcases b.subscribe_cases connection o with ⟨hopen, hfilter, h⟩ | ⟨issued, hissued, h⟩
    · rw [after, h]
      exact .attached hopen hfilter
    · rw [after, h]
      exact .quiet rfl rfl rfl hissued rfl fun _ => rfl
  | next subscription =>
    rcases b.next_cases subscription with ⟨d, hincoming⟩ | ⟨hsame, hanswer, hnone⟩
    · rw [after, next, hincoming]
      exact .delivered hincoming
    · rw [after, hsame]
      refine .quiet rfl rfl rfl (Nat.le_refl _) rfl fun id => ?_
      rw [read, hanswer]
      cases hincoming : b.incoming subscription with
      | delivery d => exact absurd hincoming (hnone d)
      | pending => simp
      | closed => simp
  | acknowledge delivery =>
    rw [after, acknowledge]
    split
    next h => exact .quiet rfl rfl (History.nextDelivery_acknowledge h) (Nat.le_refl _) rfl fun _ => rfl
    next => exact .quiet rfl rfl rfl (Nat.le_refl _) rfl fun _ => rfl
  | unsubscribe subscription =>
    exact changeGroup_effect b subscription (fun g => .inr (.inl ⟨_, rfl⟩)) rfl fun _ => rfl
  | drop subscription =>
    exact changeGroup_effect b subscription (fun g => .inr (.inr ⟨_, rfl⟩)) rfl fun _ => rfl
  | close connection =>
    rw [after, close]
    split
    · exact .members (fun g => .inr (.inl ⟨_, rfl⟩)) rfl rfl rfl rfl rfl fun _ => rfl
    · exact .quiet rfl rfl rfl (Nat.le_refl _) rfl fun _ => rfl

end Waystation.Broker
