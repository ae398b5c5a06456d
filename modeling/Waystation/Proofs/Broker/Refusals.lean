import Waystation.Proofs.Broker.Isolation
import Waystation.Proofs.Broker.Members
/-!
What a broker refuses. Each refusal has one of six causes, and leaves no trace: nothing is remembered,
handed out, waiting or stored that was not so before, and no group has come or gone. Whatever is done
to a broker after a connection was closed, everything that is asked through it is refused and it has no
members.
-/
namespace Waystation.Broker

/-! What can be asked. -/

/-- What can be asked of a broker, and refused by it. -/
inductive Request
  | connect (url : String)
  | publish (connection : Nat) (m : Message)
  | subscribe (connection : Nat) (o : ConsumerOptions)
  | streamMax (connection : Nat) (stream : String)
  | openBucket (connection : Nat) (name : String)

/-- The connection that something is asked through. -/
def Request.connection? : Request → Option Nat
  | .connect _ => none
  | .publish connection _ | .subscribe connection _ | .streamMax connection _
  | .openBucket connection _ => some connection

/-- The error of an answer, if it is one, and the broker behind it. -/
def outcome {α : Type} : Answer α → Option TransportError × Broker
  | (.ok _, b) => (none, b)
  | (.error err, b) => (some err, b)

/-- What comes of asking: the error, if there is one, and the broker afterwards. -/
def ask (b : Broker) : Request → Option TransportError × Broker
  | .connect url => outcome (b.connect url)
  | .publish connection m => outcome (b.publish connection m)
  | .subscribe connection o => outcome (b.subscribe connection o)
  | .streamMax connection stream => outcome (b.streamMax connection stream)
  | .openBucket connection name => outcome (b.openBucket connection name)

/-- Why a broker refuses what it is asked. -/
inductive Objects (b : Broker) : Request → TransportError → Prop
  | offline {url : String} (h : b.offline = true) :
    Objects b (.connect url) (.connect url "broker offline")
  | closed {r : Request} {connection : Nat} (hr : r.connection? = some connection)
      (h : b.isOpen connection = false) : Objects b r .closed
  | tooLarge {connection : Nat} {m : Message} (hopen : b.isOpen connection = true)
      (h : b.maxPayload < m.payload.length) :
    Objects b (.publish connection m) (.maxPayloadExceeded m.payload.length b.maxPayload)
  | clash {connection : Nat} {o : ConsumerOptions} {g : Group} (hopen : b.isOpen connection = true)
      (hgroup : b.group? o.group = some g) (h : g.filter ≠ o.subject) :
    Objects b (.subscribe connection o)
      (.subscribe o.subject s!"consumer group {o.group} already filters {g.filter}")
  | noStream {connection : Nat} {stream : String} (hopen : b.isOpen connection = true)
      (h : b.streams.lookup stream = none) :
    Objects b (.streamMax connection stream) (.streamNotFound stream)
  | noBucket {connection : Nat} {name : String} (hopen : b.isOpen connection = true)
      (h : b.bucket? name = none) :
    Objects b (.openBucket connection name) (.bucketNotFound name)

variable {b : Broker} {connection : Nat} {r : Request} {err : TransportError}

theorem whenOpen_of_open {α : Type} (hopen : b.isOpen connection = true) (act : Answer α) :
    b.whenOpen connection act = act :=
  if_pos hopen

theorem whenOpen_of_closed {α : Type} (hclosed : b.isOpen connection = false) (act : Answer α) :
    b.whenOpen connection act = (.error .closed, b) := by
  rw [whenOpen, hclosed]
  rfl

/-- Nothing can be asked through a closed connection. -/
theorem ask_of_closed (hr : r.connection? = some connection) (hclosed : b.isOpen connection = false) :
    b.ask r = (some .closed, b) := by
  cases r with
  | connect url => cases hr
  | publish | subscribe | streamMax | openBucket =>
    obtain rfl := Option.some.inj hr
    exact congrArg outcome (whenOpen_of_closed hclosed _)

/-- A broker refuses what it objects to. -/
theorem Objects.ask (h : b.Objects r err) : (b.ask r).1 = some err := by
  cases h with
  | offline h => rw [Broker.ask, connect, if_pos h]; rfl
  | closed hr h => rw [ask_of_closed hr h]
  | tooLarge hopen h => rw [Broker.ask, publish, whenOpen_of_open hopen, if_pos h]; rfl
  | @clash connection o g hopen hgroup h =>
    have hjoined : b.joined o = g := by rw [joined, hgroup, Option.getD_some]
    rw [Broker.ask, subscribe_of_open hopen, hjoined, if_neg h]
    rfl
  | noStream hopen h => rw [Broker.ask, streamMax, whenOpen_of_open hopen, h]; rfl
  | noBucket hopen h => rw [Broker.ask, openBucket, whenOpen_of_open hopen, h]; rfl

/-- A broker objects to what it refuses, and goes on as it was. At most an identity is used up. -/
theorem objects_of_ask (h : (b.ask r).1 = some err) :
    b.Objects r err ∧ ∃ issued, (b.ask r).2 = { b with issued } := by
  by_cases hclosed : ∃ connection, r.connection? = some connection ∧ b.isOpen connection = false
  · obtain ⟨connection, hr, hclosed⟩ := hclosed
    rw [ask_of_closed hr hclosed] at h ⊢
    obtain rfl := Option.some.inj h
    exact ⟨.closed hr hclosed, b.issued, rfl⟩
  have hopen : ∀ connection, r.connection? = some connection → b.isOpen connection = true := by
    intro connection hr
    cases hstate : b.isOpen connection with
    | true => rfl
    | false => exact absurd ⟨connection, hr, hstate⟩ hclosed
  cases r with
  | connect url =>
    rw [ask, connect] at h ⊢
    split at h
    next hoffline =>
      obtain rfl := Option.some.inj h
      rw [if_pos hoffline]
      exact ⟨.offline hoffline, b.issued, rfl⟩
    next => cases h
  | publish connection m =>
    have hopen := hopen connection rfl
    rw [ask, publish, whenOpen_of_open hopen] at h ⊢
    split at h
    next hlarge =>
      obtain rfl := Option.some.inj h
      rw [if_pos hlarge]
      exact ⟨.tooLarge hopen hlarge, b.issued, rfl⟩
    next => cases h
  | subscribe connection o =>
    have hopen := hopen connection rfl
    rw [ask, subscribe_of_open hopen] at h ⊢
    split at h
    next => cases h
    next hfilter =>
      obtain rfl := Option.some.inj h
      rw [if_neg hfilter]
      exact ⟨.clash hopen ((b.joined_cases o).resolve_right hfilter) hfilter, b.issued + 1, rfl⟩
  | streamMax connection stream =>
    have hopen := hopen connection rfl
    rw [ask, streamMax, whenOpen_of_open hopen] at h ⊢
    cases hstream : b.streams.lookup stream with
    | some limit =>
      rw [hstream] at h
      cases h
    | none =>
      rw [hstream] at h
      obtain rfl := Option.some.inj h
      exact ⟨.noStream hopen hstream, b.issued, rfl⟩
  | openBucket connection name =>
    have hopen := hopen connection rfl
    rw [ask, openBucket, whenOpen_of_open hopen] at h ⊢
    cases hbucket : b.bucket? name with
    | some bucket =>
      rw [hbucket] at h
      cases h
    | none =>
      rw [hbucket] at h
      obtain rfl := Option.some.inj h
      exact ⟨.noBucket hopen hbucket, b.issued, rfl⟩

theorem ask_eq_some_iff : (b.ask r).1 = some err ↔ b.Objects r err :=
  ⟨fun h => (objects_of_ask h).1, Objects.ask⟩

theorem outcome_eq_some_iff {α : Type} {answer : Answer α} :
    (outcome answer).1 = some err ↔ answer.1 = .error err := by
  obtain ⟨_ | _, b'⟩ := answer <;> simp [outcome]

/-- What a request answers is an error if the broker has an objection. -/
theorem refused_iff {α : Type} {answer : Answer α} (h : b.ask r = outcome answer) :
    (∃ err, answer.1 = .error err) ↔ ∃ err, b.Objects r err :=
  exists_congr fun err => by rw [← outcome_eq_some_iff, ← h, ask_eq_some_iff]

/-- A blob is refused on a closed connection, or for its size. -/
theorem publish_refused_iff {m : Message} : (∃ err, (b.publish connection m).1 = .error err)
    ↔ b.isOpen connection = false ∨ b.maxPayload < m.payload.length := by
  rw [refused_iff (r := .publish connection m) rfl]
  constructor
  · rintro ⟨err, hobjects⟩
    cases hobjects with
    | closed hr h =>
      obtain rfl := Option.some.inj hr
      exact .inl h
    | tooLarge _ h => exact .inr h
  · intro h
    cases hopen : b.isOpen connection with
    | false => exact ⟨_, .closed rfl hopen⟩
    | true =>
      rw [hopen] at h
      exact ⟨_, .tooLarge hopen (h.resolve_left (by decide))⟩

/-- A subscription is refused on a closed connection, or by a group that filters another subject. -/
theorem subscribe_refused_iff {o : ConsumerOptions} :
    (∃ err, (b.subscribe connection o).1 = .error err)
      ↔ b.isOpen connection = false ∨ ∃ g, b.group? o.group = some g ∧ g.filter ≠ o.subject := by
  rw [refused_iff (r := .subscribe connection o) rfl]
  constructor
  · rintro ⟨err, hobjects⟩
    cases hobjects with
    | closed hr h =>
      obtain rfl := Option.some.inj hr
      exact .inl h
    | clash _ hgroup h => exact .inr ⟨_, hgroup, h⟩
  · intro h
    cases hopen : b.isOpen connection with
    | false => exact ⟨_, .closed rfl hopen⟩
    | true =>
      rw [hopen] at h
      obtain ⟨g, hgroup, hfilter⟩ := h.resolve_left (by decide)
      exact ⟨_, .clash hopen hgroup hfilter⟩

/-! Runs in which streams and buckets change as well. -/

/-- What can be done to a broker: operations, declarations, and changes to what its buckets hold. -/
inductive Deed
  | operate (op : Operation)
  | declareStream (name : String) (limit : Option Nat)
  | declareBucket (name : String)
  | putKey (bucket key : String) (value : Bytes)
  | eraseKey (bucket key : String)

/-- The broker after a deed. -/
def does (b : Broker) : Deed → Broker
  | .operate op => b.after op
  | .declareStream name limit => b.withStream name limit
  | .declareBucket name => b.withBucket name
  | .putKey bucket key value => b.putKey bucket key value
  | .eraseKey bucket key => b.eraseKey bucket key

/-- The broker after deeds, one after another. -/
def doesAll (b : Broker) (deeds : List Deed) : Broker := deeds.foldl does b

/-- Beside operations nothing is done to groups and connections. -/
theorem does_cases (b : Broker) (deed : Deed) :
    (∃ op, b.does deed = b.after op)
      ∨ (b.does deed).groups = b.groups ∧ (b.does deed).connections = b.connections := by
  cases deed with
  | operate op => exact .inl ⟨op, rfl⟩
  | declareStream | declareBucket | putKey | eraseKey => exact .inr ⟨rfl, rfl⟩

theorem isOpen_congr {b' : Broker} (h : b'.connections = b.connections) (connection : Nat) :
    b'.isOpen connection = b.isOpen connection := by
  rw [isOpen, isOpen, connection?, connection?, h]

theorem knows_does (h : b.Knows connection) (deed : Deed) : (b.does deed).Knows connection := by
  rcases b.does_cases deed with ⟨op, hop⟩ | ⟨-, hsame⟩
  · rw [hop]
    exact knows_after h op
  · rwa [Knows, connection?, hsame]

theorem closed_does (hknows : b.Knows connection) (hclosed : b.isOpen connection = false)
    (deed : Deed) : (b.does deed).isOpen connection = false := by
  rcases b.does_cases deed with ⟨op, hop⟩ | ⟨-, hsame⟩
  · rw [hop]
    exact closed_after hknows hclosed op
  · rwa [isOpen_congr hsame]

theorem connected_does (h : b.Connected) (deed : Deed) : (b.does deed).Connected := by
  rcases b.does_cases deed with ⟨op, hop⟩ | ⟨hgroups, hconnections⟩
  · rw [hop]
    exact connected_after h op
  · intro m hm
    rw [isOpen_congr hconnections]
    exact h m (seats_of_groups_eq hgroups hm)

theorem connected_doesAll (h : b.Connected) (deeds : List Deed) : (b.doesAll deeds).Connected := by
  induction deeds generalizing b with
  | nil => exact h
  | cons deed deeds ih => exact ih (connected_does h deed)

/-- A closed connection stays closed. -/
theorem closed_doesAll (hknows : b.Knows connection) (hclosed : b.isOpen connection = false)
    (deeds : List Deed) : (b.doesAll deeds).isOpen connection = false := by
  induction deeds generalizing b with
  | nil => exact hclosed
  | cons deed deeds ih => exact ih (knows_does hknows deed) (closed_does hknows hclosed deed)

theorem connected_empty : Connected {} := by
  rintro m ⟨g, hg, -⟩
  cases hg

/-! The main result. -/

/-- Whatever has been done to a broker, it refuses what it objects to and nothing else, and by refusing
changes nothing but the count of the identities it has given: what it remembers as published, handed
out and acknowledged, its groups with all they hold, and its buckets are as they were. Through a
connection a blob is refused exactly if the connection is closed or the blob too large, and a
subscription exactly if it is closed or the group there filters another subject. Once a connection is
closed, whatever is done afterwards, all that is asked through it is refused as closed, without effect,
and no member of a group has come through it. -/
theorem run_refusals (deeds : List Deed) :
    let b := doesAll {} deeds
    (∀ r err, (b.ask r).1 = some err ↔ b.Objects r err)
    ∧ (∀ r err, (b.ask r).1 = some err →
      (b.ask r).2.history = b.history ∧ (b.ask r).2.groups = b.groups
        ∧ (b.ask r).2.buckets = b.buckets ∧ ∃ issued, (b.ask r).2 = { b with issued })
    ∧ (∀ connection m, (∃ err, (b.publish connection m).1 = .error err)
      ↔ b.isOpen connection = false ∨ b.maxPayload < m.payload.length)
    ∧ (∀ connection o, (∃ err, (b.subscribe connection o).1 = .error err)
      ↔ b.isOpen connection = false ∨ ∃ g, b.group? o.group = some g ∧ g.filter ≠ o.subject)
    ∧ ∀ connection, b.Knows connection → ∀ later,
      let b' := (b.close connection).doesAll later
      (∀ r : Request, r.connection? = some connection → b'.ask r = (some .closed, b'))
        ∧ ∀ g ∈ b'.groups, ∀ m ∈ g.members, m.connection ≠ connection := by
  intro b
  refine ⟨fun r err => ask_eq_some_iff, fun r err h => ?trace, fun connection m =>
    publish_refused_iff, fun connection o => subscribe_refused_iff,
    fun connection hknows later => ?closed⟩
  case trace =>
    obtain ⟨-, issued, hsame⟩ := objects_of_ask h
    rw [hsame]
    exact ⟨rfl, rfl, rfl, issued, rfl⟩
  case closed =>
    have hconnected : b.Connected := connected_doesAll connected_empty deeds
    have hclosed := closed_doesAll (knows_after hknows (.close connection)) (isOpen_close hknows) later
    refine ⟨fun r hr => ask_of_closed hr hclosed, fun g hg m hm => ?_⟩
    have hlater := connected_doesAll (connected_after hconnected (.close connection)) later
    exact hlater.vacant hclosed m ⟨g, hg, hm⟩

end Waystation.Broker
