import Waystation.Proofs.Broker.Delivery
import Waystation.Proofs.Subject.GroupName
/-!
Processes side by side. Every subscription reads the subject that its group filters, and its group
gets all of that, whatever other groups get. Two processes share a group exactly if they read one
subject and their names have the same words, and a process is turned away exactly where the words of
its subject and name are those of a group of another subject.
-/
namespace Waystation.Broker

open Subject (groupName words)

variable {b : Broker} {connection : Nat} {o : ConsumerOptions}

/-! Where subscriptions come from. -/

@[simp] theorem advance_subject (id : Nat) (s : Subscription) :
    (advance id s).subject = s.subject := by
  rw [advance]
  split <;> rfl

/-- An operation makes a subscription where it subscribes, or leaves one of the old. -/
theorem subscription_after {op : Operation} {s : Subscription}
    (hs : s ∈ (b.after op).subscriptions) :
    (∃ old ∈ b.subscriptions, s.subject = old.subject ∧ s.group = old.group)
      ∨ ∃ connection o, op = .subscribe connection o ∧ s.subject = o.subject ∧ s.group = o.group
        ∧ ∃ g, (b.after op).group? o.group = some g ∧ g.filter = o.subject := by
  have heffect := b.after_effect op
  generalize b.after op = b' at heffect hs
  cases heffect with
  | quiet _ hsubscriptions _ _ _ _ => exact .inl ⟨s, hsubscriptions ▸ hs, rfl, rfl⟩
  | members _ _ hsubscriptions _ _ _ _ => exact .inl ⟨s, hsubscriptions ▸ hs, rfl, rfl⟩
  | published _ _ => exact .inl ⟨s, hs, rfl, rfl⟩
  | @attached connection o _ hfilter =>
    rcases mem_snoc.1 hs with hold | rfl
    · exact .inl ⟨s, hold, rfl, rfl⟩
    · refine .inr ⟨connection, o, rfl, rfl, rfl, (b.enlisted connection o).1, ?_, ?_⟩
      · rw [← attached, group?_attached, if_pos rfl]
      · exact ((b.joined o).offered_attach _ _).1.filter.trans hfilter
  | delivered =>
    obtain ⟨old, hold, rfl⟩ := List.mem_map.1 hs
    exact .inl ⟨old, hold, advance_subject _ old, advance_group _ old⟩

/-- Every subscription reads what its group filters. -/
def Fitting (b : Broker) : Prop :=
  ∀ s ∈ b.subscriptions, ∃ g, b.group? s.group = some g ∧ g.filter = s.subject

theorem fitting_empty : Fitting {} := fun _ hs => nomatch hs

theorem fitting_after (hb : b.Sound) (h : b.Fitting) (op : Operation) : (b.after op).Fitting := by
  intro s hs
  rcases subscription_after hs with ⟨old, hold, hsubject, hgroup⟩ | ⟨_, o, rfl, hsubject, hgroup, hg⟩
  · obtain ⟨g, hg, hfilter⟩ := h old hold
    obtain ⟨g', hg', hoffered⟩ := group?_after hb hg op
    rw [hsubject, hgroup]
    exact ⟨g', hg', hoffered.filter.trans hfilter⟩
  · rwa [hsubject, hgroup]

theorem fitting_run (hb : b.Sound) (h : b.Fitting) (ops : List Operation) : (b.run ops).Fitting := by
  induction ops generalizing b with
  | nil => exact h
  | cons op ops ih => exact ih (sound_after hb op) (fitting_after hb h op)

/-! Who is turned away. -/

theorem subscribe_of_open (hopen : b.isOpen connection = true) :
    b.subscribe connection o
      = if (b.joined o).filter = o.subject then (.ok (b.issued + 1), b.attached connection o)
        else (.error (.subscribe o.subject
            s!"consumer group {o.group} already filters {(b.joined o).filter}"),
          { b with issued := b.issued + 1 }) := by
  rw [subscribe, whenOpen, if_pos hopen]
  rfl

/-- A group that is made for a subscription filters what that reads. -/
theorem joined_cases (b : Broker) (o : ConsumerOptions) :
    b.group? o.group = some (b.joined o) ∨ (b.joined o).filter = o.subject := by
  rw [joined]
  cases b.group? o.group with
  | some g => exact .inl rfl
  | none => exact .inr rfl

/-- A subscription is refused on a closed connection, or by a group of another subject. -/
theorem subscribe_outcome (b : Broker) (connection : Nat) (o : ConsumerOptions) :
    match b.subscribe connection o with
    | (.ok id, b') => { id, subject := o.subject, group := o.group } ∈ b'.subscriptions
    | (.error err, _) =>
      b.isOpen connection = false ∧ err = .closed
        ∨ ∃ g, b.group? o.group = some g ∧ g.filter ≠ o.subject
            ∧ err = .subscribe o.subject
              s!"consumer group {o.group} already filters {g.filter}" := by
  by_cases hopen : b.isOpen connection = true
  · rw [subscribe_of_open hopen]
    by_cases hfilter : (b.joined o).filter = o.subject
    · rw [if_pos hfilter]
      exact List.mem_append_right _ (List.mem_singleton.2 rfl)
    · rw [if_neg hfilter]
      have hgroup := (b.joined_cases o).resolve_right hfilter
      exact .inr ⟨b.joined o, hgroup, hfilter, rfl⟩
  · rw [subscribe, whenOpen, if_neg hopen]
    exact .inl ⟨by simpa using hopen, rfl⟩

/-! The main result. -/

/-- Pairs of a subject and a process have one group name exactly if they have the same words. Over
every run the consumers of processes meet in a group exactly where they read one subject and the
names of the processes have the same words; one is refused on a closed connection, or where an
earlier subscription to another subject used the same words. Whatever is published after a
subscription and passes its subject goes into its group once, to be handed to one reader of that
group. -/
theorem run_processes (ops : List Operation) :
    (∀ subject process subject' process',
      groupName subject process = groupName subject' process'
        ↔ words subject ++ words process = words subject' ++ words process')
    ∧ (∀ connection subject process,
      match (run {} ops).subscribe connection (.forProcess subject process) with
      | (.ok id, b') =>
        { id, subject, group := groupName subject process } ∈ b'.subscriptions
      | (.error err, _) =>
        (run {} ops).isOpen connection = false ∧ err = .closed
          ∨ ∃ connection' o, .subscribe connection' o ∈ ops ∧ o.subject ≠ subject
            ∧ err = .subscribe subject
              s!"consumer group {groupName subject process} already filters {o.subject}"
            ∧ ∀ subject' process', o = .forProcess subject' process' →
              words subject' ++ words process' = words subject ++ words process)
    ∧ (∀ s ∈ (run {} ops).subscriptions, ∀ s' ∈ (run {} ops).subscriptions, ∀ process process',
        s.group = groupName s.subject process → s'.group = groupName s'.subject process' →
        (s.group = s'.group ↔ s.subject = s'.subject ∧ words process = words process'))
    ∧ ∀ s ∈ (run {} ops).subscriptions, ∃ g, (run {} ops).group? s.group = some g
        ∧ ∀ rest, ∃ g', ((run {} ops).run rest).group? s.group = some g'
          ∧ g'.handed.map (·.message) ++ g'.backlog
            = (g.handed.map (·.message) ++ g.backlog)
              ++ Group.accepted s.subject (log sent (run {} ops) rest)
          ∧ (g'.backlog ≠ [] → g'.members = [])
          ∧ ∀ x ∈ g'.handed, ∃ reader ∈ ((run {} ops).run rest).subscriptions,
              reader.group = s.group ∧ x ∈ g'.share reader.id
              ∧ ∀ other ∈ ((run {} ops).run rest).subscriptions,
                x ∈ g'.share other.id → other = reader := by
  have hsound := sound_run sound_empty ops
  have hfitting := fitting_run sound_empty fitting_empty ops
  refine ⟨fun _ _ _ _ => Subject.groupName_eq_iff, ?refused, ?shared, ?served⟩
  case refused =>
    intro connection subject process
    have houtcome := (run {} ops).subscribe_outcome connection (.forProcess subject process)
    generalize (run {} ops).subscribe connection (.forProcess subject process) = answer at houtcome ⊢
    obtain ⟨err | id, b'⟩ := answer
    · rcases houtcome with hclosed | ⟨g, hg, hother, herr⟩
      · exact .inl hclosed
      · obtain ⟨before, connection', o, rest, hops, -, -, hname, hfilter, -⟩ :=
          group?_origin sound_empty rfl hg
        rw [hfilter] at hother herr
        refine .inr ⟨connection', o, by simp [hops], hother, herr, ?_⟩
        rintro subject' process' rfl
        exact Subject.groupName_eq_iff.1 hname
    · exact houtcome
  case shared =>
    intro s hs s' hs' process process' hgroup hgroup'
    constructor
    · intro hsame
      obtain ⟨g, hg, hfilter⟩ := hfitting s hs
      obtain ⟨g', hg', hfilter'⟩ := hfitting s' hs'
      rw [hsame] at hg
      obtain rfl := Option.some.inj (hg.symm.trans hg')
      have hsubject : s.subject = s'.subject := hfilter.symm.trans hfilter'
      rw [hgroup, hgroup', Subject.groupName_eq_iff, hsubject] at hsame
      exact ⟨hsubject, List.append_cancel_left hsame⟩
    · rintro ⟨hsubject, hwords⟩
      rw [hgroup, hgroup', Subject.groupName_eq_iff, hsubject, hwords]
  case served =>
    intro s hs
    obtain ⟨g, hg, hfilter⟩ := hfitting s hs
    refine ⟨g, hg, fun rest => ?_⟩
    obtain ⟨g', hg', hoffered⟩ := group?_run hsound hg rest
    have hsound' := sound_run hsound rest
    refine ⟨g', hg', ?_, (hsound'.groups g' (group?_mem hg')).waits, ?_⟩
    · rw [← hfilter]
      exact hoffered.due
    · intro x hx
      rw [← group?_name hg']
      exact handed_to_one hsound' (group?_mem hg') hx

/-- Two processes read the orders, each through a connection of its own, and one order comes. -/
def neighbours : List Operation :=
  [.connect "memory://test", .connect "memory://test",
    .subscribe 1 (.forProcess "orders" "eu.billing"),
    .subscribe 2 (.forProcess "orders" "eu billing"),
    .inject { subject := "orders", payload := [] }]

/-- Processes whose names differ in a break have one group, so only one of them gets the order, and a
third one is turned away for a subject of its own. -/
theorem neighbours_collide :
    groupName "orders" "eu.billing" = groupName "orders" "eu billing"
      ∧ groupName "orders" "eu.billing" = groupName "orders.eu" "billing"
      ∧ (log (read 3) {} (neighbours ++ [.next 3, .next 4])).length = 1
      ∧ (log (read 4) {} (neighbours ++ [.next 3, .next 4])).length = 0
      ∧ (match ((run {} neighbours).subscribe 2 (.forProcess "orders.eu" "billing")).1 with
          | .error err => some err
          | .ok _ => none)
        = some (.subscribe "orders.eu"
          "consumer group orders-eu-billing already filters orders") := by
  -- The names are worked out on characters: the kernel is slow at mapping over strings.
  have hnames : groupName "orders" "eu.billing" = "orders-eu-billing"
      ∧ groupName "orders" "eu billing" = "orders-eu-billing"
      ∧ groupName "orders.eu" "billing" = "orders-eu-billing" := by
    simp [groupName, Subject.dashed, ← String.toList_inj]
  simp only [neighbours, ConsumerOptions.forProcess, hnames]
  decide +kernel

end Waystation.Broker
