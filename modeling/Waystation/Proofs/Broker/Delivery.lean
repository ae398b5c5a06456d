import Waystation.Proofs.Broker.Invariant
/-!
Deliveries over whole runs. Whatever is done to a broker, a group gets every blob it takes exactly
once and in the order of publication, and every reader reads its own share of them in order.
-/
namespace Waystation.Broker

variable {b : Broker} {name : String} {g : Group}

/-! What groups are offered. -/

/-- Over an operation a group is offered what is published and passes its filter. -/
theorem group?_after (hb : b.Sound) (hg : b.group? name = some g) (op : Operation) :
    ∃ g', (b.after op).group? name = some g' ∧ g.Offered (Group.accepted g.filter (b.sent op)) g' := by
  have heffect := b.after_effect op
  generalize b.after op = b' at heffect
  cases heffect with
  | quiet hgroups _ _ _ hsent _ =>
    rw [group?, hgroups, hsent]
    exact ⟨g, hg, .refl g⟩
  | @members op b' f hf hgroups _ _ _ hsent _ =>
    rw [group?, hgroups, find?_map_name (fun g => (hf g).offered.name), ← group?, hg, hsent]
    exact ⟨f g, rfl, (hf g).offered⟩
  | @published op m hsent _ =>
    rw [hsent]
    exact Group.offered_dispatch (fun g hg => (hb.groups g hg).waits) hg _ m
  | @attached connection o _ _ =>
    rw [← attached, group?_attached]
    by_cases hname : name = o.group
    · have hjoined : b.joined o = g := by rw [joined, ← hname, hg, Option.getD_some]
      rw [if_pos hname, enlisted, hjoined]
      exact ⟨_, rfl, (g.offered_attach _ _).1⟩
    · rw [if_neg hname]
      exact ⟨g, hg, .refl g⟩
  | delivered => exact ⟨g, hg, .refl g⟩

theorem group?_run (hb : b.Sound) (hg : b.group? name = some g) (ops : List Operation) :
    ∃ g', (b.run ops).group? name = some g'
      ∧ g.Offered (Group.accepted g.filter (log sent b ops)) g' := by
  induction ops generalizing b g with
  | nil => exact ⟨g, hg, .refl g⟩
  | cons op ops ih =>
    obtain ⟨g', hg', hfirst⟩ := group?_after hb hg op
    obtain ⟨g'', hg'', hrest⟩ := ih (sound_after hb op) hg'
    rw [hfirst.filter] at hrest
    rw [log_cons, Group.accepted_append]
    exact ⟨g'', hg'', hfirst.trans hrest⟩

/-! How groups come to be. -/

/-- A group is made by its first subscription, with what its policy lets it replay. -/
theorem group?_made {op : Operation} (hnone : b.group? name = none)
    (hsome : (b.after op).group? name = some g) :
    ∃ connection o, op = .subscribe connection o ∧ b.isOpen connection = true ∧ o.group = name
      ∧ g.filter = o.subject ∧ g.due = (b.freshGroup o).backlog := by
  have heffect := b.after_effect op
  generalize b.after op = b' at heffect hsome
  have hold : name ∈ b'.groups.map (·.name) := by
    rw [← group?_name hsome]
    exact List.mem_map_of_mem (group?_mem hsome)
  have hfresh := group?_eq_none_iff.1 hnone
  cases heffect with
  | quiet hgroups _ _ _ _ _ => exact absurd (hgroups ▸ hold) hfresh
  | members hf hgroups _ _ _ _ _ =>
    rw [hgroups, map_name_of_letsGo hf] at hold
    exact absurd hold hfresh
  | published _ _ =>
    rw [map_name_inject] at hold
    exact absurd hold hfresh
  | @attached connection o hopen hfilter =>
    rw [← attached, group?_attached] at hsome
    split at hsome
    next hname =>
      subst hname
      have hjoined : b.joined o = b.freshGroup o := by rw [joined, hnone, Option.getD_none]
      have hoffered := (b.freshGroup o).offered_attach b.history { id := b.issued + 1, connection }
      rw [enlisted, hjoined] at hsome
      obtain rfl := Option.some.inj hsome
      refine ⟨connection, o, rfl, hopen, rfl, hoffered.1.filter, ?_⟩
      rw [hoffered.1.due]
      simp [Group.due, freshGroup]
    next => exact absurd (hsome.symm.trans hnone) (by simp)
  | delivered => exact absurd hold hfresh

theorem group?_origin {ops : List Operation} (hb : b.Sound) (hnone : b.group? name = none)
    (hsome : (b.run ops).group? name = some g) :
    ∃ before connection o rest, ops = before ++ .subscribe connection o :: rest
      ∧ (b.run before).isOpen connection = true ∧ (b.run before).group? o.group = none
      ∧ o.group = name ∧ g.filter = o.subject
      ∧ g.due = ((b.run before).freshGroup o).backlog ++ Group.accepted o.subject
        (log sent (b.run (before ++ [.subscribe connection o])) rest) := by
  induction ops generalizing b with
  | nil => exact absurd (hsome.symm.trans hnone) (by simp)
  | cons op ops ih =>
    cases hmade : (b.after op).group? name with
    | some made =>
      obtain ⟨connection, o, rfl, hopen, rfl, hfilter, hdue⟩ := group?_made hnone hmade
      obtain ⟨g', hg', hoffered⟩ := group?_run (sound_after hb _) hmade ops
      obtain rfl := Option.some.inj (hsome.symm.trans hg')
      refine ⟨[], connection, o, ops, rfl, hopen, hnone, rfl, hoffered.filter.trans hfilter, ?_⟩
      rw [hoffered.due, hdue, hfilter]
      rfl
    | none =>
      obtain ⟨before, connection, o, rest, rfl, horigin⟩ := ih (sound_after hb op) hmade hsome
      exact ⟨op :: before, connection, o, rest, rfl, horigin⟩

/-! What readers get. -/

/-- What has been handed to a subscription. -/
def share (b : Broker) (s : Subscription) : List Handed :=
  match b.group? s.group with
  | some g => g.share s.id
  | none => []

theorem share_of_group? {s : Subscription} (hg : b.group? s.group = some g) :
    b.share s = g.share s.id := by
  rw [share, hg]

/-- A message as its reader gets it. -/
def delivery (x : Handed) : Delivery := { number := x.delivery, message := x.message }

theorem queue_eq (b : Broker) (s : Subscription) : b.queue s = (b.share s).drop s.taken := by
  rw [queue, share]
  cases b.group? s.group with
  | some g => rfl
  | none => exact List.drop_nil.symm

theorem share_advance (b : Broker) (id : Nat) (s : Subscription) :
    b.share (advance id s) = b.share s := by
  rw [share, share, advance_group, advance_id]

/-- What has been handed to a subscription stays handed to it. -/
theorem share_grows (hb : b.Sound) (op : Operation) {s : Subscription}
    (hs : s ∈ b.subscriptions) : b.share s <+: (b.after op).share s := by
  cases hgroup : b.group? s.group with
  | some g =>
    obtain ⟨g', hg', hoffered⟩ := group?_after hb hgroup op
    rw [share_of_group? hgroup, share_of_group? hg']
    exact hoffered.handed.filter _
  | none => exact absurd (hb.joined s hs) (group?_eq_none_iff.1 hgroup)

/-- Each reader has got the first messages of its share, as many as are counted, and nothing was
read under an identity that has not been given yet. -/
structure InOrder (b : Broker) (got : Nat → List Delivery) : Prop where
  taken_le : ∀ s ∈ b.subscriptions, s.taken ≤ (b.share s).length
  got_eq : ∀ s ∈ b.subscriptions, got s.id = ((b.share s).take s.taken).map delivery
  fresh : ∀ id, b.issued < id → got id = []

theorem inOrder_empty : InOrder {} fun _ => [] where
  taken_le s hs := by cases hs
  got_eq s hs := by cases hs
  fresh _ _ := rfl

/-- A share that grows at its end leaves the messages read before as they are. -/
theorem InOrder.grow {got : Nat → List Delivery} (h : InOrder b got) {b' : Broker}
    (hgrown : ∀ s ∈ b.subscriptions, b.share s <+: b'.share s) {s : Subscription}
    (hs : s ∈ b.subscriptions) :
    s.taken ≤ (b'.share s).length ∧ got s.id = ((b'.share s).take s.taken).map delivery := by
  have htaken := h.taken_le s hs
  rw [take_of_grown (hgrown s hs) htaken]
  exact ⟨Nat.le_trans htaken (hgrown s hs).length_le, h.got_eq s hs⟩

/-- What the next message of a subscription is. -/
theorem incoming_eq_delivery {id : Nat} {d : Delivery} (h : b.incoming id = .delivery d) :
    ∃ s ∈ b.subscriptions, s.id = id
      ∧ ∃ x rest, (b.share s).drop s.taken = x :: rest ∧ d = delivery x := by
  rw [incoming] at h
  cases hfind : b.subscription? id with
  | none => simp [hfind] at h
  | some s =>
    have hid : s.id = id := by simpa using List.find?_some hfind
    refine ⟨s, List.mem_of_find?_eq_some hfind, hid, ?_⟩
    rw [← queue_eq]
    cases hqueue : b.queue s with
    | nil =>
      simp only [hfind, hqueue] at h
      split at h <;> cases h
    | cons x rest =>
      simp only [hfind, hqueue, Incoming.delivery.injEq] at h
      exact ⟨x, rest, rfl, h.symm⟩

theorem read_next (b : Broker) {id : Nat} {d : Delivery} (h : b.incoming id = .delivery d)
    (id' : Nat) : read id' b (.next id) = if id = id' then [d] else [] := by
  simp [read, next, h]

theorem inOrder_after {got : Nat → List Delivery} (hb : b.Sound) (h : InOrder b got)
    (op : Operation) : InOrder (b.after op) fun id => got id ++ read id b op := by
  have hgrown : ∀ s ∈ b.subscriptions, b.share s <+: (b.after op).share s :=
    fun s hs => share_grows hb op hs
  have heffect := b.after_effect op
  generalize b.after op = b' at hgrown heffect
  cases heffect with
  | quiet _ hsubscriptions _ hissued _ hread =>
    simp only [hread, List.append_nil]
    refine ⟨?_, ?_, fun id hid => h.fresh id (Nat.lt_of_le_of_lt hissued hid)⟩
    · rw [hsubscriptions]
      exact fun s hs => (h.grow hgrown hs).1
    · rw [hsubscriptions]
      exact fun s hs => (h.grow hgrown hs).2
  | members _ _ hsubscriptions _ hissued _ hread =>
    simp only [hread, List.append_nil]
    refine ⟨?_, ?_, fun id hid => h.fresh id (hissued ▸ hid)⟩
    · rw [hsubscriptions]
      exact fun s hs => (h.grow hgrown hs).1
    · rw [hsubscriptions]
      exact fun s hs => (h.grow hgrown hs).2
  | published _ hread =>
    simp only [hread, List.append_nil]
    exact ⟨fun s hs => (h.grow hgrown hs).1, fun s hs => (h.grow hgrown hs).2, h.fresh⟩
  | @attached connection o _ _ =>
    have hnothing : ∀ id, read id b (.subscribe connection o) = [] := fun _ => rfl
    simp only [hnothing, List.append_nil]
    refine ⟨?_, ?_, fun id hid => h.fresh id (Nat.lt_of_succ_lt hid)⟩
    · intro s hs
      rcases mem_snoc.1 hs with hold | rfl
      · exact (h.grow hgrown hold).1
      · exact Nat.zero_le _
    · intro s hs
      rcases mem_snoc.1 hs with hold | rfl
      · exact (h.grow hgrown hold).2
      · exact h.fresh (b.issued + 1) (Nat.lt_succ_self _)
  | @delivered id d hincoming =>
    obtain ⟨target, htarget, hid, x, rest, hdrop, rfl⟩ := incoming_eq_delivery hincoming
    have hnext := take_succ_of_drop hdrop
    have hread := read_next b hincoming
    have hadvanced : ∀ s ∈ b.subscriptions, (advance id s).taken ≤ (b.share s).length
        ∧ got s.id ++ read s.id b (.next id)
          = ((b.share s).take (advance id s).taken).map delivery := by
      intro s hs
      by_cases hs' : s.id = id
      · obtain rfl := eq_of_nodup_map hb.ids hs htarget (hs'.trans hid.symm)
        rw [hread, if_pos hid.symm, advance, if_pos hid, hnext.2, h.got_eq s hs]
        exact ⟨hnext.1, by simp⟩
      · rw [hread, if_neg (Ne.symm hs'), advance, if_neg hs', List.append_nil]
        exact ⟨h.taken_le s hs, h.got_eq s hs⟩
    refine ⟨?_, ?_, fun id' hid' => ?_⟩
    · intro s' hs'
      obtain ⟨s, hs, rfl⟩ := List.mem_map.1 hs'
      rw [share_advance]
      exact (hadvanced s hs).1
    · intro s' hs'
      obtain ⟨s, hs, rfl⟩ := List.mem_map.1 hs'
      rw [share_advance, advance_id]
      exact (hadvanced s hs).2
    · have hother : id ≠ id' := by
        have hle := hb.issued target htarget
        have hlt : b.issued < id' := hid'
        omega
      rw [hread, if_neg hother, h.fresh id' hid']
      rfl

theorem inOrder_run {got : Nat → List Delivery} (hb : b.Sound) (h : InOrder b got)
    (ops : List Operation) : InOrder (b.run ops) fun id => got id ++ log (read id) b ops := by
  induction ops generalizing b got with
  | nil => simpa using h
  | cons op ops ih =>
    have hrest := ih (sound_after hb op) (inOrder_after hb h op)
    simpa [List.append_assoc] using hrest

/-! The main result. -/

theorem group?_of_mem (hb : b.Sound) (hg : g ∈ b.groups) : b.group? g.name = some g := by
  cases hfind : b.group? g.name with
  | some other =>
    rw [eq_of_nodup_map hb.names (group?_mem hfind) hg (group?_name hfind)]
  | none => exact absurd (List.mem_map_of_mem hg) (group?_eq_none_iff.1 hfind)

/-- What was handed out is in the share of one subscription, which is one to the group. -/
theorem handed_to_one (hb : b.Sound) (hg : g ∈ b.groups) {x : Handed} (hx : x ∈ g.handed) :
    ∃ s ∈ b.subscriptions, s.group = g.name ∧ x ∈ g.share s.id
      ∧ ∀ s' ∈ b.subscriptions, x ∈ g.share s'.id → s' = s := by
  obtain ⟨s, hs, hid, hgroup⟩ := ((hb.groups g hg).handed x hx).1
  refine ⟨s, hs, hgroup, List.mem_filter.2 ⟨hx, by simp [hid]⟩, fun s' hs' hx' => ?_⟩
  have hid' : x.member = s'.id := by simpa using (List.mem_filter.1 hx').2
  exact eq_of_nodup_map hb.ids hs' hs (hid'.symm.trans hid.symm)

/-- Over every run each group has handed out, and then holds back for want of members, exactly the
blobs that it could replay when it was made and those published since, as far as they pass its
filter, in order of publication. Each went to one subscription, and every reader has got the first
messages of its share. -/
theorem run_groups (ops : List Operation) :
    (∀ g ∈ (run {} ops).groups,
      (∃ before connection o rest, ops = before ++ .subscribe connection o :: rest
        ∧ (run {} before).isOpen connection = true ∧ (run {} before).group? o.group = none
        ∧ o.group = g.name ∧ o.subject = g.filter
        ∧ g.handed.map (·.message) ++ g.backlog
          = (match o.deliver with
            | .new => []
            | .all => Group.accepted g.filter (run {} before).history.published)
            ++ Group.accepted g.filter
              (log sent (run {} (before ++ [.subscribe connection o])) rest))
      ∧ (g.backlog ≠ [] → g.members = [])
      ∧ (g.handed.Pairwise fun x y => x.delivery < y.delivery)
      ∧ ∀ x ∈ g.handed, ∃ s ∈ (run {} ops).subscriptions, s.group = g.name ∧ x ∈ g.share s.id
        ∧ ∀ s' ∈ (run {} ops).subscriptions, x ∈ g.share s'.id → s' = s)
    ∧ ∀ s ∈ (run {} ops).subscriptions,
      log (read s.id) {} ops = (((run {} ops).share s).take s.taken).map delivery := by
  have hsound := sound_run sound_empty ops
  refine ⟨fun g hg => ⟨?_, ?_, ?_, ?_⟩, ?_⟩
  · obtain ⟨before, connection, o, rest, hops, hopen, hnone, hname, hfilter, hdue⟩ :=
      group?_origin sound_empty rfl (group?_of_mem hsound hg)
    refine ⟨before, connection, o, rest, hops, hopen, hnone, hname, hfilter.symm, ?_⟩
    rw [hfilter]
    exact hdue
  · exact (hsound.groups g hg).waits
  · exact (hsound.groups g hg).numbers
  · exact fun x hx => handed_to_one hsound hg hx
  · intro s hs
    have hinOrder := inOrder_run sound_empty inOrder_empty ops
    exact hinOrder.got_eq s hs

end Waystation.Broker
