import Waystation.Proofs.Broker.Members
/-!
Members that leave. What a group was offered is read, or it is still to be read by the subscription it
was handed to, or it waits for the next member. A subscription that was given up is handed nothing
more, so a group loses by its leaving what it has left unread, and nothing else.
-/
namespace Waystation

namespace Group

variable {g : Group} {h : History} {message : Message} {id : Nat}

/-- Is there no member of an identity that somebody holds? -/
def Lets (g : Group) (id : Nat) : Prop := ∀ m ∈ g.members, m.id = id → m.held = false

/-- Nothing is handed to a member that nobody holds. -/
theorem share_offer (hlets : g.Lets id) : (g.offer h message).1.share id = g.share id := by
  rw [offer]
  cases hturn : g.swept.turn? with
  | some member =>
    obtain ⟨hmem, hheld⟩ := List.mem_filter.1 (turn?_mem hturn)
    have hother : member.id ≠ id := by
      intro hid
      rw [hlets member hmem hid] at hheld
      cases hheld
    simp [share, swept, hother]
  | none => rfl

theorem share_offerAll {messages : List Message} (hlets : g.Lets id) :
    (g.offerAll h messages).1.share id = g.share id := by
  induction messages generalizing g h with
  | nil => rfl
  | cons message messages ih =>
    have hlater : (g.offer h message).1.Lets id := fun m hm => hlets m (mem_members_offer hm)
    exact (ih hlater).trans (share_offer hlets)

theorem share_attach {member : Member} (hlets : g.Lets id) (hother : member.id ≠ id) :
    (g.attach h member).1.share id = g.share id := by
  refine share_offerAll (g := { g with members := g.members ++ [member], backlog := [] }) ?_
  intro m hm hid
  rcases mem_snoc.1 hm with hold | rfl
  · exact hlets m hold hid
  · exact absurd hid hother

/-- Without anybody to hand it to, a message waits behind those that wait already. -/
theorem offer_of_vacant (hvacant : g.swept.members = []) :
    g.offer h message = ({ g.swept with backlog := g.backlog ++ [message] }, h) := by
  have hturn : g.swept.turn? = none := by simp [turn?, hvacant]
  rw [offer, hturn]
  rfl

/-- The only member gets all that is offered. -/
theorem share_offerAll_only {member : Member} (hheld : member.held = true) (messages : List Message)
    (honly : g.members = [member]) :
    ((g.offerAll h messages).1.share member.id).map (·.message)
      = (g.share member.id).map (·.message) ++ messages := by
  induction messages generalizing g h with
  | nil => exact (List.append_nil _).symm
  | cons message messages ih =>
    have hturn : g.swept.turn? = some member := by simp [turn?, swept, honly, hheld, Nat.mod_one]
    have hrest := ih (g := (g.offer h message).1) (h := (g.offer h message).2)
      (by rw [offer, hturn]; simp [swept, honly, hheld])
    have hfirst : ((g.offer h message).1.share member.id).map (·.message)
        = (g.share member.id).map (·.message) ++ [message] := by
      rw [offer, hturn]
      simp [share, swept]
    rw [hfirst, List.append_assoc] at hrest
    exact hrest

/-- Deliveries of one number are one. -/
theorem Sound.nodup {serves : Nat → Prop} {next : Nat} (hg : g.Sound serves next) :
    (g.handed.map (·.delivery)).Nodup :=
  (List.pairwise_map.2 hg.numbers).imp Nat.ne_of_lt

/-- A new member is handed all that waits, in its order. -/
theorem share_attach_new (member : Member) (hg : g.WaitsAlone) (hheld : member.held = true)
    (hnew : g.share member.id = []) :
    ((g.attach h member).1.share member.id).map (·.message) = g.backlog := by
  by_cases hnone : g.backlog = []
  · rw [attach, hnone]
    exact congrArg (List.map (·.message)) hnew
  · have honly : g.members ++ [member] = [member] := by rw [hg hnone, List.nil_append]
    have hall := share_offerAll_only (h := h) (g := { g with members := g.members ++ [member], backlog := [] })
      hheld g.backlog honly
    rw [attach, hall]
    have hnothing : share { g with members := g.members ++ [member], backlog := [] } member.id = [] := hnew
    rw [hnothing]
    rfl

end Group

namespace Broker

variable {b : Broker} {s : Subscription}

/-! What is handed out, and to whom. -/

theorem lets_of_not_holds {id : Nat} (h : ¬b.Holds id) {g : Group} (hg : g ∈ b.groups) : g.Lets id := by
  intro m hm hid
  cases hheld : m.held with
  | false => rfl
  | true => exact absurd ⟨m, ⟨g, hg, hm⟩, hid, hheld⟩ h

/-- A subscription that nobody holds is handed nothing more. -/
theorem share_after (hb : b.Sound) (hs : s ∈ b.subscriptions) (h : ¬b.Holds s.id) (op : Operation) :
    (b.after op).share s = b.share s := by
  have hgroup : ∃ g, b.group? s.group = some g := by
    cases hfind : b.group? s.group with
    | some g => exact ⟨g, rfl⟩
    | none => exact absurd (hb.joined s hs) (group?_eq_none_iff.1 hfind)
  obtain ⟨g, hg⟩ := hgroup
  have hlets := lets_of_not_holds h (group?_mem hg)
  have heffect := b.after_effect op
  generalize b.after op = b' at heffect
  cases heffect with
  | quiet hgroups _ _ _ _ _ => rw [share, share, group?, hgroups, ← group?]
  | @members op b' f hf hgroups _ _ _ _ _ =>
    rw [share, share, group?, hgroups, find?_map_name (fun g => (hf g).offered.name), ← group?, hg]
    rcases hf g with hsame | ⟨p, hsame⟩ | ⟨id, hsame⟩ <;> simp only [Option.map_some, hsame] <;> rfl
  | @published op m _ _ =>
    obtain ⟨g', hg', hcases⟩ := Group.find?_dispatch hg (b.history.recordPublish m) m
    have hfind : (b.inject m).group? s.group = some g' := hg'
    rw [share_of_group? hfind, share_of_group? hg]
    rcases hcases with ⟨-, h', rfl⟩ | ⟨-, rfl⟩
    · exact Group.share_offer hlets
    · rfl
  | @attached connection o _ _ =>
    rw [← attached, share, share, group?_attached, hg]
    by_cases hname : s.group = o.group
    · have hjoined : b.joined o = g := by rw [joined, ← hname, hg, Option.getD_some]
      rw [if_pos hname, enlisted, hjoined]
      refine Group.share_attach hlets ?_
      have hold := hb.issued s hs
      simp only [ne_eq]
      omega
    · rw [if_neg hname]
  | delivered _ => rfl

/-- Subscriptions are kept, and each goes on reading where it is. -/
theorem mem_subscriptions_after (hs : s ∈ b.subscriptions) (op : Operation) :
    ∃ s' ∈ (b.after op).subscriptions, s'.id = s.id ∧ s'.subject = s.subject ∧ s'.group = s.group := by
  have heffect := b.after_effect op
  generalize b.after op = b' at heffect
  cases heffect with
  | quiet _ hsubscriptions _ _ _ _ => exact ⟨s, hsubscriptions ▸ hs, rfl, rfl, rfl⟩
  | members _ _ hsubscriptions _ _ _ _ => exact ⟨s, hsubscriptions ▸ hs, rfl, rfl, rfl⟩
  | published _ _ => exact ⟨s, hs, rfl, rfl, rfl⟩
  | attached _ _ => exact ⟨s, List.mem_append_left _ hs, rfl, rfl, rfl⟩
  | @delivered id d _ =>
    refine ⟨advance id s, List.mem_map_of_mem hs, advance_id id s, ?_, advance_group id s⟩
    rw [advance]
    split <;> rfl

theorem share_eq_of_same {s s' : Subscription} (hid : s'.id = s.id) (hgroup : s'.group = s.group) :
    b.share s' = b.share s := by
  rw [share, share, hid, hgroup]

/-- Once nobody holds a subscription, nobody ever does, and its share is what it was. -/
theorem share_run (hb : b.Sound) (hs : s ∈ b.subscriptions) (h : ¬b.Holds s.id)
    (rest : List Operation) : ¬(b.run rest).Holds s.id ∧ (b.run rest).share s = b.share s := by
  induction rest generalizing b s with
  | nil => exact ⟨h, rfl⟩
  | cons op rest ih =>
    obtain ⟨s', hs', hid, -, hgroup⟩ := mem_subscriptions_after hs op
    have hnext : ¬(b.after op).Holds s'.id := hid ▸ not_holds_after h (hb.issued s hs) op
    obtain ⟨hnever, hshare⟩ := ih (sound_after hb op) hs' hnext
    refine ⟨hid ▸ hnever, ?_⟩
    rw [share_eq_of_same hid hgroup, share_eq_of_same hid hgroup] at hshare
    exact hshare.trans (share_after hb hs h op)

/-! Reading. -/

theorem subscription?_of_mem (hb : b.Sound) (hs : s ∈ b.subscriptions) :
    b.subscription? s.id = some s := by
  obtain ⟨s', hfind⟩ := Option.isSome_iff_exists.1
    (List.find?_isSome.2 ⟨s, hs, by simp⟩ : (b.subscriptions.find? (·.id = s.id)).isSome)
  have hid : s'.id = s.id := by simpa using List.find?_some hfind
  rw [subscription?, hfind, eq_of_nodup_map hb.ids (List.mem_of_find?_eq_some hfind) hs hid]

/-- What is to be read is read, one message at a call. -/
theorem read_queue (hb : b.Sound) (hs : s ∈ b.subscriptions) :
    log (read s.id) b (List.replicate (b.queue s).length (.next s.id)) = (b.queue s).map delivery := by
  generalize hqueue : b.queue s = xs
  induction xs generalizing b s with
  | nil => rfl
  | cons x xs ih =>
    have hincoming : b.incoming s.id = .delivery (delivery x) := by
      rw [incoming, subscription?_of_mem hb hs]
      simp only [hqueue]
      rfl
    let next := advance s.id s
    have hnext : next = { s with taken := s.taken + 1 } := if_pos rfl
    have hafter : b.after (.next s.id) = { b with subscriptions := b.subscriptions.map (advance s.id) } := by
      rw [after, Broker.next, hincoming]
      rfl
    have hmem : next ∈ (b.after (.next s.id)).subscriptions := by
      rw [hafter]
      exact List.mem_map_of_mem hs
    have hrest : (b.after (.next s.id)).queue next = xs := by
      have hshare : (b.after (.next s.id)).share next = b.share s := by
        rw [hafter, hnext]
        rfl
      rw [queue_eq] at hqueue
      rw [queue_eq, hshare, hnext, ← List.drop_drop, hqueue]
      rfl
    have hlater := ih (sound_after hb (.next s.id)) hmem hrest
    rw [show next.id = s.id from advance_id s.id s] at hlater
    rw [List.length_cons, List.replicate_succ, log_cons, hlater, read_next b hincoming, if_pos rfl]
    rfl

/-- A subscription that has just been made has all to read that waited in its group. -/
theorem queue_subscribed (hb : b.Sound) {connection id : Nat} {o : ConsumerOptions} {b' : Broker}
    (h : b.subscribe connection o = (.ok id, b')) :
    ∃ s ∈ b'.subscriptions, s.id = id ∧ s.group = o.group
      ∧ (b'.queue s).map (·.message) = (b.joined o).backlog := by
  rw [subscribe, whenOpen] at h
  split at h
  · simp only at h
    split at h
    · obtain ⟨hid, rfl⟩ := Prod.mk.inj h
      obtain rfl := Except.ok.inj hid
      have hsound := joined_sound hb o
      have hnew : (b.joined o).share (b.issued + 1) = [] := by
        refine List.filter_eq_nil_iff.2 fun x hx => ?_
        obtain ⟨s, hs, hid, -⟩ := (hsound.handed x hx).1
        have hold := hb.issued s hs
        simp only [decide_eq_true_eq]
        omega
      let new : Subscription := { id := b.issued + 1, subject := o.subject, group := o.group }
      refine ⟨new, List.mem_append_right _ (List.mem_singleton.2 rfl), rfl, rfl, ?_⟩
      have hgroup : (b.attached connection o).group? o.group = some (b.enlisted connection o).1 := by
        rw [group?_attached, if_pos rfl]
      have hshare : (b.attached connection o).share new = (b.enlisted connection o).1.share new.id :=
        share_of_group? hgroup
      rw [queue_eq, List.drop_zero]
      refine (congrArg (List.map (·.message)) hshare).trans ?_
      exact Group.share_attach_new { id := b.issued + 1, connection } hsound.waits rfl hnew
    · cases h
  · cases h

/-! What a group has lost. -/

variable {g : Group} {ops : List Operation}

/-- Has a group lost nothing of what it handed out? Each message was read, or a subscription that
somebody holds has it to read. -/
def Keeps (ops : List Operation) (g : Group) : Prop :=
  ∀ x ∈ g.handed, ∃ s ∈ (run {} ops).subscriptions, s.group = g.name
    ∧ (delivery x ∈ log (read s.id) {} ops ∨ (run {} ops).Holds s.id ∧ x ∈ (run {} ops).queue s)

/-- What was handed to a subscription was read, and what was not is to be read. -/
theorem share_eq_read_append (ops : List Operation) (hs : s ∈ (run {} ops).subscriptions) :
    ((run {} ops).share s).map delivery
      = log (read s.id) {} ops ++ ((run {} ops).queue s).map delivery := by
  have hread : log (read s.id) {} ops = _ := (inOrder_run sound_empty inOrder_empty ops).got_eq s hs
  rw [hread, queue_eq, ← List.map_append, List.take_append_drop]

theorem share_of_group (hb : b.Sound) (hg : g ∈ b.groups) (hgroup : s.group = g.name) :
    b.share s = g.share s.id :=
  share_of_group? (hgroup ▸ group?_of_mem hb hg)

/-- What is still to be read has not been read. -/
theorem not_read_of_queue (hg : g ∈ (run {} ops).groups) (hs : s ∈ (run {} ops).subscriptions)
    (hgroup : s.group = g.name) {x : Handed} (hx : x ∈ (run {} ops).queue s) :
    delivery x ∉ log (read s.id) {} ops := by
  have hsound := sound_run sound_empty ops
  have hnumbers : ((run {} ops).share s).Pairwise fun x y => x.delivery < y.delivery := by
    rw [share_of_group hsound hg hgroup]
    exact (hsound.groups g hg).numbers.filter _
  have hread : log (read s.id) {} ops = _ := (inOrder_run sound_empty inOrder_empty ops).got_eq s hs
  rw [hread, List.mem_map]
  rintro ⟨y, hy, hsame⟩
  rw [queue_eq] at hx
  rw [← List.take_append_drop s.taken ((run {} ops).share s)] at hnumbers
  have hless := (List.pairwise_append.1 hnumbers).2.2 y hy x hx
  have hnumber : y.delivery = x.delivery := congrArg Delivery.number hsame
  omega

/-- What was handed to a subscription it has read, or it has it to read. -/
theorem mem_share_iff (hg : g ∈ (run {} ops).groups) (hs : s ∈ (run {} ops).subscriptions)
    (hgroup : s.group = g.name) {x : Handed} (hx : x ∈ g.handed) :
    x ∈ g.share s.id ↔ delivery x ∈ log (read s.id) {} ops ∨ x ∈ (run {} ops).queue s := by
  have hsound := sound_run sound_empty ops
  have hread : log (read s.id) {} ops = _ := (inOrder_run sound_empty inOrder_empty ops).got_eq s hs
  have htaken : delivery x ∈ ((g.share s.id).take s.taken).map delivery
      ↔ x ∈ (g.share s.id).take s.taken := by
    refine ⟨fun hmem => ?_, List.mem_map_of_mem⟩
    obtain ⟨y, hy, hsame⟩ := List.mem_map.1 hmem
    have hhanded : y ∈ g.handed := (List.mem_filter.1 (List.mem_of_mem_take hy)).1
    have hnumber : y.delivery = x.delivery := congrArg Delivery.number hsame
    rwa [← eq_of_nodup_map (hsound.groups g hg).nodup hhanded hx hnumber]
  rw [hread, queue_eq, share_of_group hsound hg hgroup, htaken, ← List.mem_append,
    List.take_append_drop]

/-- A group has lost nothing exactly if whoever left it had read all that it was handed. -/
theorem keeps_iff (hg : g ∈ (run {} ops).groups) :
    Keeps ops g ↔ ∀ s ∈ (run {} ops).subscriptions, s.group = g.name → ¬(run {} ops).Holds s.id →
      (run {} ops).queue s = [] := by
  have hsound := sound_run sound_empty ops
  constructor
  · intro hkeeps s hs hgroup hleft
    refine List.eq_nil_iff_forall_not_mem.2 fun x hx => ?_
    have hshare : x ∈ g.share s.id := by
      rw [queue_eq, share_of_group hsound hg hgroup] at hx
      exact List.mem_of_mem_drop hx
    have hhanded : x ∈ g.handed := (List.mem_filter.1 hshare).1
    obtain ⟨s', hs', hgroup', hfate⟩ := hkeeps x hhanded
    have hshare' := (mem_share_iff hg hs' hgroup' hhanded).2 (hfate.imp_right And.right)
    obtain ⟨owner, -, -, -, honly⟩ := handed_to_one hsound hg hhanded
    obtain rfl : s' = s := (honly s' hs' hshare').trans (honly s hs hshare).symm
    rcases hfate with hread | ⟨hholds, -⟩
    · exact not_read_of_queue hg hs hgroup hx hread
    · exact hleft hholds
  · intro hread x hx
    obtain ⟨s, hs, hgroup, hshare, -⟩ := handed_to_one hsound hg hx
    refine ⟨s, hs, hgroup, ?_⟩
    rcases (mem_share_iff hg hs hgroup hx).1 hshare with hgot | hqueue
    · exact .inl hgot
    · by_cases hholds : (run {} ops).Holds s.id
      · exact .inr ⟨hholds, hqueue⟩
      · rw [hread s hs hgroup hholds] at hqueue
        cases hqueue

/-- Where nobody is left to read for a group, what is sent to it waits. -/
theorem inject_of_vacant (hb : b.Sound) (hg : g ∈ b.groups)
    (hvacant : ∀ s ∈ b.subscriptions, s.group = g.name → ¬b.Holds s.id) {m : Message}
    (haccepts : Subject.accepts g.filter m.subject) :
    ∃ g', (b.inject m).group? g.name = some g' ∧ g'.handed = g.handed
      ∧ g'.backlog = g.backlog ++ [m] := by
  have hnobody : g.swept.members = [] := by
    refine List.filter_eq_nil_iff.2 fun member hmember hheld => ?_
    obtain ⟨s, hs, hid, hgroup⟩ := (hb.groups g hg).members member hmember
    exact hvacant s hs hgroup ⟨member, ⟨g, hg, hmember⟩, hid.symm, hheld⟩
  obtain ⟨g', hg', hcases⟩ := Group.find?_dispatch (group?_of_mem hb hg) (b.history.recordPublish m) m
  rcases hcases with ⟨-, h', rfl⟩ | ⟨hpasses, -⟩
  · refine ⟨_, hg', ?_⟩
    rw [Group.offer_of_vacant hnobody]
    exact ⟨rfl, rfl⟩
  · rw [haccepts] at hpasses
    cases hpasses

/-- Over every run, what was handed to a subscription was read by it or is what its next calls return.
Once nobody holds a subscription nobody ever does, and it is handed nothing more; so a group has lost
nothing exactly if whoever left it had read all that it was handed. What is sent while nobody is left
waits, and whoever joins next has all to read that waits, in its order. -/
theorem run_departures (ops : List Operation) :
    (∀ s ∈ (run {} ops).subscriptions,
      ((run {} ops).share s).map delivery
          = log (read s.id) {} ops ++ ((run {} ops).queue s).map delivery
        ∧ log (read s.id) (run {} ops)
            (List.replicate ((run {} ops).queue s).length (.next s.id))
          = ((run {} ops).queue s).map delivery
        ∧ (¬(run {} ops).Holds s.id → ∀ rest, ¬((run {} ops).run rest).Holds s.id
          ∧ ((run {} ops).run rest).share s = (run {} ops).share s))
    ∧ (∀ g ∈ (run {} ops).groups,
        (Keeps ops g ↔ ∀ s ∈ (run {} ops).subscriptions, s.group = g.name →
          ¬(run {} ops).Holds s.id → (run {} ops).queue s = [])
        ∧ (∀ rest, ∃ g', ((run {} ops).run rest).group? g.name = some g' ∧ g.handed <+: g'.handed
          ∧ g'.due = g.due ++ Group.accepted g.filter (log sent (run {} ops) rest))
        ∧ ((∀ s ∈ (run {} ops).subscriptions, s.group = g.name → ¬(run {} ops).Holds s.id) →
          ∀ m : Message, Subject.accepts g.filter m.subject →
            ∃ g', ((run {} ops).inject m).group? g.name = some g' ∧ g'.handed = g.handed
              ∧ g'.backlog = g.backlog ++ [m]))
    ∧ ∀ connection o id b', (run {} ops).subscribe connection o = (.ok id, b') →
        ∃ s ∈ b'.subscriptions, s.id = id ∧ s.group = o.group
          ∧ (b'.queue s).map (·.message) = ((run {} ops).joined o).backlog := by
  have hsound := sound_run sound_empty ops
  refine ⟨fun s hs => ⟨share_eq_read_append ops hs, read_queue hsound hs, ?_⟩,
    fun g hg => ⟨keeps_iff hg, fun rest => ?_, ?_⟩, fun connection o id b' h => queue_subscribed hsound h⟩
  · exact fun hleft rest => share_run hsound hs hleft rest
  · obtain ⟨g', hg', hoffered⟩ := group?_run hsound (group?_of_mem hsound hg) rest
    exact ⟨g', hg', hoffered.handed, hoffered.due⟩
  · exact fun hvacant m haccepts => inject_of_vacant hsound hg hvacant haccepts

/-- A consumer of a process is handed a message, leaves without having read it, and comes back. -/
def returning : List Operation :=
  [.connect "memory://", .subscribe 1 { subject := "in.a", group := "in-a-p" },
    .inject { subject := "in.a", payload := [] }, .unsubscribe 2, .drop 2,
    .subscribe 1 { subject := "in.a", group := "in-a-p" }]

/-- What a member leaves unread is lost: it neither waits for the next member nor is it handed to it. -/
theorem lost_of_returning :
    (run {} returning).activeConsumers "in-a-p" = 1
      ∧ (run {} returning).groups.map (·.backlog) = [[]]
      ∧ (run {} returning).groups.map (fun g => g.handed.map (·.message.subject)) = [["in.a"]]
      ∧ log (read 2) {} (returning ++ [.next 3]) = [] ∧ log (read 3) {} (returning ++ [.next 3]) = []
      ∧ (run {} returning).incoming 3 = .pending := by
  decide +kernel

end Broker
end Waystation
