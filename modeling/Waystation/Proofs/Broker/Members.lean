import Waystation.Proofs.Broker.Delivery
/-!
Who is a member of the groups of a broker. Members come by subscribing through an open connection, and
they go for good: a closed connection has no members, and neither has a subscription that was given
up.
-/
namespace Waystation

namespace Group

theorem mem_members_offer {g : Group} {h : History} {message : Message} {m : Member}
    (hm : m ∈ (g.offer h message).1.members) : m ∈ g.members := by
  have hswept : m ∈ g.swept.members := by
    rcases g.offer_cases h message with ⟨_, _, hoffer⟩ | ⟨_, hoffer⟩
    · rwa [hoffer] at hm
    · rwa [hoffer] at hm
  exact (List.mem_filter.1 hswept).1

theorem mem_members_offerAll {g : Group} {h : History} {messages : List Message} {m : Member}
    (hm : m ∈ (g.offerAll h messages).1.members) : m ∈ g.members := by
  induction messages generalizing g h with
  | nil => exact hm
  | cons message messages ih => exact mem_members_offer (ih hm)

theorem mem_members_attach {g : Group} {h : History} {new m : Member}
    (hm : m ∈ (g.attach h new).1.members) : m ∈ g.members ∨ m = new :=
  mem_snoc.1 (mem_members_offerAll hm)

theorem mem_members_dispatch {message : Message} {gs : List Group} {h : History} {g : Group}
    {m : Member} (hg : g ∈ (dispatch message gs h).1) (hm : m ∈ g.members) :
    ∃ old ∈ gs, m ∈ old.members := by
  induction gs generalizing h with
  | nil => cases hg
  | cons first gs ih =>
    obtain ⟨next, h', hdispatch, hcases⟩ := dispatch_cons message first gs h
    rw [hdispatch] at hg
    rcases List.mem_cons.1 hg with rfl | hrest
    · refine ⟨first, List.mem_cons_self, ?_⟩
      rcases hcases with ⟨-, rfl, -⟩ | ⟨-, rfl, -⟩
      · exact mem_members_offer hm
      · exact hm
    · obtain ⟨old, hold, hm⟩ := ih hrest
      exact ⟨old, List.mem_cons_of_mem _ hold, hm⟩

end Group

namespace Broker

variable {b b' : Broker} {m : Member} {connection id : Nat}

/-- Is a member in one of the groups? -/
def Seats (b : Broker) (m : Member) : Prop := ∃ g ∈ b.groups, m ∈ g.members

/-- A member as it was before, perhaps still held. -/
structure Stems (old m : Member) : Prop where
  id : m.id = old.id
  connection : m.connection = old.connection
  held : m.held = true → old.held = true

theorem Stems.refl (m : Member) : Stems m m := ⟨rfl, rfl, fun h => h⟩

theorem LetsGo.stems {g g' : Group} (h : LetsGo g g') (hm : m ∈ g'.members) :
    ∃ old ∈ g.members, Stems old m := by
  rcases h with rfl | ⟨p, rfl⟩ | ⟨id, rfl⟩
  · exact ⟨m, hm, .refl m⟩
  · exact ⟨m, (List.mem_filter.1 hm).1, .refl m⟩
  · obtain ⟨old, hold, rfl⟩ := List.mem_map.1 hm
    refine ⟨old, hold, ?_⟩
    split
    · exact ⟨rfl, rfl, fun h => nomatch h⟩
    · exact .refl old

theorem seats_of_groups_eq (h : b'.groups = b.groups) (hm : b'.Seats m) : b.Seats m := by
  rwa [Seats, h] at hm

theorem seats_map {f : Group → Group} (hf : ∀ g, LetsGo g (f g)) (h : b'.groups = b.groups.map f)
    (hm : b'.Seats m) : ∃ old, b.Seats old ∧ Stems old m := by
  obtain ⟨g', hg', hm⟩ := hm
  rw [h] at hg'
  obtain ⟨g, hg, rfl⟩ := List.mem_map.1 hg'
  obtain ⟨old, hold, hstems⟩ := (hf g).stems hm
  exact ⟨old, ⟨g, hg, hold⟩, hstems⟩

theorem seats_attached {o : ConsumerOptions} (hm : (b.attached connection o).Seats m) :
    b.Seats m ∨ m = { id := b.issued + 1, connection } := by
  obtain ⟨g, hg, hm⟩ := hm
  rcases mem_attached_groups hg with rfl | hold
  · rcases Group.mem_members_attach hm with hjoined | rfl
    · rw [joined] at hjoined
      cases hgroup : b.group? o.group with
      | some g =>
        rw [hgroup] at hjoined
        exact .inl ⟨g, group?_mem hgroup, hjoined⟩
      | none =>
        rw [hgroup] at hjoined
        cases hjoined
    · exact .inr rfl
  · exact .inl ⟨g, hold, hm⟩

/-- A member was there before, or it has just subscribed through an open connection. -/
theorem seats_after {op : Operation} (hm : (b.after op).Seats m) :
    (∃ old, b.Seats old ∧ Stems old m)
      ∨ b.isOpen m.connection = true ∧ m.id = b.issued + 1 ∧ ∃ o, op = .subscribe m.connection o := by
  have heffect := b.after_effect op
  generalize b.after op = b' at heffect hm
  cases heffect with
  | quiet hgroups _ _ _ _ _ => exact .inl ⟨m, seats_of_groups_eq hgroups hm, .refl m⟩
  | members hf hgroups _ _ _ _ _ => exact .inl (seats_map hf hgroups hm)
  | published _ _ =>
    obtain ⟨g, hg, hm⟩ := hm
    obtain ⟨old, hold, hm⟩ := Group.mem_members_dispatch hg hm
    exact .inl ⟨m, ⟨old, hold, hm⟩, .refl m⟩
  | attached hopen _ =>
    rcases seats_attached hm with hold | rfl
    · exact .inl ⟨m, hold, .refl m⟩
    · exact .inr ⟨hopen, rfl, _, rfl⟩
  | delivered _ => exact .inl ⟨m, hm, .refl m⟩

/-! Connections. -/

/-- Is there a connection of an identity, open or not? -/
def Knows (b : Broker) (connection : Nat) : Prop := (b.connection? connection).isSome = true

/-- What an operation does to the connections: it makes one, or closes one, or leaves them. -/
theorem connections_after (b : Broker) (op : Operation) :
    (b.after op).connections = b.connections
      ∨ (∃ url, (b.after op).connections = b.connections ++ [{ id := b.issued + 1, url }])
      ∨ ∃ connection, op = .close connection ∧ b.isOpen connection = true
        ∧ (b.after op).connections
          = b.connections.map fun c => if c.id = connection then { c with isOpen := false } else c := by
  cases op with
  | connect url =>
    rw [after, connect]
    split
    · exact .inl rfl
    · exact .inr (.inl ⟨url, rfl⟩)
  | close connection =>
    rw [after, close]
    split
    next hopen => exact .inr (.inr ⟨connection, rfl, hopen, rfl⟩)
    next => exact .inl rfl
  | setOffline offline => exact .inl rfl
  | setMaxPayload limit => exact .inl rfl
  | setHistoryLimit limit => exact .inl rfl
  | publish connection m =>
    rcases b.publish_cases connection m with ⟨err, h⟩ | h
    · exact .inl (by rw [after, h])
    · exact .inl (by rw [after, h]; rfl)
  | inject m => exact .inl rfl
  | subscribe connection o =>
    rcases b.subscribe_cases connection o with ⟨-, -, h⟩ | ⟨issued, -, h⟩
    · exact .inl (by rw [after, h]; rfl)
    · exact .inl (by rw [after, h])
  | next subscription =>
    rw [after, next]
    split
    · exact .inl rfl
    · exact .inl rfl
  | acknowledge delivery =>
    rw [after, acknowledge]
    split
    · exact .inl rfl
    · exact .inl rfl
  | unsubscribe subscription =>
    rw [after, unsubscribe, changeGroup]
    split
    · exact .inl rfl
    · exact .inl rfl
  | drop subscription =>
    rw [after, drop, changeGroup]
    split
    · exact .inl rfl
    · exact .inl rfl

/-- The first connection of an identity is the same after an operation, but may have been closed. -/
theorem connection?_after (op : Operation) {c : Connection}
    (h : b.connection? connection = some c) :
    ∃ c', (b.after op).connection? connection = some c'
      ∧ (c' = c ∨ op = .close connection ∧ c' = { c with isOpen := false }) := by
  rw [connection?] at h
  rcases b.connections_after op with hsame | ⟨url, hmore⟩ | ⟨other, rfl, -, hclosed⟩
  · exact ⟨c, by rw [connection?, hsame, h], .inl rfl⟩
  · refine ⟨c, ?_, .inl rfl⟩
    rw [connection?, hmore, List.find?_append, h]
    rfl
  · have hid : c.id = connection := by simpa using List.find?_some h
    have hcomp : ((fun x : Connection => decide (x.id = connection)) ∘ fun x : Connection =>
        if x.id = other then { x with isOpen := false } else x) = fun x => decide (x.id = connection) := by
      funext x
      simp only [Function.comp]
      split <;> rfl
    rw [connection?, hclosed, List.find?_map, hcomp, h, Option.map_some]
    refine ⟨_, rfl, ?_⟩
    split
    next hother => exact .inr ⟨by rw [← hid, hother], rfl⟩
    next => exact .inl rfl

theorem knows_after (h : b.Knows connection) (op : Operation) : (b.after op).Knows connection := by
  obtain ⟨c, hc⟩ := Option.isSome_iff_exists.1 h
  obtain ⟨c', hc', -⟩ := connection?_after op hc
  rw [Knows, hc']
  rfl

/-- What is closed stays closed. -/
theorem closed_after (hknows : b.Knows connection) (hclosed : b.isOpen connection = false)
    (op : Operation) : (b.after op).isOpen connection = false := by
  obtain ⟨c, hc⟩ := Option.isSome_iff_exists.1 hknows
  obtain ⟨c', hc', hsame⟩ := connection?_after op hc
  rw [isOpen, hc] at hclosed
  rw [isOpen, hc']
  rcases hsame with rfl | ⟨-, rfl⟩
  · exact hclosed
  · rfl

/-- An open connection stays open unless it is closed. -/
theorem isOpen_after (hopen : b.isOpen connection = true) {op : Operation}
    (hop : op ≠ .close connection) : (b.after op).isOpen connection = true := by
  rw [isOpen] at hopen
  split at hopen
  next c hc =>
    obtain ⟨c', hc', hsame⟩ := connection?_after op hc
    rw [isOpen, hc']
    rcases hsame with rfl | ⟨hclose, -⟩
    · exact hopen
    · exact absurd hclose hop
  next => cases hopen

theorem isOpen_close (hknows : b.Knows connection) : (b.close connection).isOpen connection = false := by
  obtain ⟨c, hc⟩ := Option.isSome_iff_exists.1 hknows
  by_cases hopen : b.isOpen connection = true
  · have hid : c.id = connection := by simpa using List.find?_some hc
    have hcomp : ((fun x : Connection => decide (x.id = connection)) ∘ fun x : Connection =>
        if x.id = connection then { x with isOpen := false } else x)
          = fun x => decide (x.id = connection) := by
      funext x
      simp only [Function.comp]
      split <;> rfl
    rw [connection?] at hc
    rw [close, if_pos hopen, isOpen, connection?, List.find?_map, hcomp, hc]
    simp [hid]
  · rw [close, if_neg hopen]
    simpa using hopen

/-- Members have open connections. -/
def Connected (b : Broker) : Prop := ∀ m, b.Seats m → b.isOpen m.connection = true

theorem connected_after (h : b.Connected) (op : Operation) : (b.after op).Connected := by
  intro m hm
  by_cases hclose : op = .close m.connection
  · subst hclose
    rw [after, close] at hm
    split at hm
    next hopen =>
      obtain ⟨g', hg', hm⟩ := hm
      obtain ⟨g, -, rfl⟩ := List.mem_map.1 hg'
      have hother : m.connection ≠ m.connection := by simpa using (List.mem_filter.1 hm).2
      exact absurd rfl hother
    next hshut => exact absurd (h m hm) hshut
  · rcases seats_after hm with ⟨old, hold, hstems⟩ | ⟨hopen, -, -⟩
    · have hopen := h old hold
      rw [← hstems.connection] at hopen
      exact isOpen_after hopen hclose
    · exact isOpen_after hopen hclose

/-- A closed connection has no members. -/
theorem Connected.vacant (h : b.Connected) (hclosed : b.isOpen connection = false) :
    ∀ m, b.Seats m → m.connection ≠ connection := by
  rintro m hm rfl
  rw [h m hm] at hclosed
  cases hclosed

/-! Subscriptions. -/

/-- Is somebody a member for a subscription, and can the messages that are handed to it be read? -/
def Holds (b : Broker) (id : Nat) : Prop := ∃ m, b.Seats m ∧ m.id = id ∧ m.held = true

/-- A subscription that nobody holds is never held again. -/
theorem not_holds_after (h : ¬b.Holds id) (hid : id ≤ b.issued) (op : Operation) :
    ¬(b.after op).Holds id := by
  rintro ⟨m, hm, hmid, hheld⟩
  rcases seats_after hm with ⟨old, hold, hstems⟩ | ⟨-, hnew, -⟩
  · exact h ⟨old, hold, hstems.id ▸ hmid, hstems.held hheld⟩
  · omega

theorem issued_after (b : Broker) (op : Operation) : b.issued ≤ (b.after op).issued := by
  have heffect := b.after_effect op
  generalize b.after op = b' at heffect
  cases heffect with
  | quiet _ _ _ hissued _ _ => exact hissued
  | members _ _ _ _ hissued _ _ => exact Nat.le_of_eq hissued.symm
  | published _ _ => exact Nat.le_refl _
  | attached _ _ => exact Nat.le_succ _
  | delivered _ => exact Nat.le_refl _

/-- The members for a subscription are in the group it is for. -/
theorem Sound.seat (hb : b.Sound) {g : Group} (hg : g ∈ b.groups) (hm : m ∈ g.members) :
    ∃ s, b.subscription? m.id = some s ∧ s.group = g.name := by
  obtain ⟨s, hs, hid, hgroup⟩ := (hb.groups g hg).members m hm
  refine ⟨s, ?_, hgroup⟩
  rw [subscription?]
  obtain ⟨s', hs'⟩ := Option.isSome_iff_exists.1
    (List.find?_isSome.2 ⟨s, hs, by simpa using hid⟩ : (b.subscriptions.find? (·.id = m.id)).isSome)
  have hid' : s'.id = m.id := by simpa using List.find?_some hs'
  rw [hs', eq_of_nodup_map hb.ids (List.mem_of_find?_eq_some hs') hs (hid'.trans hid.symm)]

/-- A change to the group of a subscription that leaves no member of a kind for it. -/
theorem Sound.not_seats_changeGroup (hb : b.Sound) {f : Group → Group} {P : Member → Prop}
    (hf : ∀ g m, m ∈ (f g).members → m.id = id → ¬P m) (hm : (b.changeGroup id f).Seats m)
    (hid : m.id = id) : ¬P m := by
  subst hid
  obtain ⟨g', hg', hm⟩ := hm
  rw [changeGroup] at hg'
  split at hg'
  next s hs =>
    obtain ⟨g, hg, rfl⟩ := List.mem_map.1 hg'
    split at hm
    next => exact hf g m hm rfl
    next hname =>
      obtain ⟨s', hs', hgroup⟩ := hb.seat hg hm
      rw [hs] at hs'
      exact absurd (by rw [Option.some.inj hs', hgroup]) hname
  next hnone =>
    obtain ⟨s', hs', -⟩ := hb.seat hg' hm
    rw [hnone] at hs'
    cases hs'

theorem Sound.not_holds_drop (hb : b.Sound) (id : Nat) : ¬(b.drop id).Holds id := by
  rintro ⟨m, hm, hid, hheld⟩
  refine hb.not_seats_changeGroup (P := fun m => m.held = true) (fun g m hm hid => ?_) hm hid hheld
  obtain ⟨old, -, rfl⟩ := List.mem_map.1 hm
  split
  · exact Bool.false_ne_true
  next hne =>
    rw [if_neg hne] at hid
    exact absurd hid hne

/-! Members for a subscription, held or not. -/

/-- Is somebody a member for a subscription? -/
def Enrolls (b : Broker) (id : Nat) : Prop := ∃ m, b.Seats m ∧ m.id = id

/-- A subscription without members never gets one again. -/
theorem not_enrolls_after (h : ¬b.Enrolls id) (hid : id ≤ b.issued) (op : Operation) :
    ¬(b.after op).Enrolls id := by
  rintro ⟨m, hm, hmid⟩
  rcases seats_after hm with ⟨old, hold, hstems⟩ | ⟨-, hnew, -⟩
  · exact h ⟨old, hold, hstems.id ▸ hmid⟩
  · omega

/-- Whoever leaves a group is no member of it. -/
theorem Sound.not_enrolls_unsubscribe (hb : b.Sound) (id : Nat) : ¬(b.unsubscribe id).Enrolls id := by
  rintro ⟨m, hm, hid⟩
  refine hb.not_seats_changeGroup (P := fun _ => True) (fun g m hm hid _ => ?_) hm hid trivial
  exact absurd hid (by simpa using (List.mem_filter.1 hm).2)

/-- A subscription that has no more messages has no member. -/
theorem Sound.not_enrolls_of_closed (hb : b.Sound) (h : b.incoming id = .closed) : ¬b.Enrolls id := by
  rintro ⟨m, ⟨g, hg, hm⟩, rfl⟩
  obtain ⟨s, hs, hgroup⟩ := hb.seat hg hm
  have hfind : b.group? s.group = some g := by
    rw [hgroup]
    exact group?_of_mem hb hg
  have hid : s.id = m.id := by simpa using List.find?_some hs
  have hmember : b.isMember s = true := by
    rw [isMember, hfind]
    exact List.any_eq_true.2 ⟨m, hm, by simp [hid]⟩
  rw [incoming, hs] at h
  simp only [hmember, if_true] at h
  split at h <;> cases h

theorem Holds.enrolls (h : b.Holds id) : b.Enrolls id := by
  obtain ⟨m, hm, hid, -⟩ := h
  exact ⟨m, hm, hid⟩

theorem Sound.not_holds_unsubscribe (hb : b.Sound) (id : Nat) : ¬(b.unsubscribe id).Holds id :=
  fun hholds => hb.not_enrolls_unsubscribe id hholds.enrolls

theorem Sound.not_holds_of_closed (hb : b.Sound) (h : b.incoming id = .closed) : ¬b.Holds id :=
  fun hholds => hb.not_enrolls_of_closed h hholds.enrolls

end Broker
end Waystation
