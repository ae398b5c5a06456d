import Waystation.Broker.Group
import Waystation.Proofs.Lists
/-!
What groups owe. Everything a group was ever offered has either been handed to a member or waits in
the backlog, in the order of the offers, and it waits only while there is no member to hand it to.
-/
namespace Waystation

namespace History

theorem nextDelivery_recordPublish (h : History) (m : Message) :
    (h.recordPublish m).nextDelivery = h.nextDelivery := by
  rw [recordPublish, nextDelivery_trim]
  rfl

theorem nextDelivery_setLimit (h : History) (limit : Nat) :
    (h.setLimit limit).nextDelivery = h.nextDelivery := by
  rw [setLimit, nextDelivery_trim]
  rfl

theorem nextDelivery_acknowledge {h h' : History} {delivery : Nat}
    (hack : h.acknowledge? delivery = some h') : h'.nextDelivery = h.nextDelivery := by
  rw [acknowledge?] at hack
  split at hack
  · rw [Option.some.inj hack]
  · split at hack
    · rw [← Option.some.inj hack]
      simp [nextDelivery]
    · cases hack

end History

namespace Group

/-- All that a group was offered: what it handed out and then what waits. -/
def due (g : Group) : List Message := g.handed.map (·.message) ++ g.backlog

/-- Messages wait only for want of members. -/
def WaitsAlone (g : Group) : Prop := g.backlog ≠ [] → g.members = []

/-- What a group was offered since. Its name, its filter and what it has handed out stay. -/
structure Offered (g : Group) (ms : List Message) (g' : Group) : Prop where
  name : g'.name = g.name
  filter : g'.filter = g.filter
  handed : g.handed <+: g'.handed
  due : g'.due = g.due ++ ms

namespace Offered

variable {g g' g'' : Group} {ms ms' : List Message}

theorem refl (g : Group) : g.Offered [] g := ⟨rfl, rfl, List.prefix_rfl, by simp⟩

theorem trans (h : g.Offered ms g') (h' : g'.Offered ms' g'') : g.Offered (ms ++ ms') g'' where
  name := h'.name.trans h.name
  filter := h'.filter.trans h.filter
  handed := h.handed.trans h'.handed
  due := by rw [h'.due, h.due, List.append_assoc]

end Offered

/-- An offer is taken by the member whose turn it is among those that somebody holds, or it waits as
there is none. -/
theorem offer_in_turn (g : Group) (h : History) (m : Message) :
    (∃ member, g.swept.turn? = some member ∧
        g.offer h m = ({ g.swept with
          cursor := g.cursor + 1
          handed := g.handed ++ [{ member := member.id, delivery := h.nextDelivery, message := m }] },
          h.recordDelivery { subject := m.subject, group := g.name }))
      ∨ g.swept.members = [] ∧ g.offer h m = ({ g.swept with backlog := g.backlog ++ [m] }, h) := by
  rw [offer]
  cases hturn : g.swept.turn? with
  | some member => exact .inl ⟨member, rfl, rfl⟩
  | none =>
    have hempty : g.swept.members = [] := by
      by_cases hmembers : g.swept.members = []
      · exact hmembers
      · have hsome := turn?_isSome g.swept hmembers
        rw [hturn] at hsome
        cases hsome
    exact .inr ⟨hempty, rfl⟩

/-- An offer is taken by one of the members, or it waits as nobody holds any. -/
theorem offer_cases (g : Group) (h : History) (m : Message) :
    (∃ member ∈ g.members,
        g.offer h m = ({ g.swept with
          cursor := g.cursor + 1
          handed := g.handed ++ [{ member := member.id, delivery := h.nextDelivery, message := m }] },
          h.recordDelivery { subject := m.subject, group := g.name }))
      ∨ g.swept.members = [] ∧ g.offer h m = ({ g.swept with backlog := g.backlog ++ [m] }, h) := by
  rcases g.offer_in_turn h m with ⟨member, hturn, hoffer⟩ | hwaits
  · have hmem : member ∈ g.members := (List.mem_filter.1 (turn?_mem hturn)).1
    exact .inl ⟨member, hmem, hoffer⟩
  · exact .inr hwaits

theorem name_offer (g : Group) (h : History) (m : Message) : (g.offer h m).1.name = g.name := by
  rcases g.offer_cases h m with ⟨_, _, hoffer⟩ | ⟨_, hoffer⟩ <;> rw [hoffer] <;> rfl

/-- What a group has handed out stays in front of what an offer adds. -/
theorem handed_prefix_offer (g : Group) (h : History) (m : Message) :
    g.handed <+: (g.offer h m).1.handed := by
  rcases g.offer_cases h m with ⟨_, _, hoffer⟩ | ⟨_, hoffer⟩
  · rw [hoffer]
    exact List.prefix_append _ _
  · rw [hoffer]
    exact List.prefix_rfl

theorem name_offerAll (g : Group) (h : History) (ms : List Message) :
    (g.offerAll h ms).1.name = g.name := by
  induction ms generalizing g h with
  | nil => rfl
  | cons m ms ih => exact (ih _ _).trans (g.name_offer h m)

theorem handed_prefix_offerAll (g : Group) (h : History) (ms : List Message) :
    g.handed <+: (g.offerAll h ms).1.handed := by
  induction ms generalizing g h with
  | nil => exact List.prefix_rfl
  | cons m ms ih => exact (g.handed_prefix_offer h m).trans (ih _ _)

/-- A message that is dispatched is offered to the first group, if that takes it, and goes on to the
others. -/
theorem dispatch_cons (m : Message) (g : Group) (gs : List Group) (h : History) :
    ∃ g' h', dispatch m (g :: gs) h = (g' :: (dispatch m gs h').1, (dispatch m gs h').2)
      ∧ (Subject.accepts g.filter m.subject = true ∧ g' = (g.offer h m).1 ∧ h' = (g.offer h m).2
        ∨ Subject.accepts g.filter m.subject = false ∧ g' = g ∧ h' = h) := by
  cases haccepts : Subject.accepts g.filter m.subject with
  | true => exact ⟨_, _, by simp [dispatch, haccepts], .inl ⟨rfl, rfl, rfl⟩⟩
  | false => exact ⟨_, _, by simp [dispatch, haccepts], .inr ⟨rfl, rfl, rfl⟩⟩

theorem offered_offer {g : Group} (hg : g.WaitsAlone) (h : History) (m : Message) :
    g.Offered [m] (g.offer h m).1 := by
  rcases g.offer_cases h m with ⟨member, hmem, hoffer⟩ | ⟨-, hoffer⟩
  · have hbacklog : g.backlog = [] := by
      by_cases hb : g.backlog = []
      · exact hb
      · rw [hg hb] at hmem
        cases hmem
    rw [hoffer]
    exact ⟨rfl, rfl, List.prefix_append _ _, by simp [due, swept, hbacklog]⟩
  · rw [hoffer]
    exact ⟨rfl, rfl, List.prefix_rfl, by simp [due, swept]⟩

theorem waitsAlone_offer {g : Group} (hg : g.WaitsAlone) (h : History) (m : Message) :
    (g.offer h m).1.WaitsAlone := by
  rcases g.offer_cases h m with ⟨member, hmem, hoffer⟩ | ⟨hempty, hoffer⟩
  · intro hb
    rw [hoffer] at hb
    rw [hg hb] at hmem
    cases hmem
  · rw [hoffer]
    exact fun _ => hempty

theorem offered_offerAll {g : Group} (hg : g.WaitsAlone) (h : History) (ms : List Message) :
    g.Offered ms (g.offerAll h ms).1 ∧ (g.offerAll h ms).1.WaitsAlone := by
  induction ms generalizing g h with
  | nil => exact ⟨.refl g, hg⟩
  | cons m ms ih =>
    have hrest := ih (waitsAlone_offer hg h m) (g.offer h m).2
    exact ⟨(offered_offer hg h m).trans hrest.1, hrest.2⟩

/-- A new member gets what waits and nothing else. -/
theorem offered_attach (g : Group) (h : History) (member : Member) :
    g.Offered [] (g.attach h member).1 ∧ (g.attach h member).1.WaitsAlone := by
  let emptied : Group := { g with members := g.members ++ [member], backlog := [] }
  have hall := offered_offerAll (g := emptied) (fun hb => absurd rfl hb) h g.backlog
  refine ⟨⟨hall.1.name, hall.1.filter, hall.1.handed, ?_⟩, hall.2⟩
  rw [attach, hall.1.due]
  simp [due, emptied]

theorem offered_dismiss (g : Group) (p : Member → Bool) : g.Offered [] (g.dismiss p) :=
  ⟨rfl, rfl, List.prefix_rfl, by simp [due, dismiss]⟩

theorem offered_abandon (g : Group) (id : Nat) : g.Offered [] (g.abandon id) :=
  ⟨rfl, rfl, List.prefix_rfl, by simp [due, abandon]⟩

/-! The messages a group takes. -/

/-- The messages whose subject a filter accepts. -/
def accepted (filter : String) (ms : List Message) : List Message :=
  ms.filter fun m => Subject.accepts filter m.subject

theorem accepted_append (filter : String) (ms ms' : List Message) :
    accepted filter (ms ++ ms') = accepted filter ms ++ accepted filter ms' :=
  List.filter_append ms ms'

/-- A message comes to the group of a name by an offer, if that takes it. -/
theorem find?_dispatch {gs : List Group} {name : String} {g : Group}
    (hfind : gs.find? (·.name = name) = some g) (h : History) (m : Message) :
    ∃ g', (dispatch m gs h).1.find? (·.name = name) = some g'
      ∧ (Subject.accepts g.filter m.subject = true ∧ (∃ h', g' = (g.offer h' m).1)
        ∨ Subject.accepts g.filter m.subject = false ∧ g' = g) := by
  induction gs generalizing h with
  | nil => cases hfind
  | cons first gs ih =>
    obtain ⟨next, h', hdispatch, hcases⟩ := dispatch_cons m first gs h
    have hsame : next.name = first.name := by
      rcases hcases with ⟨-, rfl, -⟩ | ⟨-, rfl, -⟩
      · exact first.name_offer h m
      · rfl
    rw [hdispatch]
    by_cases hname : first.name = name
    · rw [List.find?_cons_of_pos (by simpa using hname)] at hfind
      obtain rfl := Option.some.inj hfind
      refine ⟨next, List.find?_cons_of_pos (by simpa [hsame] using hname), ?_⟩
      exact hcases.imp (fun ⟨htakes, hnext, _⟩ => ⟨htakes, h, hnext⟩) fun ⟨hpasses, hnext, _⟩ =>
        ⟨hpasses, hnext⟩
    · rw [List.find?_cons_of_neg (by simpa using hname)] at hfind
      rw [List.find?_cons_of_neg (by simpa [hsame] using hname)]
      exact ih hfind h'

/-- A dispatched message is offered to the group of a name if that takes it. -/
theorem offered_dispatch {gs : List Group} (hgs : ∀ g ∈ gs, g.WaitsAlone) {name : String}
    {g : Group} (hfind : gs.find? (·.name = name) = some g) (h : History) (m : Message) :
    ∃ g', (dispatch m gs h).1.find? (·.name = name) = some g'
      ∧ g.Offered (accepted g.filter [m]) g' := by
  obtain ⟨g', hg', hcases⟩ := find?_dispatch hfind h m
  refine ⟨g', hg', ?_⟩
  rcases hcases with ⟨htakes, h', rfl⟩ | ⟨hpasses, rfl⟩
  · have hmore : accepted g.filter [m] = [m] := by simp [accepted, htakes]
    rw [hmore]
    exact offered_offer (hgs g (List.mem_of_find?_eq_some hfind)) h' m
  · have hnothing : accepted g'.filter [m] = [] := by simp [accepted, hpasses]
    rw [hnothing]
    exact .refl g'

theorem map_name_dispatch (m : Message) (gs : List Group) (h : History) :
    (dispatch m gs h).1.map (·.name) = gs.map (·.name) := by
  induction gs generalizing h with
  | nil => rfl
  | cons g gs ih =>
    obtain ⟨g', h', hdispatch, hcases⟩ := dispatch_cons m g gs h
    have hname : g'.name = g.name := by
      rcases hcases with ⟨-, rfl, -⟩ | ⟨-, rfl, -⟩
      · exact g.name_offer h m
      · rfl
    rw [hdispatch, List.map_cons, List.map_cons, hname, ih]

/-! Who was handed what. -/

/-- A group hands messages only to those that `serves` allows, under ever larger numbers below the
next one. -/
structure Sound (g : Group) (serves : Nat → Prop) (next : Nat) : Prop where
  waits : g.WaitsAlone
  members : ∀ member ∈ g.members, serves member.id
  handed : ∀ x ∈ g.handed, serves x.member ∧ x.delivery < next
  numbers : g.handed.Pairwise fun x y => x.delivery < y.delivery

namespace Sound

variable {g : Group} {serves serves' : Nat → Prop} {next next' : Nat} {h : History}

theorem mono (hg : g.Sound serves next) (hserves : ∀ id, serves id → serves' id)
    (hnext : next ≤ next') : g.Sound serves' next' where
  waits := hg.waits
  members member hm := hserves _ (hg.members member hm)
  handed x hx := ⟨hserves _ (hg.handed x hx).1, Nat.lt_of_lt_of_le (hg.handed x hx).2 hnext⟩
  numbers := hg.numbers

theorem dismiss (hg : g.Sound serves next) (p : Member → Bool) : (g.dismiss p).Sound serves next where
  waits hb := by
    rw [Group.dismiss, hg.waits hb]
    rfl
  members member hm := hg.members member (List.mem_filter.1 hm).1
  handed := hg.handed
  numbers := hg.numbers

theorem abandon (hg : g.Sound serves next) (id : Nat) : (g.abandon id).Sound serves next where
  waits hb := by
    rw [Group.abandon, hg.waits hb]
    rfl
  members member hm := by
    obtain ⟨old, hold, rfl⟩ := List.mem_map.1 hm
    have hserves := hg.members old hold
    split
    · exact hserves
    · exact hserves
  handed := hg.handed
  numbers := hg.numbers

theorem offer (hg : g.Sound serves h.nextDelivery) (m : Message) :
    (g.offer h m).1.Sound serves (g.offer h m).2.nextDelivery := by
  have hwaits := waitsAlone_offer hg.waits h m
  have hswept : ∀ member ∈ g.swept.members, serves member.id :=
    fun member hm => hg.members member (List.mem_filter.1 hm).1
  rcases g.offer_cases h m with ⟨member, hmem, hoffer⟩ | ⟨-, hoffer⟩
  · rw [hoffer] at hwaits ⊢
    have hnext := h.nextDelivery_recordDelivery { subject := m.subject, group := g.name }
    refine ⟨hwaits, hswept, ?_, ?_⟩
    · intro x hx
      rcases mem_snoc.1 hx with hold | rfl
      · have hx := hg.handed x hold
        exact ⟨hx.1, by simp only [hnext]; omega⟩
      · exact ⟨hg.members member hmem, by simp only [hnext]; omega⟩
    · refine List.pairwise_append.2 ⟨hg.numbers, List.pairwise_singleton _ _, ?_⟩
      intro x hx y hy
      obtain rfl := List.mem_singleton.1 hy
      exact (hg.handed x hx).2
  · rw [hoffer] at hwaits ⊢
    exact ⟨hwaits, hswept, hg.handed, hg.numbers⟩

theorem offerAll (hg : g.Sound serves h.nextDelivery) (ms : List Message) :
    (g.offerAll h ms).1.Sound serves (g.offerAll h ms).2.nextDelivery := by
  induction ms generalizing g h with
  | nil => exact hg
  | cons m ms ih => exact ih (hg.offer m)

theorem attach (hg : g.Sound serves h.nextDelivery) {member : Member} (hm : serves member.id) :
    (g.attach h member).1.Sound serves (g.attach h member).2.nextDelivery := by
  have hwaits : WaitsAlone { g with members := g.members ++ [member], backlog := [] } :=
    fun hb => absurd rfl hb
  refine offerAll ⟨hwaits, ?_, hg.handed, hg.numbers⟩ g.backlog
  intro other hother
  rcases mem_snoc.1 hother with hold | rfl
  · exact hg.members other hold
  · exact hm

end Sound

theorem le_nextDelivery_offer (g : Group) (h : History) (m : Message) :
    h.nextDelivery ≤ (g.offer h m).2.nextDelivery := by
  rcases g.offer_cases h m with ⟨_, _, hoffer⟩ | ⟨_, hoffer⟩
  · rw [hoffer, h.nextDelivery_recordDelivery]
    omega
  · simp [hoffer]

theorem le_nextDelivery_offerAll (g : Group) (h : History) (ms : List Message) :
    h.nextDelivery ≤ (g.offerAll h ms).2.nextDelivery := by
  induction ms generalizing g h with
  | nil => exact Nat.le_refl _
  | cons m ms ih => exact Nat.le_trans (g.le_nextDelivery_offer h m) (ih _ _)

theorem sound_dispatch {serves : String → Nat → Prop} {gs : List Group} {h : History}
    (hgs : ∀ g ∈ gs, g.Sound (serves g.name) h.nextDelivery) (m : Message) :
    h.nextDelivery ≤ (dispatch m gs h).2.nextDelivery
      ∧ ∀ g ∈ (dispatch m gs h).1, g.Sound (serves g.name) (dispatch m gs h).2.nextDelivery := by
  induction gs generalizing h with
  | nil => exact ⟨Nat.le_refl _, by simp [dispatch]⟩
  | cons g gs ih =>
    obtain ⟨g', h', hdispatch, hcases⟩ := dispatch_cons m g gs h
    obtain ⟨hg, hothers⟩ := List.forall_mem_cons.1 hgs
    have hfirst : h.nextDelivery ≤ h'.nextDelivery ∧ g'.Sound (serves g'.name) h'.nextDelivery := by
      rcases hcases with ⟨-, rfl, rfl⟩ | ⟨-, rfl, rfl⟩
      · rw [g.name_offer h m]
        exact ⟨g.le_nextDelivery_offer h m, hg.offer m⟩
      · exact ⟨Nat.le_refl _, hg⟩
    have hrest := ih (h := h') fun other hother =>
      (hothers other hother).mono (fun _ => id) hfirst.1
    rw [hdispatch]
    refine ⟨Nat.le_trans hfirst.1 hrest.1, List.forall_mem_cons.2 ⟨?_, hrest.2⟩⟩
    exact hfirst.2.mono (fun _ => id) hrest.1

end Group
end Waystation
