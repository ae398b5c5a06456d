import Waystation.Proofs.Broker.Run
import Waystation.Proofs.Lists
/-!
What holds of a broker at all times: groups have names of their own, subscriptions have identities of
their own, and what a group hands out goes to subscriptions of that group.
-/
namespace Waystation.Broker

/-- Is there a subscription of an identity to a group? -/
def serves (b : Broker) (name : String) (id : Nat) : Prop :=
  ∃ s ∈ b.subscriptions, s.id = id ∧ s.group = name

/-- The invariant of brokers. -/
structure Sound (b : Broker) : Prop where
  names : (b.groups.map (·.name)).Nodup
  ids : (b.subscriptions.map (·.id)).Nodup
  issued : ∀ s ∈ b.subscriptions, s.id ≤ b.issued
  joined : ∀ s ∈ b.subscriptions, s.group ∈ b.groups.map (·.name)
  groups : ∀ g ∈ b.groups, g.Sound (b.serves g.name) b.history.nextDelivery

theorem sound_empty : Sound {} where
  names := List.nodup_nil
  ids := List.nodup_nil
  issued s hs := by cases hs
  joined s hs := by cases hs
  groups g hg := by cases hg

theorem LetsGo.offered {g g' : Group} (h : LetsGo g g') : g.Offered [] g' := by
  rcases h with rfl | ⟨p, rfl⟩ | ⟨id, rfl⟩
  · exact .refl _
  · exact g.offered_dismiss p
  · exact g.offered_abandon id

theorem LetsGo.sound {g g' : Group} (h : LetsGo g g') {serves : Nat → Prop} {next : Nat}
    (hg : g.Sound serves next) : g'.Sound serves next := by
  rcases h with rfl | ⟨p, rfl⟩ | ⟨id, rfl⟩
  · exact hg
  · exact hg.dismiss p
  · exact hg.abandon id

theorem group?_name {b : Broker} {name : String} {g : Group} (h : b.group? name = some g) :
    g.name = name := by
  simpa using List.find?_some h

theorem group?_mem {b : Broker} {name : String} {g : Group} (h : b.group? name = some g) :
    g ∈ b.groups :=
  List.mem_of_find?_eq_some h

theorem group?_eq_none_iff {b : Broker} {name : String} :
    b.group? name = none ↔ name ∉ b.groups.map (·.name) := by
  simp [group?, List.find?_eq_none]

theorem find?_map_name {f : Group → Group} (hf : ∀ g, (f g).name = g.name) (gs : List Group)
    (name : String) :
    (gs.map f).find? (·.name = name) = (gs.find? (·.name = name)).map f := by
  rw [List.find?_map]
  simp only [Function.comp_def, hf]

theorem map_name_of_letsGo {f : Group → Group} (hf : ∀ g, LetsGo g (f g)) (gs : List Group) :
    (gs.map f).map (·.name) = gs.map (·.name) := by
  rw [List.map_map]
  exact List.map_congr_left fun g _ => (hf g).offered.name

theorem map_name_inject (b : Broker) (m : Message) :
    (b.inject m).groups.map (·.name) = b.groups.map (·.name) :=
  Group.map_name_dispatch m b.groups (b.history.recordPublish m)

/-! Attaching a subscription. -/

variable {b : Broker} {connection : Nat} {o : ConsumerOptions}

theorem joined_name (b : Broker) (o : ConsumerOptions) : (b.joined o).name = o.group := by
  rw [joined]
  cases hgroup : b.group? o.group with
  | some g => exact group?_name hgroup
  | none => rfl

/-- The group and the history after a new subscription has joined. -/
def enlisted (b : Broker) (connection : Nat) (o : ConsumerOptions) : Group × History :=
  (b.joined o).attach b.history { id := b.issued + 1, connection }

theorem enlisted_name (b : Broker) (connection : Nat) (o : ConsumerOptions) :
    (b.enlisted connection o).1.name = o.group :=
  ((b.joined o).offered_attach _ _).1.name.trans (b.joined_name o)

/-- The broker that a new subscription leaves behind. -/
def attached (b : Broker) (connection : Nat) (o : ConsumerOptions) : Broker :=
  { b with issued := b.issued + 1 }.attach connection (b.issued + 1) o (b.joined o)

theorem attached_groups (b : Broker) (connection : Nat) (o : ConsumerOptions) :
    (b.attached connection o).groups
      = if (b.group? o.group).isSome then
          b.groups.map fun g => if g.name = o.group then (b.enlisted connection o).1 else g
        else b.groups ++ [(b.enlisted connection o).1] := by
  have h : (b.attached connection o).groups
      = if (b.group? o.group).isSome then
          b.groups.map fun g =>
            if g.name = (b.enlisted connection o).1.name then (b.enlisted connection o).1 else g
        else b.groups ++ [(b.enlisted connection o).1] := rfl
  rw [h, enlisted_name]

theorem attached_subscriptions (b : Broker) (connection : Nat) (o : ConsumerOptions) :
    (b.attached connection o).subscriptions
      = b.subscriptions ++ [{ id := b.issued + 1, subject := o.subject, group := o.group }] :=
  rfl

theorem map_name_attached (b : Broker) (connection : Nat) (o : ConsumerOptions) :
    (b.attached connection o).groups.map (·.name)
      = if (b.group? o.group).isSome then b.groups.map (·.name)
        else b.groups.map (·.name) ++ [o.group] := by
  rw [attached_groups]
  split
  · rw [List.map_map]
    refine List.map_congr_left fun g _ => ?_
    simp only [Function.comp]
    split
    next h => rw [enlisted_name, h]
    next => rfl
  · rw [List.map_append, List.map_singleton, enlisted_name]

theorem mem_attached_groups {g : Group} (h : g ∈ (b.attached connection o).groups) :
    g = (b.enlisted connection o).1 ∨ g ∈ b.groups := by
  rw [attached_groups] at h
  split at h
  · obtain ⟨old, hold, rfl⟩ := List.mem_map.1 h
    split
    · exact .inl rfl
    · exact .inr hold
  · rcases mem_snoc.1 h with hold | hnew
    · exact .inr hold
    · exact .inl hnew

theorem group?_attached (b : Broker) (connection : Nat) (o : ConsumerOptions) (name : String) :
    (b.attached connection o).group? name
      = if name = o.group then some (b.enlisted connection o).1 else b.group? name := by
  have hnew := enlisted_name b connection o
  rw [group?, attached_groups]
  cases hgroup : b.group? o.group with
  | some g =>
    let f : Group → Group := fun g =>
      if g.name = o.group then (b.enlisted connection o).1 else g
    have hf : ∀ g, (f g).name = g.name := by
      intro g
      by_cases hg : g.name = o.group
      · simp only [f, if_pos hg, hnew, hg]
      · simp only [f, if_neg hg]
    have hfind := find?_map_name hf b.groups name
    rw [if_pos (by simp)]
    by_cases hname : name = o.group
    · subst hname
      rw [if_pos rfl, hfind, ← group?, hgroup, Option.map_some]
      simp only [f, if_pos (group?_name hgroup)]
    · rw [if_neg hname, hfind, ← group?]
      cases hother : b.group? name with
      | some g =>
        have hg : ¬g.name = o.group := group?_name hother ▸ hname
        simp only [Option.map_some, f, if_neg hg]
      | none => rfl
  | none =>
    rw [if_neg (by simp), List.find?_append, ← group?]
    by_cases hname : name = o.group
    · subst hname
      simp [hgroup, hnew]
    · simp [hnew, hname, Ne.symm hname]

theorem joined_sound (hb : b.Sound) (o : ConsumerOptions) :
    (b.joined o).Sound (b.serves o.group) b.history.nextDelivery := by
  rw [joined]
  cases hgroup : b.group? o.group with
  | some g =>
    have hg := hb.groups g (group?_mem hgroup)
    rwa [group?_name hgroup] at hg
  | none =>
    refine ⟨fun _ => rfl, fun member hm => ?_, fun x hx => ?_, List.Pairwise.nil⟩
    · cases hm
    · cases hx

theorem sound_attached (hb : b.Sound) : (b.attached connection o).Sound := by
  have hserves : ∀ name id, b.serves name id → (b.attached connection o).serves name id := by
    rintro name id ⟨s, hs, hid⟩
    exact ⟨s, List.mem_append_left _ hs, hid⟩
  have hnew : (b.attached connection o).serves o.group (b.issued + 1) :=
    ⟨_, List.mem_append_right _ (List.mem_singleton.2 rfl), rfl, rfl⟩
  have hnames : ∀ name, name ∈ b.groups.map (·.name) ∨ name = o.group
      → name ∈ (b.attached connection o).groups.map (·.name) := by
    intro name hname
    rw [map_name_attached]
    split
    next hsome =>
      rcases hname with hold | rfl
      · exact hold
      · have hmem := mt group?_eq_none_iff.2 (Option.isSome_iff_ne_none.1 hsome)
        exact Classical.not_not.1 hmem
    next =>
      rcases hname with hold | rfl
      · exact List.mem_append_left _ hold
      · exact List.mem_append_right _ (List.mem_singleton.2 rfl)
  refine ⟨?_, ?_, ?_, ?_, ?_⟩
  · rw [map_name_attached]
    split
    · exact hb.names
    next hnone =>
      have hfresh : o.group ∉ b.groups.map (·.name) := by
        rw [← group?_eq_none_iff]
        simpa using hnone
      refine List.nodup_append.2 ⟨hb.names, by simp, ?_⟩
      rintro x hx y hy rfl
      exact hfresh (List.mem_singleton.1 hy ▸ hx)
  · rw [attached_subscriptions, List.map_append]
    refine List.nodup_append.2 ⟨hb.ids, by simp, ?_⟩
    rintro x hx y hy rfl
    obtain ⟨s, hs, rfl⟩ := List.mem_map.1 hx
    have hold := hb.issued s hs
    have hid : s.id = b.issued + 1 := List.mem_singleton.1 hy
    omega
  · intro s hs
    rcases mem_snoc.1 hs with hold | rfl
    · exact Nat.le_succ_of_le (hb.issued s hold)
    · exact Nat.le_refl _
  · intro s hs
    rcases mem_snoc.1 hs with hold | rfl
    · exact hnames _ (.inl (hb.joined s hold))
    · exact hnames _ (.inr rfl)
  · intro g hg
    rcases mem_attached_groups hg with rfl | hold
    · rw [enlisted_name]
      exact ((joined_sound hb o).mono (hserves o.group) (Nat.le_refl _)).attach hnew
    · exact (hb.groups g hold).mono (hserves g.name) (Group.le_nextDelivery_offerAll _ _ _)

/-- Every operation keeps the invariant. -/
theorem sound_after (hb : b.Sound) (op : Operation) : (b.after op).Sound := by
  have heffect := b.after_effect op
  generalize b.after op = b' at heffect
  cases heffect with
  | quiet hgroups hsubscriptions hnext hissued _ _ =>
    refine ⟨?_, ?_, ?_, ?_, ?_⟩
    · rw [hgroups]
      exact hb.names
    · rw [hsubscriptions]
      exact hb.ids
    · rw [hsubscriptions]
      exact fun s hs => Nat.le_trans (hb.issued s hs) hissued
    · rw [hsubscriptions, hgroups]
      exact hb.joined
    · rw [hgroups]
      intro g hg
      refine (hb.groups g hg).mono (fun id hid => ?_) (Nat.le_of_eq hnext.symm)
      rwa [serves, hsubscriptions]
  | members hf hgroups hsubscriptions hhistory hissued _ _ =>
    refine ⟨?_, ?_, ?_, ?_, ?_⟩
    · rw [hgroups, map_name_of_letsGo hf]
      exact hb.names
    · rw [hsubscriptions]
      exact hb.ids
    · rw [hsubscriptions, hissued]
      exact hb.issued
    · rw [hsubscriptions, hgroups, map_name_of_letsGo hf]
      exact hb.joined
    · rw [hgroups]
      intro g' hg'
      obtain ⟨g, hg, rfl⟩ := List.mem_map.1 hg'
      rw [(hf g).offered.name, hhistory]
      refine ((hf g).sound (hb.groups g hg)).mono (fun id hid => ?_) (Nat.le_refl _)
      rwa [serves, hsubscriptions]
  | @published op m _ _ =>
    have hgroups : ∀ g ∈ b.groups, g.Sound (b.serves g.name)
        (b.history.recordPublish m).nextDelivery := by
      rw [History.nextDelivery_recordPublish]
      exact hb.groups
    refine ⟨?_, hb.ids, hb.issued, ?_, (Group.sound_dispatch hgroups m).2⟩
    · rw [map_name_inject]
      exact hb.names
    · rw [map_name_inject]
      exact hb.joined
  | attached => exact sound_attached hb
  | @delivered id d _ =>
    refine ⟨hb.names, ?_, ?_, ?_, fun g hg => (hb.groups g hg).mono ?_ (Nat.le_refl _)⟩
    · simpa [List.map_map, Function.comp_def] using hb.ids
    · intro s' hs'
      obtain ⟨s, hs, rfl⟩ := List.mem_map.1 hs'
      rw [advance_id]
      exact hb.issued s hs
    · intro s' hs'
      obtain ⟨s, hs, rfl⟩ := List.mem_map.1 hs'
      rw [advance_group]
      exact hb.joined s hs
    · rintro member ⟨s, hs, hid, hgroup⟩
      exact ⟨advance id s, List.mem_map_of_mem hs, by simp [hid], by simp [hgroup]⟩

theorem sound_run {b : Broker} (hb : b.Sound) (ops : List Operation) : (b.run ops).Sound := by
  induction ops generalizing b with
  | nil => exact hb
  | cons op ops ih => exact ih (sound_after hb op)

end Waystation.Broker
