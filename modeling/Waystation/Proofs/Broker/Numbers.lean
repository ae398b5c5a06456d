import Waystation.Proofs.Broker.Departures
import Waystation.Proofs.Broker.Evolution
import Waystation.Proofs.Broker.Isolation
/-!
Numbers of deliveries. Whatever is done to a broker, no two messages that it hands out have one number,
be it by one group or by two; so a message that a reader has got is told from all others by its number.
-/
namespace Waystation

namespace Group

variable {g : Group} {h : History} {m : Message}

/-- An offer is handed out under the next number, if it is handed out. -/
theorem numbers_offer {x : Handed} (hx : x ∈ (g.offer h m).1.handed) :
    x ∈ g.handed ∨ h.nextDelivery ≤ x.delivery ∧ x.delivery < (g.offer h m).2.nextDelivery := by
  rcases g.offer_cases h m with ⟨member, -, hoffer⟩ | ⟨-, hoffer⟩
  · rw [hoffer] at hx ⊢
    rcases mem_snoc.1 hx with hold | rfl
    · exact .inl hold
    · rw [h.nextDelivery_recordDelivery]
      exact .inr ⟨Nat.le_refl _, Nat.lt_succ_self _⟩
  · rw [hoffer] at hx
    exact .inl hx

theorem numbers_offerAll {ms : List Message} {x : Handed} (hx : x ∈ (g.offerAll h ms).1.handed) :
    x ∈ g.handed ∨ h.nextDelivery ≤ x.delivery := by
  induction ms generalizing g h with
  | nil => exact .inl hx
  | cons m ms ih =>
    rcases ih hx with hfirst | hlater
    · exact (numbers_offer hfirst).imp_right And.left
    · exact .inr (Nat.le_trans (g.le_nextDelivery_offer h m) hlater)

/-- A dispatched message has a new number in every group. -/
theorem numbers_dispatch {gs : List Group} {g' : Group} (hg' : g' ∈ (dispatch m gs h).1) :
    ∃ g ∈ gs, g'.name = g.name ∧ ∀ x ∈ g'.handed, x ∈ g.handed ∨ h.nextDelivery ≤ x.delivery := by
  induction gs generalizing h with
  | nil => cases hg'
  | cons g gs ih =>
    obtain ⟨first, h', hdispatch, hcases⟩ := dispatch_cons m g gs h
    rw [hdispatch] at hg'
    rcases List.mem_cons.1 hg' with rfl | hrest
    · refine ⟨g, List.mem_cons_self, ?_⟩
      rcases hcases with ⟨-, rfl, -⟩ | ⟨-, rfl, -⟩
      · exact ⟨g.name_offer h m, fun x hx => (numbers_offer hx).imp_right And.left⟩
      · exact ⟨rfl, fun x hx => .inl hx⟩
    · obtain ⟨old, hold, hname, hnumbers⟩ := ih hrest
      refine ⟨old, List.mem_cons_of_mem _ hold, hname, fun x hx => (hnumbers x hx).imp_right ?_⟩
      rcases hcases with ⟨-, -, rfl⟩ | ⟨-, -, rfl⟩
      · exact Nat.le_trans (g.le_nextDelivery_offer h m)
      · exact fun hnew => hnew

/-- Are deliveries of one number deliveries of groups of one name? -/
def Numbered (gs : List Group) : Prop :=
  ∀ g ∈ gs, ∀ g' ∈ gs, ∀ x ∈ g.handed, ∀ y ∈ g'.handed, x.delivery = y.delivery → g.name = g'.name

theorem numbered_dispatch {gs : List Group} (hgs : Numbered gs)
    (hbelow : ∀ g ∈ gs, ∀ x ∈ g.handed, x.delivery < h.nextDelivery) :
    Numbered (dispatch m gs h).1 := by
  induction gs generalizing h with
  | nil => exact fun _ hg => nomatch hg
  | cons first gs ih =>
    obtain ⟨next, h', hdispatch, hcases⟩ := dispatch_cons m first gs h
    have hnext : next.name = first.name ∧ h.nextDelivery ≤ h'.nextDelivery
        ∧ ∀ x ∈ next.handed,
          x ∈ first.handed ∨ h.nextDelivery ≤ x.delivery ∧ x.delivery < h'.nextDelivery := by
      rcases hcases with ⟨-, rfl, rfl⟩ | ⟨-, rfl, rfl⟩
      · exact ⟨first.name_offer h m, first.le_nextDelivery_offer h m, fun x hx => numbers_offer hx⟩
      · exact ⟨rfl, Nat.le_refl _, fun x hx => .inl hx⟩
    obtain ⟨hname, hle, hhanded⟩ := hnext
    obtain ⟨hfirst, hothers⟩ := List.forall_mem_cons.1 hbelow
    have hrest : Numbered (dispatch m gs h').1 :=
      ih (fun g hg g' hg' => hgs g (List.mem_cons_of_mem _ hg) g' (List.mem_cons_of_mem _ hg'))
        fun g hg x hx => Nat.lt_of_lt_of_le (hothers g hg x hx) hle
    -- what the first group hands out is numbered below what the others hand out behind it
    have hacross : ∀ g' ∈ (dispatch m gs h').1, ∀ x ∈ next.handed, ∀ y ∈ g'.handed,
        x.delivery = y.delivery → next.name = g'.name := by
      intro g' hg' x hx y hy hsame
      obtain ⟨old, hold, hname', hnumbers⟩ := numbers_dispatch hg'
      rcases hnumbers y hy with hyold | hynew
      · rcases hhanded x hx with hxold | ⟨hxnew, -⟩
        · rw [hname, hname']
          exact hgs first List.mem_cons_self old (List.mem_cons_of_mem _ hold) x hxold y hyold hsame
        · have hlow := hothers old hold y hyold
          omega
      · rcases hhanded x hx with hxold | ⟨-, hxlow⟩
        · have hlow := hfirst x hxold
          omega
        · omega
    rw [hdispatch]
    intro g hg g' hg' x hx y hy hsame
    rcases List.mem_cons.1 hg with rfl | hold
    · rcases List.mem_cons.1 hg' with rfl | hold'
      · rfl
      · exact hacross g' hold' x hx y hy hsame
    · rcases List.mem_cons.1 hg' with rfl | hold'
      · exact (hacross g hold y hy x hx hsame.symm).symm
      · exact hrest g hold g' hold' x hx y hy hsame

end Group

namespace Broker

variable {b b' : Broker} {connection : Nat} {o : ConsumerOptions} {s s' : Subscription}

/-! Deliveries are told by their numbers. -/

/-- A group hands out to a new member under new numbers. -/
theorem numbers_enlisted {x : Handed} (hx : x ∈ (b.enlisted connection o).1.handed) :
    (∃ g ∈ b.groups, g.name = o.group ∧ x ∈ g.handed) ∨ b.history.nextDelivery ≤ x.delivery := by
  refine (Group.numbers_offerAll hx).imp_left fun hold => ?_
  have hold : x ∈ (b.joined o).handed := hold
  rw [joined] at hold
  cases hgroup : b.group? o.group with
  | some g =>
    rw [hgroup] at hold
    exact ⟨g, group?_mem hgroup, group?_name hgroup, hold⟩
  | none =>
    rw [hgroup] at hold
    cases hold

theorem numbered_attached (hb : b.Sound) (h : Group.Numbered b.groups) :
    Group.Numbered (b.attached connection o).groups := by
  have hbelow : ∀ g ∈ b.groups, ∀ x ∈ g.handed, x.delivery < b.history.nextDelivery :=
    fun g hg x hx => ((hb.groups g hg).handed x hx).2
  have hacross : ∀ g ∈ b.groups, ∀ x ∈ (b.enlisted connection o).1.handed, ∀ y ∈ g.handed,
      x.delivery = y.delivery → (b.enlisted connection o).1.name = g.name := by
    intro g hg x hx y hy hsame
    rw [enlisted_name]
    rcases numbers_enlisted hx with ⟨old, hold, hname, hxold⟩ | hnew
    · rw [← hname]
      exact h old hold g hg x hxold y hy hsame
    · have hlow := hbelow g hg y hy
      omega
  intro g hg g' hg' x hx y hy hsame
  rcases mem_attached_groups hg with rfl | hg
  · rcases mem_attached_groups hg' with rfl | hg'
    · rfl
    · exact hacross g' hg' x hx y hy hsame
  · rcases mem_attached_groups hg' with rfl | hg'
    · exact (hacross g hg y hy x hx hsame.symm).symm
    · exact h g hg g' hg' x hx y hy hsame

theorem LetsGo.handed {g g' : Group} (h : LetsGo g g') : g'.handed = g.handed := by
  rcases h with rfl | ⟨p, rfl⟩ | ⟨id, rfl⟩ <;> rfl

/-- Every operation keeps deliveries apart. -/
theorem numbered_after (hb : b.Sound) (h : Group.Numbered b.groups) (op : Operation) :
    Group.Numbered (b.after op).groups := by
  have heffect := b.after_effect op
  generalize b.after op = b' at heffect
  cases heffect with
  | quiet hgroups _ _ _ _ _ => exact hgroups ▸ h
  | @members _ _ f hf hgroups _ _ _ _ _ =>
    rw [hgroups]
    intro g' hg' g'' hg'' x hx y hy hsame
    obtain ⟨g, hg, rfl⟩ := List.mem_map.1 hg'
    obtain ⟨other, hother, rfl⟩ := List.mem_map.1 hg''
    rw [(hf g).handed] at hx
    rw [(hf other).handed] at hy
    rw [(hf g).offered.name, (hf other).offered.name]
    exact h g hg other hother x hx y hy hsame
  | @published _ m _ _ =>
    refine Group.numbered_dispatch h fun g hg x hx => ?_
    rw [History.nextDelivery_recordPublish]
    exact ((hb.groups g hg).handed x hx).2
  | attached _ _ => exact numbered_attached hb h
  | delivered _ => exact h

theorem mem_share (hx : x ∈ b.share s) :
    ∃ g ∈ b.groups, g.name = s.group ∧ x ∈ g.handed ∧ x.member = s.id := by
  rw [share] at hx
  split at hx
  next g hg =>
    obtain ⟨hmem, hid⟩ := List.mem_filter.1 hx
    exact ⟨g, group?_mem hg, group?_name hg, hmem, of_decide_eq_true hid⟩
  next => cases hx

/-- What readers have to read is told by its number. -/
theorem Sound.eq_of_number (hb : b.Sound) (h : Group.Numbered b.groups) {x y : Handed}
    (hx : x ∈ b.share s) (hy : y ∈ b.share s') (hnumber : x.delivery = y.delivery) :
    x = y ∧ s.id = s'.id := by
  obtain ⟨g, hg, hgroup, hx, hxid⟩ := mem_share hx
  obtain ⟨g', hg', hgroup', hy, hyid⟩ := mem_share hy
  obtain rfl := eq_of_nodup_map hb.names hg hg' (h g hg g' hg' x hx y hy hnumber)
  obtain rfl := eq_of_nodup_map (hb.groups g hg).nodup hx hy hnumber
  exact ⟨rfl, hxid.symm.trans hyid⟩

theorem share_numbers (hb : b.Sound) (s : Subscription) :
    (b.share s).Pairwise fun x y => x.delivery < y.delivery := by
  rw [share]
  split
  next g hg => exact (hb.groups g (group?_mem hg)).numbers.filter _
  next => exact .nil

/-! What stays so as a broker goes on. -/

variable {got : Nat → List Delivery}

theorem Evolves.numbered (h : b.Evolves b') (hb : b.Orderly) (hn : Group.Numbered b.groups) :
    Group.Numbered b'.groups := by
  induction h with
  | refl => exact hn
  | after h op ih => exact numbered_after (h.orderly hb).sound ih op
  | store _ buckets ih => exact ih

theorem Evolves.fitting (h : b.Evolves b') (hb : b.Orderly) (hf : b.Fitting) : b'.Fitting := by
  induction h with
  | refl => exact hf
  | after h op ih => exact fitting_after (h.orderly hb).sound ih op
  | store _ buckets ih => exact ih

/-- Subscriptions are kept. -/
theorem Evolves.subscribed (h : b.Evolves b') (hs : s ∈ b.subscriptions) :
    ∃ s' ∈ b'.subscriptions, s'.id = s.id ∧ s'.subject = s.subject ∧ s'.group = s.group := by
  induction h with
  | refl => exact ⟨s, hs, rfl, rfl, rfl⟩
  | after _ op ih =>
    obtain ⟨s', hs', hid, hsubject, hgroup⟩ := ih
    obtain ⟨s'', hs'', hid', hsubject', hgroup'⟩ := mem_subscriptions_after hs' op
    exact ⟨s'', hs'', hid'.trans hid, hsubject'.trans hsubject, hgroup'.trans hgroup⟩
  | store _ buckets ih => exact ih

/-- Whoever reads meanwhile, every reader goes on where it is. -/
theorem Evolves.inOrder (h : b.Evolves b') (hb : b.Orderly) (hin : InOrder b got) :
    ∃ got', InOrder b' got' ∧ ∀ id, got id <+: got' id := by
  induction h with
  | refl => exact ⟨got, hin, fun id => List.prefix_rfl⟩
  | @after b' h op ih =>
    obtain ⟨got', hin', hmore⟩ := ih
    exact ⟨_, inOrder_after (h.orderly hb).sound hin' op,
      fun id => (hmore id).trans (List.prefix_append _ _)⟩
  | store _ buckets ih =>
    obtain ⟨got', hin', hmore⟩ := ih
    exact ⟨got', ⟨hin'.taken_le, hin'.got_eq, hin'.fresh⟩, hmore⟩

/-- A broker that is declared with streams and buckets and then used has told its readers apart. -/
theorem run_apart (streams : List (String × Option Nat)) (buckets : List (String × Bucket))
    (ops : List Operation) : Group.Numbered (run { streams, buckets } ops).groups
      ∧ (run { streams, buckets } ops).Fitting ∧ ∃ got, InOrder (run { streams, buckets } ops) got := by
  have hevolves := Evolves.run { streams, buckets } ops
  have hnew : Orderly { streams, buckets } := orderly_run streams buckets []
  have hnumbered : Group.Numbered ({ streams, buckets } : Broker).groups := fun g hg => nomatch hg
  have hfitting : Fitting { streams, buckets } := fun s hs => nomatch hs
  have hnothing : InOrder { streams, buckets } fun _ => [] :=
    ⟨fun s hs => (nomatch hs), fun s hs => (nomatch hs), fun _ _ => rfl⟩
  refine ⟨hevolves.numbered hnew hnumbered, hevolves.fitting hnew hfitting, ?_⟩
  obtain ⟨got, hgot, -⟩ := hevolves.inOrder hnew hnothing
  exact ⟨got, hgot⟩

end Broker

/-- Whoever subscribes through a network reads what it subscribes to, in the group it names. -/
theorem Network.subscribed_of_ok {n : Network} {connection id : Nat} {o : ConsumerOptions}
    (h : (n.subscribe connection o).1 = .ok id) :
    { id, subject := o.subject, group := o.group }
      ∈ (n.subscribe connection o).2.broker.subscriptions := by
  simp only [subscribe, attempt, keep] at h ⊢
  split at h
  · cases h
  · have houtcome := n.broker.subscribe_outcome connection o
    rw [← Prod.eta (n.broker.subscribe connection o), h] at houtcome
    exact houtcome

end Waystation
