import Mathlib.Data.Finset.Sort
import Mathlib.Data.List.Rotate
import Waystation.Proofs.Broker.Ledger
/-!
Members taken in turn. A group goes round the members that somebody reads for, in the order in which
they joined, so as long as these stay the same each gets an equal part of what the group hands out, up
to one message, and whatever has become of the members, a message goes to one that can read it.
-/
namespace Waystation

/-! Going round a list. -/

section Rounds

variable {ids xs before after : List Nat} {start id : Nat}

/-- Does a list go round another one, from a place on? -/
def GoesRound (ids : List Nat) (start : Nat) (xs : List Nat) : Prop :=
  ∀ i x, xs[i]? = some x → ids[(start + i) % ids.length]? = some x

theorem GoesRound.part (h : GoesRound ids start (before ++ xs ++ after)) :
    GoesRound ids (start + before.length) xs := by
  intro i x hx
  rw [Nat.add_assoc]
  exact h _ x (getElem?_of_part hx)

/-- At most a round is the beginning of the list from that place on. -/
theorem GoesRound.prefix_rotate (h : GoesRound ids start xs) (hlength : xs.length ≤ ids.length) :
    xs <+: ids.rotate start := by
  rw [List.prefix_iff_getElem?]
  intro i hi
  rw [List.getElem?_rotate (by omega), Nat.add_comm]
  exact h i _ (List.getElem?_eq_getElem hi)

/-- A round meets everybody once. -/
theorem GoesRound.count_round (h : GoesRound ids start xs) (hnodup : ids.Nodup) (hid : id ∈ ids)
    (hlength : xs.length = ids.length) : xs.count id = 1 := by
  have hround : xs = ids.rotate start :=
    (h.prefix_rotate (Nat.le_of_eq hlength)).eq_of_length (by rw [hlength, List.length_rotate])
  rw [hround, (List.rotate_perm ids start).count_eq, List.count_eq_one_of_mem hnodup hid]

/-- Wherever a round begins, it meets everybody once. -/
theorem GoesRound.count_window (h : GoesRound ids start xs) (hnodup : ids.Nodup) (hid : id ∈ ids)
    {window : List Nat} (hwindow : window <:+: xs) (hlength : window.length = ids.length) :
    window.count id = 1 := by
  obtain ⟨before, after, rfl⟩ := hwindow
  exact h.part.count_round hnodup hid hlength

/-- Less than a round meets nobody twice. -/
theorem GoesRound.count_le_one (h : GoesRound ids start xs) (hnodup : ids.Nodup)
    (hlength : xs.length ≤ ids.length) : xs.count id ≤ 1 := by
  refine Nat.le_trans ((h.prefix_rotate hlength).sublist.count_le id) ?_
  rw [(List.rotate_perm ids start).count_eq]
  exact List.nodup_iff_count_le_one.1 hnodup id

/-- Behind the first round it goes on as before. -/
theorem GoesRound.split (h : GoesRound ids start xs) (hlength : ids.length ≤ xs.length) :
    ∃ round rest, xs = round ++ rest ∧ round.length = ids.length ∧ GoesRound ids start round
      ∧ GoesRound ids (start + ids.length) rest := by
  have hround : (xs.take ids.length).length = ids.length := List.length_take_of_le hlength
  have hxs : xs = xs.take ids.length ++ xs.drop ids.length := (List.take_append_drop _ _).symm
  refine ⟨_, _, hxs, hround, ?_, ?_⟩
  · rw [hxs] at h
    have hfirst : GoesRound ids start ([] ++ xs.take ids.length ++ xs.drop ids.length) := h
    exact hfirst.part
  · rw [hxs, ← List.append_nil (xs.take ids.length ++ xs.drop ids.length)] at h
    have hpart := h.part
    rwa [hround] at hpart

/-- Whoever goes round a list meets everybody equally often, up to once. -/
theorem GoesRound.count (h : GoesRound ids start xs) (hnodup : ids.Nodup) (hid : id ∈ ids) :
    xs.count id = xs.length / ids.length
      ∨ xs.count id = (xs.length + ids.length - 1) / ids.length := by
  have hpos : 0 < ids.length := List.length_pos_of_mem hid
  -- by rounds: the first one meets everybody once, and the rest is shorter
  induction hlength : xs.length using Nat.strong_induction_on generalizing xs start with
  | _ k ih =>
    by_cases hshort : k < ids.length
    · have hle : xs.count id ≤ 1 := h.count_le_one hnodup (by omega)
      have hlast : xs.count id ≤ k := hlength ▸ List.count_le_length
      by_cases hzero : xs.count id = 0
      · rw [Nat.div_eq_of_lt hshort]
        exact .inl hzero
      · have hceil : (k + ids.length - 1) / ids.length = 1 :=
          Nat.div_eq_of_lt_le (by omega) (by omega)
        rw [hceil]
        exact .inr (by omega)
    · obtain ⟨round, rest, rfl, hround, hfirst, hrest⟩ := h.split (by omega)
      rw [List.length_append, hround] at hlength
      have hfloor : k / ids.length = rest.length / ids.length + 1 := by
        rw [← hlength, Nat.add_div_left _ hpos]
      have hceil : (k + ids.length - 1) / ids.length
          = (rest.length + ids.length - 1) / ids.length + 1 := by
        rw [← Nat.add_div_left _ hpos]
        congr 1
        omega
      rw [List.count_append, hfirst.count_round hnodup hid hround, hfloor, hceil]
      rcases ih rest.length (by omega) hrest rfl with hless | hmore
      · exact .inl (by omega)
      · exact .inr (by omega)

end Rounds

/-! Who could be handed a message. -/

namespace Group

/-- The members that somebody reads for, in the order in which they joined. -/
def readers (g : Group) : List Nat := g.swept.members.map (·.id)

/-- A message handed out, and the members that could have been handed it: nobody becomes a reader or
ceases to be one while messages are handed out, so these are the readers afterwards, too. -/
structure Deal where
  among : List Nat
  handed : Handed

/-- Is a message handed to the one whose turn it is, with so many handed out before it? -/
def Deal.Falls (d : Deal) (n : Nat) : Prop :=
  d.among[n % 2 ^ 64 % d.among.length]? = some d.handed.member

/-- What a group has handed out beyond what it had handed out before. -/
def dealsSince (g : Group) (before : List Handed) : List Deal :=
  (g.handed.drop before.length).map fun handed => { among := g.readers, handed }

variable {g g' g'' : Group} {h : History} {m : Message}

theorem dealsSince_of_handed (h : g'.handed = g.handed) : g'.dealsSince g.handed = [] := by
  rw [dealsSince, h, List.drop_length, List.map_nil]

theorem dealsSince_trans (hreaders : g''.readers = g'.readers) (hhanded : g.handed <+: g'.handed)
    (hhanded' : g'.handed <+: g''.handed) :
    g''.dealsSince g.handed = g'.dealsSince g.handed ++ g''.dealsSince g'.handed := by
  rw [dealsSince, dealsSince, dealsSince, drop_of_grown hhanded hhanded', List.map_append, hreaders]

theorem swept_swept (g : Group) : g.swept.swept = g.swept := by
  simp [swept, List.filter_filter]

/-- An offer goes to the reader whose turn it is; without readers it waits. -/
theorem offer_turn (g : Group) (h : History) (m : Message) :
    (g.readers = [] ∧ g.offer h m = ({ g.swept with backlog := g.backlog ++ [m] }, h))
      ∨ ∃ member ∈ g.members, member.held = true
        ∧ g.readers[g.cursor.toNat % g.readers.length]? = some member.id
        ∧ g.offer h m = ({ g.swept with
            cursor := g.cursor + 1
            handed := g.handed
              ++ [{ member := member.id, delivery := h.nextDelivery, message := m }] },
          h.recordDelivery { subject := m.subject, group := g.name }) := by
  rcases g.offer_in_turn h m with ⟨member, hturn, hoffer⟩ | ⟨hempty, hoffer⟩
  · obtain ⟨hmem, hheld⟩ := List.mem_filter.1 (turn?_mem hturn)
    refine .inr ⟨member, hmem, hheld, ?_, hoffer⟩
    rw [turn?] at hturn
    rw [readers, List.length_map, List.getElem?_map]
    exact congrArg (Option.map (·.id)) hturn
  · refine .inl ⟨?_, hoffer⟩
    rw [readers, hempty, List.map_nil]

/-- An offer changes nobody's being a reader. -/
theorem readers_offer (g : Group) (h : History) (m : Message) :
    (g.offer h m).1.readers = g.readers := by
  have hswept : g.swept.readers = g.readers := by rw [readers, swept_swept, readers]
  rcases g.offer_turn h m with ⟨-, hoffer⟩ | ⟨member, -, -, -, hoffer⟩
  · rw [hoffer]
    exact hswept
  · rw [hoffer]
    exact hswept

theorem readers_offerAll (g : Group) (h : History) (ms : List Message) :
    (g.offerAll h ms).1.readers = g.readers := by
  induction ms generalizing g h with
  | nil => rfl
  | cons m ms ih => exact (ih _ _).trans (g.readers_offer h m)

/-! What a group has dealt out. -/

/-- Are these the deals of a group, each to the one whose turn it was? The group counts them, and its
members stand in the order in which they joined. -/
structure Dealt (g : Group) (deals : List Deal) : Prop where
  handed : deals.map (·.handed) = g.handed
  cursor : g.cursor.toNat = deals.length % 2 ^ 64
  falls : ∀ (i : Nat) (d : Deal), deals[i]? = some d → d.Falls i
  among : ∀ d ∈ deals, d.among.Pairwise (· < ·)
  members : (g.members.map (·.id)).Pairwise (· < ·)

variable {deals : List Deal}

theorem Dealt.readers (hg : g.Dealt deals) : g.readers.Pairwise (· < ·) :=
  hg.members.sublist (List.filter_sublist.map _)

/-- A group that has handed out nothing more, and of whose members some may have gone. -/
theorem Dealt.keep (hg : g.Dealt deals) (hhanded : g'.handed = g.handed)
    (hcursor : g'.cursor = g.cursor) (hmembers : (g'.members.map (·.id)).Sublist (g.members.map (·.id))) :
    g'.Dealt deals :=
  ⟨hg.handed.trans hhanded.symm, hcursor ▸ hg.cursor, hg.falls, hg.among, hg.members.sublist hmembers⟩

/-- A group that has handed one more message to the reader whose turn it was. -/
theorem Dealt.hand (hg : g.Dealt deals) {x : Handed} (hhanded : g'.handed = g.handed ++ [x])
    (hcursor : g'.cursor = g.cursor + 1)
    (hmembers : (g'.members.map (·.id)).Sublist (g.members.map (·.id)))
    (hreaders : g'.readers = g.readers)
    (hturn : g.readers[g.cursor.toNat % g.readers.length]? = some x.member) :
    g'.Dealt (deals ++ g'.dealsSince g.handed) := by
  have hnew : g'.dealsSince g.handed = [{ among := g.readers, handed := x }] := by
    rw [dealsSince, hhanded, List.drop_left, hreaders]
    rfl
  rw [hnew]
  refine ⟨?_, ?_, ?_, ?_, hg.members.sublist hmembers⟩
  · rw [List.map_append, hg.handed, hhanded]
    rfl
  · rw [hcursor, UInt64.toNat_add, hg.cursor, List.length_append]
    exact Nat.mod_add_mod _ _ _
  · intro i d hd
    rw [List.getElem?_append] at hd
    split at hd
    next => exact hg.falls i d hd
    next hlast =>
      rw [List.getElem?_singleton] at hd
      split at hd
      next hzero =>
        have hi : i = deals.length := by omega
        obtain rfl := Option.some.inj hd
        rw [Deal.Falls, hi, ← hg.cursor]
        exact hturn
      next => cases hd
  · intro d hd
    rcases mem_snoc.1 hd with hold | rfl
    · exact hg.among d hold
    · exact hg.readers

theorem Dealt.offer (hg : g.Dealt deals) (h : History) (m : Message) :
    (g.offer h m).1.Dealt (deals ++ (g.offer h m).1.dealsSince g.handed) := by
  have hreaders := g.readers_offer h m
  have hswept : (g.swept.members.map (·.id)).Sublist (g.members.map (·.id)) :=
    List.filter_sublist.map _
  rcases g.offer_turn h m with ⟨-, hoffer⟩ | ⟨member, -, -, hturn, hoffer⟩
  · have hhanded : (g.offer h m).1.handed = g.handed := by rw [hoffer]; rfl
    rw [dealsSince_of_handed hhanded, List.append_nil]
    exact hg.keep hhanded (by rw [hoffer]; rfl) (by rw [hoffer]; exact hswept)
  · exact hg.hand (by rw [hoffer]) (by rw [hoffer]) (by rw [hoffer]; exact hswept) hreaders hturn

theorem Dealt.offerAll (hg : g.Dealt deals) (h : History) (ms : List Message) :
    (g.offerAll h ms).1.Dealt (deals ++ (g.offerAll h ms).1.dealsSince g.handed) := by
  induction ms generalizing g h deals with
  | nil =>
    rw [Group.offerAll, dealsSince_of_handed rfl, List.append_nil]
    exact hg
  | cons m ms ih =>
    have hrest := ih (hg.offer h m) (g.offer h m).2
    rw [List.append_assoc, ← dealsSince_trans (readers_offerAll _ _ ms) (g.handed_prefix_offer h m)
      (handed_prefix_offerAll _ _ ms)] at hrest
    exact hrest

/-- A member that joins stands behind all others. -/
theorem Dealt.attach (hg : g.Dealt deals) (h : History) {member : Member}
    (hlast : ∀ m ∈ g.members, m.id < member.id) :
    (g.attach h member).1.Dealt (deals ++ (g.attach h member).1.dealsSince g.handed) := by
  refine Dealt.offerAll (g := { g with members := g.members ++ [member], backlog := [] })
    ⟨hg.handed, hg.cursor, hg.falls, hg.among, ?_⟩ h g.backlog
  rw [List.map_append, List.map_singleton]
  refine List.pairwise_append.2 ⟨hg.members, List.pairwise_singleton _ _, fun id hid last hlast' => ?_⟩
  obtain ⟨m, hm, rfl⟩ := List.mem_map.1 hid
  rw [List.mem_singleton.1 hlast']
  exact hlast m hm

end Group

namespace Broker

open Waystation.Group (Deal)

/-- What an operation lets the group of a name hand out. -/
def deals (name : String) (b : Broker) (op : Operation) : List Deal :=
  match (b.after op).group? name with
  | some g => g.dealsSince (b.handed name)
  | none => []

/-- Are these the deals of the group of a name, if it has been made? -/
def Deals (b : Broker) (name : String) (made : List Deal) : Prop :=
  match b.group? name with
  | some g => g.Dealt made
  | none => made = []

variable {b b' : Broker} {name : String} {made : List Deal} {g : Group}

theorem deals_of_some {op : Operation} (hg : (b.after op).group? name = some g) :
    b.deals name op = g.dealsSince (b.handed name) := by
  rw [deals, hg]

theorem handed_of_some (hg : b.group? name = some g) : b.handed name = g.handed := by
  rw [handed, hg]

/-- Each deal fell to the one whose turn it was, among readers in the order in which they joined. -/
theorem Deals.falls (h : b.Deals name made) {i : Nat} {d : Deal} (hd : made[i]? = some d) :
    d.Falls i ∧ d.among.Pairwise (· < ·) := by
  rw [Deals] at h
  split at h
  next => exact ⟨h.falls i d hd, h.among d (List.mem_of_getElem? hd)⟩
  next =>
    rw [h, List.getElem?_nil] at hd
    cases hd

/-- The deals of a group of which members have gone at most. -/
theorem LetsGo.dealt {g g' : Group} (h : LetsGo g g') (hg : g.Dealt made) :
    g'.Dealt (made ++ g'.dealsSince g.handed) := by
  rw [Group.dealsSince_of_handed h.handed, List.append_nil]
  refine hg.keep h.handed ?_ ?_
  · rcases h with rfl | ⟨p, rfl⟩ | ⟨id, rfl⟩ <;> rfl
  · rcases h with rfl | ⟨p, rfl⟩ | ⟨id, rfl⟩
    · exact List.Sublist.refl _
    · exact List.filter_sublist.map _
    · have hids : (g.abandon id).members.map (·.id) = g.members.map (·.id) := by
        rw [Group.abandon, List.map_map]
        refine List.map_congr_left fun m _ => ?_
        simp only [Function.comp]
        split <;> rfl
      rw [hids]

/-- The group that a new subscription joins has dealt what is known, or is new and has dealt nothing. -/
theorem Deals.joined {o : ConsumerOptions} (h : b.Deals o.group made) :
    (b.joined o).Dealt made ∧ b.handed o.group = (b.joined o).handed := by
  rw [Broker.joined]
  cases hg : b.group? o.group with
  | some g =>
    rw [Deals, hg] at h
    exact ⟨h, handed_of_some hg⟩
  | none =>
    rw [Deals, hg] at h
    rw [h, handed, hg]
    refine ⟨⟨rfl, rfl, fun i d hd => ?_, List.forall_mem_nil _, List.Pairwise.nil⟩, rfl⟩
    rw [List.getElem?_nil] at hd
    cases hd

/-- What a group hands out in an operation it deals to its readers in turn. -/
theorem dealt_after (hb : b.Sound) (h : b.Deals name made) {op : Operation}
    (hg : (b.after op).group? name = some g) : g.Dealt (made ++ g.dealsSince (b.handed name)) := by
  have hkept : ∀ old, b.group? name = some old → old.Dealt made ∧ b.handed name = old.handed := by
    intro old hold
    rw [Deals, hold] at h
    exact ⟨h, handed_of_some hold⟩
  have hsame : b.group? name = some g → g.Dealt (made ++ g.dealsSince (b.handed name)) := by
    intro hold
    obtain ⟨hdealt, hhanded⟩ := hkept g hold
    rwa [hhanded, Group.dealsSince_of_handed rfl, List.append_nil]
  have heffect := b.after_effect op
  generalize b.after op = b' at heffect hg
  cases heffect with
  | quiet hgroups _ _ _ _ _ =>
    rw [group?, hgroups, ← group?] at hg
    exact hsame hg
  | members hf hgroups _ _ _ _ _ =>
    rw [group?, hgroups, find?_map_name (fun g => (hf g).offered.name), ← group?] at hg
    obtain ⟨old, hold, rfl⟩ := Option.map_eq_some_iff.1 hg
    obtain ⟨hdealt, hhanded⟩ := hkept old hold
    rw [hhanded]
    exact (hf old).dealt hdealt
  | @published _ m _ _ =>
    cases hold : b.group? name with
    | none =>
      rw [group?_eq_none_iff, ← map_name_inject b m, ← group?_eq_none_iff, hg] at hold
      cases hold
    | some old =>
      obtain ⟨hdealt, hhanded⟩ := hkept old hold
      obtain ⟨g', hg', hcases⟩ := Group.find?_dispatch hold (b.history.recordPublish m) m
      obtain rfl := Option.some.inj (hg.symm.trans hg')
      rcases hcases with ⟨-, h', rfl⟩ | ⟨-, rfl⟩
      · rw [hhanded]
        exact hdealt.offer h' m
      · exact hsame hold
  | @attached connection o _ _ =>
    rw [← attached, group?_attached] at hg
    split at hg
    next hname =>
      subst hname
      obtain rfl := Option.some.inj hg
      obtain ⟨hdealt, hhanded⟩ := h.joined
      rw [hhanded]
      refine hdealt.attach b.history fun m hm => ?_
      obtain ⟨s, hs, hid, -⟩ := (joined_sound hb o).members m hm
      exact Nat.lt_succ_of_le (hid ▸ hb.issued s hs)
    next => exact hsame hg
  | delivered _ => exact hsame hg

theorem deals_after (hb : b.Sound) (h : b.Deals name made) (op : Operation) :
    (b.after op).Deals name (made ++ b.deals name op) := by
  cases hafter : (b.after op).group? name with
  | some g =>
    rw [Deals, hafter, deals_of_some hafter]
    exact dealt_after hb h hafter
  | none =>
    -- no group goes, so there was none before
    have hbefore : b.group? name = none := by
      cases hold : b.group? name with
      | none => rfl
      | some old =>
        obtain ⟨g, hg, -⟩ := group?_after hb hold op
        rw [hafter] at hg
        cases hg
    rw [Deals, hbefore] at h
    rw [Deals, hafter, deals, hafter, h]
    rfl

theorem deals_run (ops : List Operation) (name : String) :
    (run {} ops).Deals name (log (deals name) {} ops) := by
  have hempty : Sound {} ∧ Deals {} name [] := ⟨sound_empty, rfl⟩
  have hrun := invariant_logged (I := fun (b : Broker) made => b.Sound ∧ b.Deals name made)
    (fun b made op h => ⟨sound_after h.1 op, deals_after h.1 h.2 op⟩) hempty ops
  exact hrun.2

/-! Stretches in which the readers stay the same. -/

/-- Among the same members messages go round them, as long as the count does not start again. -/
theorem Deals.goesRound {before stretch later : List Deal} {members : Finset Nat}
    (h : b.Deals name (before ++ stretch ++ later))
    (hsame : ∀ d ∈ stretch, d.among.toFinset = members)
    (hcount : before.length % 2 ^ 64 + stretch.length ≤ 2 ^ 64) :
    GoesRound members.sort (before.length % 2 ^ 64) (stretch.map (·.handed.member)) := by
  intro i x hx
  rw [List.getElem?_map, Option.map_eq_some_iff] at hx
  obtain ⟨d, hd, rfl⟩ := hx
  have hi := (List.getElem?_eq_some_iff.1 hd).1
  have hplace : (before ++ stretch ++ later)[before.length + i]? = some d := getElem?_of_part hd
  obtain ⟨hfalls, hsorted⟩ := h.falls hplace
  have hamong : members.sort = d.among := by
    rw [← hsame d (List.mem_of_getElem? hd)]
    exact (List.toFinset_sort (· ≤ ·) hsorted.nodup).2 (hsorted.imp Nat.le_of_lt)
  have hturn : (before.length + i) % 2 ^ 64 = before.length % 2 ^ 64 + i := by
    omega
  rwa [Deal.Falls, hturn, ← hamong] at hfalls

/-! The order of publication. -/

/-- A group hands out what was published, in the order of publication. -/
theorem handed_sublist_sent {ops : List Operation} (hg : (run {} ops).group? name = some g) :
    (g.handed.map (·.message)).Sublist (log sent {} ops) := by
  obtain ⟨before, connection, o, rest, rfl, -, -, -, -, hdue⟩ := group?_origin sound_empty rfl hg
  have hretained : ((run {} before).freshGroup o).backlog.Sublist (log sent {} before) := by
    have hpublished := (books_run sound_empty books_empty before).history.published
    rw [freshGroup]
    cases o.deliver with
    | new => exact List.nil_sublist _
    | all => exact List.filter_sublist.trans hpublished.sublist
  have hlater : (Group.accepted o.subject
      (log sent (run {} (before ++ [.subscribe connection o])) rest)).Sublist
        (log sent (run {} before) (.subscribe connection o :: rest)) := by
    rw [run, List.foldl_append]
    exact List.filter_sublist
  have hall : log sent {} (before ++ .subscribe connection o :: rest)
      = log sent {} before ++ log sent (run {} before) (.subscribe connection o :: rest) :=
    logged_append ..
  rw [hall]
  refine List.Sublist.trans ?_ (hretained.append hlater)
  rw [← hdue]
  exact (List.prefix_append _ _).sublist

/-- What has been dealt to a subscription is read by it from the first on, and was published in that
order. -/
theorem Deals.read_in_order {ops : List Operation} {s : Subscription}
    (h : (run {} ops).Deals s.group made) (hs : s ∈ (run {} ops).subscriptions) :
    let share := (made.map (·.handed)).filter (·.member = s.id)
    log (read s.id) {} ops <+: share.map delivery
      ∧ (share.map (·.message)).Sublist (log sent {} ops) := by
  intro share
  cases hg : (run {} ops).group? s.group with
  | none =>
    have hjoined := (sound_run sound_empty ops).joined s hs
    exact absurd hjoined (group?_eq_none_iff.1 hg)
  | some g =>
    rw [Deals, hg] at h
    have hshare : share = g.share s.id := by rw [Group.share, ← h.handed]
    have hread : log (read s.id) {} ops = _ :=
      (inOrder_run sound_empty inOrder_empty ops).got_eq s hs
    rw [hread, share_of_group? hg, hshare]
    refine ⟨(List.take_prefix _ _).map _, ?_⟩
    exact (List.filter_sublist.map _).trans (handed_sublist_sent hg)

/-! The main result. -/

/-- Over every run what a group deals out is what it has handed out, each message to one who was a reader
then, and its cursor counts the deals. In every stretch of deals among the same readers in which the
cursor does not start again, each of them gets an equal part, rounded down or up, and as many deals one
after another as there are readers reach each of them once. What is dealt to a subscription is read by
it from the first on, in the order of publication. Whatever a group and its cursor are like, a message
that is offered waits if there are no readers, and else goes to the one at the place that the cursor
gives, which is there; and all who were readers still are. -/
theorem run_rotation (ops : List Operation) (name : String) :
    let made := log (deals name) {} ops
    (∀ g, (run {} ops).group? name = some g →
      made.map (·.handed) = g.handed ∧ g.cursor.toNat = made.length % 2 ^ 64
        ∧ ∀ d ∈ made, d.handed.member ∈ d.among)
    ∧ (∀ before stretch later, made = before ++ stretch ++ later → ∀ members : Finset Nat,
      (∀ d ∈ stretch, d.among.toFinset = members) →
      before.length % 2 ^ 64 + stretch.length ≤ 2 ^ 64 → ∀ id ∈ members,
        ((stretch.map (·.handed.member)).count id = stretch.length / members.card
          ∨ (stretch.map (·.handed.member)).count id
            = (stretch.length + members.card - 1) / members.card)
        ∧ ∀ window, window <:+: stretch → window.length = members.card →
          (window.map (·.handed.member)).count id = 1)
    ∧ (∀ s ∈ (run {} ops).subscriptions, s.group = name →
      let share := (made.map (·.handed)).filter (·.member = s.id)
      log (read s.id) {} ops <+: share.map delivery
        ∧ (share.map (·.message)).Sublist (log sent {} ops))
    ∧ ∀ (g : Group) (h : History) (m : Message), (g.offer h m).1.readers = g.readers
      ∧ ((g.readers = [] ∧ (g.offer h m).1.handed = g.handed
          ∧ (g.offer h m).1.backlog = g.backlog ++ [m])
        ∨ ∃ member ∈ g.members, member.held = true
          ∧ g.cursor.toNat % g.readers.length < g.readers.length
          ∧ g.readers[g.cursor.toNat % g.readers.length]? = some member.id
          ∧ (g.offer h m).1.handed = g.handed
            ++ [{ member := member.id, delivery := h.nextDelivery, message := m }]) := by
  intro made
  have hmade : (run {} ops).Deals name made := deals_run ops name
  refine ⟨fun g hg => ?told, fun before stretch later hparts members hsame hcount id hid => ?round,
    fun s hs hname => ?order, fun g h m => ⟨g.readers_offer h m, ?offer⟩⟩
  case told =>
    rw [Deals, hg] at hmade
    refine ⟨hmade.handed, hmade.cursor, fun d hd => ?_⟩
    obtain ⟨i, hi⟩ := List.getElem?_of_mem hd
    exact List.mem_of_getElem? (hmade.falls i d hi)
  case round =>
    rw [hparts] at hmade
    have hround := hmade.goesRound hsame hcount
    have hnodup : members.sort.Nodup := members.sort_nodup _
    have hid : id ∈ members.sort := (members.mem_sort _).2 hid
    refine ⟨?_, fun window hwindow hlength => ?_⟩
    · have hpart := hround.count hnodup hid
      rwa [List.length_map, members.length_sort] at hpart
    · refine hround.count_window hnodup hid (hwindow.map _) ?_
      rw [List.length_map, members.length_sort, hlength]
  case order =>
    subst hname
    exact hmade.read_in_order hs
  case offer =>
    rcases g.offer_turn h m with ⟨hnobody, hoffer⟩ | ⟨member, hmem, hheld, hturn, hoffer⟩
    · exact .inl ⟨hnobody, by rw [hoffer]; rfl, by rw [hoffer]⟩
    · have hplace := (List.getElem?_eq_some_iff.1 hturn).1
      exact .inr ⟨member, hmem, hheld, hplace, hturn, by rw [hoffer]⟩

/-- Two members share three messages. -/
example : (log (deals "in-a-p") {} [.connect "memory://",
    .subscribe 1 { subject := "in.a", group := "in-a-p" },
    .subscribe 1 { subject := "in.a", group := "in-a-p" },
    .inject { subject := "in.a", payload := [1] }, .inject { subject := "in.a", payload := [2] },
    .inject { subject := "in.a", payload := [3] }]).map (·.handed.member) = [2, 3, 2] := by
  decide +kernel

end Broker

end Waystation
