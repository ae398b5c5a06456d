import Waystation.Proofs.Broker.Numbers
import Waystation.Proofs.Broker.Silence
/-!
The books of a broker. Deliveries are numbered in the order in which they are made, and whatever has
been evicted from the history, a record that is left is that of its own delivery and counts the
acknowledgements of that one: all that is forgotten is what came first.
-/
namespace Waystation

namespace History

/-- The record of a message that the group of a name has handed out, acknowledged so often. -/
def recordOf (acks : Nat) (e : String × Handed) : DeliveryRecord :=
  { subject := e.2.message.subject, group := e.1, acks }

/-- Does a history tell what was handed out, acknowledged and published, but for what it has evicted to
keep to its limit? -/
structure Recounts (h : History) (made : List (String × Handed)) (acked : List Nat)
    (blobs : List Message) : Prop where
  numbers : made.map (·.2.delivery) = List.range h.nextDelivery
  known : ∀ n ∈ acked, n < h.nextDelivery
  deliveries : h.deliveries
    = (made.drop h.evicted).map fun e => recordOf (acked.count e.2.delivery) e
  published : h.published <:+ blobs
  fits : h.deliveries.length ≤ h.limit ∧ h.published.length ≤ h.limit

variable {h h' : History} {made : List (String × Handed)} {acked : List Nat} {blobs : List Message}

theorem Recounts.length_made (hr : h.Recounts made acked blobs) : made.length = h.nextDelivery := by
  have hlength := congrArg List.length hr.numbers
  rwa [List.length_map, List.length_range] at hlength

/-- What is evicted is what came first, so the rest is told as before. -/
theorem recounts_trim (hnumbers : made.map (·.2.delivery) = List.range h.nextDelivery)
    (hknown : ∀ n ∈ acked, n < h.nextDelivery)
    (hdeliveries : h.deliveries
      = (made.drop h.evicted).map fun e => recordOf (acked.count e.2.delivery) e)
    (hpublished : h.published <:+ blobs) : h.trim.Recounts made acked blobs where
  numbers := h.nextDelivery_trim ▸ hnumbers
  known := h.nextDelivery_trim ▸ hknown
  deliveries := by
    simp only [trim, lastOf]
    rw [← List.drop_drop, List.map_drop, ← hdeliveries]
  published := (lastOf_suffix _ _).trans hpublished
  fits := by
    simp only [trim, length_lastOf]
    omega

theorem Recounts.setLimit (hr : h.Recounts made acked blobs) (limit : Nat) :
    (h.setLimit limit).Recounts made acked blobs :=
  recounts_trim hr.numbers hr.known hr.deliveries hr.published

theorem Recounts.recordPublish (hr : h.Recounts made acked blobs) (m : Message) :
    (h.recordPublish m).Recounts made acked (blobs ++ [m]) := by
  refine recounts_trim hr.numbers hr.known hr.deliveries ?_
  obtain ⟨gone, hsent⟩ := hr.published
  exact ⟨gone, by rw [← hsent, List.append_assoc]⟩

/-- A delivery under the next number has not been acknowledged yet. -/
theorem Recounts.recordDelivery (hr : h.Recounts made acked blobs) {e : String × Handed}
    (hnumber : e.2.delivery = h.nextDelivery) :
    (h.recordDelivery { subject := e.2.message.subject, group := e.1 }).Recounts (made ++ [e]) acked
      blobs := by
  have hnext : ({ h with deliveries := h.deliveries ++ [recordOf 0 e] } : History).nextDelivery
      = h.nextDelivery + 1 := by
    simp [nextDelivery, Nat.add_assoc]
  have hevicted : h.evicted ≤ made.length := by
    rw [hr.length_made]
    exact Nat.le_add_right _ _
  have hnone : acked.count e.2.delivery = 0 := by
    refine List.count_eq_zero.2 fun hmem => ?_
    exact absurd (hr.known _ hmem) (by omega)
  refine recounts_trim (h := { h with deliveries := h.deliveries ++ [recordOf 0 e] }) ?_ ?_ ?_ ?_
  · rw [hnext, List.map_append, hr.numbers, List.range_succ, List.map_singleton, hnumber]
  · exact fun n hn => hnext ▸ Nat.lt_succ_of_lt (hr.known n hn)
  · rw [List.drop_append_of_le_length hevicted, List.map_append, ← hr.deliveries,
      List.map_singleton, hnone]
  · exact hr.published

/-- The record at a place is that of the delivery whose number is so far behind the evicted ones. -/
theorem Recounts.number (hr : h.Recounts made acked blobs) {i : Nat} {e : String × Handed}
    (he : (made.drop h.evicted)[i]? = some e) : e.2.delivery = h.evicted + i := by
  have hnumber := congrArg (·[h.evicted + i]?) hr.numbers
  rw [List.getElem?_drop] at he
  simp only [List.getElem?_map, he, Option.map_some] at hnumber
  obtain ⟨hlt, hget⟩ := List.getElem?_eq_some_iff.1 hnumber.symm
  rw [List.getElem_range] at hget
  exact hget.symm

/-- An acknowledgement is counted by the record of its own delivery, if that is left. -/
theorem Recounts.acknowledge (hr : h.Recounts made acked blobs) {n : Nat}
    (hacked : h.acknowledge? n = some h') : h'.Recounts made (acked ++ [n]) blobs := by
  have hnext := nextDelivery_acknowledge hacked
  -- the records of all other deliveries stay
  have hother : ∀ i e, (made.drop h.evicted)[i]? = some e → h.evicted + i ≠ n →
      recordOf ((acked ++ [n]).count e.2.delivery) e = recordOf (acked.count e.2.delivery) e := by
    intro i e he hne
    rw [List.count_append, List.count_singleton, hr.number he]
    simp [Ne.symm hne]
  rw [acknowledge?] at hacked
  split at hacked
  next hgone =>
    obtain rfl := Option.some.inj hacked
    refine ⟨hr.numbers, fun k hk => ?_, ?_, hr.published, hr.fits⟩
    · rcases mem_snoc.1 hk with hold | rfl
      · exact hr.known k hold
      · exact Nat.lt_of_lt_of_le hgone (Nat.le_add_right _ _)
    · rw [hr.deliveries]
      refine List.map_congr_left fun e he => ?_
      obtain ⟨i, hi⟩ := List.getElem?_of_mem he
      exact (hother i e hi (by omega)).symm
  next hleft =>
    split at hacked
    next r hget =>
      obtain rfl := Option.some.inj hacked
      have hlt := (List.getElem?_eq_some_iff.1 hget).1
      rw [hr.deliveries, List.getElem?_map] at hget
      obtain ⟨e, he, rfl⟩ := Option.map_eq_some_iff.1 hget
      refine ⟨hnext ▸ hr.numbers, fun k hk => ?_, ?_, hr.published, by simpa using hr.fits⟩
      · rcases mem_snoc.1 hk with hold | rfl
        · exact hnext ▸ hr.known k hold
        · rw [hnext, nextDelivery]
          omega
      · have hself : e.2.delivery = n := by
          rw [hr.number he]
          omega
        rw [map_eq_set he fun i e he hi => hother i e he (by omega), ← hr.deliveries]
        simp [recordOf, hself]
    next => cases hacked

end History

namespace Group

variable {h : History} {made : List (String × Handed)} {acked : List Nat} {blobs : List Message}

/-- What a group has handed out beyond what it had handed out before, with its name. -/
def fresh (before : List Handed) (g : Group) : List (String × Handed) :=
  (g.handed.drop before.length).map (g.name, ·)

theorem fresh_of_handed (g : Group) : g.fresh g.handed = [] := by
  rw [fresh, List.drop_length, List.map_nil]

theorem fresh_trans {g g' g'' : Group} (hname : g'.name = g''.name)
    (hhanded : g.handed <+: g'.handed) (hhanded' : g'.handed <+: g''.handed) :
    g''.fresh g.handed = g'.fresh g.handed ++ g''.fresh g'.handed := by
  rw [fresh, fresh, fresh, drop_of_grown hhanded hhanded', List.map_append, hname]

/-- An offer that is handed out is recorded. -/
theorem recounts_offer (hr : h.Recounts made acked blobs) (g : Group) (m : Message) :
    (g.offer h m).2.Recounts (made ++ (g.offer h m).1.fresh g.handed) acked blobs := by
  rcases g.offer_cases h m with ⟨member, -, hoffer⟩ | ⟨-, hoffer⟩
  · rw [hoffer]
    let x : Handed := { member := member.id, delivery := h.nextDelivery, message := m }
    have hnew : made ++ [(g.name, x)]
        = made ++ fresh g.handed { g.swept with cursor := g.cursor + 1, handed := g.handed ++ [x] } := by
      simp [fresh, swept]
    rw [← hnew]
    exact hr.recordDelivery (e := (g.name, x)) rfl
  · rw [hoffer]
    have hnothing : fresh g.handed { g.swept with backlog := g.backlog ++ [m] } = [] :=
      fresh_of_handed { g.swept with backlog := g.backlog ++ [m] }
    rw [hnothing, List.append_nil]
    exact hr

theorem recounts_offerAll (hr : h.Recounts made acked blobs) (g : Group) (ms : List Message) :
    (g.offerAll h ms).2.Recounts (made ++ (g.offerAll h ms).1.fresh g.handed) acked blobs := by
  induction ms generalizing g h made with
  | nil =>
    rw [offerAll, fresh_of_handed, List.append_nil]
    exact hr
  | cons m ms ih =>
    have hrest := ih (recounts_offer hr g m) (g.offer h m).1
    rw [List.append_assoc, ← fresh_trans (name_offerAll _ _ ms).symm (g.handed_prefix_offer h m)
      (handed_prefix_offerAll _ _ ms)] at hrest
    exact hrest

/-- The offers of a dispatched message are recorded in the order of the groups. -/
theorem recounts_dispatch (hr : h.Recounts made acked blobs) {gs : List Group}
    {before : String → List Handed} (hbefore : ∀ g ∈ gs, before g.name = g.handed) (m : Message) :
    (dispatch m gs h).2.Recounts
      (made ++ (dispatch m gs h).1.flatMap fun g => g.fresh (before g.name)) acked blobs := by
  induction gs generalizing h made with
  | nil => simpa [dispatch] using hr
  | cons g gs ih =>
    obtain ⟨hg, hgs⟩ := List.forall_mem_cons.1 hbefore
    obtain ⟨g', h', hdispatch, hcases⟩ := dispatch_cons m g gs h
    have hfirst : h'.Recounts (made ++ g'.fresh (before g'.name)) acked blobs := by
      rcases hcases with ⟨-, rfl, rfl⟩ | ⟨-, rfl, rfl⟩
      · rw [g.name_offer h m, hg]
        exact recounts_offer hr g m
      · rw [hg, fresh_of_handed, List.append_nil]
        exact hr
    rw [hdispatch, List.flatMap_cons, ← List.append_assoc]
    exact ih hfirst hgs

end Group

namespace Broker

variable {b b' : Broker} {made : List (String × Handed)} {acked : List Nat} {blobs : List Message}

/-- What has been handed out by the group of a name. -/
def handed (b : Broker) (name : String) : List Handed :=
  match b.group? name with
  | some g => g.handed
  | none => []

/-- What an operation hands out, group by group, with the names of the groups. -/
def handsOut (b : Broker) (op : Operation) : List (String × Handed) :=
  (b.after op).groups.flatMap fun g => g.fresh (b.handed g.name)

/-- The delivery that an operation acknowledges. -/
def acknowledges (b : Broker) : Operation → List Nat
  | .acknowledge delivery => match (b.acknowledge delivery).1 with
    | .ok () => [delivery]
    | .error _ => []
  | _ => []

theorem handed_of_mem (hb : b.Sound) {g : Group} (hg : g ∈ b.groups) : b.handed g.name = g.handed := by
  rw [handed, group?_of_mem hb hg]

/-- What a group has handed out stays in front of what it hands out later. -/
theorem handed_prefix (hb : b.Sound) {op : Operation} {g : Group} (hg : g ∈ (b.after op).groups) :
    b.handed g.name <+: g.handed := by
  rw [handed]
  cases hfind : b.group? g.name with
  | none => exact List.nil_prefix
  | some old =>
    obtain ⟨g', hg', hoffered⟩ := group?_after hb hfind op
    obtain rfl := Option.some.inj ((group?_of_mem (sound_after hb op) hg).symm.trans hg')
    exact hoffered.handed

/-- Nothing is handed out where every group has handed out what it had before. -/
theorem handsOut_of_kept (hb : b.Sound) {op : Operation} {f : Group → Group}
    (hname : ∀ g, (f g).name = g.name) (hhanded : ∀ g, (f g).handed = g.handed)
    (hgroups : (b.after op).groups = b.groups.map f) : b.handsOut op = [] := by
  rw [handsOut, hgroups, List.flatMap_map]
  refine List.flatMap_eq_nil_iff.2 fun g hg => ?_
  rw [hname, handed_of_mem hb hg, ← hhanded, Group.fresh_of_handed]

/-- Does an operation let a member join a group? -/
def Operation.Joins : Operation → Prop
  | .subscribe .. => True
  | _ => False

/-- Messages are handed out when they are published, or when a member joins. -/
theorem handsOut_eq_nil (hb : b.Sound) {op : Operation} (hsent : b.sent op = []) (hop : ¬op.Joins) :
    b.handsOut op = [] := by
  have heffect := b.after_effect op
  have hkept : ∀ f : Group → Group, (∀ g, (f g).name = g.name) → (∀ g, (f g).handed = g.handed) →
      (b.after op).groups = b.groups.map f → b.handsOut op = [] := fun f =>
    handsOut_of_kept hb
  generalize b.after op = b' at heffect hkept
  cases heffect with
  | quiet hgroups _ _ _ _ _ => exact hkept id (fun _ => rfl) (fun _ => rfl) (by simpa)
  | members hf hgroups _ _ _ _ _ =>
    exact hkept _ (fun g => (hf g).offered.name) (fun g => LetsGo.handed (hf g)) hgroups
  | published hone _ => rw [hsent] at hone; cases hone
  | attached _ _ => exact absurd trivial hop
  | delivered _ => exact hkept id (fun _ => rfl) (fun _ => rfl) (by simp)

theorem handsOut_inject (hb : b.Sound) (hr : b.history.Recounts made acked blobs) (m : Message) :
    (b.inject m).history.Recounts (made ++ (b.inject m).groups.flatMap fun g => g.fresh (b.handed g.name))
      acked (blobs ++ [m]) :=
  Group.recounts_dispatch (hr.recordPublish m) (fun _ hg => handed_of_mem hb hg) m

/-- A new member is handed what its group holds back, and nobody else anything. -/
theorem handsOut_attached (hb : b.Sound) (connection : Nat) (o : ConsumerOptions) :
    ((b.attached connection o).groups.flatMap fun g => g.fresh (b.handed g.name))
      = (b.enlisted connection o).1.fresh (b.joined o).handed := by
  have hfind : (b.attached connection o).group? o.group = some (b.enlisted connection o).1 := by
    rw [group?_attached, if_pos rfl]
  have hmem := group?_mem hfind
  have hsound : (b.attached connection o).Sound := sound_attached hb
  have hnames := hsound.names
  have hdistinct : (b.attached connection o).groups.Nodup :=
    (List.pairwise_map.1 hnames).imp fun hne heq => hne (congrArg Group.name heq)
  rw [flatMap_of_only hdistinct hmem fun g hg hne => ?_]
  · rw [enlisted_name, handed, joined]
    cases b.group? o.group <;> rfl
  · rcases mem_attached_groups hg with rfl | hold
    · exact absurd rfl hne
    · rw [handed_of_mem hb hold, Group.fresh_of_handed]

/-- A delivery that was made can be acknowledged. -/
theorem acknowledge_of_made (b : Broker) {n : Nat} (hmade : n < b.history.nextDelivery) :
    (b.acknowledge n).1 = .ok () := by
  rw [acknowledge]
  split
  next => rfl
  next hnone =>
    rw [History.acknowledge?] at hnone
    split at hnone
    next => cases hnone
    next hleft =>
      split at hnone
      next => cases hnone
      next hbeyond =>
        rw [List.getElem?_eq_none_iff] at hbeyond
        rw [History.nextDelivery] at hmade
        omega

/-- Every operation is entered into the books. -/
theorem recounts_after (hb : b.Sound) (hr : b.history.Recounts made acked blobs) (op : Operation) :
    (b.after op).history.Recounts (made ++ b.handsOut op) (acked ++ b.acknowledges op)
      (blobs ++ b.sent op) := by
  -- operations that enter nothing
  have hquiet : (b.after op).history = b.history → b.handsOut op = [] → b.acknowledges op = [] →
      b.sent op = [] → (b.after op).history.Recounts (made ++ b.handsOut op)
        (acked ++ b.acknowledges op) (blobs ++ b.sent op) := by
    intro hhistory hhands hacks hsent
    rw [hhistory, hhands, hacks, hsent, List.append_nil, List.append_nil, List.append_nil]
    exact hr
  cases op with
  | publish connection m =>
    rcases b.publish_cases connection m with ⟨err, herr⟩ | hok
    · have hsent : b.sent (.publish connection m) = [] := by simp [sent, herr]
      exact hquiet (by rw [after, herr]) (handsOut_eq_nil hb hsent id) rfl hsent
    · have hsent : b.sent (.publish connection m) = [m] := by simp [sent, hok]
      have hacks : b.acknowledges (.publish connection m) = [] := rfl
      rw [hsent, hacks, List.append_nil, handsOut, after, hok]
      exact handsOut_inject hb hr m
  | inject m =>
    have hacks : b.acknowledges (.inject m) = [] := rfl
    rw [hacks, List.append_nil]
    exact handsOut_inject hb hr m
  | subscribe connection o =>
    rcases b.subscribe_cases connection o with ⟨-, -, hjoined⟩ | ⟨issued, -, hsame⟩
    · have hacks : b.acknowledges (.subscribe connection o) = [] := rfl
      have hsent : b.sent (.subscribe connection o) = [] := rfl
      rw [hacks, hsent, List.append_nil, List.append_nil, handsOut, after, hjoined, ← attached,
        handsOut_attached hb]
      exact Group.recounts_offerAll hr
        { b.joined o with members := (b.joined o).members ++ [{ id := b.issued + 1, connection }],
                          backlog := [] } (b.joined o).backlog
    · refine hquiet (by rw [after, hsame]) ?_ rfl rfl
      exact handsOut_of_kept hb (f := id) (fun _ => rfl) (fun _ => rfl) (by rw [after, hsame]; simp)
  | acknowledge delivery =>
    have hhands : b.handsOut (.acknowledge delivery) = [] := handsOut_eq_nil hb rfl id
    have hsent : b.sent (.acknowledge delivery) = [] := rfl
    rw [hhands, hsent, List.append_nil, List.append_nil, after, acknowledges, acknowledge]
    split
    next history hacked => exact hr.acknowledge hacked
    next =>
      rw [List.append_nil]
      exact hr
  | setHistoryLimit limit =>
    have hhands : b.handsOut (.setHistoryLimit limit) = [] := handsOut_eq_nil hb rfl id
    have hacks : b.acknowledges (.setHistoryLimit limit) = [] := rfl
    have hsent : b.sent (.setHistoryLimit limit) = [] := rfl
    rw [hhands, hacks, hsent, List.append_nil, List.append_nil, List.append_nil]
    exact hr.setLimit limit
  | setOffline offline | setMaxPayload limit =>
    exact hquiet rfl (handsOut_eq_nil hb rfl id) rfl rfl
  | connect url =>
    refine hquiet ?_ (handsOut_eq_nil hb rfl id) rfl rfl
    rw [after, connect]
    split <;> rfl
  | next subscription =>
    refine hquiet ?_ (handsOut_eq_nil hb rfl id) rfl rfl
    rw [after, next]
    split <;> rfl
  | unsubscribe subscription | drop subscription =>
    exact hquiet (b.history_changeGroup subscription _) (handsOut_eq_nil hb rfl id) rfl rfl
  | close connection =>
    refine hquiet ?_ (handsOut_eq_nil hb rfl id) rfl rfl
    rw [after, close]
    split <;> rfl

/-- The books of a broker are right if its history recounts what was entered, and nothing that a group
has handed out is missing. -/
structure Books (b : Broker) (made : List (String × Handed)) (acked : List Nat)
    (blobs : List Message) : Prop where
  history : b.history.Recounts made acked blobs
  complete : ∀ g ∈ b.groups, ∀ x ∈ g.handed, (g.name, x) ∈ made

theorem books_empty : Books {} [] [] [] where
  history := ⟨rfl, nofun, rfl, List.suffix_rfl, ⟨Nat.zero_le _, Nat.zero_le _⟩⟩
  complete := nofun

theorem books_after (hb : b.Sound) (h : b.Books made acked blobs) (op : Operation) :
    (b.after op).Books (made ++ b.handsOut op) (acked ++ b.acknowledges op) (blobs ++ b.sent op) where
  history := recounts_after hb h.history op
  complete g hg x hx := by
    obtain ⟨later, hlater⟩ := handed_prefix hb hg
    rw [← hlater] at hx
    rcases List.mem_append.1 hx with hold | hnew
    · refine List.mem_append_left _ ?_
      rw [handed] at hold
      split at hold
      next old hfind =>
        rw [← group?_name hfind]
        exact h.complete old (group?_mem hfind) x hold
      next => cases hold
    · refine List.mem_append_right _ (List.mem_flatMap.2 ⟨g, hg, List.mem_map.2 ⟨x, ?_, rfl⟩⟩)
      rwa [← hlater, List.drop_left]

theorem books_run (hb : b.Sound) (h : b.Books made acked blobs) (ops : List Operation) :
    (b.run ops).Books (made ++ log handsOut b ops) (acked ++ log acknowledges b ops)
      (blobs ++ log sent b ops) := by
  induction ops generalizing b made acked blobs with
  | nil => simpa using h
  | cons op ops ih => simpa [List.append_assoc] using ih (sound_after hb op) (books_after hb h op)

/-- What a reader gets was handed out to it. -/
theorem handsOut_of_read {ops : List Operation} {id : Nat} {d : Delivery}
    (hd : d ∈ log (read id) {} ops) :
    ∃ e ∈ log handsOut {} ops, e.2 = { member := id, delivery := d.number, message := d.message } := by
  obtain ⟨earlier, op, later, rfl, hread⟩ := exists_of_mem_logged hd
  have hbooks := books_run sound_empty books_empty earlier
  cases op with
  | next subscription =>
    rw [read] at hread
    split at hread
    next hid =>
      subst hid
      split at hread
      next d' hnext =>
        obtain rfl := List.mem_singleton.1 hread
        have hincoming := incoming_of_next (Prod.ext hnext rfl)
        obtain ⟨s, -, hs, x, rest, hdrop, rfl⟩ := incoming_eq_delivery hincoming
        have hx : x ∈ (run {} earlier).share s :=
          List.mem_of_mem_drop (hdrop ▸ List.mem_cons_self)
        obtain ⟨g, hg, -, hhanded, hmember⟩ := mem_share hx
        refine ⟨(g.name, x), ?_, by rw [← hs, ← hmember]; rfl⟩
        rw [log, logged_append]
        exact List.mem_append_left _ (hbooks.complete g hg x hhanded)
      all_goals cases hread
    next => cases hread
  | _ => cases hread

/-- Over every run, whatever is read was handed out, all that was handed out is numbered in its order,
and each of these deliveries can be acknowledged at any time. The records that are left are the last of
them, within the limit, each with the count of the acknowledgements of its own delivery; to acknowledge
one that is evicted changes nothing. The blobs that are left are the last that were published. -/
theorem run_acknowledgements (ops : List Operation) :
    let b := run {} ops
    let made := log handsOut {} ops
    let acked := log acknowledges {} ops
    (∀ id, ∀ d ∈ log (read id) {} ops,
      ∃ e ∈ made, e.2 = { member := id, delivery := d.number, message := d.message })
    ∧ made.map (·.2.delivery) = List.range made.length
    ∧ (∀ e ∈ made, (b.acknowledge e.2.delivery).1 = .ok ())
    ∧ b.history.evicted + b.history.deliveries.length = made.length
    ∧ b.history.deliveries = (made.drop b.history.evicted).map (fun e =>
      { subject := e.2.message.subject, group := e.1, acks := acked.count e.2.delivery })
    ∧ b.history.deliveries.length ≤ b.history.limit
    ∧ (∀ n < b.history.evicted, b.acknowledge n = (.ok (), b))
    ∧ b.history.published <:+ log sent {} ops
    ∧ b.history.published.length ≤ b.history.limit := by
  intro b made acked
  have hhistory : b.history.Recounts made acked (log sent {} ops) :=
    (books_run sound_empty books_empty ops).history
  have hlength := hhistory.length_made
  refine ⟨fun id d hd => handsOut_of_read hd, hlength ▸ hhistory.numbers, fun e he => ?_, hlength.symm,
    hhistory.deliveries, hhistory.fits.1, fun n hn => ?_, hhistory.published, hhistory.fits.2⟩
  · have hmade : e.2.delivery ∈ made.map (·.2.delivery) := List.mem_map_of_mem he
    rw [hhistory.numbers, List.mem_range] at hmade
    exact b.acknowledge_of_made hmade
  · rw [acknowledge, History.acknowledge?, if_pos hn]

end Broker
end Waystation
