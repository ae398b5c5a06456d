import Waystation.Proofs.Correlation.Once
/-!
The first response counts. A waiter that registered a request receives the first response delivered
to the request afterwards, unless the request is registered again, joined or closed before, or the
waiter is dropped; whatever else is done with the table does not matter to it.
-/
namespace Waystation.Correlation

variable {α : Type} {c : Correlation α} {w : Waiter} {id : String}

/-! What operations on other requests leave as it was. -/

theorem find?_others (c : Correlation α) {id other : String} (h : other ≠ id) :
    (c.others id).find? (·.id = other) = c.find? other := by
  rw [others, List.find?_filter, find?]
  congr 1
  funext r
  by_cases hr : r.id = other
  · simp [hr, h]
  · simp [hr]

theorem find?_replace (c : Correlation α) {id other : String} (h : other ≠ id) {r : Registration}
    (hr : r.id = id) : (c.others id ++ [r]).find? (·.id = other) = c.find? other := by
  rw [List.find?_append, find?_others c h, List.find?_cons_of_neg (by simp [hr, Ne.symm h])]
  cases c.find? other <;> rfl

theorem find?_register (c : Correlation α) {id other : String} (h : other ≠ id) :
    (c.register id).2.find? other = c.find? other :=
  find?_replace c h rfl

theorem find?_await (c : Correlation α) {id other : String} (h : other ≠ id) :
    (c.await id).2.find? other = c.find? other := by
  rw [await]
  split
  next r hfind => exact find?_replace c h (mem_of_find? hfind).2
  next => exact find?_register c h

theorem find?_deliver (c : Correlation α) {id other : String} (h : other ≠ id) (v : α) :
    (c.deliver id v).2.find? other = c.find? other := by
  rw [deliver]
  split
  · exact find?_others c h
  · rfl

/-- A waiter of another generation gives up nothing that a waiter holds. -/
theorem find?_release (c : Correlation α) {w other : Waiter} (hstands : c.stands w = true)
    (hg : other.generation ≠ w.generation) :
    (c.release other).find? w.id = c.find? w.id := by
  obtain ⟨r, hfind, hr⟩ := exists_of_stands hstands
  by_cases hid : w.id = other.id
  · rw [release, ← hid, hfind]
    simp only [hr, ne_eq, Ne.symm hg, not_false_eq_true, if_true]
    exact hfind
  · rw [release]
    split
    next r' hfind' =>
      split
      · rfl
      · split
        · exact find?_others c hid
        · exact find?_replace c hid (mem_of_find? hfind').2
    next => rfl

theorem responses_await (c : Correlation α) (id : String) :
    (c.await id).2.responses = c.responses := by
  rw [await]
  split <;> rfl

theorem responses_release (c : Correlation α) (w : Waiter) :
    (c.release w).responses = c.responses := by
  rw [release]
  split
  · split
    · rfl
    · split <;> rfl
  · rfl

theorem stands_of_find?_eq {c' : Correlation α} (h : c'.find? w.id = c.find? w.id) :
    c'.stands w = c.stands w := by
  rw [stands, stands, h]

namespace Session

/-- The response that an operation delivers to a request. -/
def Operation.response? (id : String) : Operation α → Option α
  | .deliver other v => if other = id then some v else none
  | _ => none

/-- An operation that registers a request or joins it, closes the table, or drops the waiter at a
place. -/
def Operation.Ends (id : String) (place : Nat) (op : Operation α) : Prop :=
  op = .register id ∨ op = .await id ∨ op = .closeAll ∨ op = .drop place

variable {s : Session α} {log : List (Waiter × α)} {place : Nat}

/-- The waiter at a place is the only one of its generation. -/
def Alone (s : Session α) (place : Nat) (w : Waiter) : Prop :=
  ∀ other x, s.waits[other]? = some x → x.waiter.generation = w.generation → other = place

/-- A waiter is the only one of its registration, which stands and has got no response. -/
structure Awaits (s : Session α) (place : Nat) (w : Waiter) : Prop where
  waiting : s.waits[place]? = some ⟨w, .waiting⟩
  alone : s.Alone place w
  stands : s.table.stands w = true
  unread : ∀ p ∈ s.table.responses, p.1 ≠ w.generation

/-- A waiter has received a response or will do so when it is polled. -/
structure Served (s : Session α) (place : Nat) (w : Waiter) (v : α) : Prop where
  alone : s.Alone place w
  gone : s.Gone w.generation
  served : s.waits[place]? = some ⟨w, .resolved (some v)⟩
    ∨ s.waits[place]? = some ⟨w, .waiting⟩ ∧ s.table.responses.lookup w.generation = some v

/-! Waiters that come and waiters that change. -/

theorem Alone.join (h : s.Alone place w) {x : Wait α}
    (hx : x.waiter.generation ≠ w.generation) {table : Correlation α} :
    Alone { table, waits := s.waits ++ [x] } place w := by
  intro other y hy hg
  rw [List.getElem?_append] at hy
  split at hy
  · exact h other y hy hg
  · have hlast : y = x := by
      have hmem := List.mem_of_getElem? hy
      exact List.mem_singleton.1 hmem
    exact absurd (hlast ▸ hg) hx

theorem Alone.set (h : s.Alone place w) {other : Nat} {x : Waiter} {fate fate' : Fate α}
    (hother : s.waits[other]? = some ⟨x, fate⟩) {table : Correlation α} :
    Alone { table, waits := s.waits.set other ⟨x, fate'⟩ } place w := by
  intro third y hy hg
  rw [List.getElem?_set] at hy
  split at hy
  next hsame =>
    split at hy
    · obtain rfl := Option.some.inj hy
      exact hsame ▸ h other _ hother hg
    · cases hy
  next => exact h third y hy hg

theorem getElem?_join {x y : Wait α} (h : s.waits[place]? = some x) :
    (s.waits ++ [y])[place]? = some x := by
  rw [List.getElem?_append_left (List.getElem?_eq_some_iff.1 h).1, h]

theorem getElem?_set_other {other : Nat} {x y : Wait α} (h : s.waits[place]? = some x)
    (hne : other ≠ place) : (s.waits.set other y)[place]? = some x := by
  rw [List.getElem?_set_ne hne, h]

/-! While nothing was delivered. -/

theorem Awaits.lookup (h : s.Awaits place w) : s.table.responses.lookup w.generation = none := by
  refine List.lookup_eq_none_iff.2 fun p hp => ?_
  simpa using Ne.symm (h.unread p hp)

/-- The registration of another request is of another generation. -/
theorem Awaits.generation_ne (hs : s.Sound log) (h : s.Awaits place w) {r : Registration}
    (hr : r ∈ s.table.registrations) (hid : r.id ≠ w.id) : r.generation ≠ w.generation := by
  intro hg
  have hhold := hs.hold_eq hr (waiter_mem (List.mem_of_getElem? h.waiting)) hg.symm
  exact hid (congrArg Waiter.id hhold)

theorem Awaits.below (hs : s.Sound log) (h : s.Awaits place w) :
    w.generation < s.table.nextGeneration :=
  hs.below w (waiter_mem (List.mem_of_getElem? h.waiting))

theorem Awaits.register (hs : s.Sound log) (h : s.Awaits place w) (hid : w.id ≠ id) :
    (s.after (.register id)).Awaits place w where
  waiting := getElem?_join h.waiting
  alone := h.alone.join (Nat.ne_of_gt (h.below hs))
  stands := (stands_of_find?_eq (find?_register s.table hid)).trans h.stands
  unread := h.unread

theorem Awaits.await (hs : s.Sound log) (h : s.Awaits place w) (hid : w.id ≠ id) :
    (s.after (.await id)).Awaits place w := by
  have hstands := (stands_of_find?_eq (find?_await s.table hid)).trans h.stands
  cases hfind : s.table.find? id with
  | none =>
    have hregister : s.after (.await id) = s.after (.register id) := by
      simp only [after, Correlation.await, hfind]
    rw [hregister]
    exact h.register hs hid
  | some r =>
    obtain ⟨hr, hrid⟩ := mem_of_find? hfind
    have hg := h.generation_ne hs hr (hrid ▸ Ne.symm hid)
    simp only [Correlation.await, hfind] at hstands
    simp only [after, Correlation.await, hfind]
    exact ⟨getElem?_join h.waiting, h.alone.join hg, hstands, h.unread⟩

theorem Awaits.poll (h : s.Awaits place w) (other : Nat) :
    (s.after (.poll other)).Awaits place w := by
  simp only [after]
  split
  next x hother =>
    by_cases hsame : other = place
    · obtain rfl : x = w :=
        congrArg Wait.waiter (Option.some.inj (hother.symm.trans (hsame ▸ h.waiting)))
      simp only [Correlation.poll, h.lookup, h.stands]
      exact h
    · simp only [Correlation.poll]
      cases s.table.responses.lookup x.generation with
      | some v =>
        refine ⟨getElem?_set_other h.waiting hsame, h.alone.set hother, h.stands, fun p hp => ?_⟩
        exact h.unread p (List.mem_filter.1 hp).1
      | none =>
        cases s.table.stands x with
        | true => exact h
        | false =>
          exact ⟨getElem?_set_other h.waiting hsame, h.alone.set hother, h.stands, h.unread⟩
  next => exact h

theorem Awaits.drop (h : s.Awaits place w) {other : Nat} (hother : other ≠ place) :
    (s.after (.drop other)).Awaits place w := by
  simp only [after]
  split
  next x hx =>
    have hg : x.generation ≠ w.generation := fun hg => hother (h.alone other _ hx hg)
    refine ⟨getElem?_set_other h.waiting hother, h.alone.set hx, ?_, ?_⟩
    · exact (stands_of_find?_eq (find?_release s.table h.stands hg)).trans h.stands
    · rw [responses_release]
      exact h.unread
  next => exact h

theorem Awaits.deliver_other (hs : s.Sound log) (h : s.Awaits place w) (hid : w.id ≠ id) (v : α) :
    (s.after (.deliver id v)).Awaits place w := by
  have hstands := (stands_of_find?_eq (find?_deliver s.table hid v)).trans h.stands
  refine ⟨h.waiting, h.alone, hstands, ?_⟩
  simp only [after, deliver]
  split
  next r hfind =>
    obtain ⟨hr, hrid⟩ := mem_of_find? hfind
    intro p hp
    rcases mem_snoc.1 hp with hold | rfl
    · exact h.unread p hold
    · exact h.generation_ne hs hr (hrid ▸ Ne.symm hid)
  next => exact h.unread

/-- What is delivered to a request is there for its waiter, and the registration is gone. -/
theorem Awaits.deliver (hs : s.Sound log) (h : s.Awaits place w) (v : α) :
    (s.after (.deliver w.id v)).Served place w v := by
  obtain ⟨r, hfind, hg⟩ := exists_of_stands h.stands
  obtain ⟨hr, hid⟩ := mem_of_find? hfind
  have hbelow := h.below hs
  simp only [after, Correlation.deliver, hfind]
  refine ⟨h.alone, ⟨hbelow, fun r' hr' => ?_⟩, .inr ⟨h.waiting, ?_⟩⟩
  · rw [← hid] at hr'
    exact hg ▸ hs.others_generation hr hr'
  · simp only [List.lookup_append, h.lookup, hg, List.lookup_cons_self]
    rfl

/-! When something was delivered. -/

theorem Served.keep {v : α} (h : s.Served place w v) {s' : Session α} (halone : s'.Alone place w)
    (hgone : s'.Gone w.generation) (hwaits : ∀ x, s.waits[place]? = some x → s'.waits[place]? = some x)
    (hlookup : s.table.responses.lookup w.generation = some v →
      s'.table.responses.lookup w.generation = some v) : s'.Served place w v where
  alone := halone
  gone := hgone
  served := h.served.imp (hwaits _) fun hwaiting => ⟨hwaits _ hwaiting.1, hlookup hwaiting.2⟩

theorem lookup_filter_generation {responses : List (Nat × α)} {g g' : Nat} (h : g ≠ g') :
    (responses.filter (·.1 ≠ g')).lookup g = responses.lookup g := by
  induction responses with
  | nil => rfl
  | cons p responses ih =>
    by_cases hp : p.1 = g'
    · rw [List.filter_cons_of_neg (by simpa using hp), ih, List.lookup_cons]
      have hne : (g == p.1) = false := by simpa [hp] using h
      simp only [hne]
    · rw [List.filter_cons_of_pos (by simpa using hp), List.lookup_cons, List.lookup_cons, ih]

/-- Whoever polls, a waiter that holds a response keeps it until it yields it. -/
theorem Served.after_poll {v : α} (h : s.Served place w v) (other : Nat) :
    (s.after (.poll other)).Served place w v := by
  have hgone := gone_after h.gone (.poll other)
  simp only [after] at hgone ⊢
  split
  next x hother =>
    by_cases hsame : other = place
    · subst hsame
      rcases h.served with hresolved | ⟨hwaiting, hlookup⟩
      · cases hother.symm.trans hresolved
      · obtain rfl : x = w := congrArg Wait.waiter (Option.some.inj (hother.symm.trans hwaiting))
        rw [hother] at hgone
        simp only [Correlation.poll, hlookup] at hgone ⊢
        exact ⟨h.alone.set hother, hgone, .inl (List.getElem?_set_self' ▸ by rw [hwaiting]; rfl)⟩
    · rw [hother] at hgone
      have hg : w.generation ≠ x.generation := fun hg => hsame (h.alone other _ hother hg.symm)
      simp only [Correlation.poll] at hgone ⊢
      cases hx : s.table.responses.lookup x.generation with
      | some u =>
        simp only [hx] at hgone ⊢
        refine h.keep (h.alone.set hother) hgone (fun _ hy => getElem?_set_other hy hsame)
          fun hlookup => ?_
        exact (lookup_filter_generation hg).trans hlookup
      | none =>
        simp only [hx] at hgone ⊢
        cases hstands : s.table.stands x with
        | true => exact h
        | false =>
          simp only [hstands] at hgone ⊢
          exact h.keep (h.alone.set hother) hgone (fun _ hy => getElem?_set_other hy hsame)
            fun hv => hv
  next => exact h

/-- A waiter that holds a response keeps it until it yields it. -/
theorem Served.after_op {v : α} (h : s.Served place w v) {op : Operation α}
    (hdrop : op ≠ .drop place) : (s.after op).Served place w v := by
  have hgone := gone_after h.gone op
  cases op with
  | register id =>
    exact h.keep (h.alone.join (Nat.ne_of_gt h.gone.1)) hgone (fun _ => getElem?_join) fun hv => hv
  | await id =>
    have hg : (s.table.await id).1.generation ≠ w.generation := by
      rw [Correlation.await]
      split
      next r hfind => exact h.gone.2 r (mem_of_find? hfind).1
      next => exact Nat.ne_of_gt h.gone.1
    refine h.keep (h.alone.join hg) hgone (fun _ => getElem?_join) fun hlookup => ?_
    simpa only [after, responses_await] using hlookup
  | poll other => exact h.after_poll other
  | drop other =>
    have hne : other ≠ place := fun hsame => hdrop (hsame ▸ rfl)
    simp only [after] at hgone ⊢
    split
    next x hother =>
      rw [hother] at hgone
      refine h.keep (h.alone.set hother) hgone (fun _ hy => getElem?_set_other hy hne) fun hlookup => ?_
      simpa only [responses_release] using hlookup
    next => exact h
  | deliver id v' =>
    refine h.keep h.alone hgone (fun _ hx => hx) fun hlookup => ?_
    simp only [after, Correlation.deliver]
    split
    · rw [List.lookup_append, hlookup]
      rfl
    · exact hlookup
  | closeAll => exact h.keep h.alone hgone (fun _ hx => hx) fun hv => hv

/-! Waiters of other registrations. -/

/-- A response changes what a waiter finds only if it is for the registration of the waiter. -/
theorem poll_deliver_other (hs : s.Sound log) {x : Wait α} (hx : x ∈ s.waits) {v : α}
    (hother : ¬(x.waiter.id = id ∧ s.table.stands x.waiter = true)) :
    ((s.table.deliver id v).2.poll x.waiter).1 = (s.table.poll x.waiter).1 := by
  cases hfind : s.table.find? id with
  | none => rw [deliver, hfind]
  | some r =>
    obtain ⟨hr, hid⟩ := mem_of_find? hfind
    have hgeneration : r.generation ≠ x.waiter.generation := by
      intro hg
      have hhold := hs.hold_eq hr (waiter_mem hx) hg.symm
      refine hother ⟨hhold ▸ hid, ?_⟩
      rw [← hhold, stands, holdOn, hid, hfind]
      simp
    have hlookup : (s.table.responses ++ [(r.generation, v)]).lookup x.waiter.generation
        = s.table.responses.lookup x.waiter.generation := by
      have hne : (x.waiter.generation == r.generation) = false := by
        simpa using Ne.symm hgeneration
      rw [List.lookup_append, List.lookup_cons, hne, List.lookup_nil, Option.or_none]
    have hstands : (s.table.deliver id v).2.stands x.waiter = s.table.stands x.waiter := by
      by_cases hsame : x.waiter.id = id
      · have hgone : (s.table.deliver id v).2.stands x.waiter ≠ true := by
          intro hstands
          obtain ⟨r', hfind', -⟩ := exists_of_stands hstands
          obtain ⟨hr', hid'⟩ := mem_of_find? hfind'
          rw [deliver, hfind] at hr'
          exact (mem_others.1 hr').2 (hid'.trans hsame)
        rw [Bool.eq_false_iff.2 hgone, Bool.eq_false_iff.2 fun h => hother ⟨hsame, h⟩]
      · exact stands_of_find?_eq (find?_deliver s.table hsame v)
    rw [Correlation.poll, Correlation.poll, hstands]
    simp only [deliver, hfind, hlookup]
    cases s.table.responses.lookup x.waiter.generation <;> rfl

/-! Whole runs. -/

/-- What has become of a waiter that polls, given the first response delivered to its request. -/
def fateOf : Option α → Fate α
  | some v => .resolved (some v)
  | none => .waiting

theorem awaits_register (hs : s.Sound log) (id : String) :
    (s.after (.register id)).Awaits s.waits.length { id, generation := s.table.nextGeneration } := by
  have hfind : (s.table.register id).2.find? id
      = some { id, generation := s.table.nextGeneration, waiters := 1 } := by
    have hothers : (s.table.others id).find? (·.id = id) = none :=
      List.find?_eq_none.2 fun r hr => by simpa using (mem_others.1 hr).2
    rw [Correlation.register, find?, List.find?_append, hothers]
    simp
  have hbelow : ∀ x ∈ s.waits, x.waiter.generation < s.table.nextGeneration :=
    fun x hx => hs.below _ (waiter_mem hx)
  refine ⟨by simp [after, Correlation.register], fun other x hx hg => ?_, ?_, fun p hp hg => ?_⟩
  · rw [after, List.getElem?_append] at hx
    split at hx
    · exact absurd hg (Nat.ne_of_lt (hbelow x (List.mem_of_getElem? hx)))
    · have hlength := (List.getElem?_eq_some_iff.1 hx).1
      simp only [List.length_singleton] at hlength
      omega
  · simp only [after, stands, hfind, decide_true]
  · obtain ⟨q, hq, rfl⟩ := List.mem_map.1 (hs.kept.subset hp)
    exact Nat.ne_of_lt (hs.below _ (accepted_mem hq)) hg

theorem Served.poll {v : α} (h : s.Served place w v) :
    (s.after (.poll place)).waits[place]? = some ⟨w, .resolved (some v)⟩ := by
  rcases h.served with hresolved | ⟨hwaiting, hlookup⟩
  · simp only [after, hresolved]
  · simp only [after, hwaiting, Correlation.poll, hlookup, List.getElem?_set_self',
      Option.map_eq_map, Option.map_some]
    rfl

theorem Served.run {v : α} (h : s.Served place w v) {ops : List (Operation α)}
    (hops : ∀ op ∈ ops, op ≠ .drop place) : (s.run ops).Served place w v := by
  induction ops generalizing s with
  | nil => exact h
  | cons op ops ih =>
    obtain ⟨hop, hrest⟩ := List.forall_mem_cons.1 hops
    exact ih (h.after_op hop) hrest

/-- One operation that does not end the wait delivers a response to it or leaves it waiting. -/
theorem Awaits.after_op (hs : s.Sound log) (h : s.Awaits place w) {op : Operation α}
    (hop : ¬op.Ends w.id place) :
    match op.response? w.id with
    | some v => (s.after op).Served place w v
    | none => (s.after op).Awaits place w := by
  cases op with
  | register id => exact h.register hs fun hid => hop (.inl (hid ▸ rfl))
  | await id => exact h.await hs fun hid => hop (.inr (.inl (hid ▸ rfl)))
  | poll other => exact h.poll other
  | drop other => exact h.drop fun hother => hop (.inr (.inr (.inr (hother ▸ rfl))))
  | closeAll => exact absurd (.inr (.inr (.inl rfl))) hop
  | deliver id v =>
    by_cases hid : id = w.id
    · subst hid
      simp only [Operation.response?, if_true]
      exact h.deliver hs v
    · simp only [Operation.response?, if_neg hid]
      exact h.deliver_other hs (Ne.symm hid) v

theorem Awaits.run (hs : s.Sound log) (h : s.Awaits place w) {ops : List (Operation α)}
    (hops : ∀ op ∈ ops, ¬op.Ends w.id place) :
    match ops.findSome? (·.response? w.id) with
    | some v => (s.run ops).Served place w v
    | none => (s.run ops).Awaits place w := by
  induction ops generalizing s log with
  | nil => exact h
  | cons op ops ih =>
    obtain ⟨hop, hrest⟩ := List.forall_mem_cons.1 hops
    have hafter := h.after_op hs hop
    rw [List.findSome?_cons]
    cases hresponse : op.response? w.id with
    | some v =>
      rw [hresponse] at hafter
      refine Served.run hafter fun other hother hdrop => hrest other hother ?_
      exact .inr (.inr (.inr hdrop))
    | none =>
      rw [hresponse] at hafter
      exact ih (sound_after s log op hs) hafter hrest

/-- A waiter that polls after a run has received the first response delivered to its request since
it registered, and waits on if there was none. -/
theorem fate_after_register (hs : s.Sound log) (id : String) {ops : List (Operation α)}
    (hops : ∀ op ∈ ops, ¬op.Ends id s.waits.length) :
    ((((s.after (.register id)).run ops).after (.poll s.waits.length)).waits[s.waits.length]?)
      = some ⟨{ id, generation := s.table.nextGeneration }, fateOf (ops.findSome? (·.response? id))⟩ := by
  have hrun := (awaits_register hs id).run (sound_after s log (.register id) hs) hops
  cases hfirst : ops.findSome? (·.response? id) with
  | some v =>
    simp only [hfirst] at hrun
    exact hrun.poll
  | none =>
    simp only [hfirst] at hrun
    exact (hrun.poll s.waits.length).waiting

end Session
end Waystation.Correlation
