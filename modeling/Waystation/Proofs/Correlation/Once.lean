import Waystation.Proofs.Correlation.Invariant
/-!
Responses are received once and by the right waiter. Whatever is done with a table, a response goes
to one waiter of the registration it was delivered to, and a registration that is replaced or closed
never gets one.
-/
namespace Waystation.Correlation.Session

variable {α : Type} {s : Session α} {log : List (Waiter × α)} {g : Nat}

/-! Generations whose registration is gone. -/

/-- No registration of a generation stands, and none can be made. -/
def Gone (s : Session α) (g : Nat) : Prop :=
  g < s.table.nextGeneration ∧ ∀ r ∈ s.table.registrations, r.generation ≠ g

theorem Gone.register (h : s.Gone g) (id : String) : (s.after (.register id)).Gone g := by
  refine ⟨Nat.lt_succ_of_lt h.1, fun r hr => ?_⟩
  rcases mem_snoc.1 hr with hold | rfl
  · exact h.2 r (mem_others.1 hold).1
  · exact Nat.ne_of_gt h.1

theorem Gone.release (h : s.Gone g) (w : Waiter) :
    ∀ r ∈ (s.table.release w).registrations, r.generation ≠ g := by
  cases hstands : s.table.stands w with
  | false =>
    rw [release_of_not_stands hstands]
    exact h.2
  | true =>
    obtain ⟨r, hfind, hg⟩ := exists_of_stands hstands
    rw [release_of_find? hfind hg]
    intro r' hr'
    split at hr'
    · exact h.2 r' (mem_others.1 hr').1
    · rcases mem_snoc.1 hr' with hold | rfl
      · exact h.2 r' (mem_others.1 hold).1
      · exact h.2 r (mem_of_find? hfind).1

theorem nextGeneration_release (c : Correlation α) (w : Waiter) :
    (c.release w).nextGeneration = c.nextGeneration := by
  rw [release]
  split
  · split
    · rfl
    · split
      · rfl
      · rfl
  · rfl

theorem Gone.poll (h : s.Gone g) (place : Nat) : (s.after (.poll place)).Gone g := by
  simp only [after, Correlation.poll]
  split
  next w _ =>
    cases s.table.responses.lookup w.generation with
    | some v => exact h
    | none =>
      cases s.table.stands w with
      | true => exact h
      | false => exact h
  next => exact h

theorem gone_after (h : s.Gone g) (op : Operation α) : (s.after op).Gone g := by
  cases op with
  | register id => exact h.register id
  | await id =>
    cases hfind : s.table.find? id with
    | none =>
      have hregister : s.after (.await id) = s.after (.register id) := by
        simp only [after, Correlation.await, hfind]
      rw [hregister]
      exact h.register id
    | some r =>
      simp only [after, Correlation.await, hfind]
      refine ⟨h.1, fun r' hr' => ?_⟩
      rcases mem_snoc.1 hr' with hold | rfl
      · exact h.2 r' (mem_others.1 hold).1
      · exact h.2 r (mem_of_find? hfind).1
  | poll place => exact h.poll place
  | drop place =>
    rw [after]
    split
    next waiter _ =>
      refine ⟨?_, h.release waiter⟩
      rw [nextGeneration_release]
      exact h.1
    next => exact h
  | deliver id v =>
    simp only [after, Correlation.deliver]
    split
    · exact ⟨h.1, fun r hr => h.2 r (mem_others.1 hr).1⟩
    · exact h
  | closeAll => exact ⟨h.1, fun r hr => by cases hr⟩

theorem accepted_of_gone (h : s.Gone g) (op : Operation α) :
    ∀ p ∈ s.accepted op, p.1.generation ≠ g := by
  intro p hp
  cases op with
  | deliver id v =>
    rw [accepted] at hp
    split at hp
    next r hfind =>
      obtain rfl := List.mem_singleton.1 hp
      exact h.2 r (mem_of_find? hfind).1
    next => cases hp
  | register id => cases hp
  | await id => cases hp
  | poll place => cases hp
  | drop place => cases hp
  | closeAll => cases hp

theorem log_of_gone (h : s.Gone g) (ops : List (Operation α)) :
    ∀ p ∈ s.log ops, p.1.generation ≠ g := by
  induction ops generalizing s with
  | nil =>
    intro p hp
    cases hp
  | cons op ops ih =>
    intro p hp
    rcases List.mem_append.1 hp with hfirst | hrest
    · exact accepted_of_gone h op p hfirst
    · exact ih (gone_after h op) p hrest

/-! What deliveries do. -/

/-- A response is accepted exactly if somebody waits at the registration that stands. -/
theorem deliver_iff (hs : s.Sound log) (id : String) (v : α) :
    (s.table.deliver id v).1 = true
      ↔ ∃ x ∈ s.waits, x.isWaiting = true ∧ x.waiter.id = id ∧ s.table.stands x.waiter = true := by
  constructor
  · intro h
    cases hfind : s.table.find? id with
    | none =>
      rw [deliver, hfind] at h
      cases h
    | some r =>
      obtain ⟨hr, rfl⟩ := mem_of_find? hfind
      have hcounted := hs.counted r hr
      have hpos : 0 < waitingFor s.waits r.generation := hcounted.1 ▸ hcounted.2
      obtain ⟨x, hx, hwaits⟩ := List.countP_pos_iff.1 hpos
      obtain ⟨hwaiting, hg⟩ := Bool.and_eq_true_iff.1 hwaits
      have hhold := hs.hold_eq hr (waiter_mem hx) (by simpa using hg)
      refine ⟨x, hx, hwaiting, hhold ▸ rfl, ?_⟩
      rw [← hhold, stands, holdOn, hfind]
      simp
  · rintro ⟨x, -, -, rfl, hstands⟩
    obtain ⟨r, hfind, -⟩ := exists_of_stands hstands
    rw [deliver, hfind]

/-- What is accepted takes its registration away, and what is not changes nothing. -/
theorem deliver_table (c : Correlation α) (id : String) (v : α) :
    ((c.deliver id v).1 = true → (c.deliver id v).2.registrations = c.others id)
      ∧ ((c.deliver id v).1 = false → (c.deliver id v).2 = c) := by
  cases hfind : c.find? id with
  | none =>
    rw [deliver, hfind]
    refine ⟨fun h => ?_, fun _ => rfl⟩
    cases h
  | some r =>
    rw [deliver, hfind]
    refine ⟨fun _ => rfl, fun h => ?_⟩
    cases h

/-- One waiter at most has yielded the response of a generation, and one has if any has yielded. -/
theorem receivers_of_accepted (hs : s.Sound log) {p : Waiter × α} (hp : p ∈ log) :
    receivers s.waits p.1.generation ≤ 1
      ∧ ((∃ x ∈ s.waits, x.waiter.generation = p.1.generation ∧ x.isResolved = true)
        → receivers s.waits p.1.generation = 1) := by
  by_cases hleft : (p.1.generation, p.2) ∈ s.table.responses
  · have hnobody : receivers s.waits p.1.generation = 0 := hs.receivers_eq_zero hleft
    refine ⟨by omega, ?_⟩
    rintro ⟨x, hx, hg, hresolved⟩
    rw [hs.unread _ hleft x hx hg] at hresolved
    cases hresolved
  · have hread := hs.read p hp hleft
    exact ⟨by omega, fun _ => hread⟩

/-! Runs, split at one operation. -/

theorem log_split (before : List (Operation α)) (op : Operation α) (rest : List (Operation α)) :
    Session.log {} (before ++ op :: rest)
      = Session.log {} before
        ++ ((run {} before).accepted op ++ ((run {} before).after op).log rest) := by
  rw [Session.log, logged_append]
  rfl

theorem mem_log_of_deliver {before : List (Operation α)} {id : String} {r : Registration}
    (hfind : (run {} before).table.find? id = some r) (v : α) (rest : List (Operation α)) :
    ({ id, generation := r.generation }, v)
      ∈ Session.log {} (before ++ .deliver id v :: rest) := by
  have haccepted : (run {} before).accepted (.deliver id v)
      = [({ id, generation := r.generation }, v)] := by
    rw [accepted, hfind]
  rw [log_split, haccepted]
  simp

/-- Registering a request again or closing the table takes a registration away for good. -/
theorem gone_of_turned_away (hs : s.Sound log) {r : Registration}
    (hr : r ∈ s.table.registrations) {op : Operation α}
    (hop : op = .register r.id ∨ op = .closeAll) :
    s.accepted op = [] ∧ (s.after op).Gone r.generation := by
  have hbelow : r.generation < s.table.nextGeneration :=
    hs.below (holdOn r) (hold_mem hr)
  rcases hop with rfl | rfl
  · refine ⟨rfl, Nat.lt_succ_of_lt hbelow, fun r' hr' => ?_⟩
    rcases mem_snoc.1 hr' with hold | rfl
    · exact hs.others_generation hr hold
    · exact Nat.ne_of_gt hbelow
  · exact ⟨rfl, hbelow, fun r' hr' => by cases hr'⟩

/-- Over every run a response is accepted exactly while somebody waits at its registration. It goes
to one waiter of that very registration, if any of them yields at all; waiters of a registration
that was replaced or closed yield none, and no waiter yields a response that was not delivered to
its own registration. -/
theorem run_responses (ops : List (Operation α)) :
    (∀ id v,
      (((run {} ops).table.deliver id v).1 = true
        ↔ ∃ x ∈ (run {} ops).waits, x.isWaiting = true ∧ x.waiter.id = id
          ∧ (run {} ops).table.stands x.waiter = true)
      ∧ (((run {} ops).table.deliver id v).1 = true
        → ((run {} ops).table.deliver id v).2.registrations = (run {} ops).table.others id)
      ∧ (((run {} ops).table.deliver id v).1 = false
        → ((run {} ops).table.deliver id v).2 = (run {} ops).table))
    ∧ (∀ before id v rest r, ops = before ++ .deliver id v :: rest →
      (run {} before).table.find? id = some r →
        (∀ x ∈ (run {} ops).waits, x.waiter.generation = r.generation →
          x.waiter.id = id ∧ ∀ u, x.received = some u → u = v)
        ∧ receivers (run {} ops).waits r.generation ≤ 1
        ∧ ((∃ x ∈ (run {} ops).waits, x.waiter.generation = r.generation ∧ x.isResolved = true)
          → receivers (run {} ops).waits r.generation = 1))
    ∧ (∀ before op rest r, ops = before ++ op :: rest →
      r ∈ (run {} before).table.registrations → (op = .register r.id ∨ op = .closeAll) →
        ∀ x ∈ (run {} ops).waits, x.waiter.generation = r.generation → x.received = none)
    ∧ (∀ x ∈ (run {} ops).waits, ∀ v, x.received = some v →
      ∃ before rest r, ops = before ++ .deliver x.waiter.id v :: rest
        ∧ (run {} before).table.find? x.waiter.id = some r
        ∧ r.generation = x.waiter.generation)
    ∧ ∀ x ∈ (run {} ops).waits, x.waiter.generation < (run {} ops).table.nextGeneration := by
  have hs := sound_run ops
  refine ⟨?_, ?_, ?_, ?_, ?_⟩
  · intro id v
    have htable := deliver_table (run {} ops).table id v
    exact ⟨deliver_iff hs id v, htable.1, htable.2⟩
  · rintro before id v rest r rfl hfind
    have hp := mem_log_of_deliver hfind v rest
    refine ⟨fun x hx hg => ?_, receivers_of_accepted hs hp⟩
    have hhold := hs.own _ (waiter_mem hx) _ (accepted_mem hp) hg
    refine ⟨congrArg Waiter.id hhold, fun u hu => ?_⟩
    have hsame := eq_of_nodup_map hs.once (hs.values x hx u hu) hp hg
    exact congrArg Prod.snd hsame
  · rintro before op rest r rfl hr hop x hx hg
    have hbefore := sound_run before
    obtain ⟨hnothing, hgone⟩ := gone_of_turned_away hbefore hr hop
    cases hreceived : x.received with
    | none => rfl
    | some v =>
      have hp := hs.values x hx v hreceived
      rw [log_split, hnothing, List.nil_append] at hp
      rcases List.mem_append.1 hp with hold | hlater
      · exact absurd hg.symm (hbefore.served _ hold r hr)
      · exact absurd hg (log_of_gone hgone rest _ hlater)
  · intro x hx v hv
    obtain ⟨before, op, rest, rfl, hp⟩ := exists_of_mem_logged (hs.values x hx v hv)
    cases op with
    | deliver id v' =>
      rw [accepted] at hp
      split at hp
      next r hfind =>
        obtain ⟨hwaiter, rfl⟩ := Prod.mk.inj (List.mem_singleton.1 hp)
        rw [hwaiter]
        exact ⟨before, rest, r, rfl, hfind, rfl⟩
      next => cases hp
    | register id => cases hp
    | await id => cases hp
    | poll place => cases hp
    | drop place => cases hp
    | closeAll => cases hp
  · exact fun x hx => hs.below _ (waiter_mem hx)

end Waystation.Correlation.Session
