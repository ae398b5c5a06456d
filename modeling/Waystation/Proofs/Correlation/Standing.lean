import Waystation.Proofs.Correlation.First
/-!
How waiters lose their registration. Whoever waits at a registration that stands goes on doing so
unless it is dropped itself: only a response to the request, another registration of it and the
closing of the table take the registration away, whatever else is done and whoever else is dropped.
-/
namespace Waystation.Correlation

variable {α : Type} {c : Correlation α} {w : Waiter}

theorem stands_replace {r : Registration} (hid : r.id = w.id) (hg : r.generation = w.generation) :
    stands { c with registrations := c.others w.id ++ [r] } w = true := by
  have hnone : (c.others w.id).find? (·.id = w.id) = none := by
    simp [others, List.find?_eq_none]
  rw [stands, find?, List.find?_append, hnone]
  simp [hid, hg]

/-- Joining those who wait leaves their registration standing. -/
theorem stands_await (h : c.stands w = true) (id : String) : (c.await id).2.stands w = true := by
  by_cases hid : w.id = id
  · obtain ⟨r, hfind, hg⟩ := exists_of_stands h
    obtain ⟨-, hrid⟩ := mem_of_find? hfind
    subst hid
    rw [await, hfind]
    exact stands_replace hrid hg
  · rw [stands_of_find?_eq (find?_await c hid), h]

namespace Session

variable {s : Session α} {log : List (Waiter × α)} {place : Nat}

/-- Somebody waits at a registration that stands. -/
structure Holds (s : Session α) (place : Nat) (w : Waiter) : Prop where
  waiting : s.waits[place]? = some ⟨w, .waiting⟩
  stands : s.table.stands w = true

/-- An operation that takes the registration of a request away from all who wait at it. -/
def Operation.Frees (id : String) (op : Operation α) : Prop :=
  op = .closeAll ∨ op = .register id ∨ ∃ v, op = .deliver id v

/-! What a waiter holds on to. -/

/-- No response is there for a registration that stands. -/
theorem Holds.lookup (hs : s.Sound log) (h : s.Holds place w) :
    s.table.responses.lookup w.generation = none := by
  obtain ⟨r, hfind, hg⟩ := exists_of_stands h.stands
  refine List.lookup_eq_none_iff.2 fun p hp => ?_
  obtain ⟨q, hq, rfl⟩ := List.mem_map.1 (hs.kept.subset hp)
  have hserved := hs.served q hq r (mem_of_find? hfind).1
  rw [hg] at hserved
  simpa using hserved

theorem Holds.poll (hs : s.Sound log) (h : s.Holds place w) (other : Nat) :
    (s.after (.poll other)).Holds place w := by
  simp only [after]
  split
  next x hother =>
    by_cases hsame : other = place
    · have hx : x = w :=
        congrArg Wait.waiter (Option.some.inj (hother.symm.trans (hsame ▸ h.waiting)))
      simp only [hx, Correlation.poll, h.lookup hs, h.stands]
      exact h
    · have hwaiting : ∀ y, (s.waits.set other y)[place]? = some ⟨w, .waiting⟩ :=
        fun _ => getElem?_set_other h.waiting hsame
      simp only [Correlation.poll]
      cases s.table.responses.lookup x.generation with
      | some v => exact ⟨hwaiting _, h.stands⟩
      | none =>
        cases s.table.stands x with
        | true => exact h
        | false => exact ⟨hwaiting _, h.stands⟩
  next => exact h

/-- A registration that others wait at, too, outlasts one of its waiters. -/
theorem Holds.drop_other (hs : s.Sound log) (h : s.Holds place w) {other : Nat}
    (hne : other ≠ place) : (s.after (.drop other)).Holds place w := by
  simp only [after]
  split
  next x hother =>
    have hwaiting : (s.waits.set other ⟨x, .dropped⟩)[place]? = some ⟨w, .waiting⟩ :=
      getElem?_set_other h.waiting hne
    refine ⟨hwaiting, ?_⟩
    by_cases hg : x.generation = w.generation
    · obtain rfl : x = w := hs.own _ (waiter_mem (List.mem_of_getElem? hother)) _
        (waiter_mem (List.mem_of_getElem? h.waiting)) hg
      obtain ⟨r, hfind, hr⟩ := exists_of_stands h.stands
      obtain ⟨hmem, hrid⟩ := mem_of_find? hfind
      have hcounted := hs.counted r hmem
      have hcount : waitingFor (s.waits.set other ⟨x, .dropped⟩) r.generation
          + (if x.generation = r.generation then 1 else 0) = waitingFor s.waits r.generation :=
        waitingFor_end hother rfl r.generation
      have hleft : 0 < waitingFor (s.waits.set other ⟨x, .dropped⟩) r.generation :=
        List.countP_pos_iff.2 ⟨_, List.mem_of_getElem? hwaiting, by simp [Wait.isWaiting, hr]⟩
      rw [if_pos hr.symm] at hcount
      rw [release_of_find? hfind hr, if_neg (by omega)]
      exact stands_replace hrid hr
    · rw [stands_of_find?_eq (find?_release s.table h.stands hg), h.stands]
  next => exact h

/-- Over an operation a waiter goes on waiting at its registration, or is dropped, unless the
operation takes the registration away. -/
theorem Holds.after (hs : s.Sound log) (h : s.Holds place w) (op : Operation α) :
    (s.after op).Holds place w ∨ (s.after op).waits[place]? = some ⟨w, .dropped⟩
      ∨ op.Frees w.id := by
  cases op with
  | register id =>
    by_cases hid : w.id = id
    · exact .inr (.inr (.inr (.inl (by rw [hid]))))
    · exact .inl ⟨getElem?_join h.waiting,
        (stands_of_find?_eq (find?_register s.table hid)).trans h.stands⟩
  | await id => exact .inl ⟨getElem?_join h.waiting, stands_await h.stands id⟩
  | poll other => exact .inl (h.poll hs other)
  | drop other =>
    by_cases hsame : other = place
    · have hlt := (List.getElem?_eq_some_iff.1 h.waiting).1
      refine .inr (.inl ?_)
      simp only [Session.after, hsame, h.waiting]
      exact List.getElem?_set_self hlt
    · exact .inl (h.drop_other hs hsame)
  | deliver id v =>
    by_cases hid : w.id = id
    · exact .inr (.inr (.inr (.inr ⟨v, by rw [hid]⟩)))
    · exact .inl ⟨h.waiting, (stands_of_find?_eq (find?_deliver s.table hid v)).trans h.stands⟩
  | closeAll => exact .inr (.inr (.inl rfl))

/-! Where waiters come from. -/

theorem stands_register (c : Correlation α) (id : String) :
    (c.register id).2.stands (c.register id).1 = true :=
  stands_replace (c := { c with nextGeneration := c.nextGeneration + 1 }) rfl rfl

theorem stands_joined (c : Correlation α) (id : String) :
    (c.await id).2.stands (c.await id).1 = true := by
  rw [await]
  split
  next r hfind =>
    obtain ⟨-, rfl⟩ := mem_of_find? hfind
    exact stands_replace rfl rfl
  next => exact stands_register c id

/-- An operation adds a waiter at a registration that stands, changes nobody, or ends somebody's
wait. -/
theorem waits_after (s : Session α) (op : Operation α) :
    (∃ w, (s.after op).waits = s.waits ++ [{ waiter := w }]
        ∧ (s.after op).table.stands w = true)
      ∨ (s.after op).waits = s.waits
      ∨ ∃ place w fate, s.waits[place]? = some ⟨w, .waiting⟩
        ∧ (s.after op).waits = s.waits.set place ⟨w, fate⟩ := by
  cases op with
  | register id => exact .inl ⟨_, rfl, stands_register s.table id⟩
  | await id => exact .inl ⟨_, rfl, stands_joined s.table id⟩
  | poll place =>
    simp only [after]
    split
    next w hplace =>
      split
      · exact .inr (.inr ⟨place, w, _, hplace, rfl⟩)
      · exact .inr (.inl rfl)
    next => exact .inr (.inl rfl)
  | drop place =>
    simp only [after]
    split
    next w hplace => exact .inr (.inr ⟨place, w, _, hplace, rfl⟩)
    next => exact .inr (.inl rfl)
  | deliver id v => exact .inr (.inl rfl)
  | closeAll => exact .inr (.inl rfl)

/-- Whoever is at a place was there before, unchanged or waiting, or is new and waits at a registration
that stands. -/
theorem getElem?_of_after {op : Operation α} {x : Wait α}
    (hx : (s.after op).waits[place]? = some x) :
    s.waits[place]? = some x ∨ s.waits[place]? = some ⟨x.waiter, .waiting⟩
      ∨ (s.after op).Holds place x.waiter := by
  rcases s.waits_after op with ⟨w, hwaits, hstands⟩ | hwaits | ⟨other, w, fate, hother, hwaits⟩
  · have hold := hx
    rw [hwaits, List.getElem?_append] at hold
    split at hold
    · exact .inl hold
    · obtain rfl : x = ⟨w, .waiting⟩ := List.mem_singleton.1 (List.mem_of_getElem? hold)
      exact .inr (.inr ⟨hx, hstands⟩)
  · exact .inl (hwaits ▸ hx)
  · rw [hwaits, List.getElem?_set] at hx
    split at hx
    next hsame =>
      split at hx
      · obtain rfl := Option.some.inj hx
        exact .inr (.inl (hsame ▸ hother))
      · cases hx
    next => exact .inl hx

theorem length_waits_after (s : Session α) (op : Operation α) :
    s.waits.length ≤ (s.after op).waits.length := by
  rcases s.waits_after op with ⟨w, hwaits, -⟩ | hwaits | ⟨other, w, fate, -, hwaits⟩
  · simp [hwaits]
  · simp [hwaits]
  · simp [hwaits]

end Session
end Waystation.Correlation
