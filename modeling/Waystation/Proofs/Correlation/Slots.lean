import Waystation.Proofs.Correlation.Sections
/-!
The accounts of a table. A registration stands as long as somebody waits at it, and counts who does:
dropping a waiter is counted at its own registration and nowhere else, and the last waiter takes the
registration with it. When nobody waits any more, nothing is left in the table.
-/
namespace Waystation.Correlation

variable {α : Type} {w : Waiter}

namespace Session

variable {s : Session α} {log : List (Waiter × α)}

/-- How many wait at a registration. -/
def holders (s : Session α) (r : Registration) : Nat :=
  s.waits.countP fun x => x.isWaiting && x.waiter = holdOn r

/-- The accounts are right: a request has one registration at most, and it has one just while somebody
waits there; a registration counts those who wait at it. -/
structure Balanced (s : Session α) : Prop where
  ids : (s.table.registrations.map (·.id)).Nodup
  held : ∀ id, s.table.isPending id = true ↔ ∃ place w, s.Holds place w ∧ w.id = id
  counted : ∀ r ∈ s.table.registrations, r.waiters = s.holders r ∧ 0 < r.waiters

/-! What the registrations say of the waiters. -/

theorem Sound.holders_eq (hs : s.Sound log) {r : Registration} (hr : r ∈ s.table.registrations) :
    s.holders r = waitingFor s.waits r.generation := by
  refine List.countP_congr fun x hx => ?_
  have hsame : x.waiter = holdOn r ↔ x.waiter.generation = r.generation :=
    ⟨fun h => congrArg Waiter.generation h, fun h => (hs.hold_eq hr (waiter_mem hx) h).symm⟩
  simp only [Bool.and_eq_true, decide_eq_true_eq, hsame]

/-- Somebody waits at every registration. -/
theorem Sound.exists_holder (hs : s.Sound log) {r : Registration}
    (hr : r ∈ s.table.registrations) : ∃ place, s.Holds place (holdOn r) := by
  obtain ⟨hcounted, hpos⟩ := hs.counted r hr
  rw [hcounted, ← hs.holders_eq hr] at hpos
  obtain ⟨x, hx, hholds⟩ := List.countP_pos_iff.1 hpos
  obtain ⟨hwaiting, hwaiter⟩ := Bool.and_eq_true_iff.1 hholds
  obtain ⟨place, hplace⟩ := List.mem_iff_getElem?.1 hx
  obtain ⟨waiter, fate⟩ := x
  obtain rfl : waiter = holdOn r := by simpa using hwaiter
  have hstands : s.table.stands (holdOn r) = true := by
    rw [stands, holdOn, hs.find?_of_mem hr]
    simp
  cases fate with
  | waiting => exact ⟨place, hplace, hstands⟩
  | resolved response => cases hwaiting
  | dropped => cases hwaiting

theorem Sound.balanced (hs : s.Sound log) : s.Balanced where
  ids := hs.ids
  held id := by
    constructor
    · intro hpending
      obtain ⟨r, hfind⟩ := Option.isSome_iff_exists.1 hpending
      obtain ⟨hr, hid⟩ := mem_of_find? hfind
      obtain ⟨place, hholds⟩ := hs.exists_holder hr
      exact ⟨place, _, hholds, hid⟩
    · rintro ⟨place, w, hholds, rfl⟩
      obtain ⟨r, hfind, -⟩ := exists_of_stands hholds.stands
      simp [isPending, hfind]
  counted r hr := by
    rw [hs.holders_eq hr]
    exact hs.counted r hr

/-- Where nobody waits, nothing is registered. -/
theorem Balanced.registrations_eq_nil (hs : s.Balanced)
    (hnobody : ∀ x ∈ s.waits, x.isWaiting = false) : s.table.registrations = [] := by
  refine List.eq_nil_iff_forall_not_mem.2 fun r hr => ?_
  obtain ⟨hcounted, hpos⟩ := hs.counted r hr
  rw [hcounted] at hpos
  obtain ⟨x, hx, hholds⟩ := List.countP_pos_iff.1 hpos
  rw [hnobody x hx] at hholds
  cases hholds

/-! What becomes of a registration. -/

/-- Giving up a waiter is counted at its registration; the last one takes it away. -/
theorem find?_release_self (hs : s.Sound log) {r : Registration} (hr : r ∈ s.table.registrations) :
    (s.table.release (holdOn r)).find? r.id
      = if r.waiters = 1 then none else some { r with waiters := r.waiters - 1 } := by
  have hpos := (hs.counted r hr).2
  have hnone : (s.table.others r.id).find? (·.id = r.id) = none := by
    simp [others, List.find?_eq_none]
  rw [release_of_find? (w := holdOn r) (hs.find?_of_mem hr) rfl, find?]
  split
  next hlast =>
    rw [if_pos (by omega)]
    exact hnone
  next hmore =>
    rw [if_neg (by omega), holdOn, List.find?_append, hnone]
    simp

/-- Giving up a waiter does not concern other requests. -/
theorem find?_release_other (c : Correlation α) {id : String} (h : id ≠ w.id) :
    (c.release w).find? id = c.find? id := by
  rw [release]
  split
  next r hfind =>
    split
    · rfl
    · split
      · exact find?_others c h
      · exact find?_replace c h (mem_of_find? hfind).2
  next => rfl

/-- A registration is taken away by an operation on its request, by closing the table or with the last
who waits at it. -/
theorem Sound.freed (hs : s.Sound log) {r : Registration} (hr : r ∈ s.table.registrations)
    (op : Operation α) :
    (s.after op).table.stands (holdOn r) = true ∨ op.Frees r.id
      ∨ ∃ place, op = .drop place ∧ s.Holds place (holdOn r) ∧ r.waiters = 1 := by
  obtain ⟨place, hholds⟩ := hs.exists_holder hr
  cases op with
  | register id =>
    by_cases hid : r.id = id
    · exact .inr (.inl (.inr (.inl (by rw [hid]))))
    · have hfind : (s.table.register id).2.find? (holdOn r).id = s.table.find? (holdOn r).id :=
        find?_register s.table hid
      exact .inl ((stands_of_find?_eq hfind).trans hholds.stands)
  | await id => exact .inl (stands_await hholds.stands id)
  | poll other => exact .inl (hholds.poll hs other).stands
  | drop other =>
    by_cases hsame : other = place
    · subst hsame
      by_cases hlast : r.waiters = 1
      · exact .inr (.inr ⟨other, rfl, hholds, hlast⟩)
      · have hfind := find?_release_self hs hr
        rw [if_neg hlast] at hfind
        refine .inl ?_
        simp only [after, hholds.waiting, stands]
        rw [show (holdOn r).id = r.id from rfl, hfind]
        exact decide_eq_true rfl
    · exact .inl (hholds.drop_other hs hsame).stands
  | deliver id v =>
    by_cases hid : r.id = id
    · exact .inr (.inl (.inr (.inr ⟨v, by rw [hid]⟩)))
    · have hfind : (s.table.deliver id v).2.find? (holdOn r).id = s.table.find? (holdOn r).id :=
        find?_deliver s.table hid v
      exact .inl ((stands_of_find?_eq hfind).trans hholds.stands)
  | closeAll => exact .inr (.inl (.inl rfl))

/-- A waiter whose registration is gone gives up nothing. -/
theorem release_of_no_hold {c : Correlation α} (h : ∀ r ∈ c.registrations, holdOn r ≠ w) :
    c.release w = c := by
  refine release_of_not_stands (Bool.eq_false_iff.2 fun hstands => ?_)
  obtain ⟨r, hfind, hg⟩ := exists_of_stands hstands
  obtain ⟨hr, hid⟩ := mem_of_find? hfind
  refine h r hr ?_
  rw [holdOn, hid, hg]

/-- Whatever is done with a table and its waiters, the accounts are right. A registration lasts until
its request is answered or registered again, the table is closed or the last who waits at it is dropped.
A waiter that is dropped counts at the registration it holds, and changes no other, a later one of its
request included; with the last waiter the table is empty. -/
theorem run_accounts (ops : List (Operation α)) :
    (run {} ops).Balanced
    ∧ (∀ r ∈ (run {} ops).table.registrations, ∀ op : Operation α,
        ((run {} ops).after op).table.stands (holdOn r) = true ∨ op.Frees r.id
          ∨ ∃ place, op = .drop place ∧ (run {} ops).Holds place (holdOn r) ∧ r.waiters = 1)
    ∧ (∀ place w, (run {} ops).waits[place]? = some ⟨w, .waiting⟩ →
        ((∀ r ∈ (run {} ops).table.registrations, holdOn r ≠ w) →
          ((run {} ops).after (.drop place)).table = (run {} ops).table)
        ∧ (∀ r ∈ (run {} ops).table.registrations, holdOn r = w →
          ((run {} ops).after (.drop place)).table.find? w.id
            = if r.waiters = 1 then none else some { r with waiters := r.waiters - 1 })
        ∧ ∀ id, id ≠ w.id →
          ((run {} ops).after (.drop place)).table.find? id = (run {} ops).table.find? id)
    ∧ ((∀ x ∈ (run {} ops).waits, x.isWaiting = false) →
        (run {} ops).table.registrations = []) := by
  have hs := sound_run ops
  refine ⟨hs.balanced, fun r hr => hs.freed hr, ?_, hs.balanced.registrations_eq_nil⟩
  intro place w hplace
  simp only [after, hplace]
  refine ⟨release_of_no_hold, ?_, fun id hid => find?_release_other _ hid⟩
  rintro r hr rfl
  exact find?_release_self hs hr

end Session

/-- The accounts are right between the sections of calls, too. -/
theorem Crowd.balanced (steps : List (Crowd.Step α)) : (run {} steps).session.Balanced :=
  (sound_run steps).balanced

end Waystation.Correlation
