import Waystation.Proofs.Correlation.Invariant
/-!
How the table of open requests ages. Whatever is done to it, its registrations are old ones or newer,
and so are the responses in it; so who was turned away once is never answered.
-/
namespace Waystation.Correlation

variable {α : Type} {c c' c'' : Correlation α} {w : Waiter}

/-- Is every registration older than the next one will be? -/
def Dated (c : Correlation α) : Prop := ∀ r ∈ c.registrations, r.generation < c.nextGeneration

/-- One table comes from another: what is in it was there or is newer. -/
structure Ages (c c' : Correlation α) : Prop where
  next : c.nextGeneration ≤ c'.nextGeneration
  registrations : ∀ r ∈ c'.registrations,
    c.nextGeneration ≤ r.generation ∨ ∃ old ∈ c.registrations, old.generation = r.generation
  responses : ∀ x ∈ c'.responses, c.nextGeneration ≤ x.1
    ∨ (∃ old ∈ c.registrations, old.generation = x.1) ∨ ∃ old ∈ c.responses, old.1 = x.1
  dated : c.Dated → c'.Dated

theorem Ages.refl (c : Correlation α) : c.Ages c where
  next := Nat.le_refl _
  registrations r hr := .inr ⟨r, hr, rfl⟩
  responses x hx := .inr (.inr ⟨x, hx, rfl⟩)
  dated h := h

theorem Ages.trans (h : c.Ages c') (h' : c'.Ages c'') : c.Ages c'' where
  next := Nat.le_trans h.next h'.next
  registrations r hr := by
    rcases h'.registrations r hr with hnew | ⟨old, hold, hsame⟩
    · exact .inl (Nat.le_trans h.next hnew)
    · exact hsame ▸ h.registrations old hold
  responses x hx := by
    rcases h'.responses x hx with hnew | ⟨old, hold, hsame⟩ | ⟨old, hold, hsame⟩
    · exact .inl (Nat.le_trans h.next hnew)
    · rcases h.registrations old hold with hnew | holder
      · exact .inl (hsame ▸ hnew)
      · exact .inr (.inl (hsame ▸ holder))
    · exact hsame ▸ h.responses old hold
  dated hdated := h'.dated (h.dated hdated)

/-- A table with the same responses and registrations that were there before. -/
theorem ages_of_registrations (hnext : c'.nextGeneration = c.nextGeneration)
    (hregistrations : ∀ r ∈ c'.registrations, ∃ old ∈ c.registrations, old.generation = r.generation)
    (hresponses : ∀ x ∈ c'.responses, x ∈ c.responses) : c.Ages c' where
  next := Nat.le_of_eq hnext.symm
  registrations r hr := .inr (hregistrations r hr)
  responses x hx := .inr (.inr ⟨x, hresponses x hx, rfl⟩)
  dated hdated r hr := by
    obtain ⟨old, hold, hsame⟩ := hregistrations r hr
    rw [hnext, ← hsame]
    exact hdated old hold

theorem ages_register (c : Correlation α) (id : String) : c.Ages (c.register id).2 where
  next := Nat.le_succ _
  registrations r hr := by
    rcases mem_snoc.1 hr with hold | rfl
    · exact .inr ⟨r, (mem_others.1 hold).1, rfl⟩
    · exact .inl (Nat.le_refl _)
  responses x hx := .inr (.inr ⟨x, hx, rfl⟩)
  dated hdated r hr := by
    rcases mem_snoc.1 hr with hold | rfl
    · exact Nat.lt_succ_of_lt (hdated r (mem_others.1 hold).1)
    · exact Nat.lt_succ_self _

theorem ages_await (c : Correlation α) (id : String) : c.Ages (c.await id).2 := by
  rw [await]
  split
  next r hfind =>
    refine ages_of_registrations rfl (fun r' hr' => ?_) fun x hx => hx
    rcases mem_snoc.1 hr' with hold | rfl
    · exact ⟨r', (mem_others.1 hold).1, rfl⟩
    · exact ⟨r, (mem_of_find? hfind).1, rfl⟩
  next => exact c.ages_register id

theorem ages_deliver (c : Correlation α) (id : String) (v : α) : c.Ages (c.deliver id v).2 := by
  rw [deliver]
  split
  next r hfind =>
    have hmem := (mem_of_find? hfind).1
    refine ⟨Nat.le_refl _, fun r' hr' => .inr ⟨r', (mem_others.1 hr').1, rfl⟩, fun x hx => ?_,
      fun hdated r' hr' => hdated r' (mem_others.1 hr').1⟩
    rcases mem_snoc.1 hx with hold | rfl
    · exact .inr (.inr ⟨x, hold, rfl⟩)
    · exact .inr (.inl ⟨r, hmem, rfl⟩)
  next => exact .refl c

theorem ages_poll (c : Correlation α) (w : Waiter) : c.Ages (c.poll w).2 := by
  rw [poll]
  split
  · exact ages_of_registrations rfl (fun r hr => ⟨r, hr, rfl⟩) fun x hx => (List.mem_filter.1 hx).1
  · exact .refl c

theorem ages_release (c : Correlation α) (w : Waiter) : c.Ages (c.release w) := by
  cases hstands : c.stands w with
  | false =>
    rw [release_of_not_stands hstands]
    exact .refl c
  | true =>
    obtain ⟨old, hfind, hg⟩ := exists_of_stands hstands
    rw [release_of_find? hfind hg]
    split
    · exact ages_of_registrations rfl (fun r hr => ⟨r, (mem_others.1 hr).1, rfl⟩) fun x hx => hx
    · refine ages_of_registrations rfl (fun r hr => ?_) fun x hx => hx
      rcases mem_snoc.1 hr with hold | rfl
      · exact ⟨r, (mem_others.1 hold).1, rfl⟩
      · exact ⟨old, (mem_of_find? hfind).1, rfl⟩

theorem ages_closeAll (c : Correlation α) : c.Ages c.closeAll :=
  ages_of_registrations rfl (fun _ hr => nomatch hr) fun _ hx => hx

/-! Turning all away. -/

theorem generation_register_lt (c : Correlation α) (id : String) :
    (c.register id).1.generation < (c.register id).2.nextGeneration :=
  Nat.lt_succ_self _

theorem generation_await_lt (h : c.Dated) (id : String) :
    (c.await id).1.generation < (c.await id).2.nextGeneration := by
  rw [await]
  split
  next r hfind => exact h r (mem_of_find? hfind).1
  next => exact c.generation_register_lt id

/-- Behind the moment at which all are turned away there are newer registrations only. -/
theorem registrations_of_closed (h : c.closeAll.Ages c') :
    ∀ r ∈ c'.registrations, c.nextGeneration ≤ r.generation := by
  intro r hr
  rcases h.registrations r hr with hnew | ⟨_, hnothing, -⟩
  · exact hnew
  · cases hnothing

/-- A waiter that was given out before all were turned away waits no longer. It receives nothing unless
its response had come by then. -/
theorem poll_of_closed (hw : w.generation < c.nextGeneration) (h : c.closeAll.Ages c') :
    (c'.poll w).1 ≠ .pending
      ∧ (c.responses.lookup w.generation = none → c'.poll w = (.resolved none, c')) := by
  have hgone : c'.stands w = false := by
    cases hstands : c'.stands w with
    | false => rfl
    | true =>
      obtain ⟨r, hfind, hg⟩ := exists_of_stands hstands
      have hlater := registrations_of_closed h r (mem_of_find? hfind).1
      omega
  refine ⟨?_, fun hnone => ?_⟩
  · rw [poll, hgone]
    split
    · rintro ⟨⟩
    · rintro ⟨⟩
  · have hlookup : c'.responses.lookup w.generation = none := by
      refine List.lookup_eq_none_iff.2 fun x hx => ?_
      rcases h.responses x hx with hnew | ⟨_, hnothing, -⟩ | ⟨old, hmem, hsame⟩
      · have hlater : c.nextGeneration ≤ x.1 := hnew
        simp only [bne_iff_ne, ne_eq]
        omega
      · cases hnothing
      · have hother := List.lookup_eq_none_iff.1 hnone old hmem
        rwa [hsame] at hother
    rw [poll, hlookup, hgone]
    rfl

/-- Who still waits when all are turned away never receives anything. -/
theorem poll_of_turned_away (hdated : c.Dated) (hpending : (c.poll w).1 = .pending)
    (h : c.closeAll.Ages c') : c'.poll w = (.resolved none, c') := by
  rw [poll] at hpending
  split at hpending
  · cases hpending
  next hnone =>
    cases hstands : c.stands w with
    | false => simp [hstands] at hpending
    | true =>
      obtain ⟨r, hfind, hg⟩ := exists_of_stands hstands
      exact (poll_of_closed (hg ▸ hdated r (mem_of_find? hfind).1) h).2 hnone

end Waystation.Correlation
