import Waystation.Proofs.Correlation.Session
import Waystation.Proofs.Lists
/-!
Every operation keeps the invariant of sessions. Most of them rearrange the registrations and the
waiters that there are; only a registration makes a new generation, only a delivery accepts a
response, and only a poll lets a waiter yield.
-/
namespace Waystation.Correlation

variable {α : Type}

/-! Counting waiters. -/

theorem waitingFor_join (waits : List (Wait α)) (w : Waiter) (g : Nat) :
    waitingFor (waits ++ [{ waiter := w }]) g
      = waitingFor waits g + if w.generation = g then 1 else 0 := by
  simp [waitingFor, List.countP_append, List.countP_singleton, Wait.isWaiting]

theorem receivers_join (waits : List (Wait α)) (w : Waiter) (g : Nat) :
    receivers (waits ++ [{ waiter := w }]) g = receivers waits g := by
  simp [receivers, List.countP_append, Wait.received]

section Change

variable {waits : List (Wait α)} {place : Nat} {w : Waiter}

theorem waitingFor_end (h : waits[place]? = some ⟨w, .waiting⟩) {fate : Fate α}
    (hfate : Wait.isWaiting ⟨w, fate⟩ = false) (g : Nat) :
    waitingFor (waits.set place ⟨w, fate⟩) g + (if w.generation = g then 1 else 0)
      = waitingFor waits g := by
  have hcount := countP_set_add (y := ⟨w, fate⟩)
    (p := fun x => x.isWaiting && x.waiter.generation = g) h
  have hwaiting : Wait.isWaiting (⟨w, .waiting⟩ : Wait α) = true := rfl
  simpa only [waitingFor, hwaiting, hfate, Bool.true_and, Bool.false_and, decide_eq_true_eq,
    Bool.false_eq_true, if_false, Nat.add_zero] using hcount

theorem receivers_end (h : waits[place]? = some ⟨w, .waiting⟩) {fate : Fate α} (g : Nat) :
    receivers (waits.set place ⟨w, fate⟩) g
      = receivers waits g
        + if (Wait.received ⟨w, fate⟩).isSome ∧ w.generation = g then 1 else 0 := by
  have hcount := countP_set_add (y := ⟨w, fate⟩)
    (p := fun x => x.received.isSome && x.waiter.generation = g) h
  have hnone : Wait.received (⟨w, .waiting⟩ : Wait α) = none := rfl
  simpa only [receivers, hnone, Option.isSome_none, Bool.false_and, Bool.false_eq_true, if_false,
    Nat.add_zero, Bool.and_eq_true, decide_eq_true_eq] using hcount

end Change

/-! Finding registrations. -/

theorem mem_others {c : Correlation α} {id : String} {r : Registration} :
    r ∈ c.others id ↔ r ∈ c.registrations ∧ r.id ≠ id := by
  simp [others]

theorem mem_of_find? {c : Correlation α} {id : String} {r : Registration}
    (h : c.find? id = some r) : r ∈ c.registrations ∧ r.id = id :=
  ⟨List.mem_of_find?_eq_some h, by simpa using List.find?_some h⟩

theorem find?_eq_none {c : Correlation α} {id : String} (h : c.find? id = none) :
    ∀ r ∈ c.registrations, r.id ≠ id := by
  simpa [find?] using h

/-- The registration that a waiter holds. -/
theorem exists_of_stands {c : Correlation α} {w : Waiter} (h : c.stands w = true) :
    ∃ r, c.find? w.id = some r ∧ r.generation = w.generation := by
  rw [stands] at h
  split at h
  next r hfind => exact ⟨r, hfind, by simpa using h⟩
  next => cases h

theorem release_of_not_stands {c : Correlation α} {w : Waiter} (h : c.stands w = false) :
    c.release w = c := by
  rw [stands] at h
  rw [release]
  split at h
  next r hfind =>
    have hg : r.generation ≠ w.generation := by simpa using h
    simp only [if_pos hg]
  next => rfl

theorem release_of_find? {c : Correlation α} {w : Waiter} {r : Registration}
    (hfind : c.find? w.id = some r) (hg : r.generation = w.generation) :
    c.release w = { c with
      registrations := if r.waiters ≤ 1 then c.others w.id
        else c.others w.id ++ [{ r with waiters := r.waiters - 1 }] } := by
  rw [release, hfind]
  simp only [hg, ne_eq, not_true_eq_false, if_false]
  split
  · rfl
  · rfl

namespace Session

variable {s : Session α} {log : List (Waiter × α)}

/-- The hold that the waiters of a registration have on it. -/
def holdOn (r : Registration) : Waiter := { id := r.id, generation := r.generation }

theorem mem_holds {w : Waiter} :
    w ∈ s.holds log ↔ (∃ r ∈ s.table.registrations, holdOn r = w)
      ∨ (∃ x ∈ s.waits, x.waiter = w) ∨ ∃ p ∈ log, p.1 = w := by
  simp only [holds, List.mem_append, List.mem_map, holdOn, or_assoc]

theorem hold_mem {r : Registration} (hr : r ∈ s.table.registrations) : holdOn r ∈ s.holds log :=
  mem_holds.2 (.inl ⟨r, hr, rfl⟩)

theorem waiter_mem {x : Wait α} (hx : x ∈ s.waits) : x.waiter ∈ s.holds log :=
  mem_holds.2 (.inr (.inl ⟨x, hx, rfl⟩))

theorem accepted_mem {p : Waiter × α} (hp : p ∈ log) : p.1 ∈ s.holds log :=
  mem_holds.2 (.inr (.inr ⟨p, hp, rfl⟩))

namespace Sound

/-- A hold of the generation of a registration is a hold on that registration. -/
theorem hold_eq (hs : s.Sound log) {r : Registration} (hr : r ∈ s.table.registrations) {w : Waiter}
    (hw : w ∈ s.holds log) (hg : w.generation = r.generation) : holdOn r = w :=
  hs.own _ (hold_mem hr) _ hw hg.symm

theorem find?_of_mem (hs : s.Sound log) {r : Registration} (hr : r ∈ s.table.registrations) :
    s.table.find? r.id = some r := by
  cases hfind : s.table.find? r.id with
  | some r' =>
    obtain ⟨hr', hid⟩ := mem_of_find? hfind
    rw [eq_of_nodup_map hs.ids hr' hr hid]
  | none => exact absurd rfl (find?_eq_none hfind r hr)

/-- A waiter whose registration does not stand has a generation without registration. -/
theorem ne_of_not_stands (hs : s.Sound log) {w : Waiter} (hw : w ∈ s.holds log)
    (hstands : s.table.stands w = false) :
    ∀ r ∈ s.table.registrations, r.generation ≠ w.generation := by
  intro r hr hg
  have hhold := hs.hold_eq hr hw hg.symm
  have hfind := hs.find?_of_mem hr
  rw [stands, ← hhold, holdOn, hfind] at hstands
  simp at hstands

/-- Registrations and waiters may be rearranged as long as nothing new is registered or yielded and
the counts stay right. -/
theorem rearrange (hs : s.Sound log) {registrations : List Registration} {waits : List (Wait α)}
    (hids : (registrations.map (·.id)).Nodup)
    (hold : ∀ r ∈ registrations, ∃ r' ∈ s.table.registrations, holdOn r' = holdOn r)
    (hcounted : ∀ r ∈ registrations,
      r.waiters = waitingFor waits r.generation ∧ 0 < r.waiters)
    (hwaiters : ∀ x ∈ waits, x.waiter ∈ s.holds log)
    (hresolved : ∀ x ∈ waits, x.isResolved = true → x ∈ s.waits)
    (hreceivers : ∀ g, receivers waits g = receivers s.waits g) :
    Sound { table := { s.table with registrations }, waits } log := by
  have hsub : ∀ w, w ∈ holds { table := { s.table with registrations }, waits } log
      → w ∈ s.holds log := by
    intro w hw
    rcases mem_holds.1 hw with ⟨r, hr, rfl⟩ | ⟨x, hx, rfl⟩ | ⟨p, hp, rfl⟩
    · obtain ⟨r', hr', hsame⟩ := hold r hr
      exact hsame ▸ hold_mem hr'
    · exact hwaiters x hx
    · exact accepted_mem hp
  have hgeneration : ∀ r ∈ registrations, ∃ r' ∈ s.table.registrations,
      r'.generation = r.generation := by
    intro r hr
    obtain ⟨r', hr', hsame⟩ := hold r hr
    exact ⟨r', hr', congrArg Waiter.generation hsame⟩
  have hunresolved : ∀ x ∈ waits, (x ∈ s.waits → x.isResolved = false) → x.isResolved = false := by
    intro x hx hx'
    cases hresult : x.isResolved with
    | true => rw [← hresult, hx' (hresolved x hx hresult)]
    | false => rfl
  constructor
  case ids => exact hids
  case below => exact fun w hw => hs.below w (hsub w hw)
  case own => exact fun w hw w' hw' => hs.own w (hsub w hw) w' (hsub w' hw')
  case counted => exact hcounted
  case untouched =>
    intro r hr x hx hg
    obtain ⟨r', hr', hg'⟩ := hgeneration r hr
    exact hunresolved x hx fun hx' => hs.untouched r' hr' x hx' (hg.trans hg'.symm)
  case once => exact hs.once
  case served =>
    intro p hp r hr
    obtain ⟨r', hr', hg'⟩ := hgeneration r hr
    exact hg' ▸ hs.served p hp r' hr'
  case kept => exact hs.kept
  case unread => exact fun p hp x hx hg => hunresolved x hx fun hx' => hs.unread p hp x hx' hg
  case read => exact fun p hp hp' => (hreceivers _).trans (hs.read p hp hp')
  case values =>
    intro x hx v hv
    exact hs.values x (hresolved x hx (Wait.isResolved_of_received hv)) v hv

/-- Taking registrations away changes nothing else. -/
theorem restrict (hs : s.Sound log) {registrations : List Registration}
    (hsub : registrations.Sublist s.table.registrations) :
    Sound { s with table := { s.table with registrations } } log :=
  hs.rearrange (hs.ids.sublist (hsub.map _)) (fun r hr => ⟨r, hsub.subset hr, rfl⟩)
    (fun r hr => hs.counted r (hsub.subset hr)) (fun _ hx => waiter_mem hx) (fun _ hx _ => hx)
    fun _ => rfl

theorem closeAll (hs : s.Sound log) : Sound { s with table := s.table.closeAll } log :=
  hs.restrict (List.nil_sublist _)

/-- The registrations of other requests with one registration put back. -/
theorem replace_ids (hs : s.Sound log) {r : Registration} :
    ((s.table.others r.id ++ [r]).map (·.id)).Nodup := by
  rw [List.map_append]
  refine List.nodup_append.2 ⟨hs.ids.sublist (List.filter_sublist.map _), by simp, ?_⟩
  rintro id hid id' hid' rfl
  obtain ⟨other, hother, rfl⟩ := List.mem_map.1 hid
  exact (mem_others.1 hother).2 (List.mem_singleton.1 hid')

/-- Another registration of the same generation cannot stand beside one. -/
theorem others_generation (hs : s.Sound log) {r other : Registration}
    (hr : r ∈ s.table.registrations) (hother : other ∈ s.table.others r.id) :
    other.generation ≠ r.generation := by
  intro hg
  obtain ⟨hmem, hid⟩ := mem_others.1 hother
  exact hid (congrArg Waiter.id (hs.hold_eq hmem (hold_mem hr) hg.symm))

/-- A registration makes a generation of its own, with one waiter. -/
theorem register (hs : s.Sound log) (id : String) : (s.after (.register id)).Sound log := by
  let w : Waiter := { id, generation := s.table.nextGeneration }
  have hfresh : ∀ w' ∈ s.holds log, w'.generation ≠ w.generation :=
    fun w' hw' => Nat.ne_of_lt (hs.below w' hw')
  have hregistrations : ∀ r ∈ (s.after (.register id)).table.registrations,
      r ∈ s.table.registrations ∨ r = { id, generation := s.table.nextGeneration, waiters := 1 } := by
    intro r hr
    exact (mem_snoc.1 hr).imp_left fun hold => (mem_others.1 hold).1
  have hwaits : ∀ x ∈ (s.after (.register id)).waits, x ∈ s.waits ∨ x = { waiter := w } :=
    fun x hx => mem_snoc.1 hx
  have hholds : ∀ w', w' ∈ (s.after (.register id)).holds log → w' ∈ s.holds log ∨ w' = w := by
    intro w' hw'
    rcases mem_holds.1 hw' with ⟨r, hr, rfl⟩ | ⟨x, hx, rfl⟩ | ⟨p, hp, rfl⟩
    · rcases hregistrations r hr with hold | rfl
      · exact .inl (hold_mem hold)
      · exact .inr rfl
    · rcases hwaits x hx with hold | rfl
      · exact .inl (waiter_mem hold)
      · exact .inr rfl
    · exact .inl (accepted_mem hp)
  constructor
  case ids => exact hs.replace_ids (r := { id, generation := s.table.nextGeneration, waiters := 1 })
  case below =>
    intro w' hw'
    rcases hholds w' hw' with hold | rfl
    · exact Nat.lt_succ_of_lt (hs.below w' hold)
    · exact Nat.lt_succ_self _
  case own =>
    intro w₁ hw₁ w₂ hw₂ hg
    rcases hholds w₁ hw₁ with hold₁ | rfl
    · rcases hholds w₂ hw₂ with hold₂ | rfl
      · exact hs.own w₁ hold₁ w₂ hold₂ hg
      · exact absurd hg (hfresh w₁ hold₁)
    · rcases hholds w₂ hw₂ with hold₂ | rfl
      · exact absurd hg.symm (hfresh w₂ hold₂)
      · rfl
  case counted =>
    intro r hr
    rw [show (s.after (.register id)).waits = s.waits ++ [{ waiter := w }] from rfl, waitingFor_join]
    rcases hregistrations r hr with hold | rfl
    · have hother : w.generation ≠ r.generation := (hfresh _ (hold_mem hold)).symm
      rw [if_neg hother]
      exact hs.counted r hold
    · have hnobody : waitingFor s.waits s.table.nextGeneration = 0 := by
        refine List.countP_eq_zero.2 fun x hx hcount => ?_
        have hg : x.waiter.generation = w.generation := by
          simpa using (Bool.and_eq_true_iff.1 hcount).2
        exact hfresh _ (waiter_mem hx) hg
      rw [hnobody, if_pos rfl]
      exact ⟨rfl, Nat.one_pos⟩
  case untouched =>
    intro r hr x hx hg
    rcases hwaits x hx with hold | rfl
    · rcases hregistrations r hr with hr' | rfl
      · exact hs.untouched r hr' x hold hg
      · exact absurd hg (hfresh _ (waiter_mem hold))
    · rfl
  case once => exact hs.once
  case served =>
    intro p hp r hr
    rcases hregistrations r hr with hold | rfl
    · exact hs.served p hp r hold
    · exact (hfresh _ (accepted_mem hp)).symm
  case kept => exact hs.kept
  case unread =>
    intro p hp x hx hg
    rcases hwaits x hx with hold | rfl
    · exact hs.unread p hp x hold hg
    · rfl
  case read => exact fun p hp hp' => (receivers_join _ _ _).trans (hs.read p hp hp')
  case values =>
    intro x hx v hv
    rcases hwaits x hx with hold | rfl
    · exact hs.values x hold v hv
    · cases hv

/-- Joining a registration is counted there. -/
theorem await (hs : s.Sound log) (id : String) : (s.after (.await id)).Sound log := by
  cases hfind : s.table.find? id with
  | none =>
    have hregister : s.after (.await id) = s.after (.register id) := by
      simp only [after, Correlation.await, hfind]
    rw [hregister]
    exact hs.register id
  | some r =>
    obtain ⟨hr, rfl⟩ := mem_of_find? hfind
    have hafter : s.after (.await r.id)
        = { table := { s.table with
              registrations := s.table.others r.id ++ [{ r with waiters := r.waiters + 1 }] }
            waits := s.waits ++ [{ waiter := holdOn r }] } := by
      simp only [after, Correlation.await, hfind, holdOn]
    rw [hafter]
    refine hs.rearrange (hs.replace_ids (r := { r with waiters := r.waiters + 1 })) ?_ ?_ ?_ ?_
      fun g => receivers_join _ _ g
    · intro r' hr'
      rcases mem_snoc.1 hr' with hother | rfl
      · exact ⟨r', (mem_others.1 hother).1, rfl⟩
      · exact ⟨r, hr, rfl⟩
    · intro r' hr'
      rw [waitingFor_join]
      rcases mem_snoc.1 hr' with hother | rfl
      · have hg : (holdOn r).generation ≠ r'.generation := (hs.others_generation hr hother).symm
        rw [if_neg hg]
        exact hs.counted r' (mem_others.1 hother).1
      · have hcounted := hs.counted r hr
        simp only [holdOn, if_pos]
        omega
    · intro x hx
      rcases mem_snoc.1 hx with hold | rfl
      · exact waiter_mem hold
      · exact hold_mem hr
    · intro x hx hresolved
      rcases mem_snoc.1 hx with hold | rfl
      · exact hold
      · cases hresolved

/-! Waiters that end. -/

section Ending

variable {place : Nat} {w : Waiter}

theorem mem_of_place (hplace : s.waits[place]? = some ⟨w, .waiting⟩) : w ∈ s.holds log :=
  waiter_mem (List.mem_of_getElem? hplace)

theorem mem_or_eq_of_set {fate : Fate α} {x : Wait α} (hx : x ∈ s.waits.set place ⟨w, fate⟩) :
    x ∈ s.waits ∨ x = ⟨w, fate⟩ :=
  List.mem_or_eq_of_mem_set hx

/-- A waiter that is dropped gives up its place among those counted. -/
theorem drop (hs : s.Sound log) (hplace : s.waits[place]? = some ⟨w, .waiting⟩) :
    Sound { table := s.table.release w, waits := s.waits.set place ⟨w, .dropped⟩ } log := by
  have hw : w ∈ s.holds log := mem_of_place hplace
  have hcount : ∀ g, waitingFor (s.waits.set place ⟨w, .dropped⟩) g
      + (if w.generation = g then 1 else 0) = waitingFor s.waits g :=
    waitingFor_end hplace rfl
  have hother : ∀ r ∈ s.table.registrations, r.generation ≠ w.generation →
      r.waiters = waitingFor (s.waits.set place ⟨w, .dropped⟩) r.generation ∧ 0 < r.waiters := by
    intro r hr hg
    have hafter := hcount r.generation
    rw [if_neg (Ne.symm hg), Nat.add_zero] at hafter
    rw [hafter]
    exact hs.counted r hr
  have hrearrange : ∀ registrations : List Registration,
      (registrations.map (·.id)).Nodup →
      (∀ r ∈ registrations, ∃ r' ∈ s.table.registrations, holdOn r' = holdOn r) →
      (∀ r ∈ registrations,
        r.waiters = waitingFor (s.waits.set place ⟨w, .dropped⟩) r.generation ∧ 0 < r.waiters) →
      Sound { table := { s.table with registrations }, waits := s.waits.set place ⟨w, .dropped⟩ }
        log := by
    intro registrations hids hold hcounted
    refine hs.rearrange hids hold hcounted ?_ ?_ ?_
    · intro x hx
      rcases mem_or_eq_of_set hx with hold | rfl
      · exact waiter_mem hold
      · exact hw
    · intro x hx hresolved
      rcases mem_or_eq_of_set hx with hold | rfl
      · exact hold
      · cases hresolved
    · intro g
      rw [receivers_end hplace]
      rfl
  cases hstands : s.table.stands w with
  | false =>
    have hnone := hs.ne_of_not_stands hw hstands
    rw [release_of_not_stands hstands]
    exact hrearrange _ hs.ids (fun r hr => ⟨r, hr, rfl⟩) fun r hr => hother r hr (hnone r hr)
  | true =>
    obtain ⟨r, hfind, hg⟩ := exists_of_stands hstands
    obtain ⟨hr, hid⟩ := mem_of_find? hfind
    have hothers : ∀ r' ∈ s.table.others r.id,
        r'.waiters = waitingFor (s.waits.set place ⟨w, .dropped⟩) r'.generation
          ∧ 0 < r'.waiters := by
      intro r' hr'
      exact hother r' (mem_others.1 hr').1 (hg ▸ hs.others_generation hr hr')
    rw [release_of_find? hfind hg, ← hid]
    split
    · exact hrearrange _ (hs.ids.sublist (List.filter_sublist.map _))
        (fun r' hr' => ⟨r', (mem_others.1 hr').1, rfl⟩) hothers
    next hmore =>
      refine hrearrange _ (hs.replace_ids (r := { r with waiters := r.waiters - 1 })) ?_ ?_
      · intro r' hr'
        rcases mem_snoc.1 hr' with hold | rfl
        · exact ⟨r', (mem_others.1 hold).1, rfl⟩
        · exact ⟨r, hr, rfl⟩
      · intro r' hr'
        rcases mem_snoc.1 hr' with hold | rfl
        · exact hothers r' hold
        · have hcounted := hs.counted r hr
          have hafter := hcount r.generation
          rw [if_pos hg.symm] at hafter
          exact ⟨by simp only; omega, by simp only; omega⟩

/-- A waiter yields when its registration is gone. What is left of the responses is for others, and
each response that is not left was received once. -/
theorem resolve (hs : s.Sound log) (hplace : s.waits[place]? = some ⟨w, .waiting⟩)
    {response : Option α} {responses : List (Nat × α)}
    (hregistrations : ∀ r ∈ s.table.registrations, r.generation ≠ w.generation)
    (hkept : responses.Sublist s.table.responses) (hunread : ∀ p ∈ responses, p.1 ≠ w.generation)
    (hread : ∀ p ∈ log, (p.1.generation, p.2) ∉ responses →
      receivers (s.waits.set place ⟨w, .resolved response⟩) p.1.generation = 1)
    (hvalue : ∀ v, response = some v → (w, v) ∈ log) :
    Sound { table := { s.table with responses }, waits := s.waits.set place ⟨w, .resolved response⟩ }
      log := by
  have hsub : ∀ w', w' ∈ holds { table := { s.table with responses }
                                 waits := s.waits.set place ⟨w, .resolved response⟩ } log
      → w' ∈ s.holds log := by
    intro w' hw'
    rcases mem_holds.1 hw' with ⟨r, hr, rfl⟩ | ⟨x, hx, rfl⟩ | ⟨p, hp, rfl⟩
    · exact hold_mem hr
    · rcases mem_or_eq_of_set hx with hold | rfl
      · exact waiter_mem hold
      · exact mem_of_place hplace
    · exact accepted_mem hp
  constructor
  case ids => exact hs.ids
  case below => exact fun w' hw' => hs.below w' (hsub w' hw')
  case own => exact fun w₁ hw₁ w₂ hw₂ => hs.own w₁ (hsub w₁ hw₁) w₂ (hsub w₂ hw₂)
  case counted =>
    intro r hr
    have hcount : waitingFor (s.waits.set place ⟨w, .resolved response⟩) r.generation
        + (if w.generation = r.generation then 1 else 0) = waitingFor s.waits r.generation :=
      waitingFor_end hplace rfl r.generation
    rw [if_neg (hregistrations r hr).symm, Nat.add_zero] at hcount
    rw [hcount]
    exact hs.counted r hr
  case untouched =>
    intro r hr x hx hg
    rcases mem_or_eq_of_set hx with hold | rfl
    · exact hs.untouched r hr x hold hg
    · exact absurd hg.symm (hregistrations r hr)
  case once => exact hs.once
  case served => exact hs.served
  case kept => exact hkept.trans hs.kept
  case unread =>
    intro p hp x hx hg
    rcases mem_or_eq_of_set hx with hold | rfl
    · exact hs.unread p (hkept.subset hp) x hold hg
    · exact absurd hg.symm (hunread p hp)
  case read => exact hread
  case values =>
    intro x hx v hv
    rcases mem_or_eq_of_set hx with hold | rfl
    · exact hs.values x hold v hv
    · exact hvalue v hv

/-- Without a response of its generation a waiter yields nothing. -/
theorem resolveNone (hs : s.Sound log) (hplace : s.waits[place]? = some ⟨w, .waiting⟩)
    (hstands : s.table.stands w = false) (hnone : ∀ p ∈ s.table.responses, p.1 ≠ w.generation) :
    Sound { s with waits := s.waits.set place ⟨w, .resolved none⟩ } log := by
  have hregistrations := hs.ne_of_not_stands (mem_of_place hplace) hstands
  refine hs.resolve hplace hregistrations (List.Sublist.refl _) hnone (fun p hp hp' => ?_) nofun
  rw [receivers_end hplace]
  exact hs.read p hp hp'

/-- While a response is there to be received, nobody has received one of its generation. -/
theorem receivers_eq_zero (hs : s.Sound log) {p : Nat × α} (hp : p ∈ s.table.responses) :
    receivers s.waits p.1 = 0 := by
  refine List.countP_eq_zero.2 fun x hx hcount => ?_
  obtain ⟨hreceived, hg⟩ := Bool.and_eq_true_iff.1 hcount
  obtain ⟨v, hv⟩ := Option.isSome_iff_exists.1 hreceived
  have hresolved := hs.unread p hp x hx (by simpa using hg)
  rw [Wait.isResolved_of_received hv] at hresolved
  cases hresolved

/-- With a response of its generation a waiter is the first and last to receive it. -/
theorem resolveSome (hs : s.Sound log) (hplace : s.waits[place]? = some ⟨w, .waiting⟩) {v : α}
    (hresponse : (w.generation, v) ∈ s.table.responses) :
    Sound
      { table := { s.table with
          responses := s.table.responses.filter (·.1 ≠ w.generation) }
        waits := s.waits.set place ⟨w, .resolved (some v)⟩ } log := by
  have hw : w ∈ s.holds log := mem_of_place hplace
  obtain ⟨p, hp, hpair⟩ := List.mem_map.1 (hs.kept.subset hresponse)
  obtain ⟨hg, rfl⟩ := Prod.mk.inj hpair
  obtain rfl : p.1 = w := hs.own p.1 (accepted_mem hp) w hw hg
  have hnobody := hs.receivers_eq_zero hresponse
  refine hs.resolve hplace (hs.served p hp) List.filter_sublist (fun q hq => ?_)
    (fun q hq hq' => ?_) (fun u hu => ?_)
  · simpa using (List.mem_filter.1 hq).2
  · rw [receivers_end hplace]
    by_cases hsame : p.1.generation = q.1.generation
    · rw [← hsame, hnobody, if_pos ⟨rfl, rfl⟩]
    · have hleft : (q.1.generation, q.2) ∉ s.table.responses := by
        intro hmem
        exact hq' (List.mem_filter.2 ⟨hmem, by simpa using Ne.symm hsame⟩)
      rw [hs.read q hq hleft, if_neg fun h => hsame h.2]
  · rw [← Option.some.inj hu]
    exact hp

end Ending

/-- What a poll finds in the table is what its waiter yields. -/
theorem poll (hs : s.Sound log) (place : Nat) : (s.after (.poll place)).Sound log := by
  cases hplace : s.waits[place]? with
  | none => simpa only [after, hplace] using hs
  | some x =>
    obtain ⟨w, fate⟩ := x
    cases fate with
    | resolved response => simpa only [after, hplace] using hs
    | dropped => simpa only [after, hplace] using hs
    | waiting =>
      simp only [after, hplace, Correlation.poll]
      cases hlookup : s.table.responses.lookup w.generation with
      | some v =>
        obtain ⟨front, back, hsplit, -⟩ := List.lookup_eq_some_iff.1 hlookup
        exact hs.resolveSome hplace (by rw [hsplit]; simp)
      | none =>
        have hnone : ∀ p ∈ s.table.responses, p.1 ≠ w.generation := by
          intro p hp hg
          have hne := List.lookup_eq_none_iff.1 hlookup p hp
          simp [hg] at hne
        cases hstands : s.table.stands w with
        | true => exact hs
        | false => exact hs.resolveNone hplace hstands hnone

/-- A response that is accepted takes the place of the registration. -/
theorem deliver (hs : s.Sound log) (id : String) (v : α) :
    (s.after (.deliver id v)).Sound (log ++ s.accepted (.deliver id v)) := by
  cases hfind : s.table.find? id with
  | none => simpa only [after, accepted, Correlation.deliver, hfind, List.append_nil] using hs
  | some r =>
    obtain ⟨hr, rfl⟩ := mem_of_find? hfind
    have hothers : Sound { s with table := { s.table with
        registrations := s.table.others r.id } } log := hs.restrict List.filter_sublist
    simp only [after, accepted, Correlation.deliver, hfind]
    have hsub : ∀ w, w ∈ holds { table := { s.table with
                                   registrations := s.table.others r.id
                                   responses := s.table.responses ++ [(r.generation, v)] }
                                 waits := s.waits } (log ++ [(holdOn r, v)])
        → w ∈ s.holds log := by
      intro w hw
      rcases mem_holds.1 hw with ⟨r', hr', rfl⟩ | ⟨x, hx, rfl⟩ | ⟨p, hp, rfl⟩
      · exact hold_mem (mem_others.1 hr').1
      · exact waiter_mem hx
      · rcases mem_snoc.1 hp with hold | rfl
        · exact accepted_mem hold
        · exact hold_mem hr
    constructor
    case ids => exact hothers.ids
    case below => exact fun w hw => hs.below w (hsub w hw)
    case own => exact fun w hw w' hw' => hs.own w (hsub w hw) w' (hsub w' hw')
    case counted => exact hothers.counted
    case untouched => exact hothers.untouched
    case once =>
      rw [List.map_append]
      refine List.nodup_append.2 ⟨hs.once, by simp, ?_⟩
      rintro g hg g' hg' rfl
      obtain ⟨p, hp, rfl⟩ := List.mem_map.1 hg
      exact hs.served p hp r hr (List.mem_singleton.1 hg').symm
    case served =>
      intro p hp r' hr'
      rcases mem_snoc.1 hp with hold | rfl
      · exact hothers.served p hold r' hr'
      · exact hs.others_generation hr hr'
    case kept =>
      rw [List.map_append]
      exact hs.kept.append (List.Sublist.refl _)
    case unread =>
      intro p hp x hx hg
      rcases mem_snoc.1 hp with hold | rfl
      · exact hs.unread p hold x hx hg
      · exact hs.untouched r hr x hx hg
    case read =>
      intro p hp hp'
      rcases mem_snoc.1 hp with hold | rfl
      · exact hs.read p hold fun hmem => hp' (List.mem_append_left _ hmem)
      · exact absurd (List.mem_append_right _ (List.mem_singleton.2 rfl)) hp'
    case values => exact fun x hx u hu => List.mem_append_left _ (hs.values x hx u hu)

end Sound

/-- Every operation keeps the invariant. -/
theorem sound_after (s : Session α) (log : List (Waiter × α)) (op : Operation α)
    (hs : s.Sound log) : (s.after op).Sound (log ++ s.accepted op) := by
  cases op with
  | register id => simpa only [accepted, List.append_nil] using hs.register id
  | await id => simpa only [accepted, List.append_nil] using hs.await id
  | poll place => simpa only [accepted, List.append_nil] using hs.poll place
  | deliver id v => exact hs.deliver id v
  | closeAll => simpa only [accepted, List.append_nil, after] using hs.closeAll
  | drop place =>
    simp only [accepted, List.append_nil, after]
    cases hplace : s.waits[place]? with
    | none => exact hs
    | some x =>
      obtain ⟨w, fate⟩ := x
      cases fate with
      | waiting => exact hs.drop hplace
      | resolved response => exact hs
      | dropped => exact hs

theorem sound_run (ops : List (Operation α)) : (run {} ops).Sound (Session.log {} ops) :=
  invariant_logged sound_after sound_empty ops

end Session
end Waystation.Correlation
