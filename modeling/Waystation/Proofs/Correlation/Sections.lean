import Waystation.Proofs.Correlation.Standing
/-!
Calls that wait, section by section. A call that waits for a request first looks for a registration
to join and, if it finds none, registers the request in a second section; in between, anything may
happen. Such late registrations are the one thing besides closing and delivering that takes a
registration away from others, and they do so when two calls have both found nothing.
-/
namespace Waystation.Correlation

variable {α : Type}

/-- A session, and the requests of the calls that have found nothing and are yet to register. -/
structure Crowd (α : Type) where
  session : Session α := {}
  late : List String := []

namespace Crowd

/-- The sections of all calls. Late calls and waiters are named by their places. -/
inductive Step (α : Type)
  | look (id : String)
  | enroll (call : Nat)
  | poll (place : Nat)
  | drop (place : Nat)
  | deliver (id : String) (response : α)
  | closeAll

/-- The crowd after a section. -/
def after (c : Crowd α) : Step α → Crowd α
  | .look id => match c.session.table.join? id with
    | some (waiter, table) =>
      { c with session := { table, waits := c.session.waits ++ [{ waiter }] } }
    | none => { c with late := c.late ++ [id] }
  | .enroll call => match c.late[call]? with
    | some id => { session := c.session.after (.register id), late := c.late.eraseIdx call }
    | none => c
  | .poll place => { c with session := c.session.after (.poll place) }
  | .drop place => { c with session := c.session.after (.drop place) }
  | .deliver id response => { c with session := c.session.after (.deliver id response) }
  | .closeAll => { c with session := c.session.after .closeAll }

def run (c : Crowd α) (steps : List (Step α)) : Crowd α := steps.foldl after c

/-! Sections as operations of the session. -/

/-- What a section does to the session: looking in vain does nothing. -/
def operation? (c : Crowd α) : Step α → Option (Session.Operation α)
  | .look id => if c.session.table.isPending id then some (.await id) else none
  | .enroll call => c.late[call]?.map .register
  | .poll place => some (.poll place)
  | .drop place => some (.drop place)
  | .deliver id response => some (.deliver id response)
  | .closeAll => some .closeAll

theorem session_after (c : Crowd α) (step : Step α) :
    (c.after step).session = match c.operation? step with
      | some op => c.session.after op
      | none => c.session := by
  cases step with
  | look id =>
    cases hfind : c.session.table.find? id with
    | some r => simp [after, operation?, isPending, join?, Session.after, await, hfind]
    | none => simp [after, operation?, isPending, join?, hfind]
  | enroll call =>
    cases hcall : c.late[call]? with
    | some id => simp [after, operation?, hcall]
    | none => simp [after, operation?, hcall]
  | poll place => rfl
  | drop place => rfl
  | deliver id response => rfl
  | closeAll => rfl

/-- A call that registers as soon as it has looked in vain waits as in one section. -/
theorem look_enroll {c : Crowd α} {id : String} (hnone : c.session.table.isPending id = false) :
    (c.after (.look id)).after (.enroll c.late.length)
      = { c with session := c.session.after (.await id) } := by
  have hfind : c.session.table.find? id = none := by simpa [isPending] using hnone
  have hlook : c.after (.look id) = { c with late := c.late ++ [id] } := by
    simp [after, join?, hfind]
  have hawait : c.session.after (.await id) = c.session.after (.register id) := by
    simp only [Session.after, await, hfind]
  rw [hlook, hawait]
  simp [after, List.eraseIdx_append_of_length_le]

/-- The operations that sections come to. -/
def operations (c : Crowd α) (steps : List (Step α)) : List (Session.Operation α) :=
  logged after (fun c step => (c.operation? step).toList) c steps

theorem operations_append (c : Crowd α) (steps steps' : List (Step α)) :
    c.operations (steps ++ steps') = c.operations steps ++ (c.run steps).operations steps' :=
  logged_append c steps steps'

theorem session_run (c : Crowd α) (steps : List (Step α)) :
    (c.run steps).session = c.session.run (c.operations steps) := by
  induction steps generalizing c with
  | nil => rfl
  | cons step steps ih =>
    have hstep := c.session_after step
    have hrest := ih (c.after step)
    rw [operations, logged, ← operations]
    cases hop : c.operation? step with
    | some op =>
      rw [hop] at hstep
      simpa [run, hstep, Session.run] using hrest
    | none =>
      rw [hop] at hstep
      simpa [run, hstep] using hrest

theorem sound_run (steps : List (Step α)) :
    (run {} steps).session.Sound (Session.log {} (operations {} steps)) := by
  rw [session_run]
  exact Session.sound_run _

theorem run_snoc (c : Crowd α) (steps : List (Step α)) (step : Step α) :
    c.run (steps ++ [step]) = (c.run steps).after step := by
  simp [run]

/-! How a registration is lost. -/

/-- A section that takes the registration of a request away from all who wait at it. -/
def Frees (c : Crowd α) (id : String) (step : Step α) : Prop :=
  step = .closeAll ∨ (∃ call, step = .enroll call ∧ c.late[call]? = some id)
    ∨ ∃ v, step = .deliver id v

theorem frees_of_operation {c : Crowd α} {id : String} {step : Step α} {op : Session.Operation α}
    (hop : c.operation? step = some op) (h : op.Frees id) : c.Frees id step := by
  cases step with
  | look other =>
    simp only [operation?, Option.ite_none_right_eq_some, Option.some.injEq] at hop
    obtain ⟨-, rfl⟩ := hop
    simp [Session.Operation.Frees] at h
  | enroll call =>
    obtain ⟨other, hcall, rfl⟩ := Option.map_eq_some_iff.1 hop
    have hother : other = id := by simpa [Session.Operation.Frees] using h
    exact .inr (.inl ⟨call, rfl, hother ▸ hcall⟩)
  | poll place =>
    obtain rfl := Option.some.inj hop
    simp [Session.Operation.Frees] at h
  | drop place =>
    obtain rfl := Option.some.inj hop
    simp [Session.Operation.Frees] at h
  | deliver other response =>
    obtain rfl := Option.some.inj hop
    have hother : other = id := by simpa [Session.Operation.Frees] using h
    exact .inr (.inr ⟨response, by rw [hother]⟩)
  | closeAll => exact .inl rfl

/-- A waiter lost its registration by a section that was taken while it waited there. -/
def Lost (steps : List (Step α)) (place : Nat) (w : Waiter) : Prop :=
  ∃ before step rest, steps = before ++ step :: rest
    ∧ (run {} before).session.Holds place w ∧ (run {} before).Frees w.id step

theorem Lost.snoc {steps : List (Step α)} {place : Nat} {w : Waiter} (h : Lost steps place w)
    (step : Step α) : Lost (steps ++ [step]) place w := by
  obtain ⟨before, freeing, rest, rfl, hlost⟩ := h
  exact ⟨before, freeing, rest ++ [step], by simp, hlost⟩

/-- Everybody who was not dropped waits at its registration or has lost it. -/
def Accounted (steps : List (Step α)) : Prop :=
  ∀ place x, (run {} steps).session.waits[place]? = some x →
    x = ⟨x.waiter, .dropped⟩ ∨ (run {} steps).session.Holds place x.waiter
      ∨ Lost steps place x.waiter

theorem Accounted.snoc {steps : List (Step α)} (h : Accounted steps) (step : Step α) :
    Accounted (steps ++ [step]) := by
  intro place x hx
  have hsession := (run {} steps).session_after step
  rw [run_snoc] at hx ⊢
  cases hop : (run {} steps).operation? step with
  | none =>
    rw [hop] at hsession
    rw [hsession] at hx ⊢
    exact (h place x hx).imp_right (Or.imp_right fun hlost => hlost.snoc step)
  | some op =>
    rw [hop] at hsession
    simp only at hsession
    rw [hsession] at hx ⊢
    -- Who waited at its registration before still does, is dropped now, or loses it now.
    have hheld : (run {} steps).session.Holds place x.waiter →
        x = ⟨x.waiter, .dropped⟩ ∨ ((run {} steps).session.after op).Holds place x.waiter
          ∨ Lost (steps ++ [step]) place x.waiter := by
      intro hholds
      rcases hholds.after (sound_run steps) op with hholds' | hdropped | hfrees
      · exact .inr (.inl hholds')
      · exact .inl (Option.some.inj (hx.symm.trans hdropped))
      · exact .inr (.inr ⟨steps, step, [], rfl, hholds, frees_of_operation hop hfrees⟩)
    rcases Session.getElem?_of_after hx with hold | hwaiting | hnew
    · rcases h place x hold with hdropped | hholds | hlost
      · exact .inl hdropped
      · exact hheld hholds
      · exact .inr (.inr (hlost.snoc step))
    · rcases h place _ hwaiting with hdropped | hholds | hlost
      · cases hdropped
      · exact hheld hholds
      · exact .inr (.inr (hlost.snoc step))
    · exact .inr (.inl hnew)

theorem accounted (steps : List (Step α)) : Accounted steps := by
  have hrun : ∀ (rest done : List (Step α)), Accounted done → Accounted (done ++ rest) := by
    intro rest
    induction rest with
    | nil => exact fun done h => by simpa using h
    | cons step rest ih =>
      intro done h
      have hnext := ih (done ++ [step]) (h.snoc step)
      simpa using hnext
  exact hrun steps [] fun place x hx => by cases hx

/-! What becomes of those who lost it. -/

/-- A waiter lost its registration as the table was closed, or to a response that somebody else who
waited there has received. -/
def Released (steps : List (Step α)) (place : Nat) (w : Waiter) : Prop :=
  ∃ before step rest, steps = before ++ step :: rest
    ∧ (run {} before).session.Holds place w
    ∧ (step = .closeAll ∨ ∃ v, step = .deliver w.id v
      ∧ ∃ y ∈ (run {} steps).session.waits, y.waiter = w ∧ y.received = some v)

/-- A waiter lost its registration to a call that had found none before. -/
def Displaced (steps : List (Step α)) (place : Nat) (w : Waiter) : Prop :=
  ∃ before call rest, steps = before ++ .enroll call :: rest
    ∧ (run {} before).session.Holds place w ∧ (run {} before).late[call]? = some w.id

/-- A response delivered where somebody waited was received there once anybody there has yielded. -/
theorem exists_receiver {before rest : List (Step α)} {place : Nat} {x : Wait α} {v : α}
    (hholds : (run {} before).session.Holds place x.waiter)
    (hx : x ∈ (run {} (before ++ .deliver x.waiter.id v :: rest)).session.waits)
    (hresolved : x.isResolved = true) :
    ∃ y ∈ (run {} (before ++ .deliver x.waiter.id v :: rest)).session.waits,
      y.waiter = x.waiter ∧ y.received = some v := by
  have hs := sound_run (before ++ .deliver x.waiter.id v :: rest)
  obtain ⟨r, hfind, hg⟩ := exists_of_stands hholds.stands
  rw [session_run] at hfind
  have hp : (x.waiter, v) ∈ Session.log {} (operations {} (before ++ .deliver x.waiter.id v :: rest)) := by
    have haccepted := Session.mem_log_of_deliver hfind v
      (((run {} before).after (.deliver x.waiter.id v)).operations rest)
    rw [hg] at haccepted
    rw [operations_append]
    exact haccepted
  have hone := (Session.receivers_of_accepted hs hp).2 ⟨x, hx, rfl, hresolved⟩
  obtain ⟨y, hy, hreceived⟩ := List.countP_pos_iff.1 (Nat.lt_of_lt_of_eq Nat.one_pos hone.symm)
  obtain ⟨hsome, hsame⟩ := Bool.and_eq_true_iff.1 hreceived
  obtain ⟨u, hu⟩ := Option.isSome_iff_exists.1 hsome
  have hq := hs.values y hy u hu
  have hpair := eq_of_nodup_map hs.once hq hp (by simpa using hsame)
  obtain ⟨hwaiter, rfl⟩ := Prod.mk.inj hpair
  exact ⟨y, hy, hwaiter, hu⟩

theorem released_or_displaced {steps : List (Step α)} {place : Nat} {w : Waiter}
    (hx : (run {} steps).session.waits[place]? = some ⟨w, .resolved none⟩) :
    Released steps place w ∨ Displaced steps place w := by
  rcases accounted steps place _ hx with hdropped | hholds | hlost
  · cases hdropped
  · cases hx.symm.trans hholds.waiting
  · obtain ⟨before, step, rest, rfl, hholds, rfl | ⟨call, rfl, hcall⟩ | ⟨v, rfl⟩⟩ := hlost
    · exact .inl ⟨before, _, rest, rfl, hholds, .inl rfl⟩
    · exact .inr ⟨before, call, rest, rfl, hholds, hcall⟩
    · have hreceiver := exists_receiver hholds (List.mem_of_getElem? hx) rfl
      exact .inl ⟨before, _, rest, rfl, hholds, .inr ⟨v, rfl, hreceiver⟩⟩

/-! When nobody is displaced. -/

/-- No call registers a request that is registered already. -/
def Apart (steps : List (Step α)) : Prop :=
  ∀ before call rest id, steps = before ++ .enroll call :: rest →
    (run {} before).late[call]? = some id → (run {} before).session.table.isPending id = false

theorem Apart.not_displaced {steps : List (Step α)} (h : Apart steps) {place : Nat} {w : Waiter} :
    ¬Displaced steps place w := by
  rintro ⟨before, call, rest, rfl, hholds, hcall⟩
  obtain ⟨r, hfind, -⟩ := exists_of_stands hholds.stands
  have hnone := h before call rest w.id rfl hcall
  rw [isPending, hfind] at hnone
  cases hnone

theorem length_waits_run (c : Crowd α) (steps : List (Step α)) :
    c.session.waits.length ≤ (c.run steps).session.waits.length := by
  induction steps generalizing c with
  | nil => exact Nat.le_refl _
  | cons step steps ih =>
    refine Nat.le_trans ?_ (ih (c.after step))
    rw [session_after]
    cases c.operation? step with
    | some op => exact c.session.length_waits_after op
    | none => exact Nat.le_refl _

theorem run_append (c : Crowd α) (steps steps' : List (Step α)) :
    c.run (steps ++ steps') = (c.run steps).run steps' :=
  List.foldl_append

/-- Whoever began to wait later lost its registration later. -/
theorem Lost.later {before rest : List (Step α)} {place : Nat} {w : Waiter}
    (h : Lost (before ++ rest) place w)
    (hplace : (run {} before).session.waits.length ≤ place) :
    ∃ middle step tail, rest = middle ++ step :: tail
      ∧ (run {} (before ++ middle)).session.Holds place w
      ∧ (run {} (before ++ middle)).Frees w.id step := by
  obtain ⟨front, step, tail, hsteps, hholds, hfrees⟩ := h
  rcases List.append_eq_append_iff.1 hsteps with ⟨middle, rfl, hrest⟩ | ⟨between, rfl, -⟩
  · exact ⟨middle, step, tail, hrest, hholds, hfrees⟩
  · have hlt := (List.getElem?_eq_some_iff.1 hholds.waiting).1
    have hle := length_waits_run (run {} front) between
    rw [run_append] at hplace
    omega

/-- All who began to wait for a request after the last response to it and the last closing, and were
not dropped, wait at the registration that stands. -/
theorem Apart.waits_together {before rest : List (Step α)} {id : String}
    (h : Apart (before ++ rest)) (hclose : .closeAll ∉ rest) (hdeliver : ∀ v, .deliver id v ∉ rest)
    {place : Nat} {x : Wait α} (hplace : (run {} before).session.waits.length ≤ place)
    (hx : (run {} (before ++ rest)).session.waits[place]? = some x) (hid : x.waiter.id = id)
    (hkept : x ≠ ⟨x.waiter, .dropped⟩) :
    (run {} (before ++ rest)).session.Holds place x.waiter := by
  rcases accounted (before ++ rest) place x hx with hdropped | hholds | hlost
  · exact absurd hdropped hkept
  · exact hholds
  · obtain ⟨middle, step, tail, rfl, hholds, hfrees⟩ := hlost.later hplace
    rcases hfrees with rfl | ⟨call, rfl, hcall⟩ | ⟨v, rfl⟩
    · exact absurd (List.mem_append_right _ (List.mem_cons_self ..)) hclose
    · have hdisplaced : Displaced (before ++ (middle ++ .enroll call :: tail)) place x.waiter :=
        ⟨before ++ middle, call, tail, by simp, hholds, hcall⟩
      exact absurd hdisplaced h.not_displaced
    · rw [hid] at hdeliver
      exact absurd (List.mem_append_right _ (List.mem_cons_self ..)) (hdeliver v)

/-- Over every interleaving of sections a waiter that comes away with nothing was turned away by
closing, or by a response that somebody else who waited with it received, or was displaced by a call
that registered late. While no call registers what is registered already, nobody is displaced, and
all who began to wait for a request after the last response to it and the last closing wait together
at the one registration of the request. -/
theorem run_sections (steps : List (Step α)) :
    (∀ place w, (run {} steps).session.waits[place]? = some ⟨w, .resolved none⟩ →
      Released steps place w ∨ Displaced steps place w)
    ∧ (Apart steps →
      (∀ place w, ¬Displaced steps place w)
      ∧ ∀ before rest id, steps = before ++ rest → .closeAll ∉ rest →
        (∀ v, .deliver id v ∉ rest) → ∀ place x,
          (run {} before).session.waits.length ≤ place →
          (run {} steps).session.waits[place]? = some x → x.waiter.id = id →
          x ≠ ⟨x.waiter, .dropped⟩ →
            x.isWaiting = true ∧ ∃ r, (run {} steps).session.table.find? id = some r
              ∧ r.generation = x.waiter.generation) := by
  refine ⟨fun _ _ => released_or_displaced, fun hapart => ⟨fun _ _ => hapart.not_displaced, ?_⟩⟩
  rintro before rest id rfl hclose hdeliver place x hplace hx rfl hkept
  have hholds := hapart.waits_together hclose hdeliver hplace hx rfl hkept
  have hwaiting : x = ⟨x.waiter, .waiting⟩ := Option.some.inj (hx.symm.trans hholds.waiting)
  exact ⟨by rw [hwaiting]; rfl, exists_of_stands hholds.stands⟩

/-- While one call is between its sections, another goes through both of its own. -/
def crossing : List (Step Nat) := [.look "r", .look "r", .enroll 1, .enroll 0, .poll 0]

/-- The call that registers last displaces the other, which comes away with nothing though no response
came and nothing was closed. -/
theorem displaced_of_crossing :
    (run {} crossing).session.waits[0]?.map (fun x => (x.waiter.generation, x.isResolved, x.received))
        = some (0, true, none)
      ∧ (run {} crossing).session.waits[1]?.map (fun x => (x.waiter.generation, x.isResolved))
        = some (1, false)
      ∧ (run {} crossing).session.table.find? "r"
        = some { id := "r", generation := 1, waiters := 1 } := by
  decide

end Crowd
end Waystation.Correlation
