import Waystation.Proofs.Program.Runs
/-!
Programs on their way. After some exchanges a program has a rest left to do; whatever is exchanged
next, the rest is what goes on. A program that keeps to some kinds of requests does so at all times.
-/
namespace Waystation.Program

variable {S T : Signature} {α β : Type}

/-- What is left of a program after some exchanges. -/
inductive Leads : Program S α → List (Exchange S) → Program S α → Prop
  | here (p : Program S α) : Leads p [] p
  | step {r : S.Request} {next : S.Reply r → Program S α} {reply : S.Reply r}
      {t : List (Exchange S)} {q : Program S α} (h : Leads (next reply) t q) :
      Leads (ask r next) (⟨r, reply⟩ :: t) q

variable {p q q' : Program S α} {t t' : List (Exchange S)} {a : α}

theorem leads_nil_iff : Leads p [] q ↔ q = p := by
  constructor
  · intro h
    cases h
    rfl
  · rintro rfl
    exact .here q

theorem leads_done_iff : Leads (done a) t q ↔ t = [] ∧ q = done a := by
  constructor
  · intro h
    cases h
    exact ⟨rfl, rfl⟩
  · rintro ⟨rfl, rfl⟩
    exact .here _

theorem leads_ask_cons_iff {r : S.Request} {next : S.Reply r → Program S α} {x : Exchange S} :
    Leads (ask r next) (x :: t) q ↔ ∃ reply, x = ⟨r, reply⟩ ∧ Leads (next reply) t q := by
  constructor
  · intro h
    cases h with
    | step h => exact ⟨_, rfl, h⟩
  · rintro ⟨reply, rfl, h⟩
    exact .step h

theorem Leads.trans (h : Leads p t q) (h' : Leads q t' q') : Leads p (t ++ t') q' := by
  induction h with
  | here p => exact h'
  | step _ ih => exact .step (ih h')

theorem Leads.snoc {r : S.Request} {next : S.Reply r → Program S α} (h : Leads p t (ask r next))
    (reply : S.Reply r) : Leads p (t ++ [⟨r, reply⟩]) (next reply) :=
  h.trans (.step (.here _))

/-- What is left is decided by what was exchanged. -/
theorem Leads.rest (h : Leads p t q) (h' : Leads p (t ++ t') q') : Leads q t' q' := by
  induction h with
  | here p => exact h'
  | step _ ih =>
    obtain ⟨reply, hx, hrest⟩ := leads_ask_cons_iff.1 h'
    cases hx
    exact ih hrest

theorem Leads.unique (h : Leads p t q) (h' : Leads p t q') : q' = q :=
  leads_nil_iff.1 (h.rest (by rwa [List.append_nil]))

theorem Leads.runs (h : Leads p t q) (h' : q.Runs t' a) : p.Runs (t ++ t') a := by
  induction h with
  | here p => exact h'
  | step _ ih => exact .ask (ih h')

theorem leads_iff_runs : Leads p t (done a) ↔ p.Runs t a := by
  constructor
  · intro h
    simpa using h.runs (.done a)
  · intro h
    induction h with
    | done a => exact .here _
    | ask _ ih => exact .step ih

theorem Leads.bind (h : Leads p t q) (f : α → Program S β) : Leads (p >>= f) t (q >>= f) := by
  induction h with
  | here p => exact .here _
  | step _ ih => exact .step ih

/-- A run is on its way at every point of it. -/
theorem Runs.exists_leads (h : p.Runs (t ++ t') a) : ∃ q, Leads p t q ∧ q.Runs t' a := by
  induction t generalizing p with
  | nil => exact ⟨p, .here p, h⟩
  | cons x t ih =>
    cases h with
    | ask h =>
      obtain ⟨q, hleads, hruns⟩ := ih h
      exact ⟨q, .step hleads, hruns⟩

/-- One program behind another is at the first or, when that has run, at the second. -/
theorem leads_bind_cases {f : α → Program S β} {q : Program S β} (h : Leads (p >>= f) t q) :
    (∃ q', Leads p t q' ∧ q = q' >>= f)
      ∨ ∃ first a second, t = first ++ second ∧ p.Runs first a ∧ Leads (f a) second q := by
  induction p generalizing t with
  | done a => exact .inr ⟨[], a, t, rfl, .done a, h⟩
  | ask r next ih =>
    cases t with
    | nil =>
      obtain rfl := leads_nil_iff.1 h
      exact .inl ⟨_, .here _, rfl⟩
    | cons x t =>
      obtain ⟨reply, rfl, hrest⟩ := leads_ask_cons_iff.1 h
      rcases ih reply hrest with ⟨q', hq', rfl⟩ | ⟨first, a, second, rfl, hfirst, hsecond⟩
      · exact .inl ⟨q', .step hq', rfl⟩
      · exact .inr ⟨_ :: first, a, second, rfl, .ask hfirst, hsecond⟩

/-! Programs that keep to some requests. -/

/-- Every request that a program may make satisfies a condition, and so does every answer it may come
to. -/
def Within (P : S.Request → Prop) (Q : α → Prop) : Program S α → Prop
  | done a => Q a
  | ask r next => P r ∧ ∀ reply, (next reply).Within P Q

variable {P P' : S.Request → Prop} {Q Q' : α → Prop}

theorem Within.mono (h : p.Within P Q) (hP : ∀ r, P r → P' r) (hQ : ∀ a, Q a → Q' a) :
    p.Within P' Q' := by
  induction p with
  | done a => exact hQ a h
  | ask r next ih => exact ⟨hP r h.1, fun reply => ih reply (h.2 reply)⟩

theorem Within.bind {R : β → Prop} {f : α → Program S β} (h : p.Within P Q)
    (hf : ∀ a, Q a → (f a).Within P R) : (p >>= f).Within P R := by
  induction p with
  | done a => exact hf a h
  | ask r next ih => exact ⟨h.1, fun reply => ih reply (h.2 reply)⟩

/-- A program keeps to the requests that each of its own is made of. -/
theorem within_embed {P : T.Request → Prop} {f : (r : S.Request) → Program T (S.Reply r)}
    (hf : ∀ r, (f r).Within P fun _ => True) (p : Program S α) :
    (p.embed f).Within P fun _ => True := by
  induction p with
  | done a => exact trivial
  | ask r next ih => exact (hf r).bind fun reply _ => ih reply

/-- A program is over other requests what its own requests are there. -/
theorem Within.embed {P' : T.Request → Prop} {f : (r : S.Request) → Program T (S.Reply r)}
    (hp : p.Within P Q) (hf : ∀ r, P r → (f r).Within P' fun _ => True) :
    (p.embed f).Within P' Q := by
  induction p with
  | done a => exact hp
  | ask r next ih => exact (hf r hp.1).bind fun reply _ => ih reply (hp.2 reply)

theorem Within.leads (hp : p.Within P Q) (h : Leads p t q) :
    (∀ x ∈ t, P x.1) ∧ q.Within P Q := by
  induction h with
  | here p => exact ⟨fun x hx => (List.not_mem_nil hx).elim, hp⟩
  | step _ ih =>
    obtain ⟨hrest, hq⟩ := ih (hp.2 _)
    exact ⟨fun x hx => (List.mem_cons.1 hx).elim (fun h => h ▸ hp.1) (hrest x), hq⟩

theorem Within.runs (hp : p.Within P Q) (h : p.Runs t a) : (∀ x ∈ t, P x.1) ∧ Q a :=
  hp.leads (leads_iff_runs.2 h)

end Waystation.Program
