import Mathlib.Data.List.TakeWhile
import Waystation.Proofs.Node.Dismissal
/-!
What listeners do, message by message. A listener goes its rounds one after the other. In a round it
takes one message at most, and it begins no other round before the work on that message has come to
its end; a listener that leaves meanwhile sees the work through and is finished. A panic that breaks
the work off finishes the listener, too.
-/
namespace Waystation

/-- What a listener did with a message that it took. -/
structure Handling where
  delivery : Delivery
  work : List (Exchange WorkSignature)

/-- Has the work on a message come to its end? -/
def Handling.IsFinished (toWork : Delivery → Work) (k : Handling) : Prop :=
  (toWork k.delivery).Runs k.work (.ok ())

/-- Has a panic broken the work on a message off? -/
def Handling.IsBroken (toWork : Delivery → Work) (k : Handling) : Prop :=
  ∃ panic, (toWork k.delivery).Runs k.work (.error panic)

/-- Messages are handled one after the other: the work on each has been begun, and the work on each but
the last has come to its end. -/
def InTurn (toWork : Delivery → Work) (ks : List Handling) : Prop :=
  (∀ k ∈ ks.dropLast, k.IsFinished toWork) ∧ ∀ k ∈ ks, ∃ w, (toWork k.delivery).Leads k.work w

/-- Work that has not come to its end is that on the last message. -/
theorem InTurn.getLast?_eq {toWork : Delivery → Work} {ks : List Handling}
    (h : InTurn toWork ks) {k : Handling} (hk : k ∈ ks) (hunfinished : ¬k.IsFinished toWork) :
    ks.getLast? = some k := by
  rcases List.eq_nil_or_concat ks with rfl | ⟨before, last, rfl⟩
  · cases hk
  · have hbefore : k ∉ before := fun hmem =>
      hunfinished (h.1 k (by rwa [List.concat_eq_append, List.dropLast_concat]))
    rw [List.concat_eq_append] at hk ⊢
    rw [List.getLast?_concat, (mem_snoc.1 hk).resolve_left hbefore]

namespace Listener

open NodeRequest Program

/-- Does an exchange ask for a message? -/
def isTake (x : Exchange NodeSignature) : Bool :=
  match x.1 with
  | .take _ => true
  | _ => false

/-- The message that is taken in an exchange. -/
def taken? : Exchange NodeSignature → Option Delivery
  | ⟨.take _, .delivery d⟩ => some d
  | _ => none

/-- The work that is done in an exchange. -/
def worked? : Exchange NodeSignature → Option (Exchange WorkSignature)
  | ⟨.work r, reply⟩ => some ⟨r, reply⟩
  | ⟨.watched r, some reply⟩ => some ⟨r, reply⟩
  | _ => none

/-- What a listener did with the messages that it took, one after the other: the work on each is what
was done before it asked for another. -/
def handlings : List (Exchange NodeSignature) → List Handling
  | [] => []
  | x :: t =>
    ((taken? x).map fun d =>
      { delivery := d, work := (t.takeWhile (!isTake ·)).filterMap worked? }).toList ++ handlings t

variable {t t' : List (Exchange NodeSignature)} {x : Exchange NodeSignature}

theorem taken?_eq_none (h : isTake x = false) : taken? x = none := by
  obtain ⟨r, reply⟩ := x
  cases r with
  | take s => cases h
  | _ => rfl

/-- Messages are handled in the order in which they are taken. -/
theorem map_delivery_handlings (t : List (Exchange NodeSignature)) :
    (handlings t).map (·.delivery) = t.filterMap taken? := by
  induction t with
  | nil => rfl
  | cons x t ih =>
    rw [handlings, List.map_append, ih]
    cases h : taken? x with
    | none => rw [List.filterMap_cons_none h]; rfl
    | some d => rw [List.filterMap_cons_some h]; rfl

/-- Behind the next request for a message nothing is added to what was done before. -/
theorem handlings_append (h : t'.takeWhile (!isTake ·) = []) :
    handlings (t ++ t') = handlings t ++ handlings t' := by
  induction t with
  | nil => rfl
  | cons x t ih =>
    have hwhile : (t ++ t').takeWhile (!isTake ·) = t.takeWhile (!isTake ·) := by
      rw [List.takeWhile_append, h]
      split
      next hall =>
        rw [List.append_nil]
        exact ((List.takeWhile_prefix _).eq_of_length hall).symm
      next => rfl
    rw [List.cons_append, handlings, handlings, ih, hwhile, List.append_assoc]

/-- A round that takes a message handles that message and no other. -/
theorem handlings_round (ht : ∀ y ∈ t, isTake y = false) :
    handlings (x :: t)
      = ((taken? x).map fun d => { delivery := d, work := t.filterMap worked? }).toList := by
  have hall : t.takeWhile (!isTake ·) = t :=
    List.takeWhile_eq_self_iff.2 fun y hy => by simp [ht y hy]
  have hnone : handlings t = [] := by
    rw [← List.map_eq_nil_iff (f := (·.delivery)), map_delivery_handlings, List.filterMap_eq_nil_iff]
    exact fun y hy => taken?_eq_none (ht y hy)
  rw [handlings, hall, hnone, List.append_nil]

variable {s : Nat} {toWork : Delivery → Work} {w : Work}
variable {stage : Stage} {p q : Program NodeSignature Turn}

/-- Work to be seen through before a listener is finished. -/
def seeing (w : Work) : Program NodeSignature Turn := do
  let _ ← w.ofWork
  return .finished

/-- A listener at a stage has some work left: it serves, or it leaves, or it has left. -/
inductive Working (s : Nat) (w : Work) : Stage → Program NodeSignature Turn → Prop
  | serving : Working s w .serving (serve s w)
  | departing : Working s w .serving (depart s >>= fun _ => seeing w)
  | out : Working s w .out (ask (tellLeft s) fun _ => seeing w)
  | seeing : Working s w .told (seeing w)

/-- A listener that has nothing more to ask has no work left. It goes on only if the work came to its
end, and unless it goes on it has left or a panic broke the work off. -/
theorem Working.of_done {turn : Turn} (h : Working s w stage (done turn)) :
    ∃ result, w = done result ∧ (turn = .again → result = .ok ())
      ∧ (turn = .finished → stage = .told ∨ ∃ panic, result = .error panic) := by
  generalize hp : done turn = p at h
  cases h with
  | serving =>
    cases w with
    | done result =>
      cases result with
      | ok u =>
        cases hp
        exact ⟨_, rfl, fun _ => rfl, fun h => nomatch h⟩
      | error panic =>
        cases hp
        exact ⟨_, rfl, (fun h => nomatch h), fun _ => .inr ⟨panic, rfl⟩⟩
    | ask r next =>
      rw [serve] at hp
      cases hp
  | departing => cases hp
  | out => cases hp
  | seeing =>
    cases w with
    | done result =>
      cases hp
      exact ⟨result, rfl, (fun h => nomatch h), fun _ => .inl rfl⟩
    | ask r next => cases hp

theorem Working.eq_seeing (h : Working s w .told p) : p = Listener.seeing w := by
  cases h
  rfl

/-- What a listener is replied is work, or it leaves the work as it is. -/
theorem Working.step {r : NodeRequest} {next : r.Reply → Program NodeSignature Turn}
    (h : Working s w stage (ask (S := NodeSignature) r next)) (reply : r.Reply) :
    isTake ⟨r, reply⟩ = false ∧ ∃ w' stage', w.Leads (worked? ⟨r, reply⟩).toList w'
      ∧ Working s w' stage' (next reply) ∧ Advance s stage ⟨r, reply⟩ stage' := by
  generalize hp : ask (S := NodeSignature) r next = p at h
  cases h with
  | serving =>
    cases w with
    | done result => cases result <;> cases hp
    | ask request after =>
      rw [serve] at hp
      obtain ⟨rfl, hnext⟩ := ask.inj hp
      obtain rfl := eq_of_heq hnext
      cases reply with
      | none => exact ⟨rfl, _, _, .here _, .departing, .watched⟩
      | some answer => exact ⟨rfl, _, _, .step (.here _), .serving, .watched⟩
  | departing =>
    obtain ⟨rfl, hnext⟩ := ask.inj hp
    obtain rfl := eq_of_heq hnext
    exact ⟨rfl, _, _, .here _, .out, .left⟩
  | out =>
    obtain ⟨rfl, hnext⟩ := ask.inj hp
    obtain rfl := eq_of_heq hnext
    exact ⟨rfl, _, _, .here _, .seeing, .tells⟩
  | seeing =>
    cases w with
    | done u => cases hp
    | ask request after =>
      obtain ⟨rfl, hnext⟩ := ask.inj hp
      obtain rfl := eq_of_heq hnext
      exact ⟨rfl, _, _, .step (.here _), .seeing, .worked⟩

/-- How a listener has come from one stage to another: it has left its group unless it had before, and
it is at the last stage if it has told so. -/
structure Passes (s : Nat) (stage : Stage) (t : List (Exchange NodeSignature)) (stage' : Stage) :
    Prop where
  left : stage' ≠ .serving → stage ≠ .serving ∨ ⟨.leave s, ()⟩ ∈ t
  stays : stage = .told → stage' = .told
  told : ⟨.tellLeft s, ()⟩ ∈ t → stage' = .told

theorem Passes.cons {stage' stage'' : Stage} (h : Advance s stage x stage') (hx : isTake x = false)
    (ht : Passes s stage' t stage'') : Passes s stage (x :: t) stage'' := by
  have hmore : ⟨.leave s, ()⟩ ∈ t → ⟨.leave s, ()⟩ ∈ x :: t := List.mem_cons_of_mem x
  have hrest : x ≠ ⟨.tellLeft s, ()⟩ → ⟨.tellLeft s, ()⟩ ∈ x :: t → stage'' = .told :=
    fun hother h => ht.told ((List.mem_cons.1 h).resolve_left (Ne.symm hother))
  cases h with
  | worked => exact ⟨fun h => (ht.left h).imp_right hmore, ht.stays, hrest (fun h => nomatch h)⟩
  | watched => exact ⟨fun h => (ht.left h).imp_right hmore, ht.stays, hrest (fun h => nomatch h)⟩
  | took | lost => cases hx
  | left => exact ⟨fun _ => .inr List.mem_cons_self, (fun h => nomatch h), hrest (fun h => nomatch h)⟩
  | tells => exact ⟨fun _ => .inl (fun h => nomatch h), (fun h => nomatch h), fun _ => ht.stays rfl⟩

/-- A listener does its work request by request and asks for no message meanwhile. -/
theorem Working.leads (h : Working s w stage p) (hleads : p.Leads t q) :
    (∀ x ∈ t, isTake x = false) ∧ ∃ w' stage', w.Leads (t.filterMap worked?) w'
      ∧ Working s w' stage' q ∧ Passes s stage t stage' := by
  induction hleads generalizing w stage with
  | here p =>
    exact ⟨fun x hx => (List.not_mem_nil hx).elim, w, stage, .here w, h, .inl, id,
      fun h => (List.not_mem_nil h).elim⟩
  | @step r next reply t q hrest ih =>
    obtain ⟨hfirst, w', stage', hw, hnext, hadvance⟩ := h.step reply
    obtain ⟨hothers, w'', stage'', hw', hq, hpasses⟩ := ih hnext
    refine ⟨List.forall_mem_cons.2 ⟨hfirst, hothers⟩, w'', stage'', ?_, hq, .cons hadvance hfirst hpasses⟩
    have hsplit : (⟨r, reply⟩ :: t : List (Exchange NodeSignature)).filterMap worked?
        = (worked? ⟨r, reply⟩).toList ++ t.filterMap worked? := by
      rw [List.filterMap_cons]
      cases worked? ⟨r, reply⟩ <;> rfl
    rw [hsplit]
    exact hw.trans hw'

/-- What is to be done about what a listener got. -/
def workOn (toWork : Delivery → Work) : Taken → Work
  | .delivery d => toWork d
  | _ => .done (.ok ())

/-- A round begins with a request for a message; the rest of it is the work on what is got. -/
theorem leads_round (h : (round s toWork).Leads t q) :
    t = [] ∧ q = round s toWork ∨ ∃ taken rest w stage, t = ⟨.take s, taken⟩ :: rest
      ∧ (∀ x ∈ rest, isTake x = false) ∧ (workOn toWork taken).Leads (rest.filterMap worked?) w
      ∧ Working s w stage q ∧ (⟨.tellLeft s, ()⟩ ∈ rest → stage = .told)
      ∧ (stage ≠ .serving → ⟨.leave s, ()⟩ ∈ rest ∨ taken = .closed ∨ taken = .broken) := by
  cases t with
  | nil => exact .inl ⟨rfl, leads_nil_iff.1 h⟩
  | cons x t =>
    obtain ⟨taken, rfl, hrest⟩ := leads_ask_cons_iff.1 h
    have hworking : ∃ p stage, p.Leads t q ∧ Working s (workOn toWork taken) stage p
        ∧ (stage ≠ .serving → taken = .closed ∨ taken = .broken) := by
      cases taken with
      | delivery d => exact ⟨_, _, hrest, .serving, fun h => absurd rfl h⟩
      | closed => exact ⟨_, _, hrest, .out, fun _ => .inl rfl⟩
      | stopped => exact ⟨_, _, hrest, .departing, fun h => absurd rfl h⟩
      | broken => exact ⟨_, _, hrest, .seeing, fun _ => .inr rfl⟩
    obtain ⟨p, stage, hleads, hp, hstage⟩ := hworking
    obtain ⟨hnone, w, stage', hw, hq, hpasses⟩ := hp.leads hleads
    refine .inr ⟨taken, t, w, stage', rfl, hnone, hw, hq, hpasses.told, fun hgone => ?_⟩
    exact (hpasses.left hgone).elim (fun h => .inr (hstage h)) .inl

/-! Rounds, one after the other. -/

/-- A listener that goes on has finished the work on what it got. -/
theorem runs_round (h : (round s toWork).Runs t .again) : ∃ taken rest, t = ⟨.take s, taken⟩ :: rest
    ∧ (∀ x ∈ rest, isTake x = false) ∧ (workOn toWork taken).Runs (rest.filterMap worked?) (.ok ()) := by
  rcases leads_round (leads_iff_runs.2 h) with ⟨-, hdone⟩ | ⟨taken, rest, w, stage, rfl, hnone, hw, hq, -⟩
  · cases hdone
  · obtain ⟨result, rfl, hok, -⟩ := hq.of_done
    obtain rfl := hok rfl
    exact ⟨taken, rest, rfl, hnone, leads_iff_runs.1 hw⟩

/-- What is done in a round is done about the message that was taken. -/
theorem handled_round {taken : Taken} {rest : List (Exchange NodeSignature)}
    {w : Work} (hnone : ∀ x ∈ rest, isTake x = false)
    (hw : (workOn toWork taken).Leads (rest.filterMap worked?) w) :
    (∃ d, taken = .delivery d
        ∧ handlings (⟨.take s, taken⟩ :: rest) = [{ delivery := d, work := rest.filterMap worked? }])
      ∨ handlings (⟨.take s, taken⟩ :: rest) = [] ∧ rest.filterMap worked? = []
        ∧ w = .done (.ok ()) := by
  rw [handlings_round hnone]
  cases taken with
  | delivery d => exact .inl ⟨d, rfl, rfl⟩
  | closed | stopped | broken =>
    obtain ⟨hwork, hdone⟩ := leads_done_iff.1 hw
    exact .inr ⟨rfl, hwork, hdone⟩

/-- In a round after which a listener goes on, all work was finished and the listener stayed. -/
theorem finished_round (h : (round s toWork).Runs t .again) :
    (∀ k ∈ handlings t, k.IsFinished toWork)
      ∧ t.filterMap worked? = (handlings t).flatMap (·.work) ∧ ⟨.tellLeft s, ()⟩ ∉ t := by
  rcases leads_round (leads_iff_runs.2 h) with
    ⟨-, hdone⟩ | ⟨taken, rest, w, stage, rfl, hnone, hw, hq, htold, -⟩
  · cases hdone
  · obtain ⟨result, rfl, hok, -⟩ := hq.of_done
    obtain rfl := hok rfl
    have hwork : (⟨.take s, taken⟩ :: rest : List (Exchange NodeSignature)).filterMap worked?
        = rest.filterMap worked? := rfl
    have hstayed : ⟨.tellLeft s, ()⟩ ∉ (⟨.take s, taken⟩ :: rest : List (Exchange NodeSignature)) := by
      intro hmem
      obtain rfl := htold ((List.mem_cons.1 hmem).resolve_left (fun h => nomatch h))
      cases hq.eq_seeing
    rcases handled_round hnone hw with ⟨d, rfl, hhandled⟩ | ⟨hhandled, hnothing, -⟩
    · rw [hhandled, hwork]
      refine ⟨fun k hk => ?_, by simp, hstayed⟩
      obtain rfl := List.mem_singleton.1 hk
      exact leads_iff_runs.1 hw
    · rw [hhandled, hwork, hnothing]
      exact ⟨fun k hk => (List.not_mem_nil hk).elim, rfl, hstayed⟩

/-- A listener has gone whole rounds and is in another one, with a program left to do. -/
inductive Stands (s : Nat) (toWork : Delivery → Work) :
    List (Exchange NodeSignature) → Program NodeSignature Turn → Prop
  | now {t : List (Exchange NodeSignature)} {q : Program NodeSignature Turn}
      (h : (round s toWork).Leads t q) : Stands s toWork t q
  | later {t t' : List (Exchange NodeSignature)} {q : Program NodeSignature Turn}
      (ht : (round s toWork).Runs t .again) (h : Stands s toWork t' q) : Stands s toWork (t ++ t') q

theorem Stands.step {r : NodeRequest} {next : r.Reply → Program NodeSignature Turn}
    (h : Stands s toWork t (ask (S := NodeSignature) r next)) (reply : r.Reply) :
    Stands s toWork (t ++ [⟨r, reply⟩]) (next reply) := by
  generalize hp : ask (S := NodeSignature) r next = p at h
  induction h with
  | now h =>
    subst hp
    exact .now (h.snoc reply)
  | later ht _ ih =>
    rw [List.append_assoc]
    exact .later ht (ih hp)

theorem Stands.again (h : Stands s toWork t (done .again)) : Stands s toWork t (round s toWork) := by
  generalize hp : done Turn.again = p at h
  induction h with
  | @now t q h =>
    subst hp
    have hwhole := Stands.later (leads_iff_runs.1 h) (.now (.here (round s toWork)))
    rwa [List.append_nil] at hwhole
  | later ht _ ih => exact .later ht (ih hp)

/-- The history of a listener begins with a request for a message, if it has begun. -/
theorem Stands.takeWhile_eq_nil (h : Stands s toWork t q) : t.takeWhile (!isTake ·) = [] := by
  cases h with
  | now h =>
    rcases leads_round h with ⟨rfl, -⟩ | ⟨taken, rest, w, stage, rfl, -⟩
    · rfl
    · rfl
  | later ht h =>
    obtain ⟨taken, rest, rfl, -⟩ := runs_round ht
    rfl

/-- All rounds but the last have come to their end, and the listener has not left in them. -/
theorem Stands.split (h : Stands s toWork t q) : ∃ before last, t = before ++ last
    ∧ (round s toWork).Leads last q ∧ handlings t = handlings before ++ handlings last
    ∧ (∀ k ∈ handlings before, k.IsFinished toWork)
    ∧ before.filterMap worked? = (handlings before).flatMap (·.work)
    ∧ ⟨.tellLeft s, ()⟩ ∉ before := by
  induction h with
  | @now t q h => exact ⟨[], t, rfl, h, rfl, (fun _ hk => nomatch hk), rfl, List.not_mem_nil⟩
  | @later t t' q ht h ih =>
    obtain ⟨before, last, rfl, hlast, hsplit, hfinished, hwork, hstayed⟩ := ih
    have hbegins := h.takeWhile_eq_nil
    obtain ⟨hround, hround', hnever⟩ := finished_round ht
    have hbegins' : before.takeWhile (!isTake ·) = [] := by
      cases before with
      | nil => rfl
      | cons x before => simpa [List.takeWhile_cons] using hbegins
    refine ⟨t ++ before, last, (List.append_assoc ..).symm, hlast, ?_, ?_, ?_, ?_⟩
    · rw [handlings_append hbegins, handlings_append hbegins', hsplit, List.append_assoc]
    · rw [handlings_append hbegins']
      exact List.forall_mem_append.2 ⟨hround, hfinished⟩
    · rw [handlings_append hbegins', List.filterMap_append, List.flatMap_append, hround', hwork]
    · exact fun h => (List.mem_append.1 h).elim hnever hstayed

/-- What a listener does it does about the messages that it takes, one after the other. -/
theorem Stands.inTurn (h : Stands s toWork t q) :
    InTurn toWork (handlings t) ∧ t.filterMap worked? = (handlings t).flatMap (·.work) := by
  obtain ⟨before, last, rfl, hlast, hsplit, hfinished, hwork, -⟩ := h.split
  rw [hsplit, List.filterMap_append, List.flatMap_append, hwork]
  have hbegun : ∀ k ∈ handlings before, ∃ w, (toWork k.delivery).Leads k.work w := fun k hk =>
    ⟨_, leads_iff_runs.2 (hfinished k hk)⟩
  rcases leads_round hlast with ⟨rfl, -⟩ | ⟨taken, rest, w, stage, rfl, hnone, hw, -⟩
  · rw [handlings, List.append_nil]
    refine ⟨⟨fun k hk => hfinished k (List.dropLast_subset _ hk), hbegun⟩, rfl⟩
  · have hrest : (⟨.take s, taken⟩ :: rest : List (Exchange NodeSignature)).filterMap worked?
        = rest.filterMap worked? := rfl
    rw [hrest]
    rcases handled_round (s := s) hnone hw with ⟨d, rfl, hhandled⟩ | ⟨hhandled, hnothing, -⟩
    · rw [hhandled]
      refine ⟨⟨by simpa using hfinished, List.forall_mem_append.2 ⟨hbegun, fun k hk => ?_⟩⟩, by simp⟩
      obtain rfl := List.mem_singleton.1 hk
      exact ⟨w, hw⟩
    · rw [hhandled, hnothing, List.append_nil]
      exact ⟨⟨fun k hk => hfinished k (List.dropLast_subset _ hk), hbegun⟩, rfl⟩

/-- Work that a listener is about to do is work on the message that it took last. -/
theorem Stands.works {r : NodeRequest} {next : r.Reply → Program NodeSignature Turn}
    (h : Stands s toWork t (ask (S := NodeSignature) r next)) {reply : r.Reply}
    {y : Exchange WorkSignature} (hy : worked? ⟨r, reply⟩ = some y) :
    ∃ d work w, (t.filterMap taken?).getLast? = some d ∧ (toWork d).Leads (work ++ [y]) w := by
  obtain ⟨before, last, rfl, hlast, -⟩ := h.split
  rcases leads_round hlast with ⟨-, hround⟩ | ⟨taken, rest, w, stage, rfl, hnone, hw, hq, -⟩
  · -- a round begins with a request for a message, which is no work
    obtain ⟨rfl, -⟩ := ask.inj hround
    cases hy
  · obtain ⟨-, w', -, hstep, -⟩ := hq.step reply
    rw [hy] at hstep
    have hwork := hw.trans hstep
    have hrest : rest.filterMap taken? = [] :=
      List.filterMap_eq_nil_iff.2 fun x hx => taken?_eq_none (hnone x hx)
    cases taken with
    | delivery d =>
      have hlast : (⟨.take s, .delivery d⟩ :: rest : List (Exchange NodeSignature)).filterMap taken?
          = d :: rest.filterMap taken? := rfl
      refine ⟨d, _, w', ?_, hwork⟩
      rw [List.filterMap_append, hlast, hrest, List.getLast?_concat]
    | closed | stopped | broken =>
      obtain ⟨hnothing, -⟩ := leads_done_iff.1 hwork
      simp at hnothing

/-- A listener that has told so, or that is finished, has left its group, or its subscription was closed
or broke, or a panic broke off its work on the last message. -/
theorem Stands.left (h : Stands s toWork t q) (hgone : ⟨.tellLeft s, ()⟩ ∈ t ∨ q = done .finished) :
    ⟨.leave s, ()⟩ ∈ t ∨ ⟨.take s, .closed⟩ ∈ t ∨ ⟨.take s, .broken⟩ ∈ t
      ∨ ∃ k ∈ handlings t, k.IsBroken toWork := by
  obtain ⟨before, last, rfl, hlast, hsplit, -, -, hstayed⟩ := h.split
  rcases leads_round hlast with ⟨rfl, rfl⟩ | ⟨taken, rest, w, stage, rfl, hnone, hw, hq, htold, hleft⟩
  · rcases hgone with htell | hdone
    · rw [List.append_nil] at htell
      exact absurd htell hstayed
    · cases hdone
  · have hstage : stage = .told ∨ ∃ panic, w = done (.error panic) := by
      rcases hgone with htell | rfl
      · have htell' := (List.mem_append.1 htell).resolve_left hstayed
        exact .inl (htold ((List.mem_cons.1 htell').resolve_left (fun h => nomatch h)))
      · obtain ⟨result, rfl, -, hfinished⟩ := hq.of_done
        exact (hfinished rfl).imp_right fun ⟨panic, hpanic⟩ => ⟨panic, by rw [hpanic]⟩
    have hmem : ∀ {x}, x = (⟨.take s, taken⟩ : Exchange NodeSignature) ∨ x ∈ rest →
        x ∈ before ++ ⟨.take s, taken⟩ :: rest := fun h =>
      List.mem_append_right _ (List.mem_cons.2 h)
    rcases hstage with htold | ⟨panic, rfl⟩
    · rcases hleft (by simp [htold]) with hleave | rfl | rfl
      · exact .inl (hmem (.inr hleave))
      · exact .inr (.inl (hmem (.inl rfl)))
      · exact .inr (.inr (.inl (hmem (.inl rfl))))
    · -- only work on a message can be broken off
      rcases handled_round (s := s) hnone hw with ⟨d, rfl, hhandled⟩ | ⟨-, -, hdone⟩
      · refine .inr (.inr (.inr ⟨{ delivery := d, work := rest.filterMap worked? }, ?_, panic,
          leads_iff_runs.1 hw⟩))
        rw [hsplit, hhandled]
        exact List.mem_append_right _ (List.mem_singleton.2 rfl)
      · cases hdone

end Listener
end Waystation
