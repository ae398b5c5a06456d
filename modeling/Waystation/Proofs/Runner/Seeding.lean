import Waystation.Proofs.Runner.Correlation
import Waystation.Proofs.Settings.Shadowing
/-!
Seeding. Until a runner calls its initializer nobody but its driving task does anything, and that writes
nothing but the entries of the process scope. What the initializer finds in the buckets is what was
there before, with these entries in the bucket of the process.
-/
namespace Waystation

open NodeRequest Program

namespace Broker

/-- Buckets are not touched by what is done to a broker otherwise. -/
theorem buckets_after (b : Broker) (op : Operation) : (b.after op).buckets = b.buckets := by
  have hgroup : ∀ id f, (b.changeGroup id f).buckets = b.buckets := by
    intro id f
    rw [changeGroup]
    split <;> rfl
  cases op with
  | setOffline offline | setMaxPayload limit | setHistoryLimit limit | inject m => rfl
  | connect url =>
    simp only [after, connect]
    split <;> rfl
  | publish connection m =>
    simp only [after, publish, whenOpen]
    split
    · split <;> rfl
    · rfl
  | subscribe connection o =>
    simp only [after]
    rcases b.subscribe_cases connection o with ⟨-, -, hjoined⟩ | ⟨issued, -, hsame⟩
    · rw [hjoined]
      rfl
    · rw [hsame]
  | next subscription =>
    simp only [after, next]
    split <;> rfl
  | acknowledge delivery =>
    simp only [after, acknowledge]
    split <;> rfl
  | unsubscribe subscription | drop subscription => exact hgroup _ _
  | close connection =>
    simp only [after, close]
    split <;> rfl

end Broker

namespace Settings

variable {s : Settings} {pairs : List (Scope × String)} {b : Broker} {key bucket : String}

/-- The write of an entry to the process scope. -/
def entering (entry : String × String) : Access :=
  .set entry.1 (Bytes.ofText entry.2) (some .process)

variable {entries : List (String × String)}

section Entering

variable (h : s.Over pairs b) (hfind : pairs.find? (·.1 = .process) = some (.process, bucket))
include h hfind

theorem after_entering (entry : String × String) :
    s.after b (entering entry) = b.putKey bucket entry.1 (Bytes.ofText entry.2) := by
  have hset := set_eq h entry.1 (Bytes.ofText entry.2) (some .process)
  rw [Option.getD_some, hfind] at hset
  exact congrArg Prod.snd hset

theorem changedAt_entering (entry : String × String) :
    b.ChangedAt bucket entry.1 (some (Bytes.ofText entry.2)) (s.after b (entering entry)) := by
  rw [after_entering h hfind]
  exact Broker.changedAt_putKey (h.there _ (List.mem_of_find?_eq_some hfind)) _ _

/-- Writing entries changes nothing but what is under their keys in the bucket of the process. -/
theorem getKey_run_of_not_mem {other : String}
    (hother : other = bucket → key ∉ entries.map (·.1)) :
    (s.run b (entries.map entering)).getKey other key = b.getKey other key := by
  induction entries generalizing b with
  | nil => rfl
  | cons entry entries ih =>
    rw [List.map_cons, List.mem_cons, not_or] at hother
    have hrest : (s.run (s.after b (entering entry)) (entries.map entering)).getKey other key
        = (s.after b (entering entry)).getKey other key :=
      ih (over_after h _) fun heq => (hother heq).2
    refine hrest.trans ?_
    rw [(changedAt_entering h hfind entry).values, if_neg]
    rintro ⟨hbucket, hkey⟩
    exact (hother hbucket).1 hkey

/-- Entries with keys of their own are all in the bucket of the process once they are written. -/
theorem getKey_run_of_mem (hkeys : (entries.map (·.1)).Nodup) {value : String}
    (hmem : (key, value) ∈ entries) :
    (s.run b (entries.map entering)).getKey bucket key = some (Bytes.ofText value) := by
  induction entries generalizing b with
  | nil => cases hmem
  | cons entry entries ih =>
    obtain ⟨hfirst, hrest⟩ := List.nodup_cons.1 hkeys
    have hover := over_after h (entering entry)
    rcases List.mem_cons.1 hmem with rfl | hmem
    · -- none of the later entries replaces it
      have hkept : (s.run (s.after b (entering (key, value))) (entries.map entering)).getKey bucket key
          = (s.after b (entering (key, value))).getKey bucket key :=
        getKey_run_of_not_mem hover hfind fun _ => hfirst
      exact hkept.trans (changedAt_entering h hfind (key, value)).here
    · exact ih hover hrest hmem

end Entering

end Settings

namespace Sections

/-- A scope that is listed and has a bucket stands in the order of lookups. -/
theorem find?_buckets {s : Sections} {scope : Scope} {bucket : String}
    (hlisted : scope ∈ s.order.getD Scope.all) (hbucket : s.bucket? scope = some bucket) :
    s.buckets.find? (·.1 = scope) = some (scope, bucket) := by
  rw [buckets]
  generalize s.order.getD Scope.all = order at hlisted ⊢
  induction order with
  | nil => cases hlisted
  | cons first order ih =>
    rw [List.filterMap_cons]
    by_cases hfirst : first = scope
    · simp [hfirst, hbucket]
    · have hrest := ih ((List.mem_cons.1 hlisted).resolve_left (Ne.symm hfirst))
      cases s.bucket? first with
      | none => exact hrest
      | some other =>
        rw [← hrest]
        exact List.find?_cons_of_neg (by simpa using hfirst)

end Sections

namespace NodeRequest

/-- Requests of a startup up to the call of its initializer. -/
def IsSeeding : NodeRequest → Prop
  | setRunner _ | connect _ | streamMax .. | openSettings .. | work (.user (.set ..)) => True
  | _ => False

/-- A broker with what a request writes into it. -/
def stored (b : Broker) : NodeRequest → Broker
  | work (.user (.set s key value scope)) => (s.set key value scope b).2
  | _ => b

theorem buckets_stored {b b' : Broker} (h : b.buckets = b'.buckets) (r : NodeRequest) :
    (r.stored b).buckets = (r.stored b').buckets := by
  fun_cases stored b r with
  | case1 s key value scope => exact s.buckets_set key value scope h
  | case2 r hother =>
    rw [stored]
    · exact h
    · exact hother

end NodeRequest

/-- A broker with what has been exchanged written into it. -/
def storedAll (b : Broker) (t : List (Exchange NodeSignature)) : Broker :=
  t.foldl (fun b x => NodeRequest.stored b x.1) b

namespace Node

/-- What answering a request of a startup changes: at most the buckets, and those by what is written. -/
theorem seeding_of_answers {n node : Node} {r : NodeRequest} {reply : r.Reply} (hr : r.IsSeeding)
    (h : (reply, node) ∈ n.answers r) : node.starting = n.starting ∧ node.ending = n.ending
      ∧ node.network.broker.buckets = (r.stored n.network.broker).buckets := by
  cases r with
  | setRunner s => exact node_of_single h ▸ ⟨rfl, rfl, rfl⟩
  | connect url =>
    exact node_of_single h ▸ ⟨rfl, rfl, n.network.broker.buckets_after (.connect url)⟩
  | streamMax connection stream => exact node_of_single h ▸ ⟨rfl, rfl, rfl⟩
  | openSettings connection buckets => exact node_of_single h ▸ ⟨rfl, rfl, rfl⟩
  | work r =>
    cases r with
    | acknowledge delivery => exact hr.elim
    | user r =>
      cases r with
      | set s key value scope => exact node_of_single h ▸ ⟨rfl, rfl, rfl⟩
      | _ => exact hr.elim
  | _ => exact hr.elim

end Node

namespace Machine

/-- Is the driving task alone so far, with buckets that it alone has written into? -/
structure Alone (b : Broker) (m : Machine) (log : List Move) : Prop where
  tasks : ∀ t ∈ m.tasks, t.id = .main
  starting : m.node.starting = []
  ending : m.node.ending = []
  buckets : m.node.network.broker.buckets = (storedAll b (exchanged .main log)).buckets

variable {b : Broker} {m m' : Machine} {log moved : List Move} {es : List Event}

theorem Alone.of_perm (h : Alone b m log) {t : Task} {rest : List Task} (htasks : m.tasks.Perm (t :: rest)) :
    t.id = .main ∧ ∀ other ∈ rest, other.id = .main :=
  List.forall_mem_cons.1 fun other hmem => h.tasks other (htasks.mem_iff.2 hmem)

/-- One event leaves the driving task alone as long as that asks for what a startup asks for. -/
theorem Alone.after_effect (h : Alone b m log) (heffect : Effect m moved m')
    (hseeding : ∀ x ∈ exchanged .main (log ++ moved), x.1.IsSeeding) : Alone b m' (log ++ moved) := by
  cases heffect with
  | outside htasks hduties hnode =>
    rw [List.append_nil]
    refine ⟨htasks ▸ h.tasks, ?_, ?_, ?_⟩
    · rw [hnode.same]
      exact h.starting
    · rw [hnode.same]
      exact h.ending
    · rw [← h.buckets]
      rcases hnode.network with hsame | ⟨op, hop⟩
      · rw [hsame]
      · rw [hop]
        exact m.node.network.broker.buckets_after op
  | again htasks hdone hduties hnode htasks' =>
    obtain ⟨hmain, hrest⟩ := h.of_perm htasks
    rw [List.append_nil]
    refine ⟨?_, hnode ▸ h.starting, hnode ▸ h.ending, hnode ▸ h.buckets⟩
    rw [htasks']
    exact List.forall_mem_cons.2 ⟨hmain, hrest⟩
  | finished htasks hdone hduties hnode htasks' =>
    obtain ⟨hmain, hrest⟩ := h.of_perm htasks
    have hsame : m'.node = m.node := by
      rw [hnode, hmain]
      rfl
    rw [List.append_nil]
    refine ⟨?_, hsame ▸ h.starting, hsame ▸ h.ending, hsame ▸ h.buckets⟩
    rw [htasks']
    exact fun other hmem => hrest other (List.mem_of_mem_filter hmem)
  | @answered _ t rest r next reply node htasks hask hanswer hduties hnode htasks' =>
    obtain ⟨hmain, hrest⟩ := h.of_perm htasks
    rw [hmain] at hseeding ⊢
    have hlog : exchanged .main (log ++ [⟨.main, r, reply⟩]) = exchanged .main log ++ [⟨r, reply⟩] := by
      rw [exchanged_append, exchanged_own]
    rw [hlog] at hseeding
    obtain ⟨hstarting, hending, hbuckets⟩ :=
      Node.seeding_of_answers (hseeding ⟨r, reply⟩ (List.mem_append_right _ List.mem_cons_self)) hanswer
    -- the node asks for no task to be started or ended, so it goes on as it answered
    have hcomplied : complied node = { node with starting := [], ending := [] } := by
      rw [complied, hending, h.ending]
      rfl
    rw [hcomplied] at hnode
    refine ⟨?_, by rw [hnode], by rw [hnode], ?_⟩
    · rw [htasks', hstarting, h.starting, List.map_nil, List.append_nil]
      have hall : ∀ other ∈ ({ t with current := next reply } :: rest : List Task), other.id = .main :=
        List.forall_mem_cons.2 ⟨hmain, hrest⟩
      exact fun other hmem => hall other (List.mem_of_mem_filter hmem)
    · rw [hnode, hlog, storedAll, List.foldl_append]
      exact hbuckets.trans (buckets_stored h.buckets r)

/-- The driving task is alone through a startup up to the call of its initializer. -/
theorem alone_during (h : Alone b m []) (es : List Event)
    (hseeding : ∀ x ∈ exchanged .main (m.log es), x.1.IsSeeding) : Alone b (m.during es) (m.log es) := by
  refine invariant_during (I := fun m log => (∀ x ∈ exchanged .main log, x.1.IsSeeding) → Alone b m log)
    (fun m log moved m' hold heffect hnew => ?_) (fun _ => h) es hseeding
  refine (hold fun x hx => hnew x ?_).after_effect heffect hnew
  rw [exchanged_append]
  exact List.mem_append_left _ hx

/-- Settings that have been opened are those of buckets that are all there. -/
theorem over_of_opened (h : Alone b m []) (hfaults : m.node.network.faults.store = none)
    {connection : Nat} {pairs : List (Scope × String)} {settings : Settings}
    {before rest : List (Exchange NodeSignature)} (hbefore : ∀ x ∈ before, x.1.IsSeeding)
    (hexchanged : exchanged .main (m.log es)
      = before ++ ⟨.openSettings connection pairs, .ok settings⟩ :: rest) :
    settings.Over pairs (storedAll b before) := by
  obtain ⟨es₁, e, es₂, rfl, hes₁, hmoves⟩ := exists_moment hexchanged
  have hopening := (m.during es₁).after_effect e
  rw [hmoves] at hopening
  obtain ⟨t, others, next, node, -, -, -, hanswer, -⟩ := hopening.of_move
  obtain ⟨hconnect, -⟩ := Prod.mk.inj (List.mem_singleton.1 hanswer)
  have hquiet : (m.during es₁).node.network.faults.store = none := by
    rw [(m.evolves_during es₁).faults]
    exact hfaults
  have halone := alone_during h es₁ (hes₁ ▸ hbefore)
  exact (Settings.over_of_connect hquiet hconnect.symm).congr (hes₁ ▸ halone.buckets)

end Machine

namespace Plan

/-- A startup up to the call of its initializer, which gets the settings that have been opened. -/
inductive Seeds (p : Plan) (connection : Nat) (settings : Settings) : List (Exchange NodeSignature) → Prop
  | intro (max : Option Nat) {seeding : List (Exchange NodeSignature)}
      (h : (seed (.ofConfig p.config connection settings) p.config.sections.processEntries).Runs
        seeding ()) :
      Seeds p connection settings
        (⟨.setRunner .initializing, ()⟩ :: ⟨.connect p.config.wiring.url, .ok connection⟩
          :: ⟨.streamMax connection p.config.wiring.stream, .ok max⟩
          :: ⟨.openSettings connection p.config.sections.buckets, .ok settings⟩ :: seeding)

variable {p : Plan} {connection : Nat} {settings : Settings} {c : Context}
variable {t : List (Exchange NodeSignature)} {entries : List (String × String)}

theorem seed_cons_runs {key value : String} (h : (seed c ((key, value) :: entries)).Runs t ()) :
    ∃ reply rest, (seed c entries).Runs rest ()
      ∧ t = ⟨work (.user (.set c.settings key (Bytes.ofText value) (some .process))), reply⟩ :: rest := by
  obtain ⟨writing, u, rest, rfl, hwrite, hrest⟩ := runs_bind_iff.1 h
  rw [discard, map_const] at hwrite
  obtain ⟨written, reply, done, rfl, hwritten, hdone⟩ := runs_bind_iff.1 hwrite
  obtain ⟨rfl, -⟩ := runs_done_iff.1 hdone
  obtain ⟨reply, nothing, rfl, hnothing⟩ := runs_ask_bind_iff.1 hwritten
  obtain ⟨rfl, -⟩ := runs_done_iff.1 hnothing
  exact ⟨reply, rest, hrest, rfl⟩

theorem isSeeding_seed (h : (seed c entries).Runs t ()) : ∀ x ∈ t, x.1.IsSeeding := by
  induction entries generalizing t with
  | nil =>
    rw [(runs_done_iff.1 h).1]
    exact fun x hx => nomatch hx
  | cons e entries ih =>
    obtain ⟨reply, rest, hrest, rfl⟩ := seed_cons_runs h
    exact List.forall_mem_cons.2 ⟨trivial, ih hrest⟩

/-- What is written is the entries. -/
theorem storedAll_seed (h : (seed c entries).Runs t ()) (b : Broker) :
    storedAll b t = c.settings.run b (entries.map Settings.entering) := by
  induction entries generalizing t b with
  | nil =>
    rw [(runs_done_iff.1 h).1]
    rfl
  | cons e entries ih =>
    obtain ⟨reply, rest, hrest, rfl⟩ := seed_cons_runs h
    exact ih hrest (c.settings.after b (Settings.entering e))

theorem Seeds.isSeeding (h : p.Seeds connection settings t) : ∀ x ∈ t, x.1.IsSeeding := by
  cases h with
  | intro max hseed =>
    iterate 4 refine List.forall_mem_cons.2 ⟨trivial, ?_⟩
    exact isSeeding_seed hseed

theorem Seeds.storedAll_eq (h : p.Seeds connection settings t) (b : Broker) :
    storedAll b t = settings.run b (p.config.sections.processEntries.map Settings.entering) := by
  cases h with
  | intro max hseed => exact storedAll_seed hseed b

/-- The initializer is called next, with these settings. -/
theorem Seeds.leads (h : p.Seeds connection settings t) :
    ∃ rest, p.supervise.Leads t (call p.initializer (.ofConfig p.config connection settings) >>= rest) := by
  cases h with
  | intro max hseed =>
    -- the call stands in the making of the context, that in the connecting, and that in the life
    suffices hcalled : ∃ (make : _ → Program NodeSignature (Except Panic (Except RunnerError Context)))
        (connected : _ → Program NodeSignature (Except Panic (Except RunnerError Context)))
        (started : _ → Program NodeSignature Ended), p.supervise.Leads _
        (((call p.initializer (.ofConfig p.config connection settings) >>= make) >>= connected)
          >>= started) by
      obtain ⟨make, connected, started, hleads⟩ := hcalled
      rw [bind_assoc, bind_assoc] at hleads
      exact ⟨_, hleads⟩
    exact ⟨_, _, _, .step (.step (.step (.step ((((leads_iff_runs.2 hseed).bind _).bind _).bind _))))⟩

end Plan

/-! What has been exchanged can be compared. -/

deriving instance DecidableEq for HookRequest, WorkRequest, End, NodeRequest

instance (r : HookRequest) : DecidableEq r.Reply := by
  cases r <;> (dsimp only [HookRequest.Reply]; infer_instance)

instance (r : WorkRequest) : DecidableEq r.Reply := by
  cases r <;> (dsimp only [WorkRequest.Reply]; infer_instance)

instance (r : NodeRequest) : DecidableEq r.Reply := by
  cases r <;> (dsimp only [NodeRequest.Reply]; infer_instance)

instance : DecidableEq (Exchange NodeSignature) :=
  inferInstanceAs (DecidableEq ((r : NodeRequest) × r.Reply))

namespace Runner

open Machine

theorem alone_machine (r : Runner) (config : Config) (network : Network) :
    Alone network.broker (r.machine config network) [] where
  tasks t ht := by
    rw [List.mem_singleton.1 ht]
    rfl
  starting := rfl
  ending := rfl
  buckets := rfl

/-- Whatever a runner is made of and whatever goes on around it. When its initializer is called, all
entries of the process scope are in the settings, if that scope is listed at all: each is found in the
scope of the process, and in all scopes, too, unless another bucket with its key comes before that of
the process. The other keys of that bucket, and all other buckets, are as they were. -/
theorem run_seeding (r : Runner) {config : Config} {network : Network} {bucket : String}
    {connection : Nat} {settings : Settings} {es : List Event}
    (hfaults : network.faults.store = none)
    (hlisted : .process ∈ config.sections.order.getD Scope.all)
    (hbucket : config.sections.bucket? .process = some bucket)
    (hkeys : (config.sections.processEntries.map (·.1)).Nodup)
    (hseeds : (r.plan config).Seeds connection settings
      (exchanged .main ((r.machine config network).log es))) :
    let b := ((r.machine config network).during es).node.network.broker
    (∀ key value, (key, value) ∈ config.sections.processEntries →
      settings.get key (some .process) b = .ok (some value)
      ∧ ∀ before after, config.sections.buckets = before ++ (.process, bucket) :: after →
        (∀ p ∈ before, p.2 ≠ bucket → b.getKey p.2 key = none) →
        settings.get key none b = .ok (some value))
    ∧ ∀ other key, (other = bucket → key ∉ config.sections.processEntries.map (·.1)) →
      b.getKey other key = network.broker.getKey other key := by
  intro b
  have hstart := r.alone_machine config network
  have hbuckets := (alone_during hstart es hseeds.isSeeding).buckets
  rw [hseeds.storedAll_eq, config_plan] at hbuckets
  have hopened : settings.Over config.sections.buckets network.broker := by
    generalize hexchanged : exchanged .main ((r.machine config network).log es) = t at hseeds
    cases hseeds with
    | intro max hseed =>
      rw [config_plan] at hexchanged
      have hbefore : ∀ x ∈ ([⟨.setRunner .initializing, ()⟩, ⟨.connect config.wiring.url, .ok connection⟩,
          ⟨.streamMax connection config.wiring.stream, .ok max⟩] : List (Exchange NodeSignature)),
          x.1.IsSeeding := by
        simp [IsSeeding]
      exact over_of_opened hstart hfaults hbefore hexchanged
  have hfind := Sections.find?_buckets hlisted hbucket
  have hover : settings.Over config.sections.buckets b :=
    (Settings.over_run hopened _).congr hbuckets.symm
  have hshown : ∀ key value scope, Settings.shown key scope (Bytes.ofText value) = .ok (some value) := by
    intro key value scope
    rw [Settings.shown, Bytes.toText?_ofText]
  refine ⟨fun key value hmem => ?_, fun other key hother => ?_⟩
  · have hvalue : b.getKey bucket key = some (Bytes.ofText value) := by
      rw [Broker.getKey_congr hbuckets]
      exact Settings.getKey_run_of_mem hopened hfind hkeys hmem
    constructor
    · rw [Settings.get_scope hover, hfind]
      dsimp only
      rw [hvalue, Option.elim_some, hshown]
    · intro before after hpairs hbefore
      obtain ⟨scope, hget⟩ := Settings.get_behind hover hpairs hbefore hvalue
      rw [hget, hshown]
  · rw [Broker.getKey_congr hbuckets]
    exact Settings.getKey_run_of_not_mem hopened hfind hother

/-- A node with an entry for the bucket of its process, and scopes in some order. -/
def tuned (order : Option (List Scope)) : Config := { entry with
  sections := {
    order
    product := some "shared"
    process := some { bucket := "own", entries := [("k", .scalar (.text "v"))] } } }

/-- A broker with both buckets. -/
def bucketed : Network := {
  broker := { streams := [("workflow", none)], buckets := [("shared", {}), ("own", {})] } }

/-- It starts, up to the call of its initializer. -/
def throughSeeding : List Event := List.replicate 5 (.go 0 0)

theorem run_seeding_default :
    let m := courier.machine (tuned none) bucketed
    let settings : Settings := {
      stores := [{ scope := .process, bucket := "own" }, { scope := .product, bucket := "shared" }] }
    let b := (m.during throughSeeding).node.network.broker
    settings.get "k" (some .process) b = .ok (some "v") ∧ settings.get "k" none b = .ok (some "v") := by
  intro m settings b
  have hseeds : (courier.plan (tuned none)).Seeds 1 settings (exchanged .main (m.log throughSeeding)) := by
    have hlog : exchanged .main (m.log throughSeeding)
        = [⟨.setRunner .initializing, ()⟩, ⟨.connect "memory://test", .ok 1⟩,
          ⟨.streamMax 1 "workflow", .ok none⟩,
          ⟨.openSettings 1 [(.process, "own"), (.product, "shared")], .ok settings⟩,
          ⟨.work (.user (.set settings "k" (Bytes.ofText "v") (some .process))), .ok ()⟩] := by decide +kernel
    rw [hlog]
    exact .intro none (.ask (.done ()))
  obtain ⟨hentries, -⟩ := run_seeding courier rfl (by decide) rfl (by decide) hseeds
  obtain ⟨hprocess, hall⟩ := hentries "k" "v" (by decide)
  simp only [b, m]
  exact ⟨hprocess, hall [] [(.product, "shared")] rfl fun p hp => absurd hp List.not_mem_nil⟩

/-- If the scopes are listed without that of the process, its entries are nowhere to be found when the
initializer is called, and nothing has been said against the configuration. -/
theorem lost_of_unlisted :
    let config := tuned (some [.product])
    let m := courier.machine config bucketed
    let settings : Settings := { stores := [{ scope := .product, bucket := "shared" }] }
    let b := (m.during throughSeeding).node.network.broker
    config.fault? = none ∧ config.sections.bucket? .process = some "own"
      ∧ config.sections.processEntries = [("k", "v")]
      ∧ (courier.plan config).Seeds 1 settings (exchanged .main (m.log throughSeeding))
      ∧ settings.get "k" (some .process) b = .error (.scopeNotConfigured .process)
      ∧ (b.bucket? "own").isSome ∧ b.getKey "own" "k" = none := by
  intro config m settings b
  refine ⟨by decide +kernel, by decide, rfl, ?_, by decide +kernel, by decide +kernel, by decide +kernel⟩
  have hlog : exchanged .main (m.log throughSeeding)
      = [⟨.setRunner .initializing, ()⟩, ⟨.connect "memory://test", .ok 1⟩,
        ⟨.streamMax 1 "workflow", .ok none⟩, ⟨.openSettings 1 [(.product, "shared")], .ok settings⟩,
        ⟨.work (.user (.set settings "k" (Bytes.ofText "v") (some .process))),
          .error (.scopeNotConfigured .process)⟩] := by decide +kernel
  rw [hlog]
  exact .intro none (.ask (.done ()))

end Runner
end Waystation
