import Waystation.Runner.Basic
/-!
The handlers of a runner. Whatever is said about them in whatever order, the last word about a node
counts, and the last word about all others where nothing is said about a node. All this holds as long as
no node is called by the name that stands for all others; a handler for a node of that name takes the
place of the one for all others.
-/
namespace Waystation

namespace PipelineRunner

/-- A handler that a runner is given: for one node, or for all that have none of their own. -/
inductive Assignment
  | general (h : Handler)
  | own (name : String) (h : Handler)

namespace Assignment

def handler : Assignment → Handler
  | general h => h
  | own _ h => h

/-- The node that is meant, in lower case, if one is. -/
def target : Assignment → Option String
  | general _ => none
  | own name _ => some (Text.lower name)

/-- The key that the handler is kept under. -/
def key (a : Assignment) : String := a.target.getD Registry.defaultName

end Assignment

/-- Gives a runner a handler. -/
def assign (r : PipelineRunner) : Assignment → PipelineRunner
  | .general h => r.withHandler h
  | .own name h => r.withCustomHandler name h

/-- Gives a runner handlers, one after the other. -/
def equip (r : PipelineRunner) (calls : List Assignment) : PipelineRunner := calls.foldl assign r

/-- The handler that is given last where something holds. -/
def lastWhere (p : Assignment → Bool) (calls : List Assignment) : Option Handler :=
  ((calls.filter p).getLast?).map (·.handler)

/-- The handler that is given last for a target. -/
def lastFor (target : Option String) (calls : List Assignment) : Option Handler :=
  lastWhere (·.target = target) calls

variable {r : PipelineRunner} {calls : List Assignment}

theorem get?_assign (r : PipelineRunner) (a : Assignment) (key : String) :
    (r.assign a).pipeline.registry.get? key
      = if key = a.key then some a.handler else r.pipeline.registry.get? key := by
  cases a with
  | general h =>
    show (r.pipeline.registry.insert Registry.defaultName h).get? key = _
    rw [Registry.get?_insert, Registry.lower_defaultName]
    rfl
  | own name h => exact Registry.get?_insert r.pipeline.registry name key h

theorem lastWhere_cons (p : Assignment → Bool) (a : Assignment) (calls : List Assignment) :
    lastWhere p (a :: calls) = (lastWhere p calls).or (if p a then some a.handler else none) := by
  rw [lastWhere, lastWhere, List.filter_cons]
  split
  · rw [List.getLast?_cons]
    cases (calls.filter p).getLast? <;> rfl
  · rw [Option.or_none]

/-- A handler that is given for something else makes no difference. -/
theorem lastWhere_without {p : Assignment → Bool} {a : Assignment} (h : p a = false)
    (before after : List Assignment) :
    lastWhere p (before ++ a :: after) = lastWhere p (before ++ after) := by
  rw [lastWhere, lastWhere, List.filter_append, List.filter_append, List.filter_cons_of_neg (by simp [h])]

theorem lastWhere_congr {p q : Assignment → Bool} (h : ∀ a ∈ calls, p a = q a) :
    lastWhere p calls = lastWhere q calls := by
  rw [lastWhere, lastWhere, List.filter_congr h]

theorem isSome_lastWhere {p : Assignment → Bool} :
    (lastWhere p calls).isSome = true ↔ ∃ a ∈ calls, p a = true := by
  simp [lastWhere]

/-- The handler under a key is the last one given under it, or the one that was there. -/
theorem get?_equip (r : PipelineRunner) (calls : List Assignment) (key : String) :
    (r.equip calls).pipeline.registry.get? key
      = (lastWhere (·.key = key) calls).or (r.pipeline.registry.get? key) := by
  induction calls generalizing r with
  | nil => rfl
  | cons a calls ih =>
    rw [equip, List.foldl_cons, ← equip, ih, get?_assign, lastWhere_cons, Option.or_assoc]
    by_cases hkey : key = a.key
    · simp [hkey]
    · simp [hkey, Ne.symm hkey]

/-- All that is given is kept in the registry. -/
theorem equip_eq (r : PipelineRunner) (calls : List Assignment) :
    ∃ registry, r.equip calls = { r with pipeline := { r.pipeline with registry } } := by
  induction calls generalizing r with
  | nil => exact ⟨r.pipeline.registry, rfl⟩
  | cons a calls ih =>
    obtain ⟨registry, hregistry⟩ := ih (r.assign a)
    refine ⟨registry, ?_⟩
    rw [equip, List.foldl_cons, ← equip, hregistry]
    cases a <;> rfl

/-- No node is given a handler by the name that stands for all others. -/
def NoDefaultName (calls : List Assignment) : Prop :=
  ∀ a ∈ calls, a.target ≠ some Registry.defaultName

theorem NoDefaultName.lastWhere_key (h : NoDefaultName calls) (key : String) :
    lastWhere (·.key = key) calls
      = if key = Registry.defaultName then lastFor none calls else lastFor (some key) calls := by
  split
  next hkey =>
    subst hkey
    refine lastWhere_congr fun a ha => ?_
    cases htarget : a.target with
    | none => simp [Assignment.key, htarget]
    | some name =>
      have hname : name ≠ Registry.defaultName := fun heq => h a ha (heq ▸ htarget)
      simp [Assignment.key, htarget, hname]
  next hkey =>
    refine lastWhere_congr fun a _ => ?_
    cases htarget : a.target with
    | none => simp [Assignment.key, htarget, Ne.symm hkey]
    | some name => simp [Assignment.key, htarget]

theorem NoDefaultName.lastFor_default (h : NoDefaultName calls) :
    lastFor (some Registry.defaultName) calls = none :=
  Option.not_isSome_iff_eq_none.1 fun hsome =>
    let ⟨a, ha, htarget⟩ := isSome_lastWhere.1 hsome
    h a ha (of_decide_eq_true htarget)

/-- The last handler for a node counts, and where there is none the last one for all others. -/
theorem NoDefaultName.resolve (h : NoDefaultName calls) (hr : r.pipeline.registry = .empty)
    (fromNode : String) : (r.equip calls).pipeline.registry.resolve fromNode
      = (lastFor (some (Text.lower fromNode)) calls).or (lastFor none calls) := by
  have hget (key : String) : (r.equip calls).pipeline.registry.get? key
      = if key = Registry.defaultName then lastFor none calls else lastFor (some key) calls := by
    rw [get?_equip, hr, h.lastWhere_key]
    exact Option.or_none
  rw [Registry.resolve_eq, hget, hget, if_pos rfl]
  split
  next hkey => rw [hkey, h.lastFor_default, Option.or_self, Option.none_or]
  next => rfl

theorem target_eq_none_iff {a : Assignment} : a.target = none ↔ ∃ h, a = .general h := by
  cases a <;> simp [Assignment.target]

/-- A runner has a handler for all nodes exactly if it is given one. -/
theorem NoDefaultName.hasDefault_iff (h : NoDefaultName calls) (hr : r.pipeline.registry = .empty) :
    (r.equip calls).pipeline.registry.hasDefault = true ↔ ∃ g, .general g ∈ calls := by
  rw [Registry.hasDefault, get?_equip, hr, h.lastWhere_key, if_pos rfl,
    show Registry.empty.get? Registry.defaultName = (none : Option Handler) from rfl, Option.or_none,
    lastFor, isSome_lastWhere]
  constructor
  · rintro ⟨a, ha, htarget⟩
    obtain ⟨g, rfl⟩ := target_eq_none_iff.1 (of_decide_eq_true htarget)
    exact ⟨g, ha⟩
  · rintro ⟨g, hg⟩
    exact ⟨.general g, hg, decide_eq_true rfl⟩

/-- Let a runner be given handlers while it has none, for no node of the name that stands for all others.
A message is worked on by the last handler for the node that it comes from, whatever the case of its name,
or else by the last handler for all nodes. A handler for one node changes nothing for the others, and the
order of what is said about different nodes does not matter. The runner has what it needs to be run exactly
if it is given a handler for all nodes. -/
theorem equip_handlers (r : PipelineRunner) (calls : List Assignment) (config : Config)
    (hr : r.pipeline.registry = .empty) (hcalls : NoDefaultName calls) :
    let registry := (r.equip calls).pipeline.registry
    (∀ fromNode, registry.resolve fromNode
        = (lastFor (some (Text.lower fromNode)) calls).or (lastFor none calls))
    ∧ (∀ before name h after fromNode, calls = before ++ .own name h :: after →
        Text.lower fromNode ≠ Text.lower name →
        registry.resolve fromNode = (r.equip (before ++ after)).pipeline.registry.resolve fromNode)
    ∧ (∀ calls', (∀ target, calls'.filter (·.target = target) = calls.filter (·.target = target)) →
        ∀ fromNode,
          registry.resolve fromNode = (r.equip calls').pipeline.registry.resolve fromNode)
    ∧ (registry.hasDefault = true ↔ ∃ h, .general h ∈ calls)
    ∧ ((∃ h, .general h ∈ calls) → (r.equip calls).life config
        = ({ config, initializer := r.initializer, finalizer := r.finalizer } : Plan).supervise)
    ∧ ((∀ h, .general h ∉ calls) →
        (r.equip calls).life config = .done (.ok (.error .missingDefaultHandler))) := by
  intro registry
  have hdefault := hcalls.hasDefault_iff hr
  refine ⟨hcalls.resolve hr, fun before name h after fromNode hsplit hother => ?_,
    fun calls' hfilter fromNode => ?_, hdefault, fun hgeneral => ?_, fun hgeneral => ?_⟩
  · have hrest : NoDefaultName (before ++ after) := by
      refine fun a ha => hcalls a ?_
      rw [hsplit]
      exact List.Sublist.mem ha (by simp)
    rw [hcalls.resolve hr, hrest.resolve hr, hsplit, lastFor, lastFor,
      lastWhere_without (by simp [Assignment.target, Ne.symm hother]),
      lastWhere_without (by simp [Assignment.target])]
    rfl
  · have hcalls' : NoDefaultName calls' := by
      intro a ha htarget
      have hmem : a ∈ calls'.filter (·.target = some Registry.defaultName) :=
        List.mem_filter.2 ⟨ha, decide_eq_true htarget⟩
      rw [hfilter] at hmem
      exact hcalls a (List.mem_filter.1 hmem).1 htarget
    have hlast (target : Option String) : lastFor target calls' = lastFor target calls := by
      rw [lastFor, lastFor, lastWhere, lastWhere, hfilter]
    rw [hcalls.resolve hr, hcalls'.resolve hr, hlast, hlast]
  · obtain ⟨given, hequip⟩ := equip_eq r calls
    rw [life, if_pos (hdefault.2 hgeneral), hequip]
  · have hnone : ¬(r.equip calls).pipeline.registry.hasDefault = true := fun hsome =>
      let ⟨h, hh⟩ := hdefault.1 hsome
      hgeneral h hh
    rw [life, if_neg hnone]
    rfl

/-- A node is given a handler twice, by two spellings of its name. -/
theorem equip_handlers_splitter :
    let first : Handler := fun _ _ => .ok (.done .succeeded)
    let last : Handler := fun _ _ => .ok (.done (.panicked .other))
    let calls := [Assignment.own "Splitter" first, .general first, .own "SPLITTER" last]
    let registry := (equip { kind := .task } calls).pipeline.registry
    NoDefaultName calls ∧ registry.resolve "splitter" = some last
      ∧ registry.resolve "merger" = some first := by
  intro first last calls registry
  have hsplitter : Text.lower "splitter" = "splitter" ∧ Text.lower "Splitter" = "splitter"
      ∧ Text.lower "SPLITTER" = "splitter" ∧ Text.lower "merger" = "merger" := by
    decide +kernel
  obtain ⟨hlower, hfirst, hlast, hmerger⟩ := hsplitter
  have hcalls : NoDefaultName calls := by
    simp [NoDefaultName, calls, Assignment.target, hfirst, hlast, Registry.defaultName]
  obtain ⟨hresolve, -⟩ := equip_handlers { kind := .task } calls {} rfl hcalls
  refine ⟨hcalls, (hresolve "splitter").trans ?_, (hresolve "merger").trans ?_⟩
  · simp [lastFor, lastWhere, calls, Assignment.target, Assignment.handler, hlower, hfirst, hlast]
  · simp [lastFor, lastWhere, calls, Assignment.target, Assignment.handler, hmerger, hfirst, hlast]

/-- A handler for a node called by the name that stands for all others works on what comes from any node,
and the runner can be run although nothing was said about all others. -/
theorem resolve_of_default_name :
    let h : Handler := fun _ _ => .ok (.done .succeeded)
    let calls := [Assignment.own "Default" h]
    let registry := (equip { kind := .task } calls).pipeline.registry
    (lastFor (some (Text.lower "splitter")) calls).or (lastFor none calls) = none
      ∧ registry.resolve "splitter" = some h
      ∧ (∀ g, .general g ∉ calls) ∧ registry.hasDefault = true := by
  intro h calls registry
  have hlower : Text.lower "Default" = Registry.defaultName ∧ Text.lower "splitter" = "splitter" := by
    decide +kernel
  have hdefault : registry.get? Registry.defaultName = some h := by
    rw [get?_equip]
    simp [lastWhere, calls, Assignment.key, Assignment.target, Assignment.handler, hlower.1]
  have hsplitter : registry.get? "splitter" = none := by
    rw [get?_equip]
    simp [lastWhere, calls, Assignment.key, Assignment.target, hlower.1, Registry.defaultName,
      Registry.get?]
  refine ⟨?_, ?_, by simp [calls], ?_⟩
  · simp [lastFor, lastWhere, calls, Assignment.target, hlower, Registry.defaultName]
  · rw [Registry.resolve_eq, hlower.2, hsplitter, hdefault]
    rfl
  · rw [Registry.hasDefault, hdefault]
    rfl

end PipelineRunner
end Waystation
