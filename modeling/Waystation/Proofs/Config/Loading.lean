import Waystation.Config.Loader
import Waystation.Proofs.Yaml.Merging
/-!
Configurations as they are loaded. No mapping that is read from a text has a key twice, so the files of
a configuration come to what their layers do, and paths that are named again change nothing. No key of
the process scope is there twice, either.
-/
namespace Waystation

open Yaml (Source Value Document Node)

namespace Yaml.Node

variable {α β : Type}

/-- Does everything that can be read have a property? -/
def Yields (P : α → Prop) (x : Reading α) : Prop := ∀ n r, x n = some r → P r.1

theorem Yields.bind {P : α → Prop} {Q : β → Prop} {x : Reading α} {f : α → Reading β}
    (hx : Yields P x) (hf : ∀ a, P a → Yields Q (f a)) : Yields Q (x >>= f) := by
  intro n r hr
  obtain ⟨p, hp, hnext⟩ := Option.bind_eq_some_iff.1 hr
  exact hf p.1 (hx n p hp) p.2 r hnext

theorem yields_pure {P : α → Prop} {a : α} (h : P a) : Yields P (pure a) := by
  rintro n r hr
  obtain rfl := Option.some.inj hr
  exact h

theorem yields_failure {P : α → Prop} : Yields P failure := fun _ _ h => nomatch h

theorem yields_failure_bind {P : β → Prop} {f : α → Reading β} : Yields P (failure >>= f) :=
  Yields.bind (P := fun _ => False) yields_failure fun _ => False.elim

theorem yields_trivial (x : Reading α) : Yields (fun _ => True) x := fun _ _ _ => trivial

/-- A tag is put around what the same node is read as, unless it is empty. -/
theorem yields_within {tagged plain : Reading Value} (htagged : Yields Value.Lawful tagged)
    (hplain : Yields Value.Lawful plain) (tag : Option String) :
    Yields Value.Lawful (match tag with
      | some "" => failure
      | some t => do return .tagged t (← tagged)
      | none => plain) := by
  split
  · exact yields_failure
  · exact htagged.bind fun v hv => yields_pure (.tagged hv)
  · exact hplain

/-- Every value that is read is lawful: a key that is met again ends the reading. -/
theorem lawful_read (doc : Document) (fuel : Nat) :
    (∀ depth localTag node, Yields Value.Lawful (value doc fuel depth localTag node))
    ∧ (∀ depth nodes, Yields (fun vs => ∀ v ∈ vs, v.Lawful) (values doc fuel depth nodes))
    ∧ ∀ depth entries done, (Value.map done).Lawful →
      Yields (fun es => (Value.map es).Lawful) (entryValues doc fuel depth entries done) := by
  induction fuel with
  | zero => exact ⟨fun _ _ _ => yields_failure, fun _ _ => yields_failure, fun _ _ _ _ => yields_failure⟩
  | succ fuel ih =>
    obtain ⟨ihvalue, ihvalues, ihentries⟩ := ih
    refine ⟨fun depth localTag node => ?_, fun depth nodes => ?_, fun depth entries done hdone => ?_⟩
    · have htagged := ihvalue depth true node
      cases node with
      | reference id =>
        rw [value]
        refine (yields_trivial get).bind fun followed _ => (yields_trivial _).bind fun _ _ => ?_
        dsimp only
        split
        · exact yields_failure_bind
        · split
          · exact ihvalue depth localTag _
          · exact yields_failure
      | scalar tag text plain =>
        rw [value]
        exact yields_within htagged ((yields_trivial _).bind fun s _ => yields_pure (.scalar s)) _
      | sequence tag items =>
        rw [value]
        refine yields_within htagged ?_ _
        dsimp only
        split
        · exact yields_failure_bind
        · exact (ihvalues _ items).bind fun vs hvs => yields_pure (.list hvs)
      | mapping tag entries =>
        rw [value]
        refine yields_within htagged ?_ _
        dsimp only
        split
        · exact yields_failure_bind
        · exact (ihentries _ entries [] Value.lawful_empty).bind fun es hes => yields_pure hes
    · cases nodes with
      | nil => exact yields_pure fun v hv => absurd hv List.not_mem_nil
      | cons node nodes =>
        rw [values]
        refine (ihvalue depth false node).bind fun v hv => (ihvalues depth nodes).bind fun vs hvs => ?_
        exact yields_pure (List.forall_mem_cons.2 ⟨hv, hvs⟩)
    · cases entries with
      | nil => exact yields_pure hdone
      | cons entry entries =>
        rw [entryValues]
        refine (ihvalue depth false entry.1).bind fun key hkey => ?_
        dsimp only
        split
        · exact yields_failure_bind
        next hnew =>
          refine (ihvalue depth false entry.2).bind fun v hv => ihentries _ _ _ ?_
          exact Value.lawful_snoc hdone hkey hv (Option.not_isSome_iff_eq_none.1 hnew)

end Yaml.Node

theorem Yaml.Document.lawful_of_value? {d : Document} {v : Value} (h : d.value? = some v) :
    v.Lawful := by
  rw [value?] at h
  split at h
  next =>
    obtain rfl := Option.some.inj h
    exact .scalar .null
  next node _ =>
    obtain ⟨r, hr, rfl⟩ := Option.map_eq_some_iff.1 h
    exact (Node.lawful_read d d.fuel).1 _ _ node 0 r hr

/-! The entries of the process scope. -/

theorem Yaml.Source.fieldOr_cases {ν α : Type} {name : String} {missing a : α} {read : ν → Option α}
    {fields : List (String × ν)} (h : Source.fieldOr name missing read fields = some a) :
    a = missing ∨ ∃ n, read n = some a := by
  obtain ⟨found, -, hfound⟩ := Option.bind_eq_some_iff.1 h
  cases found with
  | none => exact .inl (Option.some.inj hfound).symm
  | some n => exact .inr ⟨n, hfound⟩

namespace Config

variable {ν : Type} {src : Source ν} {n : ν} {entries : List (String × Value)} {key : String}

theorem mem_insertEntry {value : Value} {e : String × Value} (h : e ∈ insertEntry key value entries) :
    e.1 = key ∨ e ∈ entries := by
  induction entries with
  | nil => exact .inl (congrArg Prod.fst (List.mem_singleton.1 h))
  | cons first entries ih =>
    rw [insertEntry] at h
    split at h
    · exact (List.mem_cons.1 h).imp_left (congrArg Prod.fst)
    · split at h
      · exact (List.mem_cons.1 h).imp (congrArg Prod.fst) (List.mem_cons_of_mem first)
      · rcases List.mem_cons.1 h with rfl | hrest
        · exact .inr List.mem_cons_self
        · exact (ih hrest).imp_right (List.mem_cons_of_mem first)

/-- An entry is put where its key belongs. -/
theorem ordered_insertEntry (value : Value) (h : entries.Pairwise (·.1 < ·.1)) :
    (insertEntry key value entries).Pairwise (·.1 < ·.1) := by
  induction entries with
  | nil => exact List.pairwise_singleton _ _
  | cons first entries ih =>
    obtain ⟨hfirst, hrest⟩ := List.pairwise_cons.1 h
    rw [insertEntry]
    split
    next hlt =>
      refine List.pairwise_cons.2 ⟨List.forall_mem_cons.2 ⟨hlt, fun e he => ?_⟩, h⟩
      exact String.lt_trans hlt (hfirst e he)
    next hge =>
      split
      next heq => exact List.pairwise_cons.2 ⟨heq ▸ hfirst, hrest⟩
      next hne =>
        refine List.pairwise_cons.2 ⟨fun e he => ?_, ih hrest⟩
        rcases mem_insertEntry he with hkey | hmem
        · rw [hkey]
          exact Std.lt_of_le_of_ne (String.not_lt.1 hge) (Ne.symm hne)
        · exact hfirst e hmem

theorem ordered_of_readEntries (h : readEntries src n = some entries) :
    entries.Pairwise (·.1 < ·.1) := by
  obtain ⟨fields, -, hfields⟩ := Option.bind_eq_some_iff.1 h
  obtain ⟨read, -, hread⟩ := Option.bind_eq_some_iff.1 hfields
  obtain rfl := Option.some.inj hread
  exact List.foldlRecOn read _ .nil fun done hdone e _ => ordered_insertEntry e.2 hdone

theorem ordered_of_readProcess {p : ProcessSection} (h : readProcess src n = some p) :
    p.entries.Pairwise (·.1 < ·.1) := by
  obtain ⟨fields, -, hfields⟩ := Option.bind_eq_some_iff.1 h
  obtain ⟨bucket, -, hbucket⟩ := Option.bind_eq_some_iff.1 hfields
  obtain ⟨entries, hentries, hprocess⟩ := Option.bind_eq_some_iff.1 hbucket
  obtain rfl := Option.some.inj hprocess
  rcases Source.fieldOr_cases hentries with rfl | ⟨n, hread⟩
  · exact .nil
  · exact ordered_of_readEntries hread

/-- The entries of a section that is read are in the order of their keys. -/
theorem ordered_of_readSections {s : Sections} (h : readSections src n = some s) :
    ∀ p ∈ s.process, p.entries.Pairwise (·.1 < ·.1) := by
  obtain ⟨fields, -, hfields⟩ := Option.bind_eq_some_iff.1 h
  obtain ⟨order, -, horder⟩ := Option.bind_eq_some_iff.1 hfields
  obtain ⟨global, -, hglobal⟩ := Option.bind_eq_some_iff.1 horder
  obtain ⟨product, -, hproduct⟩ := Option.bind_eq_some_iff.1 hglobal
  obtain ⟨workflow, -, hworkflow⟩ := Option.bind_eq_some_iff.1 hproduct
  obtain ⟨process, hprocess, hsections⟩ := Option.bind_eq_some_iff.1 hworkflow
  obtain rfl := Option.some.inj hsections
  rintro p hp
  obtain rfl := Option.mem_def.1 hp
  rcases Source.fieldOr_cases hprocess with hnone | ⟨n, hread⟩
  · cases hnone
  · obtain ⟨absent, -, hthere⟩ := Option.bind_eq_some_iff.1 hread
    cases absent with
    | true => cases hthere
    | false =>
      obtain ⟨p', hp', hsome⟩ := Option.bind_eq_some_iff.1 hthere
      obtain rfl := Option.some.inj (Option.some.inj hsome)
      exact ordered_of_readProcess hp'

/-- No key of a configuration that is read is there twice. -/
theorem nodup_of_read {c : Config} (h : read src n = some c) :
    (c.sections.processEntries.map (·.1)).Nodup := by
  obtain ⟨fields, -, hfields⟩ := Option.bind_eq_some_iff.1 h
  obtain ⟨identity, -, hidentity⟩ := Option.bind_eq_some_iff.1 hfields
  obtain ⟨wiring, -, hwiring⟩ := Option.bind_eq_some_iff.1 hidentity
  obtain ⟨sections, hsections, hrest⟩ := Option.bind_eq_some_iff.1 hwiring
  obtain ⟨⟨level, color⟩, -, hlogger⟩ := Option.bind_eq_some_iff.1 hrest
  obtain rfl := Option.some.inj hlogger
  rcases Source.fieldOr_cases hsections with rfl | ⟨n, hread⟩
  · exact List.nodup_nil
  · rw [Sections.processEntries]
    cases hprocess : sections.process with
    | none => exact List.nodup_nil
    | some p =>
      have hordered := ordered_of_readSections hread p hprocess
      rw [List.map_map]
      exact List.pairwise_map.2 (hordered.imp fun hlt => String.ne_of_lt hlt)

end Config

namespace Loader

variable {files : FileTree} {paths more : List String} {layers : List Value}

theorem lawful_of_readLayer {path : String} {contents : Bytes} {v : Value}
    (h : readLayer path contents = .ok v) : v.Lawful := by
  rw [readLayer] at h
  split at h
  next => cases h
  next text _ =>
    split at h
    next w hw =>
      obtain rfl := Except.ok.inj h
      obtain ⟨d, -, hd⟩ := Option.bind_eq_some_iff.1 hw
      exact Yaml.Document.lawful_of_value? hd
    next => cases h

/-- Whatever files a configuration is read from, their layers are lawful. -/
theorem lawful_of_readLayers (h : readLayers files paths = .ok layers) : ∀ v ∈ layers, v.Lawful := by
  induction paths generalizing layers with
  | nil =>
    obtain rfl := Except.ok.inj h
    exact fun v hv => absurd hv List.not_mem_nil
  | cons path paths ih =>
    rw [readLayers] at h
    split at h
    next => exact ih h
    next contents _ =>
      cases hv : readLayer path contents with
      | error e => rw [hv] at h; cases h
      | ok v =>
        cases hrest : readLayers files paths with
        | error e => rw [hv, hrest] at h; cases h
        | ok rest =>
          rw [hv, hrest] at h
          obtain rfl := Except.ok.inj h
          exact List.forall_mem_cons.2 ⟨lawful_of_readLayer hv, ih hrest⟩

theorem readLayers_append : readLayers files (paths ++ more) = do
    return (← readLayers files paths) ++ (← readLayers files more) := by
  induction paths with
  | nil =>
    show readLayers files more = (readLayers files more).map ([] ++ ·)
    cases readLayers files more <;> rfl
  | cons path paths ih =>
    rw [List.cons_append, readLayers, readLayers]
    split
    next => exact ih
    next contents _ =>
      rw [ih]
      cases readLayer path contents with
      | error e => rfl
      | ok v =>
        cases readLayers files paths with
        | error e => rfl
        | ok layers => cases readLayers files more <;> rfl

/-- Paths that are all named once more give the same configuration. -/
theorem build_again (l : Loader) (files : FileTree) (env : Environment) (c : Config) :
    ({ l with paths := l.paths ++ l.paths } : Loader).build files env = .ok c
      ↔ l.build files env = .ok c := by
  rw [build, build, readLayers_append]
  cases hlayers : readLayers files l.paths with
  | error e => exact Iff.rfl
  | ok layers =>
    have hmerge := Value.merge_again (lawful_of_readLayers hlayers)
    have hany : (layers ++ layers).any isSubstantial = layers.any isSubstantial := by
      rw [List.any_append, Bool.or_self]
    show (if !(layers ++ layers).any isSubstantial then _ else _) = _
      ↔ (if !layers.any isSubstantial then _ else _) = _
    rw [hany, hmerge]
    cases layers.any isSubstantial with
    | false => exact ⟨nofun, nofun⟩
    | true => exact Iff.rfl

/-- No key of a configuration that is loaded is there twice. -/
theorem nodup_of_build {l : Loader} {files : FileTree} {env : Environment} {c : Config}
    (h : l.build files env = .ok c) : (c.sections.processEntries.map (·.1)).Nodup := by
  rw [build] at h
  cases hlayers : readLayers files l.paths with
  | error e => rw [hlayers] at h; cases h
  | ok layers =>
    rw [hlayers] at h
    change (if !layers.any isSubstantial then _ else _) = _ at h
    split at h
    next => cases h
    next =>
      split at h
      next => cases h
      next read hread =>
        have hkeys := Config.nodup_of_read hread
        split at h
        · obtain rfl := Except.ok.inj h
          exact hkeys
        · obtain rfl := Except.ok.inj h
          exact hkeys

end Loader

/-- To name the working directory in the environment, where its files are read anyway, changes
nothing. -/
theorem Config.load_again {env : Environment} (henv : env.lookup Loader.pathVariable = some ".")
    (files : FileTree) (c : Config) :
    Config.load files env = .ok c
      ↔ ((Loader.withDirectory {} ".").withEnvironment).build files env = .ok c := by
  have hpaths : Loader.standard env = { Loader.withEnvironment (Loader.withDirectory {} ".") with
      paths := (Loader.withDirectory {} ".").paths ++ (Loader.withDirectory {} ".").paths } := by
    rw [Loader.standard, Loader.withDefaults, henv]
    rfl
  rw [Config.load, hpaths]
  exact Loader.build_again (Loader.withDirectory {} ".").withEnvironment files env c

end Waystation
