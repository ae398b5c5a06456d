import Waystation.Config.Overrides
import Waystation.Proofs.Lists
import Waystation.Proofs.Text.Trimming
/-!
Fields that the environment overrides. Nine fields have a variable each, which decides about that field
alone, so that two lookups applied one behind the other are one lookup that asks the later first. Subjects
stand between commas, and a list of subjects that is joined by commas is found again.
-/
namespace Waystation.Config

/-- A field that a variable overrides. -/
inductive Override
  | url | stream | output | inputs | product | workflow | process | version | level
  deriving DecidableEq, Repr

namespace Override

/-- The variable of a field. -/
def name : Override → String
  | url => "NATS_URL"
  | stream => "NATS_STREAM"
  | output => "NATS_OUTPUT"
  | inputs => "NATS_INPUTS"
  | product => "METADATA_PRODUCT_ID"
  | workflow => "METADATA_WORKFLOW_ID"
  | process => "METADATA_PROCESS_ID"
  | version => "METADATA_VERSION_ID"
  | level => "RUNNER_LOGGER_LEVEL"

/-- A field holds a text, or a list of subjects. -/
def Value : Override → Type
  | inputs => List String
  | _ => String

/-- What a field of a configuration holds. -/
def read : (o : Override) → Config → o.Value
  | url, c => c.wiring.url
  | stream, c => c.wiring.stream
  | output, c => c.wiring.output
  | inputs, c => c.wiring.inputs
  | product, c => c.identity.product
  | workflow, c => c.identity.workflow
  | process, c => c.identity.process
  | version, c => c.identity.version
  | level, c => c.level

/-- What the text of a variable stands for. -/
def parse : (o : Override) → String → o.Value
  | inputs, text => subjectsOf text
  | url, text | stream, text | output, text | product, text | workflow, text | process, text
  | version, text | level, text => text

theorem name_injective {o o' : Override} (h : o.name = o'.name) : o = o' := by
  cases o <;> cases o' <;> first | rfl | exact absurd h (by decide)

/-- A field is replaced exactly if its variable is there. -/
theorem read_applyOverrides (o : Override) (f : String → Option String) (c : Config) :
    o.read (c.applyOverrides f) = ((f o.name).map o.parse).getD (o.read c) := by
  cases o with
  | inputs => rfl
  | _ => exact congrArg (Option.getD · _) Option.map_id'.symm

/-- Nothing but the nine fields, the sections and the colours makes a configuration. -/
theorem eq_of_read {c d : Config} (hfields : ∀ o : Override, o.read c = o.read d)
    (hsections : c.sections = d.sections) (hcolor : c.color = d.color) : c = d := by
  have hidentity : c.identity = d.identity := (Identity.mk.injEq ..).mpr
    ⟨hfields .product, hfields .workflow, hfields .process, hfields .version⟩
  have hwiring : c.wiring = d.wiring := (Wiring.mk.injEq ..).mpr
    ⟨hfields .url, hfields .stream, hfields .output, hfields .inputs⟩
  exact (Config.mk.injEq ..).mpr ⟨hidentity, hwiring, hsections, hfields .level, hcolor⟩

end Override

section Subjects

variable {parts : List String} {text s : String}

theorem splitComma_eq_splitOn (cs : List Char) : splitComma cs = cs.splitOn ',' := by
  refine eq_splitOn rfl (fun c cs => ?_) cs
  rw [splitComma]
  cases splitComma cs <;> rfl

/-- The texts between the commas of a text. -/
def commaParts (text : String) : List String := (splitComma text.toList).map String.ofList

theorem subjectsOf_eq (text : String) :
    subjectsOf text = ((commaParts text).map Text.trim).filter (· ≠ "") := by
  rw [subjectsOf, commaParts, List.map_map]
  rfl

theorem not_mem_of_mem_commaParts (h : s ∈ commaParts text) : ',' ∉ s.toList := by
  obtain ⟨part, hpart, rfl⟩ := List.mem_map.1 h
  rw [splitComma_eq_splitOn] at hpart
  rw [String.toList_ofList]
  exact not_mem_of_mem_splitOn hpart

theorem intercalate_commaParts (text : String) : ",".intercalate (commaParts text) = text := by
  rw [← String.toList_inj, String.toList_intercalate, commaParts, List.map_map,
    splitComma_eq_splitOn]
  simp

/-- Texts without commas that are joined by commas are found again. -/
theorem commaParts_intercalate (hne : parts ≠ []) (h : ∀ p ∈ parts, ',' ∉ p.toList) :
    commaParts (",".intercalate parts) = parts := by
  have hlists : ∀ l ∈ parts.map String.toList, ',' ∉ l := by
    intro l hl
    obtain ⟨p, hp, rfl⟩ := List.mem_map.1 hl
    exact h p hp
  have hsplit := List.splitOn_intercalate ',' hlists (mt List.map_eq_nil_iff.1 hne)
  rw [commaParts, splitComma_eq_splitOn, String.toList_intercalate, show ",".toList = [','] from rfl,
    hsplit, List.map_map]
  simp

/-- A subject that may stand between commas. -/
structure Listable (s : String) : Prop where
  ne_empty : s ≠ ""
  trimmed : Text.Trimmed s
  noComma : ',' ∉ s.toList

theorem listable_of_mem (h : s ∈ subjectsOf text) : Listable s := by
  rw [subjectsOf_eq, List.mem_filter] at h
  obtain ⟨hmem, hne⟩ := h
  obtain ⟨part, hpart, rfl⟩ := List.mem_map.1 hmem
  refine ⟨of_decide_eq_true hne, Text.trimmed_trim part, fun hcomma => ?_⟩
  exact not_mem_of_mem_commaParts hpart (Text.mem_of_mem_trim hcomma)

/-- Subjects that are joined by commas are read as they are. -/
theorem subjectsOf_intercalate {subjects : List String} (h : ∀ s ∈ subjects, Listable s) :
    subjectsOf (",".intercalate subjects) = subjects := by
  by_cases hne : subjects = []
  · subst hne
    decide
  · have htrim : subjects.map Text.trim = subjects.map id :=
      List.map_congr_left fun s hs => Text.trim_of_trimmed (h s hs).trimmed
    rw [subjectsOf_eq, commaParts_intercalate hne fun s hs => (h s hs).noComma, htrim, List.map_id,
      List.filter_eq_self]
    exact fun s hs => decide_eq_true (h s hs).ne_empty

end Subjects

/-- Overrides by one lookup and then by another are overrides by the lookup that asks the second first, so
to apply one twice is to apply it once. Each of the nine fields is replaced exactly if its own variable is
there, by what that stands for, and nothing else changes. Subjects that replace others are the parts
between commas in their order, trimmed, without the empty ones; subjects that are joined by commas are
what replaces. -/
theorem applyOverrides_override (c : Config) (f g : String → Option String) :
    (c.applyOverrides f).applyOverrides g = c.applyOverrides (fun name => (g name).or (f name))
    ∧ (c.applyOverrides f).applyOverrides f = c.applyOverrides f
    ∧ (∀ o : Override, o.read (c.applyOverrides f) = ((f o.name).map o.parse).getD (o.read c))
    ∧ (∀ o o' : Override, o.name = o'.name → o = o')
    ∧ (c.applyOverrides f).sections = c.sections ∧ (c.applyOverrides f).color = c.color
    ∧ (∀ text, f "NATS_INPUTS" = some text →
      (∀ s ∈ (c.applyOverrides f).wiring.inputs, Listable s)
      ∧ ∃ parts, ",".intercalate parts = text ∧ (∀ p ∈ parts, ',' ∉ p.toList)
        ∧ (c.applyOverrides f).wiring.inputs = (parts.map Text.trim).filter (· ≠ ""))
    ∧ ∀ subjects, (∀ s ∈ subjects, Listable s) →
      f "NATS_INPUTS" = some (",".intercalate subjects) →
      (c.applyOverrides f).wiring.inputs = subjects := by
  have hcompose (g : String → Option String) : (c.applyOverrides f).applyOverrides g
      = c.applyOverrides fun name => (g name).or (f name) := by
    refine Override.eq_of_read (fun o => ?_) rfl rfl
    rw [Override.read_applyOverrides, Override.read_applyOverrides, Override.read_applyOverrides]
    cases g o.name <;> rfl
  have hinputs {text : String} (htext : f "NATS_INPUTS" = some text) :
      (c.applyOverrides f).wiring.inputs = subjectsOf text := by
    rw [applyOverrides, htext]
    rfl
  refine ⟨hcompose g, ?_, fun o => o.read_applyOverrides f c, fun o o' => Override.name_injective,
    rfl, rfl, fun text htext => ?_, fun subjects hsubjects htext => ?_⟩
  · rw [hcompose f]
    simp only [Option.or_self]
  · rw [hinputs htext]
    exact ⟨fun s => listable_of_mem, commaParts text, intercalate_commaParts text,
      fun p => not_mem_of_mem_commaParts, subjectsOf_eq text⟩
  · rw [hinputs htext, subjectsOf_intercalate hsubjects]

end Waystation.Config
