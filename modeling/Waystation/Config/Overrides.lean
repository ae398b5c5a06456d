import Waystation.Config.Basic
/-!
Environment variables that override fields of a configuration.
-/
namespace Waystation.Config

/-- The parts of a text between commas. -/
def splitComma (cs : List Char) : List (List Char) :=
  match cs with
  | [] => [[]]
  | c :: rest =>
    if c = ',' then [] :: splitComma rest
    else match splitComma rest with
      | part :: parts => (c :: part) :: parts
      | [] => [[c]]

/-- Subjects between commas, without blanks around them and without empty ones. -/
def subjectsOf (s : String) : List String :=
  ((splitComma s.toList).map fun part => Text.trim (String.ofList part)).filter (· ≠ "")

/-- Applies the overrides that a lookup of variables gives. -/
def applyOverrides (lookup : String → Option String) (c : Config) : Config :=
  { c with
    wiring :=
      { url := (lookup "NATS_URL").getD c.wiring.url
        stream := (lookup "NATS_STREAM").getD c.wiring.stream
        output := (lookup "NATS_OUTPUT").getD c.wiring.output
        inputs := ((lookup "NATS_INPUTS").map subjectsOf).getD c.wiring.inputs }
    identity :=
      { product := (lookup "METADATA_PRODUCT_ID").getD c.identity.product
        workflow := (lookup "METADATA_WORKFLOW_ID").getD c.identity.workflow
        process := (lookup "METADATA_PROCESS_ID").getD c.identity.process
        version := (lookup "METADATA_VERSION_ID").getD c.identity.version }
    level := (lookup "RUNNER_LOGGER_LEVEL").getD c.level }

end Waystation.Config
