import TaskFleet.Config.Basic
import TaskFleet.Toml.Writer

/-!
# Configurations as text

A configuration written out in full: a section each for the ledger, the scheduler, the lifecycle
and the log, and a table with two sections for each agent.
-/

namespace TaskFleet.Config

open Toml (renderString renderTable renderParts renderPair)

/-- A pair of a key and a text. -/
def textPair (key value : String) : String × String := (key, renderString value)

/-- The sections that every configuration has. -/
def sections (c : Config) : List String :=
  [renderTable "[ledger]" [textPair "resync_interval" c.ledger.resyncInterval,
      ("page_size", toString c.ledger.pageSize)],
    renderTable "[scheduler]" [textPair "strategy" c.strategy],
    renderTable "[lifecycle]" [textPair "dependency_backoff" c.lifecycle.dependency,
      textPair "capacity_backoff" c.lifecycle.capacity, textPair "poll_interval" c.lifecycle.poll,
      textPair "transient_backoff" c.lifecycle.transient,
      textPair "conflict_backoff" c.lifecycle.conflict],
    renderTable "[log]" [textPair "filter" c.log.filter, textPair "format" c.log.format]]

/-- The sections of an agent. -/
def agentSections (a : Observation) : List String :=
  [renderTable "[[agents]]"
      [textPair "name" a.name, ("ready", if a.ready then "true" else "false")],
    renderTable "[agents.allocatable]"
      (a.allocatable.toList.map fun e => textPair e.1.name e.2.render),
    renderTable "[agents.labels]" (a.labels.entries.map fun e => textPair e.1 e.2)]

/-- The text of a configuration. -/
def render (c : Config) : String :=
  renderParts <|
    if c.agents.isEmpty then renderPair "agents" "[]" :: c.sections
    else c.sections ++ c.agents.flatMap agentSections

end TaskFleet.Config
