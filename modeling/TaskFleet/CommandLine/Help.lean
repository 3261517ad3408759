import TaskFleet.CommandLine.Arguments

/-!
# Help

The pages that explain the command line.
-/

namespace TaskFleet.CommandLine

/-- The name under which the program is called. -/
def programName : String := "agentgridd"

/-- What each command does, in the order in which the commands are listed. -/
def summaries : List (String × String) :=
  [("standalone", "Run in standalone mode (single host, all subsystems in one process)"),
    ("validate", "Parse and validate a task manifest without running it"),
    ("cancel", "Ask a running daemon to cancel a task, via its spool directory"),
    ("help", "Print this message or the help of the given subcommand(s)")]

/-- What a command does. -/
def summary (command : String) : String :=
  ((summaries.find? fun s => s.1 = command).map (·.2)).getD ""

/-- A text with blanks after it up to a width. -/
def pad (width : Nat) (s : String) : String :=
  s ++ String.ofList (List.replicate (width - s.length) ' ')

/-- A heading with rows of two columns under it. -/
def columns (heading : String) (rows : List (String × String)) : List String :=
  let width := (rows.map fun r => r.1.length).foldl max 0
  [heading ++ ":"] ++ rows.map fun r => "  " ++ pad width r.1 ++ "  " ++ r.2

/-- A heading with rows under it, each on two lines. -/
def stacked (heading : String) (rows : List (String × String)) : List String :=
  [heading ++ ":"] ++ rows.flatMap fun r => ["  " ++ r.1, "          " ++ r.2]

/-- The row on the option that asks for help. -/
def helpRow : String × String := ("-h, --help", "Print help")

/-- The line on how a command is called. -/
def usage (arguments : String) : String :=
  "Usage: " ++ programName ++ " " ++ arguments

/-- The parts of a page. -/
def HelpPage.parts : HelpPage → List (List String)
  | .overview =>
    [["AgentGrid daemon"], [usage "<COMMAND>"], columns "Commands" summaries,
      columns "Options" [helpRow]]
  | .standalone =>
    [[summary "standalone"], [usage "standalone [OPTIONS]"],
      stacked "Options" [
        ("    --config <CONFIG>", "Path to agentgrid.toml. Defaults apply when omitted"),
        ("    --data-dir <DATA_DIR>",
          "Data directory for persistent state [default: " ++ defaultDataDirectory ++ "]"),
        ("    --spool <SPOOL>", "Directory scanned for task manifests (`*.toml`)"),
        ("    --import-interval <IMPORT_INTERVAL>",
          "Spool scan interval in seconds [default: 5]"),
        ("    --agent-stale-after <AGENT_STALE_AFTER>",
          "Seconds without a heartbeat before an agent counts as not ready. Agents from the " ++
          "config file are heartbeated on every resync, so this ages out records left behind " ++
          "by earlier configs. Zero disables the check [default: 0]"),
        helpRow]]
  | .validate =>
    [[summary "validate"], [usage "validate <MANIFEST>"],
      columns "Arguments" [("<MANIFEST>", "Path to the manifest")], columns "Options" [helpRow]]
  | .cancel =>
    [[summary "cancel"], [usage "cancel --spool <SPOOL> <TASK>"],
      columns "Arguments" [("<TASK>", "Task key, `namespace/name`")],
      columns "Options" [("    --spool <SPOOL>", "Spool directory the daemon watches"), helpRow]]
  | .help =>
    [[summary "help"], [usage "help [COMMAND]..."],
      columns "Arguments" [("[COMMAND]...", "Print help for the subcommand(s)")]]

/-- The text of a page. -/
def HelpPage.render (p : HelpPage) : String :=
  String.intercalate "\n\n" (p.parts.map (String.intercalate "\n")) ++ "\n"

/-- What is said of a wrong command line. -/
def UsageError.render (e : UsageError) : String :=
  match e with
  | .noCommand => HelpPage.overview.render
  | _ => "error: " ++ e.message ++ "\n\n" ++ usage "<COMMAND>" ++
    "\n\nFor more information, try '--help'.\n"

end TaskFleet.CommandLine
