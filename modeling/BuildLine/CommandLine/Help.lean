import BuildLine.CommandLine.Request

/-!
# Help

What the program says about itself, its commands and their options.
-/

namespace BuildLine.CommandLine.Help

/-- How the program, or one of its commands, is called. -/
def usage (program : String) : Option Command → String
  | none => "Usage: " ++ program ++ " [OPTIONS] COMMAND [ARGS]..."
  | some c => "Usage: " ++ program ++ " " ++ c.word ++ " [OPTIONS]"

/-- The words that ask for help. -/
def request (program : String) : Option Command → String
  | none => program ++ " --help"
  | some c => program ++ " " ++ c.word ++ " --help"

/-- What the program, or one of its commands, is for. -/
def purpose : Option Command → String
  | none => "linear-ci: run one build job and publish its docs"
  | some .run => "Run the job."
  | some .plan => "Show the stages of the job in the order they will run."

/-- What the options do. -/
def options : Option Command → List String
  | none => ["  --version  Show the version and exit.", "  --help     Show this message and exit."]
  | some .plan =>
    ["  --manifest FILE", "  --root DIRECTORY", "  --help            Show this message and exit."]
  | some .run =>
    ["  --manifest FILE                 Job manifest. Defaults to linear_ci.toml or",
     "                                  the built-in job.",
     "  --root DIRECTORY                Working directory shared by all stages.",
     "                                  [default: .]",
     "  --branch TEXT                   Branch being built.",
     "  --pull-request / --no-pull-request",
     "                                  Is this a pull request build?",
     "  --repo-slug TEXT                owner/repo to publish to.",
     "  --strict-publish                Exit with 2 when publishing fails.",
     "  --dry-run                       Walk the job without running it.",
     "  --help                          Show this message and exit."]

/-- The commands. -/
def commands : Option Command → List String
  | none =>
    ["", "Commands:", "  plan  " ++ purpose (some .plan), "  run   " ++ purpose (some .run)]
  | some _ => []

/-- The help on the program or one of its commands, line by line. -/
def lines (program : String) (c : Option Command) : List String :=
  [usage program c, "", "  " ++ purpose c, "", "Options:"] ++ options c ++ commands c

/-- What is said when a request is refused. -/
def refusal (program : String) (c : Option Command) (r : Refusal) : List String :=
  match r with
  | .nothing => lines program c
  | r =>
    let hint := [usage program c, "Try '" ++ request program c ++ "' for help.", ""]
    (if r.hints then hint else []) ++ ["Error: " ++ r.message]

end BuildLine.CommandLine.Help
