import PhraseFilter.Command.Basic

/-!
# Help

`Topic.page` is what the program says about itself and its commands. Only the page of the program has a
full form that differs from the short one.
-/

namespace PhraseFilter

namespace Topic

def versionLine : String := "dotafilter 0.1.0"

def commandLines : List String := [
    "Commands:",
    "  parse    Show how a filter phrase is understood",
    "  matches  List a player's matches that fit a filter phrase",
    "  config   Generate default config file",
    "  help     Print this message or the help of the given subcommand(s)"]

def programLines : List String := [
    "Filter Dota 2 match histories with plain phrases",
    "",
    "Usage: dotafilter [OPTIONS] <COMMAND>",
    ""] ++ commandLines ++ [
    "",
    "Options:",
    "  -c, --config <CONFIG>  Config file (default: ~/.config/dotafilter/config.toml)",
    "  -f, --format <FORMAT>  Output format (table, json) [default: table]",
    "  -h, --help             Print help (see more with '--help')",
    "  -V, --version          Print version"]

def fullProgramLines : List String := [
    "Dotafilter turns phrases like \"wins on radiant ranked mid lane last month\"",
    "into OpenDota queries and applies them to a player's match history.",
    "",
    "Usage: dotafilter [OPTIONS] <COMMAND>",
    ""] ++ commandLines ++ [
    "",
    "Options:",
    "  -c, --config <CONFIG>",
    "          Config file (default: ~/.config/dotafilter/config.toml)",
    "",
    "  -f, --format <FORMAT>",
    "          Output format (table, json)",
    "          ",
    "          [default: table]",
    "",
    "  -h, --help",
    "          Print help (see a summary with '-h')",
    "",
    "  -V, --version",
    "          Print version"]

def parseLines : List String := [
    "Show how a filter phrase is understood",
    "",
    "Usage: dotafilter parse [OPTIONS] [PHRASE]...",
    "",
    "Arguments:",
    "  [PHRASE]...  Filter phrase, e.g. \"ranked wins last week\"",
    "",
    "Options:",
    "  -c, --config <CONFIG>  Config file (default: ~/.config/dotafilter/config.toml)",
    "  -f, --format <FORMAT>  Output format (table, json) [default: table]",
    "  -h, --help             Print help"]

def listLines : List String := [
    "List a player's matches that fit a filter phrase",
    "",
    "Usage: dotafilter matches [OPTIONS] [PHRASE]...",
    "",
    "Arguments:",
    "  [PHRASE]...  Filter phrase (empty = all matches)",
    "",
    "Options:",
    "  -c, --config <CONFIG>    Config file (default: ~/.config/dotafilter/config.toml)",
    "  -p, --player <PLAYER>    Player: account id, steam id, profile URL or linked name",
    "  -f, --format <FORMAT>    Output format (table, json) [default: table]",
    "  -l, --limit <LIMIT>      Maximum number of matches to request",
    "      --hero-id <HERO_ID>  Only matches on this hero",
    "  -h, --help               Print help"]

def templateLines : List String := [
    "Generate default config file",
    "",
    "Usage: dotafilter config [OPTIONS]",
    "",
    "Options:",
    "  -c, --config <CONFIG>  Config file (default: ~/.config/dotafilter/config.toml)",
    "  -o, --output <OUTPUT>  Output path (default: stdout)",
    "  -f, --format <FORMAT>  Output format (table, json) [default: table]",
    "  -h, --help             Print help"]

def helpLines : List String := [
    "Print this message or the help of the given subcommand(s)",
    "",
    "Usage: dotafilter help [COMMAND]...",
    "",
    "Arguments:",
    "  [COMMAND]...  Print help for the subcommand(s)"]

def lines (isFull : Bool) : Topic → List String
  | .program => if isFull then fullProgramLines else programLines
  | .command .parse => parseLines
  | .command .list => listLines
  | .command .template => templateLines
  | .help => helpLines

def page (t : Topic) (isFull : Bool) : String := String.join ((t.lines isFull).map (· ++ "\n"))

end Topic

end PhraseFilter
