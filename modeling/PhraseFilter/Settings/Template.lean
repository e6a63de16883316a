/-!
# The settings template

`Settings.template` is a document with the default settings and with an explanation of each of them, for
users to start from.
-/

namespace PhraseFilter.Settings

def templateLines : List String := [
    "# Dotafilter Configuration",
    "#",
    "# Environment variables override these settings:",
    "# - DOTAFILTER_DEFAULT_PLAYER",
    "# - DOTAFILTER_OPENDOTA_URL",
    "# - DOTAFILTER_API_KEY",
    "# - DOTAFILTER_REQUEST_TIMEOUT",
    "# - DOTAFILTER_LOG_LEVEL",
    "# - DOTAFILTER_LOG_FORMAT",
    "",
    "# Player to use when --player is not given.",
    "# Any player reference works: account id, steam id, profile URL or a linked name.",
    "# default_player = \"86745912\"",
    "",
    "[opendota]",
    "# OpenDota API URL",
    "base_url = \"https://api.opendota.com/api\"",
    "",
    "# Optional API key (raises rate limits)",
    "# api_key = \"\"",
    "",
    "# Request timeout in seconds",
    "request_timeout_secs = 10",
    "",
    "[logging]",
    "# Log level: trace, debug, info, warn, error",
    "level = \"warn\"",
    "",
    "# Log format: pretty (for development) or json (for production)",
    "format = \"pretty\"",
    "",
    "[accounts]",
    "# Linked accounts: name (or chat user id) = steam id",
    "# Both 32-bit account ids and 64-bit steam ids are accepted.",
    "# dendi = 70388657"]

def template : String := String.join (templateLines.map (· ++ "\n"))

end PhraseFilter.Settings
