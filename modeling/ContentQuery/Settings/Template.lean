import ContentQuery.Text

/-!
# ContentQuery.Settings.Template

The file of settings that a user starts from: every key with its initial value and a comment.
-/

namespace ContentQuery.Settings

/-- The lines of the file. -/
def templateLines : List Text :=
  List.map Text.ofString [
    "# docquery configuration",
    "# Default location: ~/.config/docquery/config.toml",
    "",
    "[store]",
    "# SQLite document store, filled by `docquery load SNAPSHOT`",
    "db_path = \"~/.local/share/docquery/documents.db\"",
    "",
    "[query]",
    "# Which documents `docquery query` sees: owned, shared or all",
    "default_scope = \"all\"",
    "",
    "# Sort field: creation_date or last_modified_date",
    "default_sort_by = \"creation_date\"",
    "",
    "# Sort direction: asc or desc",
    "default_order = \"asc\"",
    "",
    "# Documents per page (1-100)",
    "default_limit = 20",
    "",
    "[display]",
    "# Use colors in terminal output (NO_COLOR and --no-color also disable it)",
    "colored_output = true"]

/-- The text of the file. -/
def template : Text := templateLines.flatMap fun line => line ++ "\n"

end ContentQuery.Settings
