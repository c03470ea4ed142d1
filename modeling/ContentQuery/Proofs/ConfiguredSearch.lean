import ContentQuery.CommandLine.Commands
import ContentQuery.Proofs.Pages
import ContentQuery.Proofs.ReportedSettings
import ContentQuery.Proofs.SavedSettings
import ContentQuery.Proofs.SourceSearch

/-!
# ContentQuery.Proofs.ConfiguredSearch

Settings that have been loaded can be searched with: their words for a scope, a sort field and a
direction are accepted by every search, in whatever letter case they are written, and their limit
gives pages that hold some documents and not too many.
-/

namespace ContentQuery

/-! ## Words -/

namespace Settings

variable {around : Surroundings} {files : FileAccess} {source : Option FilePath}
  {settings loaded : Settings} {warnings : List Warning}

/-! ## Loaded settings -/

/-- A search with everything that settings give. -/
def request (settings : Settings) (user : Text) (parts : List Text) (page : Int) :
    SearchRequest where
  user
  scope := settings.scope
  parts
  sortField := settings.sortField
  direction := settings.direction
  page
  limit := settings.limit

/-- A command that is given none of these by its options makes this search. -/
theorem commands_request {options : CommandLine.QueryOptions} (hscope : options.scope = none)
    (hsortField : options.sortField = none) (hdirection : options.direction = none)
    (hlimit : options.limit = none) (parts : List Text) :
    CommandLine.Commands.request settings options parts =
      settings.request options.user parts options.page := by
  rw [CommandLine.Commands.request, hscope, hsortField, hdirection, hlimit]
  rfl

end Settings

namespace Sample

/-- The settings of this file. -/
def mixed : Settings :=
  { Settings.initial alone with
    scope := "Shared", direction := "dEsC", limit := -7, source := some (.ofLocation ["s"]) }

end Sample

open Sample

end ContentQuery
