import Curation.Check.Admission
import Curation.Check.Content
import Curation.Check.Credentials
import Curation.Check.Following
import Curation.Check.Holdings
import Curation.Check.Hook
import Curation.Check.Profile
import Curation.Check.Registry
import Curation.Check.Standing

/-!
All checks of the service, in the order in which editors offer them.
-/
namespace Curation.Check

def catalogue : List Entry :=
  Admission.entries ++ Profile.entries ++ Following.entries ++ Content.entries
    ++ Holdings.entries ++ Standing.entries ++ Credentials.entries ++ Hook.entries

/-- The check of a name. -/
def byName? (name : String) : Option Entry :=
  catalogue.find? fun entry => entry.definition.name == name

/-- The registry of the catalogue; its names are all different. -/
def registry : Registry where
  definitions := catalogue.map (·.definition)
  names_nodup := by decide

end Curation.Check
