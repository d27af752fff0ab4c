import Lexgen.Definition.Json
import Lexgen.Lexicon.Basic

namespace Lexgen

def Lexicon.toJson (l : Lexicon) : Json :=
  Json.ofFields [
    ("nsid", some (.string l.nsid)),
    ("namespace", some (.string l.domain)),
    ("id", some (.string l.name)),
    ("title_nsid", some (.string l.titleNsid)),
    ("title_namespace", some (.string l.titleDomain)),
    ("title_id", some (.string l.titleName)),
    ("description", l.description.map .string),
    ("revision", l.revision.map Json.ofNat),
    ("def_keys", some (Json.strings l.keys)),
    ("references", some (Json.strings l.references)),
    ("definitions", some l.definitions.toJson)]

end Lexgen
