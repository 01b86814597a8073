import ViewLayers.Dict

/-!
Messages of localized components: which file holds a locale's messages, and how loaded messages go
over the default ones.
-/

namespace ViewLayers

/-- Texts by their keys. -/
abbrev Messages := Dict String

/-- The URL of the first file, in the order of the paths, that is named for a tag. -/
def tagUrl? (urls : Dict String) (tag : String) : Option String :=
  let ending := ("/" ++ tag ++ ".json").toList
  (urls.entries.find? fun e => ending.isSuffixOf e.1.toList).map (·.2)

/-- The language of a locale that says more than its language: what stands before the first
hyphen. -/
def language? (locale : String) : Option String :=
  let language := locale.toList.takeWhile (· ≠ '-')
  if language = [] ∨ language = locale.toList then none else some (String.ofList language)

/-- The URL of the messages for a locale, or else for its language. -/
def localeUrl? (urls : Dict String) (locale : String) : Option String :=
  (tagUrl? urls locale).or ((language? locale).bind (tagUrl? urls))

namespace Messages

/-- A key without its namespace, if it begins with that. -/
def stripNamespace (ns key : String) : String :=
  let start := (ns ++ "/").toList
  if start.isPrefixOf key.toList then String.ofList (key.toList.drop start.length) else key

/-- The defaults with loaded messages over them, in the order of the loaded keys. -/
def localize (defaults loaded : Messages) (ns : String) : Messages :=
  loaded.entries.foldl (fun m (key, value) => m.insert (stripNamespace ns key) value) defaults

end Messages

end ViewLayers
