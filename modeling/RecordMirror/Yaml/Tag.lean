/-!
The tags of YAML nodes.
-/

namespace RecordMirror.Yaml

/-- What the tags of the standard schema begin with. -/
def tagPrefix : String := "tag:yaml.org,2002:"

/-- The tags with a meaning of their own. -/
inductive Tag
  | null
  | bool
  | int
  | float
  | binary
  | timestamp
  | str
  | seq
  | map
  | set
  | omap
  | pairs
  | merge
  | default
  | other
deriving DecidableEq, Repr

namespace Tag

/-- The short names of the tags. -/
def names : List (String × Tag) :=
  [("null", null), ("bool", bool), ("int", int), ("float", float), ("binary", binary),
    ("timestamp", timestamp), ("str", str), ("seq", seq), ("map", map), ("set", set),
    ("omap", omap), ("pairs", pairs), ("merge", merge), ("value", default)]

/-- The tag of a full name. -/
def ofName (name : String) : Tag :=
  ((names.find? fun entry => tagPrefix ++ entry.1 == name).map (·.2)).getD other

/-- Whether a tag asks for a collection. -/
def isCollection : Tag → Bool
  | seq | map | set | omap | pairs => true
  | _ => false

/-- Whether no value has a tag. -/
def isEmpty : Tag → Bool
  | merge | default | other => true
  | _ => false

end Tag

end RecordMirror.Yaml
