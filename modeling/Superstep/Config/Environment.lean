import Superstep.KeyMap

/-! # Environments

The variables of a program. An environment is a list of lines, each of them a
name, an equality sign and a value, and looking up a name takes what follows it
and an equality sign in the first line that starts with both. So a name that
holds an equality sign itself leads into a value.
-/

namespace Superstep

/-- Variables by their names. -/
structure Environment where
  entries : KeyMap String

namespace Environment

def line (name value : String) : List Char :=
  name.toList ++ '=' :: value.toList

/-- What is found under a name. Nothing is found under the empty one. -/
def lookup (e : Environment) (name : String) : Option String :=
  if name.isEmpty then none
  else
    (e.entries.entries.findSome? fun (own, value) =>
      (name.toList ++ ['=']).isPrefixOf? (line own value)).map String.ofList

end Environment

end Superstep
