/-!
# Paths

Paths as they are shown: without empty components, components that are a single dot, and a slash at
the end. Exactly two leading slashes are kept.
-/

namespace TemporalQuery.CommandLine

def components (path : List Char) : List (List Char) :=
  (path.splitOn '/').filter fun part => part ≠ [] ∧ part ≠ ['.']

def rootOf : List Char → String
  | ['/', '/'] => "//"
  | '/' :: '/' :: c :: _ => if c = '/' then "/" else "//"
  | '/' :: _ => "/"
  | _ => ""

def normalizePath (path : String) : String :=
  let shown := rootOf path.toList ++
    "/".intercalate ((components path.toList).map String.ofList)
  if shown.isEmpty then "." else shown

end TemporalQuery.CommandLine
