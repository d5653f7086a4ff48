import ReducerAtlas.Path.Relative

/-!
# Referring to modules

How a generated file names the modules that it loads.

* `header`: the first lines of every generated file.
* `moduleReference`: the name of a file as seen from a folder; `loader`: a function that loads it.
-/

namespace ReducerAtlas.Artifact

open ReducerAtlas.Text

/-- The first lines of every generated file. -/
def header : List String :=
  ["/* AUTOGENERATED FILE - DO NOT MODIFY */", "/* generated by redux-mapper */"]

/-- A text starts as a relative module name does. -/
def isRelative (cs : List Char) : Bool :=
  ['.', '/'].isPrefixOf cs || ['.', '.', '/'].isPrefixOf cs

/-- **The name of a module as seen from a folder**: relative, with slashes and without an
extension. -/
def moduleReference (target folder : Path) : String :=
  let steps := (Path.relativeFrom target folder).toList.map fun c => if c = '\\' then '/' else c
  let plain := withoutExtension steps
  String.ofList (if isRelative plain then plain else '.' :: '/' :: plain)

/-- The code of a function that loads a module when it is called. -/
def loader (reference : String) : String :=
  "function() \x7b return System.import('" ++ reference ++ "'); \x7d"

end ReducerAtlas.Artifact
