import Signage.Files.Work
import Signage.Template.Builtin

/-! Templates kept in files, which take the place of built-in ones. -/
namespace Signage.Template

/-- The path of the file that overrides a template. -/
def overridePath (directory : List Char) (family : Family) : Files.Path :=
  .ofText (Files.join directory (family.name ++ ".smil").toList)

/-- The templates with one of them replaced by its file, if there is one. -/
def Sources.withFile (fs : Files.FileSystem) (directory : List Char) (sources : Sources)
    (family : Family) : Except Error Sources :=
  let path := overridePath directory family
  if fs.isFile path then
    match fs.readText path with
    | .ok text => .ok (sources.override family text.toList)
    | .error fault => .error fault.toError
  else .ok sources

/-- The built-in templates, replaced by the files in a directory. -/
def loadOverrides (fs : Files.FileSystem) (directory : List Char) : Except Error Sources :=
  Family.all.foldlM (Sources.withFile fs directory) builtin

end Signage.Template
