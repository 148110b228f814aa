import FundLedger.Text.Parts
/-!
# The folder of settings

Settings are kept in files in the folder `config`.  A file with settings is named without its extension: it is the file
with that very name, if there is one and its extension is `json`, and else the one with `.json` behind the name.

* `SettingsFile.text?`: the text of the file with a name.
* `Folder`: a folder whose files are known; `Folder.read?` follows a path in it.
-/

namespace FundLedger

namespace SettingsFile

/-- The parts of a path. -/
def pathParts (path : String) : List String := (splitAtChar '/' path.toList).map String.ofList

/-- Whether a part of a path names nothing. -/
def isVoid (part : String) : Bool := part == "" || part == "."

/-- The path of a name in the folder. -/
def path (name : String) : String := "config/" ++ name

/-- The path with `.json` behind its last name, if its last part is a name. -/
def withJson? (path : String) : Option String :=
  match (pathParts path).reverse.dropWhile isVoid with
  | [] => none
  | last :: front => if last = ".." then none else some ("/".intercalate (front.reverse ++ [last ++ ".json"]))

/-- Whether the extension of a path is `json`. -/
def isJson (path : String) : Bool :=
  match ((pathParts path).getLast?.getD "").toList.reverse with
  | 'n' :: 'o' :: 's' :: 'j' :: '.' :: _ :: _ => true
  | _ => false

/-- The text of the file with a name, where `read?` gives the texts of files by their paths. -/
def text? (read? : String → Option String) (name : String) : Option String :=
  match read? (path name) with
  | some text => if isJson (path name) then some text else none
  | none => (withJson? (path name)).bind read?

end SettingsFile

/-- The files in the folder of settings: their names and texts. -/
abbrev Folder : Type := List (String × String)

namespace Folder

/-- The parts of the path of a file. -/
def partsOf (name : String) : List String := SettingsFile.pathParts (SettingsFile.path name)

/-- Whether there is a folder with these parts of a path. -/
def hasFolder (folder : Folder) (parts : List String) : Bool :=
  parts.isEmpty || parts == ["config"] || folder.any fun f => parts.isPrefixOf (partsOf f.1).dropLast

/-- Follows the parts of a path from a folder that is given by its own parts. -/
def follow? (folder : Folder) (here : List String) : List String → Option (List String)
  | [] => none
  | [last] => if SettingsFile.isVoid last || last == ".." then none else some (here ++ [last])
  | part :: rest =>
    if SettingsFile.isVoid part then folder.follow? here rest
    else if part = ".." then if here.isEmpty then none else folder.follow? here.dropLast rest
    else if folder.hasFolder (here ++ [part]) then folder.follow? (here ++ [part]) rest
    else none

/-- The text of the file at a path, if there is one. -/
def read? (folder : Folder) (path : String) : Option String := do
  let found ← folder.follow? [] (SettingsFile.pathParts path)
  (List.find? (fun f => partsOf f.1 == found) folder).map (·.2)

end Folder

end FundLedger
