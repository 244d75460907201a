/-!
# Files by their paths

What a path leads to (`Content`), and a folder that is held in memory: its files by their names,
where a name may lead through folders (`Folder.find`).
-/

namespace FrontEnd

/-- What a path leads to. -/
inductive Content
  | file (bytes : ByteArray)
  | directory
  | missing
  /-- No file can have such a path. -/
  | impossible

/-- Files and folders by their names below one folder. -/
structure Folder where
  entries : List (String × Content)

namespace Folder

/-- The names that lead to an entry. -/
def placeOf (name : String) : List String :=
  (name.splitOn "/").filter fun step => step ≠ "" && step ≠ "."

/-- What stands at a place, given by the names that lead there. Of several entries with one place
the last counts. -/
def contentAt (f : Folder) (place : List String) : Content :=
  if place.isEmpty then .directory
  else
    match f.entries.reverse.find? fun e => placeOf e.1 == place with
    | some e => e.2
    | none =>
      if f.entries.any fun e => place.isPrefixOf (placeOf e.1) then .directory else .missing

/-- A folder stands at a place. -/
def isFolder (f : Folder) (place : List String) : Bool :=
  match f.contentAt place with
  | .directory => true
  | _ => false

/-- A step of a path that names nothing: it stays where it is, or goes up. -/
def namesNothing (step : String) : Bool := step = "" || step = "." || step = ".."

/-- What the steps of a path lead to, from outside the folder on. Of what is outside only the
folders on the way up are known. -/
def walkOutside (steps : List String) : Content :=
  if steps.all namesNothing then .directory else .missing

/-- What the steps of a path lead to, from a place on. -/
def walk (f : Folder) (place : List String) : List String → Content
  | [] => f.contentAt place
  | step :: steps =>
    if f.isFolder place then
      if step = "" ∨ step = "." then walk f place steps
      else if step = ".." then
        if place.isEmpty then walkOutside steps else walk f place.dropLast steps
      else walk f (place ++ [step]) steps
    else .missing

/-- **What a path leads to**, from the folder on, or from the root. -/
def find (f : Folder) (path : String) : Content :=
  if path.toList.contains '\x00' then .impossible
  else if path = "" then .missing
  else
    match path.splitOn "/" with
    | "" :: steps => walkOutside steps
    | steps => f.walk [] steps

end Folder

end FrontEnd
