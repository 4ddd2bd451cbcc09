import RegistryLogin.Login.Errors
import RegistryLogin.Text.Utf8

/-! Files by their paths, from the root or from the working directory. -/

namespace RegistryLogin

open Text

inductive File
  | content (bytes : Bytes)
  | directory (entries : List (String × File))

structure Files where
  root : File
  working : List (List Char)

namespace File

def entry? (entries : List (String × File)) (name : List Char) : Option File :=
  (entries.find? (·.1.toList == name)).map (·.2)

def walk (file : File) (outside : List File) : List (List Char) → Except FileError File
  | [] => .ok file
  | component :: rest =>
    match file with
    | .content _ => .error .notDirectory
    | .directory entries =>
      if component = [] ∨ component = ['.'] then walk file outside rest
      else if component = ['.', '.'] then walk (outside.headD file) outside.tail rest
      else
        match entry? entries component with
        | some inside => walk inside (file :: outside) rest
        | none => .error .notFound

end File

namespace Files

def ofWorking (entries : List (String × File)) : Files := ⟨.directory entries, []⟩

def find (files : Files) (path : String) : Except FileError File :=
  match path.toList with
  | [] => .error .notFound
  | '/' :: cs => files.root.walk [] (splitOn '/' cs)
  | cs => files.root.walk [] (files.working ++ splitOn '/' cs)

def readText (files : Files) (path : String) : Except FileError (List Char) :=
  match find files path with
  | .error error => .error error
  | .ok (.directory _) => .error .isDirectory
  | .ok (.content bytes) =>
    match Utf8.decode? bytes with
    | some text => .ok text
    | none => .error .notText

end Files

end RegistryLogin
