import RegistryLogin.Text.Utf8

namespace RegistryLogin

/-- What each variable is set to; a value that is no text counts as unset. -/
structure Environment where
  value? : String → Option String

namespace Environment

def valueOrEmpty (env : Environment) (name : String) : String := (env.value? name).getD ""

def find? {α : Type} (entries : List (String × α)) (name : String) : Option α :=
  (entries.find? (·.1 == name)).map (·.2)

def ofFirst (entries : List (String × String)) : Environment := ⟨find? entries⟩

def ofLast (entries : List (String × String)) : Environment := ⟨find? entries.reverse⟩

def ofBytes (entries : List (String × Text.Bytes)) : Environment :=
  ⟨fun name => ((find? entries.reverse name).bind Text.Utf8.decode?).map String.ofList⟩

end Environment

end RegistryLogin
