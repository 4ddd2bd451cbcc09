import RegistryLogin.Proofs.Reference.Spelling
import RegistryLogin.Reference.Resolution

namespace RegistryLogin.Reference

open Text

variable {cs us ws : List Char} {reference host : String}

lemma namesRegistry_iff : namesRegistry us = true ↔ '.' ∈ us ∨ ':' ∈ us ∨ us = localHost := by
  simp [namesRegistry, or_assoc]

lemma registryPart?_toList : (∃ ws, registryPart? reference.toList = some (host.toList, ws)) ↔
    (∃ rest, reference = host ++ "/" ++ rest ∧ '/' ∉ host.toList) ∧
      ('.' ∈ host.toList ∨ ':' ∈ host.toList ∨ host = "localhost") := by
  have named : host.toList = localHost ↔ host = "localhost" := String.toList_inj
  have joined : ∀ rest, reference = host ++ "/" ++ rest ↔
      reference.toList = host.toList ++ '/' :: rest.toList := by
    intro rest
    rw [← String.toList_inj]
    simp
  simp only [registryPart?_eq_some_iff, namesRegistry_iff, named, joined]
  constructor
  · rintro ⟨ws, text, plain, names⟩
    exact ⟨⟨String.ofList ws, by simpa using text, plain⟩, names⟩
  · rintro ⟨⟨rest, text, plain⟩, names⟩
    exact ⟨rest.toList, text, plain, names⟩

lemma resolveHost_eq_ok_iff : resolveHost reference = .ok host ↔
    (∃ ws, registryPart? reference.toList = some (host.toList, ws)) ∧
      (∃ parsed, parse reference.toList = .ok parsed) ∧ ∃ url, serverUrl host = .ok url := by
  rw [resolveHost]
  split
  · rename_i empty
    simp [String.isEmpty_iff.mp empty, registryPart?, cutAt?]
  cases hp : registryPart? reference.toList with
  | none => simp
  | some part =>
    obtain ⟨registry, behind⟩ := part
    cases parse reference.toList with
    | error flaw => simp
    | ok parsed =>
      cases hu : serverUrl (String.ofList registry) with
      | error flaw =>
        simp only [hu, reduceCtorEq, false_iff, not_and]
        rintro ⟨ws, same⟩ -
        obtain ⟨rfl, rfl⟩ := Prod.mk.inj (Option.some.inj same)
        rw [String.ofList_toList] at hu
        simp [hu]
      | ok url =>
        simp only [hu, Except.ok.injEq]
        constructor
        · rintro rfl
          simp [hu]
        · rintro ⟨⟨ws, same⟩, -⟩
          obtain ⟨rfl, rfl⟩ := Prod.mk.inj (Option.some.inj same)
          exact String.ofList_toList

lemma resolveHost_implicit_iff : resolveHost reference = .error (.implicitRegistry reference) ↔
    reference ≠ "" ∧ registryPart? reference.toList = none := by
  rw [resolveHost]
  split
  · rename_i empty
    simp [String.isEmpty_iff.mp empty]
  · rename_i text
    rw [String.isEmpty_iff] at text
    cases registryPart? reference.toList with
    | none => simp [text]
    | some part =>
      cases parse reference.toList with
      | error flaw => simp
      | ok parsed => cases hu : serverUrl (String.ofList part.1) <;> simp [hu]

lemma Wellformed.registry {parts : Parts} (h : Wellformed cs parts) :
    (registryPart? cs).map (·.1) = (registryPart? parts.name).map (·.1) := by
  rw [h.text, List.append_assoc, registryPart?_append (slash_not_mem_behind h.toSpells)]

def reported (first : List Char) : List Char :=
  if first = publicIndex then publicRegistry else first

lemma locate_registry (name : List Char) :
    (locate name).1 = ((registryPart? name).map (·.1)).elim publicRegistry reported := by
  rw [locate]
  cases registryPart? name with
  | none =>
    have distinct : publicRegistry ≠ publicIndex := by decide
    simp only [Option.getD_none, if_neg distinct, Option.map_none, Option.elim_none]
    split <;> rfl
  | some part =>
    simp only [Option.getD_some, Option.map_some, Option.elim_some, reported]
    split <;> split <;> rfl

lemma registry_of_parse {parsed : Reference} (h : parse cs = .ok parsed) :
    parsed.registry = ((registryPart? cs).map (·.1)).elim publicRegistry reported := by
  obtain ⟨parts, wellformed, rfl⟩ := parse_eq_ok_iff.mp h
  rw [wellformed.registry]
  exact locate_registry parts.name

def BeginsWith (registry : List Char) (reference : String) : Prop :=
  registry ++ ['/'] <+: reference.toList

lemma beginsWith_iff (names : namesRegistry us = true) (plain : '/' ∉ us) :
    BeginsWith us reference ↔ ∃ ws, registryPart? reference.toList = some (us, ws) := by
  simp only [registryPart?_eq_some_iff, BeginsWith]
  constructor
  · rintro ⟨ws, text⟩
    exact ⟨ws, by simp [← text], plain, names⟩
  · rintro ⟨ws, text, -, -⟩
    exact ⟨ws, by simp [text]⟩

lemma registryPart?_eq_none_iff : registryPart? reference.toList = none ↔
    ((registryPart? reference.toList).map (·.1)).elim publicRegistry reported = publicRegistry ∧
      ¬ BeginsWith publicRegistry reference ∧ ¬ BeginsWith publicIndex reference := by
  rw [beginsWith_iff (by decide) (by decide), beginsWith_iff (by decide) (by decide)]
  cases registryPart? reference.toList with
  | none => simp
  | some part =>
    obtain ⟨first, ws⟩ := part
    simp only [reduceCtorEq, false_iff, not_and, Option.map_some, Option.elim_some, reported]
    intro registry hp hi
    split at registry
    · rename_i index
      exact hi ⟨ws, by rw [index]⟩
    · exact hp ⟨ws, by rw [registry]⟩

theorem resolveHost_iff_wellformed (reference : String) :
    (∀ host, resolveHost reference = .ok host ↔
      (∃ parts, Wellformed reference.toList parts ∧
          parse reference.toList = .ok parts.reference) ∧
        (∃ rest, reference = host ++ "/" ++ rest ∧ '/' ∉ host.toList) ∧
        ('.' ∈ host.toList ∨ ':' ∈ host.toList ∨ host = "localhost") ∧
        ∃ url, Url.parse ("https://" ++ host) = .ok url) ∧
    (∀ host, resolveHost reference = .ok host →
      ∃ parsed, parse reference.toList = .ok parsed ∧
        parsed.registry = if host = "index.docker.io" then publicRegistry else host.toList) ∧
    (∀ parsed, parse reference.toList = .ok parsed →
      (resolveHost reference = .error (.implicitRegistry reference) ↔
        parsed.registry = publicRegistry ∧
          ¬ BeginsWith publicRegistry reference ∧ ¬ BeginsWith publicIndex reference)) := by
  refine ⟨fun host => ?_, fun host h => ?_, fun parsed h => ?_⟩
  · have parses : (∃ parsed, parse reference.toList = .ok parsed) ↔
        ∃ parts, Wellformed reference.toList parts ∧
          parse reference.toList = .ok parts.reference := by
      constructor
      · rintro ⟨parsed, h⟩
        obtain ⟨parts, wellformed, rfl⟩ := parse_eq_ok_iff.mp h
        exact ⟨parts, wellformed, h⟩
      · rintro ⟨parts, -, h⟩
        exact ⟨_, h⟩
    rw [resolveHost_eq_ok_iff, registryPart?_toList, parses]
    exact ⟨fun ⟨⟨text, names⟩, parts, url⟩ => ⟨parts, text, names, url⟩,
      fun ⟨parts, text, names, url⟩ => ⟨⟨text, names⟩, parts, url⟩⟩
  · obtain ⟨⟨ws, part⟩, ⟨parsed, parses⟩, -⟩ := resolveHost_eq_ok_iff.mp h
    have index : host.toList = publicIndex ↔ host = "index.docker.io" := String.toList_inj
    refine ⟨parsed, parses, ?_⟩
    rw [registry_of_parse parses, part]
    simp only [Option.map_some, Option.elim_some, reported, index]
  · have text : reference ≠ "" := by
      rintro rfl
      cases h
    rw [resolveHost_implicit_iff, and_iff_right text, registry_of_parse h]
    exact registryPart?_eq_none_iff

theorem resolveHost_iff_wellformed_localhost :
    (resolveHost "localhost/app" = .ok "localhost" ∧
      ∃ parsed, parse "localhost/app".toList = .ok parsed ∧ parsed.registry = "localhost".toList) ∧
    parse "app".toList = .ok ⟨publicRegistry, "library/app".toList, some "latest".toList, none⟩ ∧
      resolveHost "app" = .error (.implicitRegistry "app") := by
  have named : resolveHost "localhost/app" = .ok "localhost" := by decide +kernel
  have parsed : parse "app".toList =
      .ok ⟨publicRegistry, "library/app".toList, some "latest".toList, none⟩ := by decide +kernel
  refine ⟨⟨named, ?_⟩, parsed, ?_⟩
  · exact (resolveHost_iff_wellformed "localhost/app").2.1 "localhost" named
  · refine ((resolveHost_iff_wellformed "app").2.2 _ parsed).mpr ⟨rfl, ?_, ?_⟩
    · rintro ⟨ws, text⟩
      cases text
    · rintro ⟨ws, text⟩
      cases text

end RegistryLogin.Reference
