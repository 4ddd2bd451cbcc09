import RegistryLogin.Provider.Production
import RegistryLogin.Proofs.Text.Encoding
import Mathlib.Tactic.SplitIfs

/-! The gates of a configuration. -/

namespace RegistryLogin

open Text

namespace Settings

variable {value : Json.Value} {env : Environment} {read : String → String} {config : Config}
variable {client : String} {outcome : Except SettingsError Settings}

inductive Chooses (config : Config) (read : String → String) : String → Prop
  | declared {id : String} (h : config.clientId = some id) (filled : id ≠ "") : Chooses config read id
  | fallback (h : config.clientId = none ∨ config.clientId = some "") :
    Chooses config read (read "AZURE_CLIENT_ID")

structure Admits (value : Json.Value) (read : String → String) (client : String) : Prop where
  choice : ∃ config, Config.ofValue value = .ok config ∧ config.name = "azureWorkloadIdentity" ∧
    Chooses config read client
  tenant : read "AZURE_TENANT_ID" ≠ ""
  client : client ≠ ""

/-- The outcome at the first gate that is not passed, or behind all of them. -/
inductive Gate (value : Json.Value) (read : String → String) : Except SettingsError Settings → Prop
  | malformed {defect : Config.Defect} (decoded : Config.ofValue value = .error defect) :
    Gate value read (.error (.malformed defect))
  | unsupported {config : Config} (decoded : Config.ofValue value = .ok config)
    (named : config.name ≠ "azureWorkloadIdentity") : Gate value read (.error (.unsupported config.name))
  | tenantEmpty {config : Config} (decoded : Config.ofValue value = .ok config)
    (named : config.name = "azureWorkloadIdentity") (tenant : read "AZURE_TENANT_ID" = "") :
    Gate value read (.error (.denied .tenantEmpty))
  | clientEmpty {config : Config} (decoded : Config.ofValue value = .ok config)
    (named : config.name = "azureWorkloadIdentity") (tenant : read "AZURE_TENANT_ID" ≠ "")
    (chosen : Chooses config read "") : Gate value read (.error (.denied .clientEmpty))
  | variablesEmpty {client : String} (admits : Admits value read client)
    (missing : read "AZURE_FEDERATED_TOKEN_FILE" = "" ∨ read "AZURE_AUTHORITY_HOST" = "") :
    Gate value read (.error (.denied (.variablesEmpty
      (["AZURE_FEDERATED_TOKEN_FILE", "AZURE_AUTHORITY_HOST"].filter (read · = "")))))
  | invalidAuthority {client : String} {error : Url.Error} (admits : Admits value read client)
    (file : read "AZURE_FEDERATED_TOKEN_FILE" ≠ "") (authority : read "AZURE_AUTHORITY_HOST" ≠ "")
    (parsed : Url.parse (read "AZURE_AUTHORITY_HOST") = .error error) :
    Gate value read (.error (.invalidAuthority (read "AZURE_AUTHORITY_HOST") error))
  | passed {client : String} {url : Url} (admits : Admits value read client)
    (file : read "AZURE_FEDERATED_TOKEN_FILE" ≠ "") (authority : read "AZURE_AUTHORITY_HOST" ≠ "")
    (parsed : Url.parse (read "AZURE_AUTHORITY_HOST") = .ok url) :
    Gate value read
      (.ok ⟨read "AZURE_TENANT_ID", client, read "AZURE_FEDERATED_TOKEN_FILE", url⟩)

lemma chooses_iff : Chooses config env.valueOrEmpty client ↔ chosenClient config env = client := by
  unfold chosenClient
  constructor
  · rintro (⟨h, filled⟩ | h | h)
    · simp [h, filled]
    · simp [h, clientVariable]
    · simp [h, clientVariable]
  · rintro rfl
    cases h : config.clientId with
    | none => exact .fallback (.inl h)
    | some id =>
      by_cases filled : id = ""
      · subst filled
        exact .fallback (.inr h)
      · simpa [filled] using Chooses.declared h filled

lemma missing_eq (env : Environment) : missing env =
    ["AZURE_FEDERATED_TOKEN_FILE", "AZURE_AUTHORITY_HOST"].filter (env.valueOrEmpty · = "") := by
  refine List.filter_congr fun name _ => ?_
  rw [Bool.eq_iff_iff, String.isEmpty_iff, decide_eq_true_iff]

lemma missing_ne_nil : missing env ≠ [] ↔ env.valueOrEmpty "AZURE_FEDERATED_TOKEN_FILE" = "" ∨
    env.valueOrEmpty "AZURE_AUTHORITY_HOST" = "" := by
  rw [missing_eq]
  by_cases file : env.valueOrEmpty "AZURE_FEDERATED_TOKEN_FILE" = ""
  · simp [file]
  · by_cases authority : env.valueOrEmpty "AZURE_AUTHORITY_HOST" = ""
    · simp [authority]
    · simp [file, authority]

def located (env : Environment) (client : String) : Except SettingsError Settings :=
  if missing env ≠ [] then .error (.denied (.variablesEmpty (missing env)))
  else match Url.parse (env.valueOrEmpty "AZURE_AUTHORITY_HOST") with
    | .error error => .error (.invalidAuthority (env.valueOrEmpty "AZURE_AUTHORITY_HOST") error)
    | .ok url => .ok ⟨env.valueOrEmpty "AZURE_TENANT_ID", client,
        env.valueOrEmpty "AZURE_FEDERATED_TOKEN_FILE", url⟩

lemma ofConfig_decoded (decoded : Config.ofValue value = .ok config)
    (named : config.name = "azureWorkloadIdentity") : ofConfig value env =
      if env.valueOrEmpty "AZURE_TENANT_ID" = "" then .error (.denied .tenantEmpty)
      else if chosenClient config env = "" then .error (.denied .clientEmpty)
      else located env (chosenClient config env) := by
  have supported : ensureSupported config = .ok () := by
    simp [ensureSupported, Config.isSupported, Config.providerName, named]
  simp only [ofConfig, decoded, resolve, supported, String.isEmpty_iff]
  rfl

lemma ofConfig_unsupported (decoded : Config.ofValue value = .ok config)
    (named : config.name ≠ "azureWorkloadIdentity") :
    ofConfig value env = .error (.unsupported config.name) := by
  have unsupported : ensureSupported config = .error (.unsupported config.name) := by
    simp [ensureSupported, Config.isSupported, Config.providerName, named]
  simp only [ofConfig, decoded, resolve, unsupported]
  rfl

theorem gate_ofConfig (value : Json.Value) (env : Environment) :
    Gate value env.valueOrEmpty (ofConfig value env) := by
  cases decoded : Config.ofValue value with
  | error defect =>
    rw [ofConfig, decoded]
    exact .malformed decoded
  | ok config =>
    by_cases named : config.name = "azureWorkloadIdentity"
    · rw [ofConfig_decoded decoded named, located]
      have chosen : Chooses config env.valueOrEmpty (chosenClient config env) := chooses_iff.mpr rfl
      split_ifs with tenant client missing
      · exact .tenantEmpty decoded named tenant
      · exact .clientEmpty decoded named tenant (client ▸ chosen)
      · rw [missing_eq]
        exact .variablesEmpty ⟨⟨config, decoded, named, chosen⟩, tenant, client⟩
          (missing_ne_nil.mp missing)
      · obtain ⟨file, authority⟩ := not_or.mp (mt missing_ne_nil.mpr missing)
        have admits : Admits value env.valueOrEmpty (chosenClient config env) :=
          ⟨⟨config, decoded, named, chosen⟩, tenant, client⟩
        split
        · rename_i parsed
          exact .invalidAuthority admits file authority parsed
        · rename_i parsed
          exact .passed admits file authority parsed
    · rw [ofConfig_unsupported decoded named]
      exact .unsupported decoded named

lemma Admits.ofConfig_eq (h : Admits value env.valueOrEmpty client) :
    ofConfig value env = located env client := by
  obtain ⟨⟨config, decoded, named, chosen⟩, tenant, filled⟩ := h
  obtain rfl := chooses_iff.mp chosen
  rw [ofConfig_decoded decoded named, if_neg tenant, if_neg filled]

theorem ofConfig_of_gate (h : Gate value env.valueOrEmpty outcome) : ofConfig value env = outcome := by
  have complete {file authority : String} (hf : file ≠ "") (ha : authority ≠ "")
      (h : missing env ≠ [] ↔ file = "" ∨ authority = "") : ¬ missing env ≠ [] :=
    mt h.mp (not_or.mpr ⟨hf, ha⟩)
  cases h with
  | malformed decoded => rw [ofConfig, decoded]
  | unsupported decoded named => exact ofConfig_unsupported decoded named
  | tenantEmpty decoded named tenant => rw [ofConfig_decoded decoded named, if_pos tenant]
  | clientEmpty decoded named tenant chosen =>
    rw [ofConfig_decoded decoded named, if_neg tenant, if_pos (chooses_iff.mp chosen)]
  | variablesEmpty admits gap =>
    rw [admits.ofConfig_eq, located, if_pos (missing_ne_nil.mpr gap), missing_eq]
  | invalidAuthority admits file authority parsed =>
    rw [admits.ofConfig_eq, located, if_neg (complete file authority missing_ne_nil), parsed]
  | passed admits file authority parsed =>
    rw [admits.ofConfig_eq, located, if_neg (complete file authority missing_ne_nil), parsed]

end Settings

namespace Environment

variable {env env' : Environment} {names : List String}

def Agree (names : List String) (env env' : Environment) : Prop :=
  ∀ name ∈ names, env.valueOrEmpty name = env'.valueOrEmpty name

def Blank : Option Bytes → Prop
  | none => True
  | some bytes => bytes = [] ∨ ∀ text, bytes ≠ Utf8.ofString text

lemma blank_iff {found : Option Bytes} :
    Blank found ↔ ((found.bind Utf8.decode?).map String.ofList).getD "" = "" := by
  cases found with
  | none => simp [Blank]
  | some bytes =>
    cases decoded : Utf8.decode? bytes with
    | none =>
      have textless : ∀ text, bytes ≠ Utf8.ofString text := by
        rintro text rfl
        cases decoded.symm.trans (Utf8.decode?_eq_some_iff.mpr rfl)
      simp [Blank, textless, decoded]
    | some cs =>
      have text : ((some bytes).bind Utf8.decode?).map String.ofList = some (String.ofList cs) := by
        rw [Option.bind_some, decoded, Option.map_some]
      have nothing : Utf8.decode? [] = some [] := Utf8.decode?_eq_some_iff.mpr rfl
      rw [text, Option.getD_some]
      constructor
      · rintro (rfl | textless)
        · obtain rfl := Option.some.inj (decoded.symm.trans nothing)
          rfl
        · refine absurd ?_ (textless (String.ofList cs))
          rw [Utf8.ofString, String.toList_ofList, Utf8.decode?_eq_some_iff.mp decoded]
      · intro empty
        have none : cs = [] := String.ofList_eq_empty_iff.mp empty
        exact .inl (by rw [Utf8.decode?_eq_some_iff.mp decoded, none]; rfl)

lemma valueOrEmpty_ofBytes {entries entries' : List (String × Bytes)} {name : String}
    (h : find? entries.reverse name = find? entries'.reverse name ∨
      Blank (find? entries.reverse name) ∧ Blank (find? entries'.reverse name)) :
    (ofBytes entries).valueOrEmpty name = (ofBytes entries').valueOrEmpty name := by
  simp only [valueOrEmpty, ofBytes]
  rcases h with same | ⟨blank, blank'⟩
  · rw [same]
  · rw [blank_iff.mp blank, blank_iff.mp blank']

end Environment

namespace Settings

variable {value : Json.Value} {env env' : Environment} {config : Config}

lemma ofConfig_congr
    (same : env.Agree ["AZURE_TENANT_ID", "AZURE_FEDERATED_TOKEN_FILE", "AZURE_AUTHORITY_HOST"] env')
    (client : ∀ config, Config.ofValue value = .ok config →
      chosenClient config env = chosenClient config env') : ofConfig value env = ofConfig value env' := by
  simp only [Environment.Agree, List.forall_mem_cons] at same
  obtain ⟨tenant, file, authority, -⟩ := same
  have gaps : missing env = missing env' := by
    simp only [missing_eq, List.filter_cons, file, authority, List.filter_nil]
  cases decoded : Config.ofValue value with
  | error defect => rw [ofConfig, ofConfig, decoded]
  | ok config =>
    by_cases named : config.name = "azureWorkloadIdentity"
    · rw [ofConfig_decoded decoded named, ofConfig_decoded decoded named, located, located, tenant, file,
        authority, gaps, client config decoded]
    · rw [ofConfig_unsupported decoded named, ofConfig_unsupported decoded named]

lemma chosenClient_congr (h : env.valueOrEmpty "AZURE_CLIENT_ID" = env'.valueOrEmpty "AZURE_CLIENT_ID")
    (config : Config) : chosenClient config env = chosenClient config env' := by
  have same : env.valueOrEmpty clientVariable = env'.valueOrEmpty clientVariable := h
  simp only [chosenClient, same]

lemma chosenClient_declared {id : String} (h : config.clientId = some id) (filled : id ≠ "")
    (env : Environment) : chosenClient config env = id :=
  chooses_iff.mp (.declared h filled)

def consulted : List String :=
  ["AZURE_TENANT_ID", "AZURE_CLIENT_ID", "AZURE_FEDERATED_TOKEN_FILE", "AZURE_AUTHORITY_HOST"]

lemma ofConfig_agree (same : env.Agree consulted env') : ofConfig value env = ofConfig value env' := by
  simp only [consulted, Environment.Agree, List.forall_mem_cons] at same
  obtain ⟨tenant, client, file, authority, -⟩ := same
  refine ofConfig_congr ?_ fun config _ => chosenClient_congr client config
  simp only [Environment.Agree, List.forall_mem_cons]
  exact ⟨tenant, file, authority, by simp⟩

lemma ofConfig_filled {settings : Settings} (h : ofConfig value env = .ok settings) :
    settings.tenantId ≠ "" ∧ settings.clientId ≠ "" := by
  have gate := gate_ofConfig value env
  rw [h] at gate
  cases gate with
  | passed admits => exact ⟨admits.tenant, admits.client⟩

/-- The first gate that is not passed decides, with the detail that callers match. Only the four variables
matter, that of the client only if none is declared, and a variable that is unset, empty or no text counts
as empty. So no provider has an empty tenant or client. -/
theorem gates_in_order (value : Json.Value) (env : Environment) :
    (∀ outcome, ofConfig value env = outcome ↔ Gate value env.valueOrEmpty outcome) ∧
    [Denial.tenantEmpty, .clientEmpty, .variablesEmpty ["AZURE_FEDERATED_TOKEN_FILE"],
      .variablesEmpty ["AZURE_AUTHORITY_HOST"],
      .variablesEmpty ["AZURE_FEDERATED_TOKEN_FILE", "AZURE_AUTHORITY_HOST"]].map Denial.detail =
        ["azure tenant id environment variable is empty",
          "no client ID provided and AZURE_CLIENT_ID environment variable is empty",
          "required environment variables not set, AZURE_FEDERATED_TOKEN_FILE: ",
          "required environment variables not set, AZURE_AUTHORITY_HOST: ",
          "required environment variables not set, AZURE_FEDERATED_TOKEN_FILE: , AZURE_AUTHORITY_HOST: "] ∧
    (∀ env', env.Agree consulted env' → ofConfig value env = ofConfig value env') ∧
    (∀ env' config id, Config.ofValue value = .ok config → config.clientId = some id → id ≠ "" →
      env.Agree (consulted.erase "AZURE_CLIENT_ID") env' → ofConfig value env = ofConfig value env') ∧
    (∀ entries entries' : List (String × Bytes), (∀ name ∈ consulted,
        Environment.find? entries.reverse name = Environment.find? entries'.reverse name ∨
          Environment.Blank (Environment.find? entries.reverse name) ∧
            Environment.Blank (Environment.find? entries'.reverse name)) →
      ofConfig value (.ofBytes entries) = ofConfig value (.ofBytes entries')) ∧
    (∀ provider, Provider.ofConfig value env = .ok provider →
      provider.tenantId ≠ "" ∧ provider.clientId ≠ "") := by
  refine ⟨fun outcome => ⟨?_, ofConfig_of_gate⟩, by decide, fun env' => ofConfig_agree, ?_, ?_, ?_⟩
  · rintro rfl
    exact gate_ofConfig value env
  · intro env' config id decoded declared filled same
    refine ofConfig_congr same fun config' decoded' => ?_
    obtain rfl := Except.ok.inj (decoded.symm.trans decoded')
    rw [chosenClient_declared declared filled, chosenClient_declared declared filled]
  · intro entries entries' same
    exact ofConfig_agree fun name hn => Environment.valueOrEmpty_ofBytes (same name hn)
  · intro provider built
    cases settled : ofConfig value env with
    | error error =>
      rw [Provider.ofConfig, settled] at built
      cases built
    | ok settings =>
      rw [Provider.ofConfig, settled] at built
      obtain rfl := Except.ok.inj built
      exact ofConfig_filled settled

theorem gates_in_order_unset :
    ofConfig (.object [("name", .string "azureWorkloadIdentity")])
        (.ofFirst [("AZURE_TENANT_ID", "tenant"), ("AZURE_CLIENT_ID", "client")]) =
      .error (.denied (.variablesEmpty ["AZURE_FEDERATED_TOKEN_FILE", "AZURE_AUTHORITY_HOST"])) := by
  refine ((gates_in_order _ _).1 _).mpr ?_
  have admits : Admits (.object [("name", .string "azureWorkloadIdentity")])
      (Environment.ofFirst [("AZURE_TENANT_ID", "tenant"), ("AZURE_CLIENT_ID", "client")]).valueOrEmpty
      "client" :=
    ⟨⟨⟨"azureWorkloadIdentity", none⟩, rfl, rfl, .fallback (.inl rfl)⟩, by decide, by decide⟩
  exact .variablesEmpty admits (.inl rfl)

end Settings

end RegistryLogin
