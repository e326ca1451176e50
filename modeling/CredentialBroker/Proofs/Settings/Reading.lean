import CredentialBroker.Proofs.Settings.Variable
import CredentialBroker.Settings.Basic
import Mathlib.Control.Monad.Basic

namespace CredentialBroker

/-!
# Settings are never guessed

The settings are what the nineteen variables say, the defaults standing only for those that say
nothing.  The first variable in the order of reading that does not fit is the one that is refused.

* `ListenSettings.Reflects`, …, `Settings.Reflects` — settings are what the variables say;
* `Settings.allVariables` — all variables in the order of reading, with what is accepted of each;
* `Settings.faithful_read` — reading is faithful to them;
* `Settings.read_reflects` — what settings can be, and when there are none.
-/

/-! ### What settings reflect -/

/-- Where requests are listened for is what the variables say. -/
structure ListenSettings.Reflects (env : Environment) (s : ListenSettings) : Prop where
  /-- The host. -/
  host : env.Gives "API_HOST" IsText "0.0.0.0" s.host
  /-- The port. -/
  port : env.Gives "API_PORT" (IsNumber 0 65535) 8080 s.port

/-- How the cluster is reached is what the variables say. -/
structure ClusterSettings.Reflects (env : Environment) (s : ClusterSettings) : Prop where
  /-- The seconds to wait, from 1 to 9. -/
  timeout : env.Gives "CLUSTER_API_TIMEOUT_SECS" (IsNumber 1 9) 5 s.timeout
  /-- The base URL. -/
  apiUrl : env.Gives "CLUSTER_API_URL" IsText "https://kubernetes.default.svc" s.apiUrl
  /-- The file with the token. -/
  tokenFile : env.Gives "CLUSTER_TOKEN_FILE" IsText
    "/var/run/secrets/kubernetes.io/serviceaccount/token" s.tokenFile
  /-- The file with the certificates. -/
  caFile : env.Gives "CLUSTER_CA_FILE" IsGiven none s.caFile
  /-- The API group of sessions. -/
  group : env.Gives "SESSION_RESOURCE_GROUP" IsText "vteam.ambient-code" s.resource.group
  /-- Its version. -/
  version : env.Gives "SESSION_RESOURCE_VERSION" IsText "v1alpha1" s.resource.version
  /-- The plural name of sessions. -/
  plural : env.Gives "SESSION_RESOURCE_PLURAL" IsText "agenticsessions" s.resource.plural

/-- What this program is known as at a provider: both parts as the variables have them, or none. -/
def ClientCredentials.Reflect (env : Environment) (idKey secretKey : String)
    (credentials : Option ClientCredentials) : Prop :=
  ∀ c, credentials = some c ↔
    env.said idKey = .text c.clientId ∧ env.said secretKey = .text c.clientSecret

/-- What authorization flows are set up with is what the variables say. -/
structure OAuthSettings.Reflects (env : Environment) (s : OAuthSettings) : Prop where
  /-- The seconds to wait: the number that is given, but 10 at least and 30 at most. -/
  exchangeTimeout : env.Gives "OAUTH_EXCHANGE_TIMEOUT_SECS"
    (fun text n => ∃ given, IsNumber 0 Settings.maxNumber text given ∧ n = min (max given 10) 30) 15
    s.exchangeTimeout
  /-- The key of state tokens. -/
  stateSecret : env.Gives "OAUTH_STATE_SECRET" IsGiven none s.stateSecret
  /-- The URL of this program, without slashes at its end. -/
  backendUrl : env.Gives "BACKEND_URL" (fun text a => a = Text.trimEndOf '/' text)
    "http://localhost:8080" s.backendUrl
  /-- What this program is known as at Google. -/
  google : ClientCredentials.Reflect env "GOOGLE_OAUTH_CLIENT_ID" "GOOGLE_OAUTH_CLIENT_SECRET"
    s.google
  /-- What this program is known as at GitHub. -/
  github : ClientCredentials.Reflect env "GITHUB_CLIENT_ID" "GITHUB_CLIENT_SECRET" s.github

/-- How the use of access keys is noted is what the variables say. -/
structure UsageSettings.Reflects (env : Environment) (s : UsageSettings) : Prop where
  /-- Whether it is. -/
  enabled : env.Gives "ACCESS_KEY_STAMP_ENABLED" IsFlag true s.enabled
  /-- The seconds it may take. -/
  timeout : env.Gives "ACCESS_KEY_STAMP_TIMEOUT_SECS" (IsNumber 0 Settings.maxNumber) 3 s.timeout

namespace Settings

/-- The settings are what the variables say. -/
structure Reflects (env : Environment) (s : Settings) : Prop where
  /-- Where requests are listened for. -/
  listen : s.listen.Reflects env
  /-- How the cluster is reached. -/
  cluster : s.cluster.Reflects env
  /-- The seconds for which tokens are valid, 600 at least. -/
  tokenLifetime : env.Gives "RUNNER_TOKEN_TTL_SECS" (IsNumber 600 maxNumber) 3600 s.tokenLifetime
  /-- What authorization flows are set up with. -/
  oauth : s.oauth.Reflects env
  /-- How the use of access keys is noted. -/
  usage : s.usage.Reflects env

/-! ### Sections -/

/-- The variables of where requests are listened for. -/
def listenVariables : List Variable := [{ key := "API_HOST" }, .number "API_PORT" 0 65535]

/-- The variables of how the cluster is reached. -/
def clusterVariables : List Variable :=
  [.number "CLUSTER_API_TIMEOUT_SECS" 1 9, { key := "CLUSTER_API_URL" },
   { key := "CLUSTER_TOKEN_FILE" }, { key := "CLUSTER_CA_FILE" },
   { key := "SESSION_RESOURCE_GROUP" }, { key := "SESSION_RESOURCE_VERSION" },
   { key := "SESSION_RESOURCE_PLURAL" }]

/-- The variables of what this program is known as at a provider: no identifier without a secret. -/
def credentialVariables (idKey secretKey : String) : List Variable :=
  [{ key := idKey }, { key := secretKey, partner := some idKey }]

/-- The variables of what authorization flows are set up with. -/
def oauthVariables : List Variable :=
  [.number "OAUTH_EXCHANGE_TIMEOUT_SECS" 0 maxNumber, { key := "OAUTH_STATE_SECRET" },
   { key := "BACKEND_URL" }] ++
  credentialVariables "GOOGLE_OAUTH_CLIENT_ID" "GOOGLE_OAUTH_CLIENT_SECRET" ++
  credentialVariables "GITHUB_CLIENT_ID" "GITHUB_CLIENT_SECRET"

/-- The variables of how the use of access keys is noted. -/
def usageVariables : List Variable :=
  [.flag "ACCESS_KEY_STAMP_ENABLED", .number "ACCESS_KEY_STAMP_TIMEOUT_SECS" 0 maxNumber]

/-- All variables in the order in which they are read. -/
def allVariables : List Variable :=
  listenVariables ++ clusterVariables ++ [.number "RUNNER_TOKEN_TTL_SECS" 600 maxNumber] ++
    oauthVariables ++ usageVariables

theorem map_key_allVariables : allVariables.map Variable.key = variableNames := rfl

theorem faithful_readListen :
    Faithful listenVariables readListen fun env s => s.Reflects env :=
  (faithful_text "API_HOST" "0.0.0.0").bind fun _ =>
  (faithful_number "API_PORT" 65535 8080).bind fun _ =>
  .pure fun _ hport hhost => ⟨hhost, hport⟩

theorem faithful_readCluster :
    Faithful clusterVariables readCluster fun env s => s.Reflects env :=
  have hrange : ∀ n ≤ maxNumber, ¬ (n = 0 ∨ 9 < n) ↔ 1 ≤ n ∧ n ≤ 9 := fun n _ => by omega
  Faithful.range (by decide) hrange (by decide) fun _ =>
  (faithful_text "CLUSTER_API_URL" _).bind fun _ =>
  (faithful_text "CLUSTER_TOKEN_FILE" _).bind fun _ =>
  (faithful_text? "CLUSTER_CA_FILE").bind fun _ =>
  (faithful_text "SESSION_RESOURCE_GROUP" _).bind fun _ =>
  (faithful_text "SESSION_RESOURCE_VERSION" _).bind fun _ =>
  (faithful_text "SESSION_RESOURCE_PLURAL" _).bind fun _ =>
  .pure fun _ hplural hversion hgroup hca htoken hurl htimeout =>
    ⟨htimeout, hurl, htoken, hca, hgroup, hversion, hplural⟩

theorem faithful_readTokenLifetime :
    Faithful [.number "RUNNER_TOKEN_TTL_SECS" 600 maxNumber] readTokenLifetime
      fun env n => env.Gives "RUNNER_TOKEN_TTL_SECS" (IsNumber 600 maxNumber) 3600 n :=
  have hrange : ∀ n ≤ maxNumber, ¬ n < 600 ↔ 600 ≤ n ∧ n ≤ maxNumber := fun n _ => by omega
  Faithful.range (Nat.le_refl _) hrange (by decide) fun _ => .pure fun _ h => h

/-- Both parts are read before they are compared, so that what is no text is refused first. -/
theorem faithful_readCredentials (idKey secretKey : String) :
    Faithful (credentialVariables idKey secretKey) (fun env => readCredentials env idKey secretKey)
      fun env c => ClientCredentials.Reflect env idKey secretKey c where
  accounts env := by
    unfold readCredentials
    rw [Environment.text?_eq, Environment.text?_eq]
    cases hid : env.said idKey with
    | garbled =>
      refine ⟨[], _, _, rfl, nofun, ?_, rfl⟩
      simp [Variable.Fits, hid]
    | nothing =>
      -- No identifier, no credentials, whatever the secret.
      have hnone : ClientCredentials.Reflect env idKey secretKey none := fun c => by simp [hid]
      cases hsecret : env.said secretKey with
      | garbled =>
        refine ⟨[_], _, [], rfl, ?_, ?_, rfl⟩ <;> simp [Variable.Fits, hid, hsecret]
      | nothing | text =>
        refine ⟨?_, hnone⟩
        simp [credentialVariables, Variable.Fits, hid, hsecret]
    | text id =>
      cases hsecret : env.said secretKey with
      | garbled | nothing =>
        refine ⟨[_], _, [], rfl, ?_, ?_, rfl⟩ <;> simp [Variable.Fits, hid, hsecret]
      | text secret =>
        refine ⟨?_, fun c => ?_⟩
        · simp [credentialVariables, Variable.Fits, hid, hsecret]
        · rw [hid, hsecret, Option.some.injEq, Said.text.injEq, Said.text.injEq]
          constructor
          · rintro rfl
            exact ⟨rfl, rfl⟩
          · rintro ⟨rfl, rfl⟩
            rfl
  alike env env' h := by
    have hid : env'.text? idKey = env.text? idKey :=
      Environment.text?_congr (h { key := idKey } (by simp [credentialVariables]))
    have hsecret : env'.text? secretKey = env.text? secretKey :=
      Environment.text?_congr (h { key := secretKey, partner := some idKey }
        (by simp [credentialVariables]))
    unfold readCredentials
    rw [hid, hsecret]

theorem faithful_readOAuth : Faithful oauthVariables readOAuth fun env s => s.Reflects env :=
  have hdefault : Text.trimEndOf '/' "http://localhost:8080" = "http://localhost:8080" := by
    decide +kernel
  (faithful_number "OAUTH_EXCHANGE_TIMEOUT_SECS" maxNumber 15).bind fun _ =>
  (faithful_text? "OAUTH_STATE_SECRET").bind fun _ =>
  (faithful_text "BACKEND_URL" "http://localhost:8080").bind fun _ =>
  (faithful_readCredentials "GOOGLE_OAUTH_CLIENT_ID" "GOOGLE_OAUTH_CLIENT_SECRET").bind fun _ =>
  (faithful_readCredentials "GITHUB_CLIENT_ID" "GITHUB_CLIENT_SECRET").bind fun _ =>
  .pure fun _ hgithub hgoogle hurl hsecret htimeout =>
    ⟨htimeout.map (f := fun n => min (max n 10) 30) rfl fun _ n hn => ⟨n, hn, rfl⟩, hsecret,
      hurl.map hdefault fun _ _ hu => congrArg (Text.trimEndOf '/') hu, hgoogle, hgithub⟩

theorem faithful_readUsage : Faithful usageVariables readUsage fun env s => s.Reflects env :=
  (faithful_flag "ACCESS_KEY_STAMP_ENABLED" true).bind fun _ =>
  (faithful_number "ACCESS_KEY_STAMP_TIMEOUT_SECS" maxNumber 3).bind fun _ =>
  .pure fun _ htimeout henabled => ⟨henabled, htimeout⟩

/-! ### All settings -/

/-- **Reading.**  Section after section, the settings are read faithfully. -/
theorem faithful_read : Faithful allVariables read fun env s => s.Reflects env :=
  faithful_readListen.bind fun _ =>
  faithful_readCluster.bind fun _ =>
  faithful_readTokenLifetime.bind fun _ =>
  faithful_readOAuth.bind fun _ =>
  faithful_readUsage.bind fun _ =>
  .pure fun _ husage hoauth hlifetime hcluster hlisten =>
    ⟨hlisten, hcluster, hlifetime, hoauth, husage⟩

/-- **Settings are never guessed.**  Whatever the environment has, only what the nineteen variables
say decides.  Settings are read exactly when every variable fits, and they are what the variables
say: a number that is given counts as it is or within its limits, and a provider is set up when both
of its parts are given.  Otherwise the first variable in the order of reading that does not fit is
named. -/
theorem read_reflects (env : Environment) :
    (∀ env' : Environment, (∀ key ∈ variableNames, env'.said key = env.said key) →
      read env' = read env) ∧
    ((∃ s, read env = .ok s) ↔ ∀ v ∈ allVariables, v.Fits env) ∧
    (∀ e, read env = .error e → ∃ before v after, allVariables = before ++ v :: after ∧
      (∀ w ∈ before, w.Fits env) ∧ ¬ v.Fits env ∧ e.key = v.key) ∧
    ∀ s, read env = .ok s → s.Reflects env ∧ (1 ≤ s.cluster.timeout ∧ s.cluster.timeout ≤ 9) ∧
      600 ≤ s.tokenLifetime ∧ (10 ≤ s.oauth.exchangeTimeout ∧ s.oauth.exchangeTimeout ≤ 30) := by
  have haccounts := faithful_read.accounts env
  refine ⟨fun env' hsaid => ?_, ⟨?_, fun hfits => ?_⟩, fun e he => ?_, fun s hs => ?_⟩
  · refine faithful_read.alike env env' fun v hv => hsaid v.key ?_
    rw [← map_key_allVariables]
    exact List.mem_map_of_mem hv
  · rintro ⟨s, hs⟩
    rw [hs] at haccounts
    exact haccounts.1
  · cases hread : read env with
    | ok s => exact ⟨s, rfl⟩
    | error e =>
      rw [hread] at haccounts
      obtain ⟨_, v, _, hvs, _, hmisfit, _⟩ := haccounts
      exact absurd (hfits v (by rw [hvs]; simp)) hmisfit
  · rw [he] at haccounts
    exact haccounts
  · rw [hs] at haccounts
    have hreflects : s.Reflects env := haccounts.2
    refine ⟨hreflects, ?_, ?_, ?_⟩
    · exact hreflects.cluster.timeout.of_forall (P := fun n => 1 ≤ n ∧ n ≤ 9) (by decide)
        fun _ _ hn => hn.2
    · exact hreflects.tokenLifetime.of_forall (P := (600 ≤ ·)) (by decide) fun _ _ hn => hn.2.1
    · refine hreflects.oauth.exchangeTimeout.of_forall (P := fun n => 10 ≤ n ∧ n ≤ 30)
        (by decide) ?_
      rintro _ _ ⟨n, _, rfl⟩
      omega

/-- Blanks around a port and a file name of nothing but blanks do not count, and the longest time to
wait for tokens is cut down to 30 seconds.  Of a timeout out of range and an identifier without a
secret, the timeout is named, since it is read first. -/
theorem read_reflects_padded :
    let padded : Environment := fun key =>
      if key = "API_PORT" then some (Text.utf8 "\t+80 ")
      else if key = "CLUSTER_CA_FILE" then some (Text.utf8 "  ")
      else if key = "OAUTH_EXCHANGE_TIMEOUT_SECS" then some (Text.utf8 "18446744073709551615")
      else none
    let plain : Environment := fun key =>
      if key = "API_PORT" then some (Text.utf8 "+80")
      else if key = "OAUTH_EXCHANGE_TIMEOUT_SECS" then some (Text.utf8 "18446744073709551615")
      else none
    let misfit : Environment := fun key =>
      if key = "CLUSTER_API_TIMEOUT_SECS" then some (Text.utf8 "10")
      else if key = "GITHUB_CLIENT_ID" then some (Text.utf8 "id")
      else none
    (∀ key ∈ variableNames, plain.said key = padded.said key) ∧
      read plain = read padded ∧
      (∃ s, read padded = .ok s ∧ s.Reflects padded ∧ s.listen.port = 80 ∧
        s.oauth.exchangeTimeout = 30) ∧
      ∃ e, read misfit = .error e ∧ e.key = "CLUSTER_API_TIMEOUT_SECS" ∧
        ∃ before v after, allVariables = before ++ v :: after ∧ (∀ w ∈ before, w.Fits misfit) ∧
          ¬ v.Fits misfit ∧ e.key = v.key := by
  intro padded plain misfit
  have hsaid : ∀ key ∈ variableNames, plain.said key = padded.said key := by decide +kernel
  have hpadded : read padded = .ok
      ⟨⟨"0.0.0.0", 80⟩, {}, 3600, ⟨none, "http://localhost:8080", none, none, 30⟩, ⟨true, 3⟩⟩ := by
    decide +kernel
  have hmisfit : read misfit = .error (.invalid "CLUSTER_API_TIMEOUT_SECS"
      "must be between 1 and 9 seconds, got 10") := by decide +kernel
  obtain ⟨halike, _, _, hreflects⟩ := read_reflects padded
  exact ⟨hsaid, halike plain hsaid, ⟨_, hpadded, (hreflects _ hpadded).1, rfl, rfl⟩,
    _, hmisfit, rfl, (read_reflects misfit).2.2.1 _ hmisfit⟩

end Settings

end CredentialBroker
