import ClusterBackup.Proofs.Environment.Location
import ClusterBackup.Proofs.Text.Dictionary

/-! Which entries of a secret have a say in what is set up.

A secret may hold the credentials of several providers. What is set up for one of them is the same
whatever the entries for the others are, down to the files that are written and to the failures. -/

set_option autoImplicit false

namespace ClusterBackup.Environment

open Program Cluster

/-- The entries of a secret that a provider asks for. -/
def ownKeys (provider : Provider) : List String :=
  match provider with
  | .gcs _ => accountFileKey :: keysOf provider
  | .rest _ => [usernameKey, serverPasswordKey]
  | _ => keysOf provider

def readKeys (provider : Provider) : List String := passwordKey :: authoritiesKey :: ownKeys provider

def boundNames (provider : Provider) : List String :=
  [passwordKey, temporaryKey, repositoryKey] ++ keysOf provider ++
    match provider with
    | .gcs _ => [credentialsKey]
    | _ => []

/-- The secrets answer alike for some keys, be it with bytes or with text. -/
def AgreeOn (keys : List String) (first second : Secret) : Prop :=
  ∀ key ∈ keys, first.bytes? key = second.bytes? key

section

variable {keys : List String} {key : String} {first second secret : Secret} {provider : Provider}
  {scratch path : String}

theorem AgreeOn.text? (agree : AgreeOn keys first second) (listed : key ∈ keys) :
    first.text? key = second.text? key :=
  congrArg (Option.map Text.decodeBytes) (agree key listed)

theorem keysOf_subset_ownKeys (provider : Provider) : keysOf provider ⊆ ownKeys provider := by
  cases provider with
  | gcs b => exact List.subset_cons_self _ _
  | rest url => exact List.nil_subset _
  | _ => exact List.Subset.refl _

theorem copyKeys_congr (agree : AgreeOn keys first second) (bindings : Dictionary) :
    copyKeys first keys bindings = copyKeys second keys bindings := by
  refine List.foldl_ext _ _ bindings fun d key listed => ?_
  rw [agree.text? listed]

theorem authorityFiles_congr (agree : AgreeOn [authoritiesKey] first second) (scratch : String) :
    authorityFiles first scratch = authorityFiles second scratch := by
  rw [authorityFiles, authorityFiles, agree _ List.mem_cons_self]

theorem providerFiles_congr (agree : AgreeOn (ownKeys provider) first second) :
    providerFiles provider first scratch path = providerFiles provider second scratch path := by
  cases provider with
  | gcs b =>
    have account : first.bytes? accountFileKey = second.bytes? accountFileKey :=
      agree _ List.mem_cons_self
    rw [providerFiles, providerFiles, account]
  | _ => rfl

theorem serverAddress_congr (agree : AgreeOn [usernameKey, serverPasswordKey] first second)
    (url : String) : serverAddress url first = serverAddress url second := by
  have username : first.text? usernameKey = second.text? usernameKey := agree.text? (by simp)
  have password : first.text? serverPasswordKey = second.text? serverPasswordKey :=
    agree.text? (by simp)
  rw [serverAddress, serverAddress, username, password]

/-- The address of a server is the only one that a secret is part of. -/
theorem addressOf_congr (agree : AgreeOn (ownKeys provider) first second) (path : String) :
    addressOf provider first path = addressOf provider second path := by
  cases provider with
  | rest url => exact serverAddress_congr agree url
  | _ => rfl

theorem plan_congr {backend : Backend} (provided : backend.provider = .ok provider)
    (agree : AgreeOn (readKeys provider) first second) :
    plan backend first scratch path = plan backend second scratch path := by
  have password : first.text? passwordKey = second.text? passwordKey :=
    agree.text? List.mem_cons_self
  have authorities : authorityFiles first scratch = authorityFiles second scratch :=
    authorityFiles_congr (fun key listed => agree key (by simp_all [readKeys])) scratch
  have own : AgreeOn (ownKeys provider) first second := fun key listed =>
    agree key (List.mem_cons_of_mem _ (List.mem_cons_of_mem _ listed))
  have copied (bindings : Dictionary) : copyKeys first (keysOf provider) bindings =
      copyKeys second (keysOf provider) bindings :=
    copyKeys_congr (fun key listed => own key (keysOf_subset_ownKeys provider listed)) bindings
  simp only [plan, provided, password, authorities, providerFiles_congr own, addressOf_congr own, copied]

/-! ### What becomes of the entries -/

theorem get?_copyKeys (secret : Secret) (keys : List String) (bindings : Dictionary) (key : String) :
    (copyKeys secret keys bindings).get? key =
      if key ∈ keys then secret.text? key <|> bindings.get? key else bindings.get? key := by
  induction keys generalizing bindings with
  | nil => simp [copyKeys]
  | cons first rest ih =>
    rw [copyKeys, List.foldl_cons, ← copyKeys, ih]
    by_cases here : first = key
    · subst here
      cases secret.text? first <;> simp
    · cases secret.text? first <;> simp [here, Ne.symm here]

theorem ne_of_mem_keysOf (own : key ∈ keysOf provider) : key ≠ passwordKey ∧ key ≠ temporaryKey ∧
    key ≠ repositoryKey ∧ key ≠ credentialsKey := by
  have apart : ∀ key ∈ keysOf provider, key ≠ passwordKey ∧ key ≠ temporaryKey ∧
      key ≠ repositoryKey ∧ key ≠ credentialsKey := by
    cases provider <;> simp only [keysOf] <;> decide
  exact apart key own

/-- The variables that do not depend on the provider. -/
def shared (scratch password : String) : Dictionary :=
  (Dictionary.empty.insert passwordKey password).insert temporaryKey (Path.join scratch "restic-tmp")

/-- All variables but the address. -/
def bound (provider : Provider) (secret : Secret) (scratch path password : String) : Dictionary :=
  let copied := copyKeys secret (keysOf provider) (shared scratch password)
  ((providerFiles provider secret scratch path).2.map fun (key, file) => copied.insert key file).getD
    copied

theorem bindings_of_outcome {backend : Backend} {e : Environment}
    (provided : backend.provider = .ok provider)
    (set : (plan backend secret scratch path).outcome = .ok e) :
    ∃ password address, secret.text? passwordKey = some password ∧
      e.bindings = (bound provider secret scratch path password).insert repositoryKey address := by
  unfold plan at set
  rw [provided] at set
  cases given : secret.text? passwordKey with
  | none =>
    rw [given] at set
    cases set
  | some password =>
    rw [given] at set
    dsimp only at set
    cases located : addressOf provider secret path with
    | error failure =>
      rw [located] at set
      cases set
    | ok address =>
      rw [located] at set
      cases set
      exact ⟨password, address, rfl, rfl⟩

theorem get?_copied (provider : Provider) (secret : Secret) (scratch password key : String) :
    (copyKeys secret (keysOf provider) (shared scratch password)).get? key =
      if key ∈ keysOf provider then secret.text? key else (shared scratch password).get? key := by
  rw [get?_copyKeys]
  by_cases own : key ∈ keysOf provider
  · obtain ⟨notPassword, notTemporary, _⟩ := ne_of_mem_keysOf own
    have unset : (shared scratch password).get? key = none := by
      simp [shared, notPassword.symm, notTemporary.symm]
    rw [if_pos own, if_pos own, unset]
    cases secret.text? key <;> rfl
  · rw [if_neg own, if_neg own]

/-- Only a file of credentials is pointed to by a variable. -/
theorem get?_bound {password : String} (other : key ≠ credentialsKey ∨ ∀ b, provider ≠ .gcs b) :
    (bound provider secret scratch path password).get? key =
      if key ∈ keysOf provider then secret.text? key else (shared scratch password).get? key := by
  rw [← get?_copied]
  cases provider with
  | gcs b =>
    have other : key ≠ credentialsKey := other.resolve_right fun none => none b rfl
    cases account : secret.bytes? accountFileKey with
    | none => simp only [bound, providerFiles, account, Option.map_none, Option.getD_none]
    | some content =>
      simp only [bound, providerFiles, account, Option.map_some, Option.getD_some,
        Dictionary.get?_insert, if_neg other.symm]
  | _ => rfl

variable {backend : Backend} {e : Environment}

theorem get?_own (provided : backend.provider = .ok provider)
    (set : (plan backend secret scratch path).outcome = .ok e)
    (own : key ∈ passwordKey :: keysOf provider) : e.bindings.get? key = secret.text? key := by
  obtain ⟨password, address, given, bindings⟩ := bindings_of_outcome provided set
  rw [bindings, Dictionary.get?_insert]
  rcases List.mem_cons.mp own with rfl | own
  · rw [if_neg (by decide), get?_bound (.inl (by decide)),
      if_neg fun own => (ne_of_mem_keysOf own).1 rfl, given]
    rfl
  · obtain ⟨_, _, notAddress, notPointer⟩ := ne_of_mem_keysOf own
    rw [if_neg notAddress.symm, get?_bound (.inl notPointer), if_pos own]

theorem mem_boundNames (provided : backend.provider = .ok provider)
    (set : (plan backend secret scratch path).outcome = .ok e) {value : String}
    (found : e.bindings.get? key = some value) : key ∈ boundNames provider := by
  obtain ⟨password, address, _, bindings⟩ := bindings_of_outcome provided set
  rw [bindings, Dictionary.get?_insert] at found
  by_cases address : repositoryKey = key
  · simp [boundNames, ← address]
  rw [if_neg address] at found
  by_cases pointer : key = credentialsKey ∧ ∃ b, provider = .gcs b
  · obtain ⟨rfl, b, rfl⟩ := pointer
    simp [boundNames]
  rw [get?_bound ((not_and_or.mp pointer).imp id not_exists.mp)] at found
  by_cases own : key ∈ keysOf provider
  · simp [boundNames, own]
  · rw [if_neg own, shared, Dictionary.get?_insert, Dictionary.get?_insert] at found
    by_cases temporary : temporaryKey = key
    · simp [boundNames, ← temporary]
    by_cases password : passwordKey = key
    · simp [boundNames, ← password]
    · simp [temporary, password] at found

end

/-- Two secrets that answer alike for the password, the certificates and the provider's own entries
have the same set up: the same steps on files with the same contents, and the same environment or
failure. The own entries are among the variables as the secret has them, and besides those there are
only variables that are set for every provider. -/
theorem setup_isolated {backend : Backend} {provider : Provider} {first second : Secret}
    (provided : backend.provider = .ok provider) (agree : AgreeOn (readKeys provider) first second)
    (scratch path : String) :
    plan backend first scratch path = plan backend second scratch path ∧
    (∀ trace result, Path (plan backend first scratch path).perform.run trace (.done result) ↔
      Path (plan backend second scratch path).perform.run trace (.done result)) ∧
    ∀ e, (plan backend first scratch path).outcome = .ok e →
      (∀ key ∈ passwordKey :: keysOf provider, e.bindings.get? key = first.text? key) ∧
      ∀ key value, e.bindings.get? key = some value → key ∈ boundNames provider := by
  have same : plan backend first scratch path = plan backend second scratch path :=
    plan_congr provided agree
  refine ⟨same, fun trace result => by rw [same], fun e set => ⟨fun key own => ?_, fun key value => ?_⟩⟩
  · exact get?_own provided set own
  · exact mem_boundNames provided set

section

/-- The password and an account, with the credentials of another provider beside them. -/
def mixed : Secret :=
  { metadata := Metadata.named "apps" "keys"
    bytes := some [("AWS_SECRET_ACCESS_KEY", [0x73, 0x33]), ("GOOGLE_PROJECT_ID", [0x70]),
      ("RESTIC_PASSWORD", [0x70, 0x77])]
    texts := some (.ofList [("GOOGLE_PROJECT_ID", "unused"), ("GOOGLE_SERVICE_ACCOUNT_JSON_KEY", "a")]) }

/-- The password and the same account, part of them as text, and nothing else. -/
def sparse : Secret :=
  { metadata := Metadata.named "apps" "other"
    bytes := some [("GOOGLE_SERVICE_ACCOUNT_JSON_KEY", [0x61])]
    texts := some (.ofList [("GOOGLE_PROJECT_ID", "p"), ("RESTIC_PASSWORD", "pw")]) }

def archive : Backend := { gcs := some ⟨"archive", ""⟩, secretName := "keys" }

/-- The credentials of the other provider go nowhere. -/
theorem setup_isolated_mixed :
    AgreeOn (readKeys (.gcs ⟨"archive", ""⟩)) mixed sparse ∧
    plan archive mixed "/tmp" "web" = plan archive sparse "/tmp" "web" ∧
    mixed.text? "AWS_SECRET_ACCESS_KEY" = some "s3" ∧
    ∃ e, (plan archive mixed "/tmp" "web").outcome = .ok e ∧
      e.bindings.get? "GOOGLE_PROJECT_ID" = some "p" ∧
      e.bindings.get? "AWS_SECRET_ACCESS_KEY" = none := by
  have agree : AgreeOn (readKeys (.gcs ⟨"archive", ""⟩)) mixed sparse := by
    unfold AgreeOn
    decide +kernel
  have provided : archive.provider = .ok (.gcs ⟨"archive", ""⟩) := rfl
  obtain ⟨same, _, settled⟩ := setup_isolated provided agree "/tmp" "web"
  refine ⟨agree, same, by decide +kernel, ?_⟩
  have ready : (plan archive mixed "/tmp" "web").outcome.toBool := by decide +kernel
  cases set : (plan archive mixed "/tmp" "web").outcome with
  | error failure =>
    rw [set] at ready
    cases ready
  | ok e =>
    obtain ⟨own, bound⟩ := settled e set
    refine ⟨e, rfl, ?_, ?_⟩
    · rw [own "GOOGLE_PROJECT_ID" (by decide)]
      decide +kernel
    · by_contra present
      obtain ⟨value, found⟩ := Option.ne_none_iff_exists'.mp present
      exact absurd (bound _ value found) (by decide)

end

end ClusterBackup.Environment
