import Zkbot.Core.Json

/-!
# The config introspection answer

`config_mgmt.rs` wraps a config with metadata and answers `GetCurrentConfig`: the values at the
paths of resolved secrets are redacted, but the metadata carries a digest that was taken before.

The hash is not the repository's own: `sha256_hex` prints what the crate `sha2` computes.  So it is
a parameter here, `sha256Hex`, and a result that needs something of it names what it needs.  For two
configs that differ in their secrets only, the redacted JSON is the same
(`DiffersAt.redactSecrets_eq`), whatever the pointers are: nested, overlapping, into arrays, or
leading nowhere.  What is left in the answer is the digest.  If the two unredacted texts are not a
collision of the hash, the answers are equal exactly if these texts are (`response_eq_iff_text`), so
a guess of a secret can be tested against the answer.
-/

namespace Zkbot

open Json List

structure ConfigMetadata where
  configVersion : String
  configHash : String
  loadedAtMs : Int
  configSource : String
  issuedAtMs : Int
deriving DecidableEq

structure SecretRefStatus where
  logicalRef : String
  resolved : Bool
  resolvedAtMs : Int
  error : String
deriving DecidableEq

structure GetCurrentConfigResponse where
  effectiveConfigJson : String
  metadata : Option ConfigMetadata
  serviceKind : String
  logicalId : String
  secretRefStatuses : List SecretRefStatus
deriving DecidableEq

structure ConfigEnvelope (T : Type*) where
  config : T
  metadata : ConfigMetadata

def normalizeJson (value : Json) : String :=
  value.sortKeys.text

def redactSecrets (json : Json) (secretPaths : List String) : Json :=
  secretPaths.foldl (fun json path => json.assign (.string "***REDACTED***") path) json

section Typed

variable {T : Type*} (sha256Hex : ByteArray → String) (toValue : T → Option Json)

/-- The JSON form of a config, null if it cannot be serialised. -/
def jsonForm (config : T) : Json :=
  (toValue config).getD .null

/-- A new envelope, made at `nowMs`. -/
def ConfigEnvelope.new (nowMs : Int) (config : T) (source : String) : ConfigEnvelope T where
  config := config
  metadata :=
    { configVersion := "1"
      configHash := sha256Hex (normalizeJson (jsonForm toValue config)).toUTF8
      loadedAtMs := 0
      configSource := source
      issuedAtMs := nowMs }

def buildGetCurrentConfigResponse (envelope : ConfigEnvelope T) (resolvedSecretPaths : List String)
    (serviceKind logicalId : String) (secretStatuses : List SecretRefStatus) :
    GetCurrentConfigResponse where
  effectiveConfigJson :=
    normalizeJson (redactSecrets (jsonForm toValue envelope.config) resolvedSecretPaths)
  metadata := some envelope.metadata
  serviceKind := serviceKind
  logicalId := logicalId
  secretRefStatuses := secretStatuses

end Typed

/-- The trees differ only at values that the pointers locate. -/
inductive DiffersAt (paths : List String) (a : Json) : Json → Prop
  | same : DiffersAt paths a a
  | change {b path v} : DiffersAt paths a b → path ∈ paths → DiffersAt paths a (b.assign v path)

section Redaction

variable {paths : List String} {path : String}

/-- A listed place may be redacted beforehand: its turn comes anyway, and redactions commute. -/
lemma redactSecrets_redacted (h : path ∈ paths) (json : Json) :
    redactSecrets (json.assign (.string "***REDACTED***") path) paths =
      redactSecrets json paths := by
  induction paths generalizing json with
  | nil => cases h
  | cons first paths ih =>
    simp only [redactSecrets, foldl_cons]
    rcases mem_cons.mp h with rfl | h
    · rw [assign_assign]
    · rw [assign_comm]
      exact ih h _

lemma redactSecrets_assign (h : path ∈ paths) (v json : Json) :
    redactSecrets (json.assign v path) paths = redactSecrets json paths := by
  rw [← redactSecrets_redacted h, assign_assign, redactSecrets_redacted h]

lemma DiffersAt.redactSecrets_eq {a b : Json} (h : DiffersAt paths a b) :
    redactSecrets a paths = redactSecrets b paths := by
  induction h with
  | same => rfl
  | change _ hpath ih => rw [redactSecrets_assign hpath, ih]

end Redaction

/-- **What an answer tells of the secrets.**  For configs that differ in resolved secrets only the
redacted JSON is the same; and the whole answers are the same exactly if the unredacted texts are,
unless these two texts are a collision of the hash. -/
theorem response_eq_iff_text {T : Type*} (sha256Hex : ByteArray → String)
    (toValue : T → Option Json) (paths : List String) (nowMs : Int)
    (source serviceKind logicalId : String) (statuses : List SecretRefStatus) (config config' : T)
    (h : DiffersAt paths (jsonForm toValue config) (jsonForm toValue config'))
    (hcollision : sha256Hex (normalizeJson (jsonForm toValue config)).toUTF8 =
        sha256Hex (normalizeJson (jsonForm toValue config')).toUTF8 →
      normalizeJson (jsonForm toValue config) = normalizeJson (jsonForm toValue config')) :
    let response (config : T) := buildGetCurrentConfigResponse toValue
      (.new sha256Hex toValue nowMs config source) paths serviceKind logicalId statuses
    (response config).effectiveConfigJson = (response config').effectiveConfigJson ∧
      (response config = response config' ↔
        normalizeJson (jsonForm toValue config) = normalizeJson (jsonForm toValue config')) := by
  intro response
  refine ⟨congrArg normalizeJson h.redactSecrets_eq, fun heq => ?_, fun htext => ?_⟩
  · -- the digest is the part of the answer that still depends on the secrets
    simp only [response, buildGetCurrentConfigResponse, ConfigEnvelope.new, Option.some.injEq,
      GetCurrentConfigResponse.mk.injEq, ConfigMetadata.mk.injEq] at heq
    exact hcollision heq.2.1.2.1
  · simp only [response, buildGetCurrentConfigResponse, ConfigEnvelope.new, h.redactSecrets_eq,
      htext]

/-- A gateway config with its key, and the answer about it. -/
def Sample.keyed (secret : String) : Json :=
  object [("venue", .string "okx"), ("api_key", .string secret)]

def Sample.keyedResponse (sha256Hex : ByteArray → String) (secret : String) :
    GetCurrentConfigResponse :=
  buildGetCurrentConfigResponse some (.new sha256Hex some 0 (keyed secret) "reload") ["/api_key"]
    "gw" "gw-1" []

open Sample

/-- Under a hash that loses nothing, another key gives another answer. -/
theorem response_eq_iff_text_keyed :
    let copy (data : ByteArray) := String.ofList (data.data.toList.map fun b => .ofNat b.toNat)
    DiffersAt ["/api_key"] (keyed "a") (keyed "b") ∧
      keyedResponse copy "a" ≠ keyedResponse copy "b" := by
  intro copy
  have h : DiffersAt ["/api_key"] (keyed "a") (keyed "b") := .change .same (mem_singleton_self _)
  have htext : normalizeJson (keyed "a") ≠ normalizeJson (keyed "b") := by decide +kernel
  refine ⟨h, fun heq => htext ?_⟩
  exact (response_eq_iff_text copy some _ 0 "reload" "gw" "gw-1" [] (keyed "a") (keyed "b") h
    fun hcopy => absurd hcopy (by decide +kernel)).2.mp heq

/-- Whatever the hash is: two keys at the one redacted path show the same JSON, and the same answer
only if their texts collide. -/
theorem digest_tells_secrets_apart :
    DiffersAt ["/api_key"] (keyed "a") (keyed "b") ∧ ∀ sha256Hex,
      (keyedResponse sha256Hex "a").effectiveConfigJson =
        (keyedResponse sha256Hex "b").effectiveConfigJson ∧
      (keyedResponse sha256Hex "a" = keyedResponse sha256Hex "b" ↔
        sha256Hex "\x7b\"api_key\":\"a\",\"venue\":\"okx\"\x7d".toUTF8 =
          sha256Hex "\x7b\"api_key\":\"b\",\"venue\":\"okx\"\x7d".toUTF8) := by
  have h : DiffersAt ["/api_key"] (keyed "a") (keyed "b") := .change .same (mem_singleton_self _)
  have htexts : normalizeJson (keyed "a") = "\x7b\"api_key\":\"a\",\"venue\":\"okx\"\x7d" ∧
      normalizeJson (keyed "b") = "\x7b\"api_key\":\"b\",\"venue\":\"okx\"\x7d" := by
    decide +kernel
  rw [← htexts.1, ← htexts.2]
  refine ⟨h, fun sha256Hex => ⟨congrArg normalizeJson h.redactSecrets_eq, ?_⟩⟩
  simp [keyedResponse, buildGetCurrentConfigResponse, ConfigEnvelope.new, jsonForm,
    h.redactSecrets_eq]

end Zkbot
