import ElCapitan.Agents.ModelEgress
import ElCapitan.Base.Paths

/-!
# Secrets and the model

Two values that differ only under the keys of secrets are sanitized to one document, so that a
model is sent one task. The relation between the two inputs follows the constructors of values.
-/

namespace ElCapitan

section relation

mutual

/-- Two values are equal except for what is stored under the keys of secrets. -/
def EqualButSecrets : Json → Json → Prop
  | .arr items, .arr items' => ItemsEqualButSecrets items items'
  | .obj entries, .obj entries' => EntriesEqualButSecrets entries entries'
  | value, value' => value = value'

/-- Items are equal except for secrets. -/
def ItemsEqualButSecrets : List Json → List Json → Prop
  | [], [] => True
  | item :: items, item' :: items' =>
    EqualButSecrets item item' ∧ ItemsEqualButSecrets items items'
  | _, _ => False

/-- Entries have the same keys and, except for the keys of secrets, values that are equal except
for secrets. -/
def EntriesEqualButSecrets : List (String × Json) → List (String × Json) → Prop
  | [], [] => True
  | (name, child) :: entries, (name', child') :: entries' =>
    (name = name' ∧ (isSecretKey name = true ∨ EqualButSecrets child child')) ∧
      EntriesEqualButSecrets entries entries'
  | _, _ => False

end

end relation

section scrubbing

variable {P : Platform} {T : TextLibrary}

/-- What is stored under the key of a secret does not matter. -/
theorem scrub_secret {key : String} (h : isSecretKey key = true) (item : Json) :
    scrub P T key item = (.str "[SECRET_REDACTED]", 1) := by
  unfold scrub
  exact if_pos h

/-- A value that is equal to another except for secrets is the same, or both are lists, or both are
mappings. -/
theorem EqualButSecrets.cases {item item' : Json} (h : EqualButSecrets item item') :
    item = item' ∨
      (∃ items items', item = .arr items ∧ item' = .arr items' ∧
        ItemsEqualButSecrets items items') ∨
      ∃ entries entries', item = .obj entries ∧ item' = .obj entries' ∧
        EntriesEqualButSecrets entries entries' := by
  unfold EqualButSecrets at h
  split at h
  · exact Or.inr (Or.inl ⟨_, _, rfl, rfl, h⟩)
  · exact Or.inr (Or.inr ⟨_, _, rfl, rfl, h⟩)
  · exact Or.inl h

/-- Items that are equal except for secrets are scrubbed to the same items, when each of them is. -/
theorem scrubItems_equal {items items' : List Json} {key : String}
    (hscrub : ∀ item ∈ items, ∀ item' key, EqualButSecrets item item' →
      scrub P T key item = scrub P T key item')
    (h : ItemsEqualButSecrets items items') :
    scrubItems P T key items = scrubItems P T key items' := by
  induction items generalizing items' with
  | nil =>
    cases items' with
    | nil => rfl
    | cons item' items' => cases h
  | cons item items ih =>
    cases items' with
    | nil => cases h
    | cons item' items' =>
      have hitem := hscrub item List.mem_cons_self item' key h.1
      have hitems := ih (fun other hother => hscrub other (List.mem_cons_of_mem _ hother)) h.2
      rw [scrubItems, scrubItems, hitem, hitems]

/-- Entries that are equal except for secrets are scrubbed to the same entries, when each value
is. -/
theorem scrubEntries_equal {entries entries' : List (String × Json)}
    (hscrub : ∀ entry ∈ entries, ∀ item' key, EqualButSecrets entry.2 item' →
      scrub P T key entry.2 = scrub P T key item')
    (h : EntriesEqualButSecrets entries entries') :
    scrubEntries P T entries = scrubEntries P T entries' := by
  induction entries generalizing entries' with
  | nil =>
    cases entries' with
    | nil => rfl
    | cons entry' entries' => cases h
  | cons entry entries ih =>
    cases entries' with
    | nil => cases h
    | cons entry' entries' =>
      obtain ⟨name, child⟩ := entry
      obtain ⟨name', child'⟩ := entry'
      obtain ⟨⟨rfl, hchild⟩, hrest⟩ := h
      have hscrubbed : scrub P T name child = scrub P T name child' := by
        rcases hchild with hsecret | hequal
        · rw [scrub_secret hsecret, scrub_secret hsecret]
        · exact hscrub (name, child) List.mem_cons_self child' name hequal
      have hentries := ih (fun other hother => hscrub other (List.mem_cons_of_mem _ hother)) hrest
      rw [scrubEntries, scrubEntries, hscrubbed, hentries]

/-- Values that are equal except for secrets are scrubbed to one value. -/
theorem scrub_equal (item : Json) : ∀ (item' : Json) (key : String), EqualButSecrets item item' →
    scrub P T key item = scrub P T key item' := by
  induction item using Json.induction with
  | arr items ih =>
    intro item' key h
    rcases h.cases with rfl | ⟨_, items', hitem, rfl, hitems⟩ | ⟨_, _, hitem, _⟩
    · rfl
    · obtain rfl := Json.arr.inj hitem
      rw [scrub, scrub, scrubItems_equal ih hitems]
    · cases hitem
  | obj entries ih =>
    intro item' key h
    rcases h.cases with rfl | ⟨_, _, hitem, _⟩ | ⟨_, entries', hitem, rfl, hentries⟩
    · rfl
    · cases hitem
    · obtain rfl := Json.obj.inj hitem
      rw [scrub, scrub, scrubEntries_equal ih hentries]
  | _ =>
    intro item' key h
    rcases h.cases with rfl | ⟨_, _, hitem, _⟩ | ⟨_, _, hitem, _⟩
    · rfl
    · cases hitem
    · cases hitem

end scrubbing

/-- Two values that differ only under the keys of secrets are sanitized to one document, and two
tasks whose metadata differ only so are sent on as one task. -/
theorem sanitize_without_secrets (P : Platform) (T : TextLibrary) :
    (∀ value value', EqualButSecrets value value' →
      (sanitizeForModel P T value).1 = (sanitizeForModel P T value').1) ∧
    ∀ (task : AgentTask) (metadata : Document),
      EqualButSecrets (.obj task.metadata) (.obj metadata) →
      (task.sanitized P T).1 = ({ task with metadata }.sanitized P T).1 := by
  have hvalues : ∀ value value', EqualButSecrets value value' →
      (sanitizeForModel P T value).1 = (sanitizeForModel P T value').1 := by
    intro value value' h
    unfold sanitizeForModel
    rw [scrub_equal value value' "" h]
  refine ⟨hvalues, fun task metadata h => ?_⟩
  have hmetadata := hvalues _ _ h
  unfold AgentTask.sanitized
  dsimp only
  rw [hmetadata]

/-- A password and a whole subtree under a token do not change what is sent. -/
theorem sanitize_two_passwords :
    (sanitizeForModel samplePlatform asciiTextLibrary
      (.obj [("service", .str "checkout"), ("password", .str "one"),
        ("list", .arr [.obj [("api_token", .arr [.int 1, .null])]])])).1 =
    (sanitizeForModel samplePlatform asciiTextLibrary
      (.obj [("service", .str "checkout"), ("password", .int 2),
        ("list", .arr [.obj [("api_token", .str "x")]])])).1 := by
  have hpassword : isSecretKey "password" = true := by decide +kernel
  have htoken : isSecretKey "api_token" = true := by decide +kernel
  refine (sanitize_without_secrets samplePlatform asciiTextLibrary).1 _ _ ?_
  simp [EqualButSecrets, EntriesEqualButSecrets, ItemsEqualButSecrets, hpassword, htoken]

end ElCapitan
