import ElCapitan.Base.CanonicalValues
import ElCapitan.Base.Platform
import ElCapitan.Infrastructure.PlanScope

/-!
# The scope of a template change

`verify_s3_versioning_template_change`: a synthesized template passes when it differs from its
baseline in the versioning of the target bucket only. The templates it returns are the deployed
one with versioning enabled and with versioning suspended.
-/

namespace ElCapitan

open Json

/-- An `AwsCdkPlanningError`. -/
def cdkError (message : String) : PyError := ⟨.awsCdkPlanningError, message⟩

section equality

mutual

/-- `==` of two values. -/
def Json.equal : Json → Json → Bool
  | .obj entries, .obj entries' =>
    entries.length = entries'.length && equalEntries entries entries'
  | .arr items, .arr items' => equalItems items items'
  | a, b => looselyEqual a b

/-- Has the other object an equal value under each key? -/
def equalEntries : Document → Document → Bool
  | [], _ => true
  | (name, value) :: entries, entries' =>
    (match entries'.lookup name with
      | some other => value.equal other
      | none => false) && equalEntries entries entries'

/-- Are the lists equal item by item? -/
def equalItems : List Json → List Json → Bool
  | [], [] => true
  | item :: items, item' :: items' => item.equal item' && equalItems items items'
  | _, _ => false

end

end equality

section templates

/-- The keys that lead to the properties of a resource. -/
def propertiesPath (id : String) : List String := ["Resources", id, "Properties"]

/-- The path of the versioning of a bucket. -/
def versioningPath (id : String) : JsonPath :=
  (propertiesPath id).map .key ++ [.key "VersioningConfiguration"]

/-- The properties of the bucket that a template has under a logical id, or what is missing. -/
def bucketProperties (noResources noBucket noProperties : String) (template : Document)
    (id : String) : Except PyError Document :=
  match template.get "Resources" with
  | .obj resources =>
    match Document.get resources id with
    | .obj resource =>
      if (Document.get resource "Type").str? = some "AWS::S3::Bucket" then
        match Document.get resource "Properties" with
        | .obj properties => .ok properties
        | _ => .error (cdkError noProperties)
      else .error (cdkError noBucket)
    | _ => .error (cdkError noBucket)
  | _ => .error (cdkError noResources)

/-- The properties of the target of a template in a comparison. -/
def targetProperties (name : String) (template : Document) (id : String) :
    Except PyError Document :=
  bucketProperties (name ++ " template has no Resources object")
    (name ++ " template target is not an AWS::S3::Bucket")
    (name ++ " template target has no Properties") template id

/-- `{"Status": status}`. -/
def versioningStatus (status : String) : Json := .obj [("Status", .str status)]

/-- `isinstance(value, Mapping)` with this status. -/
def hasStatus (status : String) : Json → Bool
  | .obj entries => (Document.get entries "Status").str? = some status
  | _ => false

/-- `template["Resources"][id]["Properties"]["VersioningConfiguration"] = value`. -/
def setVersioning (template : Json) (id : String) (value : Json) : Json :=
  template.editAt (fun properties => Document.set properties "VersioningConfiguration" value)
    (propertiesPath id)

/-- `baseline_synthesized_template or deployed_template`. -/
def baselineTemplate (deployed : Document) : Option Document → Document
  | some (entry :: entries) => entry :: entries
  | _ => deployed

/-- The proposed template with the versioning of the baseline. -/
def comparisonTemplate (proposed : Json) (id : String) (baselineVersioning : Json) : Json :=
  if baselineVersioning.isNull then
    proposed.editAt (fun properties => properties.without "VersioningConfiguration")
      (propertiesPath id)
  else setVersioning proposed id baselineVersioning

/-- `verify_s3_versioning_template_change`. -/
def verifyS3VersioningTemplateChange (P : Platform) (deployed proposed : Document) (id : String)
    (baselineSynthesized : Option Document) : Except PyError (Json × Json) := do
  let baseline := baselineTemplate deployed baselineSynthesized
  let deployedProperties ← targetProperties "deployed" deployed id
  let baselineProperties ← targetProperties "baseline" baseline id
  let proposedProperties ← targetProperties "proposed" proposed id
  let prior := deployedProperties.get "VersioningConfiguration"
  raiseIf (¬prior.isNull ∧ ¬hasStatus "Suspended" prior)
    (cdkError "deployed versioning state must be absent or Suspended")
  raiseIf (¬(proposedProperties.get "VersioningConfiguration").equal (versioningStatus "Enabled"))
    (cdkError "proposed template must set only VersioningConfiguration.Status=Enabled")
  let baselineVersioning := baselineProperties.get "VersioningConfiguration"
  raiseIf (¬baselineVersioning.isNull ∧ ¬baselineVersioning.equal prior)
    (cdkError "baseline synthesis changes the deployed S3 versioning property")
  let comparison := comparisonTemplate (.obj proposed) id baselineVersioning
  raiseIf (P.canonical comparison ≠ P.canonical (.obj baseline))
    (cdkError ("synthesized template changes content outside the approved " ++
      "S3 versioning property"))
  let forward := setVersioning (.obj deployed) id (versioningStatus "Enabled")
  return (forward, setVersioning forward id (versioningStatus "Suspended"))

end templates

section scope

variable {P : Platform} {template deployed proposed : Document} {id : String}

/-- A bucket's properties stand at their path. -/
theorem bucketProperties_at {noResources noBucket noProperties : String} {properties : Document}
    (h : bucketProperties noResources noBucket noProperties template id = .ok properties) :
    (Json.obj template).at? ((propertiesPath id).map .key) = some (.obj properties) := by
  unfold bucketProperties at h
  split at h
  · rename_i resources hresources
    split at h
    · rename_i resource hresource
      split at h
      · split at h
        · rename_i held hheld
          cases h
          have hlookups := get_eq_some hresources (by simp)
          have hlookup := get_eq_some hresource (by simp)
          have hproperties := get_eq_some hheld (by simp)
          simp only [propertiesPath, List.map_cons, List.map_nil, Json.at?, Json.child?, hlookups,
            Option.bind_some, hlookup, hproperties]
        · cases h
      · cases h
    · cases h
  · cases h

/-- Setting the versioning of a bucket changes nothing else. -/
theorem setVersioning_sameOutside {template value : Json} {properties : Document}
    (h : template.at? ((propertiesPath id).map .key) = some (.obj properties)) :
    SameOutside (versioningPath id) (setVersioning template id value) template :=
  editAt_sameOutside h fun _ hother => Document.lookup_set_other hother

/-- The versioning that was set is what the template has. -/
theorem setVersioning_at {template value : Json} {properties : Document}
    (h : template.at? ((propertiesPath id).map .key) = some (.obj properties)) :
    (setVersioning template id value).at? (versioningPath id) = some value := by
  rw [versioningPath, at_append, setVersioning, at_editAt h, Option.bind_some, Json.at?,
    Json.child?, Document.lookup_set_self]
  rfl

/-- `after` is `before` with the versioning of the bucket set to a status: nothing else differs,
and no other resource does. -/
structure SetsOnlyVersioning (id status : String) (before after : Json) : Prop where
  elsewhere : SameOutside (versioningPath id) after before
  versioning : after.at? (versioningPath id) = some (versioningStatus status)
  resources : ∀ other, other ≠ id →
    SameOption (after.at? [.key "Resources", .key other])
      (before.at? [.key "Resources", .key other])

/-- No path of another resource leads to the versioning of the bucket. -/
theorem otherResource_outside {other : String} (hother : other ≠ id) (rest : JsonPath) :
    ¬versioningPath id <+: [.key "Resources", .key other] ++ rest := by
  simp [versioningPath, propertiesPath, List.cons_prefix_cons, hother.symm]

/-- Setting the versioning of a bucket sets nothing else. -/
theorem setVersioning_setsOnly {before template : Json} {status : String} {properties : Document}
    (h : template.at? ((propertiesPath id).map .key) = some (.obj properties))
    (hsame : SameOutside (versioningPath id) template before) :
    SetsOnlyVersioning id status before (setVersioning template id (versioningStatus status)) := by
  have helsewhere : SameOutside (versioningPath id)
      (setVersioning template id (versioningStatus status)) before :=
    (setVersioning_sameOutside h).trans hsame
  exact ⟨helsewhere, setVersioning_at h, fun other hother =>
    helsewhere.at (otherResource_outside hother)⟩

/-- What acceptance of a synthesized template says of the three templates. -/
theorem verify_cases {baseline : Option Document} {forward rollback : Json}
    (h : verifyS3VersioningTemplateChange P deployed proposed id baseline =
      .ok (forward, rollback)) :
    ∃ deployedProperties baselineProperties proposedProperties,
      targetProperties "deployed" deployed id = .ok deployedProperties ∧
      targetProperties "baseline" (baselineTemplate deployed baseline) id =
        .ok baselineProperties ∧
      targetProperties "proposed" proposed id = .ok proposedProperties ∧
      ((deployedProperties.get "VersioningConfiguration").isNull ∨
        hasStatus "Suspended" (deployedProperties.get "VersioningConfiguration")) ∧
      P.canonical (comparisonTemplate (.obj proposed) id
          (baselineProperties.get "VersioningConfiguration")) =
        P.canonical (.obj (baselineTemplate deployed baseline)) ∧
      forward = setVersioning (.obj deployed) id (versioningStatus "Enabled") ∧
      rollback = setVersioning forward id (versioningStatus "Suspended") := by
  unfold verifyS3VersioningTemplateChange at h
  simp only [except_bind_eq_ok, raiseIf_eq_ok] at h
  obtain ⟨deployedProperties, hdeployed, baselineProperties, hbaseline, proposedProperties,
    hproposed, _, hprior, _, -, _, -, _, hcanonical, hreturn⟩ := h
  cases hreturn
  refine ⟨deployedProperties, baselineProperties, proposedProperties, hdeployed, hbaseline,
    hproposed, ?_, not_not.mp hcanonical, rfl, rfl⟩
  by_contra hneither
  rw [not_or] at hneither
  exact hprior hneither

/-- A change that is accepted sets the versioning of the target bucket and nothing else: the
proposed template is its baseline elsewhere, and both returned templates are the deployed one
elsewhere. -/
theorem versioning_change_scope (hfloat : FloatTexts P.floatRepr) {baseline : Option Document}
    {forward rollback : Json}
    (h : verifyS3VersioningTemplateChange P deployed proposed id baseline =
    .ok (forward, rollback)) :
    SameOutside (versioningPath id) (.obj proposed) (.obj (baselineTemplate deployed baseline)) ∧
      SetsOnlyVersioning id "Enabled" (.obj deployed) forward ∧
      SetsOnlyVersioning id "Suspended" (.obj deployed) rollback := by
  obtain ⟨deployedProperties, baselineProperties, proposedProperties, hdeployed, -, hproposed, -,
    hcanonical, rfl, rfl⟩ := verify_cases h
  have hforward : SetsOnlyVersioning id "Enabled" (.obj deployed)
      (setVersioning (.obj deployed) id (versioningStatus "Enabled")) :=
    setVersioning_setsOnly (bucketProperties_at hdeployed) ((Same.refl _).outside _)
  refine ⟨?_, hforward, ?_⟩
  · have hcomparison : SameOutside (versioningPath id)
        (comparisonTemplate (.obj proposed) id (baselineProperties.get "VersioningConfiguration"))
        (.obj proposed) := by
      unfold comparisonTemplate
      split
      · exact editAt_sameOutside (bucketProperties_at hproposed) fun _ hother =>
          Document.lookup_without_other hother
      · exact setVersioning_sameOutside (bucketProperties_at hproposed)
    have hbaseline := (same_of_canonicalJson hfloat hcanonical).outside (versioningPath id)
    exact hcomparison.symm.trans hbaseline
  · exact setVersioning_setsOnly (at_editAt (bucketProperties_at hdeployed)) hforward.elsewhere

/-- A text of each rational with a point and an exponent mark. -/
def markedText (q : ℚ) : String := toString q.num ++ ".e" ++ toString q.den

/-- The sample's texts of floats are texts of floats. -/
theorem markedText_floatTexts : FloatTexts markedText where
  chars q c hc := by
    simp only [markedText, String.toList_append, List.mem_append] at hc
    obtain (hnum | hmark) | hden := hc
    · exact intText_numberChar q.num c hnum
    · obtain rfl | rfl : c = '.' ∨ c = 'e' := by simpa using hmark
      · decide
      · decide
    · exact intText_numberChar q.den c hden
  marked q := .inl (by simp [markedText])
  injective q q' h := by
    have htexts := congrArg String.toList h
    simp only [markedText, String.toList_append, List.append_assoc] at htexts
    have hrest : '.' ∉ 'e' :: (toString q.den).toList := by
      rw [List.mem_cons, not_or]
      exact ⟨by decide, (intText_unmarked q.den).1⟩
    obtain ⟨hnum, -, hrest⟩ := (List.append_cons_inj_of_notMem (intText_unmarked q.num).1
      hrest).mp htexts
    have hden := (List.cons.inj hrest).2
    exact Rat.ext (intText_injective (String.toList_inj.mp hnum))
      (natText_injective (String.toList_inj.mp hden))

/-- A template with one bucket and one queue. -/
def bucketTemplate (properties : Document) : Document :=
  [("Resources", .obj [("Queue", .obj [("Type", .str "AWS::SQS::Queue")]),
    ("Bucket", .obj [("Type", .str "AWS::S3::Bucket"),
      ("Properties", .obj (("BucketName", .str "logs") :: properties))])])]

/-- The platform with marked float texts. -/
def markedPlatform : Platform := { samplePlatform with floatRepr := markedText }

/-- A synthesized template that only enables versioning is accepted. -/
theorem enabled_versioning_change_scope :
    ∃ forward rollback, verifyS3VersioningTemplateChange markedPlatform (bucketTemplate [])
        (bucketTemplate [("VersioningConfiguration", versioningStatus "Enabled")]) "Bucket" none =
          .ok (forward, rollback) ∧
      SetsOnlyVersioning "Bucket" "Enabled" (.obj (bucketTemplate [])) forward ∧
      SetsOnlyVersioning "Bucket" "Suspended" (.obj (bucketTemplate [])) rollback := by
  have haccept : (verifyS3VersioningTemplateChange markedPlatform (bucketTemplate [])
      (bucketTemplate [("VersioningConfiguration", versioningStatus "Enabled")]) "Bucket"
      none).toOption.any (fun _ => true) = true := by
    decide +kernel
  obtain ⟨⟨forward, rollback⟩, hverify, -⟩ := exists_of_any haccept
  exact ⟨forward, rollback, hverify, (versioning_change_scope markedText_floatTexts hverify).2⟩

end scope

end ElCapitan
