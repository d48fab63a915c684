import ElCapitan.ControlPacks.Models

/-!
# The registry of controls

`CapabilityRegistry`: the controls that are installed, at most one for a provider and a rule.
A control is looked up with or without the type of the resource it is to decide on.
-/

namespace ElCapitan

/-- `CapabilityRegistry`, with the check of its constructor. -/
structure CapabilityRegistry where
  capabilities : List ControlDefinition
  unique : (capabilities.map fun item => (item.provider, item.ruleId)).Nodup

namespace CapabilityRegistry

variable (P : Platform) (registry : CapabilityRegistry)

/-- `_by_key.get((provider.lower(), rule_id))`. -/
def byKey (provider ruleId : String) : Option ControlDefinition :=
  registry.capabilities.find? fun item =>
    item.provider = P.lower provider ∧ item.ruleId = ruleId

/-- Does a control decide on resources of this type? No type stands for every type. -/
def admitsType (resourceType : String) (capability : ControlDefinition) : Bool :=
  resourceType = "" ∨ P.lower resourceType ∈ capability.resourceTypes.map P.lower

/-- `get`. -/
def get (provider ruleId resourceType : String) : Option ControlDefinition :=
  (registry.byKey P provider ruleId).filter (admitsType P resourceType)

variable {P registry} {provider ruleId resourceType : String}

end CapabilityRegistry

end ElCapitan
