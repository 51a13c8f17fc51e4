import AthenaContext.TextNormalization

/-!
# Evidence records

The canonical resource record as the selectors and the cohort engine read it:
identity, type, location, approved tags, provenance and digests. The enumerated
fields keep the contract's literals through `text`.
-/

namespace AthenaContext.EvidenceRecords

open TextNormalization

/-- `EvidenceEnvironment`. -/
inductive EvidenceEnvironment
  | production | development | training | test | disasterRecovery | sandbox
  deriving DecidableEq, Repr

def EvidenceEnvironment.text : EvidenceEnvironment → Text
  | .production => "production".toList
  | .development => "development".toList
  | .training => "training".toList
  | .test => "test".toList
  | .disasterRecovery => "disaster-recovery".toList
  | .sandbox => "sandbox".toList

/-- `EvidenceWorkloadRole`. -/
inductive EvidenceWorkloadRole
  | database | worker | webService | loadBalancer | integration | storage | network | identity
  | observability | externalDependency
  deriving DecidableEq, Repr

def EvidenceWorkloadRole.text : EvidenceWorkloadRole → Text
  | .database => "database".toList
  | .worker => "worker".toList
  | .webService => "web-service".toList
  | .loadBalancer => "load-balancer".toList
  | .integration => "integration".toList
  | .storage => "storage".toList
  | .network => "network".toList
  | .identity => "identity".toList
  | .observability => "observability".toList
  | .externalDependency => "external-dependency".toList

/-- `EvidenceManagedBy`. -/
inductive EvidenceManagedBy
  | terraform | bicep | arm | azurePolicy | manual | unknown
  deriving DecidableEq, Repr

def EvidenceManagedBy.text : EvidenceManagedBy → Text
  | .terraform => "terraform".toList
  | .bicep => "bicep".toList
  | .arm => "arm".toList
  | .azurePolicy => "azure-policy".toList
  | .manual => "manual".toList
  | .unknown => "unknown".toList

/-- `EvidenceResourceType`. -/
inductive EvidenceResourceType
  | virtualMachines | loadBalancers | storageAccounts | workspaces
  deriving DecidableEq, Repr

def EvidenceResourceType.text : EvidenceResourceType → Text
  | .virtualMachines => "Microsoft.Compute/virtualMachines".toList
  | .loadBalancers => "Microsoft.Network/loadBalancers".toList
  | .storageAccounts => "Microsoft.Storage/storageAccounts".toList
  | .workspaces => "Microsoft.OperationalInsights/workspaces".toList

/-- `EvidenceLocation`. -/
inductive EvidenceLocation
  | australiaeast | australiasoutheast | eastus | eastus2 | westus2 | westeurope | northeurope
  deriving DecidableEq, Repr

def EvidenceLocation.text : EvidenceLocation → Text
  | .australiaeast => "australiaeast".toList
  | .australiasoutheast => "australiasoutheast".toList
  | .eastus => "eastus".toList
  | .eastus2 => "eastus2".toList
  | .westus2 => "westus2".toList
  | .westeurope => "westeurope".toList
  | .northeurope => "northeurope".toList

/-- `EvidenceToolName`. -/
inductive EvidenceToolName
  | resourceInventoryRead
  deriving DecidableEq, Repr

def EvidenceToolName.text : EvidenceToolName → Text
  | .resourceInventoryRead => "azure.resourceInventory.read".toList

/-- The approved tags of a resource; at least one is present. -/
structure ApprovedResourceTags where
  environment : Option EvidenceEnvironment
  workloadRole : Option EvidenceWorkloadRole
  application : Option Text
  component : Option Text
  managedBy : Option EvidenceManagedBy
  approved : environment.isSome || workloadRole.isSome || application.isSome ||
    component.isSome || managedBy.isSome
  deriving DecidableEq

/-- The tags as `model_dump` lists them: by alias and without the absent ones. -/
def ApprovedResourceTags.entries (tags : ApprovedResourceTags) : List (Text × Text) :=
  [("environment".toList, tags.environment.map EvidenceEnvironment.text),
    ("workloadRole".toList, tags.workloadRole.map EvidenceWorkloadRole.text),
    ("application".toList, tags.application),
    ("component".toList, tags.component),
    ("managedBy".toList, tags.managedBy.map EvidenceManagedBy.text)].filterMap
    fun (key, value) => value.map (key, ·)

/-- `EvidenceRecordProvenance`. -/
structure EvidenceRecordProvenance where
  collectorAttemptId : Text
  toolName : EvidenceToolName
  toolVersion : Text
  sourceResponseDigest : Option Text
  sourceResponsePointer : Option Text
  deriving DecidableEq

/-- `ResourceEvidenceRecord`. -/
structure ResourceEvidenceRecord where
  resourceId : Text
  resourceType : EvidenceResourceType
  location : EvidenceLocation
  tags : ApprovedResourceTags
  provenance : EvidenceRecordProvenance
  itemDigest : Text
  collectorAttemptDigest : Text
  collectorIdentityEvidenceRef : Text
  deriving DecidableEq

end AthenaContext.EvidenceRecords
