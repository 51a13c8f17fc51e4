import AthenaContext.ResourceSelectors

/-!
# Selector documents

A selector as the document `model_dump` makes of it, and the part of the document
that decides what the selector means: neither its identifier nor its bound, and its
lists in an order of their own. The digest of a document is a parameter.
-/

namespace AthenaContext.SelectorDocuments

open OrdinalCollections ResourceSelectors TextNormalization

/-- A value of a selector's document. -/
inductive FieldValue
  | number (n : ℕ)
  | text (t : Text)
  | texts (items : List Text)
  | predicates (items : List (Text × Text))
  deriving DecidableEq

/-- The fields of a document, by alias. -/
abbrev Fields := List (Text × FieldValue)

structure Document where
  fields : Fields
  children : Option (List Fields)
  deriving DecidableEq

def typeText : SelectorType → Text
  | .resourceIdList => "resourceIdList".toList
  | .tagPredicate => "tagPredicate".toList
  | .namePredicate => "namePredicate".toList
  | .resourceType => "resourceType".toList
  | .vmScaleSet => "vmScaleSet".toList
  | .loadBalancerBackend => "loadBalancerBackend".toList
  | .subnet => "subnet".toList
  | .image => "image".toList
  | .provenance => "provenance".toList
  | .compositeAll => "compositeAll".toList
  | .compositeAny => "compositeAny".toList

variable {unicode : UnicodeTables}

def headerFields (selectorType : SelectorType) (header : SelectorHeader) : Fields :=
  [("selectorType".toList, .text (typeText selectorType)), ("selectorId".toList, .text header.selectorId),
    ("maxMatches".toList, .number header.maxMatches)]

/-- A field that is left out when it is `None`. -/
def optionalField (name : String) (value : Option Text) : Fields :=
  (value.map fun t => (name.toList, .text t)).toList

/-- The fields of one kind of selector. -/
def ownFields : AtomicSelector unicode → Fields
  | .resourceIdList s => [("resourceIds".toList, .texts s.resourceIds)]
  | .tagPredicate s =>
    [("predicates".toList, .predicates (s.predicates.map fun p => (p.key, p.value)))]
  | .namePredicate s => optionalField "prefix" s.namePrefix ++ optionalField "suffix" s.nameSuffix
  | .resourceType s =>
    [("resourceType".toList, .text s.resourceType), ("locations".toList, .texts s.locations),
      ("resourceGroups".toList, .texts s.resourceGroups)]
  | .vmScaleSet s =>
    [("scaleSetResourceId".toList, .text s.scaleSetResourceId),
      ("instanceIds".toList, .texts s.instanceIds)]
  | .loadBalancerBackend s =>
    [("loadBalancerResourceId".toList, .text s.loadBalancerResourceId),
      ("backendPoolName".toList, .text s.backendPoolName)]
  | .subnet s => [("subnetResourceId".toList, .text s.subnetResourceId)]
  | .image s =>
    [("publisher".toList, .text s.publisher), ("offer".toList, .text s.offer),
      ("sku".toList, .text s.sku)] ++ optionalField "version" s.version
  | .provenance s =>
    [("collectorToolName".toList, .text s.collectorToolName),
      ("collectorToolVersion".toList, .text s.collectorToolVersion),
      ("identityEvidenceRef".toList, .text s.identityEvidenceRef)]

def dumpAtomic (selector : AtomicSelector unicode) : Fields :=
  headerFields selector.selectorType selector.header ++ ownFields selector

/-- `model_dump(mode="json", by_alias=True, exclude_none=True)`. -/
def dump : ManifestSelector unicode → Document
  | .atomic s => ⟨dumpAtomic s, none⟩
  | .compositeAll s =>
    ⟨headerFields .compositeAll s.toSelectorHeader, some (s.children.map dumpAtomic)⟩
  | .compositeAny s =>
    ⟨headerFields .compositeAny s.toSelectorHeader, some (s.children.map dumpAtomic)⟩

/-- The inner `normalize`, apart from the children. -/
def normalizeFields (unicode : UnicodeTables) (fields : Fields) : Fields :=
  (fields.filter fun field =>
    field.1 ≠ "selectorId".toList ∧ field.1 ≠ "maxMatches".toList).map fun field =>
      match field.2 with
      | .texts items => (field.1, .texts (sortOn (normalizedId unicode) items))
      | .predicates items => (field.1, .predicates (sortOn (fun p => normalizedId unicode p.1) items))
      | _ => field

/-- `_selector_semantic_payload`, the children in the order of their digests. -/
def selectorSemanticPayload (digest : Document → Text) (selector : ManifestSelector unicode) :
    Document :=
  let payload := dump selector
  ⟨normalizeFields unicode payload.fields, payload.children.map fun children =>
    sortOn (fun child => digest ⟨child, none⟩) (children.map (normalizeFields unicode))⟩

/-- `_selector_fingerprint`. -/
def selectorFingerprint (digest : Document → Text) (selector : ManifestSelector unicode) : Text :=
  digest (selectorSemanticPayload digest selector)

end AthenaContext.SelectorDocuments
