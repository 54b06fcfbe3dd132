import MatchPlane.Platform.Enrollments

/-!
# Projected offers

An offer of the catalog as it is sent to a child platform, with its version, its scope and a
digest that binds them together.
-/

namespace MatchPlane.CatalogProjection

open MatchPlane.Library MatchPlane.JavaScript MatchPlane.Router MatchPlane.Federation

inductive CatalogOfferStatus where
  | draft
  | active
  | reserved
  | sold
  | withdrawn
  | expired
  deriving DecidableEq, Repr

def CatalogOfferStatus.text : CatalogOfferStatus → CodeUnits
  | draft => units "draft"
  | active => units "active"
  | reserved => units "reserved"
  | sold => units "sold"
  | withdrawn => units "withdrawn"
  | expired => units "expired"

structure CanonicalCatalogOffer where
  offerId : CodeUnits
  externalKey : CodeUnits
  displayName : CodeUnits
  attributes : JsValue
  terms : JsValue
  status : CatalogOfferStatus
  canonicalVersion : JsNumber

structure ProjectionInput where
  requestId : CodeUnits
  tenantId : CodeUnits
  domainId : CodeUnits
  platformPath : CodeUnits
  offer : CanonicalCatalogOffer

structure ProjectionScope where
  tenantId : CodeUnits
  domainId : CodeUnits
  platformPath : CodeUnits
  deriving DecidableEq

structure ProjectedOffer where
  offerId : CodeUnits
  externalKey : CodeUnits
  displayName : CodeUnits
  attributes : JsValue
  terms : JsValue
  status : CatalogOfferStatus
  attachments : List CodeUnits

structure CatalogProjectionArguments where
  requestId : CodeUnits
  canonicalVersion : JsNumber
  projectionDigest : CodeUnits
  scope : ProjectionScope
  offer : ProjectedOffer

/-- `Number.isSafeInteger`. -/
def isSafeInteger : JsNumber → Bool
  | .finite value => value.den = 1 ∧ |value.num| ≤ 2 ^ 53 - 1
  | .negativeZero => true
  | _ => false

def isPositiveVersion : JsNumber → Bool
  | .finite value => isSafeInteger (.finite value) ∧ 1 ≤ value
  | _ => false

/-- The references of the attachments. -/
def catalogAttachments (attributes : JsValue) : List CodeUnits :=
  match attributes.get (units "attachments") with
  | .array elements => elements.filterMap fun element =>
      match element.get (units "attachment_ref") with
      | .string reference => some reference
      | _ => none
  | _ => []

/-! ## Digests -/

namespace ProjectionScope

def fields (scope : ProjectionScope) : List (CodeUnits × JsValue) :=
  [(units "tenant_id", .string scope.tenantId), (units "domain_id", .string scope.domainId),
    (units "platform_path", .string scope.platformPath)]

theorem nodup_fields (scope : ProjectionScope) : (scope.fields.map Prod.fst).Nodup := by
  change ([units "tenant_id", units "domain_id", units "platform_path"] : List CodeUnits).Nodup
  decide +kernel

end ProjectionScope

namespace ProjectedOffer

def fields (offer : ProjectedOffer) : List (CodeUnits × JsValue) :=
  [(units "offer_id", .string offer.offerId), (units "external_key", .string offer.externalKey),
    (units "display_name", .string offer.displayName), (units "attributes", offer.attributes),
    (units "terms", offer.terms), (units "status", .string offer.status.text),
    (units "attachments", .array (offer.attachments.map .string))]

theorem nodup_fields (offer : ProjectedOffer) : (offer.fields.map Prod.fst).Nodup := by
  change ([units "offer_id", units "external_key", units "display_name", units "attributes",
    units "terms", units "status", units "attachments"] : List CodeUnits).Nodup
  decide +kernel

end ProjectedOffer

/-- What a digest is of. -/
structure ProjectedVersion where
  canonicalVersion : JsNumber
  scope : ProjectionScope
  offer : ProjectedOffer

namespace ProjectedVersion

def fields (projected : ProjectedVersion) : List (CodeUnits × JsValue) :=
  [(units "canonical_version", .number projected.canonicalVersion),
    (units "scope", .object projected.scope.fields),
    (units "offer", .object projected.offer.fields)]

def value (projected : ProjectedVersion) : JsValue := .object projected.fields

theorem nodup_fields (projected : ProjectedVersion) :
    (projected.fields.map Prod.fst).Nodup := by
  change ([units "canonical_version", units "scope", units "offer"] : List CodeUnits).Nodup
  decide +kernel

end ProjectedVersion

def ProjectionInput.projected (input : ProjectionInput) : ProjectedVersion where
  canonicalVersion := input.offer.canonicalVersion
  scope := ⟨input.tenantId, input.domainId, input.platformPath⟩
  offer := {
    offerId := input.offer.offerId
    externalKey := input.offer.externalKey
    displayName := input.offer.displayName
    attributes := input.offer.attributes
    terms := input.offer.terms
    status := input.offer.status
    attachments := catalogAttachments input.offer.attributes
  }

section Digests

variable [NumberText]

def stableNumber : JsNumber → Except String CodeUnits
  | .finite value => .ok (JsNumber.finite value).text
  | .negativeZero => .ok JsNumber.negativeZero.text
  | _ => .error "catalog projection contains a non-finite number"

def stableJson : JsValue → Except String CodeUnits :=
  canonicalText stableNumber "catalog projection contains an unsupported JSON value"

/-- The projection, and the text that its digest is of. -/
def buildCatalogProjectionArguments [Runtime] (input : ProjectionInput) :
    Except String CatalogProjectionArguments :=
  if isPositiveVersion input.offer.canonicalVersion = false then
    .error "canonical offer version must be a positive safe integer"
  else do
    let text ← stableJson input.projected.value
    pure {
      requestId := input.requestId
      canonicalVersion := input.projected.canonicalVersion
      projectionDigest := Runtime.sha256 (bytesOfUnits text)
      scope := input.projected.scope
      offer := input.projected.offer
    }

variable {kind : JsNumber → Prop}

theorem stableNumber_text (number : JsNumber) (text : CodeUnits)
    (h : stableNumber number = .ok text) : text = number.text := by
  cases number <;> cases h <;> rfl

theorem stableJson_eq_iff {value other : JsValue} {text otherText : CodeUnits}
    (hvalue : value.IsTree kind) (hother : other.IsTree kind)
    (htext : stableJson value = .ok text) (hotherText : stableJson other = .ok otherText) :
    text = otherText ↔ Same value other :=
  canonicalText_eq_iff stableNumber_text hvalue hother htext hotherText

/-- A tree of finite numbers can be written. -/
theorem stableJson_succeeds {value : JsValue}
    (h : value.IsTree fun number => number.normal ≠ .null) :
    ∃ text, stableJson value = .ok text := by
  refine canonicalText_succeeds (isTree_mono ?_ h)
  intro number hnumber
  cases number with
  | finite value => exact ⟨_, rfl⟩
  | negativeZero => exact ⟨_, rfl⟩
  | infinite negative => exact absurd rfl hnumber
  | nan => exact absurd rfl hnumber

omit [NumberText] in
theorem areTrees_strings (texts : List CodeUnits) : AreTrees kind (texts.map .string) := by
  induction texts with
  | nil => trivial
  | cons text rest ih => exact ⟨trivial, ih⟩

theorem sameElements_strings {texts others : List CodeUnits}
    (h : SameElements (texts.map .string) (others.map .string)) : texts = others := by
  induction texts generalizing others with
  | nil =>
      cases others with
      | nil => rfl
      | cons other rest => simp [SameElements] at h
  | cons text rest ih =>
      cases others with
      | nil => simp [SameElements] at h
      | cons other tail =>
          simp only [List.map_cons, SameElements, List.cons.injEq, Same] at h
          obtain ⟨_, _, ⟨rfl, rfl⟩, hsame, hrest⟩ := h
          rw [JsValue.string.inj hsame, ih hrest]

omit [NumberText] in
theorem status_text_injective {status other : CatalogOfferStatus}
    (h : status.text = other.text) : status = other := by
  revert h
  cases status <;> cases other <;> decide +kernel

/-- Two versions of an offer that say the same. -/
structure ProjectedVersion.Agrees (projected other : ProjectedVersion) : Prop where
  canonicalVersion : projected.canonicalVersion.text = other.canonicalVersion.text
  scope : projected.scope = other.scope
  offerId : projected.offer.offerId = other.offer.offerId
  externalKey : projected.offer.externalKey = other.offer.externalKey
  displayName : projected.offer.displayName = other.offer.displayName
  attributes : Same projected.offer.attributes other.offer.attributes
  terms : Same projected.offer.terms other.offer.terms
  status : projected.offer.status = other.offer.status
  attachments : projected.offer.attachments = other.offer.attachments

namespace ProjectedVersion

variable {projected other : ProjectedVersion}

omit [NumberText] in
theorem isTree_value (hversion : kind projected.canonicalVersion)
    (hattributes : projected.offer.attributes.IsTree kind)
    (hterms : projected.offer.terms.IsTree kind) : projected.value.IsTree kind := by
  refine ⟨projected.nodup_fields, hversion, ?_, ?_, trivial⟩
  · exact ⟨projected.scope.nodup_fields, trivial, trivial, trivial, trivial⟩
  · exact ⟨projected.offer.nodup_fields, trivial, trivial, trivial, hattributes, hterms, trivial,
      areTrees_strings projected.offer.attachments, trivial⟩

theorem scope_of_same (h : Same projected.value other.value) : projected.scope = other.scope := by
  have hscope : Same (.object projected.scope.fields) (.object other.scope.fields) :=
    h.field (units "scope") other.nodup_fields (by simp [fields]) (by simp [fields])
  have htenant : projected.scope.tenantId = other.scope.tenantId :=
    hscope.text (units "tenant_id") other.scope.nodup_fields (by simp [ProjectionScope.fields])
      (by simp [ProjectionScope.fields])
  have hdomain : projected.scope.domainId = other.scope.domainId :=
    hscope.text (units "domain_id") other.scope.nodup_fields (by simp [ProjectionScope.fields])
      (by simp [ProjectionScope.fields])
  have hpath : projected.scope.platformPath = other.scope.platformPath :=
    hscope.text (units "platform_path") other.scope.nodup_fields (by simp [ProjectionScope.fields])
      (by simp [ProjectionScope.fields])
  cases hfirst : projected.scope
  cases hsecond : other.scope
  simp_all

theorem offer_of_same (h : Same projected.value other.value) :
    Same (.object projected.offer.fields) (.object other.offer.fields) :=
  h.field (units "offer") other.nodup_fields (by simp [fields]) (by simp [fields])

theorem attachments_of_same (h : Same projected.value other.value) :
    projected.offer.attachments = other.offer.attachments := by
  have hsame : Same (.array (projected.offer.attachments.map .string))
      (.array (other.offer.attachments.map .string)) :=
    (offer_of_same h).field (units "attachments") other.offer.nodup_fields
      (by simp [ProjectedOffer.fields]) (by simp [ProjectedOffer.fields])
  obtain ⟨others, hothers, helements⟩ := hsame
  obtain rfl := JsValue.array.inj hothers
  exact sameElements_strings helements

theorem agrees_of_same (h : Same projected.value other.value) : Agrees projected other where
  canonicalVersion := by
    have hsame : Same (.number projected.canonicalVersion) (.number other.canonicalVersion) :=
      h.field (units "canonical_version") other.nodup_fields (by simp [fields]) (by simp [fields])
    exact hsame
  scope := scope_of_same h
  offerId := (offer_of_same h).text (units "offer_id") other.offer.nodup_fields
    (by simp [ProjectedOffer.fields]) (by simp [ProjectedOffer.fields])
  externalKey := (offer_of_same h).text (units "external_key") other.offer.nodup_fields
    (by simp [ProjectedOffer.fields]) (by simp [ProjectedOffer.fields])
  displayName := (offer_of_same h).text (units "display_name") other.offer.nodup_fields
    (by simp [ProjectedOffer.fields]) (by simp [ProjectedOffer.fields])
  attributes := (offer_of_same h).field (units "attributes") other.offer.nodup_fields
    (by simp [ProjectedOffer.fields]) (by simp [ProjectedOffer.fields])
  terms := (offer_of_same h).field (units "terms") other.offer.nodup_fields
    (by simp [ProjectedOffer.fields]) (by simp [ProjectedOffer.fields])
  status := status_text_injective <|
    (offer_of_same h).text (units "status") other.offer.nodup_fields
      (by simp [ProjectedOffer.fields]) (by simp [ProjectedOffer.fields])
  attachments := attachments_of_same h

end ProjectedVersion

/-- Two versions of offers with one text are of the same number. -/
theorem version_eq_of_text {version other : JsNumber} (h : isPositiveVersion version = true)
    (h' : isPositiveVersion other = true) (htext : version.text = other.text) :
    version = other := by
  cases version with
  | finite value =>
      cases other with
      | finite otherValue =>
          have hjson : ∀ fraction : Rat, (JsValue.number (.finite fraction)).IsJson :=
            fun fraction => ⟨fraction, rfl⟩
          have hsame : JsValue.number (.finite value) = .number (.finite otherValue) :=
            (text_inj (hjson value) (hjson otherValue)).mp htext
          exact JsValue.number.inj hsame
      | _ => cases h'
  | _ => cases h

/-- A number that JSON has. -/
def IsFinite (number : JsNumber) : Prop := number.normal ≠ .null

variable [Runtime]

/-- What is sent besides the request and the digest. -/
def CatalogProjectionArguments.projected (arguments : CatalogProjectionArguments) :
    ProjectedVersion := ⟨arguments.canonicalVersion, arguments.scope, arguments.offer⟩

theorem projected_of_built {input : ProjectionInput} {arguments : CatalogProjectionArguments}
    (h : buildCatalogProjectionArguments input = .ok arguments) :
    isPositiveVersion input.projected.canonicalVersion = true ∧
      arguments.projected = input.projected ∧
      ∃ text, stableJson input.projected.value = .ok text ∧
        arguments.projectionDigest = Runtime.sha256 (bytesOfUnits text) := by
  rw [buildCatalogProjectionArguments, guard_eq_ok_iff] at h
  obtain ⟨hversion, h⟩ := h
  obtain ⟨text, htext, h⟩ := bind_eq_ok_iff.mp h
  obtain rfl := Except.ok.inj h
  exact ⟨(Bool.not_eq_false _).mp hversion, rfl, text, htext, rfl⟩

/-- The digest of a projection determines what it is about. -/
theorem agrees_of_digest (hinjective : Function.Injective (Runtime.sha256 : _ → CodeUnits))
    {input other : ProjectionInput} {arguments otherArguments : CatalogProjectionArguments}
    (hattributes : input.offer.attributes.IsTree fun _ => True)
    (hterms : input.offer.terms.IsTree fun _ => True)
    (hotherAttributes : other.offer.attributes.IsTree fun _ => True)
    (hotherTerms : other.offer.terms.IsTree fun _ => True)
    (h : buildCatalogProjectionArguments input = .ok arguments)
    (hother : buildCatalogProjectionArguments other = .ok otherArguments)
    (hdigest : arguments.projectionDigest = otherArguments.projectionDigest) :
    arguments.canonicalVersion = otherArguments.canonicalVersion ∧
      arguments.projected.Agrees otherArguments.projected := by
  obtain ⟨hversion, hprojected, text, htext, hhash⟩ := projected_of_built h
  obtain ⟨hotherVersion, hotherProjected, otherText, hotherText, hotherHash⟩ :=
    projected_of_built hother
  have hbytes : bytesOfUnits text = bytesOfUnits otherText :=
    hinjective (by rw [← hhash, ← hotherHash, hdigest])
  have hformed : WellFormed text := wellFormed_canonicalText stableNumber_text htext
  have hotherFormed : WellFormed otherText := wellFormed_canonicalText stableNumber_text hotherText
  have hsameText : text = otherText := by
    rw [← unitsOfBytes_bytesOfUnits hformed, hbytes, unitsOfBytes_bytesOfUnits hotherFormed]
  have hagrees : input.projected.Agrees other.projected := ProjectedVersion.agrees_of_same <|
    (stableJson_eq_iff (ProjectedVersion.isTree_value trivial hattributes hterms)
      (ProjectedVersion.isTree_value trivial hotherAttributes hotherTerms) htext hotherText).mp
      hsameText
  rw [← hprojected, ← hotherProjected] at hagrees
  rw [← hprojected] at hversion
  rw [← hotherProjected] at hotherVersion
  exact ⟨version_eq_of_text hversion hotherVersion hagrees.canonicalVersion, hagrees⟩

/-- Canonical texts are equal exactly for the same values; so what a node has signed determines
what is stored of its enrollment, and a digest determines the projection that it is of. -/
theorem canonicalTexts_determine :
    (∀ value other : JsValue, value.IsTree (fun _ => True) → other.IsTree (fun _ => True) →
      ∃ text otherText, canonicalJson value = .ok text ∧ canonicalJson other = .ok otherText ∧
        (text = otherText ↔ Same value other)) ∧
    (∀ value other : JsValue, value.IsTree IsFinite → other.IsTree IsFinite →
      ∃ text otherText, stableJson value = .ok text ∧ stableJson other = .ok otherText ∧
        (text = otherText ↔ Same value other)) ∧
    (∀ (document otherDocument : JsValue) (environment otherEnvironment : Option CodeUnits)
      (enrollment otherEnrollment : VerifiedFederationEnrollment),
      document.IsTree (fun _ => True) → otherDocument.IsTree (fun _ => True) →
      verifyFederationEnrollment document environment = .ok enrollment →
      verifyFederationEnrollment otherDocument otherEnvironment = .ok otherEnrollment →
      ∃ payload otherPayload, enrollment.statement.payload = .ok payload ∧
        otherEnrollment.statement.payload = .ok otherPayload ∧
        Runtime.verify (bytesOfUnits payload) (Runtime.decodeBase64 enrollment.publicKey)
          (Runtime.decodeBase64 enrollment.signature) = some true ∧
        (bytesOfUnits payload = bytesOfUnits otherPayload →
          enrollment.statement.Agrees otherEnrollment.statement)) ∧
    (Function.Injective (Runtime.sha256 : _ → CodeUnits) →
      ∀ (input other : ProjectionInput) (arguments otherArguments : CatalogProjectionArguments),
      input.offer.attributes.IsTree (fun _ => True) → input.offer.terms.IsTree (fun _ => True) →
      other.offer.attributes.IsTree (fun _ => True) → other.offer.terms.IsTree (fun _ => True) →
      buildCatalogProjectionArguments input = .ok arguments →
      buildCatalogProjectionArguments other = .ok otherArguments →
      arguments.projectionDigest = otherArguments.projectionDigest →
      arguments.canonicalVersion = otherArguments.canonicalVersion ∧
        arguments.projected.Agrees otherArguments.projected) := by
  refine ⟨?_, ?_, ?_, ?_⟩
  · intro value other hvalue hother
    obtain ⟨text, htext⟩ := canonicalJson_succeeds hvalue
    obtain ⟨otherText, hotherText⟩ := canonicalJson_succeeds hother
    exact ⟨text, otherText, htext, hotherText,
      canonicalJson_eq_iff hvalue hother htext hotherText⟩
  · intro value other hvalue hother
    obtain ⟨text, htext⟩ := stableJson_succeeds hvalue
    obtain ⟨otherText, hotherText⟩ := stableJson_succeeds hother
    exact ⟨text, otherText, htext, hotherText, stableJson_eq_iff hvalue hother htext hotherText⟩
  · intro document otherDocument environment otherEnvironment enrollment otherEnrollment
      hdocument hotherDocument h hother
    obtain ⟨hmanifest, hrecord, payload, hpayload, hverified⟩ := signed_of_accepted h
    obtain ⟨hotherManifest, hotherRecord, otherPayload, hotherPayload, _⟩ :=
      signed_of_accepted hother
    refine ⟨payload, otherPayload, hpayload, hotherPayload, hverified, fun hbytes => ?_⟩
    exact Statement.agrees_of_payload (isTree_manifest hdocument hmanifest hrecord)
      (isTree_manifest hotherDocument hotherManifest hotherRecord) hpayload hotherPayload hbytes
  · intro hinjective input other arguments otherArguments hattributes hterms hotherAttributes
      hotherTerms h hother hdigest
    exact agrees_of_digest hinjective hattributes hterms hotherAttributes hotherTerms h hother
      hdigest

end Digests

end MatchPlane.CatalogProjection
