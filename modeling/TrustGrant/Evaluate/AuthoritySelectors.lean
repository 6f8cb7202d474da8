import TrustGrant.Evaluate.Decision

/-!
# Authority selectors and authority identity

An authority identifier is stored in lower case, and a request lists it in that form. A
selector keeps the values of the document trimmed but in their own case, and matching
compares texts. A selector that lists an authority therefore matches its requests exactly
when it also covers the lower-case form.

The result is stated for the target and for the audience of a request that lists no other
value under the kind. The comparison of texts is then about one value, and the identifier is
known to be lower-cased.
-/

namespace TrustGrant

open Rust Limits Library Library.OrderedChecks

namespace SelectorContext

/-- A value of a kind that the context does not list yet can be inserted while there is
room for another kind. -/
theorem insert_new_kind (context : SelectorContext) (kindName value : String)
    (kind : SelectorKind) (named : SelectorKind.new kindName = .ok kind)
    (normalized : IsContextValue (Text.trim value))
    (fresh : ∀ entry ∈ context.entries, entry.kind.sameKind kind = false)
    (room : context.entries.length + 1 ≤ maxRequestSelectorKinds) :
    ∃ extended, context.insert kindName value = .ok extended ∧
      extended.entries.map SelectorValues.kind =
        context.entries.map SelectorValues.kind ++ [kind] := by
  have trimmed : normalizeContextValue "selector_context.value" value = .ok (Text.trim value) :=
    (normalize_context_value_ok_iff _ _ _).mpr ⟨rfl, normalized⟩
  have absent : context.entries.findIdx? (fun entry => entry.kind.sameKind kind) = none :=
    List.findIdx?_eq_none_iff.mpr fresh
  unfold insert
  rw [named]
  simp only
  split
  · rename_i problem failed
    rw [trimmed] at failed
    cases failed
  · rename_i stored accepted
    obtain rfl := Except.ok.inj (trimmed.symm.trans accepted)
    unfold insertValidated
    split
    · rename_i position found
      rw [absent] at found
      cases found
    · rw [dif_pos room]
      exact ⟨_, rfl, by simp [pushEntry, SelectorValues.single]⟩

end SelectorContext

/-- An authority identifier is not empty: it contains a colon. So it may be a selector value when
it is short enough. -/
theorem AuthorityId.not_empty (authority : AuthorityId) :
    Text.isEmpty authority.value = false := by
  have located := authority.located
  unfold Text.find at located
  split at located
  · rename_i present
    unfold Text.isEmpty
    cases chars : authority.value.toList with
    | nil =>
      rw [chars] at present
      cases present
    | cons first rest => rfl
  · cases located

/-- An authority identifier within the value limit can be listed by a context. -/
theorem AuthorityId.is_context_value (authority : AuthorityId)
    (short : Text.len authority.value ≤ maxRequestSelectorValueBytes) :
    IsContextValue authority.value := ⟨authority.not_empty, short⟩

namespace EvaluationRequest

/-- The context of an authority within the value limit can be built, and it lists that
authority alone. -/
theorem authority_context_built (authority : AuthorityId)
    (short : Text.len authority.value ≤ maxRequestSelectorValueBytes) :
    ∃ context, authorityContext authority = .ok context ∧
      ∀ value ∈ context.valueSet .authority, value = authority.value := by
  have trimmed := Text.trim_token authority.value authority.token
  have normalized : IsContextValue (Text.trim authority.value) := by
    rw [trimmed]
    exact authority.is_context_value short
  have namedFirst : ∃ kind, SelectorKind.new "authority" = .ok kind := ⟨_, rfl⟩
  have namedSecond : ∃ kind, SelectorKind.new "authority_id" = .ok kind := ⟨_, rfl⟩
  obtain ⟨firstKind, namedFirst⟩ := namedFirst
  obtain ⟨secondKind, namedSecond⟩ := namedSecond
  have apart : firstKind.sameKind secondKind = false := by
    have compared : (SelectorKind.new "authority").toOption.bind (fun first =>
        (SelectorKind.new "authority_id").toOption.map (first.sameKind ·)) = some false := by
      decide
    rw [namedFirst, namedSecond] at compared
    exact Option.some.inj compared
  obtain ⟨first, insertedFirst, firstKinds⟩ := SelectorContext.new.insert_new_kind "authority"
    authority.value firstKind namedFirst normalized (fun entry listed => by cases listed)
    (by decide)
  have firstEntries : first.entries.length = 1 := by
    simpa [SelectorContext.new] using congrArg List.length firstKinds
  obtain ⟨second, insertedSecond, -⟩ := first.insert_new_kind "authority_id" authority.value
    secondKind namedSecond normalized (fun entry listed => by
      have kindListed := List.mem_map_of_mem (f := SelectorValues.kind) listed
      rw [firstKinds] at kindListed
      rw [List.mem_singleton.mp kindListed]
      exact apart)
    (by rw [firstEntries]; decide)
  refine ⟨second, (Results.bind_ok_iff _ _ _).mpr ⟨first, insertedFirst, insertedSecond⟩, ?_⟩
  intro value member
  obtain ⟨_, -, -, secondSets⟩ := first.insert_value_set _ _ second insertedSecond
  obtain ⟨_, -, -, firstSets⟩ := SelectorContext.new.insert_value_set _ _ first insertedFirst
  rw [secondSets, firstSets, trimmed] at member
  rcases member with (⟨entry, listed, -⟩ | ⟨-, same⟩) | ⟨-, same⟩
  · cases listed
  · exact same
  · exact same

/-- A request of an authority within the value limit can be made that lists no other. Target and
audience are the same here, so one built context serves for both. -/
theorem request_of_authority (operation : RequestedOperation) (binding : ResourceBinding)
    (authority : AuthorityId) (resource : ResourceContext) (evaluatedAt : DateTime)
    (short : Text.len authority.value ≤ maxRequestSelectorValueBytes) :
    ∃ request, new operation binding authority authority resource evaluatedAt = .ok request ∧
      request.targetAuthority = authority ∧ request.audienceAuthority = authority ∧
      (∀ value ∈ request.targetContext.valueSet .authority, value = authority.value) ∧
      ∀ value ∈ request.audienceContext.valueSet .authority, value = authority.value := by
  obtain ⟨context, built, alone⟩ := authority_context_built authority short
  unfold new
  split
  · rename_i problem failed
    rw [built] at failed
    cases failed
  · rename_i targetContext targetBuilt
    obtain rfl := Except.ok.inj (built.symm.trans targetBuilt)
    split
    · rename_i problem failed
      cases failed
    · rename_i audienceContext audienceBuilt
      obtain rfl := Except.ok.inj audienceBuilt
      exact ⟨_, rfl, rfl, rfl, alone, alone⟩

end EvaluationRequest

/-- A selector covers an authority text: it lists the text, or one of its expressions
matches it. -/
def Covers (selector : ValidatedSelector) (text : String) : Prop :=
  text ∈ selector.values ∨
    ∃ expression ∈ selector.expressions, expression.matchesCandidate text = true

/-- A selector of authorities selects a context that lists a covered authority, and one
that lists a single authority only if it covers that. -/
theorem selects_authority_iff (selector : ValidatedSelector) (context : SelectorContext)
    (ofAuthority : selector.kind.sameKind .authority = true) (partly : selector.all = false)
    (text : String) (listed : text ∈ context.valueSet .authority)
    (alone : ∀ value ∈ context.valueSet .authority, value = text) :
    Selects selector context ↔ Covers selector text := by
  unfold Selects Covers
  rw [context.value_set_same_kind _ _ ofAuthority, partly]
  constructor
  · rintro (impossible | ⟨value, member, covered⟩)
    · cases impossible
    · rw [alone value member] at covered
      exact covered
  · intro covered
    exact .inr ⟨text, listed, covered⟩

/-- A covered authority is selected whatever else its context lists. -/
theorem selects_of_covers (selector : ValidatedSelector) (context : SelectorContext)
    (ofAuthority : selector.kind.sameKind .authority = true) (text : String)
    (listed : text ∈ context.valueSet .authority) (covered : Covers selector text) :
    Selects selector context := by
  refine .inr ⟨text, ?_, covered⟩
  rw [context.value_set_same_kind _ _ ofAuthority]
  exact listed

/-- Normalized values are the trimmed ones. -/
theorem normalized_values (written : Option (List String)) (values : List String)
    (normalized : normalizeNonEmptyStrings written = .ok values) (value : String) :
    value ∈ values ↔ ∃ original ∈ written.getD [], Text.trim original = value := by
  obtain ⟨done, -, remaining⟩ := (Results.bind_ok_iff _ _ _).mp normalized
  obtain ⟨trimmed, mapped, returned⟩ := (Results.bind_ok_iff _ _ _).mp remaining
  obtain rfl := (Results.pure_ok_iff _ _).mp returned
  rw [Results.map_list_ok_iff] at mapped
  have pointwise : ∀ original result, normalizeNonEmptyString "selector.value" original
      (some maxSelectorValueBytes) = .ok result → Text.trim original = result := by
    intro original result succeeded
    obtain ⟨kept, isTrimmed, limited⟩ := (Results.bind_ok_iff _ _ _).mp succeeded
    obtain ⟨-, -, returned⟩ := (Results.bind_ok_iff _ _ _).mp limited
    rw [← (Results.pure_ok_iff _ _).mp returned]
    exact ((normalize_non_empty_ok_iff _ _ _).mp isTrimmed).1.symm
  have trimmedList : (written.getD []).map Text.trim = trimmed := by
    have related := List.forall₂_map_left_iff.mpr (mapped.imp pointwise)
    rwa [List.forall₂_eq_eq_eq] at related
  rw [List.mem_eraseDups, ← trimmedList, List.mem_map]

/-- A validated selector lists the trimmed values of the wire selector. Validation drops equal
values and changes no membership beyond trimming. -/
theorem validated_values (raw : RawSelector) (selector : ValidatedSelector)
    (validated : validateSelector raw = .ok selector) (value : String) :
    value ∈ selector.values ↔ ∃ written ∈ raw.values.getD [], Text.trim written = value := by
  obtain ⟨kind, -, afterKind⟩ := (Results.bind_ok_iff _ _ _).mp validated
  obtain ⟨values, normalized, afterValues⟩ := (Results.bind_ok_iff _ _ _).mp afterKind
  obtain ⟨expressions, -, built⟩ := (Results.bind_ok_iff _ _ _).mp afterValues
  have sameValues : selector.values = values := by
    unfold ValidatedSelector.new at built
    split at built
    · cases built
      rfl
    · cases built
  rw [sameValues]
  exact normalized_values raw.values values normalized value

/-- A selector that lists a value lists something. -/
theorem partly_of_listed (selector : ValidatedSelector) (value : String)
    (listed : value ∈ selector.values) : selector.all = false := by
  cases everything : selector.all with
  | false => rfl
  | true =>
    rw [(selector.shape.mp everything).1] at listed
    cases listed

/-- A selector of authorities matches every request of an authority exactly when it covers
the authority's text or no request can list that. The request's authority and context are
its target's or its audience's. -/
theorem matches_every_request_iff (authorityOf : EvaluationRequest → AuthorityId)
    (contextOf : EvaluationRequest → SelectorContext)
    (listed : ∀ request, (authorityOf request).value ∈ (contextOf request).valueSet .authority)
    (single : ∀ authority : AuthorityId,
      Text.len authority.value ≤ maxRequestSelectorValueBytes →
        ∃ request, authorityOf request = authority ∧
          ∀ value ∈ (contextOf request).valueSet .authority, value = authority.value)
    (selector : ValidatedSelector) (ofAuthority : selector.kind.sameKind .authority = true)
    (partly : selector.all = false) (authority : AuthorityId) :
    (∀ request, authorityOf request = authority →
        selectorMatchesContext selector (contextOf request) = true) ↔
      (Text.len authority.value ≤ maxRequestSelectorValueBytes →
        Covers selector authority.value) := by
  constructor
  · intro matched short
    obtain ⟨request, ofRequest, alone⟩ := single authority short
    have selected := (selector_matches_iff _ _).mp (matched request ofRequest)
    exact (selects_authority_iff selector _ ofAuthority partly authority.value
      (ofRequest ▸ listed request) alone).mp selected
  · rintro covers request rfl
    have short := ((contextOf request).value_normalized _ _ (listed request)).2
    exact (selector_matches_iff _ _).mpr
      (selects_of_covers selector _ ofAuthority _ (listed request) (covers short))

/-- A request that a deny selector of the target scope or of the applying audience scope
matches is not allowed. -/
theorem not_allowed_of_denied (grant : VerifiedTrustGrant) (request : EvaluationRequest)
    (selector : ValidatedSelector)
    (denied : (selector ∈ grant.document.targetScope.deny ∧
        selectorMatchesContext selector request.targetContext = true) ∨
      ∃ entry, audienceEntry grant request = some entry ∧ selector ∈ entry.scope.deny ∧
        selectorMatchesContext selector request.audienceContext = true) :
    (evaluate grant request).decision.isAllowed = false := by
  cases decided : (evaluate grant request).decision.isAllowed with
  | false => rfl
  | true =>
    have required := (allowed_iff_requirements grant request).mp decided
    simp only [requirements, targetChecks, scopeChecks, audienceChecks, hold_append, hold_cons]
      at required
    obtain ⟨⟨⟨⟨⟨⟨⟨-, -, -, notTargetDenied, -⟩, -⟩, -⟩, -⟩, -⟩, -, -, notAudienceDenied, -⟩, -⟩ :=
      required
    rcases denied with ⟨listed, matched⟩ | ⟨entry, found, listed, matched⟩
    · exact absurd ⟨selector, listed, (selector_matches_iff _ _).mp matched⟩ notTargetDenied
    · exact absurd ⟨selector, listed, (selector_matches_iff _ _).mp matched⟩
        (notAudienceDenied entry found)

/-- What it takes for a selector to agree with the identity of an authority written as
the value: it covers the lower-case form, unless that form is too long for a request. -/
def AgreesWithIdentity (mapping : Text.CaseMapping) (raw : RawSelector)
    (selector : ValidatedSelector) (value : String) : Prop :=
  Text.len (mapping.toLowercase (Text.trim value)) ≤ maxRequestSelectorValueBytes →
    (∃ written ∈ raw.values.getD [],
      Text.trim written = mapping.toLowercase (Text.trim value)) ∨
    ∃ expression ∈ selector.expressions,
      expression.matchesCandidate (mapping.toLowercase (Text.trim value)) = true

/-- A selector of authorities that lists a value matches every request of the authority
the value names exactly when it agrees with that authority's identity. Then, listed as
denied in a target scope or in the scope of the audience entry that applies, it denies
every request of that authority.

Proof: a request lists its authority in lower case, and one can be made that lists nothing else,
if the identifier is short enough to be a value. So the selector matches all of them exactly when
it covers this form. What a matching deny entry does is one of the requirements. -/
theorem authority_selector_matches_iff (mapping : Text.CaseMapping) (raw : RawSelector)
    (selector : ValidatedSelector) (validated : validateSelector raw = .ok selector)
    (ofAuthority : selector.kind.sameKind .authority = true) (value : String)
    (written : value ∈ raw.values.getD []) (authority : AuthorityId)
    (identified : AuthorityId.new mapping value = .ok authority) :
    ((∀ request : EvaluationRequest, request.targetAuthority = authority →
        selectorMatchesContext selector request.targetContext = true) ↔
      AgreesWithIdentity mapping raw selector value) ∧
    ((∀ request : EvaluationRequest, request.audienceAuthority = authority →
        selectorMatchesContext selector request.audienceContext = true) ↔
      AgreesWithIdentity mapping raw selector value) ∧
    (AgreesWithIdentity mapping raw selector value →
      ∀ (grant : VerifiedTrustGrant) (request : EvaluationRequest),
        selector ∈ grant.document.targetScope.deny → request.targetAuthority = authority →
          (evaluate grant request).decision.isAllowed = false) ∧
    (AgreesWithIdentity mapping raw selector value →
      ∀ (grant : VerifiedTrustGrant) (request : EvaluationRequest) (entry : ValidatedAudienceEntry),
        audienceEntry grant request = some entry → selector ∈ entry.scope.deny →
          request.audienceAuthority = authority →
            (evaluate grant request).decision.isAllowed = false) := by
  have lowered := (AuthorityId.new_value mapping value authority identified).1
  have partly := partly_of_listed selector (Text.trim value)
    ((validated_values raw selector validated _).mpr ⟨value, written, rfl⟩)
  have agrees : AgreesWithIdentity mapping raw selector value ↔
      (Text.len authority.value ≤ maxRequestSelectorValueBytes →
        Covers selector authority.value) := by
    rw [AgreesWithIdentity, Covers, validated_values raw selector validated, lowered]
  have made (other : AuthorityId)
      (short : Text.len other.value ≤ maxRequestSelectorValueBytes) :=
    EvaluationRequest.request_of_authority (.capability .recognize)
      (.existing (.new other "r")) other (Results.valueOf (ResourceContext.new "r") (by decide))
      ⟨0, 0, by decide, by decide, by decide⟩ short
  have target := matches_every_request_iff EvaluationRequest.targetAuthority
    EvaluationRequest.targetContext EvaluationRequest.targetListed (fun other short => by
      obtain ⟨request, -, ofTarget, -, alone, -⟩ := made other short
      exact ⟨request, ofTarget, alone⟩) selector ofAuthority partly authority
  have audience := matches_every_request_iff EvaluationRequest.audienceAuthority
    EvaluationRequest.audienceContext EvaluationRequest.audienceListed (fun other short => by
      obtain ⟨request, -, -, ofAudience, -, alone⟩ := made other short
      exact ⟨request, ofAudience, alone⟩) selector ofAuthority partly authority
  rw [← agrees] at target audience
  refine ⟨target, audience, ?_, ?_⟩
  · intro agreed grant request listed ofTarget
    exact not_allowed_of_denied grant request selector
      (.inl ⟨listed, target.mpr agreed request ofTarget⟩)
  · intro agreed grant request entry found listed ofAudience
    exact not_allowed_of_denied grant request selector
      (.inr ⟨entry, found, listed, audience.mpr agreed request ofAudience⟩)

/-- A selector that lists an authority in lower case matches a request of it. This is the side of
the condition on which the comparison of spellings does what it should. -/
theorem lower_case_selector_matches :
    smallRecognition.targetAuthority =
        Results.valueOf (AuthorityId.new Text.asciiCaseMapping "did:t") (by decide +kernel) ∧
      selectorMatchesContext
        (Results.valueOf (validateSelector (smallSelector "did:t")) (by decide +kernel))
        smallRecognition.targetContext = true := by
  have ofTarget : smallRecognition.targetAuthority =
      Results.valueOf (AuthorityId.new Text.asciiCaseMapping "did:t") (by decide +kernel) := by
    decide +kernel
  exact ⟨ofTarget, (authority_selector_matches_iff Text.asciiCaseMapping (smallSelector "did:t")
    (Results.valueOf (validateSelector (smallSelector "did:t")) (by decide +kernel))
    (Results.value_of_eq _ _) (by decide +kernel) "did:t" (List.mem_singleton.mpr rfl)
    (Results.valueOf (AuthorityId.new Text.asciiCaseMapping "did:t") (by decide +kernel))
    (Results.value_of_eq _ _)).1.mpr
    (fun _ => .inl ⟨"did:t", List.mem_singleton.mpr rfl, by decide +kernel⟩)
    smallRecognition ofTarget⟩

/-- A grant that denies one target authority, written in capitals. -/
def grantDenyingCapitals : VerifiedTrustGrant :=
  .new (.ofValidated (Results.valueOf
    (ValidatedTrustGrantDocument.tryFrom Text.asciiCaseMapping
      (smallDocument ⟨true, none, some [smallSelector "DID:T"]⟩ none none))
    (by decide +kernel))) smallMetadata

/-- The denied authority is allowed: its selector is kept in capitals and its request lists it in
lower case. Values of selectors are compared as they are spelled, and identifiers of authorities
are lower-cased when they are made. -/
theorem capitals_not_denied :
    (AuthorityId.new Text.asciiCaseMapping "DID:T").toOption =
        some smallRecognition.targetAuthority ∧
      (grantDenyingCapitals.document.targetScope.deny.map fun selector =>
        (selector.kind.sameKind .authority, selector.values)) = [(true, ["DID:T"])] ∧
      (grantDenyingCapitals.document.targetScope.deny.any fun selector =>
        selectorMatchesContext selector smallRecognition.targetContext) = false ∧
      (evaluate grantDenyingCapitals smallRecognition).decision.isAllowed = true := by
  refine ⟨?_, ?_, ?_, ?_⟩ <;> decide +kernel

end TrustGrant
