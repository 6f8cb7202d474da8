import TrustGrant.Evaluate.AuthoritySelectors

/-!
# Requests of every authority

An authority identifier may be longer than a selector value. A request lists its authorities
as selector values, so it can be made exactly when both of them are within the smaller
limit. Its contexts then list them under the two kinds of authorities and nothing else.

The constructor of requests is inverted once for the success and once for its error. The
context of one authority decides both, since the target and the audience are treated alike.
-/

namespace TrustGrant

open Rust Limits Library

/-- The user-defined kind that lists authorities as well. -/
def SelectorKind.authorityId : SelectorKind where
  classification := .other
  value := ⟨"authority_id", by decide, by decide, by decide⟩
  classified := by decide

/-- The context lists one authority, under its two kinds and alone. This is what a new request
has before selectors are added. -/
def ListsExactly (context : SelectorContext) (authority : AuthorityId) : Prop :=
  ∀ kind values, context.valuesForKind kind = some values ↔
    (SelectorKind.authority.sameKind kind = true ∨ SelectorKind.authorityId.sameKind kind = true) ∧
      values = [authority.value]

/-- A list without duplicates of one value is that value. -/
theorem singleton_of_nodup {α : Type} (values : List α) (value : α) (distinct : values.Nodup)
    (only : ∀ other, other ∈ values ↔ other = value) : values = [value] := by
  cases values with
  | nil => exact absurd ((only value).mpr rfl) List.not_mem_nil
  | cons first rest =>
    obtain rfl := (only first).mp List.mem_cons_self
    obtain ⟨notLater, -⟩ := List.nodup_cons.mp distinct
    have nothing : rest = [] := by
      refine List.eq_nil_iff_forall_not_mem.mpr fun other later => notLater ?_
      rwa [(only other).mp (List.mem_cons_of_mem _ later)] at later
    rw [nothing]

namespace EvaluationRequest

/-- The context made for an authority lists it exactly. -/
theorem authority_context_exact (authority : AuthorityId) (context : SelectorContext)
    (built : authorityContext authority = .ok context) : ListsExactly context authority := by
  obtain ⟨first, insertedFirst, insertedSecond⟩ := (Results.bind_ok_iff _ _ _).mp built
  have namedFirst : SelectorKind.new "authority" = .ok .authority :=
    SelectorKind.new_of_as_str .authority
  have namedSecond : SelectorKind.new "authority_id" = .ok .authorityId :=
    SelectorKind.new_of_as_str .authorityId
  have trimmed : Text.trim authority.asStr = authority.value :=
    Text.trim_token authority.value authority.token
  have sets : ∀ kind value, value ∈ context.valueSet kind ↔
      (SelectorKind.authority.sameKind kind = true ∨
        SelectorKind.authorityId.sameKind kind = true) ∧ value = authority.value := by
    intro kind value
    obtain ⟨second, isSecond, -, secondSets⟩ := first.insert_value_set _ _ context insertedSecond
    obtain ⟨other, isFirst, -, firstSets⟩ :=
      SelectorContext.new.insert_value_set _ _ first insertedFirst
    obtain rfl := Except.ok.inj (namedSecond.symm.trans isSecond)
    obtain rfl := Except.ok.inj (namedFirst.symm.trans isFirst)
    have nothing : value ∉ SelectorContext.new.valueSet kind := by
      rintro ⟨entry, listed, -⟩
      cases listed
    rw [secondSets, firstSets, trimmed]
    simp only [nothing, false_or, or_and_right]
  intro kind values
  rw [context.values_for_kind_some_iff]
  constructor
  · rintro ⟨entry, listed, same, rfl⟩
    have ofKind : ∀ value, value ∈ entry.values ↔ value ∈ context.valueSet kind := by
      intro value
      constructor
      · exact fun member => ⟨entry, listed, same, member⟩
      · rintro ⟨other, otherListed, otherSame, member⟩
        rwa [context.entry_unique entry other listed otherListed (SelectorKind.same_kind_trans _ _ _
          same (SelectorKind.same_kind_symm _ _ otherSame))]
    obtain ⟨value, member⟩ := List.exists_mem_of_ne_nil _ entry.present
    have isAuthority := ((sets kind value).mp ((ofKind value).mp member)).1
    refine ⟨isAuthority, singleton_of_nodup _ _ entry.distinct fun other => ?_⟩
    rw [ofKind, sets]
    simp [isAuthority]
  · rintro ⟨isAuthority, rfl⟩
    obtain ⟨entry, listed, same, member⟩ := (sets kind _).mpr ⟨isAuthority, rfl⟩
    refine ⟨entry, listed, same, singleton_of_nodup _ _ entry.distinct fun other => ?_⟩
    constructor
    · exact fun inside => ((sets kind other).mp ⟨entry, listed, same, inside⟩).2
    · rintro rfl
      exact member

/-- An authority that is too long for a selector value has no context. -/
theorem authority_context_too_long (authority : AuthorityId)
    (long : ¬ Text.len authority.value ≤ maxRequestSelectorValueBytes) :
    authorityContext authority =
      .error (.stringTooLong "selector_context.value" maxRequestSelectorValueBytes) := by
  have trimmed : Text.trim authority.asStr = authority.value :=
    Text.trim_token authority.value authority.token
  have present : normalizeNonEmpty "selector_context.value" authority.asStr =
      .ok authority.value :=
    (normalize_non_empty_ok_iff _ _ _).mpr ⟨trimmed.symm, authority.not_empty⟩
  have rejected : normalizeContextValue "selector_context.value" authority.asStr =
      .error (.stringTooLong "selector_context.value" maxRequestSelectorValueBytes) := by
    rw [normalizeContextValue, present]
    show (ensureStringLimit _ _ _ >>= _) = _
    rw [ensureStringLimit, Results.rejectIf, if_pos (Nat.lt_of_not_le long)]
    rfl
  have named : SelectorKind.new "authority" = .ok .authority :=
    SelectorKind.new_of_as_str .authority
  have inserted : SelectorContext.new.insert "authority" authority.asStr =
      .error (.stringTooLong "selector_context.value" maxRequestSelectorValueBytes) := by
    unfold SelectorContext.insert
    rw [named]
    simp only
    split
    · rename_i problem failed
      rw [rejected] at failed
      cases failed
      rfl
    · rename_i value accepted
      rw [rejected] at accepted
      cases accepted
  rw [authorityContext, inserted]
  rfl

/-- A request is made when the contexts of its authorities are, and it holds them. -/
theorem new_of_contexts (operation : RequestedOperation) (binding : ResourceBinding)
    (target audience : AuthorityId) (resource : ResourceContext) (evaluatedAt : DateTime)
    (targetContext audienceContext : SelectorContext)
    (targetBuilt : authorityContext target = .ok targetContext)
    (audienceBuilt : authorityContext audience = .ok audienceContext) :
    ∃ request, new operation binding target audience resource evaluatedAt = .ok request ∧
      request.targetContext = targetContext ∧ request.audienceContext = audienceContext := by
  unfold new
  split
  · rename_i problem failed
    rw [targetBuilt] at failed
    cases failed
  · rename_i context built
    obtain rfl := Except.ok.inj (targetBuilt.symm.trans built)
    split
    · rename_i problem failed
      rw [audienceBuilt] at failed
      cases failed
    · rename_i context built
      obtain rfl := Except.ok.inj (audienceBuilt.symm.trans built)
      exact ⟨_, rfl, rfl, rfl⟩

/-- Without a context for one of its authorities no request is made. -/
theorem new_of_error (operation : RequestedOperation) (binding : ResourceBinding)
    (target audience : AuthorityId) (resource : ResourceContext) (evaluatedAt : DateTime)
    (problem : TrustGrantError)
    (failed : authorityContext target = .error problem ∨
      (∃ context, authorityContext target = .ok context) ∧
        authorityContext audience = .error problem) :
    new operation binding target audience resource evaluatedAt = .error problem := by
  unfold new
  split
  · rename_i other targetFailed
    rcases failed with first | ⟨⟨context, built⟩, -⟩
    · rw [targetFailed] at first
      cases first
      rfl
    · rw [targetFailed] at built
      cases built
  · rename_i context built
    rcases failed with first | ⟨-, second⟩
    · rw [built] at first
      cases first
    · split
      · rename_i other audienceFailed
        rw [audienceFailed] at second
        cases second
        rfl
      · rename_i context built
        rw [built] at second
        cases second

/-- A request of two authorities can be made and lists exactly them. It is about the constructor
and says nothing about what is decided. -/
def Evaluable (operation : RequestedOperation) (binding : ResourceBinding)
    (target audience : AuthorityId) (resource : ResourceContext) (evaluatedAt : DateTime) : Prop :=
  ∃ request, new operation binding target audience resource evaluatedAt = .ok request ∧
    ListsExactly request.targetContext target ∧ ListsExactly request.audienceContext audience

/-- Two authorities can be evaluated exactly when both are within the limit of selector
values; otherwise the constructor reports the selector value as too long. The context of an
authority within the limit is built and lists nothing else, and that of a longer one fails
with this error. -/
theorem evaluable_iff (operation : RequestedOperation) (binding : ResourceBinding)
    (target audience : AuthorityId) (resource : ResourceContext) (evaluatedAt : DateTime) :
    (Evaluable operation binding target audience resource evaluatedAt ↔
      Text.len target.value ≤ maxRequestSelectorValueBytes ∧
        Text.len audience.value ≤ maxRequestSelectorValueBytes) ∧
    (¬ Evaluable operation binding target audience resource evaluatedAt →
      new operation binding target audience resource evaluatedAt =
        .error (.stringTooLong "selector_context.value" maxRequestSelectorValueBytes)) := by
  have short : Text.len target.value ≤ maxRequestSelectorValueBytes →
      Text.len audience.value ≤ maxRequestSelectorValueBytes →
      Evaluable operation binding target audience resource evaluatedAt := by
    intro shortTarget shortAudience
    obtain ⟨targetContext, targetBuilt, -⟩ := authority_context_built target shortTarget
    obtain ⟨audienceContext, audienceBuilt, -⟩ := authority_context_built audience shortAudience
    obtain ⟨request, made, rfl, rfl⟩ := new_of_contexts operation binding target audience resource
      evaluatedAt targetContext audienceContext targetBuilt audienceBuilt
    exact ⟨request, made, authority_context_exact target _ targetBuilt,
      authority_context_exact audience _ audienceBuilt⟩
  have long : ¬ (Text.len target.value ≤ maxRequestSelectorValueBytes ∧
        Text.len audience.value ≤ maxRequestSelectorValueBytes) →
      new operation binding target audience resource evaluatedAt =
        .error (.stringTooLong "selector_context.value" maxRequestSelectorValueBytes) := by
    intro notBoth
    apply new_of_error
    by_cases shortTarget : Text.len target.value ≤ maxRequestSelectorValueBytes
    · obtain ⟨context, built, -⟩ := authority_context_built target shortTarget
      exact .inr ⟨⟨context, built⟩,
        authority_context_too_long audience fun within => notBoth ⟨shortTarget, within⟩⟩
    · exact .inl (authority_context_too_long target shortTarget)
  have exact : Evaluable operation binding target audience resource evaluatedAt ↔
      Text.len target.value ≤ maxRequestSelectorValueBytes ∧
        Text.len audience.value ≤ maxRequestSelectorValueBytes := by
    constructor
    · rintro ⟨request, made, -⟩
      by_contra notBoth
      rw [long notBoth] at made
      cases made
    · exact fun ⟨shortTarget, shortAudience⟩ => short shortTarget shortAudience
  exact ⟨exact, fun notEvaluable => long fun both => notEvaluable (exact.mpr both)⟩

/-- An identifier whose method-specific part has so many letters. -/
def methodIdentifier (letters : Nat) : String :=
  String.ofList ('d' :: 'i' :: 'd' :: ':' :: List.replicate letters 'a')

/-- The length of such an identifier, in bytes. -/
theorem method_identifier_len (letters : Nat) :
    Text.len (methodIdentifier letters) = letters + 4 := by
  have part : Text.len (String.ofList (List.replicate letters 'a')) = letters := by
    induction letters with
    | zero => rfl
    | succ letters inductionHypothesis =>
      rw [List.replicate_succ, Text.len_of_list_cons, inductionHypothesis]
      exact Nat.add_comm 1 letters
  simp only [methodIdentifier, Text.len_of_list_cons, part]
  change 1 + (1 + (1 + (1 + letters))) = letters + 4
  omega

/-- An authority of a given length, up to the limit. -/
def methodAuthority (letters : Nat) (within : letters + 4 ≤ maxAuthorityIdBytes) :
    AuthorityId where
  value := methodIdentifier letters
  schemeEnd := 3
  scheme := .did
  token := by
    have letter : Text.isTokenChar 'a' = true := by decide
    rw [Text.IsToken, methodIdentifier, String.toList_ofList]
    simp only [List.forall_mem_cons, List.mem_replicate, and_imp]
    exact ⟨by decide, by decide, by decide, by decide, fun c _ isLetter => isLetter ▸ letter⟩
  withinLimit := by
    rw [method_identifier_len]
    exact within
  located := by
    rw [Text.find, methodIdentifier, Text.before, String.toList_ofList]
    rfl
  schemePresent := by decide
  classified := by
    have name : Text.before (methodIdentifier letters) ':' = "did" := by
      rw [Text.before, methodIdentifier, String.toList_ofList]
      rfl
    rw [name]
    decide

/-- The constructor of identifiers accepts such a text as it stands. It is in lower case and has
a method, so nothing is changed. -/
theorem method_authority_accepted (letters : Nat) (within : letters + 4 ≤ maxAuthorityIdBytes) :
    AuthorityId.new Text.asciiCaseMapping (methodIdentifier letters) =
      .ok (methodAuthority letters within) := by
  apply AuthorityId.new_of_value Text.asciiCaseMapping (methodAuthority letters within)
  change Text.toAsciiLowercase (methodIdentifier letters) = methodIdentifier letters
  rw [Text.toAsciiLowercase, methodIdentifier, String.toList_ofList]
  simp only [List.map_cons, List.map_replicate]
  rfl

/-- It has no context when it is too long for a selector value. The constructor of contexts
reports the length of the value and not of the identifier. -/
theorem method_authority_too_long (letters : Nat) (within : letters + 4 ≤ maxAuthorityIdBytes)
    (long : maxRequestSelectorValueBytes < letters + 4) :
    authorityContext (methodAuthority letters within) =
      .error (.stringTooLong "selector_context.value" maxRequestSelectorValueBytes) := by
  apply authority_context_too_long
  change ¬ Text.len (methodIdentifier letters) ≤ _
  rw [method_identifier_len]
  exact Nat.not_le_of_lt long

/-- An identifier of 257 bytes is accepted, and no request of its authority can be made.
Identifiers may be longer than selector values, and the constructor lists the identifier as such
a value. -/
theorem long_authority_not_evaluable :
    AuthorityId.new Text.asciiCaseMapping (methodIdentifier 253) =
        .ok (methodAuthority 253 (by decide)) ∧
      ¬ Evaluable (.capability .recognize)
        (.existing (.new (methodAuthority 253 (by decide)) "r")) (methodAuthority 253 (by decide))
        (methodAuthority 253 (by decide)) (Results.valueOf (ResourceContext.new "r") (by decide))
        ⟨0, 0, by decide, by decide, by decide⟩ := by
  refine ⟨method_authority_accepted 253 (by decide), ?_⟩
  rintro ⟨request, made, -⟩
  rw [new_of_error _ _ _ _ _ _ _ (.inl (method_authority_too_long 253 (by decide) (by decide)))]
    at made
  cases made

end EvaluationRequest

end TrustGrant
