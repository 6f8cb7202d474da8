import TrustGrant.Verify.SignatureCoverage
import TrustGrant.Evaluate.Decision
import TrustGrant.Evaluate.Monotonicity
import TrustGrant.Evaluate.AuthoritySelectors
import TrustGrant.Evaluate.AuthorizationTimes
import TrustGrant.Evaluate.Insertions
import TrustGrant.Evaluate.Rearrangement
import TrustGrant.Execute.Quota
import TrustGrant.Execute.PrincipalQuota
import TrustGrant.Execute.Integrity
import TrustGrant.Execute.Atomicity
import TrustGrant.Execute.Replay
import TrustGrant.Execute.Retry
import TrustGrant.Execute.Envelope
import TrustGrant.Execute.Binding
import TrustGrant.Execute.Availability
import TrustGrant.Execute.Isolation
import TrustGrant.Execute.Journal
import TrustGrant.Execute.Revoked
import TrustGrant.Ownership.Coverage
import TrustGrant.Ownership.TransitionCoverage
import TrustGrant.Ownership.HistoryPoints
import TrustGrant.Revocation.Freshness
import TrustGrant.Discovery.RevokedKeys
import TrustGrant.Verify.Rivals
import TrustGrant.Verify.RoundTrip
import TrustGrant.Verify.Reestablished
import TrustGrant.Verify.Rfc8785
import TrustGrant.Verify.ScopeEntries
import TrustGrant.Verify.Soundness
import TrustGrant.Verify.AcceptanceTimes
import TrustGrant.Verify.Authenticity
import TrustGrant.Verify.BundleGrowth
import TrustGrant.Verify.DelegatedKeys
import TrustGrant.Verify.HonestChains
import TrustGrant.Verify.Postures
import TrustGrant.Verify.RearrangedTexts
import TrustGrant.Verify.StoredText
import TrustGrant.Verify.WrittenDocuments
import TrustGrant.Issue.Agreement
import TrustGrant.Issue.Publication
import TrustGrant.Verify.PublishedDocuments
import TrustGrant.Evaluate.StoredContext
import TrustGrant.Evaluate.AuthorityRequests
import TrustGrant.Domain.Utf16Borrow
import TrustGrant.Domain.ExpressionText
import TrustGrant.Verify.BundleLookups
