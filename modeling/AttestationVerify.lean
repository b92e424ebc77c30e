import AttestationVerify.CandidateErrors
import AttestationVerify.Discriminators
import AttestationVerify.ExtensionOrder
import AttestationVerify.GithubResponse
import AttestationVerify.LogOrder
import AttestationVerify.Metadata
import AttestationVerify.Rekor.EnvelopeHash
import AttestationVerify.Rekor.Note
import AttestationVerify.Rekor.Search
import AttestationVerify.Rekor.SetJson
import AttestationVerify.SctFraming
import AttestationVerify.TimeWindow
import AttestationVerify.TrustedRootProtojson
import AttestationVerify.Verdict
import AttestationVerify.CivilDays
import AttestationVerify.GlobLoop
import AttestationVerify.Pae
import AttestationVerify.SctSigningInput
import AttestationVerify.Pem
import AttestationVerify.OriginPolicy
import AttestationVerify.StringifiedIntegers
import AttestationVerify.Positional
import AttestationVerify.Rekor.StoredBody
import AttestationVerify.Rekor.Publication
import AttestationVerify.Rekor.Agreement
import AttestationVerify.StatementFormat
import AttestationVerify.JsonLines
import AttestationVerify.Issuance
import AttestationVerify.Relaxation
import AttestationVerify.Client.Options
import AttestationVerify.Client.Identity
import AttestationVerify.Client.Shape
import AttestationVerify.Client.Verdict
import AttestationVerify.Client.Example
