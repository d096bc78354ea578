import Zcaprio.Framework.Digits
import Zcaprio.Framework.Calendar
import Zcaprio.Framework.Formula
import Zcaprio.Framework.Trace
import Zcaprio.Framework.Machine
import Zcaprio.Framework.Collision
import Zcaprio.Native.Encoding
import Zcaprio.Native.Age
import Zcaprio.Native.Claim
import Zcaprio.Native.Policy
import Zcaprio.Native.Commitment
import Zcaprio.Native.Issuer
import Zcaprio.Native.Credential
import Zcaprio.Native.Proof
import Zcaprio.Circuit.Gadget
import Zcaprio.Circuit.Signature
import Zcaprio.Circuit.Commitment
import Zcaprio.Circuit.Template
import Zcaprio.Circuit.Backend
import Zcaprio.Metatheory.Gadgets
import Zcaprio.Metatheory.Signature
import Zcaprio.Metatheory.Credential
import Zcaprio.Metatheory.Cutoff
import Zcaprio.Metatheory.Claims
import Zcaprio.Metatheory.Template
import Zcaprio.Instances.Reference
import Zcaprio.Metatheory.Plans
import Zcaprio.Metatheory.Honest
import Zcaprio.Metatheory.Shape
import Zcaprio.Metatheory.Backend
import Zcaprio.Metatheory.Openings
import Zcaprio.Properties.Soundness
import Zcaprio.Properties.Outcome
import Zcaprio.Properties.Disjunction
import Zcaprio.Properties.Panics
import Zcaprio.Properties.Uniformity
import Zcaprio.Properties.Agreement
import Zcaprio.Properties.Issuance
import Zcaprio.Properties.Binding
import Zcaprio.Properties.Artifacts
import Zcaprio.Properties.AgePolicy
import Zcaprio.Properties.Matching
import Zcaprio.Properties.WireValues
import Zcaprio.Properties.Scopes
import Zcaprio.Properties.BirthDays
import Zcaprio.Properties.Preimages
import Zcaprio.Properties.AgeThresholds
import Zcaprio.Properties.Eligibility
import Zcaprio.Properties.IdentityKey
import Zcaprio.Properties.Requests
import Zcaprio.Properties.Composition
import Zcaprio.Properties.CredentialHash
import Zcaprio.Properties.Setup
import Zcaprio.Properties.Signing
import Zcaprio.Properties.ClaimTexts
import Zcaprio.Properties.WireObjects
import Zcaprio.Protocol.World
import Zcaprio.Protocol.Refinement
import Zcaprio.Protocol.Certification
import Zcaprio.Protocol.Completeness
import Zcaprio.Protocol.Privacy
import Zcaprio.Protocol.Aborts
