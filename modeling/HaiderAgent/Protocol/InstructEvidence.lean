import HaiderAgent.Protocol.Loom.Compile

/-!
# Evidence rows of an instruct pipe

`InstructEvidenceRef` of `haider-protocol/src/pipe.rs`: a content address with its declared type,
its length and the addresses it was made from, bound together by a digest. The digest itself is a
parameter.
-/

namespace HaiderAgent

open ExceptFold (ensure)

/-- `INSTRUCT_EVIDENCE_VERSION` (pipe.rs). -/
def instructEvidenceVersion : Nat := 1

/-- `INSTRUCT_EVIDENCE_MAX_BYTES`. -/
def instructEvidenceMaxBytes : Nat := 1024 * 1024

/-- `INSTRUCT_EVIDENCE_MAX_PARENTS`. -/
def instructEvidenceMaxParents : Nat := 4096

/-- A typed artifact with its parents and their ledger digest. -/
structure InstructEvidenceRef where
  version : Nat
  artifact : ArtifactRef
  evidenceType : String
  byteLen : Nat
  parents : List ArtifactRef
  ledgerDigest : String
  deriving DecidableEq, Repr

/-- Why a reference is refused. -/
inductive InstructEvidenceError where
  | unsupportedVersion (version : Nat)
  | invalidType | invalidLength | invalidArtifact | tooManyParents | digestMismatch
  deriving DecidableEq, Repr

/-- The `Display` of an evidence error. -/
def InstructEvidenceError.display : InstructEvidenceError → String
  | .unsupportedVersion version => "unsupported InstructPipe evidence version " ++ version.repr
  | .invalidType => "invalid InstructPipe evidence type"
  | .invalidLength => "invalid InstructPipe evidence length"
  | .invalidArtifact => "invalid InstructPipe artifact address"
  | .tooManyParents => "InstructPipe evidence has too many parents"
  | .digestMismatch => "InstructPipe evidence ledger digest does not match"

/-- `instruct_evidence_ledger_digest`, of the address, the type, the length and the parents. -/
abbrev EvidenceDigest := ArtifactRef → String → Nat → List ArtifactRef → String

/-- A lower-case hexadecimal digit. -/
def isLowerHex (c : Char) : Bool := ('0' ≤ c && c ≤ '9') || ('a' ≤ c && c ≤ 'f')

/-- `valid_artifact_ref`: `blake3:` and 64 digits. -/
def validArtifactRef (artifact : ArtifactRef) : Bool :=
  (Text.stripLead "blake3:".toList artifact.toList).any fun digest =>
    digest.length == 64 && digest.all isLowerHex

namespace InstructEvidenceRef

/-- `InstructEvidenceRef::new`, which seals the reference with its digest. -/
def new (digest : EvidenceDigest) (artifact : ArtifactRef) (evidenceType : String) (byteLen : Nat)
    (parents : List ArtifactRef) : InstructEvidenceRef :=
  { version := instructEvidenceVersion
    artifact := artifact
    evidenceType := evidenceType
    byteLen := byteLen
    parents := parents
    ledgerDigest := digest artifact evidenceType byteLen parents }

/-- `InstructEvidenceRef::validate`. -/
def validate (digest : EvidenceDigest) (evidence : InstructEvidenceRef) :
    Except InstructEvidenceError Unit := do
  ensure (evidence.version == instructEvidenceVersion) (.unsupportedVersion evidence.version)
  ensure (validTypeExpr evidence.evidenceType) .invalidType
  ensure (evidence.byteLen != 0 && decide (evidence.byteLen ≤ instructEvidenceMaxBytes))
    .invalidLength
  ensure (decide (evidence.parents.length ≤ instructEvidenceMaxParents)) .tooManyParents
  ensure (validArtifactRef evidence.artifact && evidence.parents.all validArtifactRef)
    .invalidArtifact
  ensure (evidence.ledgerDigest ==
      digest evidence.artifact evidence.evidenceType evidence.byteLen evidence.parents)
    .digestMismatch

end InstructEvidenceRef

end HaiderAgent
