/-
The explanation texts the registry returns with its decisions.
-/
import RdmaBuffer.Model.Records

namespace RdmaBuffer

def explainRegistration (reg : RegistrationRecord) : StdString :=
  lit "registration id=" ++ intToStr reg.id.value ++
    lit " buffer=" ++ intToStr reg.bufferId.value ++
    lit " buffer_generation=" ++ intToStr reg.bufferGeneration.value ++
    lit " registration_generation=" ++ intToStr reg.registrationGeneration.value ++
    lit " backend=" ++ intToStr reg.backend.value ++
    lit " domain=" ++ memoryDomainName reg.domain ++
    lit " lifecycle=" ++ lifecycleName reg.lifecycle ++
    lit " freshness=" ++ freshnessName reg.freshness ++
    lit " provenance=" ++ provenanceName reg.provenance ++
    lit " rights=0x" ++ toHex reg.grantedAccess.toUInt64 ++
    lit " remote_key_gen=" ++ intToStr reg.remoteKey.keyGeneration.value

def explainReuse (requested : BufferDescriptor) (candidate : RegistrationRecord) (reusable : Bool)
    (missReason : StdString) : StdString :=
  lit "reuse of buffer " ++ intToStr requested.id.value ++
    lit " generation " ++ intToStr requested.generation.value ++
    lit " against registration " ++ intToStr candidate.id.value ++ lit ": " ++
    if reusable then lit "REUSE_HIT" else lit "REUSE_MISS: " ++ missReason

def explainRevocation (reg : RegistrationRecord) (mode : RevocationMode) (keysInvalidated : Bool) : StdString :=
  lit "registration " ++ intToStr reg.id.value ++ lit " " ++ revocationModeName mode ++
    lit " revoke; lifecycle=" ++ lifecycleName reg.lifecycle ++
    lit " keys_invalidated=" ++ (if keysInvalidated then lit "true" else lit "false") ++
    lit " reason=" ++ reg.invalidationReason

end RdmaBuffer
