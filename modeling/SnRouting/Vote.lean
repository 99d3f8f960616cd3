
/-!
# Votes

`vote.rs`: a `Vote` is a digest with a detached signature over the digest's serialisation. The
serialiser and the signature scheme (`maidsafe_utilities::serialisation`, `rust_sodium`) are
not under src/: `VoteOps` is what they compute.
-/

namespace SnRouting
set_option autoImplicit false

/-- What the serialiser and the signature scheme compute. -/
structure VoteOps (Digest SecretKey PublicKey Signature Bytes RoutingError : Type) where
  /-- `serialisation::serialise`, its error converted by `?`. -/
  serialise : Digest → Except RoutingError Bytes
  signDetached : Bytes → SecretKey → Signature
  verifyDetached : Signature → Bytes → PublicKey → Bool

/-- `Vote`. -/
structure Vote (Digest Signature : Type) where
  payload : Digest
  signature : Signature

namespace Vote
variable {Digest SecretKey PublicKey Signature Bytes RoutingError : Type}
  (ops : VoteOps Digest SecretKey PublicKey Signature Bytes RoutingError)

/-- `Vote::new`. -/
def new (secretKey : SecretKey) (payload : Digest) :
    Except RoutingError (Vote Digest Signature) :=
  match ops.serialise payload with
  | .error e => .error e
  | .ok data => .ok { payload, signature := ops.signDetached data secretKey }

/-- `Vote::validate_signature`. -/
def validateSignature (vote : Vote Digest Signature) (publicKey : PublicKey) : Bool :=
  match ops.serialise vote.payload with
  | .ok data => ops.verifyDetached vote.signature data publicKey
  | .error _ => false

end Vote

end SnRouting
