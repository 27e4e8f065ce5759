import Phantasma.Shared.Wire

/-!
# Checking a registration

What the relay checks of a registration before it is stored.
-/

namespace Phantasma

/-- An HTTP status the relay answers with. -/
inductive StatusCode where
  | badRequest
deriving DecidableEq

/-- `validate_registration`. -/
def validateRegistration (registration : PublicKeyRegistration) :
    Except (StatusCode × String) Unit := do
  if !isValidUsername registration.username then
    throw (.badRequest, "username must use only letters, numbers, '.', '-', or '_'")
  if !isValidEd25519PublicKeyText registration.identityPublicKey then
    throw (.badRequest, "public key must be a base64url Ed25519 public key")
  if !isValidX25519PublicKeyText registration.encryptionPublicKey then
    throw (.badRequest, "encryption public key must be a base64url X25519 public key")

/-- A registration is accepted when the checks hold of its three texts. -/
theorem validateRegistration_eq_ok {registration : PublicKeyRegistration} :
  validateRegistration registration = .ok ()
    ↔ isValidUsername registration.username
      ∧ isValidEd25519PublicKeyText registration.identityPublicKey
      ∧ isValidX25519PublicKeyText registration.encryptionPublicKey
  := by
  rw [validateRegistration]
  cases isValidUsername registration.username
  · simp [throw, throwThe, MonadExceptOf.throw, bind, Except.bind]
  cases isValidEd25519PublicKeyText registration.identityPublicKey
  · simp [throw, throwThe, MonadExceptOf.throw, bind, Except.bind]
  cases isValidX25519PublicKeyText registration.encryptionPublicKey
  · simp [throw, throwThe, MonadExceptOf.throw]
  · simp [pure, Except.pure]

end Phantasma
