import CapabilityGuard.Proofs.Message.Fields

/-! Tokens whose bytes were changed are refused, unless the code of one payload is also that of
another. Capabilities and credentials are laid out in the same way: the payload, and behind it the
code, which covers all of the payload. How codes are computed plays no part. -/
namespace CapabilityGuard

open Wire

/-- Two different payloads have the same code. -/
def Mac.Collides (scheme : Mac.Scheme) (key : Key) (first second : List UInt8) : Prop :=
  first ≠ second ∧ scheme key first = scheme key second

/-- Tokens that are a payload of `covered` bytes and the code of it, and every byte string of that
length is the spelling of one. -/
structure TokenKind (scheme : Mac.Scheme) (τ : Type) where
  format : Fixed τ
  covered : Nat
  payload : τ → List UInt8
  mac : τ → Mac
  verifies : Key → τ → Bool
  exact : format.Exact
  written : ∀ token, format.write token = payload token ++ (mac token).octets.toList
  length_payload : ∀ token, (payload token).length = covered
  spelled : ∀ bytes, bytes.length = covered + 32 → ∃ token, format.write token = bytes
  verifies_iff : ∀ key token, verifies key token = true ↔ mac token = scheme key (payload token)

theorem Octets.exists_split {m n : Nat} {bytes : List UInt8} (size : bytes.length = m + n) :
    ∃ (first : Octets m) (second : Octets n), first.toList ++ second.toList = bytes :=
  let whole : Octets (m + n) := ⟨bytes, size⟩
  ⟨whole.front, whole.back, congrArg Octets.toList whole.front_append_back⟩

def Capability.kind (scheme : Mac.Scheme) : TokenKind scheme Capability where
  format := format
  covered := 28
  payload cap := cap.data.payload.toList
  mac := mac
  verifies := verifiesWith scheme
  exact := format_exact
  written _ := rfl
  length_payload cap := cap.data.payload.length_toList
  spelled bytes size := by
    obtain ⟨payload, code, rfl⟩ := Octets.exists_split size
    refine ⟨⟨.ofPayload payload, ⟨code⟩⟩, ?_⟩
    exact congrArg (·.toList ++ code.toList) (CapabilityData.payload_ofPayload payload)
  verifies_iff key cap := decide_eq_true_iff

def Credential.kind (scheme : Mac.Scheme) : TokenKind scheme Credential where
  format := format
  covered := 32
  payload cred := cred.data.payload.toList
  mac := mac
  verifies := verifiesWith scheme
  exact := format_exact
  written _ := rfl
  length_payload cred := cred.data.payload.length_toList
  spelled bytes size := by
    obtain ⟨payload, code, rfl⟩ := Octets.exists_split size
    refine ⟨⟨.ofPayload payload, ⟨code⟩⟩, ?_⟩
    exact congrArg (·.toList ++ code.toList) (CredentialData.payload_ofPayload payload)
  verifies_iff key cred := decide_eq_true_iff

namespace TokenKind

variable {scheme : Mac.Scheme} {τ : Type} (kind : TokenKind scheme τ)

@[simp] theorem take_write (token : τ) :
    (kind.format.write token).take kind.covered = kind.payload token := by
  rw [kind.written, ← kind.length_payload token, List.take_left]

@[simp] theorem drop_write (token : τ) :
    (kind.format.write token).drop kind.covered = (kind.mac token).octets.toList := by
  rw [kind.written, ← kind.length_payload token, List.drop_left]

/-- The token verifies. Other bytes in its place spell another token. That one never verifies when
only bytes of the code are changed, and when those are kept only if the payloads collide. -/
structure Sealed (key : Key) (token : τ) : Prop where
  genuine : kind.verifies key token = true
  tampered : ∀ bytes, bytes.length = kind.covered + 32 → bytes ≠ kind.format.write token →
    ∃ other, kind.format.readAll bytes = .ok other ∧ other ≠ token ∧
      (bytes.take kind.covered = (kind.format.write token).take kind.covered →
        kind.verifies key other = false) ∧
      (bytes.drop kind.covered = (kind.format.write token).drop kind.covered →
        (kind.verifies key other = true ↔ Mac.Collides scheme key (bytes.take kind.covered)
          ((kind.format.write token).take kind.covered)))

variable {kind}

theorem sealed_of_verifies {key : Key} {token : τ} (genuine : kind.verifies key token = true) :
    kind.Sealed key token := by
  have code := (kind.verifies_iff key token).mp genuine
  refine ⟨genuine, fun bytes size differs => ?_⟩
  obtain ⟨other, rfl⟩ := kind.spelled bytes size
  have different (same : kind.payload other = kind.payload token) :
      kind.mac other ≠ kind.mac token := by
    intro same'
    exact differs (by rw [kind.written, kind.written, same, same'])
  simp only [take_write, drop_write]
  refine ⟨other, (kind.exact.readAll_eq_ok_iff _ _).mpr ⟨trivial, rfl⟩, ?_, ?_, ?_⟩
  · rintro rfl
    exact differs rfl
  · intro same
    rw [Bool.eq_false_iff, Ne, kind.verifies_iff, same, ← code]
    exact different same
  · intro same
    have same : kind.mac other = kind.mac token := congrArg Mac.mk (Octets.ext same)
    rw [kind.verifies_iff, same, code]
    constructor
    · exact fun equal => ⟨fun same' => different same' same, equal.symm⟩
    · exact fun collides => collides.2.symm

theorem collides_of_verifies {υ : Type} {kind' : TokenKind scheme υ}
    (lengths : kind.covered ≠ kind'.covered) {key : Key} {token : τ} {other : υ}
    (same : kind.mac token = kind'.mac other) (known : kind.verifies key token = true)
    (allowed : kind'.verifies key other = true) :
    Mac.Collides scheme key (kind.payload token) (kind'.payload other) := by
  have known := (kind.verifies_iff key token).mp known
  have allowed := (kind'.verifies_iff key other).mp allowed
  refine ⟨fun equal => lengths ?_, known.symm.trans (same.trans allowed)⟩
  rw [← kind.length_payload token, equal, kind'.length_payload]

end TokenKind

/-- Under any scheme, tokens that were issued verify and are sealed. A credential and a capability
with the same code verify together only if their payloads, which are not of one length, collide. -/
theorem tampering_detected_with (scheme : Mac.Scheme) (key : Key) :
    (∀ data, (Capability.kind scheme).Sealed key (.issueWith scheme key data)) ∧
    (∀ data, (Credential.kind scheme).Sealed key (.issueWith scheme key data)) ∧
    ∀ (cred : Credential) (cap : Capability), cred.mac = cap.mac →
      cred.verifiesWith scheme key = true → cap.verifiesWith scheme key = true →
        cred.data.payload.toList.length = 32 ∧ cap.data.payload.toList.length = 28 ∧
          Mac.Collides scheme key cred.data.payload.toList cap.data.payload.toList := by
  refine ⟨fun data => ?_, fun data => ?_, fun cred cap same known allowed => ?_⟩
  · exact TokenKind.sealed_of_verifies (decide_eq_true rfl)
  · exact TokenKind.sealed_of_verifies (decide_eq_true rfl)
  · have lengths : (Credential.kind scheme).covered ≠ (Capability.kind scheme).covered := by
      change 32 ≠ 28
      decide
    refine ⟨cred.data.payload.length_toList, cap.data.payload.length_toList, ?_⟩
    exact TokenKind.collides_of_verifies lengths same known allowed

/-- Tokens that were issued verify and are sealed. A credential and a capability with the same code
verify together only if their payloads, which are not of one length, collide. -/
theorem tampering_detected (key : Key) :
    (∀ data, (Capability.kind Mac.compute).Sealed key (.issue key data)) ∧
    (∀ data, (Credential.kind Mac.compute).Sealed key (.issue key data)) ∧
    ∀ (cred : Credential) (cap : Capability), cred.mac = cap.mac →
      cred.verifies key = true → cap.verifies key = true →
        cred.data.payload.toList.length = 32 ∧ cap.data.payload.toList.length = 28 ∧
          Mac.Collides Mac.compute key cred.data.payload.toList cap.data.payload.toList :=
  tampering_detected_with Mac.compute key

end CapabilityGuard
