import CapabilityGuard.Identifiers
import CapabilityGuard.Key.Basic
import CapabilityGuard.Proofs.Octets.Hex

/-! Container ids and keys as hexadecimal text. Each has one rendering, and is read from it in
letters of either case. A key may have a marker in front, but only one. -/
namespace CapabilityGuard

namespace ContainerId

theorem ofHex_eq_ok_iff (text : String) (cid : ContainerId) :
    ofHex text = .ok cid ↔ Hex.Spells 32 text cid.hex := by
  refine Iff.trans ?_ (Hex.decode_eq_ok_iff cid.octets)
  unfold ofHex
  cases Hex.decode 16 text with
  | error cause => simp
  | ok octets => cases cid; simp

theorem ofHex_hex (cid : ContainerId) : ofHex cid.hex = .ok cid :=
  (ofHex_eq_ok_iff _ _).mpr (Hex.spells_render cid.octets)

theorem ofHex_eq_error_iff (text : String) (cause : Hex.Error) :
    ofHex text = .error cause ↔ Hex.Refused 16 text cause := by
  refine Iff.trans ?_ (Hex.decode_eq_error_iff cause)
  unfold ofHex
  cases Hex.decode 16 text <;> simp

theorem hex_injective : Function.Injective hex := by
  intro cid other same
  cases cid
  cases other
  exact congrArg mk (Hex.render_inj same)

end ContainerId

namespace Key

/-- What is left of the text when one marker in front is dropped, or all of it when it has none. -/
def Carries (text digits : String) : Prop :=
  text = "0x" ++ digits ∨ text = digits ∧ ∀ rest, text ≠ "0x" ++ rest

theorem eq_marked {text : String} {rest : List Char} (spelled : text.toList = '0' :: 'x' :: rest) :
    text = "0x" ++ String.ofList rest := by
  apply String.toList_inj.mp
  simp [spelled]

theorem carries_iff (text digits : String) : Carries text digits ↔ unmarked text = digits := by
  constructor
  · rintro (rfl | ⟨rfl, plain⟩)
    · simp [unmarked]
    · unfold unmarked
      split
      next rest spelled => exact absurd (eq_marked spelled) (plain _)
      next => rfl
  · rintro rfl
    unfold unmarked
    split
    next rest spelled => exact .inl (eq_marked spelled)
    next plain =>
      refine .inr ⟨rfl, ?_⟩
      rintro rest rfl
      exact plain rest.toList (by simp)

theorem ofHex_eq_ok_iff (text : String) (key : Key) :
    ofHex text = .ok key ↔ ∃ digits, Carries text digits ∧ Hex.Spells 64 digits key.hex := by
  have decoded : ofHex text = .ok key ↔ Hex.decode 32 (unmarked text) = .ok key.octets := by
    unfold ofHex
    cases Hex.decode 32 (unmarked text) with
    | error cause => simp
    | ok octets => cases key; simp
  rw [decoded, Hex.decode_eq_ok_iff]
  simp only [carries_iff, exists_eq_left']
  rfl

theorem ofHex_of_carries {text digits : String} (carries : Carries text digits)
    (unread : ∀ rendering, ¬ Hex.Spells 64 digits rendering) : ofHex text = .error .invalidHex := by
  obtain rfl := (carries_iff text digits).mp carries
  unfold ofHex
  cases decoded : Hex.decode 32 (unmarked text) with
  | error cause => rfl
  | ok octets => exact absurd ((Hex.decode_eq_ok_iff octets).mp decoded) (unread _)

theorem carries_of_digits {text : String} (digits : ∀ c ∈ text.toList, Digit.IsHex c) :
    Carries text text := by
  refine .inr ⟨rfl, ?_⟩
  rintro rest rfl
  have digit : Digit.IsHex 'x' := digits 'x' (by simp)
  exact absurd digit (by decide)

theorem ofHex_hex (key : Key) : ofHex key.hex = .ok key ∧ ofHex ("0x" ++ key.hex) = .ok key := by
  have spells : Hex.Spells 64 key.hex key.hex := Hex.spells_render key.octets
  constructor
  · exact (ofHex_eq_ok_iff _ _).mpr ⟨_, carries_of_digits spells.digits, spells⟩
  · exact (ofHex_eq_ok_iff _ _).mpr ⟨_, .inl rfl, spells⟩

theorem hex_injective : Function.Injective hex := by
  intro key other same
  cases key
  cases other
  exact congrArg mk (Hex.render_inj same)

end Key

/-- An id is read from exactly 32 digits, and a key from exactly 64 with one marker in front or
none. In small letters these are its rendering, which writes the number of its bytes in base
sixteen. Everything else is refused. -/
theorem hex_exact :
    (∀ text cid, ContainerId.ofHex text = .ok cid ↔ Hex.Spells 32 text cid.hex) ∧
    (∀ text cause, ContainerId.ofHex text = .error cause ↔ Hex.Refused 16 text cause) ∧
    (∀ text key, Key.ofHex text = .ok key ↔
      ∃ digits, Key.Carries text digits ∧ Hex.Spells 64 digits key.hex) ∧
    (∀ cid : ContainerId, ContainerId.ofHex cid.hex = .ok cid) ∧
    (∀ key : Key, Key.ofHex key.hex = .ok key ∧ Key.ofHex ("0x" ++ key.hex) = .ok key) ∧
    Function.Injective ContainerId.hex ∧ Function.Injective Key.hex ∧
    (∀ bytes, Digit.numeral 16 (Hex.render bytes).toList = BigEndian.toNat bytes) ∧
    (∀ text, Hex.Unfit 32 text → ∃ cause, ContainerId.ofHex text = .error cause) ∧
    (∀ text digits, Key.Carries text digits → Hex.Unfit 64 digits →
      Key.ofHex text = .error .invalidHex) ∧
    ∀ rest, Key.ofHex ("0x0x" ++ rest) = .error .invalidHex := by
  refine ⟨ContainerId.ofHex_eq_ok_iff, ContainerId.ofHex_eq_error_iff, Key.ofHex_eq_ok_iff,
    ContainerId.ofHex_hex, Key.ofHex_hex, ContainerId.hex_injective, Key.hex_injective,
    Hex.numeral_render, ?_, ?_, ?_⟩
  · intro text unfit
    cases read : ContainerId.ofHex text with
    | error cause => exact ⟨cause, rfl⟩
    | ok cid =>
      have spells := (ContainerId.ofHex_eq_ok_iff text cid).mp read
      exact absurd unfit (spells.not_unfit (by decide))
  · intro text digits carries unfit
    exact Key.ofHex_of_carries carries fun rendering spells =>
      spells.not_unfit (by decide) unfit
  · intro rest
    have carries : Key.Carries ("0x0x" ++ rest) ("0x" ++ rest) := by
      refine .inl (String.toList_inj.mp ?_)
      simp
    refine Key.ofHex_of_carries carries fun rendering spells => ?_
    have digit : Digit.IsHex 'x' := spells.digits 'x' (by simp)
    exact absurd digit (by decide)

/-- Thirty digits and a letter of two bytes, and a key that is that letter behind a marker. -/
theorem hex_exact_accented :
    Hex.Unfit 32 "0123456789abcdef0123456789ABCDé" ∧
    (∃ cause, ContainerId.ofHex "0123456789abcdef0123456789ABCDé" = .error cause) ∧
    ContainerId.ofHex "0123456789abcdef0123456789ABCDé" = .error (.invalidCharacter 195 30) ∧
    Key.Carries "0xé" "é" ∧ Hex.Unfit 64 "é" ∧ Key.ofHex "0xé" = .error .invalidHex := by
  obtain ⟨_, refused, _, _, _, _, _, _, unfit, unfit', _⟩ := hex_exact
  have wide : Hex.Unfit 32 "0123456789abcdef0123456789ABCDé" :=
    .inr (.inr (.inr ⟨'é', by simp, by decide⟩))
  have short : Hex.Unfit 64 "é" := .inr (.inl (by decide))
  have carries : Key.Carries "0xé" "é" := .inl (by decide)
  refine ⟨wide, unfit _ wide, (refused _ _).mpr ?_, carries, short, unfit' _ _ carries short⟩
  exact .strange (by decide) (.first "0123456789abcdef0123456789ABCD".toUTF8.data.toList [169]
    (by decide +kernel) (by decide +kernel) (by decide))

end CapabilityGuard
