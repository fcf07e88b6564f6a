import Mathlib
import ApiGateway.Token.Authority
import ApiGateway.Proofs.JsonRoundTrip
import ApiGateway.Proofs.SettingsText

/-!
# Signed tokens read back

A token the authority signs is checked back to the very claims it carries, for every subject
id and role (control and non-ASCII characters included) and every issue and expiry moment
that is a signed 64-bit integer. What decides the answer is the expiry alone:

* a non-negative expiry not before the present moment gives the claims back;
* a non-negative expiry before it is an expired signature;
* a negative expiry is no readable expiry at all: the lenient reader of registered claims only
  reads a non-negative integer, so the token lacks its required `exp`.

The way there runs through every stage of checking: the dots split the token into its three
parts because base64url has no dot, the parts decode because base64url reads back what it
wrote, the header is the HS256 header, the signature is recomputed from the same signed part,
and the claims read back by `Proofs.JsonRoundTrip`.

Main statements:
* `verify_sign`: the outcome of checking a signed token, for every secret and moment.
* `TokenAuthority.verify_sign_iff`: the outcome for an authority that started, and the
  round trip of a token it issues.
-/

namespace ApiGateway.Text.Base64Url

/-- No character of the alphabet is a dot. -/
theorem digit_ne_dot (n : Nat) : digit n ≠ '.' := by
  by_cases h : n < 64
  · have hall : ∀ m : Fin 64, digit m.val ≠ '.' := by decide
    exact hall ⟨n, h⟩
  · unfold digit
    rw [if_neg (by omega), if_neg (by omega), if_neg (by omega), if_neg (by omega)]
    decide

/-- A written form holds no dot. -/
theorem dot_not_mem_encode (bs : List UInt8) : '.' ∉ (encode bs).toList := by
  rw [encode, String.toList_ofList]
  fun_induction encodeList bs with
  | case1 a b c rest n ih =>
    simp only [List.mem_cons, not_or]
    exact ⟨(digit_ne_dot _).symm, (digit_ne_dot _).symm, (digit_ne_dot _).symm,
      (digit_ne_dot _).symm, ih⟩
  | case2 a b n =>
    simp only [List.mem_cons, List.not_mem_nil, or_false, not_or]
    exact ⟨(digit_ne_dot _).symm, (digit_ne_dot _).symm, (digit_ne_dot _).symm⟩
  | case3 a =>
    simp only [List.mem_cons, List.not_mem_nil, or_false, not_or]
    exact ⟨(digit_ne_dot _).symm, (digit_ne_dot _).symm⟩
  | case4 => simp

/-- The written form of bytes reads back as the bytes. -/
theorem decode_encode_text (bs : List UInt8) : decode (encode bs) = some bs := by
  rw [decode, encode, String.toList_ofList, decode_encode]

end ApiGateway.Text.Base64Url

namespace ApiGateway.Token

open ApiGateway.Text ApiGateway.Json

/-- A text, a dot and a written form split at the last dot into the text and the written
form. -/
theorem splitLast_dot_encode (a : String) (bs : List UInt8) :
    splitLast '.' (a ++ "." ++ Base64Url.encode bs) = some (a, Base64Url.encode bs) := by
  have h := splitLast_of_toList '.' (s := a ++ "." ++ Base64Url.encode bs) (a := a.toList)
    (b := (Base64Url.encode bs).toList) (by simp) (Base64Url.dot_not_mem_encode bs)
  simpa using h

/-- The header every signed token carries reads as the HS256 header. -/
theorem header_hs256 :
    (read? Header.hs256Text.toUTF8.toList).bind Header.ofTree? = some ⟨some "JWT", .hs256⟩ := by
  decide +kernel

/-! ## Claims -/

/-- Both moments of the claims are signed 64-bit integers. -/
def Claims.Bounded (c : Claims) : Prop := IsInt64 c.issuedAt ∧ IsInt64 c.expiresAt

/-- The JSON value that written claims read as. -/
def Claims.tree (c : Claims) : Tree :=
  .object [(.text "sub_id", .string (.text c.subjectId)), (.text "role", .string (.text c.role)),
    (.text "iat", .number (.ofInt c.issuedAt)), (.text "exp", .number (.ofInt c.expiresAt))]

/-- Written claims read as the object of their four members. -/
theorem read?_render {c : Claims} (hc : c.Bounded) :
    read? c.render.toUTF8.toList = some c.tree := by
  -- stated on its own first: unified against the goal, the object's text would be unfolded
  have h := @read?_object [("sub_id", quote c.subjectId, .string (.text c.subjectId)),
    ("role", quote c.role, .string (.text c.role)),
    ("iat", int c.issuedAt, .number (.ofInt c.issuedAt)),
    ("exp", int c.expiresAt, .number (.ofInt c.expiresAt))] (List.cons_ne_nil _ _) (by
      simp only [List.mem_cons, List.not_mem_nil, or_false]
      rintro f (rfl | rfl | rfl | rfl)
      · exact readsAs_quote _
      · exact readsAs_quote _
      · exact readsAs_int hc.1
      · exact readsAs_int hc.2)
  exact h

/-- Claims whose times fit in 64 bits are read back from their JSON object. -/
theorem ofTree?_tree {c : Claims} (hc : c.Bounded) : Claims.ofTree? c.tree = some c := by
  simp [Claims.tree, Claims.ofTree?, knownFields, Claims.fieldNames, Claims.ofFields?, fieldValue,
    Tree.text?, int64?_ofInt hc.1, int64?_ofInt hc.2]

/-- How the lenient reader sees an integer expiry: only a non-negative one is readable. -/
def expiryOf (n : Int) : Presence Nat := if n < 0 then .unreadable else .parsed n.natAbs

/-- An integer expiry is seen by the lenient reader as `expiryOf` says. -/
theorem leniencyNat_ofInt (n : Int) :
    (Tree.number (.ofInt n)).leniencyNat = some (expiryOf n) := by
  unfold NumberForm.ofInt expiryOf
  split <;> rfl

/-- The registered claims of written claims: their expiry as the lenient reader sees it, and
no audience. -/
theorem registered_ofTree?_tree (c : Claims) :
    RegisteredClaims.ofTree? c.tree = some ⟨expiryOf c.expiresAt, .absent⟩ := by
  simp [Claims.tree, RegisteredClaims.ofTree?, knownFields, RegisteredClaims.fieldNames,
    RegisteredClaims.ofFields?, fieldValue, leniencyNat_ofInt]

/-! ## Checking a signed token -/

/-- Checking a token signed under a secret, with the same secret, answers by the expiry
alone: a negative expiry is missing, an expiry before `now` has passed, and otherwise the
claims come back. -/
theorem verify_sign (secret : List UInt8) (now : Nat) {c : Claims} (hc : c.Bounded) :
    verify secret now (sign secret c) =
      if c.expiresAt < 0 then .error (.missingRequiredClaim "exp")
      else if c.expiresAt < now then .error .expiredSignature
      else .ok c := by
  -- the signed part, and the token as that part with its signature
  let signed := Base64Url.encode Header.hs256Text.toUTF8.toList ++ "." ++
    Base64Url.encode c.render.toUTF8.toList
  have hsig : splitLast '.' (sign secret c) = some (signed, signature secret signed) :=
    splitLast_dot_encode _ _
  have hparts : splitLast '.' signed = some (Base64Url.encode Header.hs256Text.toUTF8.toList,
      Base64Url.encode c.render.toUTF8.toList) :=
    splitLast_dot_encode _ _
  simp only [verify, hsig, hparts, orFail, Base64Url.decode_encode_text, header_hs256,
    read?_render hc, ofTree?_tree hc, registered_ofTree?_tree, bind, Except.bind,
    bne_self_eq_false, Bool.false_eq_true, ↓reduceIte]
  -- what is left is the expiry check
  unfold expiryOf
  by_cases hneg : c.expiresAt < 0
  · rw [if_pos hneg, if_pos hneg]
    rfl
  · rw [if_neg hneg, if_neg hneg]
    dsimp only
    by_cases hexp : c.expiresAt < now
    · rw [if_pos (by omega), if_pos hexp]
      rfl
    · rw [if_neg (by omega), if_neg hexp]
      rfl

namespace TokenAuthority

/-- An authority that started keeps the configured secret and lifetime, and the lifetime is
between one hour and one leap year. -/
theorem new_eq_ok {s : Config.TokenSettings} {a : TokenAuthority} (ha : new s = .ok a) :
    a = ⟨s.secret, s.lifetimeHours⟩ ∧ 1 ≤ s.lifetimeHours ∧
      s.lifetimeHours ≤ Config.maxLifetimeHours := by
  unfold new at ha
  split at ha
  · cases ha
  · split at ha
    · cases ha
    · rename_i hrange
      cases ha
      simp only [Bool.not_eq_true', Bool.and_eq_false_iff, decide_eq_false_iff_not,
        Classical.not_not, not_or] at hrange
      exact ⟨rfl, by simpa using hrange⟩

/-- Checking a token the authority signed answers by the expiry alone, for all claims whose
moments are signed 64-bit integers and every moment `now`: the claims come back exactly when
the expiry is not before `now`, the signature has expired exactly when a non-negative expiry
is before `now`, and the expiry is missing exactly when it is negative. A token issued at `t`
checks back, at any moment up to its expiry, to the subject, the role, `t` and `t` plus the
lifetime in seconds. -/
theorem verify_sign_iff {s : Config.TokenSettings} {a : TokenAuthority} (ha : new s = .ok a) :
    (∀ (c : Claims) (now : Nat), c.Bounded →
      (a.verify now (a.sign c) = .ok c ↔ (now : Int) ≤ c.expiresAt) ∧
      (a.verify now (a.sign c) = .error .expiredSignature ↔
        0 ≤ c.expiresAt ∧ c.expiresAt < now) ∧
      (a.verify now (a.sign c) = .error (.missingRequiredClaim "exp") ↔ c.expiresAt < 0)) ∧
    ∀ (subjectId role : String) (t : Int) (now : Nat),
      -((maxI64 : Int) + 1) ≤ t → t + 3600 * s.lifetimeHours ≤ maxI64 →
      (now : Int) ≤ t + 3600 * s.lifetimeHours →
      a.verify now (a.create subjectId role t) =
        .ok ⟨subjectId, role, t, t + 3600 * s.lifetimeHours⟩ := by
  obtain ⟨rfl, hlow, -⟩ := new_eq_ok ha
  refine ⟨fun c now hc => ?_, fun subjectId role t now htlow hexphigh hnow => ?_⟩
  · rw [verify, sign, Token.verify_sign _ _ hc]
    by_cases hneg : c.expiresAt < 0
    · rw [if_pos hneg]
      exact ⟨⟨nofun, fun h => by omega⟩, ⟨nofun, fun h => by omega⟩,
        ⟨fun _ => hneg, fun _ => rfl⟩⟩
    · rw [if_neg hneg]
      by_cases hexp : c.expiresAt < now
      · rw [if_pos hexp]
        exact ⟨⟨nofun, fun h => by omega⟩, ⟨fun _ => ⟨by omega, hexp⟩, fun _ => rfl⟩,
          ⟨nofun, fun h => by omega⟩⟩
      · rw [if_neg hexp]
        exact ⟨⟨fun _ => by omega, fun _ => rfl⟩, ⟨nofun, fun h => by omega⟩,
          ⟨nofun, fun h => by omega⟩⟩
  · -- the issued claims are in range, and the expiry is not before `now`
    have hbounded : (issue ⟨s.secret, s.lifetimeHours⟩ subjectId role t).Bounded := by
      simp only [Claims.Bounded, IsInt64, issue]
      omega
    have hexp : (issue ⟨s.secret, s.lifetimeHours⟩ subjectId role t).expiresAt =
        t + 3600 * s.lifetimeHours := by
      simp only [issue]
      omega
    rw [create, verify, sign, Token.verify_sign _ _ hbounded, hexp, if_neg (by omega),
      if_neg (by omega)]
    simp only [issue, Except.ok.injEq, Claims.mk.injEq, true_and]
    omega

end TokenAuthority

/-- The token settings the gateway starts with when nothing else is configured. -/
def defaultTokenSettings : Config.TokenSettings := ⟨"gateway-test-secret", 72, []⟩

/-- With the default token settings the authority is built, verifies what it signs as long as
the expiry is not past, and accepts every token it creates until the lifetime runs out. -/
theorem verify_sign_iff_defaultSettings :
    TokenAuthority.new defaultTokenSettings = .ok ⟨"gateway-test-secret", 72⟩ ∧
    ((∀ (c : Claims) (now : Nat), c.Bounded →
      ((⟨"gateway-test-secret", 72⟩ : TokenAuthority).verify now
          ((⟨"gateway-test-secret", 72⟩ : TokenAuthority).sign c) = .ok c ↔
        (now : Int) ≤ c.expiresAt) ∧
      ((⟨"gateway-test-secret", 72⟩ : TokenAuthority).verify now
          ((⟨"gateway-test-secret", 72⟩ : TokenAuthority).sign c) = .error .expiredSignature ↔
        0 ≤ c.expiresAt ∧ c.expiresAt < now) ∧
      ((⟨"gateway-test-secret", 72⟩ : TokenAuthority).verify now
          ((⟨"gateway-test-secret", 72⟩ : TokenAuthority).sign c) =
          .error (.missingRequiredClaim "exp") ↔ c.expiresAt < 0)) ∧
    ∀ (subjectId role : String) (t : Int) (now : Nat),
      -((maxI64 : Int) + 1) ≤ t → t + 3600 * defaultTokenSettings.lifetimeHours ≤ maxI64 →
      (now : Int) ≤ t + 3600 * defaultTokenSettings.lifetimeHours →
      (⟨"gateway-test-secret", 72⟩ : TokenAuthority).verify now
          ((⟨"gateway-test-secret", 72⟩ : TokenAuthority).create subjectId role t) =
        .ok ⟨subjectId, role, t, t + 3600 * defaultTokenSettings.lifetimeHours⟩) := by
  have hnew : TokenAuthority.new defaultTokenSettings = .ok ⟨"gateway-test-secret", 72⟩ := by
    rfl
  exact ⟨hnew, TokenAuthority.verify_sign_iff hnew⟩

end ApiGateway.Token
