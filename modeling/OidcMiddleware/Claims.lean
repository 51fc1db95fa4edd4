import OidcMiddleware.Go

/-!
# Required claims

`isRequiredClaimsValid` walks the required claims in the order the runtime picks and stops
at the first one the token lacks or whose value the matcher rejects. It accepts exactly
when every required claim is present with an accepted value (`isRequiredClaimsValid_spec`),
so its verdict depends neither on that order nor on the token's other claims. The error of
a rejection is that of the first failing claim in the order visited
(`isRequiredClaimsValid_eq_error`).
-/

namespace OidcMiddleware

/-- The claims matcher the loop calls: `getCtyValues` converts a required and a received
claim value to `cty` values, and `isCtyValueValid` compares them. -/
structure Cty (V C : Type) where
  getCtyValues : V → V → Except Error (C × C)
  isCtyValueValid : C → C → Except Error Unit

section
variable {V C : Type} (cty : Cty V C)

def checkRequiredClaim (tokenClaims : GoMap V) : String × V → Except Error Unit
  | (requiredKey, requiredValue) =>
    match tokenClaims.lookup requiredKey with
    | none => .error (.errorf "token does not have the claim: %s" [.str requiredKey])
    | some tokenValue =>
      match cty.getCtyValues requiredValue tokenValue with
      | .error err => .error err
      | .ok (required, received) =>
        match cty.isCtyValueValid required received with
        | .error err => .error (.wrapf "claim %q not valid: %w" [.str requiredKey] err)
        | .ok () => .ok ()

def isRequiredClaimsValid (order : RangeOrder V) (requiredClaims tokenClaims : GoMap V) :
    Except Error Unit :=
  (order.visit requiredClaims).forM (checkRequiredClaim cty tokenClaims)

/-- The required claim `k` with value `v` is present among `tokenClaims`, with a value the
matcher accepts. -/
def ClaimAccepted (tokenClaims : GoMap V) (k : String) (v : V) : Prop :=
  ∃ tokenValue, tokenClaims.lookup k = some tokenValue ∧
    ∃ required received, cty.getCtyValues v tokenValue = .ok (required, received) ∧
      cty.isCtyValueValid required received = .ok ()

/-- The loop's error `e` for the required claim `k`: absent, or its value rejected by the
converter (passed on) or by the matcher (wrapped with its name). -/
def ClaimRejected (tokenClaims : GoMap V) (k : String) (v : V) (e : Error) : Prop :=
  tokenClaims.lookup k = none ∧ e = .errorf "token does not have the claim: %s" [.str k] ∨
  ∃ tokenValue, tokenClaims.lookup k = some tokenValue ∧
    (cty.getCtyValues v tokenValue = .error e ∨
      ∃ required received err, cty.getCtyValues v tokenValue = .ok (required, received) ∧
        cty.isCtyValueValid required received = .error err ∧ e = .wrapf "claim %q not valid: %w" [.str k] err)

theorem checkRequiredClaim_eq_ok (tokenClaims : GoMap V) (k : String) (v : V) :
    checkRequiredClaim cty tokenClaims (k, v) = .ok () ↔ ClaimAccepted cty tokenClaims k v := by
  simp only [checkRequiredClaim, ClaimAccepted]
  split
  · simp_all
  · split
    · simp_all
    · split <;> simp_all [and_assoc]

theorem checkRequiredClaim_eq_error (tokenClaims : GoMap V) (k : String) (v : V) (e : Error) :
    checkRequiredClaim cty tokenClaims (k, v) = .error e ↔ ClaimRejected cty tokenClaims k v e := by
  simp only [checkRequiredClaim, ClaimRejected]
  rcases hk : tokenClaims.lookup k with _ | tokenValue
  · simp [@eq_comm _ e]
  rcases hg : cty.getCtyValues v tokenValue with err | ⟨required, received⟩
  · simp [hg]
  rcases hv : cty.isCtyValueValid required received with err | ⟨⟩ <;> simp [hg, hv, and_assoc, @eq_comm _ e]

theorem forM_except_eq_ok {α ε : Type} {f : α → Except ε Unit} :
    ∀ {l : List α}, l.forM f = .ok () ↔ ∀ x ∈ l, f x = .ok ()
  | [] => by simp; rfl
  | a :: l => by
    rw [List.forM_cons', List.forall_mem_cons, ← forM_except_eq_ok]
    cases f a <;> simp [bind, Except.bind]

theorem forM_except_eq_error {α ε : Type} {f : α → Except ε Unit} {e : ε} :
    ∀ {l : List α}, l.forM f = .error e ↔
      ∃ pre x post, l = pre ++ x :: post ∧ (∀ y ∈ pre, f y = .ok ()) ∧ f x = .error e
  | [] => by simp [pure, Except.pure]
  | a :: l => by
    rw [List.forM_cons']
    cases ha : f a with
    | error e' =>
      simp only [bind, Except.bind, Except.error.injEq]
      constructor
      · rintro rfl
        exact ⟨[], a, l, rfl, by simp, ha⟩
      · rintro ⟨_ | ⟨b, pre⟩, x, post, hl, hpre, hx⟩ <;>
          simp only [List.nil_append, List.cons_append, List.cons.injEq] at hl <;> obtain ⟨rfl, rfl⟩ := hl
        · exact Except.error.inj (ha.symm.trans hx)
        · cases ha.symm.trans (hpre a (List.mem_cons_self a pre))
    | ok u =>
      simp only [bind, Except.bind, forM_except_eq_error]
      constructor
      · rintro ⟨pre, x, post, rfl, hpre, hx⟩
        refine ⟨a :: pre, x, post, rfl, ?_, hx⟩
        simpa [ha] using hpre
      · rintro ⟨_ | ⟨b, pre⟩, x, post, hl, hpre, hx⟩ <;>
          simp only [List.nil_append, List.cons_append, List.cons.injEq] at hl <;> obtain ⟨rfl, rfl⟩ := hl
        · cases ha.symm.trans hx
        · exact ⟨pre, x, post, rfl, fun y hy => hpre y (List.mem_cons_of_mem a hy), hx⟩

theorem isRequiredClaimsValid_eq_ok (order : RangeOrder V) (requiredClaims tokenClaims : GoMap V) :
    isRequiredClaimsValid cty order requiredClaims tokenClaims = .ok () ↔
      ∀ k v, (k, v) ∈ requiredClaims.entries → ClaimAccepted cty tokenClaims k v := by
  simp only [isRequiredClaimsValid, forM_except_eq_ok, Prod.forall, RangeOrder.mem_visit,
    checkRequiredClaim_eq_ok]

theorem isRequiredClaimsValid_spec (order : RangeOrder V) (requiredClaims tokenClaims : GoMap V) :
    (isRequiredClaimsValid cty order requiredClaims tokenClaims = .ok () ↔
      ∀ k v, (k, v) ∈ requiredClaims.entries → ClaimAccepted cty tokenClaims k v) ∧
    (∀ order' : RangeOrder V, isRequiredClaimsValid cty order requiredClaims tokenClaims = .ok () ↔
      isRequiredClaimsValid cty order' requiredClaims tokenClaims = .ok ()) ∧
    (∀ tokenClaims' : GoMap V,
      (∀ k v, (k, v) ∈ requiredClaims.entries → tokenClaims'.lookup k = tokenClaims.lookup k) →
      isRequiredClaimsValid cty order requiredClaims tokenClaims = .ok () →
      isRequiredClaimsValid cty order requiredClaims tokenClaims' = .ok ()) := by
  refine ⟨isRequiredClaimsValid_eq_ok cty order requiredClaims tokenClaims,
    fun order' => by rw [isRequiredClaimsValid_eq_ok, isRequiredClaimsValid_eq_ok], ?_⟩
  intro tokenClaims' same h
  refine (isRequiredClaimsValid_eq_ok cty order requiredClaims tokenClaims').mpr fun k v hkv => ?_
  simpa only [ClaimAccepted, same k v hkv] using
    (isRequiredClaimsValid_eq_ok cty order requiredClaims tokenClaims).mp h k v hkv

theorem isRequiredClaimsValid_eq_error (order : RangeOrder V) (requiredClaims tokenClaims : GoMap V)
    (e : Error) :
    isRequiredClaimsValid cty order requiredClaims tokenClaims = .error e ↔
      ∃ pre k v post, order.visit requiredClaims = pre ++ (k, v) :: post ∧
        (∀ x ∈ pre, ClaimAccepted cty tokenClaims x.1 x.2) ∧ ClaimRejected cty tokenClaims k v e := by
  simp only [isRequiredClaimsValid, forM_except_eq_error]
  constructor
  · rintro ⟨pre, ⟨k, v⟩, post, hl, hpre, hx⟩
    exact ⟨pre, k, v, post, hl, fun x hx' => (checkRequiredClaim_eq_ok cty _ x.1 x.2).mp (hpre x hx'),
      (checkRequiredClaim_eq_error cty _ k v e).mp hx⟩
  · rintro ⟨pre, k, v, post, hl, hpre, hx⟩
    exact ⟨pre, (k, v), post, hl, fun x hx' => (checkRequiredClaim_eq_ok cty _ x.1 x.2).mpr (hpre x hx'),
      (checkRequiredClaim_eq_error cty _ k v e).mpr hx⟩

end

end OidcMiddleware
