import Mathlib.Data.List.Prime
import Mathlib.NumberTheory.LucasPrimality
import MoveWallet.Curve.Secp256k1
import MoveWallet.Proofs.Curve.Modular

/-! # The modulus and the order are primes

A number is prime if some base has the full order modulo the number, which Lucas's test reads off
the factors of its predecessor. The factors are small, or have certificates of their own.
-/

namespace MoveWallet.Modular

/-- Whether no number from `divisor` on up to the root divides a number, tried in order. -/
def hasNoDivisor (n : Nat) : (attempts divisor : Nat) → Bool
  | 0, _ => false
  | attempts + 1, divisor =>
    n < divisor * divisor || (n % divisor ≠ 0 && hasNoDivisor n attempts (divisor + 1))

/-- Whether trial division shows a number below `2 ^ 24` to be a prime. -/
def isSmallPrime (n : Nat) : Bool := 2 ≤ n && hasNoDivisor n 4096 2

/-- A reason why a number is a prime: a base of full order, and the prime factors of the number's
predecessor with their exponents. -/
structure Certificate where
  number : Nat
  base : Nat
  factors : List (Nat × Nat)

/-- Lucas's test, with the factors that are known to be primes. -/
def Certificate.isValid (known : List Nat) (certificate : Certificate) : Bool :=
  let number := certificate.number
  2 ≤ number &&
    (certificate.factors.map fun factor => factor.1 ^ factor.2).prod = number - 1 &&
    power number certificate.base (number - 1) = 1 &&
    certificate.factors.all fun factor =>
      (known.contains factor.1 || isSmallPrime factor.1) &&
        power number certificate.base ((number - 1) / factor.1) ≠ 1

/-- Whether all certificates are valid, each with the help of the earlier ones. -/
def areValid : (known : List Nat) → List Certificate → Bool
  | _, [] => true
  | known, certificate :: others =>
    certificate.isValid known && areValid (certificate.number :: known) others

private theorem not_dvd_of_hasNoDivisor {n attempts divisor : Nat}
    (tried : hasNoDivisor n attempts divisor)
    {m : Nat} (start : divisor ≤ m) (upTo : m * m ≤ n) : ¬m ∣ n := by
  induction attempts generalizing divisor with
  | zero => cases tried
  | succ attempts ih =>
    rw [hasNoDivisor, Bool.or_eq_true, Bool.and_eq_true, decide_eq_true_eq, decide_eq_true_eq]
      at tried
    rcases tried with beyond | ⟨indivisible, rest⟩
    · have := Nat.mul_self_le_mul_self start
      omega
    · obtain rfl | later := start.eq_or_lt
      · exact fun divides => indivisible (Nat.mod_eq_zero_of_dvd divides)
      · exact ih rest later

private theorem prime_of_isSmallPrime {n : Nat} (small : isSmallPrime n) : n.Prime := by
  rw [isSmallPrime, Bool.and_eq_true, decide_eq_true_eq] at small
  refine Nat.prime_def_le_sqrt.mpr ⟨small.1, fun m two root => ?_⟩
  exact not_dvd_of_hasNoDivisor small.2 two (Nat.le_sqrt.mp root)

private theorem power_eq_one_iff {m : Nat} (large : 2 ≤ m) (base exponent : Nat) :
    power m base exponent = 1 ↔ (base : ZMod m) ^ exponent = 1 := by
  have reduced : power m base exponent < m := by
    rw [power_eq]
    exact Nat.mod_lt _ (by omega)
  rw [← cast_inj reduced large, cast_power, Nat.cast_one]

private theorem Certificate.prime_of_isValid {known : List Nat} {certificate : Certificate}
    (primes : ∀ q ∈ known, q.Prime) (valid : certificate.isValid known) :
    certificate.number.Prime := by
  simp only [isValid, Bool.and_eq_true, Bool.or_eq_true, decide_eq_true_eq, List.all_eq_true,
    List.contains_iff_mem] at valid
  obtain ⟨⟨⟨large, product⟩, whole⟩, parts⟩ := valid
  refine lucas_primality _ (certificate.base : ZMod certificate.number)
    ((power_eq_one_iff large _ _).mp whole) fun q prime divides => ?_
  -- A prime factor of the product is one of the factors that are listed.
  rw [← product] at divides
  obtain ⟨_, listed, divides⟩ := (Prime.dvd_prod_iff prime.prime).mp divides
  obtain ⟨factor, member, rfl⟩ := List.mem_map.mp listed
  obtain ⟨certified, proper⟩ := parts factor member
  have factorPrime : factor.1.Prime := certified.elim (primes _) prime_of_isSmallPrime
  obtain rfl : q = factor.1 :=
    (Nat.prime_dvd_prime_iff_eq prime factorPrime).mp (prime.dvd_of_dvd_pow divides)
  exact fun one => proper ((power_eq_one_iff large _ _).mpr one)

private theorem prime_of_areValid {known : List Nat} {certificates : List Certificate}
    (primes : ∀ q ∈ known, q.Prime) (valid : areValid known certificates) :
    ∀ certificate ∈ certificates, certificate.number.Prime := by
  induction certificates generalizing known with
  | nil => exact List.forall_mem_nil _
  | cons certificate others ih =>
    rw [areValid, Bool.and_eq_true] at valid
    have prime := certificate.prime_of_isValid primes valid.1
    exact List.forall_mem_cons.mpr ⟨prime, ih (List.forall_mem_cons.mpr ⟨prime, primes⟩) valid.2⟩

end MoveWallet.Modular

namespace MoveWallet.Secp256k1

open MoveWallet.Modular

/-- The certificates of the modulus, of the order and of their larger factors. -/
def certificates : List Certificate :=
  [⟨173378833005251801, 6, [(2, 3), (5, 2), (2621, 1), (24809, 1), (13331831, 1)]⟩,
    ⟨22149492674086928081353, 5, [(2, 3), (3, 1), (5323, 1), (173378833005251801, 1)]⟩,
    ⟨132896956044521568488119, 6, [(2, 1), (3, 1), (22149492674086928081353, 1)]⟩,
    ⟨107590001, 3, [(2, 4), (5, 4), (7, 1), (29, 1), (53, 1)]⟩,
    ⟨255515944373312847190720520512484175977, 3, [(2, 3), (7, 2), (11, 1), (1627, 1), (2657, 1),
      (4423, 1), (41201, 1), (96557, 1), (7240687, 1), (107590001, 1)]⟩,
    ⟨205115282021455665897114700593932402728804164701536103180137503955397371, 10,
      [(2, 1), (3, 1), (5, 1), (29, 2), (31, 1), (7723, 1), (132896956044521568488119, 1),
        (255515944373312847190720520512484175977, 1)]⟩,
    ⟨prime, 3, [(2, 1), (3, 1), (7, 1), (13441, 1),
      (205115282021455665897114700593932402728804164701536103180137503955397371, 1)]⟩,
    ⟨107361793816595537, 3, [(2, 4), (16699, 1), (85831, 1), (4681609, 1)]⟩,
    ⟨44706919, 6, [(2, 1), (3, 1), (797, 1), (9349, 1)]⟩,
    ⟨174723607534414371449, 3, [(2, 3), (17, 1), (59, 1), (4051, 1), (120233, 1), (44706919, 1)]⟩,
    ⟨545358713, 5, [(2, 3), (41, 1), (59, 1), (28181, 1)]⟩,
    ⟨297159362677, 2, [(2, 2), (3, 2), (11, 1), (461, 1), (1627771, 1)]⟩,
    ⟨29047611873442575647497758179, 2, [(2, 1), (293, 1), (305873, 1), (545358713, 1),
      (297159362677, 1)]⟩,
    ⟨341948486974166000522343609283189, 2, [(2, 2), (3, 3), (109, 1),
      (29047611873442575647497758179, 1)]⟩,
    ⟨groupOrder, 7, [(2, 6), (3, 1), (149, 1), (631, 1), (107361793816595537, 1),
      (174723607534414371449, 1), (341948486974166000522343609283189, 1)]⟩]

private theorem areValid_certificates : areValid [] certificates := by
  decide +kernel

private theorem certificates_prime : ∀ certificate ∈ certificates, certificate.number.Prime :=
  prime_of_areValid (List.forall_mem_nil _) areValid_certificates

theorem prime_prime : prime.Prime :=
  certificates_prime (certificates[6]) (List.getElem_mem _)

theorem groupOrder_prime : groupOrder.Prime :=
  certificates_prime (certificates[14]) (List.getElem_mem _)

instance : Fact prime.Prime := ⟨prime_prime⟩

end MoveWallet.Secp256k1
