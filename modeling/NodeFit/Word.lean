import NodeFit.Text.Decimal

/-!
# NodeFit.Word

Results of arithmetic on signed numbers of a fixed width.

An operation on such numbers either refuses a result that has no form of the
width, or it wraps the result around.  A result that has a form of the width is
neither refused nor changed (`Overflow.settle_eq_self`).

Which of the two happens is a parameter (`Overflow`) wherever an operation does not look
at the width of its result, so that a theorem can speak of both at once.
-/

namespace NodeFit.Word

/-- A result, if it has a form of the given width. -/
def checked (bits : Nat) (i : Int) : Option Int :=
  if Text.fitsSigned bits i then some i else none

/-- The result of which only the lowest bits of the given width are kept. -/
def wrap (bits : Nat) (i : Int) : Int := (BitVec.ofInt bits i).toInt

/-- A result that is not refused is the number itself. -/
theorem checked_eq_some_iff {bits : Nat} {i j : Int} :
    checked bits i = some j ↔ Text.fitsSigned bits i = true ∧ i = j := by
  unfold checked
  split <;> simp_all

/-- Wrapping around leaves alone exactly the numbers that have a form of the width. -/
theorem wrap_eq_self_iff {bits : Nat} {i : Int} (h : 0 < bits) :
    wrap bits i = i ↔ Text.fitsSigned bits i = true := by
  obtain ⟨n, rfl⟩ := Nat.exists_eq_add_one_of_ne_zero (Nat.ne_of_gt h)
  have hpow : 2 ^ (n + 1) = 2 * Nat.pow 2 n := Nat.pow_succ'
  have hdvd : ((2 ^ (n + 1) : Nat) : Int) ∣ i - i := by
    rw [Int.sub_self]
    exact Int.dvd_zero _
  rw [wrap, BitVec.toInt_ofInt, Int.bmod_eq_iff (Nat.two_pow_pos _), Text.fitsSigned_iff,
    Nat.add_sub_cancel]
  constructor
  · intro h
    obtain ⟨lower, upper, -⟩ := h
    omega
  · intro h
    obtain ⟨lower, upper⟩ := h
    exact ⟨by omega, by omega, hdvd⟩

/-! ## Overflow -/

/-- What an operation makes of a result that has no form of the width. -/
inductive Overflow where
  /-- It stops. -/
  | refused
  /-- It goes on with the lowest bits. -/
  | wrapped
deriving DecidableEq, Repr

/-- The number that an operation goes on with. -/
def Overflow.settle (overflow : Overflow) (bits : Nat) (i : Int) : Option Int :=
  match overflow with
  | refused => checked bits i
  | wrapped => some (wrap bits i)

/-- A result that has a form of the width does not overflow. -/
theorem Overflow.settle_eq_self {overflow : Overflow} {bits : Nat} {i : Int} (h : 0 < bits)
    (fits : Text.fitsSigned bits i = true) : overflow.settle bits i = some i := by
  cases overflow with
  | refused => exact checked_eq_some_iff.2 ⟨fits, rfl⟩
  | wrapped => exact congrArg some ((wrap_eq_self_iff h).2 fits)

end NodeFit.Word
